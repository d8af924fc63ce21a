/-
  File:      SelfCamera/Handlers.lean
  Subject:   WHAT EACH FUNCTION OF view.cpp CAN DO TO THE STATE, stated once per function.

  The results about runs read these lemmas and unfold nothing below them.

  * `viewPause_on`, `viewPause_off`, `viewResume_on`, `viewResume_created` -- pause and resume, and
    `viewPause_mem`, `viewResume_mem` -- what they leave of the record;
  * `mycapture_encode`, `mycapture_noTime`, `captureIfRequested_quiet`, `captureIfRequested_capture`
    -- the capture;
  * `faceLandmark_state` -- the loop over the faces touches the state in its first round only;
  * `headGesture`, `mouthGesture` -- does this frame carry a gesture? -- and `landmarkIfRunning_eq`,
    every field after the face part of the sticker callback in terms of them;
  * `stickerButton_loaded`, `effectButton_eq` -- the two buttons;
  * `deliver_taken`, `deliver_idle` -- a frame.
-/
import SelfCamera.App

namespace SelfCamera

/-! ## 1. Pause and resume -/

theorem viewPause_on {s : ViewInfo} (h : s.camera.state = .preview) :
    viewPause s = { (s.invoke .stopFaceDetection).invoke .stopPreview with faces := [] } := by
  simp [viewPause, Camera.getState, h]

theorem viewPause_off {s : ViewInfo} (h : s.camera.state ≠ .preview) : viewPause s = s := by
  unfold viewPause Camera.getState
  cases hst : s.camera.state with
  | none => rfl
  | created => rfl
  | preview => exact absurd hst h

@[simp] theorem viewPause_toControls (s : ViewInfo) :
    (viewPause s).toControls = s.toControls := by
  by_cases h : s.camera.state = .preview
  · rw [viewPause_on h]
    rfl
  · rw [viewPause_off h]

/-- A list of calls, one after the other. -/
def ViewInfo.invokes (s : ViewInfo) (ks : List CameraCall) : ViewInfo := ks.foldl ViewInfo.invoke s

/-- What every call of a list keeps, the list keeps. -/
theorem invokes_keep {P : ViewInfo → Prop} (hstep : ∀ s k, P s → P (s.invoke k))
    {s : ViewInfo} (h : P s) (ks : List CameraCall) : P (s.invokes ks) := by
  induction ks generalizing s with
  | nil => exact h
  | cons k ks ih => exact ih (hstep s k h)

theorem invokes_camera (s : ViewInfo) (ks : List CameraCall) :
    (s.invokes ks).camera = ks.foldl Camera.invoke s.camera := by
  induction ks generalizing s with
  | nil => rfl
  | cons k ks ih => exact ih (s.invoke k)

/-- The callback `view_resume` installs. -/
def resumeCb (sticker : Int) : PreviewCb := if sticker ≠ 0 then .sticker else .filter

/-- The calls of a resume, in order. -/
def restartCalls (s : Controls) : List CameraCall :=
  [.unsetPreviewCb, .stopPreview, .startPreview, .stopPreview, .startPreview, .startFocusing] ++
    ((if s.flagFacerunning then [.startFaceDetection] else []) ++
      [.setPreviewCb (resumeCb s.sticker)])

/-- Which calls a resume makes is fixed by the flag and the selection, however they end. -/
theorem restartPreview_calls (s : ViewInfo) :
    restartPreview s = s.invokes (restartCalls s.toControls) := by
  by_cases hf : s.flagFacerunning = true <;> by_cases hs : s.sticker = 0 <;>
    simp [restartPreview, restartCalls, resumeCb, ViewInfo.invokes, hf, hs]

@[simp] theorem restartPreview_toControls (s : ViewInfo) :
    (restartPreview s).toControls = s.toControls := by
  rw [restartPreview_calls]
  exact invokes_keep (P := fun t => t.toControls = s.toControls) (fun _ _ h => h) rfl _

@[simp] theorem restartPreview_faces (s : ViewInfo) : (restartPreview s).faces = s.faces := by
  rw [restartPreview_calls]
  exact invokes_keep (P := fun t => t.faces = s.faces) (fun _ _ h => h) rfl _

theorem viewResume_none {s : ViewInfo} (h : s.camera.state = .none) :
    viewResume s = (s.note (.viewResume false s.camera), false) := by
  simp [viewResume, Camera.getState, h]

theorem viewResume_on {s : ViewInfo} (h : s.camera.state = .preview) :
    viewResume s = (s.note (.viewResume true s.camera), true) := by
  simp [viewResume, Camera.getState, h]

theorem viewResume_created {s : ViewInfo} (h : s.camera.state = .created) :
    viewResume s =
      ((restartPreview s).note (.viewResume true (restartPreview s).camera), true) := by
  simp [viewResume, Camera.getState, h]

@[simp] theorem viewResume_toControls (s : ViewInfo) :
    (viewResume s).1.toControls = s.toControls := by
  cases h : s.camera.state with
  | none => rw [viewResume_none h]; rfl
  | created => rw [viewResume_created h]; exact restartPreview_toControls s
  | preview => rw [viewResume_on h]; rfl

@[simp] theorem viewResume_faces (s : ViewInfo) : (viewResume s).1.faces = s.faces := by
  cases h : s.camera.state with
  | none => rw [viewResume_none h]; rfl
  | created => rw [viewResume_created h]; exact restartPreview_faces s
  | preview => rw [viewResume_on h]; rfl

/-- Of the record, a pause and a resume write the calls they make, and a resume how it ended. -/
theorem viewPause_mem {a : Action} (ha : ∀ k ok, a ≠ .camera k ok) (s : ViewInfo) :
    a ∈ (viewPause s).trace ↔ a ∈ s.trace := by
  by_cases hst : s.camera.state = .preview
  · rw [viewPause_on hst]
    simp [ha]
  · rw [viewPause_off hst]

theorem restartPreview_mem {a : Action} (ha : ∀ k ok, a ≠ .camera k ok) (s : ViewInfo) :
    a ∈ (restartPreview s).trace ↔ a ∈ s.trace := by
  rw [restartPreview_calls]
  refine invokes_keep (P := fun t => a ∈ t.trace ↔ a ∈ s.trace) (fun t k ht => ?_) Iff.rfl _
  rw [invoke_trace, List.mem_cons, ht]
  simp [ha]

theorem viewResume_mem {a : Action} (ha : ∀ k ok, a ≠ .camera k ok)
    (hr : ∀ b c, a ≠ .viewResume b c) (s : ViewInfo) :
    a ∈ (viewResume s).1.trace ↔ a ∈ s.trace := by
  cases hst : s.camera.state with
  | none => simp [viewResume_none hst, hr]
  | created => simp [viewResume_created hst, hr, restartPreview_mem ha]
  | preview => simp [viewResume_on hst, hr]

/-! ## 2. The capture -/

/-- What a capture needs from outside to come to its end: a local time, and an encoder that
    succeeds. -/
def FrameEnv.captureOk (env : FrameEnv) : Bool :=
  (env.localtimeR env.rawtime).isSome && env.encodeResult == 0

@[simp] theorem swapUv_header (frame : Frame) : (swapUv frame).header = frame.header := by
  unfold swapUv
  refine Loop.forLt_proj Frame.header ?_ frame
  intros
  rfl

@[simp] theorem swapUv_format (frame : Frame) : (swapUv frame).format = frame.format :=
  congrArg FrameHeader.format (swapUv_header frame)

theorem mainViewGetFilePath_some {env : FrameEnv} {tm : Tm}
    (h : env.localtimeR env.rawtime = some tm) (size : Nat) (s : ViewInfo) :
    mainViewGetFilePath env size s =
      (s.note (.localtime tm), Printf.snprintf size (fileName s.mediaContentFolder tm),
        (fileName s.mediaContentFolder tm).length) := by
  simp [mainViewGetFilePath, h]

theorem mainViewGetFilePath_none {env : FrameEnv} (h : env.localtimeR env.rawtime = none)
    (size : Nat) (s : ViewInfo) : mainViewGetFilePath env size s = (s, [], 0) := by
  simp [mainViewGetFilePath, h]

/-- A file name is never empty, so the number returned is 0 only without a local time. -/
theorem fileName_length_pos (folder : Option (List Char)) (tm : Tm) :
    (fileName folder tm).length ≠ 0 := by
  unfold fileName
  simp

/-- The path a capture writes to at the local time `tm`. -/
def capturePath (folder : Option (List Char)) (tm : Tm) : List Char :=
  Printf.snprintf pathMax (fileName folder tm)

/-- A capture with the camera not initialised does nothing. -/
theorem mycapture_disabled {s : ViewInfo} (h : s.cameraEnabled = false) (env : FrameEnv)
    (frame : Frame) : mainViewMycaptureCb env frame s = (s, frame) := by
  simp [mainViewMycaptureCb, h]

/-- No local time: the capture stops after the pause. -/
theorem mycapture_noTime {s : ViewInfo} {env : FrameEnv} {frame : Frame}
    (he : s.cameraEnabled = true) (hf : frame.format = .nv12)
    (ht : env.localtimeR env.rawtime = none) :
    mainViewMycaptureCb env frame s = (viewPause s, swapUv frame) := by
  simp [mainViewMycaptureCb, he, hf, mainViewGetFilePath_none ht]

/-- The encoder is called; when it fails the capture stops there, else it resumes. -/
theorem mycapture_encode {s : ViewInfo} {env : FrameEnv} {frame : Frame} {tm : Tm}
    (he : s.cameraEnabled = true) (hf : frame.format = .nv12)
    (ht : env.localtimeR env.rawtime = some tm) :
    mainViewMycaptureCb env frame s =
      let path := capturePath s.mediaContentFolder tm
      let s := ((viewPause s).note (.localtime tm)).note
        (.encodeJpeg (swapUv frame) path env.encodeResult)
      (if env.encodeResult = 0 then (viewResume (s.note (.thumbnailSet path))).1 else s,
        swapUv frame) := by
  have hpos := fileName_length_pos s.mediaContentFolder tm
  by_cases hr : env.encodeResult = 0 <;>
    simp [mainViewMycaptureCb, he, hf, mainViewGetFilePath_some ht, hpos, hr, capturePath]

@[simp] theorem mycapture_toControls (env : FrameEnv) (frame : Frame) (s : ViewInfo) :
    (mainViewMycaptureCb env frame s).1.toControls = s.toControls := by
  cases he : s.cameraEnabled with
  | false => rw [mycapture_disabled he]
  | true =>
    cases hf : frame.format with
    | other => simp [mainViewMycaptureCb, he, hf]
    | nv12 =>
      cases ht : env.localtimeR env.rawtime with
      | none => rw [mycapture_noTime he hf ht]; simp
      | some tm =>
        rw [mycapture_encode he hf ht]
        dsimp only
        split <;> simp

/-- Both callbacks end alike: without a request nothing happens. -/
theorem captureIfRequested_quiet {s : ViewInfo} (h : s.flagCapturing = false) (env : FrameEnv)
    (frame : Frame) : captureIfRequested env frame s = (s, frame) := by
  simp [captureIfRequested, h]

/-- A request is taken back, and the capture begins. -/
theorem captureIfRequested_capture {s : ViewInfo} (h : s.flagCapturing = true) (env : FrameEnv)
    (frame : Frame) :
    captureIfRequested env frame s =
      mainViewMycaptureCb env frame { s with flagCapturing := false } := by
  simp [captureIfRequested, h]

/-- Nothing of `Controls` but the request changes. -/
@[simp] theorem captureIfRequested_toControls (env : FrameEnv) (frame : Frame) (s : ViewInfo) :
    (captureIfRequested env frame s).1.toControls =
      { s.toControls with flagCapturing := false } := by
  cases h : s.flagCapturing with
  | false =>
    rw [captureIfRequested_quiet h, ← h]
  | true =>
    rw [captureIfRequested_capture h, mycapture_toControls]

/-- The frame that is displayed after a capture has its chroma pairs exchanged. -/
theorem mycapture_frame {s : ViewInfo} (he : s.cameraEnabled = true) (env : FrameEnv)
    (frame : Frame) : (mainViewMycaptureCb env frame s).2 = swapUv frame := by
  cases hf : frame.format with
  | other => simp [mainViewMycaptureCb, he, hf]
  | nv12 =>
    cases ht : env.localtimeR env.rawtime with
    | none => rw [mycapture_noTime he hf ht]
    | some tm => rw [mycapture_encode he hf ht]

theorem captureIfRequested_frame {s : ViewInfo} (he : s.cameraEnabled = true) (env : FrameEnv)
    (frame : Frame) :
    (captureIfRequested env frame s).2 = if s.flagCapturing then swapUv frame else frame := by
  cases h : s.flagCapturing with
  | false =>
    rw [captureIfRequested_quiet h]
    rfl
  | true =>
    rw [captureIfRequested_capture h]
    exact mycapture_frame (s := { s with flagCapturing := false }) he env frame

/-- A capture calls no `face_landmark`. -/
theorem mycapture_landmark (env : FrameEnv) {frame : Frame} (hf : frame.format = .nv12)
    (s : ViewInfo) (fs : List Rectangle) :
    .faceLandmark fs ∈ (mainViewMycaptureCb env frame s).1.trace ↔
      .faceLandmark fs ∈ s.trace := by
  have hpause : .faceLandmark fs ∈ (viewPause s).trace ↔ .faceLandmark fs ∈ s.trace :=
    viewPause_mem (by simp) s
  cases he : s.cameraEnabled with
  | false => rw [mycapture_disabled he]
  | true =>
    cases ht : env.localtimeR env.rawtime with
    | none =>
      rw [mycapture_noTime he hf ht]
      exact hpause
    | some tm =>
      rw [mycapture_encode he hf ht]
      dsimp only
      split
      · rw [viewResume_mem (by simp) (by simp)]
        simp [hpause]
      · simp [hpause]

theorem captureIfRequested_landmark (env : FrameEnv) {frame : Frame} (hf : frame.format = .nv12)
    (s : ViewInfo) (fs : List Rectangle) :
    .faceLandmark fs ∈ (captureIfRequested env frame s).1.trace ↔
      .faceLandmark fs ∈ s.trace := by
  cases hq : s.flagCapturing with
  | false => rw [captureIfRequested_quiet hq]
  | true =>
    rw [captureIfRequested_capture hq]
    exact mycapture_landmark env hf _ fs

/-! ## 3. Gestures -/

/-- The timer after one more processed frame. -/
def ticked (timer : Int) : Int := if timer - 1 < 0 then 8 else timer - 1

/-- `tick` moves the timer, nothing else. -/
theorem tick_eq (s : ViewInfo) : tick s = { s with timer := ticked s.timer } := by
  unfold tick ticked
  dsimp only
  split <;> rfl

/-- Does a head movement take this selection past `MAX_STICKER`? -/
def wraps (sticker : Int) : Bool := sticker + 2 > maxSticker

/-- The selection after a head movement. -/
def advanced (sticker : Int) : Int := if wraps sticker then 0 else sticker + 2

/-- A head movement always moves the selection. -/
theorem advanced_ne (sticker : Int) : advanced sticker ≠ sticker := by
  unfold advanced wraps maxSticker
  by_cases h : sticker + 2 > 10
  · rw [decide_eq_true h, if_pos rfl]
    omega
  · rw [decide_eq_false h, if_neg (by decide)]
    omega

/-- What a head movement writes: past `MAX_STICKER` the selection is cleared and the detection
    stopped. -/
theorem advanceSticker_eq (s : ViewInfo) :
    (advanceSticker s).toControls =
        { s.toControls with
          sticker := advanced s.sticker
          flagFacerunning := s.flagFacerunning && !wraps s.sticker } ∧
      (advanceSticker s).camera =
        (if wraps s.sticker then s.camera.invoke .stopFaceDetection else s.camera) ∧
      (advanceSticker s).faces = s.faces := by
  by_cases h : s.sticker + 2 > maxSticker <;> simp [advanceSticker, advanced, wraps, h]

/-- **What the gesture branch writes.** -/
theorem gesture_eq (shape : FullObjectDetection) (face : Rectangle) (s : ViewInfo) :
    let moved := s.timer == 8 && headMoved shape face s.toControls
    (gesture shape face s).toControls =
        { s.toControls with
          sticker := if moved then advanced s.sticker else s.sticker
          flagFacerunning := s.flagFacerunning && !(moved && wraps s.sticker)
          flagCapturing := s.flagCapturing || (s.timer == 8 && mouthOpen shape face)
          nose := ((shape.part 33).x, (shape.part 33).y) } ∧
      (gesture shape face s).camera =
        (if moved && wraps s.sticker then s.camera.invoke .stopFaceDetection else s.camera) ∧
      (gesture shape face s).faces = s.faces := by
  obtain ⟨hc, hcam, hfaces⟩ := advanceSticker_eq s
  by_cases ht : s.timer = 8
  · cases hm : headMoved shape face s.toControls <;> cases ho : mouthOpen shape face <;>
      simp [gesture, ht, hm, ho, hc, hcam, hfaces]
  · simp [gesture, ht]

/-- The first face of the list, as `face_landmark` reads it. -/
def firstFace (s : ViewInfo) : Rectangle := s.faces.getD 0 ⟨0, 0, 0, 0⟩

/-- Its landmarks on this frame. -/
def firstShape (sp : ShapePredictor) (frame : Frame) (s : ViewInfo) : FullObjectDetection :=
  sp (rotateImage frame) (firstFace s)

/-- A round after the first one draws only. -/
theorem landmarkRound_later (sp : ShapePredictor) (img : Array2d) {i : Int} (hi : i ≠ 0)
    (r : ViewInfo × Frame) : (landmarkRound sp img i r).1 = r.1 := by
  simp [landmarkRound, hi]

/-- The first round evaluates the gestures when motion is on. -/
theorem landmarkRound_first (sp : ShapePredictor) (img : Array2d) (r : ViewInfo × Frame) :
    (landmarkRound sp img 0 r).1 =
      if r.1.motion ≠ 0 then gesture (sp img (firstFace r.1)) (firstFace r.1) r.1 else r.1 := by
  simp [landmarkRound, firstFace]

/-- **The state after `face_landmark`**: the timer, and the gesture of the first face. -/
theorem faceLandmark_state (sp : ShapePredictor) (frame : Frame) {count : Int} (hc : 0 < count)
    (s : ViewInfo) :
    (faceLandmark sp frame count s).1 =
      if frame.ySize ≠ frame.width * frame.height then s
      else if s.motion ≠ 0 then gesture (firstShape sp frame s) (firstFace s) (tick s)
      else tick s := by
  unfold faceLandmark
  split
  · rfl
  · have hlater : ∀ (k : Int) (r : ViewInfo × Frame), 0 < k → k < count →
        (landmarkRound sp (rotateImage frame) k r).1 = r.1 :=
      fun k r hk _ => landmarkRound_later sp _ (Int.ne_of_gt hk) r
    dsimp only
    rw [Loop.forLt_first Prod.fst hc hlater, landmarkRound_first, tick_eq s]
    rfl

/-- Is the gesture branch evaluated on this frame? -/
def gestureJudged (frame : Frame) (s : ViewInfo) : Bool :=
  s.flagFacerunning && !s.faces.isEmpty && frame.ySize == frame.width * frame.height &&
    s.motion != 0 && ticked s.timer == 8

/-- The head has moved, and the sticker is advanced. -/
def headGesture (env : FrameEnv) (frame : Frame) (s : ViewInfo) : Bool :=
  gestureJudged frame s && headMoved (firstShape env.sp frame s) (firstFace s) s.toControls

/-- The mouth is open, and a capture is requested. -/
def mouthGesture (env : FrameEnv) (frame : Frame) (s : ViewInfo) : Bool :=
  gestureJudged frame s && mouthOpen (firstShape env.sp frame s) (firstFace s)

/-! The face part draws; format and sizes stay. -/

@[simp] theorem drawSticker_header (sticker : Int) (frame : Frame) (shape : FullObjectDetection)
    (imgarr : Nat → ImageInfo) :
    (drawSticker sticker frame shape imgarr).header = frame.header := by
  unfold drawSticker
  split <;> simp

theorem faceLandmark_header (sp : ShapePredictor) (frame : Frame) (count : Int) (s : ViewInfo) :
    (faceLandmark sp frame count s).2.header = frame.header := by
  unfold faceLandmark
  split
  · rfl
  · exact Loop.forLt_proj (fun r : ViewInfo × Frame => r.2.header)
      (fun i r _ _ => drawSticker_header ..) (tick s, frame)

@[simp] theorem landmarkIfRunning_header (env : FrameEnv) (frame : Frame) (s : ViewInfo) :
    (landmarkIfRunning env frame s).2.header = frame.header := by
  unfold landmarkIfRunning
  dsimp only
  split
  · split
    · exact faceLandmark_header ..
    · rfl
  · rfl

theorem landmarkIfRunning_off {s : ViewInfo} (h : s.flagFacerunning = false ∨ s.faces = [])
    (env : FrameEnv) (frame : Frame) : landmarkIfRunning env frame s = (s, frame) := by
  rcases h with h | h <;> simp [landmarkIfRunning, h]

theorem landmarkIfRunning_on {s : ViewInfo} (hf : s.flagFacerunning = true) (hl : s.faces ≠ [])
    (env : FrameEnv) (frame : Frame) :
    landmarkIfRunning env frame s =
      faceLandmark env.sp frame s.faces.length (s.note (.faceLandmark s.faces)) := by
  have hlen : 0 < s.faces.length := List.length_pos_iff.mpr hl
  simp [landmarkIfRunning, hf, hlen]

/-- **What the face part of the sticker callback writes.** The timer and the remembered nose are
    left open. -/
theorem landmarkIfRunning_eq (env : FrameEnv) (frame : Frame) (s : ViewInfo) :
    (∃ timer nose, (landmarkIfRunning env frame s).1.toControls =
        { s.toControls with
          sticker := if headGesture env frame s then advanced s.sticker else s.sticker
          flagFacerunning := s.flagFacerunning && !(headGesture env frame s && wraps s.sticker)
          flagCapturing := s.flagCapturing || mouthGesture env frame s
          timer := timer
          nose := nose }) ∧
      (landmarkIfRunning env frame s).1.camera =
        (if headGesture env frame s && wraps s.sticker then
          s.camera.invoke .stopFaceDetection else s.camera) ∧
      (landmarkIfRunning env frame s).1.faces = s.faces := by
  by_cases hon : s.flagFacerunning = true ∧ s.faces ≠ []
  · obtain ⟨hf, hl⟩ := hon
    have hlen : (0 : Int) < s.faces.length := by
      have := List.length_pos_iff.mpr hl
      omega
    have hempty : s.faces.isEmpty = false := by simpa using hl
    rw [landmarkIfRunning_on hf hl, faceLandmark_state env.sp frame hlen]
    by_cases hy : frame.ySize = frame.width * frame.height
    · by_cases hm : s.motion = 0
      · have hj : gestureJudged frame s = false := by simp [gestureJudged, hm]
        simp only [headGesture, mouthGesture, hj]
        exact ⟨⟨ticked s.timer, s.nose, by simp [tick_eq, hy, hm]⟩, by simp [tick_eq, hy, hm],
          by simp [tick_eq, hy, hm]⟩
      · have hj : gestureJudged frame s = (ticked s.timer == 8) := by
          simp [gestureJudged, hf, hempty, hy, hm]
        obtain ⟨hc, hcam, hfaces⟩ := gesture_eq (firstShape env.sp frame s) (firstFace s)
          (tick (s.note (.faceLandmark s.faces)))
        rw [tick_eq] at hc hcam hfaces
        have hm' : (s.note (.faceLandmark s.faces)).motion ≠ 0 := hm
        rw [if_neg (not_not.mpr hy), if_pos hm', tick_eq]
        simp only [headGesture, mouthGesture, hj]
        exact ⟨⟨_, _, hc⟩, hcam, hfaces⟩
    · have hj : gestureJudged frame s = false := by simp [gestureJudged, hy]
      simp only [headGesture, mouthGesture, hj]
      exact ⟨⟨s.timer, s.nose, by simp [hy]⟩, by simp [hy], by simp [hy]⟩
  · have hoff : s.flagFacerunning = false ∨ s.faces = [] := by
      cases hf : s.flagFacerunning with
      | false => exact Or.inl rfl
      | true => exact Or.inr (Classical.byContradiction fun hl => hon ⟨hf, hl⟩)
    have hj : gestureJudged frame s = false := by
      rcases hoff with h | h <;> simp [gestureJudged, h]
    rw [landmarkIfRunning_off hoff]
    simp only [headGesture, mouthGesture, hj]
    exact ⟨⟨s.timer, s.nose, by simp⟩, by simp, trivial⟩

/-! ## 4. The sticker button and the effect button -/

/-- The callback part of `_main_view_sticker_button_cb`. -/
def selectCb (s : ViewInfo) : ViewInfo :=
  if s.sticker ≠ 0 then (s.invoke .unsetPreviewCb).invoke (.setPreviewCb .sticker) else s

@[simp] theorem selectCb_toControls (s : ViewInfo) : (selectCb s).toControls = s.toControls := by
  unfold selectCb
  split <;> rfl

@[simp] theorem selectCb_faces (s : ViewInfo) : (selectCb s).faces = s.faces := by
  unfold selectCb
  split <;> rfl

/-- The selection after a press. -/
def pressed (s : ViewInfo) : ViewInfo := { s with sticker := (s.sticker + 1).tmod maxSticker }

/-- Does the device start the detection when a press asks it to? It is asked two calls later where
    the press installs a callback first. -/
def startsDetection (s : ViewInfo) : Bool :=
  s.camera.state == .preview &&
    s.camera.outcome (s.camera.calls + if (s.sticker + 1).tmod maxSticker ≠ 0 then 2 else 0)
      .startFaceDetection

theorem selectCb_accepts (s : ViewInfo) :
    (selectCb (pressed s)).camera.accepts .startFaceDetection = startsDetection s := by
  have hstate : ((s.camera.invoke .unsetPreviewCb).invoke (.setPreviewCb .sticker)).state =
      s.camera.state := by
    rw [invoke_state rfl, invoke_state rfl]
  unfold startsDetection selectCb pressed Camera.accepts CameraCall.legal
  dsimp only
  by_cases hn : (s.sticker + 1).tmod maxSticker = 0
  · simp [hn]
  · simp [hn, hstate]

/-- The detection is stopped, and the flag with it. -/
def stopDetection (s : ViewInfo) : ViewInfo :=
  { s.invoke .stopFaceDetection with flagFacerunning := false }

/-- The detection is started, and the flag says whether it was. -/
def startDetection (s : ViewInfo) : ViewInfo :=
  { s.invoke .startFaceDetection with
    flagFacerunning := s.camera.accepts .startFaceDetection }

/-- Before the predictor is loaded the sticker button does nothing. -/
theorem stickerButton_unloaded {s : ViewInfo} (hfin : s.fin ≠ 1) :
    mainViewStickerButtonCb s = s := by
  simp [mainViewStickerButtonCb, hfin]

/-- Writing the value the flag has changes nothing. -/
theorem flagFacerunning_self {s : ViewInfo} {b : Bool} (h : s.flagFacerunning = b) :
    { s with flagFacerunning := b } = s := by
  rw [← h]

/-- **The sticker button**: callback, then detection; the flag records whether starting it
    succeeded. -/
theorem stickerButton_loaded {s : ViewInfo} (hfin : s.fin = 1) :
    mainViewStickerButtonCb s =
      let t := selectCb (pressed s)
      if t.sticker = 0 ∧ t.flagFacerunning = true then stopDetection t
      else if t.flagFacerunning = false then startDetection t
      else t := by
  have hbody (t : ViewInfo) :
      (if t.flagFacerunning = false then
          if t.camera.accepts .startFaceDetection = false then t.invoke .startFaceDetection
          else { t.invoke .startFaceDetection with flagFacerunning := true }
        else t) =
        if t.flagFacerunning = false then startDetection t else t := by
    split
    · rename_i hf
      unfold startDetection
      cases t.camera.accepts .startFaceDetection with
      | false => exact (flagFacerunning_self (s := t.invoke .startFaceDetection) hf).symm
      | true => rfl
    · rfl
  unfold mainViewStickerButtonCb
  rw [if_neg (not_not.mpr hfin)]
  exact congrArg (fun r => if (selectCb (pressed s)).sticker = 0 ∧
    (selectCb (pressed s)).flagFacerunning = true then _ else r) (hbody (selectCb (pressed s)))

/-- The part of `_main_view_effect_button_cb` that turns the stickers off. -/
def leaveStickers (s : ViewInfo) : ViewInfo :=
  if s.camera.getState = some .preview then
    if s.flagFacerunning = true then
      let s : ViewInfo := { s.invoke .stopFaceDetection with flagFacerunning := false }
      if s.sticker ≠ 0 then (s.invoke .unsetPreviewCb).invoke (.setPreviewCb .filter) else s
    else s
  else s

theorem leaveStickers_toControls (s : ViewInfo) :
    (leaveStickers s).toControls =
      { s.toControls with
        flagFacerunning := s.flagFacerunning && s.camera.state != .preview } := by
  have hkept (hb : (s.flagFacerunning && s.camera.state != .preview) = s.flagFacerunning) :
      s.toControls = { s.toControls with
        flagFacerunning := s.flagFacerunning && s.camera.state != .preview } := by
    rw [hb]
  unfold leaveStickers
  by_cases hst : s.camera.state = .preview
  · rw [if_pos (by simp [Camera.getState, hst])]
    cases hf : s.flagFacerunning with
    | false =>
      rw [if_neg (by decide), ← hf]
      exact hkept (by simp [hf])
    | true => by_cases hs : s.sticker = 0 <;> simp [hs, hst]
  · have hg : s.camera.getState ≠ some .preview := by
      unfold Camera.getState
      split <;> simp [hst]
    rw [if_neg hg]
    exact hkept (by simp [hst])

/-- The filter after a press of the effect button. -/
def filtered (s : ViewInfo) : ViewInfo := { s with filter := (s.filter + 1).tmod maxFilter }

/-- **The effect button**: the stickers off, then the effect of the new filter value. -/
theorem effectButton_eq (s : ViewInfo) :
    mainViewEffectButtonCb s =
      match filterEffect ((s.filter + 1).tmod maxFilter) with
      | some e => (leaveStickers (filtered s)).invoke (.attrSetEffect e)
      | none => leaveStickers (filtered s) := by
  have hctl := leaveStickers_toControls (filtered s)
  have hfilter : (leaveStickers (filtered s)).filter = (s.filter + 1).tmod maxFilter :=
    congrArg Controls.filter hctl
  rw [← hfilter]
  rfl

/-! ## 5. Frames -/

theorem supported_format {frame : Frame} (h : frame.supported = true) : frame.format = .nv12 := by
  simp only [Frame.supported, Bool.and_eq_true, beq_iff_eq] at h
  exact h.1

@[simp] theorem filterUv_header (cb cr : ByteMap) (frame : Frame) :
    (filterUv cb cr frame).header = frame.header := by
  unfold filterUv
  refine Loop.forLt_proj Frame.header (fun i fr _ _ => ?_) frame
  split <;> rfl

@[simp] theorem filterIfSelected_header (scales : Int → Option (ByteMap × ByteMap))
    (frame : Frame) (s : ViewInfo) : (filterIfSelected scales frame s).2.header = frame.header := by
  unfold filterIfSelected applyFilter
  split <;> simp

/-- A frame under the sticker callback: the face part, then the capture. -/
theorem deliver_sticker {s : ViewInfo} {frame : Frame} (hst : s.camera.state = .preview)
    (hcb : s.camera.previewCb = some .sticker) (hsup : frame.supported = true) (env : FrameEnv) :
    deliver env frame s =
      captureIfRequested env (landmarkIfRunning env frame s).2
        (landmarkIfRunning env frame s).1 := by
  simp [deliver, hst, hcb, stickerPreviewCallback, hsup]

/-- A frame under the filter callback: the filter, then the capture. -/
theorem deliver_filter {s : ViewInfo} {frame : Frame} (hst : s.camera.state = .preview)
    (hcb : s.camera.previewCb = some .filter) (hsup : frame.supported = true) (env : FrameEnv) :
    deliver env frame s =
      captureIfRequested env (filterIfSelected filterScales frame s).2
        (filterIfSelected filterScales frame s).1 := by
  simp [deliver, hst, hcb, filterPreviewCallback, filterPreviewCallbackWith, hsup]

/-- A frame that is not delivered, or not taken, changes nothing. -/
theorem deliver_idle {s : ViewInfo} {frame : Frame}
    (h : s.camera.state ≠ .preview ∨ s.camera.previewCb = none ∨ frame.supported = false)
    (env : FrameEnv) : deliver env frame s = (s, frame) := by
  unfold deliver stickerPreviewCallback filterPreviewCallback filterPreviewCallbackWith
  rcases h with h | h | h
  · simp [h]
  · simp [h]
  · split
    · split <;> simp [h]
    · rfl

/-- The state in which a frame's capture begins. -/
def beforeCapture (env : FrameEnv) (frame : Frame) (s : ViewInfo) : ViewInfo :=
  match s.camera.previewCb with
  | some .sticker => (landmarkIfRunning env frame s).1
  | some .filter => (filterIfSelected filterScales frame s).1
  | none => s

/-- **A frame the installed callback takes**: what precedes the capture, then the capture, with a
    frame of the same format. -/
theorem deliver_taken {s : ViewInfo} {frame : Frame} (hst : s.camera.state = .preview)
    (hcb : s.camera.previewCb ≠ none) (hsup : frame.supported = true) (env : FrameEnv) :
    ∃ frame', frame'.format = .nv12 ∧
      deliver env frame s = captureIfRequested env frame' (beforeCapture env frame s) := by
  have hformat := supported_format hsup
  unfold beforeCapture
  cases hcb' : s.camera.previewCb with
  | none => exact absurd hcb' hcb
  | some cb =>
    cases cb with
    | sticker =>
      refine ⟨(landmarkIfRunning env frame s).2, ?_, deliver_sticker hst hcb' hsup env⟩
      exact (congrArg FrameHeader.format (landmarkIfRunning_header env frame s)).trans hformat
    | filter =>
      refine ⟨(filterIfSelected filterScales frame s).2, ?_, deliver_filter hst hcb' hsup env⟩
      exact (congrArg FrameHeader.format (filterIfSelected_header filterScales frame s)).trans
        hformat

/-- A frame is taken, or it changes nothing. -/
theorem taken_or_idle (s : ViewInfo) (frame : Frame) :
    (s.camera.state = .preview ∧ s.camera.previewCb ≠ none ∧ frame.supported = true) ∨
      (s.camera.state ≠ .preview ∨ s.camera.previewCb = none ∨ frame.supported = false) := by
  by_cases hst : s.camera.state = .preview
  · by_cases hcb : s.camera.previewCb = none
    · exact Or.inr (Or.inr (Or.inl hcb))
    · cases hsup : frame.supported with
      | false => exact Or.inr (Or.inr (Or.inr rfl))
      | true => exact Or.inl ⟨hst, hcb, rfl⟩
  · exact Or.inr (Or.inl hst)

/-- The three ways a frame can go. -/
theorem deliver_cases (s : ViewInfo) (frame : Frame) :
    (s.camera.state ≠ .preview ∨ s.camera.previewCb = none ∨ frame.supported = false) ∨
      (s.camera.state = .preview ∧ s.camera.previewCb = some .sticker ∧
        frame.supported = true) ∨
      (s.camera.state = .preview ∧ s.camera.previewCb = some .filter ∧
        frame.supported = true) := by
  by_cases hst : s.camera.state = .preview
  · cases hsup : frame.supported with
    | false => exact Or.inl (Or.inr (Or.inr rfl))
    | true =>
      cases hcb : s.camera.previewCb with
      | none => exact Or.inl (Or.inr (Or.inl rfl))
      | some cb =>
        cases cb with
        | sticker => exact Or.inr (Or.inl ⟨hst, rfl, rfl⟩)
        | filter => exact Or.inr (Or.inr ⟨hst, rfl, rfl⟩)
  · exact Or.inl (Or.inl hst)

/-- Does the framework hand this frame to the sticker callback, and does that one take it? -/
def stickerFrame (s : ViewInfo) (frame : Frame) : Bool :=
  s.camera.state == .preview && s.camera.previewCb == some .sticker && frame.supported

/-- Does this frame advance the selection by a head movement? -/
def headMovement (s : ViewInfo) (frame : Frame) (env : FrameEnv) : Bool :=
  stickerFrame s frame && headGesture env frame s

theorem headMovement_idle {s : ViewInfo} {frame : Frame}
    (h : s.camera.state ≠ .preview ∨ s.camera.previewCb = none ∨ frame.supported = false)
    (env : FrameEnv) : headMovement s frame env = false := by
  rcases h with h | h | h <;> simp [headMovement, stickerFrame, h]

/-- Only the sticker callback looks at faces. -/
theorem headMovement_filter {s : ViewInfo} (hcb : s.camera.previewCb = some .filter)
    (frame : Frame) (env : FrameEnv) : headMovement s frame env = false := by
  simp [headMovement, stickerFrame, hcb]

theorem headMovement_sticker {s : ViewInfo} {frame : Frame} (hst : s.camera.state = .preview)
    (hcb : s.camera.previewCb = some .sticker) (hsup : frame.supported = true) (env : FrameEnv) :
    headMovement s frame env = headGesture env frame s := by
  simp [headMovement, stickerFrame, hst, hcb, hsup]

/-- Is a capture requested once the gestures of this frame are judged? -/
def captureRequested (s : ViewInfo) (frame : Frame) (env : FrameEnv) : Bool :=
  s.flagCapturing || (stickerFrame s frame && mouthGesture env frame s)

end SelfCamera
