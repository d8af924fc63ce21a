/-
  File:      SelfCamera/Writes.lean
  Subject:   WHAT AN EVENT WRITES TO THE CONTROLS, field by field, on any device.

  The lemmas on the handlers leave open what a frame does to the timer, to the remembered nose and
  to the capture request. Here every field is given, and which camera calls fail does not matter:
  a call's answer is read off the device where the source reads it.

  * `processes` -- does `face_landmark` take this frame? -- and `landmarkIfRunning_writes`;
  * **`step_toControls`** -- every field of `Controls` after every event, and
    `viewCreate_toControls` -- after start-up.
-/
import SelfCamera.Handlers

namespace SelfCamera

/-! ## 1. The sticker callback -/

/-- `face_landmark` is called on this frame, and the frame has the size it expects. -/
def processes (frame : Frame) (s : ViewInfo) : Bool :=
  s.flagFacerunning && !s.faces.isEmpty && frame.ySize == frame.width * frame.height

/-- The nose of the first face on this frame. -/
def seenNose (env : FrameEnv) (frame : Frame) (s : ViewInfo) : Int × Int :=
  (((firstShape env.sp frame s).part 33).x, ((firstShape env.sp frame s).part 33).y)

/-- **What the face part of the sticker callback writes**, every field of it: the timer runs on the
    frames `face_landmark` processes, and with motion on it remembers the nose. -/
theorem landmarkIfRunning_writes (env : FrameEnv) (frame : Frame) (s : ViewInfo) :
    (landmarkIfRunning env frame s).1.toControls =
      { s.toControls with
        sticker := if headGesture env frame s then advanced s.sticker else s.sticker
        flagFacerunning := s.flagFacerunning && !(headGesture env frame s && wraps s.sticker)
        flagCapturing := s.flagCapturing || mouthGesture env frame s
        timer := if processes frame s then ticked s.timer else s.timer
        nose := if processes frame s && s.motion != 0 then seenNose env frame s else s.nose } := by
  obtain ⟨⟨timer, nose, hctl⟩, -, -⟩ := landmarkIfRunning_eq env frame s
  have htimer : (landmarkIfRunning env frame s).1.timer = timer := by rw [hctl]
  have hnose : (landmarkIfRunning env frame s).1.nose = nose := by rw [hctl]
  rw [hctl, ← htimer, ← hnose]
  by_cases hoff : s.flagFacerunning = false ∨ s.faces = []
  · have hp : processes frame s = false := by
      rcases hoff with h | h <;> simp [processes, h]
    rw [landmarkIfRunning_off hoff, hp]
    rfl
  · simp only [not_or, Bool.not_eq_false] at hoff
    have hcount : (0 : Int) < s.faces.length :=
      Int.natCast_pos.mpr (List.length_pos_iff.mpr hoff.2)
    have hp : processes frame s = (frame.ySize == frame.width * frame.height) := by
      simp [processes, hoff]
    rw [landmarkIfRunning_on hoff.1 hoff.2, faceLandmark_state env.sp frame hcount, hp]
    by_cases hy : frame.ySize = frame.width * frame.height
    · rw [if_neg (not_not.mpr hy), tick_eq]
      by_cases hm : s.motion = 0
      · rw [if_neg (by simpa using hm)]
        simp [hy, hm]
      · obtain ⟨hg, -, -⟩ := gesture_eq (firstShape env.sp frame s) (firstFace s)
          (tick (s.note (.faceLandmark s.faces)))
        rw [tick_eq] at hg
        have hshape : firstShape env.sp frame (s.note (.faceLandmark s.faces)) =
            firstShape env.sp frame s := rfl
        have hface : firstFace (s.note (.faceLandmark s.faces)) = firstFace s := rfl
        rw [if_pos (by simpa using hm), hshape, hface, hg]
        simp [hy, hm, seenNose]
    · rw [if_pos hy]
      simp [hy]

/-! ## 2. Every event -/

/-- Does the installed callback take this frame? -/
def takes (s : ViewInfo) (frame : Frame) : Bool :=
  s.camera.state == .preview && s.camera.previewCb.isSome && frame.supported

/-- The controls after an event. -/
def written (s : ViewInfo) : Event → Controls
  | .stickerButton =>
    if s.fin = 1 then
      let next := (s.sticker + 1).tmod maxSticker
      { s.toControls with
        sticker := next
        flagFacerunning := (s.flagFacerunning && next != 0) ||
          (!s.flagFacerunning && startsDetection s) }
    else s.toControls
  | .effectButton =>
    { s.toControls with
      filter := (s.filter + 1).tmod maxFilter
      flagFacerunning := s.flagFacerunning && s.camera.state != .preview }
  | .motionButton =>
    { s.toControls with motion := if s.filter ≠ 0 then 0 else s.motion ^^^ 1 }
  | .changeButton => { s.toControls with cammode := s.cammode ^^^ 1 }
  | .shutterButton => { s.toControls with flagCapturing := s.flagCapturing || s.cameraEnabled }
  | .frame fr env =>
    { s.toControls with
      sticker := if headMovement s fr env then advanced s.sticker else s.sticker
      flagFacerunning := s.flagFacerunning && !(headMovement s fr env && wraps s.sticker)
      flagCapturing := s.flagCapturing && !takes s fr
      timer := if stickerFrame s fr && processes fr s then ticked s.timer else s.timer
      nose := if stickerFrame s fr && processes fr s && s.motion != 0 then seenNose env fr s
        else s.nose }
  | .enableSticker => { s.toControls with fin := 1 }
  | .facesDetected _ | .pause | .resume => s.toControls

theorem stickerButton_writes (s : ViewInfo) :
    (mainViewStickerButtonCb s).toControls = written s .stickerButton := by
  dsimp only [written]
  by_cases hfin : s.fin = 1
  · rw [if_pos hfin, stickerButton_loaded hfin, ← selectCb_accepts]
    have hctl := selectCb_toControls (pressed s)
    have hflag : (selectCb (pressed s)).flagFacerunning = s.flagFacerunning := by rw [hctl]; rfl
    have hnext : (selectCb (pressed s)).sticker = (s.sticker + 1).tmod maxSticker := by
      rw [hctl]; rfl
    dsimp only
    rw [hflag, hnext]
    cases hf : s.flagFacerunning <;> by_cases hn : (s.sticker + 1).tmod maxSticker = 0 <;>
      simp [hn, stopDetection, startDetection, pressed, hf]
  · rw [if_neg hfin, stickerButton_unloaded hfin]

theorem effectButton_writes (s : ViewInfo) :
    (mainViewEffectButtonCb s).toControls = written s .effectButton := by
  have hleave := leaveStickers_toControls (filtered s)
  rw [effectButton_eq]
  split
  · exact hleave
  · exact hleave

theorem deliver_writes (env : FrameEnv) (frame : Frame) (s : ViewInfo) :
    (deliver env frame s).1.toControls = written s (.frame frame env) := by
  dsimp only [written]
  rcases deliver_cases s frame with hidle | ⟨hst, hcb, hsup⟩ | ⟨hst, hcb, hsup⟩
  · have hm := headMovement_idle hidle env
    have hs : stickerFrame s frame = false := by
      rcases hidle with h | h | h <;> simp [stickerFrame, h]
    have ht : takes s frame = false := by
      rcases hidle with h | h | h <;> simp [takes, h]
    rw [deliver_idle hidle, hm, hs, ht]
    simp
  · have hm := headMovement_sticker hst hcb hsup env
    have hs : stickerFrame s frame = true := by simp [stickerFrame, hst, hcb, hsup]
    have ht : takes s frame = true := by simp [takes, hst, hcb, hsup]
    rw [deliver_sticker hst hcb hsup, captureIfRequested_toControls, landmarkIfRunning_writes, hm,
      hs, ht]
    simp
  · have hm := headMovement_filter hcb frame env
    have hs : stickerFrame s frame = false := by simp [stickerFrame, hcb]
    have ht : takes s frame = true := by simp [takes, hst, hcb, hsup]
    have hctl : (filterIfSelected filterScales frame s).1.toControls = s.toControls := by
      unfold filterIfSelected applyFilter
      split <;> rfl
    rw [deliver_filter hst hcb hsup, captureIfRequested_toControls, hctl, hm, hs, ht]
    simp

/-- **Every field of the controls after every event**, whatever calls fail. -/
theorem step_toControls (s : ViewInfo) (e : Event) : (step s e).toControls = written s e := by
  cases e with
  | stickerButton => exact stickerButton_writes s
  | effectButton => exact effectButton_writes s
  | motionButton =>
    simp only [step, mainViewMotionButtonCb, written]
    split <;> rfl
  | changeButton => rfl
  | shutterButton =>
    simp only [step, mainViewShutterButtonCb, written]
    split
    · rename_i he
      have hor : (s.flagCapturing || s.cameraEnabled) = true := by simp [he]
      rw [hor]
    · rename_i he
      have hor : (s.flagCapturing || s.cameraEnabled) = s.flagCapturing := by simp [he]
      rw [hor]
  | frame fr env => exact deliver_writes env fr s
  | facesDetected faces =>
    simp only [step, written]
    split <;> rfl
  | pause => exact viewPause_toControls s
  | resume => exact viewResume_toControls s
  | enableSticker => rfl

/-- Start-up writes one field of `Controls`. -/
theorem viewCreate_toControls (cfg : Startup) :
    ∃ enabled, (viewCreate cfg).toControls =
      { (sInfo cfg).toControls with cameraEnabled := enabled } := by
  have h : (mainViewInitCamera (sInfo cfg)).1.toControls = (sInfo cfg).toControls := by
    unfold mainViewInitCamera
    dsimp only
    split
    · rfl
    · split
      · rfl
      · exact viewResume_toControls _
  refine ⟨(mainViewInitCamera (sInfo cfg)).2, ?_⟩
  rw [← h]
  rfl

end SelfCamera
