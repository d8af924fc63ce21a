/-
  File:      SelfCamera/Alike.lean
  Subject:   WHAT THE APPLICATION CAN SEE OF ITS PAST: two states that no handler tells apart.

  A handler reads the controls, the face list, the pictures and the state of the device, and what
  the device answers from the next call on. It does not read the record, nor what the device
  answered before. So two states with these in common stay so over every run.

  * `Camera.Alike`, `Alike` -- two devices, two states that agree in all of this;
  * `Alike.viewPause`, … , `Alike.deliver` -- one handler each;
  * **`alike_run`** -- every run from the two.
-/
import SelfCamera.Handlers

namespace SelfCamera

/-- The same device to look at, with the same answers from the next call on. -/
structure Camera.Alike (c d : Camera) : Prop where
  state : d.state = c.state
  previewCb : d.previewCb = c.previewCb
  faceDetection : d.faceDetection = c.faceDetection
  effect : d.effect = c.effect
  calls : d.calls = c.calls
  answers : ∀ n, c.calls ≤ n → ∀ k, d.outcome n k = c.outcome n k

/-- **Two states no handler can tell apart.** -/
structure Alike (s t : ViewInfo) : Prop where
  controls : t.toControls = s.toControls
  faces : t.faces = s.faces
  imgarr : t.imgarr = s.imgarr
  camera : s.camera.Alike t.camera

/-! ## 1. Calls and assignments -/

theorem Camera.Alike.accepts {c d : Camera} (h : c.Alike d) (k : CameraCall) :
    d.accepts k = c.accepts k := by
  unfold Camera.accepts
  rw [h.state, h.calls, h.answers c.calls (Nat.le_refl _)]

theorem Camera.Alike.invoke {c d : Camera} (h : c.Alike d) (k : CameraCall) :
    (c.invoke k).Alike (d.invoke k) := by
  obtain ⟨hst, hcb, hfd, heff, hcalls, hans⟩ := h
  have hlater : ∀ n, (c.invoke k).calls ≤ n → ∀ j,
      (d.invoke k).outcome n j = (c.invoke k).outcome n j := by
    intro n hn j
    rw [invoke_calls] at hn
    rw [invoke_outcome, invoke_outcome]
    exact hans n (by omega) j
  have hacc := Camera.Alike.accepts ⟨hst, hcb, hfd, heff, hcalls, hans⟩ k
  cases ha : c.accepts k with
  | false =>
    rw [ha] at hacc
    rw [invoke_refused ha, invoke_refused hacc] at *
    exact ⟨hst, hcb, hfd, heff, congrArg (· + 1) hcalls, hlater⟩
  | true =>
    rw [ha] at hacc
    rw [invoke_accepted ha, invoke_accepted hacc] at *
    refine ⟨?_, ?_, ?_, ?_, ?_, hlater⟩ <;> cases k <;>
      simp [CameraCall.perform, hst, hcb, hfd, heff, hcalls]

namespace Alike

variable {s t : ViewInfo} (h : Alike s t)

include h

theorem invoke (k : CameraCall) : Alike (s.invoke k) (t.invoke k) :=
  ⟨h.controls, h.faces, h.imgarr, h.camera.invoke k⟩

/-- Whatever is written into the two records. -/
theorem note (a b : Action) : Alike (s.note a) (t.note b) :=
  ⟨h.controls, h.faces, h.imgarr, h.camera⟩

theorem assign (c : Controls) : Alike { s with toControls := c } { t with toControls := c } :=
  ⟨rfl, h.faces, h.imgarr, h.camera⟩

theorem setFaces (fs : List Rectangle) : Alike { s with faces := fs } { t with faces := fs } :=
  ⟨h.controls, rfl, h.imgarr, h.camera⟩

theorem setFlag (b : Bool) :
    Alike { s with flagFacerunning := b } { t with flagFacerunning := b } := by
  rw [h.controls]
  exact h.assign { s.toControls with flagFacerunning := b }

theorem invokes (ks : List CameraCall) : Alike (s.invokes ks) (t.invokes ks) := by
  induction ks generalizing s t with
  | nil => exact h
  | cons k ks ih => exact ih (h.invoke k)

/-! ## 2. Pause, resume, capture -/

theorem viewPause : Alike (viewPause s) (viewPause t) := by
  have hst' := h.camera.state
  by_cases hst : s.camera.state = .preview
  · rw [viewPause_on hst, viewPause_on (hst'.trans hst)]
    exact ((h.invoke _).invoke _).setFaces []
  · rw [viewPause_off hst, viewPause_off (by rw [hst']; exact hst)]
    exact h

theorem restartPreview : Alike (restartPreview s) (restartPreview t) := by
  rw [restartPreview_calls, restartPreview_calls, h.controls]
  exact h.invokes _

theorem viewResume : Alike (viewResume s).1 (viewResume t).1 := by
  have hst' := h.camera.state
  cases hst : s.camera.state with
  | none =>
    rw [viewResume_none hst, viewResume_none (hst'.trans hst)]
    exact h.note _ _
  | created =>
    rw [viewResume_created hst, viewResume_created (hst'.trans hst)]
    exact h.restartPreview.note _ _
  | preview =>
    rw [viewResume_on hst, viewResume_on (hst'.trans hst)]
    exact h.note _ _

/-- A capture looks at the format of its frame, and at nothing else of it. -/
theorem mycapture (env : FrameEnv) {f g : Frame} (hf : f.format = .nv12) (hg : g.format = .nv12) :
    Alike (mainViewMycaptureCb env f s).1 (mainViewMycaptureCb env g t).1 := by
  have henabled : t.cameraEnabled = s.cameraEnabled := by rw [h.controls]
  have hfolder : t.mediaContentFolder = s.mediaContentFolder := by rw [h.controls]
  cases he : s.cameraEnabled with
  | false =>
    rw [mycapture_disabled he, mycapture_disabled (henabled.trans he)]
    exact h
  | true =>
    cases ht : env.localtimeR env.rawtime with
    | none =>
      rw [mycapture_noTime he hf ht, mycapture_noTime (henabled.trans he) hg ht]
      exact h.viewPause
    | some tm =>
      rw [mycapture_encode he hf ht, mycapture_encode (henabled.trans he) hg ht, hfolder]
      dsimp only
      split
      · exact (((h.viewPause.note _ _).note _ _).note _ _).viewResume
      · exact (h.viewPause.note _ _).note _ _

theorem captureIfRequested (env : FrameEnv) {f g : Frame} (hf : f.format = .nv12)
    (hg : g.format = .nv12) :
    Alike (captureIfRequested env f s).1 (captureIfRequested env g t).1 := by
  have hflag : t.flagCapturing = s.flagCapturing := by rw [h.controls]
  cases hq : s.flagCapturing with
  | false =>
    rw [captureIfRequested_quiet hq, captureIfRequested_quiet (hflag.trans hq)]
    exact h
  | true =>
    rw [captureIfRequested_capture hq, captureIfRequested_capture (hflag.trans hq), h.controls]
    exact (h.assign { s.toControls with flagCapturing := false }).mycapture env hf hg

/-! ## 3. Gestures and filters -/

theorem advanceSticker : Alike (advanceSticker s) (advanceSticker t) := by
  unfold SelfCamera.advanceSticker
  rw [h.controls]
  dsimp only
  split
  · exact ((h.assign { s.toControls with sticker := 0 }).invoke _).assign
      { s.toControls with sticker := 0, flagFacerunning := false }
  · exact h.assign { s.toControls with sticker := s.sticker + 2 }

theorem gesture (shape : FullObjectDetection) (face : Rectangle) :
    Alike (gesture shape face s) (gesture shape face t) := by
  have hmouth {u v : ViewInfo} (huv : Alike u v) :
      Alike (if mouthOpen shape face then { u with flagCapturing := true } else u)
        (if mouthOpen shape face then { v with flagCapturing := true } else v) := by
    split
    · rw [huv.controls]
      exact huv.assign { u.toControls with flagCapturing := true }
    · exact huv
  have hnose {u v : ViewInfo} (huv : Alike u v) (nose : Int × Int) :
      Alike { u with nose := nose } { v with nose := nose } := by
    rw [huv.controls]
    exact huv.assign { u.toControls with nose := nose }
  unfold SelfCamera.gesture
  refine hnose ?_ _
  rw [h.controls]
  split
  · refine hmouth ?_
    split
    · exact h.advanceSticker
    · exact h
  · exact h

theorem landmarkIfRunning (env : FrameEnv) (frame : Frame) :
    Alike (landmarkIfRunning env frame s).1 (landmarkIfRunning env frame t).1 := by
  have hflag : t.flagFacerunning = s.flagFacerunning := by rw [h.controls]
  by_cases hoff : s.flagFacerunning = false ∨ s.faces = []
  · rw [landmarkIfRunning_off hoff, landmarkIfRunning_off (by rw [hflag, h.faces]; exact hoff)]
    exact h
  · simp only [not_or, Bool.not_eq_false] at hoff
    have hcount : (0 : Int) < s.faces.length :=
      Int.natCast_pos.mpr (List.length_pos_iff.mpr hoff.2)
    have hnoted := h.note (.faceLandmark s.faces) (.faceLandmark s.faces)
    have hticked : Alike (tick (s.note (.faceLandmark s.faces)))
        (tick (t.note (.faceLandmark s.faces))) := by
      rw [tick_eq, tick_eq, hnoted.controls]
      exact hnoted.assign { s.toControls with timer := ticked s.timer }
    rw [landmarkIfRunning_on hoff.1 hoff.2, landmarkIfRunning_on (hflag.trans hoff.1)
      (by rw [h.faces]; exact hoff.2), h.faces, faceLandmark_state env.sp frame hcount,
      faceLandmark_state env.sp frame hcount]
    have hface : firstFace (t.note (.faceLandmark s.faces)) =
        firstFace (s.note (.faceLandmark s.faces)) := congrArg (List.getD · 0 _) h.faces
    have hmotion : (t.note (.faceLandmark s.faces)).motion =
        (s.note (.faceLandmark s.faces)).motion := by rw [hnoted.controls]
    unfold firstShape
    rw [hface, hmotion]
    split
    · exact hnoted
    · split
      · exact hticked.gesture _ _
      · exact hticked

theorem filterIfSelected (frame : Frame) :
    Alike (filterIfSelected filterScales frame s).1
      (filterIfSelected filterScales frame t).1 := by
  have hfilter : t.filter = s.filter := by rw [h.controls]
  unfold SelfCamera.filterIfSelected
  rw [hfilter]
  split
  · exact h.invoke _
  · exact h

theorem beforeCapture (env : FrameEnv) (frame : Frame) :
    Alike (beforeCapture env frame s) (beforeCapture env frame t) := by
  unfold SelfCamera.beforeCapture
  rw [h.camera.previewCb]
  split
  · exact h.landmarkIfRunning env frame
  · exact h.filterIfSelected frame
  · exact h

theorem deliver (env : FrameEnv) (frame : Frame) :
    Alike (deliver env frame s).1 (deliver env frame t).1 := by
  have hst := h.camera.state
  have hcb := h.camera.previewCb
  rcases taken_or_idle s frame with htaken | hidle
  · obtain ⟨f, hf, hd⟩ := deliver_taken htaken.1 htaken.2.1 htaken.2.2 env
    obtain ⟨g, hg, hd'⟩ := deliver_taken (hst.trans htaken.1) (by rw [hcb]; exact htaken.2.1)
      htaken.2.2 env
    rw [hd, hd']
    exact (h.beforeCapture env frame).captureIfRequested env hf hg
  · rw [deliver_idle hidle, deliver_idle (by rw [hst, hcb]; exact hidle)]
    exact h

/-! ## 4. The buttons -/

theorem leaveStickers : Alike (leaveStickers s) (leaveStickers t) := by
  have hget : t.camera.getState = s.camera.getState := by
    unfold Camera.getState
    rw [h.camera.state]
  have hstopped := (h.invoke .stopFaceDetection).setFlag false
  unfold SelfCamera.leaveStickers
  rw [hget, h.controls]
  dsimp only
  split
  · split
    · rw [(h.invoke .stopFaceDetection).controls] at *
      split
      · exact (hstopped.invoke _).invoke _
      · exact hstopped
    · exact h
  · exact h

theorem effectButton : Alike (mainViewEffectButtonCb s) (mainViewEffectButtonCb t) := by
  have hfiltered : Alike (filtered s) (filtered t) := by
    unfold filtered
    rw [h.controls]
    exact h.assign { s.toControls with filter := (s.filter + 1).tmod maxFilter }
  rw [effectButton_eq, effectButton_eq, h.controls]
  split
  · exact hfiltered.leaveStickers.invoke _
  · exact hfiltered.leaveStickers

theorem selectCb : Alike (selectCb s) (selectCb t) := by
  unfold SelfCamera.selectCb
  rw [h.controls]
  split
  · exact (h.invoke _).invoke _
  · exact h

theorem stickerButton : Alike (mainViewStickerButtonCb s) (mainViewStickerButtonCb t) := by
  have hfin' : t.fin = s.fin := by rw [h.controls]
  by_cases hfin : s.fin = 1
  · have hpressed : Alike (pressed s) (pressed t) := by
      unfold pressed
      rw [h.controls]
      exact h.assign { s.toControls with sticker := (s.sticker + 1).tmod maxSticker }
    have hselected := hpressed.selectCb
    rw [stickerButton_loaded hfin, stickerButton_loaded (hfin'.trans hfin)]
    generalize SelfCamera.selectCb (pressed s) = u at *
    generalize SelfCamera.selectCb (pressed t) = v at *
    dsimp only
    rw [hselected.controls]
    split
    · exact (hselected.invoke _).setFlag false
    · split
      · unfold startDetection
        rw [hselected.camera.accepts]
        exact (hselected.invoke _).setFlag _
      · exact hselected
  · rw [stickerButton_unloaded hfin, stickerButton_unloaded (by rw [hfin']; exact hfin)]
    exact h

theorem step (e : Event) : Alike (step s e) (step t e) := by
  cases e with
  | stickerButton => exact h.stickerButton
  | effectButton => exact h.effectButton
  | motionButton =>
    simp only [SelfCamera.step, mainViewMotionButtonCb]
    rw [h.controls]
    split
    · exact h.assign { s.toControls with motion := 0 }
    · exact h.assign { s.toControls with motion := s.motion ^^^ 1 }
  | changeButton =>
    simp only [SelfCamera.step, mainViewChangeButtonCb]
    rw [h.controls]
    exact h.assign { s.toControls with cammode := s.cammode ^^^ 1 }
  | shutterButton =>
    simp only [SelfCamera.step, mainViewShutterButtonCb]
    rw [h.controls]
    split
    · exact h.assign { s.toControls with flagCapturing := true }
    · exact h
  | frame fr env => exact h.deliver env fr
  | facesDetected faces =>
    simp only [SelfCamera.step, h.camera.faceDetection]
    split
    · exact (h.setFaces _).note _ _
    · exact h
  | pause => exact h.viewPause
  | resume => exact h.viewResume
  | enableSticker =>
    simp only [SelfCamera.step, SelfCamera.enableSticker]
    rw [h.controls]
    exact h.assign { s.toControls with fin := 1 }

end Alike

end SelfCamera
