/-
  File:      SelfCamera/Primitive.lean
  Subject:   WHAT THE HANDLERS ARE MADE OF: camera calls, entries in the record, assignments.

  Two rules. A property that each of these keeps is kept by every handler (`Primitive`): the rule
  for facts about the device alone. The buttons, the gestures and the filters leave the preview
  running, and they move the detection and its flag together only (`Live`): the rule for facts
  that tie the flag to the device, to the face list, to the record.

  * `Live` -- `Live.landmarkIfRunning`, `Live.filterIfSelected`, `Live.effectButton`,
    `Live.stickerButton`;
  * `Primitive` -- **`Primitive.step`**, every event; `Primitive.run`, every run.
-/
import SelfCamera.Handlers

namespace SelfCamera

/-! ## 1. While the preview goes on -/

/-- A call that moves neither the device nor its detection. -/
def CameraCall.quiet (k : CameraCall) : Bool :=
  !k.moves && k != .startFaceDetection && k != .stopFaceDetection

/-- The fields no handler writes. -/
def Controls.fixed (c : Controls) : Bool × Option (List Char) :=
  (c.cameraEnabled, c.mediaContentFolder)

/-- **A property that what the buttons, the gestures and the filters do keeps.** -/
structure Live (P : ViewInfo → Prop) : Prop where
  invoke : ∀ {s : ViewInfo} {k : CameraCall}, P s → k.quiet = true → P (s.invoke k)
  stopDetection : ∀ {s : ViewInfo}, P s → P (stopDetection s)
  faceLandmark : ∀ {s : ViewInfo}, P s → s.flagFacerunning = true →
    P (s.note (.faceLandmark s.faces))
  controls : ∀ {s : ViewInfo} (c : Controls), P s → c.flagFacerunning = s.flagFacerunning →
    c.fixed = s.fixed → P { s with toControls := c }

namespace Live

variable {P : ViewInfo → Prop} (hP : Live P) {s : ViewInfo}

include hP

theorem advanceSticker (h : P s) : P (advanceSticker s) := by
  have hadd := hP.controls { s.toControls with sticker := s.sticker + 2 } h rfl rfl
  have hzero := hP.controls { s.toControls with sticker := 0 } hadd rfl rfl
  unfold SelfCamera.advanceSticker
  dsimp only
  split
  · exact hP.stopDetection hzero
  · exact hadd

theorem gesture (h : P s) (shape : FullObjectDetection) (face : Rectangle) :
    P (gesture shape face s) := by
  have hmouth {t : ViewInfo} (ht : P t) :
      P (if mouthOpen shape face then { t with flagCapturing := true } else t) := by
    split
    · exact hP.controls { t.toControls with flagCapturing := true } ht rfl rfl
    · exact ht
  have hnose {t : ViewInfo} (ht : P t) (nose : Int × Int) : P { t with nose := nose } :=
    hP.controls { t.toControls with nose := nose } ht rfl rfl
  unfold SelfCamera.gesture
  refine hnose ?_ _
  split
  · refine hmouth ?_
    split
    · exact hP.advanceSticker h
    · exact h
  · exact h

theorem landmarkIfRunning (h : P s) (env : FrameEnv) (frame : Frame) :
    P (landmarkIfRunning env frame s).1 := by
  by_cases hoff : s.flagFacerunning = false ∨ s.faces = []
  · rw [landmarkIfRunning_off hoff]
    exact h
  · simp only [not_or, Bool.not_eq_false] at hoff
    have hnoted := hP.faceLandmark h hoff.1
    have htick : P (tick (s.note (.faceLandmark s.faces))) := by
      rw [tick_eq]
      exact hP.controls { s.toControls with timer := ticked s.timer } hnoted rfl rfl
    rw [landmarkIfRunning_on hoff.1 hoff.2,
      faceLandmark_state env.sp frame (Int.natCast_pos.mpr (List.length_pos_iff.mpr hoff.2))]
    split
    · exact hnoted
    · split
      · exact hP.gesture htick _ _
      · exact htick

theorem filterIfSelected (h : P s) (scales : Int → Option (ByteMap × ByteMap)) (frame : Frame) :
    P (filterIfSelected scales frame s).1 := by
  unfold SelfCamera.filterIfSelected applyFilter
  split
  · exact hP.invoke h rfl
  · exact h

theorem effectButton (h : P s) : P (mainViewEffectButtonCb s) := by
  have hf : P (filtered s) :=
    hP.controls { s.toControls with filter := (s.filter + 1).tmod maxFilter } h rfl rfl
  have hleave : P (leaveStickers (filtered s)) := by
    have hstop := hP.stopDetection hf
    unfold leaveStickers
    split
    · split
      · dsimp only
        split
        · exact hP.invoke (hP.invoke hstop rfl) rfl
        · exact hstop
      · exact hf
    · exact hf
  rw [effectButton_eq]
  split
  · exact hP.invoke hleave rfl
  · exact hleave

theorem beforeCapture (h : P s) (env : FrameEnv) (frame : Frame) :
    P (beforeCapture env frame s) := by
  unfold SelfCamera.beforeCapture
  split
  · exact hP.landmarkIfRunning h env frame
  · exact hP.filterIfSelected h filterScales frame
  · exact h

theorem selectCb (h : P s) : P (selectCb s) := by
  unfold SelfCamera.selectCb
  split
  · exact hP.invoke (hP.invoke h rfl) rfl
  · exact h

/-- What starting the detection does is left to the property. -/
theorem stickerButton (h : P s)
    (hstart : s.fin = 1 → s.flagFacerunning = false → P (SelfCamera.selectCb (pressed s)) →
      P (startDetection (SelfCamera.selectCb (pressed s)))) :
    P (mainViewStickerButtonCb s) := by
  by_cases hfin : s.fin = 1
  · have hselect : P (SelfCamera.selectCb (pressed s)) := hP.selectCb
      (hP.controls { s.toControls with sticker := (s.sticker + 1).tmod maxSticker } h rfl rfl)
    rw [stickerButton_loaded hfin]
    dsimp only
    split
    · exact hP.stopDetection hselect
    · split
      · rename_i hoff
        rw [selectCb_toControls] at hoff
        exact hstart hfin hoff hselect
      · exact hselect
  · rw [stickerButton_unloaded hfin]
    exact h

/-- The buttons that assign only. -/
theorem motionButton (h : P s) : P (mainViewMotionButtonCb s) := by
  unfold mainViewMotionButtonCb
  split
  · exact hP.controls { s.toControls with motion := 0 } h rfl rfl
  · exact hP.controls { s.toControls with motion := s.motion ^^^ 1 } h rfl rfl

theorem changeButton (h : P s) : P (mainViewChangeButtonCb s) :=
  hP.controls { s.toControls with cammode := s.cammode ^^^ 1 } h rfl rfl

theorem shutterButton (h : P s) : P (mainViewShutterButtonCb s) := by
  unfold mainViewShutterButtonCb
  split
  · exact hP.controls { s.toControls with flagCapturing := true } h rfl rfl
  · exact h

theorem enableSticker (h : P s) : P (enableSticker s) :=
  hP.controls { s.toControls with fin := 1 } h rfl rfl

end Live

/-! ## 2. Whatever happens -/

/-- The two entries a photo makes. -/
def Action.ofPhoto : Action → Bool
  | .localtime _ | .encodeJpeg _ _ _ => true
  | _ => false

/-- **A property the primitive operations keep.** A photo is one of them: the clock is read and the
    frame encoded under the name of that time. -/
structure Primitive (P : ViewInfo → Prop) : Prop where
  invoke : ∀ {s : ViewInfo} (k : CameraCall), P s → P (s.invoke k)
  note : ∀ {s : ViewInfo} {a : Action}, P s → a.ofPhoto = false → P (s.note a)
  photo : ∀ {s : ViewInfo} (tm : Tm) (frame : Frame) (result : Int), P s →
    P ((s.note (.localtime tm)).note
      (.encodeJpeg frame (capturePath s.mediaContentFolder tm) result))
  controls : ∀ {s : ViewInfo} (c : Controls), P s → c.fixed = s.fixed →
    P { s with toControls := c }
  faces : ∀ {s : ViewInfo} (fs : List Rectangle), P s → P { s with faces := fs }

namespace Primitive

variable {P : ViewInfo → Prop} (hP : Primitive P) {s : ViewInfo}

include hP

theorem invokes (ks : List CameraCall) (h : P s) : P (s.invokes ks) :=
  invokes_keep (fun _ k ht => hP.invoke k ht) h ks

theorem viewPause (h : P s) : P (viewPause s) := by
  by_cases hst : s.camera.state = .preview
  · rw [viewPause_on hst]
    exact hP.faces [] (hP.invoke _ (hP.invoke _ h))
  · rw [viewPause_off hst]
    exact h

theorem viewResume (h : P s) : P (viewResume s).1 := by
  cases hst : s.camera.state with
  | none =>
    rw [viewResume_none hst]
    exact hP.note h rfl
  | created =>
    rw [viewResume_created hst, restartPreview_calls]
    exact hP.note (hP.invokes _ h) rfl
  | preview =>
    rw [viewResume_on hst]
    exact hP.note h rfl

theorem mainViewInitCamera (h : P s) : P (mainViewInitCamera s).1 := by
  have hcreate := hP.invoke .create h
  have hdisplay := hP.invoke .setDisplay hcreate
  unfold SelfCamera.mainViewInitCamera
  dsimp only
  split
  · exact hcreate
  · split
    · exact hdisplay
    · exact hP.viewResume hdisplay

theorem mainViewMycaptureCb (h : P s) (env : FrameEnv) {frame : Frame}
    (hf : frame.format = .nv12) : P (mainViewMycaptureCb env frame s).1 := by
  have hpause := hP.viewPause h
  cases he : s.cameraEnabled with
  | false =>
    rw [mycapture_disabled he]
    exact h
  | true =>
    cases ht : env.localtimeR env.rawtime with
    | none =>
      rw [mycapture_noTime he hf ht]
      exact hpause
    | some tm =>
      have hphoto := hP.photo tm (swapUv frame) env.encodeResult hpause
      rw [viewPause_toControls] at hphoto
      rw [mycapture_encode he hf ht]
      dsimp only
      split
      · exact hP.viewResume (hP.note hphoto rfl)
      · exact hphoto

theorem captureIfRequested (h : P s) (env : FrameEnv) {frame : Frame}
    (hf : frame.format = .nv12) : P (captureIfRequested env frame s).1 := by
  unfold SelfCamera.captureIfRequested
  split
  · exact hP.mainViewMycaptureCb (hP.controls { s.toControls with flagCapturing := false } h rfl)
      env hf
  · exact h

theorem live : Live P where
  invoke h _ := hP.invoke _ h
  stopDetection h := hP.controls _ (hP.invoke _ h) rfl
  faceLandmark h _ := hP.note h rfl
  controls c h _ he := hP.controls c h he

theorem deliver (h : P s) (env : FrameEnv) (frame : Frame) : P (deliver env frame s).1 := by
  rcases taken_or_idle s frame with ⟨hst, hcb, hsup⟩ | hidle
  · obtain ⟨frame', hf, hd⟩ := deliver_taken hst hcb hsup env
    rw [hd]
    exact hP.captureIfRequested (hP.live.beforeCapture h env frame) env hf
  · rw [deliver_idle hidle]
    exact h

/-- **Every event keeps a primitive property.** -/
theorem step (h : P s) (e : Event) : P (step s e) := by
  cases e with
  | stickerButton =>
    exact hP.live.stickerButton h fun _ _ ht => hP.controls _ (hP.invoke _ ht) rfl
  | effectButton => exact hP.live.effectButton h
  | motionButton => exact hP.live.motionButton h
  | changeButton => exact hP.live.changeButton h
  | shutterButton => exact hP.live.shutterButton h
  | frame fr env => exact hP.deliver h env fr
  | facesDetected faces =>
    simp only [SelfCamera.step]
    split
    · exact hP.note (hP.faces _ h) rfl
    · exact h
  | pause => exact hP.viewPause h
  | resume => exact hP.viewResume h
  | enableSticker => exact hP.live.enableSticker h

/-- So every run has it, once start-up has left it. -/
theorem run {cfg : Startup} (h : P (viewCreate cfg)) (es : List Event) : P (runApp cfg es) :=
  Run.invariant (P := P) (fun _ e ht => hP.step ht e) h es

end Primitive

end SelfCamera
