/-
  File:      SelfCamera/Life.lean
  Subject:   THE CAMERA FROM START-UP TO THE END: is it created, and is it given back?

  Start-up asks for the camera once. If it gets none, the handlers work on a null handle for the
  rest of the run. At the end `_main_view_destroy_cb` pauses and destroys the camera, which the
  framework refuses while the preview runs.

  * `NoCamera`, **`noCamera_run`** -- a run without a camera;
  * `created_iff` -- which runs have one;
  * `mainViewDestroyCb`, **`destroyed_iff`** -- the runs at whose end it is given back.
-/
import SelfCamera.Recovery

namespace SelfCamera

/-! ## 1. Without a camera -/

/-- A call that was refused, or a resume that returned false. -/
def Action.futile : Action → Bool
  | .camera _ ok => !ok
  | .viewResume returned _ => !returned
  | _ => false

/-- The question for a camera. -/
def Action.asksCamera : Action → Bool
  | .camera .create _ => true
  | _ => false

/-- **Nothing comes of anything**: there is no camera, no detection, its flag is not set, the camera
    has been asked for once, and all that was done was refused. -/
structure NoCamera (s : ViewInfo) : Prop where
  state : s.camera.state = .none
  detecting : s.camera.faceDetection = false
  off : s.flagFacerunning = false
  trace : ∀ a ∈ s.trace, a.futile = true
  asked : s.trace.countP Action.asksCamera = 1

/-- A null handle accepts one call only. -/
theorem accepts_none {c : Camera} (h : c.state = .none) {k : CameraCall} (hk : k ≠ .create) :
    c.accepts k = false := by
  unfold Camera.accepts
  rw [h]
  cases k <;> first | rfl | exact absurd rfl hk

theorem NoCamera.invoke {s : ViewInfo} (h : NoCamera s) {k : CameraCall} (hk : k ≠ .create) :
    NoCamera (s.invoke k) := by
  have hrefused := accepts_none h.state hk
  have hother : Action.asksCamera (.camera k false) = false := by
    cases k <;> first | rfl | exact absurd rfl hk
  refine ⟨?_, ?_, h.off, ?_, ?_⟩
  · rw [invoke_camera, invoke_refused hrefused]
    exact h.state
  · rw [invoke_camera, invoke_refused hrefused]
    exact h.detecting
  · rw [invoke_trace, hrefused]
    exact List.forall_mem_cons.mpr ⟨rfl, h.trace⟩
  · rw [invoke_trace, hrefused, List.countP_cons_of_neg (by rw [hother]; decide)]
    exact h.asked

theorem NoCamera.flagOff {s : ViewInfo} (h : NoCamera s) :
    NoCamera { s with flagFacerunning := false } :=
  ⟨h.state, h.detecting, rfl, h.trace, h.asked⟩

theorem live_noCamera : Live NoCamera where
  invoke {s k} h hk := h.invoke (by rintro rfl; exact absurd hk (by decide))
  stopDetection h := (h.invoke (by decide)).flagOff
  faceLandmark h hf := absurd (h.off.symm.trans hf) (by decide)
  controls c h hflag _ := ⟨h.state, h.detecting, hflag.trans h.off, h.trace, h.asked⟩

theorem noCamera_step {s : ViewInfo} (h : NoCamera s) (e : Event) : NoCamera (step s e) := by
  have hidle : s.camera.state ≠ .preview := by rw [h.state]; decide
  cases e with
  | stickerButton =>
    refine live_noCamera.stickerButton h fun _ _ ht => ?_
    have hrefused := accepts_none ht.state (k := .startFaceDetection) (by decide)
    unfold startDetection
    rw [hrefused]
    exact (ht.invoke (by decide)).flagOff
  | effectButton => exact live_noCamera.effectButton h
  | motionButton => exact live_noCamera.motionButton h
  | changeButton => exact live_noCamera.changeButton h
  | shutterButton => exact live_noCamera.shutterButton h
  | frame fr env =>
    simp only [step]
    rw [deliver_idle (Or.inl hidle)]
    exact h
  | facesDetected faces =>
    simp only [step]
    rw [h.detecting, if_neg Bool.false_ne_true]
    exact h
  | pause =>
    simp only [step]
    rw [viewPause_off hidle]
    exact h
  | resume =>
    simp only [step]
    rw [viewResume_none h.state]
    exact ⟨h.state, h.detecting, h.off, List.forall_mem_cons.mpr ⟨rfl, h.trace⟩, h.asked⟩
  | enableSticker => exact live_noCamera.enableSticker h

theorem noCamera_viewCreate {cfg : Startup} (h : cfg.outcome 0 .create = false) :
    NoCamera (viewCreate cfg) := by
  have hrefused : (sInfo cfg).camera.accepts .create = false := by
    simp [Camera.accepts, sInfo, h]
  have hcreate : viewCreate cfg = { (sInfo cfg).invoke .create with cameraEnabled := false } := by
    unfold viewCreate mainViewInitCamera
    simp only [hrefused]
    rfl
  rw [hcreate]
  refine ⟨?_, ?_, rfl, ?_, ?_⟩
  · rw [invoke_camera, invoke_refused hrefused]
    rfl
  · rw [invoke_camera, invoke_refused hrefused]
    rfl
  · rw [invoke_trace, hrefused]
    exact List.forall_mem_cons.mpr ⟨rfl, by simp [sInfo]⟩
  · rw [invoke_trace, hrefused]
    rfl

/-- **Without a camera at start-up there is none in the whole run, and nothing ever comes of
    anything**: it is not asked for again, every later call is refused, no resume returns true, no
    face is reported, no photo named or encoded; and a frame, were there one, would do nothing and
    stay as it is. -/
theorem noCamera_run {cfg : Startup} (h : cfg.outcome 0 .create = false) (es : List Event) :
    Run.All step (fun s => NoCamera s ∧ ∀ env frame, deliver env frame s = (s, frame))
      (viewCreate cfg) es := by
  refine Run.all_of_invariant (I := NoCamera) (fun _ e ht => noCamera_step ht e) (fun s hs => ?_)
    (noCamera_viewCreate h) es
  have hidle : s.camera.state ≠ .preview := by rw [hs.state]; decide
  exact ⟨hs, fun env _ => deliver_idle (Or.inl hidle) env⟩

/-- A device that refuses to create the camera. -/
def refusingStartup : Startup := { workingStartup with outcome := fun _ k => k != .create }

theorem noCamera_run_presses :
    Run.All step (fun s => NoCamera s ∧ ∀ env frame, deliver env frame s = (s, frame))
      (viewCreate refusingStartup)
      [.enableSticker, .stickerButton, .shutterButton, .frame (evenFrame 0 128) (standingClock 0),
        .pause, .resume] :=
  noCamera_run (by decide) _

/-! ## 2. The end -/

theorem viewCreate_created {cfg : Startup} (h : cfg.outcome 0 .create = true) :
    (viewCreate cfg).camera.state ≠ .none := by
  have hcreate : (sInfo cfg).camera.accepts .create = true := by
    simp [Camera.accepts, CameraCall.legal, sInfo, h]
  have halive : ((sInfo cfg).camera.invoke .create).state ≠ .none := by
    rw [invoke_accepted hcreate]
    exact CameraState.noConfusion
  have hdisplay := invoke_alive halive .setDisplay
  unfold viewCreate mainViewInitCamera
  dsimp only
  split
  · exact halive
  · split
    · exact hdisplay
    · exact primitive_created.viewResume hdisplay

/-- A camera created at start-up stays, and no other is ever created. -/
theorem created_iff (cfg : Startup) (es : List Event) :
    (runApp cfg es).camera.state ≠ .none ↔ cfg.outcome 0 .create = true := by
  cases h : cfg.outcome 0 .create with
  | false =>
    have hnone := (Run.all_iff_exec.mp (noCamera_run h es) es List.prefix_rfl).1.state
    exact iff_of_false (not_not.mpr hnone) Bool.false_ne_true
  | true =>
    exact iff_of_true (primitive_created.run (viewCreate_created h) es) rfl

/-- `_main_view_destroy_cb`; it returns whether `camera_destroy` was legal, which it is in CREATED
    only. -/
def mainViewDestroyCb (s : ViewInfo) : ViewInfo × Bool :=
  let s := viewPause s
  (s, s.camera.state == .created)

/-- **At the end of a run the camera is given back exactly when start-up got one and, if the preview
    runs, the device stops it.** -/
theorem destroyed_iff (cfg : Startup) (es : List Event) :
    (mainViewDestroyCb (runApp cfg es)).2 = true ↔
      cfg.outcome 0 .create = true ∧ ((runApp cfg es).camera.state = .preview →
        cfg.outcome ((runApp cfg es).camera.calls + 1) .stopPreview = true) := by
  rw [← created_iff cfg es]
  have houtcome := runApp_outcome cfg es
  generalize runApp cfg es = s at *
  unfold mainViewDestroyCb
  cases hst : s.camera.state with
  | none =>
    rw [viewPause_off (by rw [hst]; decide)]
    simp [hst]
  | created =>
    rw [viewPause_off (by rw [hst]; decide)]
    simp [hst]
  | preview =>
    -- the detection is stopped first, which takes one call
    have hstate : (s.camera.invoke .stopFaceDetection).state = .preview :=
      (invoke_state rfl _).trans hst
    have haccepts : (s.camera.invoke .stopFaceDetection).accepts .stopPreview =
        cfg.outcome (s.camera.calls + 1) .stopPreview := by
      unfold Camera.accepts
      rw [hstate, invoke_calls, invoke_outcome, houtcome]
      rfl
    rw [viewPause_on hst]
    dsimp only [invoke_camera]
    cases hstop : cfg.outcome (s.camera.calls + 1) .stopPreview with
    | false =>
      rw [invoke_refused (haccepts.trans hstop)]
      simp [hstate]
    | true =>
      rw [invoke_accepted (haccepts.trans hstop)]
      simp [CameraCall.perform]

end SelfCamera
