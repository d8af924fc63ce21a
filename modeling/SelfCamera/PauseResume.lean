/-
  File:      SelfCamera/PauseResume.lean
  Subject:   PAUSE FOLLOWED BY RESUME, on a device whose calls succeed.

  `view_resume` chooses the callback from the selection alone, so the pair gives back what was
  there exactly where the installed callback is the one the selection stands for (`Fitting`). Four
  handlers install callbacks, and two of them, with a head movement, part the two.

  * `roundTrips_iff_fitting` -- one pause and resume;
  * `fitting_step` -- what an event does to `Fitting`;
  * **`pauseResume_identity_iff`** -- the runs on which the pair is the identity everywhere.
-/
import SelfCamera.InStep
import SelfCamera.Selection

namespace SelfCamera

/-- What the user sees. -/
structure Visible where
  state : CameraState
  previewCb : Option PreviewCb
  faceDetection : Bool
  sticker : Int
  filter : Int
  motion : Nat
  flagFacerunning : Bool
  deriving DecidableEq

def ViewInfo.visible (s : ViewInfo) : Visible :=
  ⟨s.camera.state, s.camera.previewCb, s.camera.faceDetection, s.sticker, s.filter, s.motion,
    s.flagFacerunning⟩

/-- `view_pause`, then `view_resume`. -/
def pauseResume (s : ViewInfo) : ViewInfo := (viewResume (viewPause s)).1

/-- With the camera in PREVIEW, pause and resume give back what the user saw. -/
def RoundTrips (s : ViewInfo) : Prop :=
  s.camera.state = .preview → (pauseResume s).visible = s.visible

/-- With the camera in PREVIEW, the installed callback is the one the selection stands for. -/
def Fitting (s : ViewInfo) : Prop :=
  s.camera.state = .preview → s.camera.previewCb = some (resumeCb s.sticker)

/-! ## 1. One pause and resume -/

/-- Everything but the callback comes back; the callback is chosen from the selection. -/
theorem pauseResume_visible {s : ViewInfo} (h : InStep s) (hst : s.camera.state = .preview) :
    (pauseResume s).visible = { s.visible with previewCb := some (resumeCb s.sticker) } := by
  obtain ⟨hok, hcreated, -, -, -⟩ := viewPause_ok h.ok hst
  obtain ⟨-, hst', hcb', hfd', -⟩ := viewResume_ok hok hcreated
  have hctl : (pauseResume s).toControls = s.toControls := by
    rw [pauseResume, viewResume_toControls, viewPause_toControls]
  have hrun : s.camera.faceDetection = s.flagFacerunning := by
    rw [h.running, hst]
    rfl
  rw [viewPause_toControls] at hcb' hfd'
  unfold ViewInfo.visible
  rw [hctl, hst, hrun, ← hst', ← hcb', ← hfd']
  rfl

theorem roundTrips_iff_fitting {s : ViewInfo} (h : InStep s) : RoundTrips s ↔ Fitting s := by
  constructor
  · intro hr hst
    have hv := hr hst
    rw [pauseResume_visible h hst] at hv
    exact (congrArg Visible.previewCb hv).symm
  · intro hfit hst
    rw [pauseResume_visible h hst, ← hfit hst]
    rfl

/-! ## 2. One event -/

/-- The events that leave callback and selection together. Only in PREVIEW anything is asked:
    the sticker button must not bring the selection back to 0, the effect button must not find
    the detection running on a selected sticker, and a head movement past `MAX_STICKER` must come
    with a capture. -/
def CallbackKept (s : ViewInfo) : Event → Prop
  | .stickerButton =>
    s.camera.state = .preview → s.fin = 1 → (s.sticker + 1).tmod maxSticker ≠ 0
  | .effectButton => ¬ (s.camera.state = .preview ∧ s.flagFacerunning = true ∧ s.sticker ≠ 0)
  | .frame fr env =>
    headMovement s fr env = true → wraps s.sticker = true → captureRequested s fr env = true
  | _ => True

theorem resumeCb_zero : resumeCb 0 = .filter := rfl

theorem resumeCb_selected {sticker : Int} (h : sticker ≠ 0) : resumeCb sticker = .sticker :=
  if_pos h

/-- After the last sticker comes 0, and only then. -/
theorem sticker_pos_of_next_zero {sticker : Int} (h : 0 ≤ sticker)
    (hn : (sticker + 1).tmod maxSticker = 0) : sticker ≠ 0 := by
  rintro rfl
  exact absurd hn (by decide)

section OneEvent

variable {s : ViewInfo} (hi : InStep s) (hfit : Fitting s)

include hi hfit in
/-- The sticker button keeps `Fitting` unless it brings the selection back to 0. -/
theorem fitting_stickerButton (h0 : 0 ≤ s.sticker) :
    Fitting (mainViewStickerButtonCb s) ↔ CallbackKept s .stickerButton := by
  by_cases hfin : s.fin = 1
  · obtain ⟨-, hctl, hst, hcb, -⟩ := stickerButton_ok hi hfin
    unfold Fitting CallbackKept
    rw [hst, hcb, hctl]
    constructor
    · intro h hp _ hz
      have hcb' := h hp
      rw [if_neg (not_not.mpr hz), hz, resumeCb_zero, hfit hp,
        resumeCb_selected (sticker_pos_of_next_zero h0 hz)] at hcb'
      exact absurd hcb' (by decide)
    · intro h hp
      have hn := h hp hfin
      rw [if_pos hn, resumeCb_selected hn]
  · rw [stickerButton_unloaded hfin]
    exact ⟨fun _ _ h => absurd h hfin, fun _ => hfit⟩

include hi hfit in
/-- The effect button installs the filter callback while the sticker stays selected. -/
theorem fitting_effectButton :
    Fitting (mainViewEffectButtonCb s) ↔ CallbackKept s .effectButton := by
  obtain ⟨-, hctl, hst, hcb, -⟩ := effectButton_ok hi
  unfold Fitting CallbackKept
  rw [hst, hcb, hctl]
  constructor
  · intro h hpressed
    rcases hpressed with ⟨hp, hf, hs⟩
    have hcb' := h hp
    rw [if_pos ⟨hp, hf, hs⟩, resumeCb_selected hs] at hcb'
    exact absurd hcb' (by decide)
  · intro h hp
    rw [if_neg h]
    exact hfit hp

include hi hfit in
/-- A frame keeps `Fitting` unless a head movement clears the selection and no capture follows. -/
theorem fitting_frame (h0 : 0 ≤ s.sticker) (fr : Frame) (env : FrameEnv) :
    Fitting (deliver env fr s).1 ↔ CallbackKept s (.frame fr env) := by
  show Fitting (deliver env fr s).1 ↔ (headMovement s fr env = true →
    wraps s.sticker = true → captureRequested s fr env = true)
  have hstk : (deliver env fr s).1.sticker =
      if headMovement s fr env then advanced s.sticker else s.sticker :=
    congrArg Controls.sticker (deliver_writes env fr s)
  rcases deliver_cases s fr with hidle | ⟨hst, hcb, hsup⟩ | ⟨hst, hcb, hsup⟩
  · rw [deliver_idle hidle, headMovement_idle hidle env]
    exact ⟨fun _ h => absurd h (by decide), fun _ => hfit⟩
  · obtain ⟨-, hst', hcb', -⟩ := deliver_ok hi hst hsup env
    unfold Fitting
    rw [hst', hcb', hstk, hcb]
    cases hm : headMovement s fr env with
    | false =>
      have hfit' := hfit hst
      rw [hcb] at hfit'
      simp [← hfit']
    | true =>
      rw [if_pos rfl]
      cases hw : wraps s.sticker with
      | false =>
        have hne : advanced s.sticker ≠ 0 := fun hz => by
          rw [(advanced_eq_zero h0).mp hz] at hw
          exact absurd hw (by decide)
        rw [resumeCb_selected hne]
        simp
      | true =>
        -- the selection is 0 now; only a capture that comes to its end fetches the filter callback
        rw [(advanced_eq_zero h0).mpr hw, resumeCb_zero]
        cases captureRequested s fr env <;> cases env.captureOk <;> simp
  · obtain ⟨-, -, hcb', -⟩ := deliver_ok hi hst hsup env
    have hm := headMovement_filter hcb fr env
    have hkept : (deliver env fr s).1.sticker = s.sticker := by
      rw [hstk, hm]
      rfl
    unfold Fitting
    rw [hcb', hkept, hm]
    refine ⟨fun _ h => absurd h (by decide), fun _ _ => ?_⟩
    rw [hfit hst]
    split <;> rfl

/-- Pausing leaves PREVIEW, and resuming installs what the selection stands for. -/
theorem fitting_pause (hi : InStep s) : Fitting (viewPause s) := by
  intro hp
  by_cases hst : s.camera.state = .preview
  · rw [(viewPause_ok hi.ok hst).2.1] at hp
    exact absurd hp (by decide)
  · rw [viewPause_off hst] at hp
    exact absurd hp hst

include hi hfit in
theorem fitting_resume : Fitting (viewResume s).1 := by
  intro hp
  rw [viewResume_toControls]
  cases hst : s.camera.state with
  | none => exact absurd hst hi.alive
  | created => exact (viewResume_ok hi.ok hst).2.2.1
  | preview =>
    rw [viewResume_on hst]
    exact hfit hst

include hi hfit in
/-- **What an event does to `Fitting`.** -/
theorem fitting_step (h0 : 0 ≤ s.sticker) (e : Event) : Fitting (step s e) ↔ CallbackKept s e := by
  cases e with
  | stickerButton => exact fitting_stickerButton hi hfit h0
  | effectButton => exact fitting_effectButton hi hfit
  | motionButton =>
    simp only [step, mainViewMotionButtonCb, CallbackKept]
    split <;> exact ⟨fun _ => trivial, fun _ => hfit⟩
  | changeButton => exact ⟨fun _ => trivial, fun _ => hfit⟩
  | shutterButton =>
    simp only [step, mainViewShutterButtonCb, CallbackKept]
    split <;> exact ⟨fun _ => trivial, fun _ => hfit⟩
  | frame fr env => exact fitting_frame hi hfit h0 fr env
  | facesDetected faces =>
    simp only [step, CallbackKept]
    split <;> exact ⟨fun _ => trivial, fun _ => hfit⟩
  | pause => exact ⟨fun _ => trivial, fun _ => fitting_pause hi⟩
  | resume => exact ⟨fun _ => trivial, fun _ => fitting_resume hi hfit⟩
  | enableSticker => exact ⟨fun _ => trivial, fun _ => hfit⟩

end OneEvent

/-! ## 3. Runs -/

/-- **Pause followed by resume is the identity on what the user sees, in every state of a run,
    exactly when every event of the run leaves callback and selection together.** -/
theorem pauseResume_identity_iff {cfg : Startup} (hok : cfg.AllOk) (es : List Event) :
    Run.All step RoundTrips (viewCreate cfg) es ↔
      Run.Along step CallbackKept (viewCreate cfg) es := by
  obtain ⟨hi0, -, hcb0, -, hctl0, -⟩ := viewCreate_ok hok
  have hfit0 : Fitting (viewCreate cfg) := fun _ => by
    rw [hcb0, hctl0]
    rfl
  refine Run.all_iff_along (I := fun s => InStep s ∧ 0 ≤ s.sticker) ?_ ?_ ⟨hi0, ?_⟩ ?_ es
  · exact fun s e h _ => ⟨inStep_step h.1 e, step_sticker_nonneg h.2 e⟩
  · intro s e h hr
    have hfit := (roundTrips_iff_fitting h.1).mp hr
    exact (roundTrips_iff_fitting (inStep_step h.1 e)).trans (fitting_step h.1 hfit h.2 e)
  · rw [viewCreate_sticker]
  · exact (roundTrips_iff_fitting hi0).mpr hfit0

/-- One sticker press on a working device: the pair is the identity before and after it. -/
theorem pauseResume_identity_oneSticker :
    Run.All step RoundTrips (viewCreate workingStartup) [.enableSticker, .stickerButton] :=
  (pauseResume_identity_iff (fun _ _ => rfl) _).mpr ⟨trivial, fun _ _ => by decide, trivial⟩

/-- A sticker press and an effect press: the photo of the next frame, or leaving and coming back,
    changes the callback. -/
theorem stickerThenEffect_roundTrip :
    ¬ RoundTrips (runApp workingStartup [.enableSticker, .stickerButton, .effectButton]) := by
  intro h
  have hv := congrArg Visible.previewCb (h (by decide))
  exact absurd hv (by decide)

end SelfCamera
