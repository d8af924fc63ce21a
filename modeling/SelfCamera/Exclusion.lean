/-
  File:      SelfCamera/Exclusion.lean
  Subject:   GESTURES AND FILTERS: does a gesture ever act while a filter is selected?

  The motion button turns the gestures off where it finds a filter, and the effect button stops the
  detection. Neither holds for long: a filter can be selected with motion on, and the sticker
  button then starts the detection again; and outside PREVIEW the effect button leaves the flag.

  * `Mixed` -- filter, motion and detection together; `mixed_step` -- the events that lead there;
  * `keepsOut_of_notMixed` -- without it no gesture acts;
  * **`gestures_keepOut`** -- the runs.
-/
import SelfCamera.Writes

namespace SelfCamera

/-- While a filter is selected `face_landmark` leaves the selection and the capture request as they
    are, whatever the frame shows and whatever was requested before. -/
def GesturesKeepOut (s : ViewInfo) : Event → Prop
  | .frame fr env => stickerFrame s fr = true → s.filter ≠ 0 → ∀ requested,
    let t := (landmarkIfRunning env fr { s with flagCapturing := requested }).1
    t.sticker = s.sticker ∧ t.flagCapturing = requested
  | _ => True

/-- A filter, motion and the detection, all on. -/
def Mixed (s : ViewInfo) : Prop :=
  s.filter ≠ 0 ∧ s.motion ≠ 0 ∧ s.flagFacerunning = true

/-- With a filter selected and motion on: a sticker press that starts the detection, and an effect
    press outside PREVIEW that finds the flag set and does not come back to 0. -/
def EntersMixed (s : ViewInfo) : Event → Prop
  | .stickerButton => s.fin = 1 ∧ s.filter ≠ 0 ∧ s.motion ≠ 0 ∧ s.flagFacerunning = false ∧
      startsDetection s = true
  | .effectButton => (s.filter + 1).tmod maxFilter ≠ 0 ∧ s.motion ≠ 0 ∧
      s.flagFacerunning = true ∧ s.camera.state ≠ .preview
  | _ => False

/-! ## 1. One event -/

/-- **What brings the three together.** -/
theorem mixed_step {s : ViewInfo} (h : ¬ Mixed s) (e : Event) :
    Mixed (step s e) ↔ EntersMixed s e := by
  unfold Mixed at *
  rw [step_toControls]
  cases e with
  | stickerButton =>
    dsimp only [written, EntersMixed]
    by_cases hfin : s.fin = 1
    · rw [if_pos hfin]
      cases hf : s.flagFacerunning <;> simp_all
    · rw [if_neg hfin]
      exact ⟨fun hm => absurd hm h, fun hm => absurd hm.1 hfin⟩
  | effectButton =>
    dsimp only [written, EntersMixed]
    simp only [Bool.and_eq_true, bne_iff_ne, ne_eq]
  | motionButton =>
    dsimp only [written, EntersMixed]
    refine ⟨fun hm => ?_, fun hm => hm.elim⟩
    exact hm.2.1 (if_pos hm.1)
  | frame fr env =>
    dsimp only [written, EntersMixed]
    refine ⟨fun hm => h ⟨hm.1, hm.2.1, ?_⟩, fun hm => hm.elim⟩
    simp only [Bool.and_eq_true] at hm
    exact hm.2.2.1
  | _ => exact ⟨fun hm => absurd hm h, fun hm => hm.elim⟩

/-- **Without all three no gesture acts.** -/
theorem keepsOut_of_notMixed {s : ViewInfo} (h : ¬ Mixed s) (e : Event) :
    GesturesKeepOut s e := by
  cases e with
  | frame fr env =>
    intro _ hfilter requested
    have hidle (t : ViewInfo) (hm : t.motion = s.motion)
        (hf : t.flagFacerunning = s.flagFacerunning) : gestureJudged fr t = false := by
      cases hj : gestureJudged fr t with
      | false => rfl
      | true =>
        simp only [gestureJudged, Bool.and_eq_true, bne_iff_ne] at hj
        exact absurd ⟨hfilter, hm ▸ hj.1.2, hf ▸ hj.1.1.1.1⟩ h
    have hj := hidle { s with flagCapturing := requested } rfl rfl
    dsimp only
    rw [landmarkIfRunning_writes]
    simp [headGesture, mouthGesture, hj]
  | _ => exact trivial

/-! ## 2. Runs -/

/-- Start-up selects no filter. -/
theorem notMixed_viewCreate (cfg : Startup) : ¬ Mixed (viewCreate cfg) := by
  obtain ⟨enabled, hctl⟩ := viewCreate_toControls cfg
  exact fun hm => hm.1 (congrArg Controls.filter hctl)

/-- In a run filter, motion and detection never come together exactly when no event brings them
    together. -/
theorem notMixed_iff (cfg : Startup) (es : List Event) :
    Run.All step (fun s => ¬ Mixed s) (viewCreate cfg) es ↔
      Run.Along step (fun s e => ¬ EntersMixed s e) (viewCreate cfg) es := by
  refine Run.all_iff_along (P := fun s => ¬ Mixed s) (C := fun s e => ¬ EntersMixed s e)
    (I := fun _ => True) (fun _ _ _ _ => trivial) ?_ trivial (notMixed_viewCreate cfg) es
  exact fun s e _ h => not_congr (mixed_step h e)

/-- **In a run in which no event brings filter, motion and detection together, no gesture acts
    while a filter is selected** -- whatever camera calls fail. -/
theorem gestures_keepOut {cfg : Startup} {es : List Event}
    (h : Run.Along step (fun s e => ¬ EntersMixed s e) (viewCreate cfg) es) :
    Run.Along step GesturesKeepOut (viewCreate cfg) es :=
  Run.Along.derive (I := fun s => ¬ Mixed s) (fun _ e hm hc hm' => hc ((mixed_step hm e).mp hm'))
    (fun _ e hm _ => keepsOut_of_notMixed hm e) (notMixed_viewCreate cfg) h

/-- A filter, a sticker, motion, a face and a frame: the motion button finds the filter, so that no
    gesture is evaluated while the detection runs. -/
theorem gestures_keepOut_filtered :
    Run.Along step GesturesKeepOut (viewCreate workingStartup)
      [.enableSticker, .effectButton, .stickerButton, .motionButton,
        .facesDetected [⟨0, 140, 4, 4⟩], .frame (evenFrame 0 128) (standingClock 0)] :=
  gestures_keepOut ⟨fun h => h, fun h => h.2.1 (by decide), fun h => h.2.2.1 (by decide),
    fun h => h, fun h => h, fun h => h, trivial⟩

/-- Motion on, the first effect, a sticker and a face: eight dark frames and a bright one. -/
def filteredRun : List Event :=
  [.enableSticker, .motionButton, .effectButton, .stickerButton,
    .facesDetected [⟨0, 140, 4, 4⟩]] ++
    List.replicate 8 (.frame (evenFrame 0 128) (standingClock 0))

/-- The head movement of the bright frame advances the sticker while MONO is selected. -/
theorem filteredRun_gestures :
    ¬ GesturesKeepOut (runApp workingStartup filteredRun)
      (.frame (evenFrame 1 128) (standingClock 0)) := by
  intro h
  have hkept := (h (by decide +kernel) (by decide +kernel) false).1
  exact absurd hkept (by decide +kernel)

end SelfCamera
