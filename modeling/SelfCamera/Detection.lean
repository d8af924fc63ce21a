/-
  File:      SelfCamera/Detection.lean
  Subject:   FACE DETECTION AND THE SELECTION, on a device whose calls succeed.

  Detection is meant for a selected sticker. Only the sticker button turns it on, and it asks
  whether detection is off before it asks what it has just selected: a press that comes back to 0
  while detection is off turns it on.

  * `step_flagFacerunning` -- who moves the flag;
  * `followsSelection_step`, `leavesStopped_iff` -- one event;
  * **`detection_follows_selection_iff`** -- the runs in which detection keeps to the selection.
-/
import SelfCamera.InStep
import SelfCamera.Selection

namespace SelfCamera

/-- Detection is on for a selected sticker only. -/
def FollowsSelection (s : ViewInfo) : Prop := s.flagFacerunning = true → s.sticker ≠ 0

/-- A press of the sticker button that brings the selection to 0. -/
def BringsToZero (s : ViewInfo) (e : Event) : Prop :=
  e = .stickerButton ∧ s.fin = 1 ∧ (s.sticker + 1).tmod maxSticker = 0

/-- Such a press leaves the detection of the device stopped. -/
def LeavesStopped (s : ViewInfo) (e : Event) : Prop :=
  BringsToZero s e → (step s e).camera.faceDetection = false

/-- Such a press, in PREVIEW and with detection off. -/
def StartsAtZero (s : ViewInfo) (e : Event) : Prop :=
  BringsToZero s e ∧ s.camera.state = .preview ∧ s.flagFacerunning = false

/-! ## 1. One event -/

/-- **Who moves the flag.** The effect button and a head movement past the end take it back;
    the sticker button moves it either way. -/
theorem step_flagFacerunning {s : ViewInfo} (hi : InStep s) (e : Event) :
    (step s e).flagFacerunning =
      match e with
      | .stickerButton =>
        if s.fin = 1 then
          (s.flagFacerunning && (s.sticker + 1).tmod maxSticker != 0) ||
            (!s.flagFacerunning && s.camera.state == .preview)
        else s.flagFacerunning
      | .effectButton => s.flagFacerunning && s.camera.state != .preview
      | e => s.flagFacerunning && !(e.movesHead s && wraps s.sticker) := by
  cases e with
  | stickerButton =>
    by_cases hfin : s.fin = 1
    · obtain ⟨-, hctl, -⟩ := stickerButton_ok hi hfin
      rw [if_pos hfin]
      exact congrArg Controls.flagFacerunning hctl
    · rw [if_neg hfin, step, stickerButton_unloaded hfin]
  | effectButton =>
    rw [step_toControls]
    rfl
  | frame fr env =>
    rw [step_toControls]
    rfl
  | _ =>
    rw [step_toControls]
    exact (Bool.and_true _).symm

/-- A press that comes back to 0 leaves detection stopped unless it found it off. -/
theorem leavesStopped_iff {s : ViewInfo} (hi : InStep s) {e : Event} :
    LeavesStopped s e ↔ ¬ StartsAtZero s e := by
  unfold LeavesStopped StartsAtZero
  by_cases hz : BringsToZero s e
  · obtain ⟨rfl, hfin, hn⟩ := hz
    obtain ⟨hi', hctl, hst, -⟩ := stickerButton_ok hi hfin
    have hrun : (step s .stickerButton).camera.faceDetection =
        (s.camera.state == .preview && !s.flagFacerunning) := by
      have hrun' := hi'.running
      rw [hctl, hst, hn] at hrun'
      rw [step, hrun']
      cases s.flagFacerunning <;> cases s.camera.state == .preview <;> rfl
    rw [hrun]
    cases hf : s.flagFacerunning <;> cases hst : s.camera.state <;>
      simp [BringsToZero, hfin, hn]
  · exact ⟨fun _ h => hz h.1, fun _ h => absurd h hz⟩

/-- **What an event does to `FollowsSelection`.** -/
theorem followsSelection_step {s : ViewInfo} (hi : InStep s) (h0 : 0 ≤ s.sticker)
    (hfol : FollowsSelection s) (e : Event) :
    FollowsSelection (step s e) ↔ ¬ StartsAtZero s e := by
  unfold FollowsSelection StartsAtZero BringsToZero
  rw [step_flagFacerunning hi, step_sticker]
  cases e with
  | stickerButton =>
    by_cases hfin : s.fin = 1
    · dsimp only
      rw [if_pos hfin, if_pos hfin]
      cases hf : s.flagFacerunning <;> by_cases hn : (s.sticker + 1).tmod maxSticker = 0 <;>
        simp [hn, hfin]
    · dsimp only
      rw [if_neg hfin, if_neg hfin]
      exact ⟨fun _ h => hfin h.1.2.1, fun _ => hfol⟩
  | effectButton =>
    refine ⟨fun _ h => absurd h.1.1 (by simp), fun _ h => ?_⟩
    simp only [Bool.and_eq_true] at h
    exact hfol h.1
  | frame fr env =>
    refine ⟨fun _ h => absurd h.1.1 (by simp), fun _ h => ?_⟩
    simp only [Bool.and_eq_true, Bool.not_eq_true', Bool.and_eq_false_iff] at h
    obtain ⟨hf, hm⟩ := h
    dsimp only
    split
    · rename_i hmoves
      have hw : wraps s.sticker = false := by
        rcases hm with hm | hm
        · rw [hmoves] at hm
          exact absurd hm (by decide)
        · exact hm
      intro hz
      rw [(advanced_eq_zero h0).mp hz] at hw
      exact absurd hw (by decide)
    · exact hfol hf
  | _ =>
    refine ⟨fun _ h => absurd h.1.1 (by simp), fun _ h => ?_⟩
    simp only [Bool.and_eq_true] at h
    exact hfol h.1

/-! ## 2. Runs -/

/-- **In a run detection keeps to the selection -- the flag is set in no state without a sticker,
    and every press that comes back to 0 leaves detection stopped -- exactly when no press comes
    back to 0 in PREVIEW while detection is off.** -/
theorem detection_follows_selection_iff {cfg : Startup} (hok : cfg.AllOk) (es : List Event) :
    (Run.All step FollowsSelection (viewCreate cfg) es ∧
        Run.Along step LeavesStopped (viewCreate cfg) es) ↔
      Run.Along step (fun s e => ¬ StartsAtZero s e) (viewCreate cfg) es := by
  obtain ⟨hi0, -, -, -, hctl0, -⟩ := viewCreate_ok hok
  have hfol0 : FollowsSelection (viewCreate cfg) := fun hf => by
    rw [hctl0] at hf
    exact absurd hf (by simp [sInfo])
  have hall : Run.All step FollowsSelection (viewCreate cfg) es ↔
      Run.Along step (fun s e => ¬ StartsAtZero s e) (viewCreate cfg) es := by
    refine Run.all_iff_along (I := fun s => InStep s ∧ 0 ≤ s.sticker) ?_ ?_ ⟨hi0, ?_⟩ hfol0 es
    · exact fun s e h _ => ⟨inStep_step h.1 e, step_sticker_nonneg h.2 e⟩
    · exact fun s e h hfol => followsSelection_step h.1 h.2 hfol e
    · rw [viewCreate_sticker]
  refine ⟨fun h => hall.mp h.1, fun h => ⟨hall.mpr h, ?_⟩⟩
  exact Run.Along.derive (I := InStep) (fun s e hi _ => inStep_step hi e)
    (fun s e hi hc => (leavesStopped_iff hi).mpr hc) hi0 h

/-- Two presses, the second with detection running. -/
theorem detection_follows_selection_twoStickers :
    Run.All step FollowsSelection (viewCreate workingStartup)
        [.enableSticker, .stickerButton, .stickerButton] ∧
      Run.Along step LeavesStopped (viewCreate workingStartup)
        [.enableSticker, .stickerButton, .stickerButton] :=
  (detection_follows_selection_iff (fun _ _ => rfl) _).mpr
    ⟨fun h => absurd h.1.1 (by simp), fun h => absurd h.1.2.2 (by decide),
      fun h => absurd h.2.2 (by decide), trivial⟩

/-- Nine sticker presses, an effect press and one more sticker press: no sticker is selected, and
    detection runs. -/
theorem nineStickersEffectSticker_detects :
    ¬ FollowsSelection (runApp workingStartup
      (.enableSticker :: List.replicate 9 .stickerButton ++ [.effectButton, .stickerButton])) := by
  intro h
  exact h (by decide +kernel) (by decide +kernel)

end SelfCamera
