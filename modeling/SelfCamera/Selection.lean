/-
  File:      SelfCamera/Selection.lean
  Subject:   THE STICKER SELECTION over runs: who moves it, and when it stays in its cycle.

  Two things move `s_info.sticker`: the sticker button, modulo `MAX_STICKER`, and a head movement,
  by two, with a comparison that lets `MAX_STICKER` itself pass. `step_sticker` says so once.

  * `sticker_nonneg` -- it is never negative;
  * **`selection_inCycle_iff`** -- it stays below `MAX_STICKER` in a run exactly when no head
    movement finds it two below.
-/
import SelfCamera.Writes

namespace SelfCamera

/-! ## 1. Who moves the selection -/

/-- The sticker button moves the selection by one, once the predictor is loaded; whether camera
    calls fail does not matter to it. -/
theorem stickerButton_sticker (s : ViewInfo) :
    (mainViewStickerButtonCb s).sticker =
      if s.fin = 1 then (s.sticker + 1).tmod maxSticker else s.sticker := by
  rw [stickerButton_writes]
  dsimp only [written]
  split <;> rfl

/-- Does this event move the head? -/
def Event.movesHead (s : ViewInfo) : Event → Bool
  | .frame fr env => headMovement s fr env
  | _ => false

/-- **The selection after one event.** -/
theorem step_sticker (s : ViewInfo) (e : Event) :
    (step s e).sticker =
      match e with
      | .stickerButton => if s.fin = 1 then (s.sticker + 1).tmod maxSticker else s.sticker
      | e => if e.movesHead s then advanced s.sticker else s.sticker := by
  cases e with
  | stickerButton => exact stickerButton_sticker s
  | _ =>
    rw [step_toControls]
    rfl

/-! ## 2. The cycle -/

/-- A selection that has just been advanced is 0 exactly after going past the end. -/
theorem advanced_eq_zero {sticker : Int} (h : 0 ≤ sticker) :
    advanced sticker = 0 ↔ wraps sticker = true := by
  unfold advanced
  cases wraps sticker with
  | true => simp
  | false =>
    rw [if_neg (by decide)]
    exact ⟨fun hz => absurd hz (by omega), fun hw => absurd hw (by decide)⟩

theorem advanced_nonneg {sticker : Int} (h : 0 ≤ sticker) : 0 ≤ advanced sticker := by
  unfold advanced
  split <;> omega

theorem step_sticker_nonneg {s : ViewInfo} (h : 0 ≤ s.sticker) (e : Event) :
    0 ≤ (step s e).sticker := by
  rw [step_sticker]
  split
  · split
    · exact Int.tmod_nonneg _ (by omega)
    · exact h
  · split
    · exact advanced_nonneg h
    · exact h

@[simp] theorem viewCreate_sticker (cfg : Startup) : (viewCreate cfg).sticker = 0 := by
  obtain ⟨enabled, h⟩ := viewCreate_toControls cfg
  exact congrArg Controls.sticker h

/-- The selection is never negative. -/
theorem sticker_nonneg (cfg : Startup) (es : List Event) : 0 ≤ (runApp cfg es).sticker :=
  Run.invariant (P := fun s : ViewInfo => 0 ≤ s.sticker) (fun _ e h => step_sticker_nonneg h e)
    (by rw [viewCreate_sticker]) es

/-- The selection is one of `0 … MAX_STICKER - 1`. -/
def InCycle (s : ViewInfo) : Prop := 0 ≤ s.sticker ∧ s.sticker < maxSticker

/-- A head movement that finds the selection two below `MAX_STICKER`: the comparison of
    `face_landmark` lets it through to `MAX_STICKER`. -/
def PassesEnd (s : ViewInfo) (e : Event) : Prop :=
  e.movesHead s = true ∧ s.sticker = maxSticker - 2

theorem inCycle_step {s : ViewInfo} {e : Event} (h : InCycle s) (hp : ¬ PassesEnd s e) :
    InCycle (step s e) := by
  obtain ⟨h0, h1⟩ := h
  refine ⟨step_sticker_nonneg h0 e, ?_⟩
  rw [step_sticker]
  unfold maxSticker at *
  split
  · split
    · exact Int.tmod_lt_of_pos _ (by omega)
    · exact h1
  · split
    · rename_i hm
      have hne : s.sticker ≠ 10 - 2 := fun hs => hp ⟨hm, hs⟩
      unfold advanced wraps maxSticker
      split
      · omega
      · rename_i hw
        simp only [decide_eq_true_eq] at hw
        omega
    · exact h1

theorem passesEnd_step {s : ViewInfo} {e : Event} (hp : PassesEnd s e) :
    (step s e).sticker = maxSticker := by
  obtain ⟨hm, hs⟩ := hp
  cases e with
  | frame fr env =>
    rw [step_sticker]
    dsimp only
    rw [if_pos hm, hs]
    rfl
  | _ => exact absurd hm Bool.false_ne_true

/-- **The selection stays in its cycle in every state of a run exactly when no head movement of
    the run finds it two below `MAX_STICKER`** -- whatever the order of button presses, frames,
    faces, pauses and failing camera calls. -/
theorem selection_inCycle_iff (cfg : Startup) (es : List Event) :
    Run.All step InCycle (viewCreate cfg) es ↔
      Run.Along step (fun s e => ¬ PassesEnd s e) (viewCreate cfg) es := by
  have h0 : InCycle (viewCreate cfg) := by
    unfold InCycle maxSticker
    rw [viewCreate_sticker]
    omega
  refine Run.all_iff_along (I := fun _ => True) (fun _ _ _ _ => trivial)
    (fun s e _ h => ⟨fun h' hp => ?_, inCycle_step h⟩) trivial h0 es
  have hs := passesEnd_step hp
  have hlt := h'.2
  omega

/-- Eight sticker presses, motion on, one face, eight dark frames and a bright one. -/
def boundaryRun : List Event :=
  .enableSticker :: List.replicate 8 .stickerButton ++
    [.motionButton, .facesDetected [⟨0, 140, 4, 4⟩]] ++
    List.replicate 8 (.frame (evenFrame 0 128) (standingClock 0)) ++
    [.frame (evenFrame 1 128) (standingClock 0)]

/-- On that run the selection leaves its cycle. -/
theorem boundaryRun_leaves_cycle : ¬ InCycle (runApp workingStartup boundaryRun) := by
  have h : (runApp workingStartup boundaryRun).sticker = 10 := by decide +kernel
  intro hc
  have hlt := hc.2
  rw [h] at hlt
  exact absurd hlt (by decide)

end SelfCamera
