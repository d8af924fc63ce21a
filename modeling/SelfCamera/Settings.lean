/-
  File:      SelfCamera/Settings.lean
  Subject:   WHAT THE BUTTONS SET, AND WHO ELSE CAN TOUCH IT.

  Filter, motion, camera mode and the loader's mark are a machine of their own: four events move
  them, and what they become is fixed by these events alone. Frames, faces, pauses, captures and
  every answer of the device leave them as they are.

  * `Settings`, `settingsStep` -- the machine; `Event.sets` -- the events it sees;
  * `settings_step` -- one event of the application;
  * `filter_counted`, `cammode_counted`, `fin_counted` -- the machine counts;
  * **`settings_run`** -- the settings after a run.
-/
import SelfCamera.Writes
import Mathlib.Data.List.Count

namespace SelfCamera

/-- The fields of `s_info` that only buttons and the loader write. -/
structure Settings where
  filter : Int
  motion : Nat
  cammode : Nat
  fin : Int

/-- What moves them. -/
inductive Setting where
  | effect | motion | change | loaded
  deriving DecidableEq

/-- **One step of the machine.** -/
def settingsStep (c : Settings) : Setting → Settings
  | .effect => { c with filter := (c.filter + 1).tmod maxFilter }
  | .motion => { c with motion := if c.filter ≠ 0 then 0 else c.motion ^^^ 1 }
  | .change => { c with cammode := c.cammode ^^^ 1 }
  | .loaded => { c with fin := 1 }

/-- What an event of the application is to it: one step, or nothing. -/
def Event.sets : Event → List Setting
  | .effectButton => [.effect]
  | .motionButton => [.motion]
  | .changeButton => [.change]
  | .enableSticker => [.loaded]
  | _ => []

def Controls.settings (c : Controls) : Settings := ⟨c.filter, c.motion, c.cammode, c.fin⟩

/-- An event of the application moves the settings as the machine does. -/
theorem settings_step (s : ViewInfo) (e : Event) :
    (step s e).settings = Run.exec settingsStep s.settings e.sets := by
  rw [step_toControls]
  cases e with
  | stickerButton =>
    dsimp only [written]
    split <;> rfl
  | _ => rfl

/-! ## 1. The machine counts -/

/-- The filter goes round its cycle, once for every press. -/
theorem filter_counted {c : Settings} (h0 : 0 ≤ c.filter) (h1 : c.filter < maxFilter)
    (xs : List Setting) :
    (Run.exec settingsStep c xs).filter = (c.filter + xs.count .effect) % maxFilter := by
  unfold maxFilter at *
  induction xs generalizing c with
  | nil => simpa using (Int.emod_eq_of_lt h0 h1).symm
  | cons x xs ih =>
    cases x with
    | effect =>
      have hnext : (c.filter + 1).tmod 14 = (c.filter + 1) % 14 :=
        Int.tmod_eq_emod_of_nonneg (by omega)
      have hrest := ih (c := settingsStep c .effect)
        (by show 0 ≤ (c.filter + 1).tmod 14; omega) (by show (c.filter + 1).tmod 14 < 14; omega)
      have hfilter : (settingsStep c .effect).filter = (c.filter + 1) % 14 := hnext
      rw [Run.exec_cons, hrest, hfilter, List.count_cons_self]
      push_cast
      omega
    | _ =>
      rw [List.count_cons_of_ne (by decide)]
      exact ih (c := settingsStep c _) h0 h1

/-- The mode changes with every press of its button. -/
theorem cammode_counted (c : Settings) (xs : List Setting) :
    (Run.exec settingsStep c xs).cammode =
      if xs.count .change % 2 = 0 then c.cammode else c.cammode ^^^ 1 := by
  induction xs generalizing c with
  | nil => rfl
  | cons x xs ih =>
    cases x with
    | change =>
      have hback : c.cammode ^^^ 1 ^^^ 1 = c.cammode := by
        rw [Nat.xor_assoc, Nat.xor_self, Nat.xor_zero]
      rw [Run.exec_cons, ih, List.count_cons_self]
      show (if _ then c.cammode ^^^ 1 else c.cammode ^^^ 1 ^^^ 1) = _
      rw [hback]
      rcases Nat.mod_two_eq_zero_or_one (xs.count .change) with h | h
      · rw [if_pos h, if_neg (by omega)]
      · rw [if_neg (by omega), if_pos (by omega)]
    | _ =>
      rw [List.count_cons_of_ne (by decide)]
      exact ih (settingsStep c _)

/-- The loader is done once, and nothing takes that back. -/
theorem fin_counted (c : Settings) (xs : List Setting) :
    (Run.exec settingsStep c xs).fin = if .loaded ∈ xs then 1 else c.fin := by
  induction xs generalizing c with
  | nil => rfl
  | cons x xs ih =>
    rw [Run.exec_cons, ih]
    cases x <;> simp [settingsStep]

/-! ## 2. Runs -/

/-- **The settings after a run are those of the machine after the run's own settings** -- so two
    runs with the same presses in the same order have the same filter, motion and mode, whatever
    frames and faces come between them and whatever camera calls fail. The filter is the number of
    effect presses modulo `MAX_FILTER`, the mode their parity, and the predictor stays loaded. -/
theorem settings_run (cfg : Startup) (es : List Event) :
    (runApp cfg es).settings = Run.exec settingsStep ⟨0, 0, 1, 0⟩ (es.flatMap Event.sets) ∧
      (runApp cfg es).filter = (es.flatMap Event.sets).count .effect % maxFilter ∧
      (runApp cfg es).cammode =
        (if (es.flatMap Event.sets).count .change % 2 = 0 then 1 else 0) ∧
      (runApp cfg es).fin = if .loaded ∈ es.flatMap Event.sets then 1 else 0 := by
  obtain ⟨enabled, hctl⟩ := viewCreate_toControls cfg
  have hstart : (viewCreate cfg).settings = ⟨0, 0, 1, 0⟩ := by
    rw [hctl]
    rfl
  have hrun : (runApp cfg es).settings =
      Run.exec settingsStep ⟨0, 0, 1, 0⟩ (es.flatMap Event.sets) := by
    rw [← hstart]
    exact Run.exec_projects (f := fun s : ViewInfo => s.settings) settings_step (viewCreate cfg) es
  refine ⟨hrun, ?_, ?_, ?_⟩
  · have hfilter := congrArg Settings.filter hrun
    rw [filter_counted (by decide) (by decide), Int.zero_add] at hfilter
    exact hfilter
  · have hmode := congrArg Settings.cammode hrun
    rw [cammode_counted] at hmode
    exact hmode
  · have hfin := congrArg Settings.fin hrun
    rw [fin_counted] at hfin
    exact hfin

end SelfCamera
