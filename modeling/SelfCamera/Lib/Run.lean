/-
  File:      SelfCamera/Lib/Run.lean
  Subject:   RUNS OF A DETERMINISTIC EVENT MACHINE: a state, a step function, a list of events.

  Nothing here names a program. A machine is a function `step : S → E → S`; a run is the list of
  events it was fed.

  * `exec` -- the state after a run; `All P` -- every state of the run has `P`; `Along C` -- every
    step of the run meets `C` in the state it is taken in;
  * `all_iff_exec` -- `All` speaks about the states after the prefixes of the run;
  * `invariant`, `invariant_along` -- what one step preserves, a run preserves (in the second the
    step may assume `C`);
  * `all_of_invariant`, `along_of_invariant`, `along_congr` -- what an invariant gives about every
    state, and about every step, of a run;
  * `watched` -- the machine with an observer beside it, which changes no run (`exec_watched`);
  * **`all_iff_along`** -- the exactness rule: where a step keeps `P` exactly when it meets `C`, a
    run has `P` everywhere exactly when it meets `C` everywhere (`all_iff_along_under`: under an
    assumption on its steps);
  * `exec_related` -- two machines side by side; `outputs`, **`exec_simulates`** -- a machine that
    drives another one by what it puts out; `exec_projects` -- where that is fixed by the event;
  * `exec_records` -- a record of what every step puts out.
-/
import Mathlib.Data.List.Basic

namespace Run

variable {S E : Type*} (step : S → E → S)

/-- The machine with an observer beside it, which sees each step and the state it is taken in. -/
def watched {H : Type*} (observe : S → H → E → H) (p : S × H) (e : E) : S × H :=
  (step p.1 e, observe p.1 p.2 e)

/-- The state a run ends in. -/
def exec (s : S) : List E → S
  | [] => s
  | e :: es => exec (step s e) es

/-- Every state of the run, the first and the last included, has `P`. -/
def All (P : S → Prop) (s : S) : List E → Prop
  | [] => P s
  | e :: es => P s ∧ All P (step s e) es

/-- Every step of the run meets `C`, a condition on the event and the state before it. -/
def Along (C : S → E → Prop) (s : S) : List E → Prop
  | [] => True
  | e :: es => C s e ∧ Along C (step s e) es

/-- What a run puts out, where every step puts out a list. -/
def outputs {F : Type*} (out : S → E → List F) (s : S) : List E → List F
  | [] => []
  | e :: es => out s e ++ outputs out (step s e) es

section Exec

variable {step}

@[simp] theorem exec_nil (s : S) : exec step s [] = s := rfl

@[simp] theorem exec_cons (s : S) (e : E) (es : List E) :
    exec step s (e :: es) = exec step (step s e) es := rfl

/-- The observer changes no run. -/
theorem exec_watched {H : Type*} (observe : S → H → E → H) (p : S × H) (es : List E) :
    (exec (watched step observe) p es).1 = exec step p.1 es := by
  induction es generalizing p with
  | nil => rfl
  | cons e es ih => exact ih (step p.1 e, observe p.1 p.2 e)

theorem exec_append (s : S) (es fs : List E) :
    exec step s (es ++ fs) = exec step (exec step s es) fs := by
  induction es generalizing s with
  | nil => rfl
  | cons e es ih => exact ih (step s e)

end Exec

section Rules

variable {step} {P Q : S → Prop} {C D : S → E → Prop}

theorem All.first {s : S} {es : List E} (h : All step P s es) : P s := by
  cases es with
  | nil => exact h
  | cons e es => exact h.1

theorem All.mono (hPQ : ∀ s, P s → Q s) {s : S} {es : List E} (h : All step P s es) :
    All step Q s es := by
  induction es generalizing s with
  | nil => exact hPQ s h
  | cons e es ih => exact ⟨hPQ s h.1, ih h.2⟩

theorem Along.mono (hCD : ∀ s e, C s e → D s e) {s : S} {es : List E} (h : Along step C s es) :
    Along step D s es := by
  induction es generalizing s with
  | nil => trivial
  | cons e es ih => exact ⟨hCD s e h.1, ih h.2⟩

/-- `All` speaks about the states after the prefixes of the run. -/
theorem all_iff_exec {s : S} {es : List E} :
    All step P s es ↔ ∀ pre, pre <+: es → P (exec step s pre) := by
  induction es generalizing s with
  | nil =>
    constructor
    · intro h pre hpre
      rw [List.prefix_nil.mp hpre]
      exact h
    · intro h
      exact h [] (List.prefix_refl [])
  | cons e es ih =>
    constructor
    · intro hcons pre hpre
      rcases hcons with ⟨h0, h⟩
      cases pre with
      | nil => exact h0
      | cons e' pre =>
        obtain ⟨rfl, hpre'⟩ := List.cons_prefix_cons.mp hpre
        exact ih.mp h pre hpre'
    · intro h
      refine ⟨h [] (List.nil_prefix), ih.mpr fun pre hpre => ?_⟩
      exact h (e :: pre) (List.cons_prefix_cons.mpr ⟨rfl, hpre⟩)

/-- **What every step preserves, a run preserves.** -/
theorem invariant (hstep : ∀ s e, P s → P (step s e)) {s : S} (h0 : P s) (es : List E) :
    P (exec step s es) := by
  induction es generalizing s with
  | nil => exact h0
  | cons e es ih => exact ih (hstep s e h0)

/-- **What every step under `C` preserves, a run whose steps all meet `C` has everywhere.** -/
theorem invariant_along (hstep : ∀ s e, P s → C s e → P (step s e)) {s : S} (h0 : P s)
    {es : List E} (h : Along step C s es) : All step P s es := by
  induction es generalizing s with
  | nil => exact h0
  | cons e es ih => exact ⟨h0, ih (hstep s e h0 h.1) h.2⟩

/-- What an invariant and one step's `C` give about that step, a run meeting `C` has at every
    step. -/
theorem Along.derive {I : S → Prop} (hI : ∀ s e, I s → C s e → I (step s e))
    (hD : ∀ s e, I s → C s e → D s e) {s : S} (h0 : I s) {es : List E} (h : Along step C s es) :
    Along step D s es := by
  induction es generalizing s with
  | nil => trivial
  | cons e es ih => exact ⟨hD s e h0 h.1, ih (hI s e h0 h.1) h.2⟩

/-- What an invariant gives about a state, every state of a run has. -/
theorem all_of_invariant {I : S → Prop} (hI : ∀ s e, I s → I (step s e)) (hP : ∀ s, I s → P s)
    {s : S} (h0 : I s) (es : List E) : All step P s es :=
  all_iff_exec.mpr fun pre _ => hP _ (invariant hI h0 pre)

/-- What an invariant gives about a step, every step of a run has. -/
theorem along_of_invariant {I : S → Prop} (hI : ∀ s e, I s → I (step s e))
    (hC : ∀ s e, I s → C s e) {s : S} (h0 : I s) (es : List E) : Along step C s es := by
  induction es generalizing s with
  | nil => trivial
  | cons e es ih => exact ⟨hC s e h0, ih (hI s e h0)⟩

/-- Two conditions that say the same wherever an invariant holds say the same about runs. -/
theorem along_congr {I : S → Prop} (hI : ∀ s e, I s → I (step s e))
    (hCD : ∀ s e, I s → (C s e ↔ D s e)) {s : S} (h0 : I s) (es : List E) :
    Along step C s es ↔ Along step D s es := by
  induction es generalizing s with
  | nil => exact Iff.rfl
  | cons e es ih => exact and_congr (hCD s e h0) (ih (hI s e h0))

/-- **Exactness.** Where a step keeps `P` exactly when it meets `C`, a run has `P` everywhere
    exactly when all of its steps meet `C`. `I` is an invariant of the states that have `P`. -/
theorem all_iff_along {I : S → Prop} (hI : ∀ s e, I s → P s → I (step s e))
    (hstep : ∀ s e, I s → P s → (P (step s e) ↔ C s e)) {s : S} (h0 : I s) (hP : P s)
    (es : List E) : All step P s es ↔ Along step C s es := by
  induction es generalizing s with
  | nil => exact ⟨fun _ => trivial, fun _ => hP⟩
  | cons e es ih =>
    have hnext := hI s e h0 hP
    have hkeep := hstep s e h0 hP
    constructor
    · intro hall
      rcases hall with ⟨_, h⟩
      exact ⟨hkeep.mp h.first, (ih hnext h.first).mp h⟩
    · intro halong
      rcases halong with ⟨hC, h⟩
      exact ⟨hP, (ih hnext (hkeep.mpr hC)).mpr h⟩

/-- **Exactness under an assumption**: the same for the runs whose steps all meet `D`. -/
theorem all_iff_along_under {I : S → Prop} (hI : ∀ s e, I s → D s e → P s → I (step s e))
    (hstep : ∀ s e, I s → D s e → P s → (P (step s e) ↔ C s e)) {s : S} (h0 : I s) (hP : P s)
    {es : List E} (hD : Along step D s es) : All step P s es ↔ Along step C s es := by
  induction es generalizing s with
  | nil => exact ⟨fun _ => trivial, fun _ => hP⟩
  | cons e es ih =>
    obtain ⟨hDe, hDs⟩ := hD
    have hnext := hI s e h0 hDe hP
    have hkeep := hstep s e h0 hDe hP
    constructor
    · intro hall
      rcases hall with ⟨_, h⟩
      exact ⟨hkeep.mp h.first, (ih hnext h.first hDs).mp h⟩
    · intro halong
      rcases halong with ⟨hC, h⟩
      exact ⟨hP, (ih hnext (hkeep.mpr hC) hDs).mpr h⟩

end Rules

section TwoMachines

variable {step} {T F : Type*} {step' : T → F → T}

/-- **A machine that drives another one**: where a step of the first moves `f` of its state by the
    events it puts out, a run moves it by all that it puts out. `I` is an invariant of the first. -/
theorem exec_simulates {f : S → T} {out : S → E → List F} {I : S → Prop}
    (hI : ∀ s e, I s → I (step s e))
    (hstep : ∀ s e, I s → f (step s e) = exec step' (f s) (out s e)) {s : S} (h0 : I s)
    (es : List E) : f (exec step s es) = exec step' (f s) (outputs step out s es) := by
  induction es generalizing s with
  | nil => rfl
  | cons e es ih =>
    rw [exec_cons, ih (hI s e h0), hstep s e h0]
    exact (exec_append (f s) (out s e) (outputs step out (step s e) es)).symm

/-- **A record, newest first, of what every step puts out** is that of what the run puts out. -/
theorem exec_records {F : Type*} {f : S → List F} {out : S → E → List F}
    (hstep : ∀ s e, f (step s e) = (out s e).reverse ++ f s) (s : S) (es : List E) :
    f (exec step s es) = (outputs step out s es).reverse ++ f s := by
  induction es generalizing s with
  | nil => rfl
  | cons e es ih =>
    unfold outputs
    rw [exec_cons, ih, hstep, List.reverse_append, List.append_assoc]

/-- Where what a step puts out depends on the event alone, the machine that is driven sees nothing
    of the other one but the events. -/
theorem exec_projects {f : S → T} {out : E → List F}
    (hstep : ∀ s e, f (step s e) = exec step' (f s) (out e)) (s : S) (es : List E) :
    f (exec step s es) = exec step' (f s) (es.flatMap out) := by
  induction es generalizing s with
  | nil => rfl
  | cons e es ih =>
    rw [exec_cons, ih, hstep, List.flatMap_cons]
    exact (exec_append (f s) (out e) (es.flatMap out)).symm

end TwoMachines

end Run
