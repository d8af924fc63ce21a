/-
  File:      SelfCamera/Lib/Edje.lean
  Subject:   PROGRAMS OF A LAYOUT: parts that are each in a state, and programs that wait for a
             signal from a part, may ask for the state of a part, and run a script of `set_state`
             and `emit`.

  Nothing here names a layout. Signals, parts, states and commands are parameters.

  A filter makes a program accept a signal only while a part is in a given state. Two readings of
  this differ once one signal finds several programs: the filters are looked at when the signal
  arrives, or each when the turn of its program comes and the earlier ones have run (`Look`).

  * `receive` -- a signal of a part: the states after it, and the commands emitted;
  * **`receive_sets`** -- where a state comes from;
  * `receive_none`, `receive_single` -- nobody waits, or one program does.
-/
import Mathlib.Data.List.Basic
import Mathlib.Logic.Function.Basic

namespace Edje

/-- A program of a layout. -/
structure Program (Signal Part State Command : Type*) where
  /-- does its pattern cover the signal? -/
  signal : Signal → Bool
  source : Part
  /-- the part it asks about, and the state it wants it in -/
  filter : Option (Part × State)
  /-- the `set_state` of its script -/
  setStates : List (Part × State)
  /-- the `emit` of its script -/
  emits : List Command

/-- When a filter is looked at: as the signal arrives, or as the turn of its program comes. -/
inductive Look where
  | arrival | turn
  deriving DecidableEq

variable {Signal Part State Command : Type*}

section Engine

variable [DecidableEq Part] [DecidableEq State]

namespace Program

/-- Is the signal one it waits for? -/
def waitsFor (p : Program Signal Part State Command) (sig : Signal) (source : Part) : Bool :=
  p.source == source && p.signal sig

/-- Does its filter let it run? -/
def passes (p : Program Signal Part State Command) (picture : Part → State) : Bool :=
  match p.filter with
  | none => true
  | some (part, state) => picture part == state

/-- What its script leaves. -/
def run (p : Program Signal Part State Command) (picture : Part → State) : Part → State :=
  p.setStates.foldl (fun picture set => Function.update picture set.1 set.2) picture

end Program

/-- The programs run one after the other, without a further look at their filters. -/
def runAll (picture : Part → State) :
    List (Program Signal Part State Command) → (Part → State) × List Command
  | [] => (picture, [])
  | p :: ps =>
    let (picture, commands) := runAll (p.run picture) ps
    (picture, p.emits ++ commands)

/-- Each program runs if its filter lets it when its turn comes. -/
def runInTurn (picture : Part → State) :
    List (Program Signal Part State Command) → (Part → State) × List Command
  | [] => (picture, [])
  | p :: ps =>
    if p.passes picture then
      let (picture, commands) := runInTurn (p.run picture) ps
      (picture, p.emits ++ commands)
    else runInTurn picture ps

/-- **A signal of a part**: the states after it, and the commands emitted, the first one first. -/
def receive (look : Look) (programs : List (Program Signal Part State Command)) (sig : Signal)
    (source : Part) (picture : Part → State) : (Part → State) × List Command :=
  let waiting := programs.filter fun p => p.waitsFor sig source
  match look with
  | .arrival => runAll picture (waiting.filter fun p => p.passes picture)
  | .turn => runInTurn picture waiting

/-! ## 1. Where a state and a command come from -/

omit [DecidableEq State] in
theorem run_sets (p : Program Signal Part State Command) (picture : Part → State) (part : Part) :
    p.run picture part = picture part ∨ (part, p.run picture part) ∈ p.setStates := by
  unfold Program.run
  generalize p.setStates = sets
  induction sets generalizing picture with
  | nil => exact Or.inl rfl
  | cons set sets ih =>
    rw [List.foldl_cons]
    rcases ih (Function.update picture set.1 set.2) with h | h
    · rw [h]
      by_cases hpart : part = set.1
      · subst hpart
        rw [Function.update_self]
        exact Or.inr List.mem_cons_self
      · exact Or.inl (Function.update_of_ne hpart set.2 picture)
    · exact Or.inr (List.mem_cons_of_mem set h)

omit [DecidableEq State] in
theorem runAll_sets (ps : List (Program Signal Part State Command)) (picture : Part → State)
    (part : Part) :
    (runAll picture ps).1 part = picture part ∨
      ∃ p ∈ ps, (part, (runAll picture ps).1 part) ∈ p.setStates := by
  induction ps generalizing picture with
  | nil => exact Or.inl rfl
  | cons p ps ih =>
    show (runAll (p.run picture) ps).1 part = _ ∨
      ∃ q ∈ p :: ps, (part, (runAll (p.run picture) ps).1 part) ∈ q.setStates
    rcases ih (p.run picture) with h | ⟨q, hq, h⟩
    · rw [h]
      exact (run_sets p picture part).imp_right fun hp => ⟨p, List.mem_cons_self, hp⟩
    · exact Or.inr ⟨q, List.mem_cons_of_mem p hq, h⟩

theorem runInTurn_sets (ps : List (Program Signal Part State Command)) (picture : Part → State)
    (part : Part) :
    (runInTurn picture ps).1 part = picture part ∨
      ∃ p ∈ ps, (part, (runInTurn picture ps).1 part) ∈ p.setStates := by
  induction ps generalizing picture with
  | nil => exact Or.inl rfl
  | cons p ps ih =>
    unfold runInTurn
    split
    · dsimp only
      rcases ih (p.run picture) with h | ⟨q, hq, h⟩
      · rw [h]
        exact (run_sets p picture part).imp_right fun hp => ⟨p, List.mem_cons_self, hp⟩
      · exact Or.inr ⟨q, List.mem_cons_of_mem p hq, h⟩
    · exact (ih picture).imp_right fun ⟨q, hq, h⟩ => ⟨q, List.mem_cons_of_mem p hq, h⟩

/-- **A part keeps its state, or a program that waits for the signal has set it.** -/
theorem receive_sets (look : Look) (programs : List (Program Signal Part State Command))
    (sig : Signal) (source : Part) (picture : Part → State) (part : Part) :
    (receive look programs sig source picture).1 part = picture part ∨
      ∃ p ∈ programs, p.waitsFor sig source = true ∧
        (part, (receive look programs sig source picture).1 part) ∈ p.setStates := by
  cases look with
  | arrival =>
    refine (runAll_sets _ picture part).imp_right fun ⟨p, hp, h⟩ => ?_
    have hwaits := List.mem_filter.mp (List.mem_of_mem_filter hp)
    exact ⟨p, hwaits.1, hwaits.2, h⟩
  | turn =>
    refine (runInTurn_sets _ picture part).imp_right fun ⟨p, hp, h⟩ => ?_
    have hwaits := List.mem_filter.mp hp
    exact ⟨p, hwaits.1, hwaits.2, h⟩

/-! ## 2. How many programs wait -/

/-- Nobody waits. -/
theorem receive_none {programs : List (Program Signal Part State Command)} {sig : Signal}
    {source : Part} (h : programs.filter (fun p => p.waitsFor sig source) = []) (look : Look)
    (picture : Part → State) : receive look programs sig source picture = (picture, []) := by
  unfold receive
  rw [h]
  cases look <;> rfl

/-- One program waits. -/
theorem receive_single {programs : List (Program Signal Part State Command)} {sig : Signal}
    {source : Part} {p : Program Signal Part State Command}
    (h : programs.filter (fun p => p.waitsFor sig source) = [p]) (look : Look)
    (picture : Part → State) :
    receive look programs sig source picture =
      if p.passes picture then (p.run picture, p.emits) else (picture, []) := by
  unfold receive
  rw [h]
  cases hp : p.passes picture <;> cases look <;> simp [runAll, runInTurn, hp]

end Engine

end Edje
