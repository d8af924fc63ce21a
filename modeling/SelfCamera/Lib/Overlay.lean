/-
  File:      SelfCamera/Lib/Overlay.lean
  Subject:   LAYERS laid over a picture: at every place the topmost one that has a value shows.

  Nothing here names a program. A picture gives every place a value, a layer gives some places one.
  What a program does that draws, in any order of loops, is to lay a layer over the picture it
  finds; so a program of many such parts lays their stack over it.

  * `lay`, `atop`, `stack` -- one layer over a picture, over a layer, and many;
  * `stack_eq_findSome`, **`stack_eq_some_iff`** -- the topmost layer shows;
  * **`stack_perm`** -- layers that share no place may be laid in any order;
  * `Paints` -- a program that lays a layer, with `Paints.comp`, `Paints.fold` and
    **`Paints.loop`** -- what is made of such programs.
-/
import SelfCamera.Lib.Loop
import Mathlib.Data.List.Perm.Basic
import Mathlib.Data.List.Pairwise

namespace Overlay

variable {A B S : Type*}

/-! ## 1. Layers -/

/-- A value at some places. -/
abbrev Layer (A B : Type*) := A → Option B

/-- No value at any place. -/
def clear : Layer A B := fun _ => none

/-- A layer over a picture. -/
def lay (g : Layer A B) (b : A → B) : A → B := fun a => (g a).getD (b a)

/-- A layer on another one. -/
def atop (g h : Layer A B) : Layer A B := fun a => (g a).or (h a)

theorem lay_some {g : Layer A B} {a : A} {v : B} (h : g a = some v) (b : A → B) :
    lay g b a = v := by
  unfold lay
  rw [h]
  rfl

theorem lay_none {g : Layer A B} {a : A} (h : g a = none) (b : A → B) : lay g b a = b a := by
  unfold lay
  rw [h]
  rfl

theorem lay_atop (g h : Layer A B) (b : A → B) : lay (atop g h) b = lay g (lay h b) := by
  funext a
  unfold lay atop
  cases g a <;> rfl

theorem atop_clear (g : Layer A B) : atop g clear = g := by
  funext a
  unfold atop clear
  cases g a <;> rfl

theorem atop_assoc (g h k : Layer A B) : atop (atop g h) k = atop g (atop h k) := by
  funext a
  exact Option.or_assoc

/-- Layers laid one after another: the last one is on top. -/
def stack : List (Layer A B) → Layer A B
  | [] => clear
  | g :: gs => atop (stack gs) g

theorem stack_cons (g : Layer A B) (gs : List (Layer A B)) :
    stack (g :: gs) = atop (stack gs) g := rfl

theorem stack_append (gs hs : List (Layer A B)) :
    stack (gs ++ hs) = atop (stack hs) (stack gs) := by
  induction gs with
  | nil => exact (atop_clear _).symm
  | cons g gs ih =>
    rw [List.cons_append, stack_cons, stack_cons, ih, atop_assoc]

/-! ## 2. The topmost layer -/

/-- The last layer with a value at the place. -/
theorem stack_eq_findSome (gs : List (Layer A B)) (a : A) :
    stack gs a = gs.reverse.findSome? (· a) := by
  induction gs with
  | nil => rfl
  | cons g gs ih =>
    rw [List.reverse_cons, List.findSome?_append, ← ih, stack_cons]
    unfold atop
    cases stack gs a with
    | some v => rfl
    | none => cases h : g a <;> simp [h]

theorem stack_eq_none_iff (gs : List (Layer A B)) (a : A) :
    stack gs a = none ↔ ∀ g ∈ gs, g a = none := by
  rw [stack_eq_findSome, List.findSome?_eq_none_iff]
  simp

/-- **What shows is of a layer with nothing above it there.** -/
theorem stack_eq_some_iff (gs : List (Layer A B)) (a : A) (v : B) :
    stack gs a = some v ↔
      ∃ below g above, gs = below ++ g :: above ∧ g a = some v ∧ ∀ h ∈ above, h a = none := by
  constructor
  · intro hv
    induction gs with
    | nil => exact absurd hv (by simp [stack, clear])
    | cons g gs ih =>
      cases hgs : stack gs a with
      | some v' =>
        have hv' : stack gs a = some v := by
          rw [stack_cons, atop, hgs] at hv
          exact hgs.trans hv
        obtain ⟨below, g', above, rfl, hg', habove⟩ := ih hv'
        exact ⟨g :: below, g', above, rfl, hg', habove⟩
      | none =>
        rw [stack_cons, atop, hgs] at hv
        exact ⟨[], g, gs, rfl, hv, (stack_eq_none_iff gs a).mp hgs⟩
  · intro hshown
    rcases hshown with ⟨below, g, above, rfl, hg, habove⟩
    rw [stack_append, stack_cons, atop, atop, (stack_eq_none_iff above a).mpr habove, hg]
    rfl

/-! ## 3. Layers that share no place -/

/-- No place has a value in both. -/
def Apart (g h : Layer A B) : Prop := ∀ a, g a = none ∨ h a = none

theorem Apart.symm {g h : Layer A B} (hgh : Apart g h) : Apart h g := fun a => (hgh a).symm

theorem Apart.atop_comm {g h : Layer A B} (hgh : Apart g h) : atop g h = atop h g := by
  funext a
  unfold atop
  rcases hgh a with hnone | hnone
  · rw [hnone]
    cases h a <;> rfl
  · rw [hnone]
    cases g a <;> rfl

/-- Stacks are apart when their layers are. -/
theorem Apart.stack {gs hs : List (Layer A B)} (hapart : ∀ g ∈ gs, ∀ h ∈ hs, Apart g h) :
    Apart (stack gs) (stack hs) := by
  intro a
  by_cases hg : ∀ g ∈ gs, g a = none
  · exact Or.inl ((stack_eq_none_iff gs a).mpr hg)
  · obtain ⟨g, hmem, hsome⟩ : ∃ g ∈ gs, g a ≠ none := by simpa using hg
    exact Or.inr ((stack_eq_none_iff hs a).mpr fun h hh =>
      (hapart g hmem h hh a).resolve_left hsome)

/-- **Layers that share no place may be laid in any order.** -/
theorem stack_perm {gs hs : List (Layer A B)} (hperm : gs.Perm hs) (hapart : gs.Pairwise Apart) :
    stack gs = stack hs := by
  induction hperm with
  | nil => rfl
  | cons g hperm ih =>
    rw [stack_cons, stack_cons, ih (List.pairwise_cons.mp hapart).2]
  | swap g h ks =>
    have hgh : Apart h g := (List.pairwise_cons.mp hapart).1 g List.mem_cons_self
    rw [stack_cons, stack_cons, stack_cons, stack_cons, atop_assoc, atop_assoc, hgh.symm.atop_comm]
  | trans hgk _ ih1 ih2 =>
    rw [ih1 hapart]
    exact ih2 (hgk.pairwise hapart fun h => h.symm)

/-! ## 4. Programs that lay a layer -/

/-- In the states of `I` the program `f` keeps `I` and lays the layer `g` over what `look` sees. -/
def Paints (look : S → A → B) (I : S → Prop) (f : S → S) (g : Layer A B) : Prop :=
  ∀ s, I s → I (f s) ∧ look (f s) = lay g (look s)

namespace Paints

variable {look : S → A → B} {I : S → Prop} {f f' : S → S} {g g' : Layer A B}

theorem id : Paints look I (fun s => s) clear := fun _ hs => ⟨hs, rfl⟩

/-- One program after another. -/
theorem comp (h : Paints look I f g) (h' : Paints look I f' g') :
    Paints look I (fun s => f' (f s)) (atop g' g) := by
  intro s hs
  obtain ⟨hI, hlook⟩ := h s hs
  obtain ⟨hI', hlook'⟩ := h' (f s) hI
  refine ⟨hI', ?_⟩
  rw [hlook', hlook, lay_atop]

/-- One program for each element of a list. -/
theorem fold {C : Type*} {f : C → S → S} {g : C → Layer A B} (cs : List C)
    (h : ∀ c ∈ cs, Paints look I (f c) (g c)) :
    Paints look I (fun s => cs.foldl (fun s c => f c s) s) (stack (cs.map g)) := by
  induction cs with
  | nil => exact id
  | cons c cs ih =>
    exact (h c List.mem_cons_self).comp (ih fun c' hc' => h c' (List.mem_cons_of_mem c hc'))

/-- **A loop lays what its iterations lay**, the last one on top. -/
theorem loop {n : Int} {body : Int → S → S} {g : Int → Layer A B}
    (h : ∀ k, 0 ≤ k → k < n → Paints look I (body k) (g k)) :
    Paints look I (Loop.forLt n body) (Loop.forLt n (fun k l => atop (g k) l) clear) := by
  intro s hs
  refine Loop.forLt_related (R := fun t l => I t ∧ look t = lay l (look s)) ?_ ⟨hs, rfl⟩
  intro k t l hk0 hk ht
  obtain ⟨hI, hlook⟩ := h k hk0 hk t ht.1
  refine ⟨hI, ?_⟩
  rw [hlook, ht.2, lay_atop]

end Paints

end Overlay
