/-
  File:      SelfCamera/Lib/Loop.lean
  Subject:   THE COUNTED LOOP `for (int k = 0; k < n; k++)` over an exact integer bound.

  Nothing here names a program. `forLt n body s` runs `body 0`, `body 1`, … , `body (n - 1)` on a
  state; a bound that is not positive runs nothing.

  * `forLt_keep` -- the loop invariant (the index is at hand);
  * **`forLt_establish`** -- what one iteration establishes and every iteration keeps holds at the
    end, whatever the other iterations did before it;
  * `forLt_local` -- what only one iteration works on;
  * `forLt_first` -- the first iteration taken out;
  * `forLt_image`, `forLt_collect` -- a loop seen through a function, and what a loop gathers;
  * `forLt_record` -- what a loop writes down at each iteration;
  * `forLt_foldl` -- a loop over the indices of a list, seen through a function, is a fold;
  * `forLt_related` -- two loops side by side.
-/
import Mathlib.Data.Nat.Init
import Mathlib.Data.Int.Init

namespace Loop

variable {S : Type*}

/-- `for (int k = 0; k < n; k++) body`. -/
def forLt (n : Int) (body : Int → S → S) (s : S) : S :=
  Nat.fold n.toNat (fun k _ s => body k s) s

theorem forLt_nonpos {n : Int} (hn : n ≤ 0) (body : Int → S → S) (s : S) :
    forLt n body s = s := by
  have h : n.toNat = 0 := by omega
  unfold forLt
  rw [h]
  rfl

/-- The last iteration taken out. -/
theorem forLt_succ (n : Nat) (body : Int → S → S) (s : S) :
    forLt ((n : Int) + 1) body s = body n (forLt n body s) := by
  have h : ((n : Int) + 1).toNat = n + 1 := by omega
  unfold forLt
  rw [h, Nat.fold_succ]
  rfl

/-- **The loop invariant.** -/
theorem forLt_keep {P : S → Prop} {body : Int → S → S} {n : Int}
    (hstep : ∀ k t, 0 ≤ k → k < n → P t → P (body k t)) {s : S} (h0 : P s) :
    P (forLt n body s) := by
  by_cases hn : 0 < n
  · have hall : ∀ m : Nat, (m : Int) ≤ n → P (forLt m body s) := by
      intro m
      induction m with
      | zero => intro _; exact h0
      | succ m ih =>
        intro hm
        push_cast at hm ⊢
        rw [forLt_succ]
        exact hstep m _ (by omega) (by omega) (ih (by omega))
    obtain ⟨m, rfl⟩ := Int.eq_ofNat_of_zero_le (Int.le_of_lt hn)
    exact hall m (Int.le_refl _)
  · rw [forLt_nonpos (by omega)]
    exact h0

/-- A loop whose body changes nothing that `f` reads changes nothing that `f` reads. -/
theorem forLt_proj {T : Type*} (f : S → T) {body : Int → S → S} {n : Int}
    (hstep : ∀ k t, 0 ≤ k → k < n → f (body k t) = f t) (s : S) :
    f (forLt n body s) = f s :=
  forLt_keep (fun k t h0 hk (ht : f t = f s) => (hstep k t h0 hk).trans ht) rfl

/-- **One iteration establishes `P`, every iteration keeps it.** `I` is an invariant that both may
    use. -/
theorem forLt_establish {I P : S → Prop} {body : Int → S → S} {n j : Int} (hj0 : 0 ≤ j)
    (hj : j < n) (hI : ∀ k t, 0 ≤ k → k < n → I t → I (body k t))
    (hset : ∀ t, I t → P (body j t))
    (hkeep : ∀ k t, 0 ≤ k → k < n → I t → P t → P (body k t)) {s : S} (hs : I s) :
    P (forLt n body s) := by
  have hall : ∀ m : Nat, (m : Int) ≤ n →
      I (forLt m body s) ∧ (j < m → P (forLt m body s)) := by
    intro m
    induction m with
    | zero => intro _; exact ⟨hs, fun h => by push_cast at h; omega⟩
    | succ m ih =>
      intro hm
      push_cast at hm ⊢
      obtain ⟨hIm, hPm⟩ := ih (by omega)
      rw [forLt_succ]
      refine ⟨hI m _ (by omega) (by omega) hIm, fun hlt => ?_⟩
      by_cases hmk : (m : Int) = j
      · rw [hmk]
        exact hset _ (by rw [← hmk]; exact hIm)
      · exact hkeep m _ (by omega) (by omega) hIm (hPm (by omega))
  obtain ⟨m, rfl⟩ := Int.eq_ofNat_of_zero_le (show 0 ≤ n by omega)
  exact (hall m (Int.le_refl _)).2 hj

/-- **One iteration works on what `f` reads.** The others leave it alone, so the loop does to it
    what that one does. -/
theorem forLt_local {T : Type*} (f : S → T) (F : T → T) {body : Int → S → S} {n j : Int}
    (hj0 : 0 ≤ j) (hj : j < n) (hself : ∀ t, f (body j t) = F (f t))
    (hother : ∀ k t, 0 ≤ k → k < n → k ≠ j → f (body k t) = f t) (s : S) :
    f (forLt n body s) = F (f s) := by
  have hall : ∀ m : Nat, (m : Int) ≤ n →
      f (forLt m body s) = if j < m then F (f s) else f s := by
    intro m
    induction m with
    | zero => intro _; exact (if_neg (by push_cast; omega)).symm
    | succ m ih =>
      intro hm
      push_cast at hm ⊢
      have hm' := ih (by omega)
      rw [forLt_succ]
      by_cases hmk : (m : Int) = j
      · rw [if_neg (by omega)] at hm'
        rw [if_pos (by omega), hmk, hself, ← hmk, hm']
      · rw [hother m _ (by omega) (by omega) hmk, hm']
        by_cases hlt : j < m
        · rw [if_pos hlt, if_pos (by omega)]
        · rw [if_neg hlt, if_neg (by omega)]
  obtain ⟨m, rfl⟩ := Int.eq_ofNat_of_zero_le (show 0 ≤ n by omega)
  exact (hall m (Int.le_refl _)).trans (if_pos hj)

/-- The first iteration taken out: what it leaves, the later ones keep. -/
theorem forLt_first {T : Type*} (f : S → T) {body : Int → S → S} {n : Int} (hn : 0 < n)
    (hlater : ∀ k t, 0 < k → k < n → f (body k t) = f t) (s : S) :
    f (forLt n body s) = f (body 0 s) := by
  have hall : ∀ m : Nat, (m : Int) + 1 ≤ n → f (forLt ((m : Int) + 1) body s) = f (body 0 s) := by
    intro m
    induction m with
    | zero => intro _; rw [forLt_succ]; rfl
    | succ m ih =>
      intro hm
      rw [forLt_succ, hlater _ _ (by omega) (by omega)]
      push_cast at hm ⊢
      exact ih (by omega)
  have hm := hall (n - 1).toNat (by omega)
  have hn' : (((n - 1).toNat : Nat) : Int) + 1 = n := by omega
  rwa [hn'] at hm

/-- A loop seen through `f` is a loop, where every body is. -/
theorem forLt_image {T : Type*} (f : S → T) {body : Int → S → S} {body' : Int → T → T} {n : Int}
    (hstep : ∀ k t, 0 ≤ k → k < n → f (body k t) = body' k (f t)) (s : S) :
    f (forLt n body s) = forLt n body' (f s) := by
  by_cases hn : 0 < n
  · have hall : ∀ m : Nat, (m : Int) ≤ n → f (forLt m body s) = forLt m body' (f s) := by
      intro m
      induction m with
      | zero => intro _; rfl
      | succ m ih =>
        intro hm
        push_cast at hm ⊢
        rw [forLt_succ, forLt_succ, hstep m _ (by omega) (by omega), ih (by omega)]
    obtain ⟨m, rfl⟩ := Int.eq_ofNat_of_zero_le (Int.le_of_lt hn)
    exact hall m (Int.le_refl _)
  · rw [forLt_nonpos (by omega), forLt_nonpos (by omega)]

/-- **What a loop gathers**: where the iteration `k` adds `R k` to `Q`, the loop adds `R` of all of
    them. -/
theorem forLt_collect {I Q : S → Prop} {R : Int → Prop} {body : Int → S → S} {n : Int}
    (hI : ∀ k t, 0 ≤ k → k < n → I t → I (body k t))
    (hQ : ∀ k t, 0 ≤ k → k < n → I t → (Q (body k t) ↔ Q t ∨ R k)) {s : S} (hs : I s) :
    Q (forLt n body s) ↔ Q s ∨ ∃ k, (0 ≤ k ∧ k < n) ∧ R k := by
  by_cases hn : 0 < n
  · have hall : ∀ m : Nat, (m : Int) ≤ n → I (forLt m body s) ∧
        (Q (forLt m body s) ↔ Q s ∨ ∃ k, (0 ≤ k ∧ k < (m : Int)) ∧ R k) := by
      intro m
      induction m with
      | zero =>
        refine fun _ => ⟨hs, Or.inl, fun h => h.resolve_right ?_⟩
        intro hround
        rcases hround with ⟨k, ⟨h0, hk⟩, -⟩
        push_cast at hk
        omega
      | succ m ih =>
        intro hm
        push_cast at hm ⊢
        obtain ⟨hIm, hQm⟩ := ih (by omega)
        rw [forLt_succ]
        refine ⟨hI m _ (by omega) (by omega) hIm, ?_⟩
        rw [hQ m _ (by omega) (by omega) hIm, hQm, or_assoc]
        refine or_congr_right ⟨?_, ?_⟩
        · intro hround
          rcases hround with ⟨k, ⟨h0, hk⟩, hR⟩ | hR
          · exact ⟨k, ⟨h0, by omega⟩, hR⟩
          · exact ⟨m, ⟨by omega, by omega⟩, hR⟩
        · intro hround
          rcases hround with ⟨k, ⟨h0, hk⟩, hR⟩
          by_cases hlast : k = m
          · exact Or.inr (hlast ▸ hR)
          · exact Or.inl ⟨k, ⟨h0, by omega⟩, hR⟩
    obtain ⟨m, rfl⟩ := Int.eq_ofNat_of_zero_le (Int.le_of_lt hn)
    exact (hall m (Int.le_refl _)).2
  · rw [forLt_nonpos (by omega)]
    refine ⟨Or.inl, fun h => h.resolve_right ?_⟩
    intro hround
    rcases hround with ⟨k, ⟨h0, hk⟩, -⟩
    omega

/-- A record with one entry for each iteration, the last one first. -/
theorem forLt_record {T : Type*} (f : Int → T) (body : Int → S → S) (n : Int) (s : S) :
    (forLt n (fun k r => (body k r.1, f k :: r.2)) (s, [])).2 =
      ((List.range n.toNat).map fun k : Nat => f k).reverse := by
  unfold forLt
  induction n.toNat with
  | zero => rfl
  | succ m ih =>
    rw [Nat.fold_succ, List.range_succ, List.map_append, List.reverse_append]
    exact congrArg (f m :: ·) ih

/-- **A loop over the indices of a list**, where `f` of the state takes up one element in each
    iteration. `I` is an invariant that knows the index. -/
theorem forLt_foldl {T A : Type*} (xs : List A) (f : S → T) (put : T → A → T)
    {body : Int → S → S} {I : Int → S → Prop}
    (hI : ∀ (k : Int) t, 0 ≤ k → k < xs.length → I k t → I (k + 1) (body k t))
    (hput : ∀ (k : Nat) (hk : k < xs.length) t, I k t → f (body k t) = put (f t) xs[k])
    {s : S} (h0 : I 0 s) : f (forLt xs.length body s) = xs.foldl put (f s) := by
  have hall : ∀ m : Nat, m ≤ xs.length →
      I m (forLt m body s) ∧ f (forLt m body s) = (xs.take m).foldl put (f s) := by
    intro m
    induction m with
    | zero => exact fun _ => ⟨h0, rfl⟩
    | succ m ih =>
      intro hm
      obtain ⟨hIm, hfm⟩ := ih (by omega)
      push_cast
      rw [forLt_succ]
      refine ⟨hI m _ (by omega) (by omega) hIm, ?_⟩
      rw [hput m (by omega) _ hIm, hfm, List.take_succ_eq_append_getElem (by omega),
        List.foldl_append]
      rfl
  have h := (hall xs.length (Nat.le_refl _)).2
  rwa [List.take_length] at h

/-- **Two loops side by side**: what one iteration of both keeps, the loops keep. -/
theorem forLt_related {T : Type*} {R : S → T → Prop} {body : Int → S → S} {body' : Int → T → T}
    {n : Int} (hstep : ∀ k s t, 0 ≤ k → k < n → R s t → R (body k s) (body' k t)) {s : S} {t : T}
    (h0 : R s t) : R (forLt n body s) (forLt n body' t) := by
  by_cases hn : 0 < n
  · have hall : ∀ m : Nat, (m : Int) ≤ n → R (forLt m body s) (forLt m body' t) := by
      intro m
      induction m with
      | zero => exact fun _ => h0
      | succ m ih =>
        intro hm
        push_cast at hm ⊢
        rw [forLt_succ, forLt_succ]
        exact hstep m _ _ (by omega) (by omega) (ih (by omega))
    obtain ⟨m, rfl⟩ := Int.eq_ofNat_of_zero_le (Int.le_of_lt hn)
    exact hall m (Int.le_refl _)
  · rw [forLt_nonpos (by omega), forLt_nonpos (by omega)]
    exact h0

end Loop
