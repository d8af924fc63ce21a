/-
  File:      SelfCamera/Lib/Printf.lean
  Subject:   `printf` with `%0wi`: decimal numbers, padded with zeros to a width.

  Nothing here names a program. A C string is a list of characters, one per byte.

  * `zeroPad w n` -- `%0wi` of a number that is not negative; `zeroPadInt w n` -- of any number
    (the sign counts to the width, and the zeros stand behind it);
  * `value_zeroPad` -- the number can be read back, whatever the width;
  * `zeroPad_inj`, `zeroPadInt_inj` -- so different numbers print differently;
  * `length_zeroPad` -- a number that fits the width prints in exactly that width;
    `zeroPad_lt` -- and among those the texts compare like the numbers;
  * `snprintf n text` -- what a buffer of `n` bytes holds of a text.
-/
import Mathlib.Algebra.Ring.Nat
import Mathlib.Data.Int.Init
import Mathlib.Data.List.Basic

namespace Printf

/-! ## 1. Zero padding -/

/-- `%0wi` of a number that is not negative. -/
def zeroPad (w n : Nat) : List Char :=
  List.replicate (w - (Nat.toDigits 10 n).length) '0' ++ Nat.toDigits 10 n

/-- The padding does not change the value. -/
@[simp] theorem value_zeroPad (w n : Nat) : Nat.ofDigitChars 10 (zeroPad w n) 0 = n := by
  unfold zeroPad
  rw [Nat.ofDigitChars_append, Nat.ofDigitChars_replicate_zero, Nat.mul_zero,
    Nat.ofDigitChars_ten_toDigits]

theorem zeroPad_inj {w m n : Nat} : zeroPad w m = zeroPad w n ↔ m = n := by
  constructor
  · intro h
    have hv := congrArg (fun ds => Nat.ofDigitChars 10 ds 0) h
    simpa using hv
  · rintro rfl
    rfl

/-- A number below `10 ^ w` prints in exactly `w` characters. -/
theorem length_zeroPad {w n : Nat} (hw : 0 < w) (hn : n < 10 ^ w) : (zeroPad w n).length = w := by
  have hlen : (Nat.toDigits 10 n).length ≤ w := (Nat.length_toDigits_le_iff (by omega) hw).mpr hn
  unfold zeroPad
  rw [List.length_append, List.length_replicate]
  omega

/-- Every character of a padded number is a digit. -/
theorem isDigit_zeroPad {w n : Nat} {c : Char} (h : c ∈ zeroPad w n) : c.isDigit = true := by
  rcases List.mem_append.mp h with h0 | hd
  · rw [(List.mem_replicate.mp h0).2]
    rfl
  · exact Nat.isDigit_of_mem_toDigits (by omega) (by omega) hd

/-- `%0wi`. -/
def zeroPadInt (w : Nat) (n : Int) : List Char :=
  if n < 0 then '-' :: zeroPad (w - 1) n.natAbs else zeroPad w n.natAbs

/-- No padded number without a sign begins with one. -/
theorem zeroPad_ne_sign (w n : Nat) (cs : List Char) : zeroPad w n ≠ '-' :: cs := by
  intro h
  have hd : ('-').isDigit = true := isDigit_zeroPad (h ▸ List.mem_cons_self)
  exact absurd hd (by decide)

theorem zeroPadInt_inj {w : Nat} {m n : Int} : zeroPadInt w m = zeroPadInt w n ↔ m = n := by
  constructor
  · intro h
    unfold zeroPadInt at h
    split at h <;> split at h
    · have habs := zeroPad_inj.mp (List.cons.inj h).2
      omega
    · exact absurd h.symm (zeroPad_ne_sign _ _ _)
    · exact absurd h (zeroPad_ne_sign _ _ _)
    · have habs := zeroPad_inj.mp h
      omega
  · rintro rfl
    rfl

/-! ## 2. Order -/

/-- The digits stand next to each other in the character set. -/
theorem toNat_of_isDigit {c : Char} (h : c.isDigit = true) : 48 ≤ c.toNat ∧ c.toNat ≤ 57 := by
  simp only [Char.isDigit, Bool.and_eq_true, decide_eq_true_eq] at h
  exact ⟨h.1, h.2⟩

/-- The value of the leading digit and that of the others. -/
theorem value_cons (c : Char) (ds : List Char) :
    Nat.ofDigitChars 10 (c :: ds) 0 =
      (c.toNat - 48) * 10 ^ ds.length + Nat.ofDigitChars 10 ds 0 := by
  rw [Nat.ofDigitChars_cons, Nat.ofDigitChars_eq_ofDigitChars_zero, Nat.mul_zero, Nat.zero_add,
    Nat.mul_comm]
  rfl

/-- A text of `n` digits is a number below `10 ^ n`. -/
theorem value_lt {ds : List Char} (h : ∀ c ∈ ds, c.isDigit = true) :
    Nat.ofDigitChars 10 ds 0 < 10 ^ ds.length := by
  induction ds with
  | nil => simp
  | cons c ds ih =>
    have hc := toNat_of_isDigit (h c List.mem_cons_self)
    have hds := ih fun d hd => h d (List.mem_cons_of_mem c hd)
    rw [value_cons, List.length_cons, Nat.pow_succ]
    have hle : (c.toNat - 48) * 10 ^ ds.length ≤ 9 * 10 ^ ds.length :=
      Nat.mul_le_mul_right _ (by omega)
    omega

/-- Numbers compare like their leading digits first. -/
theorem leading_lt {x y p a b : Nat} (ha : a < p) (hb : b < p) :
    x * p + a < y * p + b ↔ x < y ∨ x = y ∧ a < b := by
  rcases Nat.lt_trichotomy x y with hlt | rfl | hgt
  · have hle : (x + 1) * p ≤ y * p := Nat.mul_le_mul_right p hlt
    rw [Nat.add_mul, Nat.one_mul] at hle
    omega
  · omega
  · have hle : (y + 1) * p ≤ x * p := Nat.mul_le_mul_right p hgt
    rw [Nat.add_mul, Nat.one_mul] at hle
    omega

/-- **Texts of as many digits compare like their numbers.** -/
theorem value_lt_value {ds es : List Char} (hlen : ds.length = es.length)
    (hd : ∀ c ∈ ds, c.isDigit = true) (he : ∀ c ∈ es, c.isDigit = true) :
    Nat.ofDigitChars 10 ds 0 < Nat.ofDigitChars 10 es 0 ↔ ds < es := by
  induction ds generalizing es with
  | nil =>
    obtain rfl : es = [] := List.length_eq_zero_iff.mp hlen.symm
    simp
  | cons c ds ih =>
    cases es with
    | nil => exact absurd hlen (by simp)
    | cons e es =>
      have hlen' : ds.length = es.length := Nat.succ.inj hlen
      have hds : ∀ x ∈ ds, x.isDigit = true := fun x hx => hd x (List.mem_cons_of_mem c hx)
      have hes : ∀ x ∈ es, x.isDigit = true := fun x hx => he x (List.mem_cons_of_mem e hx)
      have hc := toNat_of_isDigit (hd c List.mem_cons_self)
      have he := toNat_of_isDigit (he e List.mem_cons_self)
      have hlt : c < e ↔ c.toNat - 48 < e.toNat - 48 := by
        have hval : c < e ↔ c.toNat < e.toNat := UInt32.lt_iff_toNat_lt
        rw [hval]
        omega
      have heq : c = e ↔ c.toNat - 48 = e.toNat - 48 := by
        rw [← Char.toNat_inj]
        omega
      have hbound := value_lt hds
      rw [hlen'] at hbound
      rw [List.cons_lt_cons_iff, ← ih hlen' hds hes, value_cons, value_cons, hlen',
        leading_lt hbound (value_lt hes), hlt, heq]

/-- **Padded numbers that fit the width compare like the numbers.** -/
theorem zeroPad_lt {w m n : Nat} (hw : 0 < w) (hm : m < 10 ^ w) (hn : n < 10 ^ w) :
    zeroPad w m < zeroPad w n ↔ m < n := by
  have hlen : (zeroPad w m).length = (zeroPad w n).length := by
    rw [length_zeroPad hw hm, length_zeroPad hw hn]
  rw [← value_lt_value hlen (fun _ h => isDigit_zeroPad h) fun _ h => isDigit_zeroPad h,
    value_zeroPad, value_zeroPad]

/-! ## 3. A bounded buffer -/

/-- What `snprintf(buf, n, …)` leaves in `buf`: the text, cut to leave room for the final zero. -/
def snprintf (n : Nat) (text : List Char) : List Char := text.take (n - 1)

/-- A text that fits is not cut. -/
theorem snprintf_fits {n : Nat} {text : List Char} (h : text.length < n) :
    snprintf n text = text :=
  List.take_of_length_le (by omega)

end Printf
