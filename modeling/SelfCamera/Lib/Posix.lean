/-
  File:      SelfCamera/Lib/Posix.lean
  Subject:   C STRINGS AND DIRECTORY LISTINGS: `strcmp`, `strncmp`, `alphasort`, `scandir`.

  Nothing here names a program. A C string is a list of characters, one per byte; what the calls
  return is documented by its sign only.

  * `strcmp_neg`, `strcmp_nonpos` -- byte-wise comparison is the lexicographic order;
  * `strncmp_eq_zero` -- comparing as many bytes as a text has asks whether it is a prefix;
  * `append_lt_append` -- texts that begin with blocks of one width compare block by block;
  * **`getLast?_scandir`** -- the last entry of a sorted listing is the greatest that passes the
    filter.
-/
import Mathlib.Data.Char
import Mathlib.Data.List.Lex

namespace Posix

/-! ## 1. Strings -/

/-- `strcmp(s, t)` -/
def strcmp : List Char → List Char → Int
  | [], [] => 0
  | [], _ :: _ => -1
  | _ :: _, [] => 1
  | c :: s, d :: t => if c < d then -1 else if d < c then 1 else strcmp s t

/-- `strncmp(s, t, n)` -/
def strncmp : List Char → List Char → Nat → Int
  | _, _, 0 => 0
  | [], [], _ + 1 => 0
  | [], _ :: _, _ + 1 => -1
  | _ :: _, [], _ + 1 => 1
  | c :: s, d :: t, n + 1 => if c < d then -1 else if d < c then 1 else strncmp s t n

/-- `strncpy(dst, src, n)`: the text `dst` holds afterwards. -/
def strncpy (src : List Char) (n : Nat) : List Char := src.take n

/-- `strncat(dst, src, n)`: the text `dst` holds afterwards. -/
def strncat (dst src : List Char) (n : Nat) : List Char := dst ++ src.take n

/-- **Byte-wise comparison is the lexicographic order.** -/
theorem strcmp_neg {s t : List Char} : strcmp s t < 0 ↔ s < t := by
  induction s generalizing t with
  | nil =>
    cases t with
    | nil => simp [strcmp]
    | cons d t => simp [strcmp]
  | cons c s ih =>
    cases t with
    | nil => simp [strcmp]
    | cons d t =>
      rw [List.cons_lt_cons_iff]
      unfold strcmp
      rcases lt_trichotomy c d with hlt | rfl | hgt
      · simp [hlt]
      · simpa using ih
      · simp [hgt, hgt.not_gt, hgt.ne']

theorem strcmp_nonpos {s t : List Char} : strcmp s t ≤ 0 ↔ s ≤ t := by
  induction s generalizing t with
  | nil =>
    cases t with
    | nil => simp [strcmp]
    | cons d t =>
      have hle : ([] : List Char) ≤ d :: t := (List.nil_lt_cons d t).le
      simp [strcmp, hle]
  | cons c s ih =>
    cases t with
    | nil => simp [strcmp]
    | cons d t =>
      rw [le_iff_lt_or_eq (a := c :: s), List.cons_lt_cons_iff]
      unfold strcmp
      rcases lt_trichotomy c d with hlt | rfl | hgt
      · simp [hlt]
      · rw [if_neg (lt_irrefl c), if_neg (lt_irrefl c), ih, le_iff_lt_or_eq (a := s)]
        simp
      · simp [hgt, hgt.not_gt, hgt.ne']

/-- **Comparing as many bytes as a text has asks whether it is a prefix.** -/
theorem strncmp_eq_zero {pre s : List Char} : strncmp s pre pre.length = 0 ↔ pre <+: s := by
  induction pre generalizing s with
  | nil => simp [strncmp]
  | cons d pre ih =>
    cases s with
    | nil => simp [strncmp]
    | cons c s =>
      rw [List.length_cons, List.cons_prefix_cons, ← ih]
      show (if c < d then -1 else if d < c then 1 else strncmp s pre pre.length) = 0 ↔ _
      rcases lt_trichotomy c d with hlt | rfl | hgt
      · simp [hlt, hlt.ne']
      · simp
      · simp [hgt, hgt.not_gt, hgt.ne]

theorem strncmp_comm (s t : List Char) (n : Nat) : strncmp s t n = 0 ↔ strncmp t s n = 0 := by
  induction n generalizing s t with
  | zero => simp [strncmp]
  | succ n ih =>
    cases s with
    | nil => cases t <;> simp [strncmp]
    | cons c s =>
      cases t with
      | nil => simp [strncmp]
      | cons d t =>
        unfold strncmp
        rcases lt_trichotomy c d with hlt | rfl | hgt
        · simp [hlt, hlt.not_gt]
        · simpa using ih s t
        · simp [hgt, hgt.not_gt]

/-- Comparing as many bytes as one text has, and then the lengths, asks whether they are equal. -/
theorem strncmp_length_eq {s t : List Char} :
    strncmp s t s.length = 0 ∧ s.length = t.length ↔ t = s := by
  rw [strncmp_comm, strncmp_eq_zero]
  constructor
  · intro h
    exact (h.1.eq_of_length h.2).symm
  · rintro rfl
    exact ⟨List.prefix_rfl, rfl⟩

/-- **Texts that begin with blocks of one width compare block by block.** -/
theorem append_lt_append {a b s t : List Char} (h : a.length = b.length) :
    a ++ s < b ++ t ↔ a < b ∨ a = b ∧ s < t := by
  induction a generalizing b with
  | nil =>
    obtain rfl : b = [] := List.length_eq_zero_iff.mp h.symm
    simp
  | cons c a ih =>
    cases b with
    | nil => exact absurd h (by simp)
    | cons d b =>
      have hlen : a.length = b.length := Nat.succ.inj h
      rw [List.cons_append, List.cons_append, List.cons_lt_cons_iff, List.cons_lt_cons_iff,
        ih hlen, List.cons.injEq]
      tauto

/-! ## 2. Directories -/

/-- `struct dirent`, in the field that is read. -/
structure Dirent where
  dName : List Char
  deriving DecidableEq

/-- `alphasort`, in a locale that compares byte-wise. -/
def alphasort (a b : Dirent) : Int := strcmp a.dName b.dName

/-- `scandir` over what the directory holds, in the order it is read; `none` is a directory that
    cannot be opened, and the return value -1. -/
def scandir (directory : Option (List Dirent)) (filter : Dirent → Int)
    (compar : Dirent → Dirent → Int) : Option (List Dirent) :=
  directory.map fun entries =>
    (entries.filter fun d => filter d != 0).mergeSort fun a b => compar a b ≤ 0

section Scandir

variable {entries namelist : List Dirent} {filter : Dirent → Int}

/-- A listing holds the entries that pass the filter. -/
theorem mem_scandir {compar : Dirent → Dirent → Int}
    (h : scandir (some entries) filter compar = some namelist) {d : Dirent} :
    d ∈ namelist ↔ d ∈ entries ∧ filter d ≠ 0 := by
  rw [← Option.some.inj h, List.mem_mergeSort, List.mem_filter, bne_iff_ne]

/-- It is sorted by name. -/
theorem sorted_scandir (h : scandir (some entries) filter alphasort = some namelist) :
    namelist.Pairwise fun a b => a.dName ≤ b.dName := by
  have htrans (a b c : Dirent) (hab : decide (alphasort a b ≤ 0) = true)
      (hbc : decide (alphasort b c ≤ 0) = true) : decide (alphasort a c ≤ 0) = true := by
    simp only [alphasort, decide_eq_true_eq, strcmp_nonpos] at hab hbc ⊢
    exact le_trans hab hbc
  have htotal (a b : Dirent) :
      (decide (alphasort a b ≤ 0) || decide (alphasort b a ≤ 0)) = true := by
    simp only [alphasort, Bool.or_eq_true, decide_eq_true_eq, strcmp_nonpos]
    exact le_total _ _
  rw [← Option.some.inj h]
  refine (List.pairwise_mergeSort htrans htotal _).imp fun {a b} hab => ?_
  simpa only [alphasort, decide_eq_true_eq, strcmp_nonpos] using hab

/-- **The last entry of a sorted listing is the greatest that passes the filter.** -/
theorem getLast?_scandir (h : scandir (some entries) filter alphasort = some namelist)
    {d : Dirent} (hd : d ∈ entries) (hpass : filter d ≠ 0)
    (hmax : ∀ e ∈ entries, filter e ≠ 0 → e.dName ≤ d.dName) :
    namelist.getLast? = some d := by
  have hmem := (mem_scandir h).mpr ⟨hd, hpass⟩
  have hsorted := sorted_scandir h
  rcases List.eq_nil_or_concat' namelist with rfl | ⟨init, last, rfl⟩
  · exact absurd hmem List.not_mem_nil
  · -- what stands before the last entry is not greater, and the last one is not greater than `d`
    have hlast := (mem_scandir h).mp (List.mem_append_right init List.mem_cons_self)
    have hle : d.dName ≤ last.dName := by
      rcases List.mem_append.mp hmem with hinit | heq
      · exact (List.pairwise_append.mp hsorted).2.2 d hinit last List.mem_cons_self
      · rw [List.mem_singleton.mp heq]
    have hname : last.dName = d.dName := le_antisymm (hmax last hlast.1 hlast.2) hle
    have heq : last = d := congrArg Dirent.mk hname
    rw [heq]
    exact List.getLast?_concat

end Scandir

end Posix
