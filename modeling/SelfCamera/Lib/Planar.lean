/-
  File:      SelfCamera/Lib/Planar.lean
  Subject:   ROW-MAJOR PLANES AND THEIR 2-BY-2 BLOCKS: where a pixel and its chroma pair lie.

  Nothing here names a program. A plane of rows of `w` cells keeps the cell `(x, y)` at
  `rowMajor w x y`. A plane of chroma pairs, one for each 2-by-2 block of pixels, keeps the pair of
  the pixel `(x, y)` at `chroma w x y` and the place after it.

  * `rowMajor_inj` -- no two cells of a window narrower than a row share a place, also where the
    window runs past the end of the row;
  * `rowMajor_lt`, `chroma_lt` -- inside the picture, inside the buffer; `rowMajor_tmod` -- and
    back;
  * `rowMajor_wrap`, `chroma_wrap` -- where a cell and a pair beyond the end of their row are;
  * `chroma_inj` -- no two blocks share a pair.
-/
import Mathlib.Tactic.Linarith

namespace Planar

/-- The place of the cell `(x, y)`. -/
def rowMajor (w x y : Int) : Int := x + y * w

/-- The first place of the chroma pair of the pixel `(x, y)`. -/
def chroma (w x y : Int) : Int := rowMajor w (2 * (x / 2)) (y / 2)

/-- **Cells less than a row apart, sideways, have different places.** -/
theorem rowMajor_inj {w x y x' y' : Int} (hlt : x - x' < w) (hgt : x' - x < w)
    (h : rowMajor w x y = rowMajor w x' y') : x = x' ∧ y = y' := by
  unfold rowMajor at h
  have hrow : (y' - y) * w = x - x' := by linarith [sub_mul y' y w]
  have hy : y' - y = 0 := by
    rcases lt_trichotomy (y' - y) 0 with hneg | hzero | hpos
    · have hle : (y' - y) * w ≤ -1 * w := Int.mul_le_mul_of_nonneg_right (by omega) (by omega)
      omega
    · exact hzero
    · have hle : 1 * w ≤ (y' - y) * w := Int.mul_le_mul_of_nonneg_right (by omega) (by omega)
      omega
  rw [hy, Int.zero_mul] at hrow
  exact ⟨by omega, by omega⟩

/-- A cell of the plane lies in its buffer. -/
theorem rowMajor_lt {w h x y : Int} (hx0 : 0 ≤ x) (hxw : x < w) (hy0 : 0 ≤ y) (hyh : y < h) :
    0 ≤ rowMajor w x y ∧ rowMajor w x y < w * h := by
  unfold rowMajor
  have hrows : (y + 1) * w ≤ h * w := Int.mul_le_mul_of_nonneg_right (by omega) (by omega)
  have hrow : 0 ≤ y * w := Int.mul_nonneg hy0 (by omega)
  rw [Int.add_mul, Int.one_mul] at hrows
  rw [Int.mul_comm w h]
  exact ⟨by omega, by omega⟩

/-- A cell of a row, taken apart again. -/
theorem rowMajor_tmod {w x y : Int} (hx0 : 0 ≤ x) (hxw : x < w) (hy0 : 0 ≤ y) :
    (rowMajor w x y).tmod w = x ∧ (rowMajor w x y).tdiv w = y := by
  have hrow : 0 ≤ rowMajor w x y := Int.add_nonneg hx0 (Int.mul_nonneg hy0 (by omega))
  rw [Int.tmod_eq_emod_of_nonneg hrow, Int.tdiv_eq_ediv_of_nonneg hrow]
  unfold rowMajor
  refine ⟨?_, ?_⟩
  · rw [Int.add_mul_emod_self_right]
    exact Int.emod_eq_of_lt hx0 hxw
  · rw [Int.add_mul_ediv_right _ _ (by omega), Int.ediv_eq_zero_of_lt hx0 hxw, Int.zero_add]

/-- The first place of a pair, as C code computes it that divides before it multiplies. -/
theorem chroma_eq {w x y : Int} (hw : w % 2 = 0) (hw0 : 0 ≤ w) (hx : 0 ≤ x) (hy : 0 ≤ y) :
    (x.tdiv 2 + (y.tdiv 2 * w).tdiv 2) * 2 = chroma w x y := by
  have hrow : y / 2 * w = 2 * (y / 2 * (w / 2)) := by
    have hw' : w = 2 * (w / 2) := by omega
    rw [Int.mul_left_comm, ← hw']
  have hrow0 : 0 ≤ y / 2 * w := Int.mul_nonneg (by omega) hw0
  rw [Int.tdiv_eq_ediv_of_nonneg hx, Int.tdiv_eq_ediv_of_nonneg hy,
    Int.tdiv_eq_ediv_of_nonneg hrow0]
  unfold chroma rowMajor
  omega

/-- The size of the chroma plane, for whole blocks. -/
theorem chroma_size {w h : Int} (heven : h % 2 = 0) : w * h / 2 = w * (h / 2) := by
  have hh : h = h / 2 * 2 := by omega
  rw [hh, ← Int.mul_assoc, Int.mul_ediv_cancel _ (by decide), Int.mul_ediv_cancel _ (by decide)]

/-- Both bytes of a pair lie in the chroma plane. -/
theorem chroma_lt {w h x y : Int} (hw : w % 2 = 0) (hh : h % 2 = 0) (hx0 : 0 ≤ x) (hxw : x < w)
    (hy0 : 0 ≤ y) (hyh : y < h) : 0 ≤ chroma w x y ∧ chroma w x y + 1 < w * h / 2 := by
  have hfirst := rowMajor_lt (w := w) (h := h / 2) (x := 2 * (x / 2)) (y := y / 2) (by omega)
    (by omega) (by omega) (by omega)
  have hsecond := rowMajor_lt (w := w) (h := h / 2) (x := 2 * (x / 2) + 1) (y := y / 2) (by omega)
    (by omega) (by omega) (by omega)
  rw [chroma_size hh]
  unfold chroma
  unfold rowMajor at *
  exact ⟨hfirst.1, by omega⟩

/-- A pair begins at an even place. -/
theorem chroma_even {w : Int} (hw : w % 2 = 0) (x y : Int) : chroma w x y % 2 = 0 := by
  have hrow : y / 2 * w = 2 * (y / 2 * (w / 2)) := by
    have hw' : w = 2 * (w / 2) := by omega
    rw [Int.mul_left_comm, ← hw']
  unfold chroma rowMajor
  omega

/-- A cell beyond the end of its row is one of a later row. -/
theorem rowMajor_wrap (w x y : Int) : rowMajor w x y = rowMajor w (x % w) (y + x / w) := by
  have hx := Int.emod_add_mul_ediv x w
  unfold rowMajor
  rw [Int.add_mul, Int.mul_comm (x / w) w]
  omega

/-- A pair beyond the end of its row is one of a later row of pairs: two rows of pixels for each
    row of pairs. -/
theorem chroma_wrap {w : Int} (hw : w % 2 = 0) (x y : Int) :
    chroma w x y = chroma w (x % w) (y + 2 * (x / w)) := by
  have hx := Int.emod_add_mul_ediv x w
  have hhalf : w * (x / w) = 2 * (w / 2 * (x / w)) := by
    rw [← Int.mul_assoc]
    congr 1
    omega
  have hrow : (y + 2 * (x / w)) / 2 = y / 2 + x / w := by omega
  unfold chroma rowMajor
  rw [hrow, Int.add_mul, Int.mul_comm (x / w) w]
  omega

/-- A cell that begins in its row lies before the end of the plane exactly if its row does. -/
theorem rowMajor_lt_iff {w x y : Int} (hx0 : 0 ≤ x) (hxw : x < w) (h : Int) :
    rowMajor w x y < w * h ↔ y < h := by
  unfold rowMajor
  rw [Int.mul_comm w h]
  constructor
  · intro hlt
    refine Classical.byContradiction fun hy => ?_
    have hrows : h * w ≤ y * w := Int.mul_le_mul_of_nonneg_right (by omega) (by omega)
    omega
  · intro hy
    have hrows : (y + 1) * w ≤ h * w := Int.mul_le_mul_of_nonneg_right (by omega) (by omega)
    rw [Int.add_mul, Int.one_mul] at hrows
    omega

/-- So does a pair. -/
theorem chroma_lt_iff {w h x y : Int} (hw : w % 2 = 0) (hh : h % 2 = 0) (hx0 : 0 ≤ x)
    (hxw : x < w) : chroma w x y < w * h / 2 ↔ y < h := by
  rw [chroma_size hh]
  exact (rowMajor_lt_iff (by omega) (by omega) (h / 2)).trans (by omega)

/-- The chroma plane has whole pairs. -/
theorem chroma_size_even {w h : Int} (hw : w % 2 = 0) (hh : h % 2 = 0) : w * h / 2 % 2 = 0 := by
  have hrow := chroma_even hw 0 h
  rw [chroma_size hh, Int.mul_comm]
  unfold chroma rowMajor at hrow
  simpa using hrow

/-- **Different blocks of a window have different pairs.** -/
theorem chroma_inj {w x y x' y' : Int} (hlt : 2 * (x / 2) - 2 * (x' / 2) < w)
    (hgt : 2 * (x' / 2) - 2 * (x / 2) < w) (h : chroma w x y = chroma w x' y') :
    x / 2 = x' / 2 ∧ y / 2 = y' / 2 := by
  obtain ⟨hx, hy⟩ := rowMajor_inj hlt hgt h
  exact ⟨by omega, hy⟩

end Planar
