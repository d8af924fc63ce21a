/-
  File:      SelfCamera/Overhang.lean
  Subject:   A STICKER OVER THE EDGE: does a blit change anything outside the sticker's rectangle?

  The copy loops skip the pixels above and left of the frame. On the other two edges they test the
  index in the buffer only: what overhangs the bottom has none, but what overhangs the right edge
  has one, in the next row of the luma plane and in the next row of pairs of the chroma plane.

  * `drawn_of_copyPixel`, `copyPixel_of_drawn` -- which pixels are drawn, and where;
  * `KeepsOutside` -- the property; `Clipped` -- the anchors and sizes with nothing over the right
    edge, or with it off the frame, or back in the rectangle;
  * **`blitters_clip_iff`** -- both blitters, for every content.
-/
import SelfCamera.Blit

namespace SelfCamera

open Planar

/-- A frame and a sticker of even sizes, with the buffers of NV12 pictures. -/
structure EvenSizes (frame : Frame) (imginfo : ImageInfo) : Prop where
  width_nonneg : 0 ≤ frame.width
  width_even : frame.width % 2 = 0
  height_even : frame.height % 2 = 0
  ySize_eq : frame.ySize = frame.width * frame.height
  uvSize_eq : frame.uvSize = frame.width * frame.height / 2
  stickerWidth_even : imginfo.width % 2 = 0
  stickerHeight_even : imginfo.height % 2 = 0
  size_eq : imginfo.size = imginfo.width * imginfo.height * 3 / 2

/-- The pixel `(x, y)` lies in the rectangle of the sticker whose corner is at `(p, q)`. -/
def Covers (imginfo : ImageInfo) (p q x y : Int) : Prop :=
  (p ≤ x ∧ x < p + imginfo.width) ∧ q ≤ y ∧ y < q + imginfo.height

/-- **A blit changes nothing outside the rectangle of the sticker**: no luma byte there, and no
    chroma pair whose block does not meet it. -/
structure KeepsOutside (keyed : Keyed) (frame : Frame) (imginfo : ImageInfo) (p q : Int) :
    Prop where
  luma : ∀ x y, (0 ≤ x ∧ x < frame.width) → (0 ≤ y ∧ y < frame.height) →
    ¬ Covers imginfo (placed p imginfo.width) (placed q imginfo.height) x y →
    (imageUtilCpy keyed frame imginfo p q).y (rowMajor frame.width x y) =
      frame.y (rowMajor frame.width x y)
  chroma : ∀ x y, (0 ≤ x ∧ x < frame.width) → (0 ≤ y ∧ y < frame.height) →
    (∀ x' y', x' / 2 = x / 2 → y' / 2 = y / 2 →
      ¬ Covers imginfo (placed p imginfo.width) (placed q imginfo.height) x' y') →
    (imageUtilCpy keyed frame imginfo p q).uv (chroma frame.width x y) =
        frame.uv (chroma frame.width x y) ∧
      (imageUtilCpy keyed frame imginfo p q).uv (chroma frame.width x y + 1) =
        frame.uv (chroma frame.width x y + 1)

/-- Nothing of the sticker is over the right edge, or nothing that is reaches the frame; a sticker
    that hangs over both sides may also reach down to the bottom. -/
def Clipped (frame : Frame) (imginfo : ImageInfo) (p q : Int) : Prop :=
  let p := placed p imginfo.width
  let q := placed q imginfo.height
  frame.width = 0 ∨ imginfo.width ≤ 0 ∨ imginfo.height ≤ 0 ∨
    p + imginfo.width ≤ frame.width ∨ q + imginfo.height ≤ 0 ∨
    if p ≤ 0 then frame.height ≤ q + imginfo.height
    else frame.height ≤ max q 0 + 2 * (max p frame.width / frame.width)

/-! ## 1. The pixels that are drawn -/

section Drawn

variable {frame : Frame} {imginfo : ImageInfo} (hsizes : EvenSizes frame imginfo)

include hsizes

/-- The guards of the copy loops, for a pixel neither above nor left of the frame: its pair must
    begin in the chroma plane. -/
theorem lands_iff (hfw : 0 < frame.width) {X Y : Int} (hX : 0 ≤ X) :
    (rowMajor frame.width X Y < frame.ySize ∧ chroma frame.width X Y < frame.uvSize) ↔
      Y + 2 * (X / frame.width) < frame.height := by
  have hmod0 := Int.emod_nonneg X (Int.ne_of_gt hfw)
  have hmod := Int.emod_lt_of_pos X hfw
  have hdown : 0 ≤ X / frame.width := Int.ediv_nonneg hX (by omega)
  rw [hsizes.ySize_eq, hsizes.uvSize_eq, rowMajor_wrap, chroma_wrap hsizes.width_even,
    rowMajor_lt_iff hmod0 hmod, chroma_lt_iff hsizes.width_even hsizes.height_even hmod0 hmod]
  omega

variable {keyed : Keyed} {p q i j : Int} (hi : 0 ≤ i ∧ i < imginfo.width) (hj0 : 0 ≤ j)

include hi hj0

/-- **A pixel that is drawn lands on the frame, with its own bytes.** -/
theorem drawn_of_copyPixel {w : PixelWrite} (h : copyPixel keyed frame imginfo p q i j = some w) :
    0 < frame.width ∧ w = pixelWrite frame.width imginfo (p + i) (q + j) i j ∧ 0 ≤ p + i ∧
      0 ≤ q + j ∧ q + j + 2 * ((p + i) / frame.width) < frame.height := by
  rw [copyPixel_eq hsizes.width_even hsizes.width_nonneg hsizes.stickerWidth_even (by omega) keyed
    p q hi.1 hj0] at h
  dsimp only at h
  split at h
  · exact absurd h (by simp)
  · rename_i hin
    split at h
    · split at h
      · exact absurd h (by simp)
      · split at h
        · rename_i hroom
          have hfw : 0 < frame.width := by
            refine Classical.byContradiction fun hno => ?_
            have hzero : frame.width = 0 := by
              have hnonneg := hsizes.width_nonneg
              omega
            have hluma := hroom.1
            rw [hsizes.ySize_eq] at hluma
            simp only [pixelWrite, rowMajor, hzero] at hluma
            omega
          exact ⟨hfw, (Option.some.inj h).symm, by omega, by omega,
            (lands_iff hsizes hfw (by omega)).mp hroom⟩
        · exact absurd h (by simp)
    · exact absurd h (by simp)

variable (keyed) in
/-- A pixel that lands on the frame and is not keyed out is drawn. -/
theorem copyPixel_of_drawn (hj : j < imginfo.height) (hfw : 0 < frame.width) (hX : 0 ≤ p + i)
    (hY : 0 ≤ q + j) (hlands : q + j + 2 * ((p + i) / frame.width) < frame.height)
    (hkey : ∀ u v, keyed (imginfo.data (rowMajor imginfo.width i j)) u v = false) :
    copyPixel keyed frame imginfo p q i j =
      some (pixelWrite frame.width imginfo (p + i) (q + j) i j) := by
  rw [copyPixel_paired hsizes.width_even hsizes.width_nonneg hsizes.stickerWidth_even
    hsizes.stickerHeight_even hsizes.size_eq keyed hi ⟨hj0, hj⟩ hX hY]
  dsimp only
  rw [if_neg (by rw [pixelWrite, hkey]; decide)]
  exact if_pos ((lands_iff hsizes hfw hX).mpr hlands)

end Drawn

/-! ## 2. Clipped stickers -/

/-- **Where the sticker is clipped, what is drawn is drawn in the rectangle**: the luma byte of a
    pixel over the right edge goes one row down, its pair two. -/
theorem drawn_covered {frame : Frame} {imginfo : ImageInfo} {p q i j : Int}
    (hclip : Clipped frame imginfo p q) (hfw : 0 < frame.width)
    (hi : 0 ≤ i ∧ i < imginfo.width) (hj : 0 ≤ j ∧ j < imginfo.height)
    (hX : 0 ≤ placed p imginfo.width + i) (hY : 0 ≤ placed q imginfo.height + j)
    (hlands : placed q imginfo.height + j + 2 * ((placed p imginfo.width + i) / frame.width) <
      frame.height) :
    let X := placed p imginfo.width + i
    let Y := placed q imginfo.height + j
    Covers imginfo (placed p imginfo.width) (placed q imginfo.height) (X % frame.width)
        (Y + X / frame.width) ∧
      Covers imginfo (placed p imginfo.width) (placed q imginfo.height) (X % frame.width)
        (Y + 2 * (X / frame.width)) := by
  unfold Clipped at hclip
  generalize placed p imginfo.width = p0 at *
  generalize placed q imginfo.height = q0 at *
  dsimp only at hclip ⊢
  unfold Covers
  by_cases hin : p0 + i < frame.width
  · rw [Int.emod_eq_of_lt hX hin, Int.ediv_eq_zero_of_lt hX hin]
    omega
  · have hmod0 := Int.emod_nonneg (p0 + i) (Int.ne_of_gt hfw)
    have hmod := Int.emod_lt_of_pos (p0 + i) hfw
    have hdown : 0 ≤ (p0 + i) / frame.width := Int.ediv_nonneg hX (by omega)
    have hreach : (if p0 ≤ 0 then frame.height ≤ q0 + imginfo.height
        else frame.height ≤ max q0 0 + 2 * (max p0 frame.width / frame.width)) := by
      rcases hclip with h | h | h | h | h | h
      · omega
      · omega
      · omega
      · omega
      · omega
      · exact h
    by_cases hleft : p0 ≤ 0
    · rw [if_pos hleft] at hreach
      omega
    · -- the first pixel over the edge would land below the frame
      rw [if_neg hleft] at hreach
      have hfirst : max p0 frame.width / frame.width ≤ (p0 + i) / frame.width :=
        Int.ediv_le_ediv hfw (by omega)
      omega

/-- **A clipped sticker changes nothing outside its rectangle.** -/
theorem keepsOutside_of_clipped {frame : Frame} {imginfo : ImageInfo}
    (hsizes : EvenSizes frame imginfo) (keyed : Keyed) {p q : Int}
    (hclip : Clipped frame imginfo p q) : KeepsOutside keyed frame imginfo p q := by
  have hwidth := hsizes.width_even
  refine ⟨fun x y hx hy hout => ?_, fun x y hx hy hout => ?_⟩
  · refine imageUtilCpy_keep
      (P := fun t => t.y (rowMajor frame.width x y) = frame.y (rowMajor frame.width x y)) ?_ rfl
    intro t i j w _ hi hj hw h
    obtain ⟨hfw, rfl, hX, hY, hlands⟩ := drawn_of_copyPixel hsizes hi hj.1 hw
    have hin := (drawn_covered hclip hfw hi hj hX hY hlands).1
    have hmod0 := Int.emod_nonneg (placed p imginfo.width + i) (Int.ne_of_gt hfw)
    have hmod := Int.emod_lt_of_pos (placed p imginfo.width + i) hfw
    refine (Buffer.set_ne _ _ fun hsame => hout ?_).trans h
    dsimp only [pixelWrite] at hsame
    rw [rowMajor_wrap frame.width (placed p imginfo.width + i)] at hsame
    obtain ⟨hx', hy'⟩ := rowMajor_inj (by omega) (by omega) hsame
    rw [hx', hy']
    exact hin
  · refine imageUtilCpy_keep (P := fun t =>
      t.uv (chroma frame.width x y) = frame.uv (chroma frame.width x y) ∧
        t.uv (chroma frame.width x y + 1) = frame.uv (chroma frame.width x y + 1)) ?_ ⟨rfl, rfl⟩
    intro t i j w _ hi hj hw h
    obtain ⟨hfw, rfl, hX, hY, hlands⟩ := drawn_of_copyPixel hsizes hi hj.1 hw
    have hin := (drawn_covered hclip hfw hi hj hX hY hlands).2
    have hmod0 := Int.emod_nonneg (placed p imginfo.width + i) (Int.ne_of_gt hfw)
    have hmod := Int.emod_lt_of_pos (placed p imginfo.width + i) hfw
    have hpair : chroma frame.width (placed p imginfo.width + i) (placed q imginfo.height + j) ≠
        chroma frame.width x y := fun hsame => by
      rw [chroma_wrap hwidth] at hsame
      obtain ⟨hx', hy'⟩ := chroma_inj (by omega) (by omega) hsame
      exact hout _ _ hx' hy' hin
    have heven := chroma_even hwidth x y
    have heven' := chroma_even hwidth (placed p imginfo.width + i) (placed q imginfo.height + j)
    refine ⟨?_, ?_⟩
    · exact (Buffer.set_ne _ _ (by dsimp only [pixelWrite]; omega)).trans
        ((Buffer.set_ne _ _ (by dsimp only [pixelWrite]; omega)).trans h.1)
    · exact (Buffer.set_ne _ _ (by dsimp only [pixelWrite]; omega)).trans
        ((Buffer.set_ne _ _ (by dsimp only [pixelWrite]; omega)).trans h.2)

/-! ## 3. The others -/

/-- **Where the sticker is not clipped, a pixel over the right edge lands outside the sticker.** -/
theorem spill_of_not_clipped {frame : Frame} {imginfo : ImageInfo}
    (hsizes : EvenSizes frame imginfo) {p q : Int} (hclip : ¬ Clipped frame imginfo p q) :
    ∃ i j, (0 ≤ i ∧ i < imginfo.width) ∧ (0 ≤ j ∧ j < imginfo.height) ∧ 0 < frame.width ∧
      0 ≤ placed p imginfo.width + i ∧ 0 ≤ placed q imginfo.height + j ∧
      placed q imginfo.height + j + 2 * ((placed p imginfo.width + i) / frame.width) <
        frame.height ∧
      ¬ Covers imginfo (placed p imginfo.width) (placed q imginfo.height)
        ((placed p imginfo.width + i) % frame.width)
        (placed q imginfo.height + j + (placed p imginfo.width + i) / frame.width) := by
  have hnonneg := hsizes.width_nonneg
  have hfh := hsizes.height_even
  have hsh := hsizes.stickerHeight_even
  have hq0 := placed_even q imginfo.height
  unfold Clipped at hclip
  unfold Covers
  generalize placed p imginfo.width = p0 at *
  generalize placed q imginfo.height = q0 at *
  dsimp only at hclip
  simp only [not_or] at hclip
  obtain ⟨hfw, hsw0, hsh0, hright, hbelow, hreach⟩ := hclip
  by_cases hleft : p0 ≤ 0
  · -- the last row of the sticker goes on below it
    rw [if_pos hleft] at hreach
    have hone : frame.width / frame.width = 1 := Int.ediv_self hfw
    refine ⟨frame.width - p0, imginfo.height - 1, by omega, by omega, by omega, by omega, by omega,
      ?_, ?_⟩
    · rw [show p0 + (frame.width - p0) = frame.width by omega, hone]
      omega
    · rw [show p0 + (frame.width - p0) = frame.width by omega, hone]
      omega
  · -- the first pixel over the edge lands left of it
    rw [if_neg hleft] at hreach
    refine ⟨max p0 frame.width - p0, max q0 0 - q0, by omega, by omega, by omega, by omega,
      by omega, ?_, ?_⟩
    · rw [show p0 + (max p0 frame.width - p0) = max p0 frame.width by omega]
      omega
    · rw [show p0 + (max p0 frame.width - p0) = max p0 frame.width by omega]
      have hstart : max p0 frame.width % frame.width < p0 := by
        by_cases hp : frame.width ≤ p0
        · have hmod := Int.emod_lt_of_pos (max p0 frame.width) (by omega : 0 < frame.width)
          omega
        · rw [Int.max_eq_right (by omega), Int.emod_self]
          omega
      omega

/-- The sizes do not depend on the contents. -/
theorem EvenSizes.contents {frame : Frame} {imginfo : ImageInfo} (h : EvenSizes frame imginfo)
    (y uv data : Buffer) :
    EvenSizes { frame with y := y, uv := uv } { imginfo with data := data } :=
  ⟨h.width_nonneg, h.width_even, h.height_even, h.ySize_eq, h.uvSize_eq, h.stickerWidth_even,
    h.stickerHeight_even, h.size_eq⟩

/-- Of a sticker of one luma every pixel that lands on the frame is there afterwards: no later one
    takes it back. -/
theorem drawn_stays {frame : Frame} {imginfo : ImageInfo} (hsizes : EvenSizes frame imginfo)
    (keyed : Keyed) {luma : UInt8} (hdata : ∀ k, imginfo.data k = luma)
    (hkey : ∀ u v, keyed luma u v = false) {p q i j : Int} (hi : 0 ≤ i ∧ i < imginfo.width)
    (hj : 0 ≤ j ∧ j < imginfo.height) (hfw : 0 < frame.width)
    (hX : 0 ≤ placed p imginfo.width + i) (hY : 0 ≤ placed q imginfo.height + j)
    (hlands : placed q imginfo.height + j + 2 * ((placed p imginfo.width + i) / frame.width) <
      frame.height) :
    (imageUtilCpy keyed frame imginfo p q).y
      (rowMajor frame.width (placed p imginfo.width + i) (placed q imginfo.height + j)) = luma := by
  have hdrawn := copyPixel_of_drawn hsizes keyed hi hj.1 hj.2 hfw hX hY hlands
    fun u v => by rw [hdata]; exact hkey u v
  refine imageUtilCpy_establish (P := fun t => t.y (rowMajor frame.width
    (placed p imginfo.width + i) (placed q imginfo.height + j)) = luma) ?_ hi hj hdrawn fun t => ?_
  · intro t i' j' w _ hi' hj' hw h
    obtain ⟨-, rfl, -⟩ := drawn_of_copyPixel hsizes hi' hj'.1 hw
    by_cases hsame : rowMajor frame.width (placed p imginfo.width + i)
        (placed q imginfo.height + j) = rowMajor frame.width (placed p imginfo.width + i')
        (placed q imginfo.height + j')
    · rw [hsame]
      exact (Buffer.set_same ..).trans (hdata _)
    · exact (Buffer.set_ne _ _ hsame).trans h
  · exact (Buffer.set_same ..).trans (hdata _)

/-- **There a grey sticker changes a black frame.** -/
theorem not_keepsOutside {frame : Frame} {imginfo : ImageInfo} (hsizes : EvenSizes frame imginfo)
    {keyed : Keyed} (hkey : ∀ u v, keyed 128 u v = false) {p q : Int}
    (hclip : ¬ Clipped frame imginfo p q) :
    ¬ KeepsOutside keyed { frame with y := fun _ => 0, uv := fun _ => 0 }
      { imginfo with data := fun _ => 128 } p q := by
  intro hkeep
  obtain ⟨i, j, hi, hj, hfw, hX, hY, hlands, hout⟩ := spill_of_not_clipped hsizes hclip
  have hgrey := drawn_stays (hsizes.contents (fun _ => 0) (fun _ => 0) (fun _ => 128))
    keyed (fun _ => rfl) hkey hi hj hfw hX hY hlands
  have hmod0 := Int.emod_nonneg (placed p imginfo.width + i) (Int.ne_of_gt hfw)
  have hmod := Int.emod_lt_of_pos (placed p imginfo.width + i) hfw
  have hdown : 0 ≤ (placed p imginfo.width + i) / frame.width := Int.ediv_nonneg hX (by omega)
  have hblack := hkeep.luma _ _ ⟨hmod0, hmod⟩ ⟨by omega, by dsimp only; omega⟩ hout
  dsimp only at hblack hgrey
  rw [← rowMajor_wrap] at hblack
  exact absurd (hblack.symm.trans hgrey) (by decide)

/-- **For every content of the frame and of the sticker a blit changes nothing outside the
    rectangle of the sticker, exactly where the sticker is clipped** -- for both blitters. -/
theorem blitters_clip_iff {frame : Frame} {imginfo : ImageInfo} (hsizes : EvenSizes frame imginfo)
    (p q : Int) :
    ((∀ y uv data, KeepsOutside yuvKeyed { frame with y := y, uv := uv }
          { imginfo with data := data } p q) ↔ Clipped frame imginfo p q) ∧
      ((∀ y uv data, KeepsOutside santaKeyed { frame with y := y, uv := uv }
          { imginfo with data := data } p q) ↔ Clipped frame imginfo p q) := by
  have hboth (keyed : Keyed) (hkey : ∀ u v, keyed 128 u v = false) :
      (∀ y uv data, KeepsOutside keyed { frame with y := y, uv := uv }
        { imginfo with data := data } p q) ↔ Clipped frame imginfo p q := by
    refine ⟨fun h => Classical.byContradiction fun hclip => ?_, fun hclip y uv data => ?_⟩
    · exact not_keepsOutside hsizes hkey hclip (h _ _ _)
    · exact keepsOutside_of_clipped (hsizes.contents y uv data) keyed hclip
  refine ⟨hboth yuvKeyed fun u v => ?_, hboth santaKeyed fun u v => ?_⟩
  · rw [yuvKeyed_luma]
    rfl
  · rw [santaKeyed_luma]
    rfl

/-- A sticker of 2 by 2 in the last corner of a frame of 4 by 4. -/
theorem blitters_clip_corner :
    (∀ y uv data, KeepsOutside yuvKeyed { evenFrame 0 128 with y := y, uv := uv }
        { greySticker 2 2 with data := data } 3 3) ∧
      ∀ y uv data, KeepsOutside santaKeyed { evenFrame 0 128 with y := y, uv := uv }
        { greySticker 2 2 with data := data } 3 3 := by
  have hclip : Clipped (evenFrame 0 128) (greySticker 2 2) 3 3 :=
    Or.inr (Or.inr (Or.inr (Or.inl (by decide))))
  have hsizes : EvenSizes (evenFrame 0 128) (greySticker 2 2) :=
    ⟨by decide, by decide, by decide, by decide, by decide, by decide, by decide, by decide⟩
  have hiff := blitters_clip_iff hsizes 3 3
  exact ⟨hiff.1.mpr hclip, hiff.2.mpr hclip⟩

/-- To the right of the frame: the first row of the sticker is in the second row of the frame. -/
theorem rightOfFrame_spills : ¬ KeepsOutside yuvKeyed (evenFrame 0 128) (greySticker 2 2) 5 0 := by
  intro h
  have hkept := h.luma 0 1 (by decide) (by decide) (by unfold Covers; decide)
  exact absurd hkept (by decide)

end SelfCamera
