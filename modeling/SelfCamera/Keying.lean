/-
  File:      SelfCamera/Keying.lean
  Subject:   THE BACKGROUND OF A STICKER: which of its pixels are left out?

  The tests of the two blitters are meant to leave out what is white, or black: a luma beyond a
  threshold, and a chroma near the middle. But the chroma bytes are compared with `||` where both
  bounds should hold, so every byte passes, and what is bright, or dark, is left out in any colour.

  * `Drawn` -- the blit writes the pixel, `shows_of_drawn` -- and what is seen of it;
  * `drawn_iff` -- both blitters draw what their test lets pass;
  * **`blitters_keyNeutral_iff`** -- the stickers that lose their background only.
-/
import SelfCamera.Blit
import SelfCamera.BlitBounds

namespace SelfCamera

open Planar

/-! ## 1. Drawn and left out -/

/-- The sticker pixel `(i, j)` lies on the frame when the sticker is put at `(p, q)`. -/
structure Lands (frame : Frame) (imginfo : ImageInfo) (p q i j : Int) : Prop where
  column : 0 ≤ i ∧ i < imginfo.width
  row : 0 ≤ j ∧ j < imginfo.height
  x : 0 ≤ placed p imginfo.width + i ∧ placed p imginfo.width + i < frame.width
  y : 0 ≤ placed q imginfo.height + j ∧ placed q imginfo.height + j < frame.height

/-- The place of its luma byte in the frame. -/
def target (frame : Frame) (imginfo : ImageInfo) (p q i j : Int) : Int :=
  rowMajor frame.width (placed p imginfo.width + i) (placed q imginfo.height + j)

/-- The blit writes the pixel: its luma byte is among the writes. -/
def Drawn (keyed : Keyed) (frame : Frame) (imginfo : ImageInfo) (p q i j : Int) : Prop :=
  .writeY (target frame imginfo p q i j) ∈ accesses keyed frame imginfo p q

/-- The luma of a sticker pixel. -/
def lumaOf (imginfo : ImageInfo) (i j : Int) : UInt8 :=
  imginfo.data (rowMajor imginfo.width i j)

/-- Its chroma bytes, U first. -/
def chromaOf (imginfo : ImageInfo) (i j : Int) : UInt8 × UInt8 :=
  let pair := imginfo.width * imginfo.height + chroma imginfo.width i j
  (imginfo.data pair, imginfo.data (pair + 1))

section Pixels

variable {frame : Frame} {imginfo : ImageInfo} (hfits : Fits frame imginfo) (keyed : Keyed)
  {p q i j : Int} (hlands : Lands frame imginfo p q i j)

include hfits hlands

/-- The body of the copy loops for a pixel on the frame: the test decides. -/
theorem copyPixel_lands :
    copyPixel keyed frame imginfo (placed p imginfo.width) (placed q imginfo.height) i j =
      if keyed (lumaOf imginfo i j) (chromaOf imginfo i j).1 (chromaOf imginfo i j).2 then none
      else some (pixelWrite frame.width imginfo (placed p imginfo.width + i)
        (placed q imginfo.height + j) i j) := by
  have hinside := copyPixel_inside hfits keyed hlands.column.1 hlands.column.2 hlands.row.1
    hlands.row.2 hlands.x.1 hlands.x.2 hlands.y.1 hlands.y.2
  unfold chromaOf
  rw [Int.mul_comm imginfo.width, Int.add_comm (imginfo.height * imginfo.width)]
  exact hinside

/-- **A pixel on the frame is drawn unless it is keyed out**; no other pixel has its place. -/
theorem drawn_iff :
    Drawn keyed frame imginfo p q i j ↔
      keyed (lumaOf imginfo i j) (chromaOf imginfo i j).1 (chromaOf imginfo i j).2 = false := by
  have hown := copyPixel_lands hfits keyed hlands
  unfold Drawn
  rw [mem_accesses_iff]
  constructor
  · intro hmem
    obtain ⟨j', hj', i', hi', hmem⟩ := hmem
    obtain ⟨w, hw, hpt⟩ := (copyAccesses_writes ..).1.mp hmem
    have hle := hfits.width_le
    have hi := hlands.column
    rcases copyPixel_cases hfits keyed _ _ hi'.1 hi'.2 hj'.1 with hnone | hsome
    · exact absurd (hnone.symm.trans hw) (by simp)
    · -- a write to this place is the pixel's own: the sticker is no wider than a row
      obtain rfl := Option.some.inj (hsome.symm.trans hw)
      obtain ⟨hx, hy⟩ := rowMajor_inj (by omega) (by omega) hpt
      obtain rfl : i' = i := by omega
      obtain rfl : j' = j := by omega
      rw [hown] at hw
      cases hkey : keyed (lumaOf imginfo i' j') (chromaOf imginfo i' j').1
          (chromaOf imginfo i' j').2 with
      | false => rfl
      | true =>
        rw [hkey] at hw
        exact absurd hw (by simp)
  · intro hkey
    rw [hkey, if_neg Bool.false_ne_true] at hown
    exact ⟨j, hlands.row, i, hlands.column, (copyAccesses_writes ..).1.mpr ⟨_, hown, rfl⟩⟩

/-- What is drawn shows in the photo, in its colour. -/
theorem shows_of_drawn (h : Drawn keyed frame imginfo p q i j) :
    Shows (imageUtilCpy keyed frame imginfo p q) imginfo (placed p imginfo.width + i)
      (placed q imginfo.height + j) i j := by
  have hown := copyPixel_lands hfits keyed hlands
  rw [(drawn_iff hfits keyed hlands).mp h, if_neg Bool.false_ne_true] at hown
  have hkept := holds_kept hfits keyed (j := j) (placed_even p imginfo.width)
    (placed_even q imginfo.height) hlands.column.1 hlands.column.2
  exact shows_of_holds hfits (imageUtilCpy_header keyed frame imginfo p q) hlands.x.1 hlands.x.2
    hlands.y.1 hlands.y.2
    (imageUtilCpy_establish hkept hlands.column hlands.row hown fun t => put_holds t _)

end Pixels

/-! ## 2. The background -/

/-- A chroma byte near the middle. -/
def Neutral (c : UInt8) : Prop := 124 < c ∧ c < 132

/-- **Only neutral background is left out**: a pixel on the frame that is not drawn has a
    background luma and two neutral chroma bytes, and one with a background luma and another
    chroma is drawn. -/
structure KeysNeutral (keyed : Keyed) (background : UInt8 → Prop) (frame : Frame)
    (imginfo : ImageInfo) (p q : Int) : Prop where
  undrawn : ∀ i j, Lands frame imginfo p q i j → ¬ Drawn keyed frame imginfo p q i j →
    background (lumaOf imginfo i j) ∧ Neutral (chromaOf imginfo i j).1 ∧
      Neutral (chromaOf imginfo i j).2
  saturated : ∀ i j, Lands frame imginfo p q i j → background (lumaOf imginfo i j) →
    ¬ (Neutral (chromaOf imginfo i j).1 ∧ Neutral (chromaOf imginfo i j).2) →
    Drawn keyed frame imginfo p q i j

/-- The background on the frame has no colour. -/
def NeutralBackground (background : UInt8 → Prop) (frame : Frame) (imginfo : ImageInfo)
    (p q : Int) : Prop :=
  ∀ i j, Lands frame imginfo p q i j → background (lumaOf imginfo i j) →
    Neutral (chromaOf imginfo i j).1 ∧ Neutral (chromaOf imginfo i j).2

/-- A blitter that looks at the luma alone leaves out neutral background only exactly if there is
    no other. -/
theorem keysNeutral_iff {keyed : Keyed} {background : UInt8 → Prop} {frame : Frame}
    {imginfo : ImageInfo} (hfits : Fits frame imginfo)
    (hkeyed : ∀ y u v, keyed y u v = false ↔ ¬ background y) (p q : Int) :
    KeysNeutral keyed background frame imginfo p q ↔
      NeutralBackground background frame imginfo p q := by
  constructor
  · intro h i j hlands hback
    have hnot : ¬ Drawn keyed frame imginfo p q i j := fun hdrawn =>
      (hkeyed ..).mp ((drawn_iff hfits keyed hlands).mp hdrawn) hback
    exact (h.undrawn i j hlands hnot).2
  · intro h
    refine ⟨fun i j hlands hnot => ?_, fun i j hlands hback hcolour => ?_⟩
    · have hback : background (lumaOf imginfo i j) := by
        refine Classical.byContradiction fun hno => hnot ?_
        exact (drawn_iff hfits keyed hlands).mpr ((hkeyed ..).mpr hno)
      exact ⟨hback, h i j hlands hback⟩
    · exact absurd (h i j hlands hback) hcolour

/-- **Both blitters leave out neutral background only, exactly when every background pixel of the
    sticker that lies on the frame is neutral** -- at any anchor. -/
theorem blitters_keyNeutral_iff {frame : Frame} {imginfo : ImageInfo} (hfits : Fits frame imginfo)
    (p q : Int) :
    (KeysNeutral yuvKeyed (· > 230) frame imginfo p q ↔
        NeutralBackground (· > 230) frame imginfo p q) ∧
      (KeysNeutral santaKeyed (· < 30) frame imginfo p q ↔
        NeutralBackground (· < 30) frame imginfo p q) := by
  constructor
  · refine keysNeutral_iff hfits (fun y u v => ?_) p q
    rw [yuvKeyed_luma]
    exact decide_eq_false_iff_not
  · refine keysNeutral_iff hfits (fun y u v => ?_) p q
    rw [santaKeyed_luma]
    exact decide_eq_false_iff_not

/-- A sticker of 2 by 2 with a constant luma and a constant chroma. -/
def plainSticker (luma colour : UInt8) : ImageInfo :=
  ⟨fun k => if k < 4 then luma else colour, 6, 2, 2⟩

/-- Its chroma is the constant one everywhere. -/
theorem chromaOf_plainSticker (luma colour : UInt8) {i j : Int} (hi : 0 ≤ i ∧ i < 2)
    (hj : 0 ≤ j ∧ j < 2) : chromaOf (plainSticker luma colour) i j = (colour, colour) := by
  have hpair : 0 ≤ chroma 2 i j :=
    (chroma_lt (h := 2) (by decide) (by decide) hi.1 hi.2 hj.1 hj.2).1
  unfold chromaOf plainSticker
  dsimp only
  rw [if_neg (by omega), if_neg (by omega)]

/-- A white sticker: its background has no colour. -/
theorem blitters_keyNeutral_white :
    KeysNeutral yuvKeyed (· > 230) (evenFrame 0 128) (plainSticker 255 128) 2 2 :=
  (blitters_keyNeutral_iff ⟨by decide, by decide, by decide, by decide, by decide, by decide,
    by decide, by decide⟩ 2 2).1.mpr fun i j hlands _ => by
      rw [chromaOf_plainSticker 255 128 hlands.column hlands.row]
      unfold Neutral
      decide

/-- A bright green sticker is left out like a white one. -/
theorem brightGreen_leftOut :
    ¬ KeysNeutral yuvKeyed (· > 230) (evenFrame 0 128) (plainSticker 235 60) 2 2 := by
  intro h
  have hdrawn := h.saturated 0 0 ⟨by decide, by decide, by decide, by decide⟩ (by decide)
    (by unfold Neutral; decide)
  exact absurd hdrawn (by unfold Drawn; decide +kernel)

end SelfCamera
