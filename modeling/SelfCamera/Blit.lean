/-
  File:      SelfCamera/Blit.lean
  Subject:   A STICKER IN A PHOTO: is every pixel that should be visible there, in its colour?

  The copy loops write a luma byte for each pixel and a chroma pair for each pixel too, so four
  pixels write the same pair, and pixels beyond the right edge write into the next row. The corner
  is rounded to even coordinates: the blocks of the sticker lie on the blocks of the frame, and
  pixels that share a pair agree about it.

  * `pixelWrite`, `copyPixel_cases`, `copyPixel_inside` -- what one pixel writes, and when;
  * `Holds`, `pixelWrite_compatible` -- what it leaves, and that no other pixel takes it back;
  * `imageUtilCpy_keep`, `imageUtilCpy_establish` -- the rules of the copy loops;
  * **`sticker_drawn`** -- both blitters, and the capture after them.
-/
import SelfCamera.Chroma
import SelfCamera.Lib.Planar

namespace SelfCamera

open Planar

/-- A frame of whole chroma pairs, and a sticker that is no wider. -/
structure Fits (frame : Frame) (imginfo : ImageInfo) : Prop where
  width_even : frame.width % 2 = 0
  height_even : frame.height % 2 = 0
  ySize_eq : frame.ySize = frame.width * frame.height
  uvSize_eq : frame.uvSize = frame.width * frame.height / 2
  stickerWidth_even : imginfo.width % 2 = 0
  stickerHeight_even : imginfo.height % 2 = 0
  width_le : imginfo.width ≤ frame.width
  size_eq : imginfo.size = imginfo.width * imginfo.height * 3 / 2

/-! ## 1. What one pixel writes -/

/-- The write of the sticker pixel `(i, j)` to the pixel `(x, y)` of a frame of width `fw`. -/
def pixelWrite (fw : Int) (imginfo : ImageInfo) (x y i j : Int) : PixelWrite :=
  let pair := chroma imginfo.width i j + imginfo.height * imginfo.width
  ⟨rowMajor fw x y, chroma fw x y, imginfo.data (rowMajor imginfo.width i j), imginfo.data pair,
    imginfo.data (pair + 1)⟩

/-- The corner has even coordinates. -/
theorem placed_even (p sw : Int) : placed p sw % 2 = 0 := by
  have hiff (n : Int) : n.tmod 2 = 0 ↔ n % 2 = 0 := by
    rw [← Int.dvd_iff_tmod_eq_zero, Int.dvd_iff_emod_eq_zero]
  unfold placed
  dsimp only
  split
  · rename_i hodd
    have hodd' := mt (hiff _).mpr hodd
    omega
  · rename_i heven
    exact (hiff _).mp (not_not.mp heven)

/-- The body of the copy loops, in the terms of planes. -/
theorem copyPixel_eq {frame : Frame} {imginfo : ImageInfo} (hfw : frame.width % 2 = 0)
    (hfw0 : 0 ≤ frame.width) (hsw : imginfo.width % 2 = 0) (hsw0 : 0 ≤ imginfo.width)
    (keyed : Keyed) (p q : Int) {i j : Int} (hi : 0 ≤ i) (hj : 0 ≤ j) :
    copyPixel keyed frame imginfo p q i j =
      let w := pixelWrite frame.width imginfo (p + i) (q + j) i j
      if p + i < 0 ∨ q + j < 0 then none
      else if chroma imginfo.width i j + imginfo.height * imginfo.width < imginfo.size then
        if keyed w.y w.u w.v then none
        else if w.pt < frame.ySize ∧ w.ptpt < frame.uvSize then some w
        else none
      else none := by
  unfold copyPixel
  dsimp only
  split
  · rfl
  · rename_i hin
    rw [chroma_eq hfw hfw0 (by omega) (by omega), chroma_eq hsw hsw0 hi hj]
    rfl

/-- A sticker of even sizes has a chroma pair for each of its pixels: for one neither above nor
    left of the frame the test and the room in the frame decide. -/
theorem copyPixel_paired {frame : Frame} {imginfo : ImageInfo} (hfw : frame.width % 2 = 0)
    (hfw0 : 0 ≤ frame.width) (hsw : imginfo.width % 2 = 0) (hsh : imginfo.height % 2 = 0)
    (hsize : imginfo.size = imginfo.width * imginfo.height * 3 / 2) (keyed : Keyed)
    {p q i j : Int} (hi : 0 ≤ i ∧ i < imginfo.width) (hj : 0 ≤ j ∧ j < imginfo.height)
    (hx : 0 ≤ p + i) (hy : 0 ≤ q + j) :
    copyPixel keyed frame imginfo p q i j =
      let w := pixelWrite frame.width imginfo (p + i) (q + j) i j
      if keyed w.y w.u w.v then none
      else if w.pt < frame.ySize ∧ w.ptpt < frame.uvSize then some w
      else none := by
  have hpair := chroma_lt hsw hsh hi.1 hi.2 hj.1 hj.2
  have hcomm := Int.mul_comm imginfo.height imginfo.width
  rw [copyPixel_eq hfw hfw0 hsw (by omega) keyed p q hi.1 hj.1]
  dsimp only
  rw [if_neg (by omega), if_pos (by omega)]

section Pixels

variable {frame : Frame} {imginfo : ImageInfo} (hfits : Fits frame imginfo) (keyed : Keyed)

include hfits

/-- **A pixel writes nothing, or its own bytes to its own places.** -/
theorem copyPixel_cases (p q : Int) {i j : Int} (hi0 : 0 ≤ i) (hi : i < imginfo.width)
    (hj0 : 0 ≤ j) :
    copyPixel keyed frame imginfo p q i j = none ∨
      copyPixel keyed frame imginfo p q i j =
        some (pixelWrite frame.width imginfo (p + i) (q + j) i j) := by
  have hle := hfits.width_le
  rw [copyPixel_eq hfits.width_even (by omega) hfits.stickerWidth_even (by omega) keyed p q hi0 hj0]
  dsimp only
  split
  · exact Or.inl rfl
  · split
    · split
      · exact Or.inl rfl
      · split
        · exact Or.inr rfl
        · exact Or.inl rfl
    · exact Or.inl rfl

/-- **A pixel of the sticker that lands in the frame is written unless it is keyed out.** -/
theorem copyPixel_inside {p q i j : Int} (hi0 : 0 ≤ i) (hi : i < imginfo.width) (hj0 : 0 ≤ j)
    (hj : j < imginfo.height) (hx0 : 0 ≤ p + i) (hx : p + i < frame.width) (hy0 : 0 ≤ q + j)
    (hy : q + j < frame.height) :
    copyPixel keyed frame imginfo p q i j =
      let w := pixelWrite frame.width imginfo (p + i) (q + j) i j
      if keyed w.y w.u w.v then none else some w := by
  have hluma := rowMajor_lt hx0 hx hy0 hy
  have hchroma := chroma_lt hfits.width_even hfits.height_even hx0 hx hy0 hy
  have hroom : rowMajor frame.width (p + i) (q + j) < frame.ySize ∧
      chroma frame.width (p + i) (q + j) < frame.uvSize := by
    rw [hfits.ySize_eq, hfits.uvSize_eq]
    exact ⟨hluma.2, by omega⟩
  rw [copyPixel_paired hfits.width_even (by omega) hfits.stickerWidth_even
    hfits.stickerHeight_even hfits.size_eq keyed ⟨hi0, hi⟩ ⟨hj0, hj⟩ hx0 hy0]
  dsimp only
  split
  · rfl
  · exact if_pos hroom

/-- A pixel of the sticker that lands in the frame and is not keyed out is written. -/
theorem copyPixel_drawn {p q i j : Int} (hi0 : 0 ≤ i) (hi : i < imginfo.width) (hj0 : 0 ≤ j)
    (hj : j < imginfo.height) (hx0 : 0 ≤ p + i) (hx : p + i < frame.width) (hy0 : 0 ≤ q + j)
    (hy : q + j < frame.height)
    (hkey : ∀ u v, keyed (imginfo.data (rowMajor imginfo.width i j)) u v = false) :
    copyPixel keyed frame imginfo p q i j =
      some (pixelWrite frame.width imginfo (p + i) (q + j) i j) := by
  rw [copyPixel_inside hfits keyed hi0 hi hj0 hj hx0 hx hy0 hy]
  exact if_neg (by rw [pixelWrite, hkey]; decide)

end Pixels

/-! ## 2. What a pixel leaves -/

/-- The bytes of a write are in the frame. -/
def Holds (frame : Frame) (w : PixelWrite) : Prop :=
  frame.y w.pt = w.y ∧ frame.uv w.ptpt = w.v ∧ frame.uv (w.ptpt + 1) = w.u

/-- Two writes that do not contradict each other. -/
structure Compatible (w w' : PixelWrite) : Prop where
  luma : w'.pt = w.pt → w'.y = w.y
  chroma : w'.ptpt = w.ptpt → w'.u = w.u ∧ w'.v = w.v
  even : w.ptpt % 2 = 0
  even' : w'.ptpt % 2 = 0

theorem put_holds (frame : Frame) (w : PixelWrite) : Holds (frame.put w) w := by
  refine ⟨Buffer.set_same .., ?_, Buffer.set_same ..⟩
  exact (Buffer.set_ne _ _ (by omega)).trans (Buffer.set_same ..)

/-- A compatible write takes nothing back. -/
theorem put_keeps {frame : Frame} {w w' : PixelWrite} (h : Holds frame w)
    (hc : Compatible w w') : Holds (frame.put w') w := by
  obtain ⟨hy, hv, hu⟩ := h
  have heven := hc.even
  have heven' := hc.even'
  refine ⟨?_, ?_, ?_⟩
  · by_cases hpt : w'.pt = w.pt
    · rw [← hc.luma hpt, ← hpt]
      exact Buffer.set_same ..
    · exact (Buffer.set_ne _ _ (Ne.symm hpt)).trans hy
  · by_cases hpair : w'.ptpt = w.ptpt
    · rw [← (hc.chroma hpair).2, ← hpair]
      exact (Buffer.set_ne _ _ (by omega)).trans (Buffer.set_same ..)
    · refine (Buffer.set_ne _ _ (by omega)).trans ((Buffer.set_ne _ _ (by omega)).trans hv)
  · by_cases hpair : w'.ptpt = w.ptpt
    · rw [← (hc.chroma hpair).1, ← hpair]
      exact Buffer.set_same ..
    · refine (Buffer.set_ne _ _ (by omega)).trans ((Buffer.set_ne _ _ (by omega)).trans hu)

/-- **Two pixels of one sticker are compatible**: with an even corner, pixels that share a pair of
    the frame share a pair of the sticker. -/
theorem pixelWrite_compatible {frame : Frame} {imginfo : ImageInfo} (hfits : Fits frame imginfo)
    {p q i j i' j' : Int} (hp : p % 2 = 0) (hq : q % 2 = 0) (hi0 : 0 ≤ i)
    (hi : i < imginfo.width) (hi0' : 0 ≤ i') (hi' : i' < imginfo.width) :
    Compatible (pixelWrite frame.width imginfo (p + i) (q + j) i j)
      (pixelWrite frame.width imginfo (p + i') (q + j') i' j') := by
  have hle := hfits.width_le
  have hsw := hfits.stickerWidth_even
  refine ⟨fun hpt => ?_, fun hpair => ?_, chroma_even hfits.width_even _ _,
    chroma_even hfits.width_even _ _⟩
  · obtain ⟨hx, hy⟩ := rowMajor_inj (by omega) (by omega) hpt
    obtain rfl : i' = i := by omega
    obtain rfl : j' = j := by omega
    rfl
  · obtain ⟨hx, hy⟩ := chroma_inj (by omega) (by omega) hpair
    have hblock : chroma imginfo.width i' j' = chroma imginfo.width i j := by
      have hi2 : i' / 2 = i / 2 := by omega
      have hj2 : j' / 2 = j / 2 := by omega
      unfold chroma
      rw [hi2, hj2]
    unfold pixelWrite
    dsimp only
    rw [hblock]
    exact ⟨rfl, rfl⟩

/-! ## 3. The loops -/

/-- What a pixel writes depends on the sizes of the frame, not on what is in it. -/
theorem copyPixel_header {frame frame' : Frame} (h : frame'.header = frame.header) (keyed : Keyed)
    (imginfo : ImageInfo) (p q i j : Int) :
    copyPixel keyed frame' imginfo p q i j = copyPixel keyed frame imginfo p q i j := by
  have hwidth : frame'.width = frame.width := congrArg FrameHeader.width h
  have hySize : frame'.ySize = frame.ySize := congrArg FrameHeader.ySize h
  have huvSize : frame'.uvSize = frame.uvSize := congrArg FrameHeader.uvSize h
  unfold copyPixel
  rw [hwidth, hySize, huvSize]

section Loops

variable {keyed : Keyed} {frame : Frame} {imginfo : ImageInfo} {p q : Int} {P : Frame → Prop}

/-- What any pixel of a blit writes, to a frame of these sizes, keeps `P`. -/
def WritesKeep (keyed : Keyed) (frame : Frame) (imginfo : ImageInfo) (p q : Int)
    (P : Frame → Prop) : Prop :=
  ∀ t i j w, t.header = frame.header → (0 ≤ i ∧ i < imginfo.width) →
    (0 ≤ j ∧ j < imginfo.height) → copyPixel keyed frame imginfo p q i j = some w →
    P t → P (t.put w)

theorem WritesKeep.step (h : WritesKeep keyed frame imginfo p q P) {t : Frame}
    (ht : t.header = frame.header) {i j : Int} (hi : 0 ≤ i ∧ i < imginfo.width)
    (hj : 0 ≤ j ∧ j < imginfo.height) (hP : P t) : P (copyStep keyed imginfo p q i j t) := by
  unfold copyStep
  rw [copyPixel_header ht]
  cases hw : copyPixel keyed frame imginfo p q i j with
  | none => exact hP
  | some w => exact h t i j w ht hi hj hw hP

/-- One row of the copy loops keeps the header, and `P` with it. -/
theorem WritesKeep.row (h : WritesKeep keyed frame imginfo p q P) {t : Frame}
    (ht : t.header = frame.header) {j : Int} (hj : 0 ≤ j ∧ j < imginfo.height) (hP : P t) :
    P (Loop.forLt imginfo.width (fun i t => copyStep keyed imginfo p q i j t) t) := by
  have hboth := Loop.forLt_keep (P := fun t : Frame => t.header = frame.header ∧ P t)
    (n := imginfo.width) (fun i t hi0 hi ht =>
      ⟨(copyStep_header keyed imginfo p q i j t).trans ht.1, h.step ht.1 ⟨hi0, hi⟩ hj ht.2⟩)
    ⟨ht, hP⟩
  exact hboth.2

theorem copyRow_header {t : Frame} (ht : t.header = frame.header) (j : Int) :
    (Loop.forLt imginfo.width (fun i t => copyStep keyed imginfo p q i j t) t).header =
      frame.header :=
  (Loop.forLt_proj Frame.header (fun _ _ _ _ => copyStep_header ..) t).trans ht

/-- **What every write of a blit keeps, the blit keeps.** -/
theorem imageUtilCpy_keep
    (h : WritesKeep keyed frame imginfo (placed p imginfo.width) (placed q imginfo.height) P)
    (h0 : P frame) : P (imageUtilCpy keyed frame imginfo p q) := by
  have hboth := Loop.forLt_keep (P := fun t : Frame => t.header = frame.header ∧ P t)
    (n := imginfo.height) (fun j t hj0 hj ht =>
      ⟨copyRow_header ht.1 j, h.row ht.1 ⟨hj0, hj⟩ ht.2⟩) ⟨rfl, h0⟩
  exact hboth.2

/-- **What one drawn pixel establishes and every write keeps, holds after the blit.** -/
theorem imageUtilCpy_establish
    (h : WritesKeep keyed frame imginfo (placed p imginfo.width) (placed q imginfo.height) P)
    {i j : Int} (hi : 0 ≤ i ∧ i < imginfo.width) (hj : 0 ≤ j ∧ j < imginfo.height)
    {w : PixelWrite} (hdrawn : copyPixel keyed frame imginfo (placed p imginfo.width)
      (placed q imginfo.height) i j = some w) (hset : ∀ t : Frame, P (t.put w)) :
    P (imageUtilCpy keyed frame imginfo p q) := by
  refine Loop.forLt_establish (I := fun t : Frame => t.header = frame.header) hj.1 hj.2
    (fun j' t _ _ ht => copyRow_header ht j') (fun t ht => ?_)
    (fun j' t hj0' hj' ht hP => h.row ht ⟨hj0', hj'⟩ hP) rfl
  -- the row of the pixel: its own iteration draws it
  refine Loop.forLt_establish (I := fun t : Frame => t.header = frame.header) hi.1 hi.2
    (fun i' t _ _ ht => (copyStep_header ..).trans ht) (fun t ht => ?_)
    (fun i' t hi0' hi' ht hP => h.step ht ⟨hi0', hi'⟩ hj hP) ht
  unfold copyStep
  rw [copyPixel_header ht, hdrawn]
  exact hset t

end Loops

/-- No pixel of a blit takes back what another one leaves. -/
theorem holds_kept {frame : Frame} {imginfo : ImageInfo} (hfits : Fits frame imginfo)
    (keyed : Keyed) {p q i j : Int} (hp : p % 2 = 0) (hq : q % 2 = 0) (hi0 : 0 ≤ i)
    (hi : i < imginfo.width) :
    WritesKeep keyed frame imginfo p q fun t =>
      Holds t (pixelWrite frame.width imginfo (p + i) (q + j) i j) := by
  intro t i' j' w _ hi' hj' hw h
  rcases copyPixel_cases hfits keyed p q hi'.1 hi'.2 hj'.1 with hnone | hsome
  · exact absurd (hnone.symm.trans hw) (by simp)
  · obtain rfl := Option.some.inj (hsome.symm.trans hw)
    exact put_keeps h (pixelWrite_compatible hfits hp hq hi0 hi hi'.1 hi'.2)

/-! ## 4. A sticker in a photo -/

/-- The chroma part of the two tests is true of every byte. -/
theorem chromaTest_true (u : UInt8) : (u > 124 || u < 132) = true := by
  have hcases : 124 < u.toNat ∨ u.toNat < 132 := by omega
  rcases hcases with h | h
  · have hu : u > 124 := UInt8.lt_iff_toNat_lt.mpr h
    simp [hu]
  · have hu : u < 132 := UInt8.lt_iff_toNat_lt.mpr h
    simp [hu]

/-- `_image_util_yuvcpy` looks at the luma alone. -/
theorem yuvKeyed_luma (y u v : UInt8) : yuvKeyed y u v = decide (y > 230) := by
  unfold yuvKeyed
  rw [chromaTest_true u, chromaTest_true v, Bool.and_true, Bool.and_true]

/-- `_image_util_santacpy` looks at the luma alone. -/
theorem santaKeyed_luma (y u v : UInt8) : santaKeyed y u v = decide (y < 30) := by
  unfold santaKeyed
  rw [chromaTest_true u, chromaTest_true v, Bool.and_true, Bool.and_true]

/-- The pixel `(x, y)` of the frame shows the sticker pixel `(i, j)`: its luma, and in the photo
    the chroma pair of its block, U first. -/
def Shows (frame : Frame) (imginfo : ImageInfo) (x y i j : Int) : Prop :=
  let pair := imginfo.width * imginfo.height + chroma imginfo.width i j
  frame.y (rowMajor frame.width x y) = imginfo.data (rowMajor imginfo.width i j) ∧
    (swapUv frame).uv (chroma frame.width x y) = imginfo.data pair ∧
    (swapUv frame).uv (chroma frame.width x y + 1) = imginfo.data (pair + 1)

/-- What the loops leave, the exchange of the capture puts into the order of the sticker. -/
theorem shows_of_holds {frame frame' : Frame} {imginfo : ImageInfo} (hfits : Fits frame imginfo)
    (hheader : frame'.header = frame.header) {x y i j : Int} (hx0 : 0 ≤ x)
    (hx : x < frame.width) (hy0 : 0 ≤ y) (hy : y < frame.height)
    (h : Holds frame' (pixelWrite frame.width imginfo x y i j)) : Shows frame' imginfo x y i j := by
  obtain ⟨hluma, hv, hu⟩ := h
  have hwidth : frame'.width = frame.width := congrArg FrameHeader.width hheader
  have huvSize : frame'.uvSize = frame.width * frame.height / 2 :=
    (congrArg FrameHeader.uvSize hheader).trans hfits.uvSize_eq
  have heven : frame'.uvSize % 2 = 0 := by
    rw [huvSize]
    exact chroma_size_even hfits.width_even hfits.height_even
  have hroom := chroma_lt hfits.width_even hfits.height_even hx0 hx hy0 hy
  have hfirst := chroma_even hfits.width_even x y
  have hpair : pairOf (chroma frame.width x y) = chroma frame.width x y + 1 := if_pos hfirst
  have hpair' : pairOf (chroma frame.width x y + 1) = chroma frame.width x y := by
    rw [← hpair, pairOf_pairOf]
  unfold Shows
  rw [hwidth, swapUv_uv heven hroom.1 (by omega), swapUv_uv heven (by omega) (by omega), hpair,
    hpair', Int.mul_comm imginfo.width imginfo.height, Int.add_comm _ (chroma imginfo.width i j)]
  exact ⟨hluma, hu, hv⟩

/-- **Every pixel of a sticker that lands in the frame and passes the luma test is in the photo, in
    its colour** -- for both blitters, at any anchor, whatever else of the sticker is drawn and
    wherever it overhangs. -/
theorem sticker_drawn {frame : Frame} {imginfo : ImageInfo} (hfits : Fits frame imginfo)
    (p q : Int) {i j : Int} (hi0 : 0 ≤ i) (hi : i < imginfo.width) (hj0 : 0 ≤ j)
    (hj : j < imginfo.height) (hx0 : 0 ≤ placed p imginfo.width + i)
    (hx : placed p imginfo.width + i < frame.width) (hy0 : 0 ≤ placed q imginfo.height + j)
    (hy : placed q imginfo.height + j < frame.height) :
    (¬ imginfo.data (rowMajor imginfo.width i j) > 230 →
        Shows (imageUtilYuvcpy frame imginfo p q) imginfo (placed p imginfo.width + i)
          (placed q imginfo.height + j) i j) ∧
      (¬ imginfo.data (rowMajor imginfo.width i j) < 30 →
        Shows (imageUtilSantacpy frame imginfo p q) imginfo (placed p imginfo.width + i)
          (placed q imginfo.height + j) i j) := by
  have hdraws (keyed : Keyed)
      (hkey : ∀ u v, keyed (imginfo.data (rowMajor imginfo.width i j)) u v = false) :
      Shows (imageUtilCpy keyed frame imginfo p q) imginfo (placed p imginfo.width + i)
        (placed q imginfo.height + j) i j := by
    have hdrawn := copyPixel_drawn hfits keyed hi0 hi hj0 hj hx0 hx hy0 hy hkey
    have hkept := holds_kept hfits keyed (j := j) (placed_even p imginfo.width)
      (placed_even q imginfo.height) hi0 hi
    exact shows_of_holds hfits (imageUtilCpy_header keyed frame imginfo p q) hx0 hx hy0 hy
      (imageUtilCpy_establish hkept ⟨hi0, hi⟩ ⟨hj0, hj⟩ hdrawn fun t => put_holds t _)
  constructor
  · intro hluma
    exact hdraws yuvKeyed fun u v => by rw [yuvKeyed_luma, decide_eq_false hluma]
  · intro hluma
    exact hdraws santaKeyed fun u v => by rw [santaKeyed_luma, decide_eq_false hluma]

/-- A sticker of 4 by 4 that hangs over the left edge of a frame of 4 by 4. -/
theorem sticker_drawn_overhang :
    Shows (imageUtilYuvcpy (evenFrame 0 128) ⟨fun k => UInt8.ofNat (100 + k.toNat), 24, 4, 4⟩ 0 2)
      ⟨fun k => UInt8.ofNat (100 + k.toNat), 24, 4, 4⟩ 1 1 3 1 :=
  (sticker_drawn ⟨by decide, by decide, by decide, by decide, by decide, by decide, by decide,
    by decide⟩ 0 2 (i := 3) (j := 1) (by decide) (by decide) (by decide) (by decide) (by decide)
    (by decide) (by decide) (by decide)).1 (by decide)

end SelfCamera
