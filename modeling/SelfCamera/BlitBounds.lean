/-
  File:      SelfCamera/BlitBounds.lean
  Subject:   THE BYTES A BLITTER TOUCHES: does it stay in its three buffers?

  The guards of the copy loops test one index and the body uses the next one as well. For the two
  bytes written that is enough, since the chroma plane of a frame has whole pairs. The chroma part
  of a sticker has them only if half its number of pixels is even: otherwise the pair of the last
  byte reaches past the end.

  * `copyAccesses` -- the indices one pixel reads and writes; `copyAccesses_writes` -- no others;
  * `imageUtilCpyLogged_fst`, `mem_accesses_iff` -- those of a whole blit;
  * `blitInBounds_iff`, **`blitters_inBounds_iff`** -- the anchors and sizes it is safe for.
-/
import SelfCamera.App
import SelfCamera.Lib.Planar

namespace SelfCamera

open Planar

/-! ## 1. The record of the accesses -/

/-- An access of a blitter to one of its buffers. -/
inductive Access where
  /-- `imginfo->data[i]` is read -/
  | readData (i : Int)
  /-- `frame->data.double_plane.y[i]` is written -/
  | writeY (i : Int)
  /-- `frame->data.double_plane.uv[i]` is written -/
  | writeUv (i : Int)
  deriving DecidableEq

/-- The accesses of the body of the copy loops for the sticker pixel `(i, j)`, in order. -/
def copyAccesses (keyed : Keyed) (frame : Frame) (imginfo : ImageInfo) (p q i j : Int) :
    List Access :=
  let fw := frame.width
  let sw := imginfo.width
  let sySize := imginfo.height * imginfo.width
  let pp := p + i
  let qq := q + j
  if pp < 0 ∨ qq < 0 then []
  else
    let pt := pp + qq * fw
    let pti := i + j * sw
    let pp := pp.tdiv 2
    let qq := qq.tdiv 2
    let ptpt := (pp + (qq * fw).tdiv 2) * 2
    let ii := i.tdiv 2
    let jj := j.tdiv 2
    let ptipti := (ii + (jj * sw).tdiv 2) * 2 + sySize
    let y := imginfo.data pti
    .readData pti ::
      if ptipti < imginfo.size then
        let u := imginfo.data ptipti
        let v := imginfo.data (ptipti + 1)
        .readData ptipti :: .readData (ptipti + 1) ::
          if keyed y u v then []
          else if pt < frame.ySize ∧ ptpt < frame.uvSize then
            [.readData pti, .writeY pt, .writeUv ptpt, .writeUv (ptpt + 1)]
          else []
      else []

section Pixel

variable (keyed : Keyed) (frame : Frame) (imginfo : ImageInfo) (p q i j : Int)

/-- **The writes of the record are those of the pixel.** -/
theorem copyAccesses_writes (e : Int) :
    (.writeY e ∈ copyAccesses keyed frame imginfo p q i j ↔
        ∃ w, copyPixel keyed frame imginfo p q i j = some w ∧ e = w.pt) ∧
      (.writeUv e ∈ copyAccesses keyed frame imginfo p q i j ↔
        ∃ w, copyPixel keyed frame imginfo p q i j = some w ∧ (e = w.ptpt ∨ e = w.ptpt + 1)) := by
  unfold copyAccesses copyPixel
  dsimp only
  split
  · simp
  · split
    · split
      · simp
      · split <;> simp
    · simp

end Pixel

/-- One iteration of the copy loops, recording its accesses. -/
def copyStepLogged (keyed : Keyed) (imginfo : ImageInfo) (p q i j : Int)
    (r : Frame × List Access) : Frame × List Access :=
  (copyStep keyed imginfo p q i j r.1, copyAccesses keyed r.1 imginfo p q i j ++ r.2)

/-- The function both blitters are, recording every access. -/
def imageUtilCpyLogged (keyed : Keyed) (frame : Frame) (imginfo : ImageInfo) (p q : Int) :
    Frame × List Access :=
  let p := placed p imginfo.width
  let q := placed q imginfo.height
  Loop.forLt imginfo.height (fun j r =>
    Loop.forLt imginfo.width (fun i r => copyStepLogged keyed imginfo p q i j r) r) (frame, [])

/-- The accesses of a blit. -/
def accesses (keyed : Keyed) (frame : Frame) (imginfo : ImageInfo) (p q : Int) : List Access :=
  (imageUtilCpyLogged keyed frame imginfo p q).2

/-- The record changes nothing. -/
theorem imageUtilCpyLogged_fst (keyed : Keyed) (frame : Frame) (imginfo : ImageInfo) (p q : Int) :
    (imageUtilCpyLogged keyed frame imginfo p q).1 = imageUtilCpy keyed frame imginfo p q := by
  unfold imageUtilCpyLogged imageUtilCpy
  refine Loop.forLt_image Prod.fst (fun j r _ _ => ?_) (frame, [])
  exact Loop.forLt_image Prod.fst (fun i r _ _ => rfl) r

/-- The accesses depend on the sizes of the frame, not on what is in it. -/
theorem copyAccesses_header {frame frame' : Frame} (h : frame'.header = frame.header)
    (keyed : Keyed) (imginfo : ImageInfo) (p q i j : Int) :
    copyAccesses keyed frame' imginfo p q i j = copyAccesses keyed frame imginfo p q i j := by
  have hwidth : frame'.width = frame.width := congrArg FrameHeader.width h
  have hySize : frame'.ySize = frame.ySize := congrArg FrameHeader.ySize h
  have huvSize : frame'.uvSize = frame.uvSize := congrArg FrameHeader.uvSize h
  unfold copyAccesses
  rw [hwidth, hySize, huvSize]

/-- **The accesses of a blit are those of its pixels.** -/
theorem mem_accesses_iff (keyed : Keyed) (frame : Frame) (imginfo : ImageInfo) (p q : Int)
    (a : Access) :
    a ∈ accesses keyed frame imginfo p q ↔
      ∃ j, (0 ≤ j ∧ j < imginfo.height) ∧ ∃ i, (0 ≤ i ∧ i < imginfo.width) ∧
        a ∈ copyAccesses keyed frame imginfo (placed p imginfo.width) (placed q imginfo.height)
          i j := by
  have hrow {r : Frame × List Access} (j : Int) (h : r.1.header = frame.header) :
      (Loop.forLt imginfo.width (fun i r => copyStepLogged keyed imginfo
        (placed p imginfo.width) (placed q imginfo.height) i j r) r).1.header = frame.header :=
    (Loop.forLt_proj (fun r : Frame × List Access => r.1.header)
      (fun i r _ _ => copyStep_header ..) r).trans h
  refine (Loop.forLt_collect (I := fun r : Frame × List Access => r.1.header = frame.header)
    (Q := fun r : Frame × List Access => a ∈ r.2) (fun j r _ _ h => hrow j h)
    (fun j r _ _ h => ?_) rfl).trans (or_iff_right List.not_mem_nil)
  refine Loop.forLt_collect (I := fun r : Frame × List Access => r.1.header = frame.header)
    (Q := fun r : Frame × List Access => a ∈ r.2)
    (fun i r _ _ h => (copyStep_header ..).trans h) (fun i r' _ _ h' => ?_) h
  show a ∈ copyAccesses keyed r'.1 imginfo _ _ i j ++ r'.2 ↔ _
  rw [List.mem_append, or_comm, copyAccesses_header h']

/-! ## 2. Bounds -/

/-- The index lies in its buffer. -/
def Access.InBounds (frame : Frame) (imginfo : ImageInfo) : Access → Prop
  | .readData i => 0 ≤ i ∧ i < imginfo.size
  | .writeY i => 0 ≤ i ∧ i < frame.ySize
  | .writeUv i => 0 ≤ i ∧ i < frame.uvSize

/-- Every access of the blit lies in its buffer. -/
def BlitInBounds (keyed : Keyed) (frame : Frame) (imginfo : ImageInfo) (p q : Int) : Prop :=
  ∀ a ∈ accesses keyed frame imginfo p q, a.InBounds frame imginfo

/-- Where the body of the copy loops reads the chroma of the sticker pixel `(i, j)`. -/
def dataPair (imginfo : ImageInfo) (i j : Int) : Int :=
  (i / 2 + j / 2 * imginfo.width / 2) * 2 + imginfo.height * imginfo.width

/-- **A pixel neither above nor left of the frame has its chroma pair at the last byte of the
    sticker.** -/
def PairAtEnd (imginfo : ImageInfo) (p q : Int) : Prop :=
  ∃ i j, (0 ≤ i ∧ i < imginfo.width) ∧ (0 ≤ j ∧ j < imginfo.height) ∧
    0 ≤ placed p imginfo.width + i ∧ 0 ≤ placed q imginfo.height + j ∧
    dataPair imginfo i j = imginfo.size - 1

section Bounds

variable {frame : Frame} {imginfo : ImageInfo}

/-- The index of the pair, with the division of the source. -/
theorem dataPair_eq (hsw : 0 ≤ imginfo.width) {i j : Int} (hi : 0 ≤ i) (hj : 0 ≤ j) :
    (i.tdiv 2 + (j.tdiv 2 * imginfo.width).tdiv 2) * 2 + imginfo.height * imginfo.width =
      dataPair imginfo i j := by
  have hrow : 0 ≤ j / 2 * imginfo.width := Int.mul_nonneg (by omega) hsw
  rw [Int.tdiv_eq_ediv_of_nonneg hi, Int.tdiv_eq_ediv_of_nonneg hj,
    Int.tdiv_eq_ediv_of_nonneg hrow]
  rfl

/-- The bytes a pixel writes are in the frame: its chroma plane has whole pairs. -/
theorem copyPixel_inBounds (hfw : 0 ≤ frame.width) (huv : frame.uvSize % 2 = 0) {keyed : Keyed}
    {p q i j : Int} {w : PixelWrite} (h : copyPixel keyed frame imginfo p q i j = some w) :
    (0 ≤ w.pt ∧ w.pt < frame.ySize) ∧ 0 ≤ w.ptpt ∧ w.ptpt + 1 < frame.uvSize := by
  unfold copyPixel at h
  dsimp only at h
  split at h
  · exact absurd h (by simp)
  · rename_i hin
    split at h
    · split at h
      · exact absurd h (by simp)
      · split at h
        · rename_i hroom
          obtain rfl := Option.some.inj h
          have hluma : 0 ≤ (q + j) * frame.width := Int.mul_nonneg (by omega) hfw
          have hpp : 0 ≤ (p + i).tdiv 2 := Int.tdiv_nonneg (by omega) (by decide)
          have hqq : 0 ≤ (q + j).tdiv 2 := Int.tdiv_nonneg (by omega) (by decide)
          have hchroma : 0 ≤ ((q + j).tdiv 2 * frame.width).tdiv 2 :=
            Int.tdiv_nonneg (Int.mul_nonneg hqq hfw) (by decide)
          dsimp only at hroom ⊢
          omega
        · exact absurd h (by simp)
    · exact absurd h (by simp)

/-- **The bytes of the sticker a pixel reads**: its luma, and its chroma pair if that begins in the
    sticker. -/
theorem mem_reads_iff (hsw : 0 ≤ imginfo.width) {i j : Int} (hi : 0 ≤ i) (hj : 0 ≤ j)
    (keyed : Keyed) (p q k : Int) :
    .readData k ∈ copyAccesses keyed frame imginfo p q i j ↔
      (0 ≤ p + i ∧ 0 ≤ q + j) ∧ (k = rowMajor imginfo.width i j ∨
        dataPair imginfo i j < imginfo.size ∧
          (k = dataPair imginfo i j ∨ k = dataPair imginfo i j + 1)) := by
  unfold copyAccesses
  dsimp only
  rw [dataPair_eq hsw hi hj]
  show _ ↔ _ ∧ (k = i + j * imginfo.width ∨ _)
  by_cases hskip : p + i < 0 ∨ q + j < 0
  · rw [if_pos hskip]
    exact ⟨fun h => absurd h List.not_mem_nil, fun h => by omega⟩
  · have hin : 0 ≤ p + i ∧ 0 ≤ q + j := by omega
    rw [if_neg hskip, and_iff_right hin]
    by_cases hroom : dataPair imginfo i j < imginfo.size
    · rw [if_pos hroom, and_iff_right hroom]
      split
      · simp
      · split
        · -- the luma byte is read again for the assignment
          simp only [List.mem_cons, List.not_mem_nil, Access.readData.injEq, reduceCtorEq, or_false]
          tauto
        · simp
    · rw [if_neg hroom]
      simp [hroom]

/-- **A blit stays in its buffers exactly if no pair lies at the end of the sticker.** -/
theorem blitInBounds_iff (hfw : 0 ≤ frame.width) (huv : frame.uvSize % 2 = 0)
    (hsw : 0 ≤ imginfo.width) (hsh : 0 ≤ imginfo.height)
    (hsize : imginfo.size = imginfo.width * imginfo.height * 3 / 2) (keyed : Keyed) (p q : Int) :
    BlitInBounds keyed frame imginfo p q ↔ ¬ PairAtEnd imginfo p q := by
  have hcomm := Int.mul_comm imginfo.height imginfo.width
  have harea : 0 ≤ imginfo.width * imginfo.height := Int.mul_nonneg hsw hsh
  constructor
  · intro h hpair
    rcases hpair with ⟨i, j, hi, hj, hp, hq, hend⟩
    have hread : .readData (dataPair imginfo i j + 1) ∈ accesses keyed frame imginfo p q := by
      refine (mem_accesses_iff ..).mpr ⟨j, hj, i, hi, ?_⟩
      exact (mem_reads_iff hsw hi.1 hj.1 ..).mpr ⟨⟨hp, hq⟩, Or.inr ⟨by omega, Or.inr rfl⟩⟩
    have hlt := (h _ hread).2
    omega
  · intro h a ha
    obtain ⟨j, hj, i, hi, hmem⟩ := (mem_accesses_iff ..).mp ha
    cases a with
    | readData k =>
      obtain ⟨⟨hp, hq⟩, hk⟩ := (mem_reads_iff hsw hi.1 hj.1 ..).mp hmem
      show 0 ≤ k ∧ k < imginfo.size
      rcases hk with rfl | ⟨hroom, hk⟩
      · have hluma := rowMajor_lt hi.1 hi.2 hj.1 hj.2
        omega
      · have hend : dataPair imginfo i j ≠ imginfo.size - 1 := fun hend =>
          h ⟨i, j, hi, hj, hp, hq, hend⟩
        have hrow : 0 ≤ j / 2 * imginfo.width := Int.mul_nonneg (by omega) hsw
        unfold dataPair at *
        omega
    | writeY e =>
      obtain ⟨w, hw, rfl⟩ := (copyAccesses_writes ..).1.mp hmem
      exact (copyPixel_inBounds hfw huv hw).1
    | writeUv e =>
      obtain ⟨w, hw, he⟩ := (copyAccesses_writes ..).2.mp hmem
      have hbounds := (copyPixel_inBounds hfw huv hw).2
      show 0 ≤ e ∧ e < frame.uvSize
      omega

/-- Half the number of pixels even: no pair ends there, whatever the anchor. -/
theorem not_pairAtEnd_even (hsw : 0 ≤ imginfo.width) (hsh : 0 ≤ imginfo.height)
    (hsize : imginfo.size = imginfo.width * imginfo.height * 3 / 2)
    (heven : imginfo.width * imginfo.height / 2 % 2 = 0) (p q : Int) :
    ¬ PairAtEnd imginfo p q := by
  intro hpair
  rcases hpair with ⟨i, j, -, -, -, -, hend⟩
  have harea : 0 ≤ imginfo.width * imginfo.height := Int.mul_nonneg hsw hsh
  have hcomm := Int.mul_comm imginfo.height imginfo.width
  unfold dataPair at hend
  omega

end Bounds

/-- **Both blitters stay in their buffers exactly if no pixel neither above nor left of the frame
    has its chroma pair at the last byte of the sticker** -- for every frame with whole chroma
    pairs and every sticker and anchor. -/
theorem blitters_inBounds_iff {frame : Frame} {imginfo : ImageInfo} (hfw : 0 ≤ frame.width)
    (huv : frame.uvSize % 2 = 0) (hsw : 0 ≤ imginfo.width) (hsh : 0 ≤ imginfo.height)
    (hsize : imginfo.size = imginfo.width * imginfo.height * 3 / 2) (p q : Int) :
    (BlitInBounds yuvKeyed frame imginfo p q ↔ ¬ PairAtEnd imginfo p q) ∧
      (BlitInBounds santaKeyed frame imginfo p q ↔ ¬ PairAtEnd imginfo p q) :=
  ⟨blitInBounds_iff hfw huv hsw hsh hsize yuvKeyed p q,
    blitInBounds_iff hfw huv hsw hsh hsize santaKeyed p q⟩

/-- A sticker of 2 by 2. -/
theorem blitters_inBounds_evenSticker :
    BlitInBounds yuvKeyed (evenFrame 0 128) (greySticker 2 2) 2 2 ∧
      BlitInBounds santaKeyed (evenFrame 0 128) (greySticker 2 2) 2 2 := by
  have hnone : ¬ PairAtEnd (greySticker 2 2) 2 2 :=
    not_pairAtEnd_even (by decide) (by decide) (by decide) (by decide) 2 2
  have hiff := @blitters_inBounds_iff (evenFrame 0 128) (greySticker 2 2) (by decide) (by decide)
    (by decide) (by decide) (by decide) 2 2
  exact ⟨hiff.1.mpr hnone, hiff.2.mpr hnone⟩

/-- A sticker of 1 by 2 has three bytes; the fourth is read. -/
theorem oddSticker_overreads :
    ¬ BlitInBounds yuvKeyed (evenFrame 0 128) (greySticker 1 2) 2 2 := by
  intro h
  have hread := h (.readData 3) (by decide +kernel)
  exact absurd hread.2 (by decide)

end SelfCamera
