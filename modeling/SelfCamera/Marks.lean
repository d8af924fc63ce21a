/-
  File:      SelfCamera/Marks.lean
  Subject:   THE MARKS OF `draw_landmark`: which bytes does it write?

  A block of four by four is laid over the landmark by linear indices, and the guard lets the index
  `y_size` through, the first byte after the plane.

  * `frameCoords` -- the frame coordinates the drawing functions compute for a landmark;
  * `drawLandmarkLogged` -- `draw_landmark` with a record of the indices it writes, and
    `mem_marks_iff`, `drawLandmark_y` -- what is in the record, and that it tells all;
  * **`marks_inBounds_iff`** -- the landmarks it is safe on.
-/
import SelfCamera.App

namespace SelfCamera

/-! ## 1. Coordinates -/

/-- `x = shape.part(k)(1)`, `y = frame->height - shape.part(k)(0)` -/
def frameCoords (frame : Frame) (shape : FullObjectDetection) (k : Int) : Int × Int :=
  ((shape.part k).y, frame.height - (shape.part k).x)

/-! The stickers are put at these coordinates, but for those above the forehead. -/

theorem drawSanta_coords (frame : Frame) (shape : FullObjectDetection) (imgarr : Nat → ImageInfo) :
    drawSanta frame shape imgarr =
      let chin := frameCoords frame shape 8
      let nose := frameCoords frame shape 27
      let frame := imageUtilSantacpy frame (imgarr 12) chin.1 chin.2
      let frame := imageUtilYuvcpy frame (imgarr 6) shape.forehead nose.2
      imageUtilYuvcpy frame (imgarr 11) nose.1 nose.2 := rfl

theorem drawNyan_coords (frame : Frame) (shape : FullObjectDetection) (imgarr : Nat → ImageInfo) :
    drawNyan frame shape imgarr =
      let left := frameCoords frame shape 17
      let right := frameCoords frame shape 26
      let nose := frameCoords frame shape 33
      let frame := imageUtilYuvcpy frame (imgarr 15) shape.forehead left.2
      let frame := imageUtilYuvcpy frame (imgarr 16) shape.forehead right.2
      imageUtilYuvcpy frame (imgarr 9) nose.1 nose.2 := rfl

theorem drawRudolph_coords (frame : Frame) (shape : FullObjectDetection)
    (imgarr : Nat → ImageInfo) :
    drawRudolph frame shape imgarr =
      let left := frameCoords frame shape 0
      let right := frameCoords frame shape 16
      let nose := frameCoords frame shape 30
      let frame := imageUtilYuvcpy frame (imgarr 13) shape.forehead left.2
      let frame := imageUtilYuvcpy frame (imgarr 14) shape.forehead right.2
      imageUtilYuvcpy frame (imgarr 10) nose.1 nose.2 := rfl

/-- The index of the cell `(p, q)` of the block on the landmark `i`, as `draw_landmark` has it. -/
def blockCell (frame : Frame) (shape : FullObjectDetection) (i q p : Int) : Int :=
  let (x, y) := frameCoords frame shape i
  (x - 2) + (y - 2) * frame.width + p + q * frame.width

/-! ## 2. The record of the writes -/

/-- `markAt`, recording the index where it writes. -/
def markAtLogged (theEnd : Int) (r : Frame × List Int) : Frame × List Int :=
  if theEnd > r.1.ySize ∨ theEnd < 0 then r else (markAt theEnd r.1, theEnd :: r.2)

/-- `draw_landmark`, recording every index it writes. -/
def drawLandmarkLogged (frame : Frame) (shape : FullObjectDetection) : Frame × List Int :=
  Loop.forLt shape.numParts (fun i r =>
    let x := (shape.part i).y
    let y := r.1.height - (shape.part i).x
    let begin := (x - 2) + (y - 2) * r.1.width
    Loop.forLt 4 (fun q r =>
      Loop.forLt 4 (fun p r =>
        markAtLogged (begin + p + q * r.1.width) r) r) r) (frame, [])

/-- The indices `draw_landmark` writes. -/
def marks (frame : Frame) (shape : FullObjectDetection) : List Int :=
  (drawLandmarkLogged frame shape).2

theorem markAtLogged_fst (theEnd : Int) (r : Frame × List Int) :
    (markAtLogged theEnd r).1 = markAt theEnd r.1 := by
  unfold markAtLogged markAt
  split <;> rfl

/-- The record changes nothing. -/
theorem drawLandmarkLogged_fst (frame : Frame) (shape : FullObjectDetection) :
    (drawLandmarkLogged frame shape).1 = drawLandmark frame shape := by
  unfold drawLandmarkLogged drawLandmark
  refine Loop.forLt_image Prod.fst (fun i r _ _ => ?_) (frame, [])
  refine Loop.forLt_image Prod.fst (fun q r' _ _ => ?_) r
  refine Loop.forLt_image Prod.fst (fun p r'' _ _ => ?_) r'
  exact markAtLogged_fst ..

theorem markAtLogged_header (theEnd : Int) (r : Frame × List Int) :
    (markAtLogged theEnd r).1.header = r.1.header := by
  rw [markAtLogged_fst, markAt_header]

/-- What one cell of a block adds to the record. -/
theorem mem_markAtLogged (e theEnd : Int) (r : Frame × List Int) :
    e ∈ (markAtLogged theEnd r).2 ↔
      e ∈ r.2 ∨ (e = theEnd ∧ 0 ≤ theEnd ∧ theEnd ≤ r.1.ySize) := by
  unfold markAtLogged
  split
  · rename_i hskip
    exact ⟨Or.inl, fun h => h.resolve_right fun hmark => by omega⟩
  · rename_i hmark
    rw [List.mem_cons]
    exact ⟨fun h => h.symm.imp_right fun he => ⟨he, by omega, by omega⟩,
      fun h => (h.imp_right And.left).symm⟩

/-- **The indices written: the cells of the blocks that lie between 0 and `y_size`, both
    included.** -/
theorem mem_marks_iff (frame : Frame) (shape : FullObjectDetection) (e : Int) :
    e ∈ marks frame shape ↔
      ∃ i, (0 ≤ i ∧ i < shape.numParts) ∧ ∃ q, (0 ≤ q ∧ q < 4) ∧ ∃ p, (0 ≤ p ∧ p < 4) ∧
        e = blockCell frame shape i q p ∧ 0 ≤ e ∧ e ≤ frame.ySize := by
  have hsizes {r : Frame × List Int} (h : r.1.header = frame.header) :
      r.1.width = frame.width ∧ r.1.height = frame.height ∧ r.1.ySize = frame.ySize :=
    ⟨congrArg FrameHeader.width h, congrArg FrameHeader.height h, congrArg FrameHeader.ySize h⟩
  have hrow {r : Frame × List Int} (begin q : Int) (h : r.1.header = frame.header) :
      (Loop.forLt 4 (fun p r => markAtLogged (begin + p + q * r.1.width) r) r).1.header =
        frame.header :=
    (Loop.forLt_proj (fun r : Frame × List Int => r.1.header)
      (fun p r _ _ => markAtLogged_header ..) r).trans h
  have hblock {r : Frame × List Int} (begin : Int) (h : r.1.header = frame.header) :
      (Loop.forLt 4 (fun q r => Loop.forLt 4 (fun p r =>
        markAtLogged (begin + p + q * r.1.width) r) r) r).1.header = frame.header :=
    Loop.forLt_keep (P := fun r : Frame × List Int => r.1.header = frame.header)
      (fun q r _ _ hr => hrow begin q hr) h
  refine (Loop.forLt_collect (I := fun r : Frame × List Int => r.1.header = frame.header)
    (Q := fun r : Frame × List Int => e ∈ r.2) (fun i r _ _ h => hblock _ h)
    (fun i r _ _ h => ?_) rfl).trans (or_iff_right List.not_mem_nil)
  refine (Loop.forLt_collect (I := fun r : Frame × List Int => r.1.header = frame.header)
    (Q := fun r : Frame × List Int => e ∈ r.2) (fun q r _ _ h => hrow _ q h)
    (fun q r' _ _ h' => ?_) h)
  refine (Loop.forLt_collect (I := fun r : Frame × List Int => r.1.header = frame.header)
    (Q := fun r : Frame × List Int => e ∈ r.2)
    (fun p r _ _ h => (markAtLogged_header ..).trans h) (fun p r'' _ _ h'' => ?_) h')
  obtain ⟨hw, hh, -⟩ := hsizes h
  obtain ⟨hw'', -, hy''⟩ := hsizes h''
  rw [mem_markAtLogged, hw, hh, hw'', hy'']
  refine or_congr_right ⟨?_, ?_⟩
  · intro hwrite
    rcases hwrite with ⟨rfl, h0, hy⟩
    exact ⟨rfl, h0, hy⟩
  · intro hwrite
    rcases hwrite with ⟨rfl, h0, hy⟩
    exact ⟨rfl, h0, hy⟩

/-- The record tells which bytes are black now and were not touched before. -/
def Told (frame : Frame) (e : Int) (r : Frame × List Int) : Prop :=
  r.1.y e = if e ∈ r.2 then 0 else frame.y e

theorem markAtLogged_told {frame : Frame} {e : Int} (theEnd : Int) {r : Frame × List Int}
    (h : Told frame e r) : Told frame e (markAtLogged theEnd r) := by
  unfold Told markAtLogged markAt at *
  split
  · exact h
  · by_cases he : e = theEnd
    · subst he
      rw [if_pos List.mem_cons_self]
      exact Buffer.set_same ..
    · refine (Buffer.set_ne _ _ he).trans (h.trans ?_)
      simp [he]

/-- The luma plane afterwards: black where a mark was written, untouched elsewhere. -/
theorem drawLandmark_y (frame : Frame) (shape : FullObjectDetection) (e : Int) :
    (drawLandmark frame shape).y e = if e ∈ marks frame shape then 0 else frame.y e := by
  rw [← drawLandmarkLogged_fst]
  have hstart : Told frame e (frame, []) := (if_neg List.not_mem_nil).symm
  refine Loop.forLt_keep (P := Told frame e) (fun i r _ _ h => ?_) hstart
  refine Loop.forLt_keep (P := Told frame e) (fun q r _ _ h => ?_) h
  exact Loop.forLt_keep (P := Told frame e) (fun p r _ _ h => markAtLogged_told _ h) h

/-! ## 3. The plane -/

/-- Every index written lies in the luma plane. -/
def MarksInBounds (frame : Frame) (shape : FullObjectDetection) : Prop :=
  ∀ e ∈ marks frame shape, 0 ≤ e ∧ e < frame.ySize

/-- **`draw_landmark` stays in the plane exactly where no cell of a block has the index
    `width * height`**, for any number of landmarks, in the frame or beyond any of its edges. -/
theorem marks_inBounds_iff {frame : Frame} (hw : 0 < frame.width) (hh : 0 < frame.height)
    (hy : frame.ySize = frame.width * frame.height) (shape : FullObjectDetection) :
    MarksInBounds frame shape ↔
      ∀ i q p, 0 ≤ i → i < shape.numParts → 0 ≤ q → q < 4 → 0 ≤ p → p < 4 →
        blockCell frame shape i q p ≠ frame.width * frame.height := by
  have hsize : 0 ≤ frame.width * frame.height := Int.mul_nonneg (by omega) (by omega)
  constructor
  · intro h i q p hi0 hi hq0 hq hp0 hp heq
    have hmem : frame.width * frame.height ∈ marks frame shape :=
      (mem_marks_iff frame shape _).mpr
        ⟨i, ⟨hi0, hi⟩, q, ⟨hq0, hq⟩, p, ⟨hp0, hp⟩, heq.symm, hsize, by omega⟩
    have hlt := (h _ hmem).2
    omega
  · intro h e hmem
    obtain ⟨i, ⟨hi0, hi⟩, q, ⟨hq0, hq⟩, p, ⟨hp0, hp⟩, heq, he0, hey⟩ :=
      (mem_marks_iff frame shape e).mp hmem
    have hne := h i q p hi0 hi hq0 hq hp0 hp
    rw [← heq] at hne
    exact ⟨he0, by omega⟩

/-- A landmark in the middle of a frame of 4 by 4. -/
theorem marks_inBounds_middle : MarksInBounds (evenFrame 0 128) ⟨[⟨2, 2⟩]⟩ :=
  (marks_inBounds_iff (by decide) (by decide) (by decide) _).mpr fun i q p hi0 hi _ _ _ _ => by
    obtain rfl : i = 0 := by
      have hone : i < 1 := hi
      omega
    show (2 - 2) + (4 - 2 - 2) * 4 + p + q * 4 ≠ 4 * 4
    omega

/-- A landmark on the last row: its block reaches the byte after the plane. -/
theorem marks_lastRow : ¬ MarksInBounds (evenFrame 0 128) ⟨[⟨0, 0⟩]⟩ := by
  intro h
  have hbounds := h 16 (by decide +kernel)
  exact absurd hbounds.2 (by decide)

end SelfCamera
