/-
  File:      SelfCamera/Rotation.lean
  Subject:   THE QUARTER-TURN OF THE DETECTION, in the three places the program has it.

  `face_landmark` copies the luma plane into an image turned by a quarter; the face callback turns
  the rectangles of the framework for it; the drawing functions turn the landmarks back. The
  rectangles take a face's width for its height and its height for its width, and the way back
  lacks the 1 that the mirrored axis has on the way there.

  * `rotatedAt`, `rotateImage_cell` -- where a pixel of the frame is in the image;
  * `rotateImageLogged` -- the copy with a record of the cells it writes, and
    **`rotateImage_bijection`** -- each cell of the image once, and none beside it;
  * **`faceRectangles_follow_iff`** -- the faces whose rectangles have turned with the image;
  * `frameCoords_rotated`, `drawsBelow`, **`undoesRotation_never`** -- a landmark on the pixel
    `(X, Y)` is drawn at `(X, Y + 1)`.
-/
import SelfCamera.Marks
import SelfCamera.Lib.Planar
import Mathlib.Data.List.Forall2

namespace SelfCamera

open Planar

/-! ## 1. The image -/

/-- The row and the column of the image that `face_landmark` copies the luma byte `i` to. -/
def rotatedAt (frame : Frame) (i : Int) : Int × Int :=
  (i.tmod frame.width, frame.height - i.tdiv frame.width - 1)

theorem rotateImage_eq (frame : Frame) :
    rotateImage frame = Loop.forLt frame.ySize (fun i img =>
      img.set (rotatedAt frame i).1 (rotatedAt frame i).2 (frame.y i))
      ⟨frame.width, frame.height, fun _ _ => 0⟩ := rfl

/-- The pixel `(X, Y)` goes to the row `X`, from the right end of it. -/
theorem rotatedAt_pixel (frame : Frame) {X Y : Int} (hX0 : 0 ≤ X) (hX : X < frame.width)
    (hY0 : 0 ≤ Y) :
    rotatedAt frame (rowMajor frame.width X Y) = (X, frame.height - 1 - Y) := by
  obtain ⟨hmod, hdiv⟩ := rowMajor_tmod hX0 hX hY0
  unfold rotatedAt
  rw [hmod, hdiv]
  exact Prod.ext rfl (by dsimp only; omega)

/-- No two bytes go to the same place. -/
theorem rotatedAt_inj {frame : Frame} {i k : Int} (h : rotatedAt frame i = rotatedAt frame k) :
    i = k := by
  unfold rotatedAt at h
  obtain ⟨hmod, hdiv⟩ := Prod.mk.inj h
  have hi := Int.tmod_add_mul_tdiv i frame.width
  have hk := Int.tmod_add_mul_tdiv k frame.width
  have hq : i.tdiv frame.width = k.tdiv frame.width := by omega
  rw [← hi, ← hk, hmod, hq]

/-- **The image shows every pixel of the frame at its rotated place.** -/
theorem rotateImage_cell {frame : Frame} (hy : frame.ySize = frame.width * frame.height) {X Y : Int}
    (hX0 : 0 ≤ X) (hX : X < frame.width) (hY0 : 0 ≤ Y) (hY : Y < frame.height) :
    (rotateImage frame).cell X (frame.height - 1 - Y) = frame.y (rowMajor frame.width X Y) := by
  have hplace := rotatedAt_pixel frame hX0 hX hY0
  obtain ⟨h0, hlt⟩ := rowMajor_lt hX0 hX hY0 hY
  rw [rotateImage_eq]
  refine Loop.forLt_local (fun img : Array2d => img.cell X (frame.height - 1 - Y))
    (fun _ => frame.y (rowMajor frame.width X Y)) h0 (by omega) (fun img => ?_)
    (fun k img _ _ hk => ?_) _
  · rw [hplace]
    exact Array2d.set_same ..
  · refine Array2d.set_ne img _ fun hsame => hk (rotatedAt_inj (Eq.trans ?_ hplace.symm))
    exact Prod.ext hsame.1.symm hsame.2.symm

/-- The copy into the image, recording every cell it writes. -/
def rotateImageLogged (frame : Frame) : Array2d × List (Int × Int) :=
  Loop.forLt frame.ySize (fun i r =>
    let row := i.tmod frame.width
    let column := frame.height - i.tdiv frame.width - 1
    (r.1.set row column (frame.y i), (row, column) :: r.2))
    (⟨frame.width, frame.height, fun _ _ => 0⟩, [])

/-- The cells the copy writes, the last one first. -/
def rotations (frame : Frame) : List (Int × Int) := (rotateImageLogged frame).2

/-- The record changes nothing. -/
theorem rotateImageLogged_fst (frame : Frame) :
    (rotateImageLogged frame).1 = rotateImage frame :=
  Loop.forLt_image Prod.fst (fun _ _ _ _ => rfl) _

/-- The record: the place of every byte of the luma plane. -/
theorem rotations_eq (frame : Frame) :
    rotations frame =
      ((List.range frame.ySize.toNat).map fun i : Nat => rotatedAt frame i).reverse :=
  Loop.forLt_record (rotatedAt frame)
    (fun i (img : Array2d) => img.set (rotatedAt frame i).1 (rotatedAt frame i).2 (frame.y i))
    frame.ySize ⟨frame.width, frame.height, fun _ _ => 0⟩

/-- The image keeps the size it was given: a row for each column of the frame. -/
theorem rotateImage_size (frame : Frame) :
    (rotateImage frame).nr = frame.width ∧ (rotateImage frame).nc = frame.height := by
  let blank : Array2d := ⟨frame.width, frame.height, fun _ _ => 0⟩
  constructor
  · exact Loop.forLt_proj Array2d.nr (fun _ img _ _ => (rfl : (img.set ..).nr = img.nr)) blank
  · exact Loop.forLt_proj Array2d.nc (fun _ img _ _ => (rfl : (img.set ..).nc = img.nc)) blank

/-- The cell `(row, column)` lies in the image. -/
def Array2d.Has (img : Array2d) (row column : Int) : Prop :=
  (0 ≤ row ∧ row < img.nr) ∧ 0 ≤ column ∧ column < img.nc

section Bijection

variable {frame : Frame} (hy : frame.ySize = frame.width * frame.height)

include hy

/-- Every write is inside the image. -/
theorem rotations_inside (hw : 0 ≤ frame.width) {cell : Int × Int}
    (hmem : cell ∈ rotations frame) : (rotateImage frame).Has cell.1 cell.2 := by
  rw [rotations_eq, List.mem_reverse, List.mem_map] at hmem
  obtain ⟨i, hi, rfl⟩ := hmem
  have hlt : (i : Int) < frame.width * frame.height := by
    have hrange := List.mem_range.mp hi
    omega
  have hpos : 0 < frame.width := by
    rcases Int.lt_or_eq_of_le hw with hpos | hzero
    · exact hpos
    · rw [← hzero, Int.zero_mul] at hlt
      omega
  have hrow0 := Int.emod_nonneg i (Int.ne_of_gt hpos)
  have hrow := Int.emod_lt_of_pos i hpos
  have hcol0 := Int.ediv_nonneg (Int.natCast_nonneg i) hw
  have hcol : (i : Int) / frame.width < frame.height :=
    Int.ediv_lt_of_lt_mul hpos (by rw [Int.mul_comm]; exact hlt)
  unfold Array2d.Has rotatedAt
  rw [(rotateImage_size frame).1, (rotateImage_size frame).2,
    Int.tmod_eq_emod_of_nonneg (Int.natCast_nonneg i),
    Int.tdiv_eq_ediv_of_nonneg (Int.natCast_nonneg i)]
  exact ⟨⟨hrow0, hrow⟩, by dsimp only; omega, by dsimp only; omega⟩

/-- Every cell of the image is written exactly once. -/
theorem rotations_count {row column : Int} (hr0 : 0 ≤ row) (hr : row < frame.width)
    (hc0 : 0 ≤ column) (hc : column < frame.height) :
    (rotations frame).count (row, column) = 1 := by
  have hnodup : (rotations frame).Nodup := by
    rw [rotations_eq, List.nodup_reverse]
    exact List.nodup_range.map fun i k h => Int.ofNat.inj (rotatedAt_inj h)
  refine List.count_eq_one_of_mem hnodup ?_
  obtain ⟨h0, hlt⟩ := rowMajor_lt (h := frame.height) hr0 hr
    (show 0 ≤ frame.height - 1 - column by omega) (by omega)
  have hplace := rotatedAt_pixel frame hr0 hr (show 0 ≤ frame.height - 1 - column by omega)
  rw [rotations_eq, List.mem_reverse, List.mem_map]
  refine ⟨(rowMajor frame.width row (frame.height - 1 - column)).toNat, ?_, ?_⟩
  · rw [List.mem_range]
    omega
  · rw [Int.toNat_of_nonneg h0, hplace]
    exact Prod.ext rfl (by dsimp only; omega)

end Bijection

/-- **The copy is a bijection**: every write is inside the image, every cell of the image is
    written exactly once, and each holds the byte of the pixel that was turned to it. -/
theorem rotateImage_bijection {frame : Frame} (hw : 0 ≤ frame.width)
    (hy : frame.ySize = frame.width * frame.height) :
    ((rotateImage frame).nr = frame.width ∧ (rotateImage frame).nc = frame.height) ∧
      (∀ cell ∈ rotations frame, (rotateImage frame).Has cell.1 cell.2) ∧
      ∀ row column, (rotateImage frame).Has row column →
        (rotations frame).count (row, column) = 1 ∧
          (rotateImage frame).cell row column =
            frame.y ((frame.height - 1 - column) * frame.width + row) := by
  obtain ⟨hnr, hnc⟩ := rotateImage_size frame
  refine ⟨⟨hnr, hnc⟩, fun cell hmem => rotations_inside hy hw hmem, fun row column hin => ?_⟩
  obtain ⟨⟨hr0, hr⟩, hc0, hc⟩ := hin
  rw [hnr] at hr
  rw [hnc] at hc
  refine ⟨rotations_count hy hr0 hr hc0 hc, ?_⟩
  have hcell := rotateImage_cell hy hr0 hr (Y := frame.height - 1 - column) (by omega) (by omega)
  rw [Int.sub_sub_self, rowMajor, Int.add_comm] at hcell
  exact hcell

/-- The cell in the first row and the last column of a frame of 4 by 4. -/
theorem rotateImage_bijection_square :
    (rotations (evenFrame 7 128)).count (0, 3) = 1 ∧
      (rotateImage (evenFrame 7 128)).cell 0 3 = 7 :=
  (@rotateImage_bijection (evenFrame 7 128) (by decide) (by decide)).2.2 0 3
    (by unfold Array2d.Has; decide +kernel)

/-! ## 2. The rectangles -/

/-- The framework found the face in the frame. -/
structure LiesIn (frame : Frame) (face : CameraDetectedFace) : Prop where
  x_nonneg : 0 ≤ face.x
  width_pos : 0 < face.width
  width_le : face.x + face.width ≤ frame.width
  y_nonneg : 0 ≤ face.y
  height_pos : 0 < face.height
  height_le : face.y + face.height ≤ frame.height

/-- The pixel `(X, Y)` belongs to the face. -/
def CameraDetectedFace.Has (face : CameraDetectedFace) (X Y : Int) : Prop :=
  face.x ≤ X ∧ X < face.x + face.width ∧ face.y ≤ Y ∧ Y < face.y + face.height

/-- **The rectangle has turned with the image**: it covers the rotated place of every pixel of the
    face, and all of its rows and columns but one each are rows and columns of such places. -/
structure FollowsRotation (frame : Frame) (face : CameraDetectedFace) (r : Rectangle) : Prop where
  covers : ∀ X Y, face.Has X Y →
    let (row, column) := rotatedAt frame (rowMajor frame.width X Y)
    (r.top ≤ row ∧ row ≤ r.bottom) ∧ r.left ≤ column ∧ column ≤ r.right
  oneRow : ∃ extra, ∀ row, r.top ≤ row → row ≤ r.bottom → row ≠ extra →
    ∃ X Y, face.Has X Y ∧ (rotatedAt frame (rowMajor frame.width X Y)).1 = row
  oneColumn : ∃ extra, ∀ column, r.left ≤ column → column ≤ r.right → column ≠ extra →
    ∃ X Y, face.Has X Y ∧ (rotatedAt frame (rowMajor frame.width X Y)).2 = column

/-- **The rectangle of a face has turned with the image exactly if the face is a square.** -/
theorem followsRotation_iff {resolution : Int × Int} {frame : Frame} {face : CameraDetectedFace}
    (hH : frame.height = resolution.2) (hin : LiesIn frame face) :
    FollowsRotation frame face (faceRectangleAt resolution face) ↔ face.width = face.height := by
  obtain ⟨hx0, hw0, hxw, hy0, hh0, hyh⟩ := hin
  have hplace {X Y : Int} (h : face.Has X Y) :
      rotatedAt frame (rowMajor frame.width X Y) = (X, frame.height - 1 - Y) := by
    obtain ⟨hX0, hX, hY0, -⟩ := h
    exact rotatedAt_pixel frame (by omega) (by omega) (by omega)
  constructor
  · intro hfollow
    rcases hfollow with ⟨hcovers, -, left, hleft⟩
    -- the last column of the face fixes how far down it goes, the last row how far left
    have hcorner : face.Has (face.x + face.width - 1) (face.y + face.height - 1) := by
      unfold CameraDetectedFace.Has
      omega
    have hspan := hcovers _ _ hcorner
    rw [hplace hcorner] at hspan
    obtain ⟨⟨-, hrow⟩, hcol, -⟩ := hspan
    dsimp only [faceRectangleAt] at hrow hcol
    -- the column right of the face is in the rectangle, so no other may lie beside it
    refine Classical.byContradiction fun hne => ?_
    have houtside (column : Int) (hl : (faceRectangleAt resolution face).left ≤ column)
        (hr : column ≤ (faceRectangleAt resolution face).right)
        (hout : column < frame.height - face.y - face.height ∨ frame.height - face.y ≤ column) :
        column = left := by
      refine Classical.byContradiction fun hc => ?_
      obtain ⟨X, Y, hhas, hat⟩ := hleft column hl hr hc
      rw [hplace hhas] at hat
      obtain ⟨-, -, hY0, hY⟩ := hhas
      dsimp only at hat
      omega
    have hfirst := houtside (faceRectangleAt resolution face).left (Int.le_refl _)
      (by dsimp only [faceRectangleAt]; omega) (Or.inl (by dsimp only [faceRectangleAt]; omega))
    have hlast := houtside (faceRectangleAt resolution face).right
      (by dsimp only [faceRectangleAt]; omega) (Int.le_refl _)
      (Or.inr (by dsimp only [faceRectangleAt]; omega))
    dsimp only [faceRectangleAt] at hfirst hlast
    omega
  · intro hsquare
    refine ⟨fun X Y h => ?_, ⟨face.x + face.width, fun row ht hb hne => ?_⟩,
      ⟨frame.height - face.y, fun column hl hr hne => ?_⟩⟩
    · rw [hplace h]
      obtain ⟨hX0, hX, hY0, hY⟩ := h
      dsimp only [faceRectangleAt]
      omega
    · dsimp only [faceRectangleAt] at ht hb
      have hhas : face.Has row face.y := by
        unfold CameraDetectedFace.Has
        omega
      exact ⟨row, face.y, hhas, by rw [hplace hhas]⟩
    · dsimp only [faceRectangleAt] at hl hr
      have hhas : face.Has face.x (frame.height - 1 - column) := by
        unfold CameraDetectedFace.Has
        omega
      refine ⟨face.x, frame.height - 1 - column, hhas, ?_⟩
      rw [hplace hhas]
      dsimp only
      omega

/-- **Every rectangle the face callback stores has turned with the image exactly when every face
    is a square.** -/
theorem faceRectangles_follow_iff {resolution : Int × Int} {frame : Frame}
    (hH : frame.height = resolution.2) {faces : List CameraDetectedFace}
    (hin : ∀ face ∈ faces, LiesIn frame face) (s : ViewInfo) :
    List.Forall₂ (FollowsRotation frame) faces (cameraFaceDetectedCbAt resolution faces s).faces ↔
      ∀ face ∈ faces, face.width = face.height := by
  have hstored : (cameraFaceDetectedCbAt resolution faces s).faces =
      faces.map (faceRectangleAt resolution) := rfl
  rw [hstored, List.forall₂_map_right_iff, List.forall₂_same]
  exact forall₂_congr fun face hmem => followsRotation_iff hH (hin face hmem)

/-- A frame of the resolution the program sets. -/
def previewFrame : Frame := ⟨.nv12, 2, 176, 144, fun _ => 0, fun _ => 128, 25344, 12672⟩

/-- A square face. -/
theorem faceRectangles_follow_square :
    List.Forall₂ (FollowsRotation previewFrame) [⟨10, 100, 40, 40⟩]
      (cameraFaceDetectedCb [⟨10, 100, 40, 40⟩] (viewCreate workingStartup)).faces :=
  (faceRectangles_follow_iff rfl (by
    intro face hmem
    obtain rfl := List.mem_singleton.mp hmem
    exact ⟨by decide, by decide, by decide, by decide, by decide, by decide⟩) _).mpr (by
    intro face hmem
    obtain rfl := List.mem_singleton.mp hmem
    rfl)

/-- A face of 40 by 30: its rectangle ends above the last rows of the face. -/
theorem wideFace_cut :
    ¬ FollowsRotation previewFrame ⟨10, 100, 40, 30⟩ (faceRectangle ⟨10, 100, 40, 30⟩) := by
  intro h
  have hlast := h.covers 49 100 (by unfold CameraDetectedFace.Has; decide)
  exact absurd hlast.1.2 (by decide)

/-! ## 3. The way back -/

/-- The landmark on the place `face_landmark` copied the pixel `(X, Y)` to; a point has the column
    first. -/
def imagePoint (frame : Frame) (X Y : Int) : Point :=
  let (row, column) := rotatedAt frame (rowMajor frame.width X Y)
  ⟨column, row⟩

/-- **The drawing functions find the pixel `(X, Y)` under the landmark `k`**: they compute its
    coordinates, and of the pixels of the frame `draw_landmark` marks for that landmark the block of
    four by four around it. -/
structure UndoesRotation (frame : Frame) (shape : FullObjectDetection) (k X Y : Int) : Prop where
  coords : frameCoords frame shape k = (X, Y)
  block : ∀ x y, 0 ≤ x → x < frame.width → 0 ≤ y → y < frame.height →
    (rowMajor frame.width x y ∈ marks frame ⟨[shape.part k]⟩ ↔
      (X - 2 ≤ x ∧ x ≤ X + 1) ∧ Y - 2 ≤ y ∧ y ≤ Y + 1)

/-- **What they compute lies one row below.** -/
theorem frameCoords_rotated (frame : Frame) {X Y : Int} (hX0 : 0 ≤ X) (hX : X < frame.width)
    (hY0 : 0 ≤ Y) {shape : FullObjectDetection} {k : Int}
    (hpart : shape.part k = imagePoint frame X Y) :
    frameCoords frame shape k = (X, Y + 1) := by
  have hplace := rotatedAt_pixel frame hX0 hX hY0
  unfold frameCoords
  rw [hpart]
  unfold imagePoint
  rw [hplace]
  exact Prod.ext rfl (by dsimp only; omega)

/-- So does the block of `draw_landmark`: its rows begin at `Y - 1`. -/
theorem blockCell_rotated (frame : Frame) {X Y : Int} (hX0 : 0 ≤ X) (hX : X < frame.width)
    (hY0 : 0 ≤ Y) {shape : FullObjectDetection} {k : Int}
    (hpart : shape.part k = imagePoint frame X Y) (q p : Int) :
    blockCell frame shape k q p = rowMajor frame.width (X - 2 + p) (Y - 1 + q) := by
  have hrows : (Y - 1 + q) * frame.width = (Y + 1 - 2) * frame.width + q * frame.width := by
    rw [← Int.add_mul]
    congr 1
    omega
  unfold blockCell
  rw [frameCoords_rotated frame hX0 hX hY0 hpart]
  unfold rowMajor
  rw [hrows]
  dsimp only
  omega

/-- **The drawing functions take the landmark `k` for the pixel below `(X, Y)`**, all four: what is
    marked for it, and where the pictures are put that are put on a landmark. -/
structure DrawsBelow (frame : Frame) (shape : FullObjectDetection) (imgarr : Nat → ImageInfo)
    (k X Y : Int) : Prop where
  coords : frameCoords frame shape k = (X, Y + 1)
  marked : ∀ e, e ∈ marks frame ⟨[shape.part k]⟩ ↔
    ∃ q, (0 ≤ q ∧ q < 4) ∧ ∃ p, (0 ≤ p ∧ p < 4) ∧
      e = rowMajor frame.width (X - 2 + p) (Y - 1 + q) ∧ 0 ≤ e ∧ e ≤ frame.ySize
  /-- the beard -/
  santaChin : k = 8 → drawSanta frame shape imgarr =
    let nose := frameCoords frame shape 27
    let frame := imageUtilSantacpy frame (imgarr 12) X (Y + 1)
    let frame := imageUtilYuvcpy frame (imgarr 6) shape.forehead nose.2
    imageUtilYuvcpy frame (imgarr 11) nose.1 nose.2
  /-- the hat and the glasses -/
  santaNose : k = 27 → drawSanta frame shape imgarr =
    let chin := frameCoords frame shape 8
    let frame := imageUtilSantacpy frame (imgarr 12) chin.1 chin.2
    let frame := imageUtilYuvcpy frame (imgarr 6) shape.forehead (Y + 1)
    imageUtilYuvcpy frame (imgarr 11) X (Y + 1)
  nyanNose : k = 33 → drawNyan frame shape imgarr =
    let left := frameCoords frame shape 17
    let right := frameCoords frame shape 26
    let frame := imageUtilYuvcpy frame (imgarr 15) shape.forehead left.2
    let frame := imageUtilYuvcpy frame (imgarr 16) shape.forehead right.2
    imageUtilYuvcpy frame (imgarr 9) X (Y + 1)
  rudolphNose : k = 30 → drawRudolph frame shape imgarr =
    let left := frameCoords frame shape 0
    let right := frameCoords frame shape 16
    let frame := imageUtilYuvcpy frame (imgarr 13) shape.forehead left.2
    let frame := imageUtilYuvcpy frame (imgarr 14) shape.forehead right.2
    imageUtilYuvcpy frame (imgarr 10) X (Y + 1)

theorem drawsBelow {frame : Frame} {X Y : Int} (hX0 : 0 ≤ X) (hX : X < frame.width)
    (hY0 : 0 ≤ Y) {shape : FullObjectDetection} {k : Int}
    (hpart : shape.part k = imagePoint frame X Y) (imgarr : Nat → ImageInfo) :
    DrawsBelow frame shape imgarr k X Y := by
  have hcoords := frameCoords_rotated frame hX0 hX hY0 hpart
  refine ⟨hcoords, fun e => ?_, ?_, ?_, ?_, ?_⟩
  · -- the only landmark of the shape is at the place 0
    have honly : FullObjectDetection.part ⟨[shape.part k]⟩ 0 = imagePoint frame X Y := hpart
    have hcell := blockCell_rotated frame hX0 hX hY0 honly
    rw [mem_marks_iff]
    constructor
    · intro h
      obtain ⟨i, hi, q, hq, p, hp, he, hrange⟩ := h
      obtain rfl : i = 0 := by
        have hlast : i < 1 := hi.2
        omega
      exact ⟨q, hq, p, hp, he.trans (hcell q p), hrange⟩
    · intro h
      obtain ⟨q, hq, p, hp, he, hrange⟩ := h
      exact ⟨0, ⟨le_refl _, Int.one_pos⟩, q, hq, p, hp, he.trans (hcell q p).symm, hrange⟩
  · rintro rfl
    rw [drawSanta_coords, hcoords]
  · rintro rfl
    rw [drawSanta_coords, hcoords]
  · rintro rfl
    rw [drawNyan_coords, hcoords]
  · rintro rfl
    rw [drawRudolph_coords, hcoords]

/-- **For no pixel of any frame and no landmark on it do the drawing functions undo the rotation**:
    each of the four takes the landmark for the pixel below. -/
theorem undoesRotation_never {frame : Frame} {X Y : Int} (hX0 : 0 ≤ X) (hX : X < frame.width)
    (hY0 : 0 ≤ Y) {shape : FullObjectDetection} {k : Int}
    (hpart : shape.part k = imagePoint frame X Y) (imgarr : Nat → ImageInfo) :
    ¬ UndoesRotation frame shape k X Y ∧ DrawsBelow frame shape imgarr k X Y := by
  have hbelow := drawsBelow hX0 hX hY0 hpart imgarr
  refine ⟨fun h => ?_, hbelow⟩
  have hrow := congrArg Prod.snd (hbelow.coords.symm.trans h.coords)
  dsimp only at hrow
  omega

/-- A landmark on the last pixel of a frame of 4 by 4. -/
theorem undoesRotation_lastPixel :
    ¬ UndoesRotation (evenFrame 0 128) ⟨[⟨0, 3⟩]⟩ 0 3 3 ∧
      DrawsBelow (evenFrame 0 128) ⟨[⟨0, 3⟩]⟩ workingStartup.imgarr 0 3 3 :=
  undoesRotation_never (by decide) (by decide) (by decide) (by decide) workingStartup.imgarr

/-- The landmark on the pixel `(1, 1)` is looked for at `(1, 2)`. -/
theorem secondRow_drawnBelow :
    FullObjectDetection.part ⟨[⟨2, 1⟩]⟩ 0 = imagePoint (evenFrame 0 128) 1 1 ∧
      ¬ UndoesRotation (evenFrame 0 128) ⟨[⟨2, 1⟩]⟩ 0 1 1 := by
  refine ⟨by decide, fun h => ?_⟩
  exact absurd h.coords (by decide)

end SelfCamera
