/-
  File:      SelfCamera/Imageutils.lean
  Subject:   THE BLITTERS of imageutils.cpp: `_image_util_yuvcpy`, `_image_util_santacpy`.

  The two functions differ in one thing, the test that leaves a sticker pixel undrawn. They are
  one function `imageUtilCpy` of that test here; each keeps its own definition, as that function
  applied to its own test. `_image_util_imgcpy` is called from nowhere and is left out.
-/
import SelfCamera.Frame
import SelfCamera.Lib.Loop

namespace SelfCamera

/-- The `y`, `u`, `v` of a sticker pixel leave it undrawn? -/
abbrev Keyed := UInt8 → UInt8 → UInt8 → Bool

/-- `p -= sw / 2; if (p % 2 != 0) p++;` -/
def placed (p sw : Int) : Int :=
  let p := p - sw.tdiv 2
  if p.tmod 2 ≠ 0 then p + 1 else p

/-- What one iteration of the copy loops writes: `y` at `pt`, then `v` and `u` at `ptpt`. -/
structure PixelWrite where
  pt : Int
  ptpt : Int
  y : UInt8
  u : UInt8
  v : UInt8

/-- The body of the copy loops for the sticker pixel `(i, j)`, up to its three assignments;
    `none` is a `continue`. `p` and `q` are the corner, already rounded. -/
def copyPixel (keyed : Keyed) (frame : Frame) (imginfo : ImageInfo) (p q i j : Int) :
    Option PixelWrite :=
  let fw := frame.width
  let sw := imginfo.width
  let sySize := imginfo.height * imginfo.width
  let pp := p + i
  let qq := q + j
  if pp < 0 ∨ qq < 0 then none
  else
    let pt := pp + qq * fw
    let pti := i + j * sw
    let pp := pp.tdiv 2
    let qq := qq.tdiv 2
    let ptpt := (pp + (qq * fw).tdiv 2) * 2
    let ii := i.tdiv 2
    let jj := j.tdiv 2
    let ptipti := (ii + (jj * sw).tdiv 2) * 2 + sySize
    let y := imginfo.data pti
    if ptipti < imginfo.size then
      let u := imginfo.data ptipti
      let v := imginfo.data (ptipti + 1)
      if keyed y u v then none
      else if pt < frame.ySize ∧ ptpt < frame.uvSize then some ⟨pt, ptpt, y, u, v⟩
      else none
    else none

/-- The three assignments. -/
def Frame.put (frame : Frame) (w : PixelWrite) : Frame :=
  { frame with
    y := frame.y.set w.pt w.y
    uv := (frame.uv.set w.ptpt w.v).set (w.ptpt + 1) w.u }

/-- One iteration of the copy loops. -/
def copyStep (keyed : Keyed) (imginfo : ImageInfo) (p q i j : Int) (frame : Frame) : Frame :=
  match copyPixel keyed frame imginfo p q i j with
  | none => frame
  | some w => frame.put w

/-- The function both blitters are. -/
def imageUtilCpy (keyed : Keyed) (frame : Frame) (imginfo : ImageInfo) (p q : Int) : Frame :=
  let p := placed p imginfo.width
  let q := placed q imginfo.height
  Loop.forLt imginfo.height (fun j frame =>
    Loop.forLt imginfo.width (fun i frame => copyStep keyed imginfo p q i j frame) frame) frame

/-- The copy loops write into the two buffers and nothing else. -/
@[simp] theorem copyStep_header (keyed : Keyed) (imginfo : ImageInfo) (p q i j : Int)
    (frame : Frame) : (copyStep keyed imginfo p q i j frame).header = frame.header := by
  unfold copyStep
  split <;> rfl

@[simp] theorem imageUtilCpy_header (keyed : Keyed) (frame : Frame) (imginfo : ImageInfo)
    (p q : Int) : (imageUtilCpy keyed frame imginfo p q).header = frame.header := by
  unfold imageUtilCpy
  refine Loop.forLt_proj Frame.header (fun j fr _ _ => ?_) frame
  exact Loop.forLt_proj Frame.header (fun i fr _ _ => copyStep_header ..) fr

/-- The test of `_image_util_yuvcpy`: a white background. -/
def yuvKeyed : Keyed := fun y u v =>
  y > 230 && (u > 124 || u < 132) && (v > 124 || v < 132)

/-- The test of `_image_util_santacpy`: a black background. -/
def santaKeyed : Keyed := fun y u v =>
  y < 30 && (u > 124 || u < 132) && (v > 124 || v < 132)

/-- `_image_util_yuvcpy`. -/
def imageUtilYuvcpy : Frame → ImageInfo → Int → Int → Frame := imageUtilCpy yuvKeyed

/-- `_image_util_santacpy`. -/
def imageUtilSantacpy : Frame → ImageInfo → Int → Int → Frame := imageUtilCpy santaKeyed

@[simp] theorem imageUtilYuvcpy_header (frame : Frame) (imginfo : ImageInfo) (p q : Int) :
    (imageUtilYuvcpy frame imginfo p q).header = frame.header :=
  imageUtilCpy_header ..

@[simp] theorem imageUtilSantacpy_header (frame : Frame) (imginfo : ImageInfo) (p q : Int) :
    (imageUtilSantacpy frame imginfo p q).header = frame.header :=
  imageUtilCpy_header ..

end SelfCamera
