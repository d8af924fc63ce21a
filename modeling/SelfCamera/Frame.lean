/-
  File:      SelfCamera/Frame.lean
  Subject:   THE DATA the preview callbacks work on: the frame of the camera, the decoded
             stickers, and what of dlib the application reads.

  Buffers are functions from an index, as a C pointer is: reading and writing past the end is
  possible and has to be excluded by proof where it matters. Index arithmetic is exact (`Int`),
  division and remainder are C's (`Int.tdiv`, `Int.tmod`).
-/
import Mathlib.Logic.Function.Basic
import Mathlib.Data.UInt

namespace SelfCamera

/-- `unsigned char *`. -/
abbrev Buffer := Int → UInt8

/-- `b[i] = v`. -/
def Buffer.set (b : Buffer) (i : Int) (v : UInt8) : Buffer := Function.update b i v

@[simp] theorem Buffer.set_same (b : Buffer) (i : Int) (v : UInt8) : b.set i v i = v := by
  simp [Buffer.set]

theorem Buffer.set_ne (b : Buffer) {i k : Int} (v : UInt8) (h : k ≠ i) : b.set i v k = b k := by
  simp [Buffer.set, Function.update_of_ne h]

/-- `camera_pixel_format_e`; the application knows one of them. -/
inductive CameraPixelFormat where
  | nv12 | other
  deriving DecidableEq, Repr

/-- `camera_preview_data_s` with the `double_plane` member of its union. The planes are two buffers,
    also where the framework keeps them in one block: `y[y_size]` is then `uv[0]`, which only a
    write past the end of a plane could tell. -/
structure Frame where
  format : CameraPixelFormat
  numOfPlanes : Int
  width : Int
  height : Int
  y : Buffer
  uv : Buffer
  ySize : Int
  uvSize : Int

/-- Everything of a frame but its two buffers. -/
structure FrameHeader where
  format : CameraPixelFormat
  numOfPlanes : Int
  width : Int
  height : Int
  ySize : Int
  uvSize : Int
  deriving DecidableEq, Repr

def Frame.header (frame : Frame) : FrameHeader :=
  ⟨frame.format, frame.numOfPlanes, frame.width, frame.height, frame.ySize, frame.uvSize⟩

/-- The test both preview callbacks begin with. -/
def Frame.supported (frame : Frame) : Bool :=
  frame.format == .nv12 && frame.numOfPlanes == 2

/-- `imageinfo`: a sticker decoded to NV12. A picture that was not decoded has no pixels. -/
structure ImageInfo where
  data : Buffer
  size : Int
  width : Int
  height : Int

/-- `dlib::point`. -/
structure Point where
  x : Int
  y : Int
  deriving DecidableEq, Repr

/-- `dlib::rectangle`, both ends inclusive. -/
structure Rectangle where
  left : Int
  top : Int
  right : Int
  bottom : Int
  deriving DecidableEq, Repr

def Rectangle.isEmpty (r : Rectangle) : Bool := r.top > r.bottom || r.left > r.right

/-- `rectangle::width()`. -/
def Rectangle.width (r : Rectangle) : Int := if r.isEmpty then 0 else r.right - r.left + 1

/-- `rectangle::height()`. -/
def Rectangle.height (r : Rectangle) : Int := if r.isEmpty then 0 else r.bottom - r.top + 1

/-- `dlib::full_object_detection`: the landmarks of one face. -/
structure FullObjectDetection where
  parts : List Point

def FullObjectDetection.numParts (shape : FullObjectDetection) : Int := shape.parts.length

/-- `shape.part(k)`. -/
def FullObjectDetection.part (shape : FullObjectDetection) (k : Int) : Point :=
  shape.parts.getD k.toNat ⟨0, 0⟩

/-- `dlib::array2d<u_int64_t>`: rows, columns and the cells. -/
structure Array2d where
  nr : Int
  nc : Int
  cell : Int → Int → UInt8

/-- `img[r][c] = v`. -/
def Array2d.set (img : Array2d) (r c : Int) (v : UInt8) : Array2d :=
  { img with cell := Function.update img.cell r (Function.update (img.cell r) c v) }

theorem Array2d.set_same (img : Array2d) (r c : Int) (v : UInt8) :
    (img.set r c v).cell r c = v := by
  simp [Array2d.set]

theorem Array2d.set_ne (img : Array2d) {r c r' c' : Int} (v : UInt8) (h : ¬ (r' = r ∧ c' = c)) :
    (img.set r c v).cell r' c' = img.cell r' c' := by
  by_cases hr : r' = r
  · have hc : c' ≠ c := fun hc => h ⟨hr, hc⟩
    simp [Array2d.set, hr, Function.update_of_ne hc]
  · simp [Array2d.set, Function.update_of_ne hr]

/-- The trained predictor `sp`, as the answers it gives: `sp(img, face)`. -/
abbrev ShapePredictor := Array2d → Rectangle → FullObjectDetection

/-- `camera_detected_face_s`, in the fields the application reads. -/
structure CameraDetectedFace where
  x : Int
  y : Int
  width : Int
  height : Int

end SelfCamera
