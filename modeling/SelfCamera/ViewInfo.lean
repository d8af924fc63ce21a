/-
  File:      SelfCamera/ViewInfo.lean
  Subject:   THE STATE `s_info` of view.cpp, and the record of what a run has done.

  `struct view_info` without its widgets. The fields no `camera_*` call and no photo writes are a
  record of their own (`Controls`), so that "the function touches the device only" is one equation.
  The handle `camera` is the device itself (Camera.lean).

  The field `trace` is not in the source: it lists, newest first, what the application did to its
  surroundings and the few internal calls the results speak about. No function reads it.
-/
import SelfCamera.Camera
import SelfCamera.Frame

namespace SelfCamera

/-- `struct tm`, as `localtime_r` fills it. -/
@[ext] structure Tm where
  tmYear : Int
  tmMon : Nat
  tmMday : Nat
  tmHour : Nat
  tmMin : Nat
  tmSec : Nat
  mon_lt : tmMon < 12
  mday_le : 1 ≤ tmMday ∧ tmMday ≤ 31
  hour_lt : tmHour < 24
  min_lt : tmMin < 60
  /-- 60 is a leap second -/
  sec_le : tmSec ≤ 60
  deriving DecidableEq

/-- One thing a run did. -/
inductive Action where
  /-- a `camera_*` call and whether it succeeded -/
  | camera (k : CameraCall) (ok : Bool)
  /-- `view_resume` returned, leaving this device -/
  | viewResume (returned : Bool) (camera : Camera)
  /-- `_camera_face_detected_cb` stored these -/
  | facesDetected (faces : List Rectangle)
  /-- `_sticker_preview_callback` called `face_landmark` while the list held these -/
  | faceLandmark (faces : List Rectangle)
  /-- `localtime_r` answered -/
  | localtime (tm : Tm)
  /-- `image_util_encode_jpeg` was given this frame and this path, and returned `result` -/
  | encodeJpeg (frame : Frame) (path : List Char) (result : Int)
  /-- `_main_view_thumbnail_set` -/
  | thumbnailSet (path : List Char)

/-- The fields of `view_info` that only the handlers of view.cpp write. -/
structure Controls where
  nose : Int × Int
  cameraEnabled : Bool
  mediaContentFolder : Option (List Char)
  sticker : Int
  filter : Int
  cammode : Nat
  fin : Int
  motion : Nat
  timer : Int
  flagCapturing : Bool
  flagFacerunning : Bool

/-- `s_info`, with the global `imgarr` beside it. -/
structure ViewInfo extends Controls where
  camera : Camera
  /-- detected faces -/
  faces : List Rectangle
  imgarr : Nat → ImageInfo
  trace : List Action

/-- Write one thing into the record. -/
def ViewInfo.note (s : ViewInfo) (a : Action) : ViewInfo := { s with trace := a :: s.trace }

/-- A `camera_*` call on `s_info.camera`. -/
def ViewInfo.invoke (s : ViewInfo) (k : CameraCall) : ViewInfo :=
  { s with camera := s.camera.invoke k, trace := .camera k (s.camera.accepts k) :: s.trace }

section Projections

variable (s : ViewInfo) (a : Action) (k : CameraCall)

@[simp] theorem note_toControls : (s.note a).toControls = s.toControls := rfl
@[simp] theorem note_camera : (s.note a).camera = s.camera := rfl
@[simp] theorem note_faces : (s.note a).faces = s.faces := rfl
@[simp] theorem note_trace : (s.note a).trace = a :: s.trace := rfl
@[simp] theorem invoke_toControls : (s.invoke k).toControls = s.toControls := rfl
@[simp] theorem invoke_camera : (s.invoke k).camera = s.camera.invoke k := rfl
@[simp] theorem invoke_faces : (s.invoke k).faces = s.faces := rfl
@[simp] theorem invoke_trace :
    (s.invoke k).trace = .camera k (s.camera.accepts k) :: s.trace := rfl

end Projections

end SelfCamera
