/-
  File:      SelfCamera/View.lean
  Subject:   THE FUNCTIONS OF view.cpp: start-up, pause and resume, the capture, the face-detection
             callback, `face_landmark`, the two preview callbacks and the button handlers.

  Each definition follows its source function statement by statement; a state passed on under the
  same name is the assignment to `s_info`. What a frame callback meets outside the program (the
  predictor's answers, the clock, the encoder) is its `FrameEnv`. Logging, widgets and popups are
  left out; so are the camera settings whose results nothing reads (display mode, visibility,
  preview resolution).
-/
import SelfCamera.Landmark
import SelfCamera.Lib.Printf
import SelfCamera.ViewInfo

namespace SelfCamera

/-- `MAX_FILTER` -/
def maxFilter : Int := 14

/-- `MAX_STICKER` -/
def maxSticker : Int := 10

/-- `int resolution[2] = { 176, 144 };` -/
def resolution : Int × Int := (176, 144)

/-- `PATH_MAX` of the platform's `limits.h` -/
def pathMax : Nat := 4096

/-- What one call of a preview callback meets outside the program. -/
structure FrameEnv where
  /-- `sp`: what the predictor answers on this frame -/
  sp : ShapePredictor
  /-- `time(NULL)` -/
  rawtime : Int
  /-- `localtime_r`: the rule of the local time zone -/
  localtimeR : Int → Option Tm
  /-- what `image_util_encode_jpeg` is going to return; 0 is `IMAGE_UTIL_ERROR_NONE` -/
  encodeResult : Int

/-! ## 1. Pause and resume -/

/-- `view_pause` -/
def viewPause (s : ViewInfo) : ViewInfo :=
  match s.camera.getState with
  | none => s
  | some curState =>
    if curState = .preview then
      let s := s.invoke .stopFaceDetection
      let s := s.invoke .stopPreview
      { s with faces := [] }
    else s

/-- The part of `view_resume` that runs when the camera is not in PREVIEW. -/
def restartPreview (s : ViewInfo) : ViewInfo :=
  let s := s.invoke .unsetPreviewCb
  let s := s.invoke .stopPreview
  let s := s.invoke .startPreview
  let s := s.invoke .stopPreview
  let s := s.invoke .startPreview
  let s := s.invoke .startFocusing
  let s := if s.flagFacerunning = true then s.invoke .startFaceDetection else s
  if s.sticker ≠ 0 then s.invoke (.setPreviewCb .sticker)
  else s.invoke (.setPreviewCb .filter)

/-- `view_resume`; the last `note` records what it returned and the device it left. -/
def viewResume (s : ViewInfo) : ViewInfo × Bool :=
  match s.camera.getState with
  | none => (s.note (.viewResume false s.camera), false)
  | some curState =>
    let s := if curState ≠ .preview then restartPreview s else s
    (s.note (.viewResume true s.camera), true)

/-- `_main_view_init_camera` (the canvas is there: `_main_view_add` has returned without it) -/
def mainViewInitCamera (s : ViewInfo) : ViewInfo × Bool :=
  let created := s.camera.accepts .create
  let s := s.invoke .create
  if created = false then (s, false)
  else
    let displayed := s.camera.accepts .setDisplay
    let s := s.invoke .setDisplay
    if displayed = false then (s, false)
    else viewResume s

/-! ## 2. The capture -/

/-- `FILE_PREFIX` -/
def filePrefix : List Char := ['I', 'M', 'A', 'G', 'E']

/-- What `printf` writes for `%s` and this pointer (`(null)` for a null pointer). -/
def cString : Option (List Char) → List Char
  | some text => text
  | none => ['(', 'n', 'u', 'l', 'l', ')']

/-- `"%04i-%02i-%02i_%02i:%02i:%02i.jpg"` of a broken-down time -/
def timeName (tm : Tm) : List Char :=
  Printf.zeroPadInt 4 (tm.tmYear + 1900) ++ '-' :: Printf.zeroPad 2 (tm.tmMon + 1) ++
    '-' :: Printf.zeroPad 2 tm.tmMday ++ '_' :: Printf.zeroPad 2 tm.tmHour ++
    ':' :: Printf.zeroPad 2 tm.tmMin ++ ':' :: Printf.zeroPad 2 tm.tmSec ++
    ['.', 'j', 'p', 'g']

/-- The text `_main_view_get_file_path` prints. -/
def fileName (folder : Option (List Char)) (tm : Tm) : List Char :=
  cString folder ++ '/' :: filePrefix ++ '_' :: timeName tm

/-- `_main_view_get_file_path`: the buffer and the number it returns. Without a local time the
    buffer is left as it was given, empty. -/
def mainViewGetFilePath (env : FrameEnv) (size : Nat) (s : ViewInfo) :
    ViewInfo × List Char × Nat :=
  match env.localtimeR env.rawtime with
  | none => (s, [], 0)
  | some tm =>
    let text := fileName s.mediaContentFolder tm
    (s.note (.localtime tm), Printf.snprintf size text, text.length)

/-- The loop of `_main_view_mycapture_cb` over the chroma plane, two bytes at a time. -/
def swapUv (frame : Frame) : Frame :=
  Loop.forLt ((frame.uvSize + 1).tdiv 2) (fun k frame =>
    let i := 2 * k
    let tmp := frame.uv i
    let frame := { frame with uv := frame.uv.set i (frame.uv (i + 1)) }
    { frame with uv := frame.uv.set (i + 1) tmp }) frame

/-- `_main_view_mycapture_cb` -/
def mainViewMycaptureCb (env : FrameEnv) (frame : Frame) (s : ViewInfo) : ViewInfo × Frame :=
  if s.cameraEnabled = false then (s, frame)
  else
    let frame := swapUv frame
    let s := viewPause s
    if frame.format = .nv12 then
      let (s, filename, size) := mainViewGetFilePath env pathMax s
      if size = 0 then (s, frame)
      else
        let errorCode := env.encodeResult
        let s := s.note (.encodeJpeg frame filename errorCode)
        if errorCode ≠ 0 then (s, frame)
        else
          let s := s.note (.thumbnailSet filename)
          ((viewResume s).1, frame)
    else ((viewResume s).1, frame)

/-! ## 3. Faces -/

/-- The rectangle `_camera_face_detected_cb` stores for one face, whatever `resolution` holds. -/
def faceRectangleAt (resolution : Int × Int) (face : CameraDetectedFace) : Rectangle where
  top := face.x
  bottom := face.x + face.height
  right := resolution.2 - face.y
  left := resolution.2 - face.y - face.width

/-- The rectangle `_camera_face_detected_cb` stores for one face. -/
def faceRectangle (face : CameraDetectedFace) : Rectangle := faceRectangleAt resolution face

/-- `_camera_face_detected_cb`, whatever `resolution` holds -/
def cameraFaceDetectedCbAt (resolution : Int × Int) (faces : List CameraDetectedFace)
    (s : ViewInfo) : ViewInfo :=
  let s := { s with faces := faces.map (faceRectangleAt resolution) }
  s.note (.facesDetected s.faces)

/-- `_camera_face_detected_cb` -/
def cameraFaceDetectedCb (faces : List CameraDetectedFace) (s : ViewInfo) : ViewInfo :=
  cameraFaceDetectedCbAt resolution faces s

/-- The first loop of `face_landmark`: the luma plane, turned by a quarter. -/
def rotateImage (frame : Frame) : Array2d :=
  Loop.forLt frame.ySize (fun i img =>
    img.set (i.tmod frame.width) (frame.height - i.tdiv frame.width - 1) (frame.y i))
    ⟨frame.width, frame.height, fun _ _ => 0⟩

/-- `if (V < 0) V *= -1;` -/
def magnitude (v : Int) : Int := if v < 0 then v * -1 else v

/-- Did the nose move by more than a twelfth of the face since `s_info.nose`? -/
def headMoved (shape : FullObjectDetection) (face : Rectangle) (s : Controls) : Bool :=
  s.nose.1 != 0 && s.nose.2 != 0 &&
    magnitude ((shape.part 33).x - s.nose.1) > face.width.tdiv 12

/-- Are the lips further apart than a sixth of the face? -/
def mouthOpen (shape : FullObjectDetection) (face : Rectangle) : Bool :=
  magnitude ((shape.part 51).y - (shape.part 57).y) > face.height.tdiv 6

/-- What `face_landmark` does on a head movement. -/
def advanceSticker (s : ViewInfo) : ViewInfo :=
  let s := { s with sticker := s.sticker + 2 }
  if s.sticker > maxSticker then
    let s := { s with sticker := 0 }
    let s := s.invoke .stopFaceDetection
    { s with flagFacerunning := false }
  else s

/-- The gesture branch of `face_landmark`. -/
def gesture (shape : FullObjectDetection) (face : Rectangle) (s : ViewInfo) : ViewInfo :=
  let s : ViewInfo :=
    if s.timer = 8 then
      let s := if headMoved shape face s.toControls then advanceSticker s else s
      if mouthOpen shape face then { s with flagCapturing := true } else s
    else s
  { s with nose := ((shape.part 33).x, (shape.part 33).y) }

/-- The switch of `face_landmark`. -/
def drawSticker (sticker : Int) (frame : Frame) (shape : FullObjectDetection)
    (imgarr : Nat → ImageInfo) : Frame :=
  match sticker with
  | 2 => drawNyan frame shape imgarr
  | 4 => drawRudolph frame shape imgarr
  | 6 => drawSanta frame shape imgarr
  | 8 => drawLandmark frame shape
  | _ => frame

/-- `s_info.timer--; if (s_info.timer < 0) s_info.timer = 8;` -/
def tick (s : ViewInfo) : ViewInfo :=
  let s := { s with timer := s.timer - 1 }
  if s.timer < 0 then { s with timer := 8 } else s

/-- One round of the second loop of `face_landmark`. -/
def landmarkRound (sp : ShapePredictor) (img : Array2d) (i : Int) (r : ViewInfo × Frame) :
    ViewInfo × Frame :=
  let (s, frame) := r
  let face := s.faces.getD i.toNat ⟨0, 0, 0, 0⟩
  let shape := sp img face
  let s := if s.motion ≠ 0 ∧ i = 0 then gesture shape face s else s
  (s, drawSticker s.sticker frame shape s.imgarr)

/-- `face_landmark` -/
def faceLandmark (sp : ShapePredictor) (frame : Frame) (count : Int) (s : ViewInfo) :
    ViewInfo × Frame :=
  if frame.ySize ≠ frame.width * frame.height then (s, frame)
  else
    let img := rotateImage frame
    let s := tick s
    Loop.forLt count (landmarkRound sp img) (s, frame)

/-! ## 4. The preview callbacks -/

/-- The `if (s_info.flag_capturing)` block that ends both preview callbacks. -/
def captureIfRequested (env : FrameEnv) (frame : Frame) (s : ViewInfo) : ViewInfo × Frame :=
  if s.flagCapturing then
    let s := { s with flagCapturing := false }
    mainViewMycaptureCb env frame s
  else (s, frame)

/-- The `if (s_info.flag_facerunning)` block of `_sticker_preview_callback`. -/
def landmarkIfRunning (env : FrameEnv) (frame : Frame) (s : ViewInfo) : ViewInfo × Frame :=
  if s.flagFacerunning then
    let buf := s.faces
    let count := buf.length
    if count > 0 then faceLandmark env.sp frame count (s.note (.faceLandmark s.faces))
    else (s, frame)
  else (s, frame)

/-- `_sticker_preview_callback` -/
def stickerPreviewCallback (env : FrameEnv) (frame : Frame) (s : ViewInfo) :
    ViewInfo × Frame :=
  if frame.supported then
    let (s, frame) := landmarkIfRunning env frame s
    captureIfRequested env frame s
  else (s, frame)

/-- Scaling and clamping one chroma byte, as `apply_filter` does it. -/
abbrev ByteMap := UInt8 → UInt8

/-- `val = val * c; if (val > 255) val = 255; if (val < 0) val = 0;` with `c` in hundredths. The
    source has `c` as a `double`; on every byte and for every factor the source uses, the product
    truncates to what the exact fraction gives. -/
def scale (c : Int) : ByteMap := fun val =>
  let val : Int := ((val.toNat : Int) * c).tdiv 100
  let val := if val > 255 then 255 else val
  let val := if val < 0 then 0 else val
  UInt8.ofNat val.toNat

/-- The loop of `apply_filter`; `Cb` and `Cr` are what it does to a byte. -/
def filterUv (cb cr : ByteMap) (frame : Frame) : Frame :=
  Loop.forLt frame.uvSize (fun i frame =>
    if i.tmod 2 ≠ 0 then { frame with uv := frame.uv.set i (cr (frame.uv i)) }
    else { frame with uv := frame.uv.set i (cb (frame.uv i)) }) frame

/-- `apply_filter` -/
def applyFilter (frame : Frame) (cb cr : ByteMap) (s : ViewInfo) : ViewInfo × Frame :=
  (s.invoke (.attrSetEffect .none), filterUv cb cr frame)

/-- The arguments `apply_filter` gets in the switch of `_filter_preview_callback`. -/
def filterScales : Int → Option (ByteMap × ByteMap)
  | 4 => some (scale 95, scale 105)
  | 5 => some (scale 90, scale 107)
  | 6 => some (scale 85, scale 110)
  | 7 => some (scale 105, scale 95)
  | 8 => some (scale 107, scale 90)
  | 9 => some (scale 110, scale 85)
  | 10 => some (scale 97, scale 96)
  | 11 => some (scale 95, scale 95)
  | 12 => some (scale 93, scale 93)
  | _ => none

/-- The switch of `_filter_preview_callback`, over a table of filters. -/
def filterIfSelected (scales : Int → Option (ByteMap × ByteMap)) (frame : Frame)
    (s : ViewInfo) : ViewInfo × Frame :=
  match scales s.filter with
  | some (cb, cr) => applyFilter frame cb cr s
  | none => (s, frame)

/-- `_filter_preview_callback` over a table of filters. -/
def filterPreviewCallbackWith (scales : Int → Option (ByteMap × ByteMap)) (env : FrameEnv)
    (frame : Frame) (s : ViewInfo) : ViewInfo × Frame :=
  if frame.supported then
    let (s, frame) := filterIfSelected scales frame s
    captureIfRequested env frame s
  else (s, frame)

/-- `_filter_preview_callback` -/
def filterPreviewCallback : FrameEnv → Frame → ViewInfo → ViewInfo × Frame :=
  filterPreviewCallbackWith filterScales

/-! ## 5. The buttons -/

/-- The switch of `_main_view_effect_button_cb`: the effect a filter value sets, if it sets one. -/
def filterEffect : Int → Option Effect
  | 0 => some .none
  | 1 => some .mono
  | 2 => some .negative
  | 3 => some .sepia
  | _ => none

/-- `_main_view_effect_button_cb`. Where `camera_get_state` fails the source compares an unset
    variable; there is no device then, and `flag_facerunning` is not set. -/
def mainViewEffectButtonCb (s : ViewInfo) : ViewInfo :=
  let s := { s with filter := (s.filter + 1).tmod maxFilter }
  let s : ViewInfo :=
    if s.camera.getState = some .preview then
      if s.flagFacerunning = true then
        let s := s.invoke .stopFaceDetection
        let s := { s with flagFacerunning := false }
        if s.sticker ≠ 0 then
          let s := s.invoke .unsetPreviewCb
          s.invoke (.setPreviewCb .filter)
        else s
      else s
    else s
  match filterEffect s.filter with
  | some e => s.invoke (.attrSetEffect e)
  | none => s

/-- `_main_view_sticker_button_cb` -/
def mainViewStickerButtonCb (s : ViewInfo) : ViewInfo :=
  if s.fin ≠ 1 then s
  else
    let s := { s with sticker := (s.sticker + 1).tmod maxSticker }
    let s : ViewInfo :=
      if s.sticker ≠ 0 then
        let s := s.invoke .unsetPreviewCb
        s.invoke (.setPreviewCb .sticker)
      else s
    if s.sticker = 0 ∧ s.flagFacerunning = true then
      let s := s.invoke .stopFaceDetection
      { s with flagFacerunning := false }
    else if s.flagFacerunning = false then
      let started := s.camera.accepts .startFaceDetection
      let s := s.invoke .startFaceDetection
      if started = false then s else { s with flagFacerunning := true }
    else s

/-- `_main_view_change_button_cb` -/
def mainViewChangeButtonCb (s : ViewInfo) : ViewInfo := { s with cammode := s.cammode ^^^ 1 }

/-- `_main_view_motion_button_cb` -/
def mainViewMotionButtonCb (s : ViewInfo) : ViewInfo :=
  if s.filter ≠ 0 then { s with motion := 0 } else { s with motion := s.motion ^^^ 1 }

/-- `_main_view_shutter_button_cb` -/
def mainViewShutterButtonCb (s : ViewInfo) : ViewInfo :=
  if s.cameraEnabled then { s with flagCapturing := true } else s

/-- `enable_sticker`, run in the main loop when the predictor has been read -/
def enableSticker (s : ViewInfo) : ViewInfo := { s with fin := 1 }

end SelfCamera
