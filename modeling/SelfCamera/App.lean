/-
  File:      SelfCamera/App.lean
  Subject:   THE APPLICATION AS A MACHINE: what it starts in, what can happen to it, and its runs.

  The handlers run one at a time. The framework calls the installed preview callback once per
  frame while the camera is in PREVIEW, and the face callback while detection is running; an event
  the framework cannot deliver in a state changes nothing there.
-/
import SelfCamera.View
import SelfCamera.Lib.Run

namespace SelfCamera

/-- What start-up finds: the answers of the device, the photo folder of `_list_media_folders`
    (none, when no folder has the right name), the decoded stickers. -/
structure Startup where
  outcome : Nat → CameraCall → Bool
  folder : Option (List Char)
  imgarr : Nat → ImageInfo

/-- The initial value of `s_info`, before the camera is created. -/
def sInfo (cfg : Startup) : ViewInfo where
  nose := (0, 0)
  cameraEnabled := false
  mediaContentFolder := cfg.folder
  sticker := 0
  filter := 0
  cammode := 1
  fin := 0
  motion := 0
  timer := 8
  flagCapturing := false
  flagFacerunning := false
  camera := ⟨.none, none, false, .none, 0, cfg.outcome⟩
  faces := []
  imgarr := cfg.imgarr
  trace := []

/-- `view_create`, in what it does to `s_info`: it stores in `camera_enabled` what
    `_main_view_init_camera` returns. The look into the photo folder that follows writes nothing to
    `s_info` (`mainViewAdd`). -/
def viewCreate (cfg : Startup) : ViewInfo :=
  let (s, enabled) := mainViewInitCamera (sInfo cfg)
  { s with cameraEnabled := enabled }

/-- What can happen to the running application. -/
inductive Event where
  | stickerButton | effectButton | motionButton | changeButton | shutterButton
  /-- the framework has a preview frame -/
  | frame (fr : Frame) (env : FrameEnv)
  /-- the framework has detected faces -/
  | facesDetected (faces : List CameraDetectedFace)
  /-- `app_pause` -/
  | pause
  /-- `app_resume` -/
  | resume
  /-- the background loader is done -/
  | enableSticker

/-- A preview frame: the installed callback, while the camera is in PREVIEW. The frame returned is
    the one that is displayed. -/
def deliver (env : FrameEnv) (frame : Frame) (s : ViewInfo) : ViewInfo × Frame :=
  if s.camera.state = .preview then
    match s.camera.previewCb with
    | some .sticker => stickerPreviewCallback env frame s
    | some .filter => filterPreviewCallback env frame s
    | none => (s, frame)
  else (s, frame)

/-- One event. -/
def step (s : ViewInfo) : Event → ViewInfo
  | .stickerButton => mainViewStickerButtonCb s
  | .effectButton => mainViewEffectButtonCb s
  | .motionButton => mainViewMotionButtonCb s
  | .changeButton => mainViewChangeButtonCb s
  | .shutterButton => mainViewShutterButtonCb s
  | .frame fr env => (deliver env fr s).1
  | .facesDetected faces => if s.camera.faceDetection then cameraFaceDetectedCb faces s else s
  | .pause => viewPause s
  | .resume => (viewResume s).1
  | .enableSticker => enableSticker s

/-- The state after start-up and the events `es`. -/
def runApp (cfg : Startup) (es : List Event) : ViewInfo := Run.exec step (viewCreate cfg) es

/-- Every camera call of the run succeeds when it is legal. -/
def Startup.AllOk (cfg : Startup) : Prop := ∀ n k, cfg.outcome n k = true

/-! ## Small inputs, for the runs the results exhibit -/

/-- A device on which every call succeeds, a photo folder, no sticker picture decoded. -/
def workingStartup : Startup where
  outcome _ _ := true
  folder := some ['/', 'm', 'e', 'd', 'i', 'a']
  imgarr _ := ⟨fun _ => 0, 0, 0, 0⟩

/-- An NV12 frame of 4 by 4 with the constant luma `luma` and the constant chroma `chroma`. -/
def evenFrame (luma chroma : UInt8) : Frame :=
  ⟨.nv12, 2, 4, 4, fun _ => luma, fun _ => chroma, 16, 8⟩

/-- A grey sticker of `width` by `height`. -/
def greySticker (width height : Int) : ImageInfo :=
  ⟨fun _ => 128, width * height * 3 / 2, width, height⟩

/-- A predictor that puts every landmark at `(1, 1)` on a dark picture and at `(3, 1)` on any
    other. -/
def turningHead : ShapePredictor := fun img _ =>
  ⟨List.replicate 68 ⟨if img.cell 0 0 = 0 then 1 else 3, 1⟩⟩

/-- 12:00:00 on the first of January 2018. -/
def newYear : Tm := ⟨118, 0, 1, 12, 0, 0, by decide, by decide, by decide, by decide, by decide⟩

/-- One second after `newYear`. -/
def newYearNext : Tm := { newYear with tmSec := 1, sec_le := by decide }

/-- The surroundings of a frame: `turningHead`, a clock that stands at `newYear`, an encoder that
    returns `encodeResult`. -/
def standingClock (encodeResult : Int) : FrameEnv :=
  ⟨turningHead, 0, fun _ => some newYear, encodeResult⟩

end SelfCamera
