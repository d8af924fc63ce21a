import SelfCamera.Lib.Run
import SelfCamera.Lib.Loop
import SelfCamera.Lib.Printf
import SelfCamera.Lib.Planar
import SelfCamera.Lib.Posix
import SelfCamera.Lib.Edje
import SelfCamera.Lib.Overlay
import SelfCamera.Camera
import SelfCamera.Frame
import SelfCamera.Imageutils
import SelfCamera.Landmark
import SelfCamera.ViewInfo
import SelfCamera.View
import SelfCamera.App
import SelfCamera.Handlers
import SelfCamera.Primitive
import SelfCamera.InStep
import SelfCamera.Writes
import SelfCamera.Selection
import SelfCamera.Pointer
import SelfCamera.PauseResume
import SelfCamera.Detection
import SelfCamera.Faces
import SelfCamera.Nose
import SelfCamera.Timer
import SelfCamera.Race
import SelfCamera.Loader
import SelfCamera.Failures
import SelfCamera.Capture
import SelfCamera.Photos
import SelfCamera.Thumbnail
import SelfCamera.Chroma
import SelfCamera.FilterInForce
import SelfCamera.Blit
import SelfCamera.BlitBounds
import SelfCamera.Overhang
import SelfCamera.Keying
import SelfCamera.Marks
import SelfCamera.Rotation
import SelfCamera.Exclusion
import SelfCamera.Alike
import SelfCamera.Recovery
import SelfCamera.Settings
import SelfCamera.Requests
import SelfCamera.Gallery
import SelfCamera.Refused
import SelfCamera.Layout
import SelfCamera.Screen
import SelfCamera.Display
import SelfCamera.Painting
import SelfCamera.Create
import SelfCamera.Life
