/-
  File:      SelfCamera/Landmark.lean
  Subject:   THE DRAWING FUNCTIONS of landmark.cpp.

  The predictor works on the frame turned by a quarter, so a landmark's second coordinate is the
  frame's column and its first one counts the frame's rows from the bottom.
-/
import SelfCamera.Imageutils

namespace SelfCamera

/-- `((shape.part(21) + shape.part(22)) - shape.part(57))(1)`: above the forehead. -/
def FullObjectDetection.forehead (shape : FullObjectDetection) : Int :=
  (shape.part 21).y + (shape.part 22).y - (shape.part 57).y

/-- `draw_santa`: beard, hat, glasses. -/
def drawSanta (frame : Frame) (shape : FullObjectDetection) (imgarr : Nat → ImageInfo) : Frame :=
  let hx := frame.height - (shape.part 27).x
  let hy := shape.forehead
  let jx := frame.height - (shape.part 8).x
  let jy := (shape.part 8).y
  let noseX := frame.height - (shape.part 27).x
  let noseY := (shape.part 27).y
  let frame := imageUtilSantacpy frame (imgarr 12) jy jx
  let frame := imageUtilYuvcpy frame (imgarr 6) hy hx
  imageUtilYuvcpy frame (imgarr 11) noseY noseX

/-- `draw_nyan`: the ears of a cat and a nose. -/
def drawNyan (frame : Frame) (shape : FullObjectDetection) (imgarr : Nat → ImageInfo) : Frame :=
  let h := shape.forehead
  let foreL := frame.height - (shape.part 17).x
  let foreR := frame.height - (shape.part 26).x
  let noseX := frame.height - (shape.part 33).x
  let noseY := (shape.part 33).y
  let frame := imageUtilYuvcpy frame (imgarr 15) h foreL
  let frame := imageUtilYuvcpy frame (imgarr 16) h foreR
  imageUtilYuvcpy frame (imgarr 9) noseY noseX

/-- `draw_rudolph`: antlers and a nose. -/
def drawRudolph (frame : Frame) (shape : FullObjectDetection) (imgarr : Nat → ImageInfo) :
    Frame :=
  let h := shape.forehead
  let foreL := frame.height - (shape.part 0).x
  let foreR := frame.height - (shape.part 16).x
  let noseX := frame.height - (shape.part 30).x
  let noseY := (shape.part 30).y
  let frame := imageUtilYuvcpy frame (imgarr 13) h foreL
  let frame := imageUtilYuvcpy frame (imgarr 14) h foreR
  imageUtilYuvcpy frame (imgarr 10) noseY noseX

/-- The guard and the write of `draw_landmark` for one of the sixteen indices of a block. -/
def markAt (theEnd : Int) (frame : Frame) : Frame :=
  if theEnd > frame.ySize ∨ theEnd < 0 then frame
  else { frame with y := frame.y.set theEnd 0 }

/-- `draw_landmark`: a black block of 4 by 4 on every landmark. -/
def drawLandmark (frame : Frame) (shape : FullObjectDetection) : Frame :=
  Loop.forLt shape.numParts (fun i frame =>
    let x := (shape.part i).y
    let y := frame.height - (shape.part i).x
    let begin := (x - 2) + (y - 2) * frame.width
    Loop.forLt 4 (fun q frame =>
      Loop.forLt 4 (fun p frame =>
        markAt (begin + p + q * frame.width) frame) frame) frame) frame

/-! No drawing function changes anything of a frame but its buffers. -/

@[simp] theorem drawSanta_header (frame : Frame) (shape : FullObjectDetection)
    (imgarr : Nat → ImageInfo) : (drawSanta frame shape imgarr).header = frame.header := by
  simp [drawSanta]

@[simp] theorem drawNyan_header (frame : Frame) (shape : FullObjectDetection)
    (imgarr : Nat → ImageInfo) : (drawNyan frame shape imgarr).header = frame.header := by
  simp [drawNyan]

@[simp] theorem drawRudolph_header (frame : Frame) (shape : FullObjectDetection)
    (imgarr : Nat → ImageInfo) : (drawRudolph frame shape imgarr).header = frame.header := by
  simp [drawRudolph]

@[simp] theorem markAt_header (theEnd : Int) (frame : Frame) :
    (markAt theEnd frame).header = frame.header := by
  unfold markAt
  split <;> rfl

@[simp] theorem drawLandmark_header (frame : Frame) (shape : FullObjectDetection) :
    (drawLandmark frame shape).header = frame.header := by
  unfold drawLandmark
  refine Loop.forLt_proj Frame.header (fun i fr _ _ => ?_) frame
  refine Loop.forLt_proj Frame.header (fun q fr _ _ => ?_) fr
  exact Loop.forLt_proj Frame.header (fun p fr _ _ => markAt_header _ fr) fr

end SelfCamera
