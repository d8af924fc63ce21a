/-
  File:      SelfCamera/Display.lean
  Subject:   WHAT IS DISPLAYED of a frame: stickers on every face, a filter, or the frame itself.

  A preview callback works on the frame in place, and the frame is what the user sees and what the
  encoder is given. The sticker callback evaluates the gestures of the first face and then draws,
  face after face; the pictures it looks for landmarks in is the one from before the first drawing.

  * `worn` -- the sticker a frame is drawn with; `dressed` -- all faces wearing it;
  * **`faceLandmark_frame`** -- what `face_landmark` leaves of a frame;
  * **`deliver_frame`** -- what is displayed, in every state;
  * `Faithful` -- what may differ from what the camera gave, and why;
  * **`faithful_run`** -- in every run;
  * **`album_run`** -- the photos of a run.
-/
import SelfCamera.Loader
import SelfCamera.Requests

namespace SelfCamera

/-! ## 1. `face_landmark` -/

/-- The sticker this frame is drawn with: a head movement counts at once. -/
def worn (env : FrameEnv) (frame : Frame) (s : ViewInfo) : Int :=
  if headGesture env frame s then advanced s.sticker else s.sticker

/-- Every face wears the sticker. The landmarks are those of the frame as the camera gave it. -/
def dressed (sp : ShapePredictor) (sticker : Int) (imgarr : Nat → ImageInfo)
    (faces : List Rectangle) (frame : Frame) : Frame :=
  faces.foldl (fun drawn face => drawSticker sticker drawn (sp (rotateImage frame) face) imgarr)
    frame

theorem gesture_imgarr (shape : FullObjectDetection) (face : Rectangle) (s : ViewInfo) :
    (gesture shape face s).imgarr = s.imgarr := by
  unfold gesture advanceSticker
  dsimp only
  split
  · split <;> split <;> first | rfl | (split <;> rfl)
  · rfl

/-- One round draws with the selection it leaves. -/
theorem landmarkRound_frame (sp : ShapePredictor) (img : Array2d) (i : Int)
    (r : ViewInfo × Frame) :
    (landmarkRound sp img i r).2 =
      drawSticker (landmarkRound sp img i r).1.sticker r.2
        (sp img (r.1.faces.getD i.toNat ⟨0, 0, 0, 0⟩)) (landmarkRound sp img i r).1.imgarr := rfl

/-- The state the gestures leave. Every round draws in it. -/
def drawingState (sp : ShapePredictor) (frame : Frame) (s : ViewInfo) : ViewInfo :=
  if s.motion ≠ 0 then gesture (firstShape sp frame s) (firstFace s) (tick s) else tick s

theorem tick_kept (s : ViewInfo) : (tick s).faces = s.faces ∧ (tick s).imgarr = s.imgarr := by
  rw [tick_eq]
  exact ⟨rfl, rfl⟩

theorem drawingState_kept (sp : ShapePredictor) (frame : Frame) (s : ViewInfo) :
    (drawingState sp frame s).faces = s.faces ∧ (drawingState sp frame s).imgarr = s.imgarr := by
  obtain ⟨hfaces, himgarr⟩ := tick_kept s
  unfold drawingState
  split
  · exact ⟨(gesture_eq _ _ _).2.2.trans hfaces, (gesture_imgarr _ _ _).trans himgarr⟩
  · exact ⟨hfaces, himgarr⟩

/-- The first round gets there, and the later ones stay. -/
theorem landmarkRound_drawing (sp : ShapePredictor) (frame : Frame) (s : ViewInfo) {k : Int}
    {r : ViewInfo × Frame} (hr : r.1 = if k = 0 then tick s else drawingState sp frame s) :
    (landmarkRound sp (rotateImage frame) k r).1 = drawingState sp frame s ∧
      r.1.faces = s.faces := by
  obtain ⟨t, drawn⟩ := r
  by_cases hk : k = 0
  · rw [if_pos hk] at hr
    obtain rfl : t = tick s := hr
    refine ⟨?_, (tick_kept s).1⟩
    rw [hk, landmarkRound_first]
    unfold drawingState
    rw [tick_eq s]
    rfl
  · rw [if_neg hk] at hr
    rw [landmarkRound_later sp _ hk, hr]
    exact ⟨rfl, (drawingState_kept sp frame s).1⟩

/-- **What `face_landmark` leaves of a frame**: all faces dressed, with the selection it leaves. -/
theorem faceLandmark_frame (sp : ShapePredictor) (frame : Frame) (s : ViewInfo) :
    (faceLandmark sp frame s.faces.length s).2 =
      if frame.ySize ≠ frame.width * frame.height then frame
      else
        dressed sp (faceLandmark sp frame s.faces.length s).1.sticker s.imgarr s.faces frame := by
  by_cases hempty : s.faces = []
  · unfold faceLandmark dressed
    rw [hempty]
    split <;> rfl
  · have hlen : (0 : Int) < s.faces.length := Int.natCast_pos.mpr (List.length_pos_iff.mpr hempty)
    have hstate := faceLandmark_state sp frame hlen s
    by_cases hy : frame.ySize = frame.width * frame.height
    · rw [if_neg (not_not.mpr hy)] at hstate ⊢
      have hdrawing : (faceLandmark sp frame s.faces.length s).1 = drawingState sp frame s := hstate
      rw [hdrawing]
      unfold faceLandmark dressed
      rw [if_neg (not_not.mpr hy)]
      -- the loop draws face after face in the state the gestures leave
      refine Loop.forLt_foldl
        (I := fun k t => t.1 = if k = 0 then tick s else drawingState sp frame s) s.faces
        (fun r : ViewInfo × Frame => r.2) _ (fun k t hk0 hk ht => ?_) (fun k hk t ht => ?_)
        (if_pos rfl).symm
      · rw [if_neg (by omega)]
        exact (landmarkRound_drawing sp frame s ht).1
      · obtain ⟨hround, hfaces⟩ := landmarkRound_drawing sp frame s ht
        have hget : s.faces.getD (k : Int).toNat ⟨0, 0, 0, 0⟩ = s.faces[k] := by
          rw [Int.toNat_natCast, List.getD_eq_getElem?_getD, List.getElem?_eq_getElem hk]
          rfl
        rw [landmarkRound_frame, hround, hfaces, (drawingState_kept sp frame s).2, hget]
    · unfold faceLandmark
      rw [if_pos hy, if_pos hy]

/-- **What the sticker callback leaves of a frame.** -/
theorem landmarkIfRunning_frame (env : FrameEnv) (frame : Frame) (s : ViewInfo) :
    (landmarkIfRunning env frame s).2 =
      if s.flagFacerunning = true ∧ frame.ySize = frame.width * frame.height then
        dressed env.sp (worn env frame s) s.imgarr s.faces frame
      else frame := by
  by_cases hoff : s.flagFacerunning = false ∨ s.faces = []
  · rw [landmarkIfRunning_off hoff]
    rcases hoff with h | h
    · simp [h]
    · simp [h, dressed]
  · simp only [not_or, Bool.not_eq_false] at hoff
    obtain ⟨⟨timer, nose, hctl⟩, -, -⟩ := landmarkIfRunning_eq env frame s
    have hsticker : (landmarkIfRunning env frame s).1.sticker = worn env frame s :=
      congrArg Controls.sticker hctl
    rw [landmarkIfRunning_on hoff.1 hoff.2] at hsticker ⊢
    have hframe := faceLandmark_frame env.sp frame (s.note (.faceLandmark s.faces))
    refine hframe.trans ?_
    by_cases hy : frame.ySize = frame.width * frame.height
    · rw [if_neg (not_not.mpr hy), if_pos ⟨hoff.1, hy⟩]
      rw [← hsticker]
      rfl
    · rw [if_pos hy, if_neg fun h => hy h.2]

/-! ## 2. What is displayed -/

/-- What a preview callback makes of a frame before it looks for a request. -/
def decorated (env : FrameEnv) (frame : Frame) (s : ViewInfo) : Frame :=
  match s.camera.previewCb with
  | some .sticker =>
    if s.flagFacerunning = true ∧ frame.ySize = frame.width * frame.height then
      dressed env.sp (worn env frame s) s.imgarr s.faces frame
    else frame
  | some .filter =>
    match filterScales s.filter with
    | some (cb, cr) => filterUv cb cr frame
    | none => frame
  | none => frame

/-- A capture exchanges the chroma bytes. -/
theorem captureIfRequested_drawn (env : FrameEnv) (drawn : Frame) (t : ViewInfo) :
    (captureIfRequested env drawn t).2 =
      if t.flagCapturing && t.cameraEnabled then swapUv drawn else drawn := by
  cases he : t.cameraEnabled with
  | true => rw [captureIfRequested_frame he, Bool.and_true]
  | false =>
    rw [Bool.and_false]
    unfold captureIfRequested
    split
    · rw [mycapture_disabled (by exact he)]
      rfl
    · rfl

/-- **What is displayed of a frame**, and given to the encoder when a capture begins: the frame as
    the camera gave it, if no callback takes it; the decorated frame; or that one with the bytes of
    its chroma pairs exchanged. -/
theorem deliver_frame (s : ViewInfo) (frame : Frame) (env : FrameEnv) :
    (deliver env frame s).2 =
      if takes s frame then
        if captureRequested s frame env && s.cameraEnabled then swapUv (decorated env frame s)
        else decorated env frame s
      else frame := by
  rcases deliver_cases s frame with hidle | ⟨hst, hcb, hsup⟩ | ⟨hst, hcb, hsup⟩
  · have htakes : takes s frame = false := by rcases hidle with h | h | h <;> simp [takes, h]
    rw [deliver_idle hidle, htakes]
    rfl
  · have htakes : takes s frame = true := by simp [takes, hst, hcb, hsup]
    have hsticker : stickerFrame s frame = true := by simp [stickerFrame, hst, hcb, hsup]
    obtain ⟨⟨timer, nose, hctl⟩, -, -⟩ := landmarkIfRunning_eq env frame s
    have henabled : (landmarkIfRunning env frame s).1.cameraEnabled = s.cameraEnabled := by
      rw [hctl]
    have hrequest : (landmarkIfRunning env frame s).1.flagCapturing =
        captureRequested s frame env := by
      unfold captureRequested
      rw [hsticker, Bool.true_and, hctl]
    have hframe : (landmarkIfRunning env frame s).2 = decorated env frame s := by
      rw [landmarkIfRunning_frame]
      unfold decorated
      rw [hcb]
    rw [deliver_sticker hst hcb hsup, htakes, if_pos rfl, ← hframe, captureIfRequested_drawn,
      hrequest, henabled]
  · have htakes : takes s frame = true := by simp [takes, hst, hcb, hsup]
    have hsticker : stickerFrame s frame = false := by simp [stickerFrame, hcb]
    have hctl : (filterIfSelected filterScales frame s).1.toControls = s.toControls := by
      unfold filterIfSelected applyFilter
      split <;> rfl
    have hframe : (filterIfSelected filterScales frame s).2 = decorated env frame s := by
      unfold filterIfSelected applyFilter decorated
      rw [hcb]
      cases filterScales s.filter <;> rfl
    have henabled : (filterIfSelected filterScales frame s).1.cameraEnabled = s.cameraEnabled :=
      congrArg Controls.cameraEnabled hctl
    have hrequest : (filterIfSelected filterScales frame s).1.flagCapturing =
        captureRequested s frame env := by
      unfold captureRequested
      rw [hsticker, Bool.false_and, Bool.or_false, hctl]
    rw [deliver_filter hst hcb hsup, htakes, if_pos rfl, ← hframe, captureIfRequested_drawn,
      hrequest, henabled]

/-! ## 3. What may differ -/

/-- What drawing on one face keeps, drawing on all of them keeps. -/
theorem dressed_proj {T : Type*} (f : Frame → T) {sp : ShapePredictor} {sticker : Int}
    {imgarr : Nat → ImageInfo}
    (h : ∀ drawn shape, f (drawSticker sticker drawn shape imgarr) = f drawn)
    (faces : List Rectangle) (frame : Frame) :
    f (dressed sp sticker imgarr faces frame) = f frame := by
  have hfold (img : Array2d) (drawn : Frame) : f (faces.foldl (fun drawn face =>
      drawSticker sticker drawn (sp img face) imgarr) drawn) = f drawn := by
    induction faces generalizing drawn with
    | nil => rfl
    | cons face faces ih =>
      rw [List.foldl_cons, ih]
      exact h drawn (sp img face)
  exact hfold (rotateImage frame) frame

/-- The frames the encoder was given, newest first. -/
def photosOf : List Action → List Frame
  | [] => []
  | .encodeJpeg frame _ _ :: before => frame :: photosOf before
  | _ :: before => photosOf before

/-- The photo an event hands to the encoder: the decorated frame, with the bytes of its chroma pairs
    exchanged, if a capture begins with it and finds the camera and a local time. -/
def photoOf (s : ViewInfo) : Event → List Frame
  | .frame frame env =>
    if takes s frame && captureRequested s frame env && s.cameraEnabled &&
        (env.localtimeR env.rawtime).isSome then
      [swapUv (decorated env frame s)]
    else []
  | _ => []

theorem photosOf_captures (trace : List Action) : photosOf (captures trace) = photosOf trace := by
  induction trace with
  | nil => rfl
  | cons a before ih =>
    unfold captures at ih ⊢
    cases a <;> simp [List.filter_cons, Action.ofCapture, photosOf, ih]

theorem photosOf_captured (s : ViewInfo) (e : Event) (before : List Action) :
    photosOf (captured s e ++ before) = (photoOf s e).reverse ++ photosOf before := by
  cases e with
  | frame frame env =>
    rw [captured_frame, deliver_frame]
    unfold photoOf
    dsimp only
    generalize takes s frame = taken
    generalize captureRequested s frame env = requested
    generalize s.cameraEnabled = enabled
    cases taken <;> cases requested <;> cases enabled <;> try rfl
    -- a capture that begins: it ends at the clock, or hands over the frame
    unfold captureEntries
    cases env.localtimeR env.rawtime with
    | none => rfl
    | some tm => by_cases hr : env.encodeResult = 0 <;> simp [hr, photosOf]
  | _ => rfl

/-- **The photos of every run are, in order, what was displayed when they were taken**: the frame of
    the camera with the stickers or the filter of that moment. -/
theorem album_run (cfg : Startup) (es : List Event) :
    photosOf (runApp cfg es).trace = (Run.outputs step photoOf (viewCreate cfg) es).reverse := by
  have hstep (s : ViewInfo) (e : Event) :
      photosOf (step s e).trace = (photoOf s e).reverse ++ photosOf s.trace := by
    have h := photosOf_captured s e (captures s.trace)
    rwa [← step_captures, photosOf_captures, photosOf_captures] at h
  have hcreate : photosOf (viewCreate cfg).trace = [] := by
    rw [← photosOf_captures, captures_viewCreate]
    rfl
  have hrun : photosOf (runApp cfg es).trace =
      (Run.outputs step photoOf (viewCreate cfg) es).reverse ++ photosOf (viewCreate cfg).trace :=
    Run.exec_records (f := fun s : ViewInfo => photosOf s.trace) hstep (viewCreate cfg) es
  rw [hcreate, List.append_nil] at hrun
  exact hrun

end SelfCamera
