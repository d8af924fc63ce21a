/-
  File:      SelfCamera/Painting.lean
  Subject:   MANY STICKERS IN ONE FRAME: what shows where pictures lie on each other?

  A sticker of several pictures is drawn on every face, each picture over what is there. What a
  picture writes depends on the sizes of the frame, never on the bytes it finds: it is a layer, and
  a dressed frame is the camera's with a stack of layers on it.

  * `Place`, `Frame.at` -- the bytes of a frame; `Picture`, `picturesOf` -- what is drawn of a
    sticker;
  * `Picture.layer`, `Picture.paints` -- the layer a picture lays, `layer_luma`, `layer_chroma` --
    and where it has a byte;
  * `dressed_at` -- all of them; **`topmost_shown`** -- the last picture drawn at a place shows;
  * **`uncovered_shown`** -- so what no later picture covers of a sticker is in the photo;
  * **`faces_anyOrder`** -- and faces whose pictures share no byte may be found in any order.
-/
import SelfCamera.Display
import SelfCamera.Keying
import SelfCamera.Marks
import SelfCamera.Lib.Overlay

namespace SelfCamera

open Overlay Planar

/-! ## 1. The bytes of a frame -/

/-- A byte of one of the two planes. -/
inductive Place where
  | luma (i : Int)
  | chroma (i : Int)
  deriving DecidableEq, Repr

def Frame.at (frame : Frame) : Place → UInt8
  | .luma i => frame.y i
  | .chroma i => frame.uv i

theorem frame_ext {frame frame' : Frame} (hheader : frame.header = frame'.header)
    (hat : frame.at = frame'.at) : frame = frame' := by
  have hy : frame.y = frame'.y := funext fun i => congrFun hat (.luma i)
  have huv : frame.uv = frame'.uv := funext fun i => congrFun hat (.chroma i)
  cases frame
  cases frame'
  simp only [Frame.header, FrameHeader.mk.injEq] at hheader
  simp only [Frame.mk.injEq]
  exact ⟨hheader.1, hheader.2.1, hheader.2.2.1, hheader.2.2.2.1, hy, huv, hheader.2.2.2.2.1,
    hheader.2.2.2.2.2⟩

theorem header_sizes {frame frame' : Frame} (h : frame'.header = frame.header) :
    frame'.width = frame.width ∧ frame'.height = frame.height ∧ frame'.ySize = frame.ySize ∧
      frame'.uvSize = frame.uvSize :=
  ⟨congrArg FrameHeader.width h, congrArg FrameHeader.height h, congrArg FrameHeader.ySize h,
    congrArg FrameHeader.uvSize h⟩

/-- A program that lays a layer over frames of these sizes. -/
abbrev Lays (frame : Frame) (f : Frame → Frame) (g : Layer Place UInt8) : Prop :=
  Paints Frame.at (fun t : Frame => t.header = frame.header) f g

/-! ## 2. The layer of a picture -/

/-- What `face_landmark` draws: a sticker picture at an anchor, or the marks on the landmarks. -/
inductive Picture where
  | cpy (keyed : Keyed) (number : Nat) (p q : Int)
  | landmarks (shape : FullObjectDetection)

def Picture.draw (imgarr : Nat → ImageInfo) (frame : Frame) : Picture → Frame
  | .cpy keyed number p q => imageUtilCpy keyed frame (imgarr number) p q
  | .landmarks shape => drawLandmark frame shape

/-- The pictures of a sticker on one face, in the order they are drawn. -/
def picturesOf (sticker height : Int) (shape : FullObjectDetection) : List Picture :=
  let row (k : Int) : Int := height - (shape.part k).x
  match sticker with
  | 2 => [.cpy yuvKeyed 15 shape.forehead (row 17), .cpy yuvKeyed 16 shape.forehead (row 26),
      .cpy yuvKeyed 9 (shape.part 33).y (row 33)]
  | 4 => [.cpy yuvKeyed 13 shape.forehead (row 0), .cpy yuvKeyed 14 shape.forehead (row 16),
      .cpy yuvKeyed 10 (shape.part 30).y (row 30)]
  | 6 => [.cpy santaKeyed 12 (shape.part 8).y (row 8), .cpy yuvKeyed 6 shape.forehead (row 27),
      .cpy yuvKeyed 11 (shape.part 27).y (row 27)]
  | 8 => [.landmarks shape]
  | _ => []

theorem drawSticker_pictures (sticker : Int) (frame : Frame) (shape : FullObjectDetection)
    (imgarr : Nat → ImageInfo) :
    drawSticker sticker frame shape imgarr =
      (picturesOf sticker frame.height shape).foldl (fun t pic => pic.draw imgarr t) frame := by
  unfold drawSticker
  split
  · rfl
  · rfl
  · rfl
  · rfl
  · rw [picturesOf]
    · rfl
    all_goals assumption

/-- The three assignments of one iteration, as a layer. -/
def PixelWrite.layer (w : PixelWrite) : Layer Place UInt8
  | .luma k => if k = w.pt then some w.y else none
  | .chroma k => if k = w.ptpt + 1 then some w.u else if k = w.ptpt then some w.v else none

theorem put_at (frame : Frame) (w : PixelWrite) : (frame.put w).at = lay w.layer frame.at := by
  have hset (b : Buffer) (i k : Int) (v : UInt8) : b.set i v k = if k = i then v else b k :=
    Function.update_apply ..
  funext a
  cases a with
  | luma k =>
    have hy : (frame.put w).at (.luma k) = if k = w.pt then w.y else frame.y k := hset ..
    rw [hy]
    unfold lay PixelWrite.layer
    dsimp only
    split <;> rfl
  | chroma k =>
    have huv : (frame.put w).at (.chroma k) =
        if k = w.ptpt + 1 then w.u else if k = w.ptpt then w.v else frame.uv k :=
      (hset ..).trans (congrArg _ (hset ..))
    rw [huv]
    unfold lay PixelWrite.layer
    dsimp only
    split
    · rfl
    · split <;> rfl

/-- What one iteration of the copy loops lays. -/
def pixelLayer (keyed : Keyed) (frame : Frame) (imginfo : ImageInfo) (p q i j : Int) :
    Layer Place UInt8 :=
  match copyPixel keyed frame imginfo p q i j with
  | none => clear
  | some w => w.layer

theorem copyStep_lays (keyed : Keyed) (frame : Frame) (imginfo : ImageInfo) (p q i j : Int) :
    Lays frame (copyStep keyed imginfo p q i j) (pixelLayer keyed frame imginfo p q i j) := by
  intro t ht
  refine ⟨(copyStep_header ..).trans ht, ?_⟩
  unfold copyStep pixelLayer
  rw [copyPixel_header ht]
  cases copyPixel keyed frame imginfo p q i j with
  | none => rfl
  | some w => exact put_at t w

/-- What the copy loops lay. -/
def cpyLayer (keyed : Keyed) (frame : Frame) (imginfo : ImageInfo) (p q : Int) :
    Layer Place UInt8 :=
  let p := placed p imginfo.width
  let q := placed q imginfo.height
  Loop.forLt imginfo.height (fun j l =>
    atop (Loop.forLt imginfo.width (fun i l =>
      atop (pixelLayer keyed frame imginfo p q i j) l) clear) l) clear

theorem imageUtilCpy_lays (keyed : Keyed) (frame : Frame) (imginfo : ImageInfo) (p q : Int) :
    Lays frame (fun t => imageUtilCpy keyed t imginfo p q)
      (cpyLayer keyed frame imginfo p q) := by
  unfold imageUtilCpy cpyLayer
  exact Paints.loop fun j _ _ => Paints.loop fun i _ _ =>
    copyStep_lays keyed frame imginfo _ _ i j

/-- What `draw_landmark` lays: black luma bytes. -/
def landmarkLayer (frame : Frame) (shape : FullObjectDetection) : Layer Place UInt8
  | .luma k => if k ∈ marks frame shape then some 0 else none
  | .chroma _ => none

theorem marks_header {frame frame' : Frame} (h : frame'.header = frame.header)
    (shape : FullObjectDetection) (e : Int) : e ∈ marks frame' shape ↔ e ∈ marks frame shape := by
  obtain ⟨hwidth, hheight, hySize, -⟩ := header_sizes h
  have hcell (i q p : Int) : blockCell frame' shape i q p = blockCell frame shape i q p := by
    unfold blockCell frameCoords
    rw [hwidth, hheight]
  rw [mem_marks_iff, mem_marks_iff, hySize]
  simp only [hcell]

/-- The landmarks are marked in the luma plane. -/
theorem drawLandmark_uv (frame : Frame) (shape : FullObjectDetection) :
    (drawLandmark frame shape).uv = frame.uv := by
  have hmark (theEnd : Int) (t : Frame) : (markAt theEnd t).uv = t.uv := by
    unfold markAt
    split <;> rfl
  unfold drawLandmark
  refine Loop.forLt_proj Frame.uv (fun i t _ _ => ?_) frame
  refine Loop.forLt_proj Frame.uv (fun q t _ _ => ?_) t
  exact Loop.forLt_proj Frame.uv (fun p t _ _ => hmark _ t) t

theorem drawLandmark_lays (frame : Frame) (shape : FullObjectDetection) :
    Lays frame (fun t => drawLandmark t shape) (landmarkLayer frame shape) := by
  intro t ht
  refine ⟨(drawLandmark_header t shape).trans ht, ?_⟩
  funext a
  cases a with
  | luma k =>
    refine (drawLandmark_y t shape k).trans ?_
    simp only [marks_header ht]
    unfold lay landmarkLayer
    dsimp only
    split <;> rfl
  | chroma k => exact congrFun (drawLandmark_uv t shape) k

theorem landmarkLayer_apart {frame : Frame} {shape shape' : FullObjectDetection}
    (h : ∀ k ∈ marks frame shape, k ∉ marks frame shape') :
    Apart (landmarkLayer frame shape) (landmarkLayer frame shape') := by
  intro a
  cases a with
  | luma k =>
    unfold landmarkLayer
    dsimp only
    by_cases hk : k ∈ marks frame shape
    · exact Or.inr (if_neg (h k hk))
    · exact Or.inl (if_neg hk)
  | chroma k => exact Or.inl rfl

/-- What a picture lays over a frame of the sizes of `frame`. -/
def Picture.layer (imgarr : Nat → ImageInfo) (frame : Frame) : Picture → Layer Place UInt8
  | .cpy keyed number p q => cpyLayer keyed frame (imgarr number) p q
  | .landmarks shape => landmarkLayer frame shape

/-- **A picture is a layer**, whatever bytes it finds. -/
theorem Picture.paints (imgarr : Nat → ImageInfo) (frame : Frame) (pic : Picture) :
    Lays frame (fun t => pic.draw imgarr t) (pic.layer imgarr frame) := by
  cases pic with
  | cpy keyed number p q => exact imageUtilCpy_lays keyed frame (imgarr number) p q
  | landmarks shape => exact drawLandmark_lays frame shape

/-! ## 3. Every face -/

/-- The pictures of a frame, in the order they are drawn: face after face. -/
def picturesOn (sp : ShapePredictor) (sticker : Int) (faces : List Rectangle) (frame : Frame) :
    List Picture :=
  faces.flatMap fun face => picturesOf sticker frame.height (sp (rotateImage frame) face)

/-- Pictures drawn one after another lay the stack of their layers. -/
theorem pictures_lay (imgarr : Nat → ImageInfo) (frame : Frame) (pics : List Picture) :
    Lays frame (fun t => pics.foldl (fun t pic => pic.draw imgarr t) t)
      (stack (pics.map (Picture.layer imgarr frame))) :=
  Paints.fold pics fun pic _ => pic.paints imgarr frame

section Faces

variable (sp : ShapePredictor) (sticker : Int) (imgarr : Nat → ImageInfo)
  (faces : List Rectangle) (frame : Frame)

/-- The faces are dressed picture after picture. -/
theorem dressed_pictures :
    dressed sp sticker imgarr faces frame =
      (picturesOn sp sticker faces frame).foldl (fun t pic => pic.draw imgarr t) frame := by
  have hfold (t : Frame) (ht : t.header = frame.header) :
      faces.foldl (fun t face => drawSticker sticker t (sp (rotateImage frame) face) imgarr) t =
        (picturesOn sp sticker faces frame).foldl (fun t pic => pic.draw imgarr t) t := by
    induction faces generalizing t with
    | nil => rfl
    | cons face faces ih =>
      obtain ⟨-, hheight, -⟩ := header_sizes ht
      unfold picturesOn at ih ⊢
      rw [List.foldl_cons, List.flatMap_cons, List.foldl_append, drawSticker_pictures, hheight]
      exact ih _ (pictures_lay imgarr frame _ t ht).1
  exact hfold frame rfl

theorem dressed_at :
    (dressed sp sticker imgarr faces frame).at =
      lay (stack ((picturesOn sp sticker faces frame).map (Picture.layer imgarr frame)))
        frame.at := by
  rw [dressed_pictures]
  exact (pictures_lay imgarr frame _ frame rfl).2

/-- The layer of all pictures of one face. -/
def faceLayer (face : Rectangle) : Layer Place UInt8 :=
  stack ((picturesOf sticker frame.height (sp (rotateImage frame) face)).map
    (Picture.layer imgarr frame))

/-- The faces lie on each other as their pictures do. -/
theorem stack_faces :
    stack ((picturesOn sp sticker faces frame).map (Picture.layer imgarr frame)) =
      stack (faces.map (faceLayer sp sticker imgarr frame)) := by
  induction faces with
  | nil => rfl
  | cons face faces ih =>
    unfold picturesOn at ih ⊢
    rw [List.flatMap_cons, List.map_append, stack_append, ih]
    rfl

end Faces

/-- **At every byte of both planes the last picture drawn there shows, of whichever face, and the
    camera's byte where none is drawn.** -/
theorem topmost_shown (sp : ShapePredictor) {frame : Frame}
    (hsize : frame.ySize = frame.width * frame.height) (s : ViewInfo) (a : Place) :
    let drawn := faceLandmark sp frame s.faces.length s
    let pictures := picturesOn sp drawn.1.sticker s.faces frame
    (drawn.2.at a = frame.at a ∧ ∀ pic ∈ pictures, pic.layer s.imgarr frame a = none) ∨
      ∃ below pic above, pictures = below ++ pic :: above ∧
        pic.layer s.imgarr frame a = some (drawn.2.at a) ∧
        ∀ later ∈ above, later.layer s.imgarr frame a = none := by
  intro drawn pictures
  have hdrawn : drawn.2.at = lay (stack (pictures.map (Picture.layer s.imgarr frame)))
      frame.at := by
    have hframe := faceLandmark_frame sp frame s
    rw [if_neg (not_not.mpr hsize)] at hframe
    exact (congrArg Frame.at hframe).trans (dressed_at ..)
  cases hstack : stack (pictures.map (Picture.layer s.imgarr frame)) a with
  | none =>
    refine Or.inl ⟨(congrFun hdrawn a).trans (lay_none hstack _), fun pic hpic => ?_⟩
    exact (stack_eq_none_iff _ a).mp hstack _ (List.mem_map_of_mem hpic)
  | some v =>
    have hv : drawn.2.at a = v := (congrFun hdrawn a).trans (lay_some hstack _)
    obtain ⟨below, g, above, hsplit, hg, habove⟩ := (stack_eq_some_iff _ a v).mp hstack
    -- the layers are those of pictures
    obtain ⟨below', rest, hpics, rfl, hrest⟩ := List.map_eq_append_iff.mp hsplit
    obtain ⟨pic, above', rfl, rfl, rfl⟩ := List.map_eq_cons_iff.mp hrest
    refine Or.inr ⟨below', pic, above', hpics, hv.symm ▸ hg, fun later hlater => ?_⟩
    exact habove _ (List.mem_map_of_mem hlater)

/-- A predictor that puts every landmark at the corner of the face. -/
def cornerPredictor : ShapePredictor := fun _ face =>
  ⟨List.replicate 68 ⟨face.left, face.top⟩⟩

/-- A face that wears a cat: one ear of 4 by 4, no other ear, and a white nose of 2 by 2 on it. -/
def catFace : ViewInfo :=
  { viewCreate workingStartup with
    sticker := 2
    faces := [⟨2, 2, 3, 3⟩]
    imgarr := fun k =>
      if k = 15 then greySticker 4 4 else if k = 9 then plainSticker 200 60
      else ⟨fun _ => 0, 0, 0, 0⟩ }

/-- The nose is on the ear. -/
theorem topmost_shown_nose :
    let drawn := faceLandmark cornerPredictor (evenFrame 0 128) catFace.faces.length catFace
    let pictures := picturesOn cornerPredictor drawn.1.sticker catFace.faces (evenFrame 0 128)
    (drawn.2.at (.luma 10) = (evenFrame 0 128).at (.luma 10) ∧
        ∀ pic ∈ pictures, pic.layer catFace.imgarr (evenFrame 0 128) (.luma 10) = none) ∨
      ∃ below pic above, pictures = below ++ pic :: above ∧
        pic.layer catFace.imgarr (evenFrame 0 128) (.luma 10) = some (drawn.2.at (.luma 10)) ∧
        ∀ later ∈ above, later.layer catFace.imgarr (evenFrame 0 128) (.luma 10) = none :=
  topmost_shown cornerPredictor (by decide) catFace (.luma 10)

/-! ## 4. What shows of a picture -/

/-- With motion off no gesture selects another sticker. -/
theorem faceLandmark_still (sp : ShapePredictor) (frame : Frame) {s : ViewInfo}
    (hmotion : s.motion = 0) :
    (faceLandmark sp frame s.faces.length s).1.sticker = s.sticker := by
  have htick : (tick s).sticker = s.sticker := by rw [tick_eq]
  by_cases hempty : s.faces = []
  · unfold faceLandmark
    rw [hempty]
    split
    · rfl
    · exact htick
  · have hcount : (0 : Int) < s.faces.length :=
      Int.natCast_pos.mpr (List.length_pos_iff.mpr hempty)
    rw [faceLandmark_state sp frame hcount]
    split
    · rfl
    · rw [if_neg (not_not.mpr hmotion)]
      exact htick

/-- None of these pictures writes a byte the sticker pixel `(i, j)` is seen in. -/
def Uncovered (imgarr : Nat → ImageInfo) (frame : Frame) (imginfo : ImageInfo) (p q i j : Int)
    (pics : List Picture) : Prop :=
  let pair := chroma frame.width (placed p imginfo.width + i) (placed q imginfo.height + j)
  ∀ pic ∈ pics, pic.layer imgarr frame (.luma (target frame imginfo p q i j)) = none ∧
    pic.layer imgarr frame (.chroma pair) = none ∧
    pic.layer imgarr frame (.chroma (pair + 1)) = none

section Header

variable {frame frame' : Frame} {imginfo : ImageInfo} (h : frame'.header = frame.header)

include h

theorem fits_header (hfits : Fits frame imginfo) : Fits frame' imginfo := by
  obtain ⟨hwidth, hheight, hySize, huvSize⟩ := header_sizes h
  refine ⟨?_, ?_, ?_, ?_, hfits.stickerWidth_even, hfits.stickerHeight_even, ?_, hfits.size_eq⟩
  · exact hwidth ▸ hfits.width_even
  · exact hheight ▸ hfits.height_even
  · rw [hySize, hwidth, hheight, hfits.ySize_eq]
  · rw [huvSize, hwidth, hheight, hfits.uvSize_eq]
  · exact hwidth ▸ hfits.width_le

theorem lands_header {p q i j : Int} (hlands : Lands frame imginfo p q i j) :
    Lands frame' imginfo p q i j := by
  obtain ⟨hwidth, hheight, -⟩ := header_sizes h
  refine ⟨hlands.column, hlands.row, ?_, ?_⟩
  · exact hwidth ▸ hlands.x
  · exact hheight ▸ hlands.y

end Header

/-- What is seen of a pixel, three bytes tell. -/
theorem shows_congr {frame frame' : Frame} {imginfo : ImageInfo} {x y i j : Int}
    (hheader : frame'.header = frame.header) (heven : frame.uvSize % 2 = 0)
    (hw : frame.width % 2 = 0) (hroom : 0 ≤ chroma frame.width x y ∧
      chroma frame.width x y + 1 < frame.uvSize)
    (hluma : frame'.y (rowMajor frame.width x y) = frame.y (rowMajor frame.width x y))
    (hchroma : frame'.uv (chroma frame.width x y) = frame.uv (chroma frame.width x y) ∧
      frame'.uv (chroma frame.width x y + 1) = frame.uv (chroma frame.width x y + 1))
    (h : Shows frame imginfo x y i j) : Shows frame' imginfo x y i j := by
  obtain ⟨hwidth, -, -, huvSize⟩ := header_sizes hheader
  have hpair : pairOf (chroma frame.width x y) = chroma frame.width x y + 1 :=
    if_pos (chroma_even hw x y)
  have hpair' : pairOf (chroma frame.width x y + 1) = chroma frame.width x y := by
    rw [← hpair, pairOf_pairOf]
  unfold Shows at h ⊢
  dsimp only at h ⊢
  rw [swapUv_uv heven hroom.1 (by omega), swapUv_uv heven (by omega) hroom.2, hpair, hpair'] at h
  rw [hwidth, swapUv_uv (by omega) hroom.1 (by omega), swapUv_uv (by omega) (by omega) (by omega),
    hpair, hpair', hluma, hchroma.1, hchroma.2]
  exact h

/-- Pictures that do not cover a pixel leave what is seen of it. -/
theorem shows_kept {imgarr : Nat → ImageInfo} {frame t : Frame} {imginfo : ImageInfo}
    {p q i j : Int} (ht : t.header = frame.header) (hfits : Fits frame imginfo)
    (hlands : Lands frame imginfo p q i j) {above : List Picture}
    (huncovered : Uncovered imgarr frame imginfo p q i j above)
    (h : Shows t imginfo (placed p imginfo.width + i) (placed q imginfo.height + j) i j) :
    Shows (above.foldl (fun t pic => pic.draw imgarr t) t) imginfo (placed p imginfo.width + i)
      (placed q imginfo.height + j) i j := by
  obtain ⟨habove, hat⟩ := pictures_lay imgarr frame above t ht
  have hkept {a : Place} (ha : ∀ pic ∈ above, pic.layer imgarr frame a = none) :
      (above.foldl (fun t pic => pic.draw imgarr t) t).at a = t.at a := by
    refine (congrFun hat a).trans (lay_none ((stack_eq_none_iff _ a).mpr fun g hg => ?_) _)
    obtain ⟨pic, hpic, rfl⟩ := List.mem_map.mp hg
    exact ha pic hpic
  have hfits' := fits_header ht hfits
  have hlands' := lands_header ht hlands
  obtain ⟨hwidth, -⟩ := header_sizes ht
  unfold Uncovered target at huncovered
  rw [← hwidth] at huncovered
  have hroom := chroma_lt hfits'.width_even hfits'.height_even hlands'.x.1 hlands'.x.2
    hlands'.y.1 hlands'.y.2
  rw [← hfits'.uvSize_eq] at hroom
  refine shows_congr (habove.trans ht.symm) ?_ hfits'.width_even hroom
    (hkept fun pic hpic => (huncovered pic hpic).1)
    ⟨hkept fun pic hpic => (huncovered pic hpic).2.1,
      hkept fun pic hpic => (huncovered pic hpic).2.2⟩ h
  rw [hfits'.uvSize_eq]
  exact chroma_size_even hfits'.width_even hfits'.height_even

/-- **Of a sticker on any face, every pixel that lands in the frame, passes the test of its blitter
    and is not covered by a picture drawn later is in the photo, in its colour.** -/
theorem uncovered_shown {sp : ShapePredictor} {frame : Frame} {s : ViewInfo}
    {below above : List Picture} {keyed : Keyed} {number : Nat} {p q i j : Int}
    (hpics : picturesOn sp (faceLandmark sp frame s.faces.length s).1.sticker s.faces frame =
      below ++ .cpy keyed number p q :: above)
    (hfits : Fits frame (s.imgarr number)) (hlands : Lands frame (s.imgarr number) p q i j)
    (htest : keyed (lumaOf (s.imgarr number) i j) (chromaOf (s.imgarr number) i j).1
      (chromaOf (s.imgarr number) i j).2 = false)
    (huncovered : Uncovered s.imgarr frame (s.imgarr number) p q i j above) :
    Shows (faceLandmark sp frame s.faces.length s).2 (s.imgarr number)
      (placed p (s.imgarr number).width + i) (placed q (s.imgarr number).height + j) i j := by
  have hframe := faceLandmark_frame sp frame s
  rw [if_neg (not_not.mpr hfits.ySize_eq), dressed_pictures, hpics, List.foldl_append,
    List.foldl_cons] at hframe
  obtain ⟨hbelow, -⟩ := pictures_lay s.imgarr frame below frame rfl
  dsimp only at hbelow
  -- the pixel is drawn on what the pictures below have left
  have hfits' := fits_header hbelow hfits
  have hlands' := lands_header hbelow hlands
  have hdrawn := shows_of_drawn hfits' keyed hlands' ((drawn_iff hfits' keyed hlands').mpr htest)
  rw [hframe]
  exact shows_kept ((imageUtilCpy_header ..).trans hbelow) hfits hlands huncovered hdrawn

/-- The ear shows beside the nose. -/
theorem uncovered_shown_ear :
    Shows (faceLandmark cornerPredictor (evenFrame 0 128) catFace.faces.length catFace).2
      (greySticker 4 4) 0 0 0 0 := by
  refine @uncovered_shown cornerPredictor (evenFrame 0 128) catFace []
    [.cpy yuvKeyed 16 2 2, .cpy yuvKeyed 9 2 2] yuvKeyed 15 2 2 0 0 ?_
    ⟨by decide, by decide, by decide, by decide, by decide, by decide, by decide, by decide⟩
    ⟨by decide, by decide, by decide, by decide⟩ (by decide) fun pic hpic => ?_
  · rw [faceLandmark_still cornerPredictor _ (s := catFace) rfl]
    rfl
  rcases List.mem_cons.mp hpic with rfl | hpic
  · exact ⟨rfl, rfl, rfl⟩
  · obtain rfl := List.mem_singleton.mp hpic
    refine ⟨?_, ?_, ?_⟩ <;> decide +kernel

/-! ## 5. The order of the faces -/

/-- No picture of one of the two faces shares a byte with one of the other. -/
def FacesApart (sp : ShapePredictor) (frame : Frame) (s : ViewInfo) (face face' : Rectangle) :
    Prop :=
  let pictures (face : Rectangle) : List Picture :=
    picturesOf s.sticker frame.height (sp (rotateImage frame) face)
  ∀ pic ∈ pictures face, ∀ pic' ∈ pictures face',
    Apart (pic.layer s.imgarr frame) (pic'.layer s.imgarr frame)

/-- **Faces whose pictures share no byte may be found in any order**: with motion off the frame is
    the same. -/
theorem faces_anyOrder (sp : ShapePredictor) (frame : Frame) {s : ViewInfo}
    {faces : List Rectangle} (hmotion : s.motion = 0) (hperm : s.faces.Perm faces)
    (hapart : s.faces.Pairwise (FacesApart sp frame s)) :
    (faceLandmark sp frame faces.length { s with faces := faces }).2 =
      (faceLandmark sp frame s.faces.length s).2 := by
  have hsame := faceLandmark_frame sp frame { s with faces := faces }
  have hstill : (faceLandmark sp frame faces.length { s with faces := faces }).1.sticker =
      s.sticker := faceLandmark_still sp frame hmotion
  rw [hstill] at hsame
  refine hsame.trans ?_
  rw [faceLandmark_frame, faceLandmark_still sp frame hmotion]
  split
  · rfl
  · have hheader (faces : List Rectangle) :
        (dressed sp s.sticker s.imgarr faces frame).header = frame.header :=
      dressed_proj Frame.header (fun t shape => drawSticker_header ..) faces frame
    refine frame_ext ((hheader _).trans (hheader _).symm) ?_
    rw [dressed_at, dressed_at, stack_faces, stack_faces]
    refine congrArg (lay · frame.at) (Eq.symm (stack_perm (hperm.map _) ?_))
    refine List.pairwise_map.mpr (hapart.imp fun hfaces => Apart.stack fun g hg h hh => ?_)
    obtain ⟨pic, hpic, rfl⟩ := List.mem_map.mp hg
    obtain ⟨pic', hpic', rfl⟩ := List.mem_map.mp hh
    exact hfaces pic hpic pic' hpic'

/-- A frame of 8 by 8. -/
def smallFrame : Frame := ⟨.nv12, 2, 8, 8, fun _ => 200, fun _ => 128, 64, 32⟩

/-- A predictor of one landmark, the corner of the face. -/
def oneLandmark : ShapePredictor := fun _ face => ⟨[⟨face.left, face.top⟩]⟩

/-- Two faces whose landmarks are marked, in opposite quarters of the frame. -/
def markedFaces : ViewInfo :=
  { viewCreate workingStartup with
    sticker := 8
    faces := [⟨6, 2, 7, 3⟩, ⟨2, 6, 3, 7⟩] }

/-- The second face may be found first. -/
theorem faces_anyOrder_marks :
    (faceLandmark oneLandmark smallFrame 2
        { markedFaces with faces := [⟨2, 6, 3, 7⟩, ⟨6, 2, 7, 3⟩] }).2 =
      (faceLandmark oneLandmark smallFrame 2 markedFaces).2 := by
  refine @faces_anyOrder oneLandmark smallFrame markedFaces [⟨2, 6, 3, 7⟩, ⟨6, 2, 7, 3⟩] rfl
    (List.Perm.swap ..)
    (List.pairwise_pair.mpr fun pic hpic pic' hpic' a => ?_)
  obtain rfl := List.mem_singleton.mp hpic
  obtain rfl := List.mem_singleton.mp hpic'
  have hmarks : ∀ k ∈ marks smallFrame (oneLandmark (rotateImage smallFrame) ⟨6, 2, 7, 3⟩),
      k ∉ marks smallFrame (oneLandmark (rotateImage smallFrame) ⟨2, 6, 3, 7⟩) := by
    decide +kernel
  exact landmarkLayer_apart hmarks a

end SelfCamera
