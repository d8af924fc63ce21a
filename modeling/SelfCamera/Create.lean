/-
  File:      SelfCamera/Create.lean
  Subject:   WHAT START-UP FINDS: the folder for the photos, and the pictures of the stickers.

  `_list_media_folders` asks the media database for its folders until one has the right name, and
  `_image_util_read_stickers` decodes the pictures one after another. Either may fail at any call,
  and the application goes on with what it has.

  * `folderCb`, `listMediaFolders` -- with a record of the calls;
  * `DbUse.call`, **`listing_wellUsed`** -- the record keeps the rules of the database;
  * `IsPhotoFolder`, `listMediaFolders_folder`, **`photos_inFolder`** -- where the photos of every
    run go, if start-up gets to one;
  * `imageUtilReadJpeg`, `imageUtilReadStickers` -- the pictures; **`undecoded_untouched`** -- what
    was not decoded is never read.
-/
import SelfCamera.Gallery
import SelfCamera.Painting
import SelfCamera.Lib.Posix

namespace SelfCamera

open Posix

/-! ## 1. The media folders -/

/-- `CAMERA_DIRECTORY_NAME` -/
def cameraDirectoryName : List Char := ['I', 'm', 'a', 'g', 'e', 's']

/-- What the database answers about a folder: `none` is an error. -/
structure MediaFolder where
  name : Option (List Char)
  path : Option (List Char)

/-- What the calls for the database answer. -/
structure MediaContent where
  connect : Bool
  folders : List MediaFolder
  /-- the return value of `media_folder_foreach_folder_from_db`, after its callbacks -/
  listed : Bool
  disconnect : Bool

/-- One call; a name is told by the place of its folder. -/
inductive MediaCall where
  | connect (ok : Bool)
  | getName (folder : Nat) (ok : Bool)
  | getPath (folder : Nat) (ok : Bool)
  /-- `free(name)` -/
  | freeName (folder : Nat)
  | disconnect (ok : Bool)
  deriving DecidableEq

/-- `s_info.media_content_folder`, and the calls so far. -/
structure Listing where
  mediaContentFolder : Option (List Char)
  calls : List MediaCall

def Listing.note (l : Listing) (c : MediaCall) : Listing := { l with calls := l.calls ++ [c] }

/-- `_folder_cb`; it returns whether to go on. -/
def folderCb (k : Nat) (folder : MediaFolder) (l : Listing) : Listing × Bool :=
  match folder.name with
  | none => (l.note (.getName k false), false)
  | some name =>
    let l := l.note (.getName k true)
    let len := cameraDirectoryName.length
    if strncmp cameraDirectoryName name len ≠ 0 ∨ len ≠ name.length then
      (l.note (.freeName k), true)
    else
      match folder.path with
      | none => ((l.note (.getPath k false)).note (.freeName k), false)
      | some path =>
        let l := { l.note (.getPath k true) with mediaContentFolder := some path }
        (l.note (.freeName k), false)

/-- `media_folder_foreach_folder_from_db`: the callback for folder after folder, as long as it
    returns true. -/
def foreachFolder : Nat → List MediaFolder → Listing → Listing
  | _, [], l => l
  | k, folder :: folders, l =>
    let (l, next) := folderCb k folder l
    if next then foreachFolder (k + 1) folders l else l

/-- `_list_media_folders` -/
def listMediaFolders (content : MediaContent) : Listing × Bool :=
  let l : Listing := ⟨none, [.connect content.connect]⟩
  if content.connect = false then (l, false)
  else
    let l := foreachFolder 0 content.folders l
    if content.listed = false then (l, false)
    else (l.note (.disconnect content.disconnect), content.disconnect)

/-! ## 2. The rules of the database -/

/-- Is there a connection, and which name is allocated? -/
structure DbUse where
  connected : Bool
  held : Option Nat
  deriving DecidableEq

/-- **The rules**: nothing is asked without a connection, at most one name is allocated, it is freed
    before the next one is asked for, and only it, and no name outlives the connection. -/
def DbUse.call (u : DbUse) : MediaCall → Option DbUse
  | .connect ok => if u.connected then none else some { u with connected := ok }
  | .getName k ok =>
    if u.connected ∧ u.held = none then some { u with held := if ok then some k else none }
    else none
  | .getPath k _ => if u.connected ∧ u.held = some k then some u else none
  | .freeName k => if u.held = some k then some { u with held := none } else none
  | .disconnect ok =>
    if u.connected ∧ u.held = none then some { u with connected := !ok } else none

/-- These calls keep the rules and leave the database so. -/
def Uses (calls : List MediaCall) (u u' : DbUse) : Prop := calls.foldlM DbUse.call u = some u'

theorem Uses.note {calls : List MediaCall} {u u' u'' : DbUse} (h : Uses calls u u')
    {c : MediaCall} (hc : u'.call c = some u'') : Uses (calls ++ [c]) u u'' := by
  unfold Uses at h ⊢
  rw [List.foldlM_append, h]
  simpa using hc

/-- The callback leaves no name behind. -/
theorem folderCb_uses {u : DbUse} (k : Nat) (folder : MediaFolder) {l : Listing}
    (h : Uses l.calls u ⟨true, none⟩) : Uses (folderCb k folder l).1.calls u ⟨true, none⟩ := by
  unfold folderCb
  split
  · exact h.note rfl
  · have hheld : Uses (l.note (.getName k true)).calls u ⟨true, some k⟩ := h.note rfl
    have hpath (ok : Bool) : DbUse.call ⟨true, some k⟩ (.getPath k ok) = some ⟨true, some k⟩ :=
      if_pos ⟨rfl, rfl⟩
    have hfree : DbUse.call ⟨true, some k⟩ (.freeName k) = some ⟨true, none⟩ := if_pos rfl
    dsimp only
    split
    · exact hheld.note hfree
    · split
      · exact (hheld.note (hpath false)).note hfree
      · exact (hheld.note (hpath true)).note hfree

theorem foreachFolder_uses {u : DbUse} (folders : List MediaFolder) (k : Nat) {l : Listing}
    (h : Uses l.calls u ⟨true, none⟩) :
    Uses (foreachFolder k folders l).calls u ⟨true, none⟩ := by
  induction folders generalizing k l with
  | nil => exact h
  | cons folder folders ih =>
    unfold foreachFolder
    dsimp only
    split
    · exact ih (k + 1) (folderCb_uses k folder h)
    · exact folderCb_uses k folder h

/-- **However the database answers, start-up keeps its rules** and frees every name it is given,
    once; the connection is left open when the listing fails, or its end. -/
theorem listing_wellUsed (content : MediaContent) :
    Uses (listMediaFolders content).1.calls ⟨false, none⟩
      ⟨content.connect && !(content.listed && content.disconnect), none⟩ := by
  have hconnect : Uses [.connect content.connect] ⟨false, none⟩ ⟨content.connect, none⟩ := rfl
  unfold listMediaFolders
  dsimp only
  cases hc : content.connect with
  | false =>
    rw [hc] at hconnect
    exact hconnect
  | true =>
    rw [hc] at hconnect
    have hlisted := foreachFolder_uses content.folders 0
      (l := ⟨none, [.connect true]⟩) hconnect
    rw [if_neg (by decide)]
    cases content.listed with
    | false => exact hlisted
    | true => exact hlisted.note rfl

/-! ## 3. The folder of the photos -/

/-- The comparison of `_folder_cb` is equality. -/
theorem isCameraDirectory_iff (name : List Char) :
    ¬ (strncmp cameraDirectoryName name cameraDirectoryName.length ≠ 0 ∨
      cameraDirectoryName.length ≠ name.length) ↔ name = cameraDirectoryName := by
  rw [not_or, not_not, not_not]
  exact strncmp_length_eq

/-- **The folder for the photos**: the first one with the name, none before it without a readable
    name, and its path readable. -/
def IsPhotoFolder (folders : List MediaFolder) (path : List Char) : Prop :=
  ∃ before folder after, folders = before ++ folder :: after ∧
    (∀ other ∈ before, ∃ name, other.name = some name ∧ name ≠ cameraDirectoryName) ∧
    folder.name = some cameraDirectoryName ∧ folder.path = some path

/-- What the callback does with a folder. -/
theorem folderCb_folder (k : Nat) (folder : MediaFolder) {l : Listing}
    (h : l.mediaContentFolder = none) :
    let after := (folderCb k folder l).1.mediaContentFolder
    ((∃ name, folder.name = some name ∧ name ≠ cameraDirectoryName) ∧
        (folderCb k folder l).2 = true ∧ after = none) ∨
      (¬ (∃ name, folder.name = some name ∧ name ≠ cameraDirectoryName) ∧
        (folderCb k folder l).2 = false ∧
        ∀ path, after = some path ↔ folder.name = some cameraDirectoryName ∧
          folder.path = some path) := by
  unfold folderCb
  split
  · rename_i hname
    exact Or.inr ⟨by simp [hname], rfl, by simp [hname, Listing.note, h]⟩
  · rename_i name hname
    dsimp only
    split
    · rename_i hother
      have hne : name ≠ cameraDirectoryName := fun heq =>
        (isCameraDirectory_iff name).mpr heq hother
      exact Or.inl ⟨⟨name, hname, hne⟩, rfl, h⟩
    · rename_i hsame
      obtain rfl := (isCameraDirectory_iff name).mp hsame
      refine Or.inr ⟨by simp [hname], ?_, fun path => ?_⟩
      · split <;> rfl
      · split
        · rename_i hpath
          simp [hname, hpath, Listing.note, h]
        · rename_i hpath
          simp [hname, hpath, Listing.note]

theorem foreachFolder_folder (folders : List MediaFolder) (k : Nat) {l : Listing}
    (h : l.mediaContentFolder = none) (path : List Char) :
    (foreachFolder k folders l).mediaContentFolder = some path ↔ IsPhotoFolder folders path := by
  induction folders generalizing k l with
  | nil => simp [foreachFolder, h, IsPhotoFolder]
  | cons folder folders ih =>
    unfold foreachFolder
    dsimp only
    rcases folderCb_folder k folder h with ⟨hother, hnext, hnone⟩ | ⟨hlast, hnext, hstored⟩
    · rw [if_pos hnext, ih (k + 1) hnone]
      constructor
      · rintro ⟨before, found, after, rfl, hbefore, hfound⟩
        exact ⟨folder :: before, found, after, rfl, List.forall_mem_cons.mpr ⟨hother, hbefore⟩,
          hfound⟩
      · rintro ⟨before, found, after, heq, hbefore, hfound⟩
        cases before with
        | nil =>
          obtain ⟨rfl, rfl⟩ := List.cons.inj heq
          obtain ⟨name, hname, hne⟩ := hother
          exact absurd (Option.some.inj (hname.symm.trans hfound.1)) hne
        | cons first before =>
          obtain ⟨rfl, rfl⟩ := List.cons.inj heq
          exact ⟨before, found, after, rfl, (List.forall_mem_cons.mp hbefore).2, hfound⟩
    · rw [hnext, if_neg Bool.false_ne_true, hstored]
      constructor
      · intro hfound
        exact ⟨[], folder, folders, rfl, by simp, hfound⟩
      · rintro ⟨before, found, after, heq, hbefore, hfound⟩
        cases before with
        | nil =>
          obtain ⟨rfl, rfl⟩ := List.cons.inj heq
          exact hfound
        | cons first before =>
          obtain ⟨rfl, rfl⟩ := List.cons.inj heq
          exact absurd (hbefore _ List.mem_cons_self) hlast

/-- **What start-up stores is the folder for the photos.** -/
theorem listMediaFolders_folder (content : MediaContent) (path : List Char) :
    (listMediaFolders content).1.mediaContentFolder = some path ↔
      content.connect = true ∧ IsPhotoFolder content.folders path := by
  unfold listMediaFolders
  dsimp only
  cases content.connect with
  | false => simp
  | true =>
    rw [if_neg (by decide)]
    have hfolder := foreachFolder_folder content.folders 0 (l := ⟨none, [.connect true]⟩) rfl path
    split
    · exact hfolder.trans (by simp)
    · exact hfolder.trans (by simp)

/-! ## 4. The pictures of the stickers -/

/-- `STICKER_NUM` -/
def stickerNum : Nat := 17

/-- `BUFLEN` -/
def buflen : Nat := 256

/-- `image_util_stickers_filename` -/
def imageUtilStickersFilename : List String :=
  ["deer_left_big.jpg", "deer_right_big.jpg", "deer_nose_big.jpg", "deer_left_small.jpg",
    "deer_right_small.jpg", "deer_nose_small.jpg", "hat0.jpg", "hat1.jpg", "hat2.jpg",
    "beard_rot.jpg", "deer_nose_s.jpg", "glasses_rot.jpg", "santa_rot.jpg", "deer_left_mid.jpg",
    "deer_right_mid.jpg", "cat_left.jpg", "cat_right.jpg"]

/-- `image_util_decode_jpeg` of a path, to NV12; `none` is an error. -/
abbrev JpegDecoder := List Char → Option ImageInfo

/-- The path `_image_util_read_jpeg` prints into its buffer. -/
def samplePath (resourcePath : List Char) (idx : Nat) : List Char :=
  Printf.snprintf buflen (resourcePath ++ (imageUtilStickersFilename.getD idx "").toList)

/-- `_image_util_read_jpeg`: a picture that cannot be decoded leaves the entry as it is. -/
def imageUtilReadJpeg (resourcePath : List Char) (decode : JpegDecoder) (imginfo : ImageInfo)
    (idx : Nat) : ImageInfo :=
  match decode (samplePath resourcePath idx) with
  | none => imginfo
  | some decoded => decoded

/-- An entry of the static array before anything is read. -/
def zeroImage : ImageInfo := ⟨fun _ => 0, 0, 0, 0⟩

/-- `_image_util_read_stickers` -/
def imageUtilReadStickers (resourcePath : List Char) (decode : JpegDecoder)
    (imgarr : Nat → ImageInfo) : Nat → ImageInfo :=
  Loop.forLt stickerNum (fun i imgarr =>
    Function.update imgarr i.toNat
      (imageUtilReadJpeg resourcePath decode (imgarr i.toNat) i.toNat)) imgarr

/-- What start-up finds, from the answers to its calls. -/
def startup (outcome : Nat → CameraCall → Bool) (content : MediaContent)
    (resourcePath : List Char) (decode : JpegDecoder) : Startup where
  outcome := outcome
  folder := (listMediaFolders content).1.mediaContentFolder
  imgarr := imageUtilReadStickers resourcePath decode fun _ => zeroImage

/-- An entry of the array is its picture, if it could be decoded. -/
theorem imageUtilReadStickers_entry (resourcePath : List Char) (decode : JpegDecoder)
    (imgarr : Nat → ImageInfo) {k : Nat} (hk : k < stickerNum) :
    imageUtilReadStickers resourcePath decode imgarr k =
      imageUtilReadJpeg resourcePath decode (imgarr k) k := by
  refine Loop.forLt_local (fun imgarr : Nat → ImageInfo => imgarr k)
    (fun imginfo => imageUtilReadJpeg resourcePath decode imginfo k) (n := stickerNum) (j := k)
    (Int.natCast_nonneg k) (Int.ofNat_lt.mpr hk) (fun t => ?_) (fun i t hi0 _ hne => ?_) imgarr
  · exact Function.update_self ..
  · exact Function.update_of_ne (by omega) ..

/-! ## 5. Runs -/

/-- No handler writes to the array. -/
theorem primitive_imgarr (imgarr : Nat → ImageInfo) :
    Primitive fun s : ViewInfo => s.imgarr = imgarr where
  invoke _ h := h
  note h _ := h
  photo _ _ _ h := h
  controls _ h _ := h
  faces _ h := h

/-- What start-up shows is not a photo of its own. -/
theorem mainViewAdd_named {readdir : List Char → Option (List Dirent)} {cfg : Startup}
    {s : ViewInfo} (hadd : mainViewAdd readdir cfg = some s) : Named cfg.folder s := by
  have hcreate := named_run cfg []
  obtain ⟨folder, -, rfl⟩ := mainViewAdd_some hadd
  refine ⟨hcreate.folder_eq, ?_⟩
  cases mainViewThumbnailLoad readdir (viewCreate cfg) with
  | none => exact hcreate.paths_eq
  | some filePath => exact hcreate.paths_eq

/-- **Without a folder for the photos start-up gets no further than its look into it; else the
    photos of every run go there**, each under its time, whatever the database answered. -/
theorem photos_inFolder (outcome : Nat → CameraCall → Bool) (content : MediaContent)
    (resourcePath : List Char) (decode : JpegDecoder)
    (readdir : List Char → Option (List Dirent)) :
    match mainViewAdd readdir (startup outcome content resourcePath decode) with
    | none => ∀ path, ¬ (content.connect = true ∧ IsPhotoFolder content.folders path)
    | some s =>
      ∃ path, (content.connect = true ∧ IsPhotoFolder content.folders path) ∧
        ∀ es, photoPaths (Run.exec step s es).trace =
          (photoTimes (Run.exec step s es).trace).map fun tm =>
            Printf.snprintf pathMax (path ++ '/' :: filePrefix ++ '_' :: timeName tm) := by
  have hlisted : (startup outcome content resourcePath decode).folder =
      (listMediaFolders content).1.mediaContentFolder := rfl
  cases hadd : mainViewAdd readdir (startup outcome content resourcePath decode) with
  | none =>
    intro path hphoto
    rw [mainViewAdd_eq, hlisted, (listMediaFolders_folder content path).mpr hphoto] at hadd
    exact Option.some_ne_none _ hadd
  | some s =>
    have hnamed := mainViewAdd_named hadd
    obtain ⟨path, hfolder, -⟩ := mainViewAdd_some hadd
    rw [hfolder] at hnamed
    refine ⟨path, (listMediaFolders_folder content path).mp hfolder, fun es => ?_⟩
    have hrun := Run.invariant (P := Named (some path))
      (fun _ e h => (primitive_named (some path)).step h e) hnamed es
    exact hrun.paths_eq

/-- The pictures a sticker is drawn with are entries of the array. -/
theorem picturesOf_number {sticker height : Int} {shape : FullObjectDetection} {keyed : Keyed}
    {number : Nat} {p q : Int} (h : .cpy keyed number p q ∈ picturesOf sticker height shape) :
    number < stickerNum := by
  unfold picturesOf at h
  dsimp only at h
  split at h <;>
    simp only [List.mem_cons, List.not_mem_nil, Picture.cpy.injEq, reduceCtorEq, or_false] at h <;>
    unfold stickerNum <;> omega

/-- A picture of no size is not touched. -/
theorem accesses_zeroImage (keyed : Keyed) (frame : Frame) (p q : Int) :
    accesses keyed frame zeroImage p q = [] := by
  refine List.eq_nil_iff_forall_not_mem.mpr fun a ha => ?_
  obtain ⟨j, ⟨h0, hj⟩, -⟩ := (mem_accesses_iff ..).mp ha
  exact absurd (Int.lt_of_le_of_lt h0 hj) (by decide)

/-- Every picture drawn on this frame is in the array, and is not touched or was decoded. -/
def DrawsDecoded (resourcePath : List Char) (decode : JpegDecoder) (s : ViewInfo) (frame : Frame)
    (env : FrameEnv) : Prop :=
  ∀ keyed number p q,
    .cpy keyed number p q ∈ picturesOn env.sp (worn env frame s) s.faces frame →
      number < stickerNum ∧ (accesses keyed frame (s.imgarr number) p q = [] ∨
        decode (samplePath resourcePath number) = some (s.imgarr number))

/-- **Whichever pictures cannot be decoded, no run reads through the null pointer in their place**,
    nor past the array of pictures. -/
theorem undecoded_untouched (outcome : Nat → CameraCall → Bool) (content : MediaContent)
    (resourcePath : List Char) (decode : JpegDecoder) (es : List Event) :
    Run.Along step (fun s e => ∀ frame env, e = .frame frame env →
        DrawsDecoded resourcePath decode s frame env)
      (viewCreate (startup outcome content resourcePath decode)) es := by
  have hprimitive := primitive_imgarr (startup outcome content resourcePath decode).imgarr
  have hcreate : (viewCreate (startup outcome content resourcePath decode)).imgarr =
      (startup outcome content resourcePath decode).imgarr :=
    hprimitive.mainViewInitCamera (s := sInfo (startup outcome content resourcePath decode)) rfl
  refine Run.along_of_invariant (I := fun s : ViewInfo =>
    s.imgarr = (startup outcome content resourcePath decode).imgarr)
    (fun s e h => hprimitive.step h e) ?_ hcreate es
  intro s e h frame env _ keyed number p q hmem
  obtain ⟨face, -, hpic⟩ := List.mem_flatMap.mp hmem
  have hnumber := picturesOf_number hpic
  refine ⟨hnumber, ?_⟩
  have hentry : s.imgarr number =
      imageUtilReadJpeg resourcePath decode zeroImage number := by
    rw [h]
    exact imageUtilReadStickers_entry resourcePath decode _ hnumber
  rw [hentry]
  unfold imageUtilReadJpeg
  cases decode (samplePath resourcePath number) with
  | none => exact Or.inl (accesses_zeroImage keyed frame p q)
  | some decoded => exact Or.inr rfl

end SelfCamera
