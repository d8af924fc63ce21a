/-
  File:      SelfCamera/Gallery.lean
  Subject:   THE THUMBNAIL AND THE PHOTO IT OPENS, over a run.

  Two things decide what the user sees of his photos. The thumbnail is set to the photo just taken;
  a click on it lists the folder and opens the entry that sorts last. They agree as long as the
  photo taken last is also the one that sorts last.

  * `mainViewThumbnailLoad`, `mainViewThumbnailClickCb` -- the two functions, the second with every
    call that may fail; `mainViewAdd` -- start-up, up to its look into the folder;
  * `Click.Orderly`, `click_orderly` -- the handle of a click, its link, its request and its popup,
    however the calls answer;
  * **`shown_are_written`** -- the photos shown are those written, after the one that was there;
  * **`click_releases`** -- the clicks of every run;
  * `lastFilePath_cases` -- what the listing finds; `opensShown_step` -- one event;
  * **`thumbnail_opens_iff`** -- the runs in which a click always opens the photo that is shown.
-/
import SelfCamera.Requests
import SelfCamera.Thumbnail

namespace SelfCamera

open Posix

/-! ## 1. The functions -/

/-- `STR_FILE_PROTOCOL` -/
def strFileProtocol : List Char := ['f', 'i', 'l', 'e', ':', '/', '/']

/-- `sizeof(file_path_prepared)` -/
def preparedSize : Nat := pathMax + (strFileProtocol.length + 1)

/-- The `app_control_*` calls of a click. -/
inductive AppControlCall where
  | create
  | setUri (uri : List Char)
  | setOperation | setMime | sendLaunchRequest | destroy
  deriving DecidableEq

/-- What `app_control_send_launch_request` returns. -/
inductive LaunchResult where
  | none | appNotFound | otherError
  deriving DecidableEq

/-- Which of the calls succeed. -/
structure AppControlAnswers where
  create : Bool
  setUri : Bool
  setOperation : Bool
  setMime : Bool
  sendLaunchRequest : LaunchResult

/-- The two texts of `_main_view_show_warning_popup`. -/
inductive WarningPopup where
  /-- `"Image viewing application wasn't found"` -/
  | viewerNotFound
  /-- `"Image viewing application initialisation failed"` -/
  | viewerFailed
  deriving DecidableEq

/-- What a click did. -/
structure Click where
  calls : List AppControlCall
  popup : Option WarningPopup

/-- `_main_view_thumbnail_click_cb` -/
def mainViewThumbnailClickCb (readdir : List Char → Option (List Dirent))
    (answers : AppControlAnswers) (s : ViewInfo) : Click :=
  let (filePath, size) := mainViewGetLastFilePath readdir [] pathMax s
  if size = 0 then ⟨[], none⟩
  else if answers.create = false then ⟨[.create], none⟩
  else
    let prepared := strncpy strFileProtocol preparedSize
    let prepared := strncat prepared filePath preparedSize
    if answers.setUri = false then ⟨[.create, .setUri prepared, .destroy], none⟩
    else if answers.setOperation = false then
      ⟨[.create, .setUri prepared, .setOperation, .destroy], none⟩
    else if answers.setMime = false then
      ⟨[.create, .setUri prepared, .setOperation, .setMime, .destroy], none⟩
    else
      let popup :=
        match answers.sendLaunchRequest with
        | .none => none
        | .appNotFound => some .viewerNotFound
        | .otherError => some .viewerFailed
      ⟨[.create, .setUri prepared, .setOperation, .setMime, .sendLaunchRequest, .destroy], popup⟩

/-- `_main_view_thumbnail_load`: the path given to `_main_view_thumbnail_set`, or `"no_image"`. -/
def mainViewThumbnailLoad (readdir : List Char → Option (List Dirent)) (s : ViewInfo) :
    Option (List Char) :=
  let (filePath, size) := mainViewGetLastFilePath readdir [] pathMax s
  if size ≠ 0 then some filePath else none

/-- What `_main_view_add` leaves of `s_info`, given what it found out about the folder and the
    device: it creates the camera and looks for the latest photo. `none`: without a folder `scandir`
    is given a null pointer, and start-up goes no further. -/
def mainViewAdd (readdir : List Char → Option (List Dirent)) (cfg : Startup) : Option ViewInfo :=
  let s := viewCreate cfg
  match s.mediaContentFolder with
  | none => none
  | some _ =>
    match mainViewThumbnailLoad readdir s with
    | some filePath => some (s.note (.thumbnailSet filePath))
    | none => some s

/-- What the viewer is asked to open. -/
def Click.uri (click : Click) : Option (List Char) :=
  if .sendLaunchRequest ∈ click.calls then
    click.calls.findSome? fun
      | .setUri uri => some uri
      | _ => none
  else none

/-- Every call succeeds. -/
def AppControlAnswers.ok : AppControlAnswers := ⟨true, true, true, true, .none⟩

/-! ## 2. One click -/

/-- The path found is cut to the buffer. -/
theorem lastFilePath_length (readdir : List Char → Option (List Dirent)) (s : ViewInfo) :
    (mainViewGetLastFilePath readdir [] pathMax s).1.length ≤ pathMax - 1 := by
  unfold mainViewGetLastFilePath
  split
  · exact Nat.zero_le _
  · split
    · exact Nat.zero_le _
    · exact List.length_take_le _ _

/-- The text of the link: nothing of it is cut a second time. -/
theorem prepared_eq {filePath : List Char} (h : filePath.length ≤ pathMax - 1) :
    strncat (strncpy strFileProtocol preparedSize) filePath preparedSize =
      strFileProtocol ++ filePath := by
  have hsize : pathMax ≤ preparedSize := by decide
  have hprotocol : strFileProtocol.length ≤ preparedSize := by decide
  unfold strncat strncpy
  rw [List.take_of_length_le hprotocol, List.take_of_length_le (by omega)]

/-- The listing finds something exactly in a folder that can be read and holds an entry that begins
    with `FILE_PREFIX`. -/
theorem lastFilePath_found {readdir : List Char → Option (List Dirent)} {s : ViewInfo}
    {folder : List Char} (hfolder : s.mediaContentFolder = some folder) :
    (mainViewGetLastFilePath readdir [] pathMax s).2 ≠ 0 ↔
      ∃ entries, readdir folder = some entries ∧ ∃ d ∈ entries, filePrefix <+: d.dName := by
  unfold mainViewGetLastFilePath
  rw [hfolder, Option.bind_some]
  cases hread : readdir folder with
  | none => simp [scandir]
  | some entries =>
    cases hscan : scandir (some entries) mainViewImageFileFilter alphasort with
    | none => exact absurd hscan (by simp [scandir])
    | some namelist =>
      have hmem (d : Dirent) : d ∈ namelist ↔ d ∈ entries ∧ filePrefix <+: d.dName :=
        (mem_scandir hscan).trans (and_congr_right fun _ => imageFileFilter_iff d)
      dsimp only
      cases hlast : namelist.getLast? with
      | none =>
        rw [List.getLast?_eq_none_iff.mp hlast] at hmem
        refine iff_of_false (not_not.mpr rfl) ?_
        rintro ⟨_, heq, d, hd, hbegins⟩
        rw [← Option.some.inj heq] at hd
        exact List.not_mem_nil ((hmem d).mpr ⟨hd, hbegins⟩)
      | some last =>
        obtain ⟨hd, hbegins⟩ := (hmem last).mp (List.mem_of_getLast? hlast)
        exact iff_of_true (by simp) ⟨entries, rfl, last, hd, hbegins⟩

/-- The handle exists, and its three settings were taken. -/
def AppControlAnswers.ready (answers : AppControlAnswers) : Bool :=
  answers.create && answers.setUri && answers.setOperation && answers.setMime

/-- **What a click does with its handle**, given what the listing found. -/
structure Click.Orderly (answers : AppControlAnswers) (found : Prop) (path : List Char)
    (click : Click) : Prop where
  /-- a handle is asked for, once, where there is a photo -/
  created : .create ∈ click.calls ↔ found
  once : click.calls.count .create ≤ 1
  /-- and given back as often as it was got, at the very end -/
  released : click.calls.count .destroy = if answers.create then click.calls.count .create else 0
  last : .destroy ∈ click.calls → click.calls.getLast? = some .destroy
  /-- the link is to the path found, and its final zero is in the buffer -/
  link : ∀ uri, .setUri uri ∈ click.calls →
    uri = strFileProtocol ++ path ∧ uri.length < preparedSize
  /-- the viewer is asked exactly when all went well, with every setting made before -/
  asked : .sendLaunchRequest ∈ click.calls ↔ found ∧ answers.ready = true
  before : .sendLaunchRequest ∈ click.calls →
    [.create, .setUri (strFileProtocol ++ path), .setOperation, .setMime, .sendLaunchRequest] <+:
      click.calls
  popup : click.popup.isSome = true ↔
    .sendLaunchRequest ∈ click.calls ∧ answers.sendLaunchRequest ≠ .none

/-- A click in a state with a folder for the photos. -/
theorem click_orderly {s : ViewInfo} {folder : List Char}
    (hfolder : s.mediaContentFolder = some folder)
    (readdir : List Char → Option (List Dirent)) (answers : AppControlAnswers) :
    (mainViewThumbnailClickCb readdir answers s).Orderly answers
      (∃ entries, readdir folder = some entries ∧ ∃ d ∈ entries, filePrefix <+: d.dName)
      (mainViewGetLastFilePath readdir [] pathMax s).1 := by
  have hprepared := prepared_eq (lastFilePath_length readdir s)
  have hfits : strFileProtocol.length +
      (mainViewGetLastFilePath readdir [] pathMax s).1.length < preparedSize := by
    have hlength := lastFilePath_length readdir s
    have hpos : 0 < pathMax := by decide
    unfold preparedSize
    omega
  rw [← lastFilePath_found hfolder]
  unfold mainViewThumbnailClickCb
  generalize mainViewGetLastFilePath readdir [] pathMax s = found at *
  obtain ⟨filePath, size⟩ := found
  obtain ⟨create, setUri, setOperation, setMime, launch⟩ := answers
  dsimp only at hprepared hfits ⊢
  rw [hprepared]
  by_cases hsize : size = 0
  · constructor <;> simp [hsize]
  · rw [if_neg hsize]
    -- one exit after another, as in the source
    cases create with
    | false => constructor <;> simp [hsize, AppControlAnswers.ready]
    | true =>
      cases setUri with
      | false => constructor <;> simp [hsize, hfits, AppControlAnswers.ready]
      | true =>
        cases setOperation with
        | false => constructor <;> simp [hsize, hfits, AppControlAnswers.ready]
        | true =>
          cases setMime with
          | false => constructor <;> simp [hsize, hfits, AppControlAnswers.ready]
          | true =>
            cases launch <;> constructor <;> simp [hsize, hfits, AppControlAnswers.ready]

/-- Where every call succeeds, the viewer is asked for the entry found. -/
theorem click_uri (readdir : List Char → Option (List Dirent)) (s : ViewInfo) :
    (mainViewThumbnailClickCb readdir .ok s).uri =
      (mainViewThumbnailLoad readdir s).map (strFileProtocol ++ ·) := by
  have hprepared := prepared_eq (lastFilePath_length readdir s)
  unfold mainViewThumbnailClickCb mainViewThumbnailLoad
  generalize mainViewGetLastFilePath readdir [] pathMax s = found at *
  obtain ⟨filePath, size⟩ := found
  dsimp only at hprepared ⊢
  rw [hprepared]
  by_cases hsize : size = 0 <;> simp [hsize, AppControlAnswers.ok, Click.uri]

/-! ## 3. What is shown, and what is written -/

/-- The paths given to `_main_view_thumbnail_set`, newest first. -/
def shownPaths : List Action → List (List Char)
  | [] => []
  | .thumbnailSet path :: before => path :: shownPaths before
  | _ :: before => shownPaths before

/-- The photo an event writes: a capture that begins, finds a local time, and is encoded. -/
def writes (s : ViewInfo) : Event → Option Tm
  | .frame fr env =>
    if begins s (.frame fr env) && s.cameraEnabled && env.encodeResult == 0 then
      env.localtimeR env.rawtime
    else none
  | _ => none

theorem writtenPaths_captures (trace : List Action) :
    writtenPaths (captures trace) = writtenPaths trace := by
  induction trace with
  | nil => rfl
  | cons a before ih =>
    unfold captures at ih ⊢
    cases a <;> simp [List.filter_cons, Action.ofCapture, writtenPaths, ih]

theorem shownPaths_captures (trace : List Action) :
    shownPaths (captures trace) = shownPaths trace := by
  induction trace with
  | nil => rfl
  | cons a before ih =>
    unfold captures at ih ⊢
    cases a <;> simp [List.filter_cons, Action.ofCapture, shownPaths, ih]

/-- What an event writes and what it shows: the same, a photo or nothing. -/
theorem captured_paths (s : ViewInfo) (e : Event) (before : List Action) :
    writtenPaths (captured s e ++ before) =
        ((writes s e).map (capturePath s.mediaContentFolder)).toList ++ writtenPaths before ∧
      shownPaths (captured s e ++ before) =
        ((writes s e).map (capturePath s.mediaContentFolder)).toList ++ shownPaths before := by
  unfold captured writes
  cases e with
  | frame fr env =>
    dsimp only
    generalize begins s (.frame fr env) = b
    generalize s.cameraEnabled = enabled
    cases b <;> cases enabled <;> try exact ⟨rfl, rfl⟩
    unfold captureEntries
    cases ht : env.localtimeR env.rawtime with
    | none => simp
    | some tm =>
      by_cases hr : env.encodeResult = 0 <;> simp [hr, writtenPaths, shownPaths]
  | _ => simp [begins]

theorem step_paths (s : ViewInfo) (e : Event) :
    writtenPaths (step s e).trace =
        ((writes s e).map (capturePath s.mediaContentFolder)).toList ++ writtenPaths s.trace ∧
      shownPaths (step s e).trace =
        ((writes s e).map (capturePath s.mediaContentFolder)).toList ++ shownPaths s.trace := by
  have h := captured_paths s e (captures s.trace)
  rw [← step_captures, writtenPaths_captures, shownPaths_captures, writtenPaths_captures,
    shownPaths_captures] at h
  exact h

theorem viewCreate_paths (cfg : Startup) :
    writtenPaths (viewCreate cfg).trace = [] ∧ shownPaths (viewCreate cfg).trace = [] := by
  rw [← writtenPaths_captures, ← shownPaths_captures, captures_viewCreate]
  exact ⟨rfl, rfl⟩

theorem viewCreate_folder (cfg : Startup) : (viewCreate cfg).mediaContentFolder = cfg.folder := by
  obtain ⟨enabled, hctl⟩ := viewCreate_toControls cfg
  exact congrArg Controls.mediaContentFolder hctl

/-- Start-up gets through exactly with a folder; it has then shown what it found there. -/
theorem mainViewAdd_eq (readdir : List Char → Option (List Dirent)) (cfg : Startup) :
    mainViewAdd readdir cfg = cfg.folder.map fun _ =>
      { viewCreate cfg with
        trace := (mainViewThumbnailLoad readdir (viewCreate cfg)).toList.map .thumbnailSet ++
          (viewCreate cfg).trace } := by
  unfold mainViewAdd
  dsimp only
  rw [viewCreate_folder]
  cases cfg.folder with
  | none => rfl
  | some folder => cases mainViewThumbnailLoad readdir (viewCreate cfg) <;> rfl

theorem mainViewAdd_some {readdir : List Char → Option (List Dirent)} {cfg : Startup}
    {s : ViewInfo} (hadd : mainViewAdd readdir cfg = some s) :
    ∃ folder, cfg.folder = some folder ∧
      { viewCreate cfg with
        trace := (mainViewThumbnailLoad readdir (viewCreate cfg)).toList.map .thumbnailSet ++
          (viewCreate cfg).trace } = s := by
  rw [mainViewAdd_eq] at hadd
  exact Option.map_eq_some_iff.mp hadd

/-- **The photos shown are the photos written, in every state of every run**, in the same order,
    after the one start-up found in the folder, if it found one: no thumbnail without a photo, no
    photo without a thumbnail. -/
theorem shown_are_written {readdir : List Char → Option (List Dirent)} {cfg : Startup}
    {s : ViewInfo} (hadd : mainViewAdd readdir cfg = some s) (es : List Event) :
    Run.All step (fun t => shownPaths t.trace =
      writtenPaths t.trace ++ (mainViewThumbnailLoad readdir (viewCreate cfg)).toList) s es := by
  refine Run.all_of_invariant (I := fun t : ViewInfo => shownPaths t.trace =
      writtenPaths t.trace ++ (mainViewThumbnailLoad readdir (viewCreate cfg)).toList)
    (fun t e h => ?_) (fun _ h => h) ?_ es
  · obtain ⟨hwritten, hshown⟩ := step_paths t e
    rw [hwritten, hshown, h, List.append_assoc]
  · obtain ⟨hwritten, hshown⟩ := viewCreate_paths cfg
    obtain ⟨folder, -, rfl⟩ := mainViewAdd_some hadd
    cases mainViewThumbnailLoad readdir (viewCreate cfg) <;>
      simp [shownPaths, writtenPaths, hwritten, hshown]

/-- A photo is taken a second after the one that was there. -/
def nextPhoto : List Event :=
  [.shutterButton,
    .frame (evenFrame 0 128) { standingClock 0 with localtimeR := fun _ => some newYearNext }]

/-- With an older photo in the folder: it is shown first, and then the new one. -/
theorem shown_are_written_next :
    ∃ s, mainViewAdd (fun _ => some [⟨photoName newYear⟩]) workingStartup = some s ∧
      Run.All step (fun t => shownPaths t.trace =
        writtenPaths t.trace ++ [['/', 'm', 'e', 'd', 'i', 'a'] ++ '/' :: photoName newYear])
        s nextPhoto := by
  have hload : mainViewThumbnailLoad (fun _ => some [⟨photoName newYear⟩])
      (viewCreate workingStartup) =
        some (['/', 'm', 'e', 'd', 'i', 'a'] ++ '/' :: photoName newYear) := by
    unfold mainViewThumbnailLoad
    rw [lastFilePath_eq (viewCreate_folder workingStartup) rfl List.mem_cons_self
      (List.prefix_append _ _) (by simp) [] (by decide)]
    rfl
  obtain ⟨s, hadd⟩ : ∃ s, mainViewAdd (fun _ => some [⟨photoName newYear⟩]) workingStartup =
      some s := ⟨_, mainViewAdd_eq _ _⟩
  have hrun := shown_are_written hadd nextPhoto
  rw [hload] at hrun
  exact ⟨s, hadd, hrun⟩

theorem step_folder (s : ViewInfo) (e : Event) :
    (step s e).mediaContentFolder = s.mediaContentFolder := by
  rw [step_toControls]
  cases e <;> first | rfl | (dsimp only [written]; split <;> rfl)

/-- **A click in any state of any run that start-up gets through to, whatever is in the folder by
    then and however the calls answer**: a handle is asked for exactly where the folder can be read
    and holds a photo; it is destroyed, and last; the text of the link fits into its buffer with its
    final zero; the viewer is asked only after the link, the operation and the type were set; a
    popup is shown exactly when it was asked and did not start. -/
theorem click_releases {before : List Char → Option (List Dirent)} {cfg : Startup} {s : ViewInfo}
    (hadd : mainViewAdd before cfg = some s) (es : List Event)
    (readdir : List Char → Option (List Dirent)) (answers : AppControlAnswers) :
    ∃ folder, cfg.folder = some folder ∧
      (mainViewThumbnailClickCb readdir answers (Run.exec step s es)).Orderly answers
        (∃ entries, readdir folder = some entries ∧ ∃ d ∈ entries, filePrefix <+: d.dName)
        (mainViewGetLastFilePath readdir [] pathMax (Run.exec step s es)).1 := by
  obtain ⟨folder, hfolder, rfl⟩ := mainViewAdd_some hadd
  refine ⟨folder, hfolder, click_orderly ?_ readdir answers⟩
  refine Run.invariant (P := fun t : ViewInfo => t.mediaContentFolder = some folder)
    (fun t e h => (step_folder t e).trans h) ?_ es
  exact (viewCreate_folder cfg).trans hfolder

/-- A first photo is taken, on a device without a viewer, and the thumbnail is clicked: the handle
    is destroyed, and the popup shown. -/
theorem click_releases_noViewer :
    ∃ s, mainViewAdd (fun _ => some []) workingStartup = some s ∧
      let click := mainViewThumbnailClickCb (fun _ => some [⟨photoName newYearNext⟩])
        ⟨true, true, true, true, .appNotFound⟩ (Run.exec step s nextPhoto)
      click.calls.count .destroy = 1 ∧ click.calls.getLast? = some .destroy ∧
        click.popup.isSome = true := by
  obtain ⟨s, hadd⟩ : ∃ s, mainViewAdd (fun _ => some []) workingStartup = some s :=
    ⟨_, mainViewAdd_eq _ _⟩
  obtain ⟨folder, -, h⟩ := click_releases hadd nextPhoto
    (fun _ => some [⟨photoName newYearNext⟩]) ⟨true, true, true, true, .appNotFound⟩
  refine ⟨s, hadd, ?_⟩
  intro click
  have hfound : .create ∈ click.calls :=
    h.created.mpr ⟨_, rfl, _, List.mem_cons_self, List.prefix_append _ _⟩
  have hone := le_antisymm h.once (List.count_pos_iff.mpr hfound)
  have hreleased := h.released.trans ((if_pos rfl).trans hone)
  refine ⟨hreleased, h.last (List.count_pos_iff.mp (by rw [hreleased]; decide)), ?_⟩
  exact h.popup.mpr ⟨h.asked.mpr ⟨h.created.mp hfound, rfl⟩, by decide⟩

/-! ## 4. The folder -/

/-- The entry of `folder` that a path names, if it names one. -/
def entryOf (folder path : List Char) : Option Dirent :=
  if (folder ++ ['/']).isPrefixOf path then some ⟨path.drop (folder.length + 1)⟩ else none

/-- What the photo folder holds: what was there at start-up, and what has been written since. -/
def folderEntries (kept : List Dirent) (folder : List Char) (trace : List Action) :
    List Dirent :=
  (writtenPaths trace).filterMap (entryOf folder) ++ kept

/-- `opendir` and `readdir` of the photo folder. -/
def readFolder (kept : List Dirent) (folder : List Char) (trace : List Action) :
    List Char → Option (List Dirent) := fun path =>
  if path = folder then some (folderEntries kept folder trace) else none

/-- What the thumbnail shows: the photo taken last, or what start-up found. -/
def thumbnail (kept : List Dirent) (folder : List Char) (s : ViewInfo) : Option (List Char) :=
  match shownPaths s.trace with
  | [] => mainViewThumbnailLoad (readFolder kept folder []) s
  | path :: _ => some path

/-- A click asks the viewer for what the thumbnail shows. -/
def OpensShown (kept : List Dirent) (folder : List Char) (s : ViewInfo) : Prop :=
  (mainViewThumbnailClickCb (readFolder kept folder s.trace) .ok s).uri =
    (thumbnail kept folder s).map (strFileProtocol ++ ·)

/-- The photo an event writes has a name that fits into the buffers. -/
def WritesFitting (folder : List Char) (s : ViewInfo) (e : Event) : Prop :=
  ∀ tm, writes s e = some tm → NameFits (some folder) tm

/-- No photo in the folder sorts after the one an event writes. -/
def WritesLast (kept : List Dirent) (folder : List Char) (s : ViewInfo) (e : Event) : Prop :=
  ∀ tm, writes s e = some tm → ∀ d ∈ folderEntries kept folder s.trace,
    filePrefix <+: d.dName → d.dName ≤ photoName tm

/-- The photo folder is the one of start-up, and the photos in it have names that fit. -/
structure InFolder (kept : List Dirent) (folder : List Char) (s : ViewInfo) : Prop where
  folder_eq : s.mediaContentFolder = some folder
  fits : ∀ d ∈ folderEntries kept folder s.trace, filePrefix <+: d.dName →
    (folder ++ '/' :: d.dName).length < pathMax

/-- An entry that sorts last, if there is one that begins with `FILE_PREFIX`. -/
theorem exists_last (entries : List Dirent) :
    (∀ d ∈ entries, ¬ filePrefix <+: d.dName) ∨
      ∃ d ∈ entries, filePrefix <+: d.dName ∧
        ∀ e ∈ entries, filePrefix <+: e.dName → e.dName ≤ d.dName := by
  by_cases hno : ∀ d ∈ entries, ¬ filePrefix <+: d.dName
  · exact Or.inl hno
  · push Not at hno
    obtain ⟨d0, hd0, hbegins0⟩ := hno
    have hne : (entries.filter fun d => filePrefix <+: d.dName).toFinset.Nonempty :=
      ⟨d0, by simp [hd0, hbegins0]⟩
    obtain ⟨d, hd, hmax⟩ := Finset.exists_max_image _ Dirent.dName hne
    simp only [List.mem_toFinset, List.mem_filter, decide_eq_true_eq] at hd hmax
    exact Or.inr ⟨d, hd.1, hd.2, fun e he hbegins => hmax e ⟨he, hbegins⟩⟩

/-- **What the listing finds**: nothing in a folder without photos, else the one that sorts
    last. -/
theorem lastFilePath_cases {kept : List Dirent} {folder : List Char} {s : ViewInfo}
    (hfolder : s.mediaContentFolder = some folder) {trace : List Action}
    (hfits : ∀ d ∈ folderEntries kept folder trace, filePrefix <+: d.dName →
      (folder ++ '/' :: d.dName).length < pathMax) :
    ((∀ d ∈ folderEntries kept folder trace, ¬ filePrefix <+: d.dName) ∧
        mainViewThumbnailLoad (readFolder kept folder trace) s = none) ∨
      ∃ d ∈ folderEntries kept folder trace, filePrefix <+: d.dName ∧
        (∀ e ∈ folderEntries kept folder trace, filePrefix <+: e.dName → e.dName ≤ d.dName) ∧
        mainViewThumbnailLoad (readFolder kept folder trace) s =
          some (folder ++ '/' :: d.dName) := by
  have hread : readFolder kept folder trace folder = some (folderEntries kept folder trace) :=
    if_pos rfl
  unfold mainViewThumbnailLoad
  rcases exists_last (folderEntries kept folder trace) with hno | ⟨d, hd, hbegins, hmax⟩
  · refine Or.inl ⟨hno, ?_⟩
    have hempty : scandir (some (folderEntries kept folder trace)) mainViewImageFileFilter
        alphasort = some [] := by
      unfold scandir
      rw [Option.map_some, List.filter_eq_nil_iff.mpr, List.mergeSort_nil]
      intro d hd
      simpa using mt (imageFileFilter_iff d).mp (hno d hd)
    unfold mainViewGetLastFilePath
    rw [hfolder, Option.bind_some, hread, hempty]
    rfl
  · refine Or.inr ⟨d, hd, hbegins, hmax, ?_⟩
    rw [lastFilePath_eq hfolder hread hd hbegins hmax [] (hfits d hd hbegins)]
    simp

/-! ## 5. Runs -/

/-- The path of a photo whose name fits, and the entry it is in the folder. -/
theorem capturePath_fits {folder : List Char} {tm : Tm} (h : NameFits (some folder) tm) :
    capturePath (some folder) tm = folder ++ '/' :: photoName tm ∧
      entryOf folder (capturePath (some folder) tm) = some ⟨photoName tm⟩ := by
  have hpath : capturePath (some folder) tm = folder ++ '/' :: photoName tm := by
    unfold capturePath
    rw [Printf.snprintf_fits h, fileName_eq]
    rfl
  refine ⟨hpath, ?_⟩
  have hsplit : folder ++ '/' :: photoName tm = (folder ++ ['/']) ++ photoName tm := by simp
  have hlen : folder.length + 1 = (folder ++ ['/']).length := by simp
  unfold entryOf
  rw [hpath, hsplit, if_pos (List.isPrefixOf_iff_prefix.mpr (List.prefix_append _ _)), hlen,
    List.drop_left]

/-- An event that writes no photo leaves the folder as it is. -/
theorem step_noWrite {s : ViewInfo} {e : Event} (h : writes s e = none) (kept : List Dirent)
    (folder : List Char) :
    folderEntries kept folder (step s e).trace = folderEntries kept folder s.trace ∧
      shownPaths (step s e).trace = shownPaths s.trace := by
  obtain ⟨hwritten, hshown⟩ := step_paths s e
  rw [h] at hwritten hshown
  unfold folderEntries
  rw [hwritten]
  exact ⟨rfl, hshown⟩

/-- An event that writes one adds its entry, and shows it. -/
theorem step_write {s : ViewInfo} {e : Event} {tm : Tm} (h : writes s e = some tm)
    {folder : List Char} (hfolder : s.mediaContentFolder = some folder)
    (hfits : NameFits (some folder) tm) (kept : List Dirent) :
    folderEntries kept folder (step s e).trace =
        ⟨photoName tm⟩ :: folderEntries kept folder s.trace ∧
      shownPaths (step s e).trace = (folder ++ '/' :: photoName tm) :: shownPaths s.trace := by
  obtain ⟨hwritten, hshown⟩ := step_paths s e
  obtain ⟨hpath, hentry⟩ := capturePath_fits hfits
  rw [h, hfolder] at hwritten hshown
  unfold folderEntries
  rw [hwritten, hshown]
  refine ⟨?_, congrArg (· :: _) hpath⟩
  show List.filterMap (entryOf folder) (capturePath (some folder) tm :: _) ++ kept = _
  rw [List.filterMap_cons_some hentry]
  rfl

theorem inFolder_step {kept : List Dirent} {folder : List Char} {s : ViewInfo} {e : Event}
    (h : InFolder kept folder s) (hfits : WritesFitting folder s e) :
    InFolder kept folder (step s e) := by
  refine ⟨(step_folder s e).trans h.folder_eq, ?_⟩
  cases hw : writes s e with
  | none =>
    rw [(step_noWrite hw kept folder).1]
    exact h.fits
  | some tm =>
    have htm := hfits tm hw
    rw [(step_write hw h.folder_eq htm kept).1]
    intro d hd hbegins
    rcases List.mem_cons.mp hd with rfl | hd
    · unfold NameFits at htm
      rwa [fileName_eq] at htm
    · exact h.fits d hd hbegins

/-- **What an event does to the agreement of thumbnail and click.** -/
theorem opensShown_step {kept : List Dirent} {folder : List Char} {s : ViewInfo} {e : Event}
    (h : InFolder kept folder s) (hfits : WritesFitting folder s e)
    (hopens : OpensShown kept folder s) :
    OpensShown kept folder (step s e) ↔ WritesLast kept folder s e := by
  have hnext := inFolder_step h hfits
  unfold OpensShown thumbnail at *
  rw [click_uri] at *
  cases hw : writes s e with
  | none =>
    have hlast : WritesLast kept folder s e := fun tm htm => by
      rw [hw] at htm
      exact absurd htm (by simp)
    obtain ⟨hentries, hshown⟩ := step_noWrite hw kept folder
    have hload (trace : List Action) :
        mainViewThumbnailLoad (readFolder kept folder trace) (step s e) =
          mainViewThumbnailLoad (readFolder kept folder trace) s := by
      unfold mainViewThumbnailLoad mainViewGetLastFilePath
      rw [step_folder]
    have hread : readFolder kept folder (step s e).trace = readFolder kept folder s.trace := by
      unfold readFolder
      rw [hentries]
    rw [hshown, hread, hload, hload]
    exact ⟨fun _ => hlast, fun _ => hopens⟩
  | some tm =>
    obtain ⟨hentries, hshown⟩ := step_write hw h.folder_eq (hfits tm hw) kept
    have hbegins : filePrefix <+: photoName tm := List.prefix_append _ _
    rw [hshown]
    rcases lastFilePath_cases hnext.folder_eq hnext.fits with ⟨hno, -⟩ | ⟨d, hd, hpre, hmax, hload⟩
    · rw [hentries] at hno
      exact absurd hbegins (hno _ List.mem_cons_self)
    · rw [hload, Option.map_some, Option.map_some, Option.some_inj, List.append_cancel_left_eq,
        List.append_cancel_left_eq, List.cons.injEq]
      rw [hentries] at hd hmax
      constructor
      · intro heq tm' htm' e' he' hpre'
        obtain rfl : tm = tm' := Option.some.inj (hw.symm.trans htm')
        rw [← heq.2]
        exact hmax e' (List.mem_cons_of_mem _ he') hpre'
      · intro hlast
        refine ⟨rfl, le_antisymm ?_ (hmax _ List.mem_cons_self hbegins)⟩
        rcases List.mem_cons.mp hd with rfl | hd
        · exact le_refl _
        · exact hlast tm hw d hd hpre

/-- **In a run whose photos have names that fit, a click opens the photo the thumbnail shows in
    every state exactly when no photo is written that sorts before one in the folder** -- a clock
    that was set back, or an earlier year's photo moved in, and the click opens another one. Before
    the first photo the thumbnail shows what start-up found, and a click opens that. -/
theorem thumbnail_opens_iff {cfg : Startup} {folder : List Char}
    (hfolder : cfg.folder = some folder) {kept : List Dirent}
    (hkept : ∀ d ∈ kept, filePrefix <+: d.dName → (folder ++ '/' :: d.dName).length < pathMax)
    {es : List Event} (hfits : Run.Along step (WritesFitting folder) (viewCreate cfg) es) :
    Run.All step (OpensShown kept folder) (viewCreate cfg) es ↔
      Run.Along step (WritesLast kept folder) (viewCreate cfg) es := by
  obtain ⟨hwritten, hshown⟩ := viewCreate_paths cfg
  have h0 : InFolder kept folder (viewCreate cfg) := by
    refine ⟨(viewCreate_folder cfg).trans hfolder, ?_⟩
    unfold folderEntries
    rw [hwritten]
    exact hkept
  have hstart : OpensShown kept folder (viewCreate cfg) := by
    have hread : readFolder kept folder (viewCreate cfg).trace = readFolder kept folder [] := by
      unfold readFolder folderEntries
      rw [hwritten]
      rfl
    unfold OpensShown thumbnail
    rw [click_uri, hshown, hread]
  exact Run.all_iff_along_under (I := InFolder kept folder) (fun s e h hD _ => inFolder_step h hD)
    (fun s e h hD hP => opensShown_step h hD hP) h0 hstart hfits

/-- A click opens the new one, as the thumbnail shows it. -/
theorem thumbnail_opens_next :
    Run.All step (OpensShown [⟨photoName newYear⟩, ⟨['.']⟩] ['/', 'm', 'e', 'd', 'i', 'a'])
      (viewCreate workingStartup) nextPhoto := by
  have hfits : Run.Along step (WritesFitting ['/', 'm', 'e', 'd', 'i', 'a'])
      (viewCreate workingStartup) nextPhoto := by
    refine ⟨fun tm htm => absurd htm (by simp [writes]), fun tm htm => ?_, trivial⟩
    obtain rfl : newYearNext = tm := Option.some.inj htm
    decide
  refine (thumbnail_opens_iff rfl (by decide) hfits).mpr
    ⟨fun tm htm => absurd htm (by simp [writes]), fun tm htm => ?_, trivial⟩
  obtain rfl : newYearNext = tm := Option.some.inj htm
  decide

end SelfCamera
