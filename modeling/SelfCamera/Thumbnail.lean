/-
  File:      SelfCamera/Thumbnail.lean
  Subject:   THE PHOTO THE THUMBNAIL OPENS: is it the latest one?

  Nothing remembers which photo was taken last. The folder is listed, and the entry that sorts last
  is taken for it. That rests on the names: fields of fixed width, from the year down to the
  second, padded with zeros.

  * `mainViewGetLastFilePath` -- the listing;
  * `Tm.key` -- times in their order; **`photoName_lt`** -- the names are in the same one;
  * **`lastFilePath_latest`** -- the entry taken is the photo of the latest time.
-/
import SelfCamera.Photos
import SelfCamera.Lib.Posix
import Mathlib.Data.Prod.Lex
import Mathlib.Data.Finset.Max

namespace SelfCamera

open Posix

/-! ## 1. The listing -/

/-- `_main_view_image_file_filter` -/
def mainViewImageFileFilter (dir : Dirent) : Int :=
  if strncmp dir.dName filePrefix filePrefix.length = 0 then 1 else 0

/-- `_main_view_get_last_file_path`: the buffer and the number it returns. `readdir` is what the
    folders hold; the buffer is left as it was given where nothing is found. A missing folder counts
    as one that cannot be opened: `scandir` is then given a null pointer, and start-up does not
    survive that (`mainViewAdd`), so that no handler gets here without a folder. -/
def mainViewGetLastFilePath (readdir : List Char → Option (List Dirent)) (filePath : List Char)
    (size : Nat) (s : ViewInfo) : List Char × Nat :=
  match scandir (s.mediaContentFolder.bind readdir) mainViewImageFileFilter alphasort with
  | none => (filePath, 0)
  | some namelist =>
    match namelist.getLast? with
    | none => (filePath, 0)
    | some last =>
      let text := cString s.mediaContentFolder ++ '/' :: last.dName
      (Printf.snprintf size text, text.length)

/-- The filter lets pass what begins with `FILE_PREFIX`. -/
theorem imageFileFilter_iff (dir : Dirent) :
    mainViewImageFileFilter dir ≠ 0 ↔ filePrefix <+: dir.dName := by
  unfold mainViewImageFileFilter
  rw [← strncmp_eq_zero]
  split
  · rename_i h
    exact ⟨fun _ => h, fun _ => by decide⟩
  · rename_i h
    exact ⟨fun hne => absurd rfl hne, fun hz => absurd hz h⟩

/-! ## 2. Times and names -/

/-- The fields of a broken-down time, from the year down. -/
def Tm.key (tm : Tm) : Int ×ₗ Nat ×ₗ Nat ×ₗ Nat ×ₗ Nat ×ₗ Nat :=
  toLex (tm.tmYear, toLex (tm.tmMon, toLex (tm.tmMday, toLex (tm.tmHour,
    toLex (tm.tmMin, tm.tmSec)))))

theorem Tm.key_injective : Function.Injective Tm.key := by
  intro a b h
  simp only [Tm.key, EmbeddingLike.apply_eq_iff_eq, Prod.mk.injEq] at h
  obtain ⟨hyear, hmon, hmday, hhour, hmin, hsec⟩ := h
  exact Tm.ext hyear hmon hmday hhour hmin hsec

/-- Broken-down times are ordered by the year, then the month, and so on down to the second. -/
instance : LinearOrder Tm := LinearOrder.lift' Tm.key Tm.key_injective

/-- **The order of times, spelled out.** -/
theorem Tm.lt_iff {a b : Tm} :
    a < b ↔ a.tmYear < b.tmYear ∨ a.tmYear = b.tmYear ∧
      (a.tmMon < b.tmMon ∨ a.tmMon = b.tmMon ∧
        (a.tmMday < b.tmMday ∨ a.tmMday = b.tmMday ∧
          (a.tmHour < b.tmHour ∨ a.tmHour = b.tmHour ∧
            (a.tmMin < b.tmMin ∨ a.tmMin = b.tmMin ∧ a.tmSec < b.tmSec)))) := by
  show a.key < b.key ↔ _
  simp only [Tm.key, Prod.Lex.toLex_lt_toLex]

/-- The year has four digits, none of them lost. -/
def FourDigitYear (tm : Tm) : Prop := 0 ≤ tm.tmYear + 1900 ∧ tm.tmYear + 1900 ≤ 9999

/-- The name of a photo in its folder. -/
def photoName (tm : Tm) : List Char := filePrefix ++ '_' :: timeName tm

theorem fileName_eq (folder : Option (List Char)) (tm : Tm) :
    fileName folder tm = cString folder ++ '/' :: photoName tm := by
  unfold fileName photoName
  rw [List.append_assoc, List.cons_append]

/-- A separator and a field of two digits, before the rest of a name. -/
theorem field_lt (c : Char) {m n : Nat} (hm : m < 100) (hn : n < 100) {s t : List Char} :
    (c :: Printf.zeroPad 2 m) ++ s < (c :: Printf.zeroPad 2 n) ++ t ↔ m < n ∨ m = n ∧ s < t := by
  have hlen : (Printf.zeroPad 2 m).length = (Printf.zeroPad 2 n).length := by
    rw [length_twoDigits hm, length_twoDigits hn]
  rw [List.cons_append, List.cons_append, List.cons_lt_cons_iff,
    append_lt_append hlen, Printf.zeroPad_lt (by decide) hm hn, Printf.zeroPad_inj]
  simp

/-- **The names of photos are in the order of their times.** -/
theorem photoName_lt {a b : Tm} (ha : FourDigitYear a) (hb : FourDigitYear b) :
    photoName a < photoName b ↔ a < b := by
  obtain ⟨hmon, hmday, hhour, hmin, hsec⟩ := a.twoDigits
  obtain ⟨hmon', hmday', hhour', hmin', hsec'⟩ := b.twoDigits
  obtain ⟨ha0, ha⟩ := ha
  obtain ⟨hb0, hb⟩ := hb
  have hyear : Printf.zeroPadInt 4 (a.tmYear + 1900) = Printf.zeroPad 4 (a.tmYear + 1900).natAbs :=
    if_neg (by omega)
  have hyear' : Printf.zeroPadInt 4 (b.tmYear + 1900) = Printf.zeroPad 4 (b.tmYear + 1900).natAbs :=
    if_neg (by omega)
  have hwidth : (Printf.zeroPad 4 (a.tmYear + 1900).natAbs).length =
      (Printf.zeroPad 4 (b.tmYear + 1900).natAbs).length := by
    rw [Printf.length_zeroPad (by decide) (by omega), Printf.length_zeroPad (by decide) (by omega)]
  unfold photoName timeName
  rw [append_lt_append rfl, List.cons_lt_cons_iff, hyear, hyear']
  simp only [List.append_assoc]
  -- field by field, from the year to the second; the ending is the same
  rw [append_lt_append hwidth, Printf.zeroPad_lt (by decide) (by omega) (by omega),
    Printf.zeroPad_inj, field_lt '-' hmon hmon', field_lt '-' hmday hmday',
    field_lt '_' hhour hhour', field_lt ':' hmin hmin', field_lt ':' hsec hsec', Tm.lt_iff]
  simp only [lt_irrefl, and_false, or_false, false_or, true_and]
  omega

/-! ## 3. The latest photo -/

/-- What the listing selects: of the names that begin with `FILE_PREFIX` the greatest. -/
theorem lastFilePath_eq {s : ViewInfo} {folder : List Char}
    (hfolder : s.mediaContentFolder = some folder)
    {readdir : List Char → Option (List Dirent)} {entries : List Dirent}
    (hread : readdir folder = some entries) {d : Dirent} (hd : d ∈ entries)
    (hbegins : filePrefix <+: d.dName)
    (hmax : ∀ e ∈ entries, filePrefix <+: e.dName → e.dName ≤ d.dName) (filePath : List Char)
    {size : Nat} (hfits : (folder ++ '/' :: d.dName).length < size) :
    mainViewGetLastFilePath readdir filePath size s =
      (folder ++ '/' :: d.dName, (folder ++ '/' :: d.dName).length) := by
  unfold mainViewGetLastFilePath
  rw [hfolder, Option.bind_some, hread]
  cases hscan : scandir (some entries) mainViewImageFileFilter alphasort with
  | none => exact absurd hscan (by simp [scandir])
  | some namelist =>
    have hlast := getLast?_scandir hscan hd ((imageFileFilter_iff d).mpr hbegins)
      fun e he hpass => hmax e he ((imageFileFilter_iff e).mp hpass)
    dsimp only
    rw [hlast]
    exact Prod.ext (Printf.snprintf_fits hfits) rfl

/-- **In a folder whose `IMAGE` entries are the names of photos, in any order and among any other
    entries, the entry selected is the photo of the latest time**; the names of photos compare like
    their times. -/
theorem lastFilePath_latest {s : ViewInfo} {folder : List Char}
    (hfolder : s.mediaContentFolder = some folder)
    {readdir : List Char → Option (List Dirent)} {entries : List Dirent}
    (hread : readdir folder = some entries) {times : List Tm}
    (hyears : ∀ tm ∈ times, FourDigitYear tm) (hne : times ≠ [])
    (hlisted : ∀ d : Dirent, (d ∈ entries ∧ filePrefix <+: d.dName) ↔
      ∃ tm ∈ times, d.dName = photoName tm)
    (filePath : List Char) {size : Nat}
    (hfits : ∀ tm ∈ times, (fileName (some folder) tm).length < size) :
    (∃ latest, IsGreatest {tm | tm ∈ times} latest ∧
        mainViewGetLastFilePath readdir filePath size s =
          (fileName (some folder) latest, (fileName (some folder) latest).length)) ∧
      ∀ a b, FourDigitYear a → FourDigitYear b →
        (strcmp (photoName a) (photoName b) < 0 ↔ a < b) := by
  refine ⟨?_, fun a b ha hb => strcmp_neg.trans (photoName_lt ha hb)⟩
  have hnonempty : times.toFinset.Nonempty := List.toFinset_nonempty_iff times |>.mpr hne
  obtain ⟨hmem, hgreatest⟩ := times.toFinset.isGreatest_max' hnonempty
  generalize times.toFinset.max' hnonempty = latest at hmem hgreatest
  have hlatest : latest ∈ times := by simpa using hmem
  have hle : ∀ tm ∈ times, tm ≤ latest := fun tm htm => hgreatest (by simpa using htm)
  refine ⟨latest, ⟨hlatest, hle⟩, ?_⟩
  obtain ⟨hd, hbegins⟩ := (hlisted ⟨photoName latest⟩).mpr ⟨latest, hlatest, rfl⟩
  have hfits' := hfits latest hlatest
  rw [fileName_eq] at hfits' ⊢
  refine lastFilePath_eq hfolder hread hd hbegins (fun e he hpre => ?_) filePath hfits'
  obtain ⟨tm, htm, hname⟩ := (hlisted e).mp ⟨he, hpre⟩
  rw [hname]
  rcases (hle tm htm).lt_or_eq with hlt | rfl
  · exact ((photoName_lt (hyears tm htm) (hyears latest hlatest)).mpr hlt).le
  · exact le_refl _

/-- Two photos a second apart and a hidden file, the later photo first. -/
theorem lastFilePath_latest_two :
    ∃ latest, IsGreatest {tm | tm ∈ [newYear, newYearNext]} latest ∧
      mainViewGetLastFilePath
          (fun _ => some [⟨photoName newYearNext⟩, ⟨['.']⟩, ⟨photoName newYear⟩]) [] pathMax
          (runApp workingStartup []) =
        (fileName (some ['/', 'm', 'e', 'd', 'i', 'a']) latest,
          (fileName (some ['/', 'm', 'e', 'd', 'i', 'a']) latest).length) :=
  (lastFilePath_latest (s := runApp workingStartup []) rfl rfl
    (by unfold FourDigitYear; decide) (by decide)
    (by
      intro d
      constructor
      · intro hentry
        rcases hentry with ⟨hmem, hpre⟩
        simp only [List.mem_cons, List.not_mem_nil, or_false] at hmem
        rcases hmem with rfl | rfl | rfl
        · exact ⟨newYearNext, by simp, rfl⟩
        · exact absurd hpre (by decide)
        · exact ⟨newYear, by simp, rfl⟩
      · intro hphoto
        rcases hphoto with ⟨tm, htm, hname⟩
        obtain rfl : d = ⟨photoName tm⟩ := congrArg Dirent.mk hname
        simp only [List.mem_cons, List.not_mem_nil, or_false] at htm
        rcases htm with rfl | rfl
        · exact ⟨by simp, by decide⟩
        · exact ⟨by simp, by decide⟩)
    [] (by decide)).1

end SelfCamera
