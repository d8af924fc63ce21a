/-
  File:      SelfCamera/Photos.lean
  Subject:   THE NAMES OF THE PHOTOS: when does a capture write over an earlier one?

  The name of a photo is its local time, to the second. Nothing looks whether the file is there.

  * `timeName_inj`, `capturePath_inj` -- different times, different names, as long as the name fits
    into the buffer;
  * `named_run` -- the paths of a run are the names of its clock readings, in order;
  * **`photos_distinct_iff`** -- the runs that lose no photo.
-/
import SelfCamera.Primitive
import Mathlib.Data.List.Dedup

namespace SelfCamera

/-! ## 1. Names -/

/-- The fields after the year take two characters each. -/
theorem length_twoDigits {n : Nat} (h : n < 100) : (Printf.zeroPad 2 n).length = 2 :=
  Printf.length_zeroPad (by omega) h

/-- Every field after the year fits them. -/
theorem Tm.twoDigits (tm : Tm) :
    tm.tmMon + 1 < 100 ∧ tm.tmMday < 100 ∧ tm.tmHour < 100 ∧ tm.tmMin < 100 ∧ tm.tmSec < 100 := by
  have hmon := tm.mon_lt
  have hmday := tm.mday_le
  have hhour := tm.hour_lt
  have hmin := tm.min_lt
  have hsec := tm.sec_le
  omega

/-- **A broken-down time can be read off its name.** -/
theorem timeName_inj {a b : Tm} : timeName a = timeName b ↔ a = b := by
  constructor
  · intro h
    obtain ⟨hmon, hmday, hhour, hmin, hsec⟩ := a.twoDigits
    obtain ⟨hmon', hmday', hhour', hmin', hsec'⟩ := b.twoDigits
    have htwo {m n : Nat} (hm : m < 100) (hn : n < 100) (c : Char) :
        (c :: Printf.zeroPad 2 m).length = (c :: Printf.zeroPad 2 n).length := by
      rw [List.length_cons, List.length_cons, length_twoDigits hm, length_twoDigits hn]
    -- the fields are taken off from the end, where the widths are fixed
    obtain ⟨h, -⟩ := List.append_inj' h rfl
    obtain ⟨h, hs⟩ := List.append_inj' h (htwo hsec hsec' ':')
    obtain ⟨h, hi⟩ := List.append_inj' h (htwo hmin hmin' ':')
    obtain ⟨h, hh⟩ := List.append_inj' h (htwo hhour hhour' '_')
    obtain ⟨h, hd⟩ := List.append_inj' h (htwo hmday hmday' '-')
    obtain ⟨hy, hm⟩ := List.append_inj' h (htwo hmon hmon' '-')
    have hyear : a.tmYear = b.tmYear := by
      have hprinted := Printf.zeroPadInt_inj.mp hy
      omega
    have hmonth : a.tmMon = b.tmMon := by
      have hprinted := Printf.zeroPad_inj.mp (List.cons.inj hm).2
      omega
    exact Tm.ext hyear hmonth (Printf.zeroPad_inj.mp (List.cons.inj hd).2)
      (Printf.zeroPad_inj.mp (List.cons.inj hh).2) (Printf.zeroPad_inj.mp (List.cons.inj hi).2)
      (Printf.zeroPad_inj.mp (List.cons.inj hs).2)
  · rintro rfl
    rfl

/-- The name of a photo fits into the buffer of `_main_view_mycapture_cb`. -/
def NameFits (folder : Option (List Char)) (tm : Tm) : Prop :=
  (fileName folder tm).length < pathMax

theorem capturePath_inj {folder : Option (List Char)} {a b : Tm} (ha : NameFits folder a)
    (hb : NameFits folder b) : capturePath folder a = capturePath folder b ↔ a = b := by
  unfold capturePath
  rw [Printf.snprintf_fits ha, Printf.snprintf_fits hb]
  unfold fileName
  rw [List.append_cancel_left_eq, List.cons.injEq, timeName_inj]
  exact ⟨fun h => h.2, fun h => ⟨rfl, h⟩⟩

/-! ## 2. What a run has written -/

/-- The clock readings of the captures, newest first. -/
def photoTimes : List Action → List Tm
  | [] => []
  | .localtime tm :: before => tm :: photoTimes before
  | _ :: before => photoTimes before

/-- The paths the encoder was given. -/
def photoPaths : List Action → List (List Char)
  | [] => []
  | .encodeJpeg _ path _ :: before => path :: photoPaths before
  | _ :: before => photoPaths before

/-- The paths the encoder has written to. -/
def writtenPaths : List Action → List (List Char)
  | [] => []
  | .encodeJpeg _ path result :: before =>
    if result = 0 then path :: writtenPaths before else writtenPaths before
  | _ :: before => writtenPaths before

/-- An encode that has not returned `IMAGE_UTIL_ERROR_NONE`. -/
def Action.failedEncode : Action → Bool
  | .encodeJpeg _ _ result => result != 0
  | _ => false

/-- Every encode has succeeded. -/
def EncodesSucceed (trace : List Action) : Prop := ∀ a ∈ trace, a.failedEncode = false

instance : DecidablePred EncodesSucceed := fun _ => List.decidableBAll _ _

instance (folder : Option (List Char)) : DecidablePred (NameFits folder) :=
  fun _ => Nat.decLt _ _

theorem writtenPaths_eq {trace : List Action} (h : EncodesSucceed trace) :
    writtenPaths trace = photoPaths trace := by
  induction trace with
  | nil => rfl
  | cons a before ih =>
    have hbefore := ih fun b hmem => h b (List.mem_cons_of_mem a hmem)
    cases a with
    | encodeJpeg frame path result =>
      have hzero : result = 0 := by simpa [Action.failedEncode] using h _ List.mem_cons_self
      simp [writtenPaths, photoPaths, hzero, hbefore]
    | _ => exact hbefore

/-- Every path is the name of a clock reading, in the folder found at start-up. -/
structure Named (folder : Option (List Char)) (s : ViewInfo) : Prop where
  folder_eq : s.mediaContentFolder = folder
  paths_eq : photoPaths s.trace = (photoTimes s.trace).map (capturePath folder)

theorem primitive_named (folder : Option (List Char)) : Primitive (Named folder) where
  invoke _ h := ⟨h.folder_eq, h.paths_eq⟩
  note {s a} h ha := by
    refine ⟨h.folder_eq, ?_⟩
    cases a <;> first | exact h.paths_eq | exact absurd ha (by simp [Action.ofPhoto])
  photo tm frame result h := by
    refine ⟨h.folder_eq, ?_⟩
    rw [h.folder_eq]
    exact congrArg (capturePath folder tm :: ·) h.paths_eq
  controls c h hfixed := ⟨(congrArg Prod.snd hfixed).trans h.folder_eq, h.paths_eq⟩
  faces _ h := ⟨h.folder_eq, h.paths_eq⟩

/-- **The paths of a run are the names of its clock readings, in order.** -/
theorem named_run (cfg : Startup) (es : List Event) : Named cfg.folder (runApp cfg es) := by
  have hinit := (primitive_named cfg.folder).mainViewInitCamera (s := sInfo cfg) ⟨rfl, rfl⟩
  exact (primitive_named cfg.folder).run ⟨hinit.folder_eq, hinit.paths_eq⟩ es

/-! ## 3. Runs that lose no photo -/

/-- **In a run whose encodes succeed and whose names fit, every capture that found a local time has
    written its photo; and no capture has written to a path already written -- the folder holds as
    many photos as there were such captures -- exactly when their local times are pairwise
    different.** A capture without a local time stops before the encoder. -/
theorem photos_distinct_iff (cfg : Startup) (es : List Event)
    (hencode : EncodesSucceed (runApp cfg es).trace)
    (hfits : ∀ tm ∈ photoTimes (runApp cfg es).trace, NameFits cfg.folder tm) :
    (writtenPaths (runApp cfg es).trace).length = (photoTimes (runApp cfg es).trace).length ∧
      ((writtenPaths (runApp cfg es).trace).Nodup ↔ (photoTimes (runApp cfg es).trace).Nodup) ∧
      ((writtenPaths (runApp cfg es).trace).dedup.length =
          (photoTimes (runApp cfg es).trace).length ↔
        (photoTimes (runApp cfg es).trace).Nodup) := by
  have hpaths := (named_run cfg es).paths_eq
  have hinj : ∀ a ∈ photoTimes (runApp cfg es).trace, ∀ b ∈ photoTimes (runApp cfg es).trace,
      capturePath cfg.folder a = capturePath cfg.folder b → a = b :=
    fun a ha b hb h => (capturePath_inj (hfits a ha) (hfits b hb)).mp h
  rw [writtenPaths_eq hencode, hpaths]
  generalize photoTimes (runApp cfg es).trace = times at *
  have hnodup : (times.map (capturePath cfg.folder)).Nodup ↔ times.Nodup :=
    ⟨List.Nodup.of_map _, fun h => List.Nodup.map_on hinj h⟩
  refine ⟨List.length_map (capturePath cfg.folder), hnodup, ?_⟩
  rw [← hnodup, ← List.length_map (capturePath cfg.folder)]
  constructor
  · intro h
    exact List.dedup_eq_self.mp ((List.dedup_sublist _).eq_of_length h)
  · intro h
    rw [List.Nodup.dedup h]

/-- The shutter and a frame, and the same again a second later. -/
def twoPhotos : List Event :=
  [.shutterButton, .frame (evenFrame 0 128) (standingClock 0), .shutterButton,
    .frame (evenFrame 0 128) { standingClock 0 with localtimeR := fun _ => some newYearNext }]

/-- Neither of the two photos is lost. -/
theorem photos_distinct_two :
    (photoTimes (runApp workingStartup twoPhotos).trace).length = 2 ∧
      (writtenPaths (runApp workingStartup twoPhotos).trace).Nodup ∧
      (writtenPaths (runApp workingStartup twoPhotos).trace).dedup.length = 2 := by
  have h := photos_distinct_iff workingStartup twoPhotos (by decide +kernel) (by decide +kernel)
  have htwo : (photoTimes (runApp workingStartup twoPhotos).trace).length = 2 := by decide +kernel
  have hnodup : (photoTimes (runApp workingStartup twoPhotos).trace).Nodup := by decide +kernel
  exact ⟨htwo, h.2.1.mpr hnodup, (h.2.2.mpr hnodup).trans htwo⟩

/-- Two photos within one second: both encodes succeed, and the second writes over the first. -/
theorem sameSecond_overwrites :
    EncodesSucceed (runApp workingStartup
        [.shutterButton, .frame (evenFrame 0 128) (standingClock 0),
          .shutterButton, .frame (evenFrame 0 128) (standingClock 0)]).trace ∧
      ¬ (writtenPaths (runApp workingStartup
        [.shutterButton, .frame (evenFrame 0 128) (standingClock 0),
          .shutterButton, .frame (evenFrame 0 128) (standingClock 0)]).trace).Nodup := by
  constructor <;> decide +kernel

end SelfCamera
