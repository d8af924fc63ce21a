/-
  File:      SelfCamera/Race.lean
  Subject:   THE FACE LIST BETWEEN TWO CALLBACKS: does `face_landmark` read past its end?

  `_camera_face_detected_cb` may run beside `_sticker_preview_callback`. The preview callback copies
  the list and takes the length of the copy, and then reads the elements from the list itself; the
  face callback empties that list before it fills it again. Elsewhere in this development the face
  callback is one event; here it is taken apart into its steps.

  * `faceReads` -- the elements `face_landmark` reads; `faceLandmarkReading` -- `face_landmark` with
    a record of its reads, and `faceReads_eq` -- these are they;
  * `Race`, `raceStep` -- one run of the preview callback, any number of face callbacks;
  * `RaceHistory` -- an observer: has the list been emptied since the copy, and how many elements
    has it got since;
  * **`reads_inBounds_iff`** -- the schedules without a read past the end;
    `reads_inBounds_alone` -- among them those in which no face callback begins.
-/
import SelfCamera.Nose

namespace SelfCamera

/-! ## 1. The reads of `face_landmark` -/

/-- The indices one round of `face_landmark` reads, in order: for the predictor, and where the
    gestures are judged for the width, if there is a nose to compare with, and for the height. -/
def roundReads (s : Controls) (i : Nat) : List Nat :=
  if s.motion ≠ 0 ∧ i = 0 ∧ s.timer = 8 then
    if compares s then [i, i, i] else [i, i]
  else [i]

/-- The indices `face_landmark` reads, in order. -/
def faceReads (frame : Frame) (count : Nat) (s : ViewInfo) : List Nat :=
  if frame.ySize ≠ frame.width * frame.height then []
  else (List.range count).flatMap (roundReads (tick s).toControls)

/-- `headMoved`, recording its read of the list: for the width, once there is a nose. -/
def headMovedReading (shape : FullObjectDetection) (i : Nat) (s : ViewInfo) : Bool × List Nat :=
  if s.nose.1 != 0 && s.nose.2 != 0 then
    (magnitude ((shape.part 33).x - s.nose.1) >
      (s.faces.getD i ⟨0, 0, 0, 0⟩).width.tdiv 12, [i])
  else (false, [])

/-- The gesture branch, recording its reads of the list, in order. -/
def gestureReading (shape : FullObjectDetection) (i : Nat) (s : ViewInfo) :
    ViewInfo × List Nat :=
  let (s, reads) : ViewInfo × List Nat :=
    if s.timer = 8 then
      let (moved, reads) := headMovedReading shape i s
      let s := if moved then advanceSticker s else s
      let face := s.faces.getD i ⟨0, 0, 0, 0⟩
      (if mouthOpen shape face then { s with flagCapturing := true } else s, reads ++ [i])
    else (s, [])
  ({ s with nose := ((shape.part 33).x, (shape.part 33).y) }, reads)

/-- One round of the second loop, recording its reads of the list. -/
def landmarkRoundReading (sp : ShapePredictor) (img : Array2d) (i : Int)
    (r : (ViewInfo × Frame) × List Nat) : (ViewInfo × Frame) × List Nat :=
  let ((s, frame), reads) := r
  let shape := sp img (s.faces.getD i.toNat ⟨0, 0, 0, 0⟩)
  let (s, judged) := if s.motion ≠ 0 ∧ i = 0 then gestureReading shape i.toNat s else (s, [])
  ((s, drawSticker s.sticker frame shape s.imgarr), reads ++ i.toNat :: judged)

/-- `face_landmark`, recording every index of the list it reads. -/
def faceLandmarkReading (sp : ShapePredictor) (frame : Frame) (count : Int) (s : ViewInfo) :
    (ViewInfo × Frame) × List Nat :=
  if frame.ySize ≠ frame.width * frame.height then ((s, frame), [])
  else Loop.forLt count (landmarkRoundReading sp (rotateImage frame)) ((tick s, frame), [])

theorem headMovedReading_eq (shape : FullObjectDetection) (i : Nat) (s : ViewInfo) :
    headMovedReading shape i s =
      (headMoved shape (s.faces.getD i ⟨0, 0, 0, 0⟩) s.toControls,
        if compares s.toControls then [i] else []) := by
  unfold headMovedReading headMoved compares
  cases s.nose.1 != 0 && s.nose.2 != 0 <;> rfl

theorem gestureReading_eq (shape : FullObjectDetection) (i : Nat) (s : ViewInfo) :
    gestureReading shape i s =
      (gesture shape (s.faces.getD i ⟨0, 0, 0, 0⟩) s,
        if s.timer = 8 then (if compares s.toControls then [i, i] else [i]) else []) := by
  -- a head movement leaves the list as it is
  have hfaces : (if headMoved shape (s.faces.getD i ⟨0, 0, 0, 0⟩) s.toControls then
      advanceSticker s else s).faces = s.faces := by
    split
    · exact (advanceSticker_eq s).2.2
    · rfl
  unfold gestureReading gesture
  dsimp only
  by_cases htimer : s.timer = 8
  · rw [if_pos htimer, if_pos htimer, if_pos htimer, headMovedReading_eq]
    dsimp only
    rw [hfaces]
    cases compares s.toControls <;> rfl
  · rw [if_neg htimer, if_neg htimer, if_neg htimer]

/-- The reads of a round are the one for the predictor and those of the gesture branch. -/
theorem roundReads_split (s : ViewInfo) (i : Nat) :
    roundReads s.toControls i = i ::
      if s.motion ≠ 0 ∧ (i : Int) = 0 then
        (if s.timer = 8 then (if compares s.toControls then [i, i] else [i]) else [])
      else [] := by
  have hzero : (i : Int) = 0 ↔ i = 0 := Int.natCast_eq_zero
  unfold roundReads
  rw [if_congr (and_congr_right fun _ => hzero) rfl rfl]
  by_cases hfirst : s.motion ≠ 0 ∧ i = 0
  · by_cases htimer : s.timer = 8
    · rw [if_pos hfirst, if_pos htimer, if_pos ⟨hfirst.1, hfirst.2, htimer⟩]
      split <;> rfl
    · rw [if_pos hfirst, if_neg htimer, if_neg fun h => htimer h.2.2]
  · rw [if_neg hfirst, if_neg fun h => hfirst ⟨h.1, h.2.1⟩]

/-- The record changes nothing, and a round records the reads of a round. -/
theorem landmarkRoundReading_eq (sp : ShapePredictor) (img : Array2d) (i : Nat)
    (r : (ViewInfo × Frame) × List Nat) :
    landmarkRoundReading sp img i r =
      (landmarkRound sp img i r.1, r.2 ++ roundReads r.1.1.toControls i) := by
  obtain ⟨⟨s, frame⟩, reads⟩ := r
  unfold landmarkRoundReading landmarkRound
  dsimp only
  rw [roundReads_split, Int.toNat_natCast, gestureReading_eq]
  split <;> rfl

theorem faceLandmarkReading_fst (sp : ShapePredictor) (frame : Frame) (count : Nat)
    (s : ViewInfo) : (faceLandmarkReading sp frame count s).1 = faceLandmark sp frame count s := by
  unfold faceLandmarkReading faceLandmark
  split
  · rfl
  · refine Loop.forLt_image Prod.fst (fun i r hi _ => ?_) ((tick s, frame), [])
    obtain ⟨k, rfl⟩ := Int.eq_ofNat_of_zero_le hi
    rw [landmarkRoundReading_eq]

/-- **The indices `face_landmark` reads are `faceReads`.** -/
theorem faceReads_eq (sp : ShapePredictor) (frame : Frame) (count : Nat) (s : ViewInfo) :
    (faceLandmarkReading sp frame count s).2 = faceReads frame count s := by
  unfold faceLandmarkReading faceReads
  split
  · rfl
  · have hlen : (count : Int) = (List.range count).length := by rw [List.length_range]
    rw [hlen]
    -- a round after the first one reads its element once, whatever the first has left
    refine (Loop.forLt_foldl (I := fun k r => k = 0 → r.1.1 = tick s) (List.range count)
      (fun r : (ViewInfo × Frame) × List Nat => r.2)
      (fun reads i => reads ++ roundReads (tick s).toControls i)
      (fun k r _ _ _ hk => absurd hk (by omega)) (fun k hk r hr => ?_) fun _ => rfl).trans ?_
    · rw [landmarkRoundReading_eq, List.getElem_range]
      dsimp only
      by_cases hzero : k = 0
      · rw [hr (Int.natCast_eq_zero.mpr hzero)]
      · unfold roundReads
        rw [if_neg fun h => hzero h.2.1, if_neg fun h => hzero h.2.1]
    · rw [List.flatMap_eq_foldl]

/-! ## 2. The steps of the two callbacks -/

/-- Where the preview callback stands. -/
inductive Reader where
  | start
  /-- the list has been copied to `buf` -/
  | copied (buf : List Rectangle)
  /-- these reads are left -/
  | reading (is : List Nat)

/-- Its next step: the copy, the size of the copy, or one read. -/
def readerStep (frame : Frame) (s : ViewInfo) (faces : List Rectangle) : Reader → Reader
  | .start => if frame.supported && s.flagFacerunning then .copied faces else .reading []
  | .copied buf => .reading (faceReads frame buf.length s)
  | .reading is => .reading is.tail

/-- The list, what the running face callback still has to push, and the preview callback. -/
structure Race where
  faces : List Rectangle
  pending : List Rectangle
  reader : Reader

/-- One step of one of the two callbacks. -/
inductive RaceStep where
  /-- the framework calls the face callback, which empties the list; one call at a time -/
  | facesDetected (faces : List CameraDetectedFace)
  /-- `s_info.faces.push_back(face)` -/
  | pushBack
  /-- the next step of the preview callback -/
  | preview

/-- **One step of the interleaving.** -/
def raceStep (frame : Frame) (s : ViewInfo) (r : Race) : RaceStep → Race
  | .facesDetected faces =>
    if r.pending = [] then { r with faces := [], pending := faces.map faceRectangle } else r
  | .pushBack =>
    match r.pending with
    | [] => r
    | face :: rest => { r with faces := r.faces ++ [face], pending := rest }
  | .preview => { r with reader := readerStep frame s r.faces r.reader }

/-- The steps of one call of the face callback, with nothing between them, do what
    `_camera_face_detected_cb` does in one event. -/
theorem callback_steps (frame : Frame) (s : ViewInfo) (r : Race) (hidle : r.pending = [])
    (faces : List CameraDetectedFace) :
    Run.exec (raceStep frame s) r
        (.facesDetected faces :: List.replicate faces.length .pushBack) =
      { r with faces := (cameraFaceDetectedCb faces s).faces } := by
  have hpush (rest done : List Rectangle) :
      Run.exec (raceStep frame s) ⟨done, rest, r.reader⟩ (List.replicate rest.length .pushBack) =
        ⟨done ++ rest, [], r.reader⟩ := by
    induction rest generalizing done with
    | nil => simp
    | cons face rest ih =>
      rw [List.length_cons, List.replicate_succ, Run.exec_cons]
      exact (ih (done ++ [face])).trans (by simp)
  have hall := hpush (faces.map faceRectangle) []
  rw [List.length_map, List.nil_append] at hall
  rw [Run.exec_cons]
  simp only [raceStep, if_pos hidle]
  rw [hall, hidle]
  rfl

/-! ## 3. Reads below a length -/

/-- A round reads its own element. -/
theorem roundReads_eq {s : Controls} {i k : Nat} (h : k ∈ roundReads s i) : k = i := by
  unfold roundReads at h
  split at h
  · split at h <;> simpa using h
  · simpa using h

/-- `face_landmark` reads below the count it is given. -/
theorem faceReads_lt {frame : Frame} {count : Nat} {s : ViewInfo} {k : Nat}
    (h : k ∈ faceReads frame count s) : k < count := by
  unfold faceReads at h
  split at h
  · exact absurd h List.not_mem_nil
  · obtain ⟨i, hi, hk⟩ := List.mem_flatMap.mp h
    rw [roundReads_eq hk]
    exact List.mem_range.mp hi

/-- The index the next step reads, if it is a read. -/
def Reader.next : Reader → Option Nat
  | .reading (i :: _) => some i
  | _ => none

/-- What is left to read is below `n`. -/
def Reader.Within (n : Nat) : Reader → Prop
  | .start => True
  | .copied buf => buf.length ≤ n
  | .reading is => ∀ i ∈ is, i < n

theorem Reader.Within.mono {n m : Nat} (hnm : n ≤ m) {r : Reader} (h : r.Within n) :
    r.Within m := by
  cases r with
  | start => trivial
  | copied buf => exact Nat.le_trans h hnm
  | reading is => exact fun i hi => Nat.lt_of_lt_of_le (h i hi) hnm

theorem Reader.Within.next {n : Nat} {r : Reader} (h : r.Within n) {i : Nat}
    (hi : r.next = some i) : i < n := by
  cases r with
  | start => exact absurd hi (by simp [Reader.next])
  | copied buf => exact absurd hi (by simp [Reader.next])
  | reading is =>
    cases is with
    | nil => exact absurd hi (by simp [Reader.next])
    | cons k rest =>
      obtain rfl : k = i := Option.some.inj hi
      exact h k List.mem_cons_self

/-- On a list of `n` elements the preview callback stays within it: the copy has its length. -/
theorem readerStep_within (frame : Frame) (s : ViewInfo) {faces : List Rectangle} {r : Reader}
    (h : r.Within faces.length) : (readerStep frame s faces r).Within faces.length := by
  cases r with
  | start =>
    simp only [readerStep]
    split
    · exact Nat.le_refl _
    · exact fun i hi => absurd hi List.not_mem_nil
  | copied buf => exact fun i hi => Nat.lt_of_lt_of_le (faceReads_lt hi) h
  | reading is => exact fun i hi => h i (List.mem_of_mem_tail hi)

/-! ## 4. Schedules -/

/-- What has happened to the list since the preview callback copied it. -/
structure RaceHistory where
  /-- a face callback has emptied it -/
  cleared : Bool
  /-- elements pushed, after that if it was emptied -/
  pushed : Nat

/-- What the observer notes of a step. -/
def observeRace (r : Race) (h : RaceHistory) : RaceStep → RaceHistory
  | .facesDetected _ => if r.pending = [] then ⟨true, 0⟩ else h
  | .pushBack => if r.pending = [] then h else { h with pushed := h.pushed + 1 }
  | .preview =>
    match r.reader with
    | .start => ⟨false, 0⟩
    | _ => h

/-- The race and its observer. -/
def watchedRace (frame : Frame) (s : ViewInfo) :
    Race × RaceHistory → RaceStep → Race × RaceHistory :=
  Run.watched (raceStep frame s) observeRace

/-- The preview callback is about to run; `pending` is left of a face callback that has begun. -/
def raceStart (s : ViewInfo) (pending : List Rectangle) : Race × RaceHistory :=
  (⟨s.faces, pending, .start⟩, ⟨false, 0⟩)

/-- A read of `s_info.faces[i]` has `i` below the length the list has then. -/
def ReadInBounds (a : Race × RaceHistory) : RaceStep → Prop
  | .preview => ∀ i, a.1.reader.next = some i → i < a.1.faces.length
  | _ => True

/-- Where the list has been emptied since the copy, more than `i` elements have been pushed since,
    when `i` is read. -/
def ReadCovered (a : Race × RaceHistory) : RaceStep → Prop
  | .preview => ∀ i, a.1.reader.next = some i → a.2.cleared = true → i < a.2.pushed
  | _ => True

/-- The observer counts what is in the list once it has been emptied; until then the list is no
    shorter than the copy. -/
structure RaceAgrees (a : Race × RaceHistory) : Prop where
  counted : a.2.cleared = true → a.1.faces.length = a.2.pushed
  kept : a.2.cleared = false → a.1.reader.Within a.1.faces.length

theorem raceAgrees_step (frame : Frame) (s : ViewInfo) {a : Race × RaceHistory} (h : RaceAgrees a)
    (t : RaceStep) : RaceAgrees (watchedRace frame s a t) := by
  obtain ⟨⟨faces, pending, reader⟩, hist⟩ := a
  obtain ⟨hcounted, hkept⟩ := h
  cases t with
  | facesDetected fs =>
    cases pending with
    | nil => exact ⟨fun _ => rfl, fun hc => Bool.noConfusion hc⟩
    | cons face rest => exact ⟨hcounted, hkept⟩
  | pushBack =>
    cases pending with
    | nil => exact ⟨hcounted, hkept⟩
    | cons face rest =>
      refine ⟨fun hc => ?_, fun hc => ?_⟩
      · show (faces ++ [face]).length = hist.pushed + 1
        rw [List.length_append, hcounted hc]
        rfl
      · show reader.Within (faces ++ [face]).length
        exact (hkept hc).mono (by simp)
  | preview =>
    cases reader with
    | start =>
      exact ⟨fun hc => Bool.noConfusion hc,
        fun _ => readerStep_within frame s (r := .start) trivial⟩
    | copied buf => exact ⟨hcounted, fun hc => readerStep_within frame s (hkept hc)⟩
    | reading is => exact ⟨hcounted, fun hc => readerStep_within frame s (hkept hc)⟩

/-- Under that a read is in bounds exactly where it is covered. -/
theorem readInBounds_step {a : Race × RaceHistory} (h : RaceAgrees a) (t : RaceStep) :
    ReadInBounds a t ↔ ReadCovered a t := by
  cases t with
  | preview =>
    refine forall_congr' fun i => imp_congr_right fun hi => ?_
    cases hc : a.2.cleared with
    | true =>
      rw [h.counted hc]
      exact ⟨fun hlt _ => hlt, fun hlt => hlt rfl⟩
    | false => exact ⟨fun _ hf => absurd hf (by decide), fun _ => (h.kept hc).next hi⟩
  | facesDetected fs => exact Iff.rfl
  | pushBack => exact Iff.rfl

theorem raceAgrees_start (s : ViewInfo) (pending : List Rectangle) :
    RaceAgrees (raceStart s pending) :=
  ⟨fun hc => Bool.noConfusion hc, fun _ => trivial⟩

/-- **A schedule of one run of the preview callback and any number of face callbacks has no read
    past the end of the list exactly when every read finds the list not emptied since the copy, or
    filled again beyond the index.** -/
theorem reads_inBounds_iff (frame : Frame) (s : ViewInfo) (pending : List Rectangle)
    (ts : List RaceStep) :
    Run.Along (watchedRace frame s) ReadInBounds (raceStart s pending) ts ↔
      Run.Along (watchedRace frame s) ReadCovered (raceStart s pending) ts :=
  Run.along_congr (I := RaceAgrees) (fun _ t h => raceAgrees_step frame s h t)
    (fun _ t h => readInBounds_step h t) (raceAgrees_start s pending) ts

/-- While no face callback begins, every read is in bounds: one that began before may go on. -/
theorem reads_inBounds_alone (frame : Frame) (s : ViewInfo) (pending : List Rectangle)
    {ts : List RaceStep} (halone : ∀ fs, .facesDetected fs ∉ ts) :
    Run.Along (watchedRace frame s) ReadInBounds (raceStart s pending) ts := by
  rw [reads_inBounds_iff]
  have huncleared : (raceStart s pending).2.cleared = false := rfl
  generalize raceStart s pending = a at huncleared
  induction ts generalizing a with
  | nil => trivial
  | cons t ts ih =>
    refine ⟨?_, ih (fun fs hmem => halone fs (List.mem_cons_of_mem _ hmem)) _ ?_⟩
    · cases t with
      | preview => exact fun i _ hc => absurd (huncleared.symm.trans hc) (by decide)
      | facesDetected fs => trivial
      | pushBack => trivial
    · show (observeRace a.1 a.2 t).cleared = false
      cases t with
      | facesDetected fs => exact absurd List.mem_cons_self (halone fs)
      | pushBack =>
        simp only [observeRace]
        split <;> exact huncleared
      | preview =>
        simp only [observeRace]
        split
        · rfl
        · exact huncleared

/-- A sticker is selected and one face is in the list. -/
def oneFace : ViewInfo :=
  runApp workingStartup [.enableSticker, .stickerButton, .facesDetected [⟨0, 140, 4, 4⟩]]

/-- The list is copied, its size taken, the next detection begins: the first read finds nothing. -/
theorem emptied_beforeRead :
    ¬ ReadInBounds
      (Run.exec (watchedRace (evenFrame 0 128) oneFace) (raceStart oneFace [])
        [.preview, .preview, .facesDetected [⟨0, 140, 4, 4⟩]]) .preview := by
  intro h
  have hread := h 0 (by decide)
  exact absurd hread (by decide)

end SelfCamera
