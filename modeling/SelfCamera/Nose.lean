/-
  File:      SelfCamera/Nose.lean
  Subject:   THE REMEMBERED NOSE: is a head movement judged against the frame before?

  `face_landmark` remembers where the nose was on every frame it processes with motion on, and
  nothing ever forgets it: not the motion button, not a pause, not a list without faces. A position
  with a zero coordinate is taken for none at all.

  * `JudgedAgainst` -- `face_landmark`, whatever the predictor answers on a frame, tells a head
    movement by the distance from a given position; `judgedAgainst_iff` -- from which one it does;
  * `noseEvents` -- what an event has to do with the nose: a record beside the application;
  * `NoseFresh` -- the judgement is against the call before, and nothing else;
  * `Steady` -- the records that make it so; **`noseFresh_iff`** -- the runs.
-/
import SelfCamera.Writes
import Mathlib.Data.List.TakeWhile

namespace SelfCamera

/-! ## 1. The judgement -/

/-- Is the nose further from `last` than a twelfth of the face? From no position it is not. -/
def movedFrom (last : Option (Int × Int)) (shape : FullObjectDetection) (face : Rectangle) :
    Bool :=
  match last with
  | none => false
  | some nose => magnitude ((shape.part 33).x - nose.1) > face.width.tdiv 12

/-- **The head movement on this frame is judged against `last`**: whatever the predictor answers on
    it, `face_landmark` moves the selection exactly if the nose is further from `last` than a
    twelfth of the first face. -/
def JudgedAgainst (last : Option (Int × Int)) (frame : Frame) (s : ViewInfo) : Prop :=
  ∀ sp, (faceLandmark sp frame s.faces.length s).1.sticker =
    if movedFrom last (firstShape sp frame s) (firstFace s) then (advanceSticker s).sticker
    else s.sticker

/-- `s_info.nose[0] != 0 && s_info.nose[1] != 0`: is there a position to compare with? -/
def compares (s : Controls) : Bool := s.nose.1 != 0 && s.nose.2 != 0

/-- The position `face_landmark` compares with. -/
def Controls.remembered (s : Controls) : Option (Int × Int) :=
  if compares s then some s.nose else none

theorem headMoved_eq (shape : FullObjectDetection) (face : Rectangle) (s : Controls) :
    headMoved shape face s = movedFrom s.remembered shape face := by
  unfold headMoved movedFrom Controls.remembered compares
  cases s.nose.1 != 0 && s.nose.2 != 0 <;> rfl

/-- What `face_landmark` does to the selection where it evaluates the gesture branch. -/
theorem faceLandmark_sticker {frame : Frame} {s : ViewInfo} (hj : gestureJudged frame s = true)
    (sp : ShapePredictor) :
    (faceLandmark sp frame s.faces.length s).1.sticker =
      if headMoved (firstShape sp frame s) (firstFace s) s.toControls then
        (advanceSticker s).sticker
      else s.sticker := by
  simp only [gestureJudged, Bool.and_eq_true, Bool.not_eq_true', List.isEmpty_eq_false_iff,
    beq_iff_eq, bne_iff_ne] at hj
  obtain ⟨⟨⟨⟨-, hfaces⟩, hy⟩, hmotion⟩, htimer⟩ := hj
  have hcount : (0 : Int) < s.faces.length := Int.natCast_pos.mpr (List.length_pos_iff.mpr hfaces)
  have hsticker : (advanceSticker s).sticker = advanced s.sticker :=
    congrArg Controls.sticker (advanceSticker_eq s).1
  obtain ⟨hgesture, -, -⟩ := gesture_eq (firstShape sp frame s) (firstFace s) (tick s)
  have hwritten := congrArg Controls.sticker hgesture
  rw [tick_eq] at hwritten
  rw [faceLandmark_state sp frame hcount, if_neg (not_not.mpr hy), if_pos hmotion, hsticker,
    tick_eq]
  refine hwritten.trans ?_
  dsimp only
  rw [htimer]
  rfl

/-! Two positions that are always told alike have the same column. -/

/-- A nose in the column `x`. -/
def noseAt (x : Int) : FullObjectDetection := ⟨List.replicate 68 ⟨x, 0⟩⟩

theorem movedFrom_noseAt (nose : Int × Int) (x : Int) (face : Rectangle) :
    movedFrom (some nose) (noseAt x) face =
      decide (magnitude (x - nose.1) > face.width.tdiv 12) := rfl

theorem twelfth_nonneg (face : Rectangle) : 0 ≤ face.width.tdiv 12 := by
  refine Int.tdiv_nonneg ?_ (by decide)
  unfold Rectangle.width Rectangle.isEmpty
  split
  · exact Int.le_refl 0
  · rename_i hempty
    simp only [Bool.or_eq_true, decide_eq_true_eq, not_or] at hempty
    omega

/-- A nose that has moved to the right of one position, and not of another further right. -/
theorem movedFrom_right {a b : Int × Int} (h : a.1 < b.1) (face : Rectangle) :
    ∃ shape, movedFrom (some a) shape face = true ∧ movedFrom (some b) shape face = false := by
  have hw := twelfth_nonneg face
  refine ⟨noseAt (b.1 + face.width.tdiv 12), ?_, ?_⟩
  · rw [movedFrom_noseAt, decide_eq_true_eq]
    unfold magnitude
    rw [if_neg (by omega)]
    omega
  · rw [movedFrom_noseAt, decide_eq_false_iff_not]
    unfold magnitude
    rw [if_neg (by omega)]
    omega

theorem movedFrom_far (a : Int × Int) (face : Rectangle) :
    ∃ shape, movedFrom (some a) shape face = true := by
  obtain ⟨shape, hmoved, -⟩ := movedFrom_right (b := (a.1 + 1, 0)) (by omega : a.1 < a.1 + 1) face
  exact ⟨shape, hmoved⟩

theorem movedFrom_inj {a b : Option (Int × Int)} (face : Rectangle)
    (h : ∀ shape, movedFrom a shape face = movedFrom b shape face) :
    a.map Prod.fst = b.map Prod.fst := by
  cases a with
  | none =>
    cases b with
    | none => rfl
    | some m =>
      obtain ⟨shape, hmoved⟩ := movedFrom_far m face
      exact absurd ((h shape).trans hmoved) Bool.false_ne_true
  | some n =>
    cases b with
    | none =>
      obtain ⟨shape, hmoved⟩ := movedFrom_far n face
      exact absurd ((h shape).symm.trans hmoved) Bool.false_ne_true
    | some m =>
      refine congrArg some ?_
      rcases Int.lt_trichotomy n.1 m.1 with hlt | heq | hgt
      · obtain ⟨shape, hmoved, hkept⟩ := movedFrom_right hlt face
        exact absurd (hkept.symm.trans ((h shape).symm.trans hmoved)) Bool.false_ne_true
      · exact heq
      · obtain ⟨shape, hmoved, hkept⟩ := movedFrom_right hgt face
        exact absurd (hkept.symm.trans ((h shape).trans hmoved)) Bool.false_ne_true

/-- **`face_landmark` judges against the position it remembers, and against no other column.** -/
theorem judgedAgainst_iff {frame : Frame} {s : ViewInfo} (hj : gestureJudged frame s = true)
    (last : Option (Int × Int)) :
    JudgedAgainst last frame s ↔ last.map Prod.fst = s.remembered.map Prod.fst := by
  have hsticker (sp : ShapePredictor) := faceLandmark_sticker hj sp
  simp only [headMoved_eq] at hsticker
  constructor
  · intro hjudged
    refine movedFrom_inj (firstFace s) fun shape => ?_
    have hboth := (hsticker fun _ _ => shape).symm.trans (hjudged fun _ _ => shape)
    have hne : (advanceSticker s).sticker ≠ s.sticker := by
      rw [(advanceSticker_eq s).1]
      exact advanced_ne s.sticker
    have hshape : firstShape (fun _ _ => shape) frame s = shape := rfl
    rw [hshape] at hboth
    cases hmoved : movedFrom s.remembered shape (firstFace s) <;>
      cases hlast : movedFrom last shape (firstFace s) <;> simp_all
  · intro hcolumn sp
    have hmoved (shape : FullObjectDetection) (face : Rectangle) :
        movedFrom last shape face = movedFrom s.remembered shape face := by
      cases last <;> cases hr : s.remembered <;> rw [hr] at hcolumn <;>
        simp_all [movedFrom]
    rw [hsticker sp, hmoved]

/-! ## 2. The record of the events -/

/-- What can happen to the nose. -/
inductive NoseEvent where
  /-- `face_landmark` has processed a frame with motion on, and recorded this position -/
  | recorded (nose : Int × Int)
  /-- `face_landmark` has processed a frame with motion off -/
  | passed
  /-- motion was switched off, `view_pause` ran, or a frame came without a face -/
  | interrupted
  deriving DecidableEq

/-- Does the capture of this frame call `view_pause`? -/
def capturePauses (s : ViewInfo) (frame : Frame) (env : FrameEnv) : Bool :=
  takes s frame && s.cameraEnabled && captureRequested s frame env

/-- What an event is to the nose, the newest first: on a frame the capture comes after the faces. -/
def noseEvents (s : ViewInfo) : Event → List NoseEvent
  | .frame fr env =>
    (if capturePauses s fr env then [.interrupted] else []) ++
      (if stickerFrame s fr && processes fr s then
        [if s.motion ≠ 0 then .recorded (seenNose env fr s) else .passed]
      else if stickerFrame s fr && s.faces.isEmpty then [.interrupted] else [])
  | .motionButton => if (mainViewMotionButtonCb s).motion = 0 then [.interrupted] else []
  | .pause => [.interrupted]
  | _ => []

/-- The record, the newest first. -/
def observeNose (s : ViewInfo) (record : List NoseEvent) (e : Event) : List NoseEvent :=
  noseEvents s e ++ record

/-- The application and the record beside it. -/
def noseStep : ViewInfo × List NoseEvent → Event → ViewInfo × List NoseEvent :=
  Run.watched step observeNose

/-- Start-up, with nothing recorded. -/
def noseCreate (cfg : Startup) : ViewInfo × List NoseEvent := (viewCreate cfg, [])

/-- The application under observation is the application. -/
theorem exec_noseStep (cfg : Startup) (es : List Event) :
    (Run.exec noseStep (noseCreate cfg) es).1 = runApp cfg es :=
  Run.exec_watched observeNose (noseCreate cfg) es

/-- What the last call of `face_landmark` that processed its frame recorded. -/
def previous : List NoseEvent → Option (Int × Int)
  | [] => none
  | .recorded nose :: _ => some nose
  | .passed :: _ => none
  | .interrupted :: before => previous before

/-- The last position recorded. -/
def lastRecorded (record : List NoseEvent) : Option (Int × Int) :=
  record.findSome? fun
    | .recorded nose => some nose
    | _ => none

/-- What has happened since. -/
def sinceRecorded (record : List NoseEvent) : List NoseEvent :=
  record.takeWhile fun
    | .recorded _ => false
    | _ => true

/-- **Where the gesture branch is evaluated, the head movement is judged against what the last call
    that processed a frame recorded, if it recorded one; and not against a position from before an
    interruption.** -/
def NoseFresh (a : ViewInfo × List NoseEvent) : Event → Prop
  | .frame fr _ => stickerFrame a.1 fr = true → gestureJudged fr a.1 = true →
    JudgedAgainst (previous a.2) fr a.1 ∧
      (.interrupted ∈ sinceRecorded a.2 → JudgedAgainst none fr a.1)
  | _ => True

/-- **The records a fresh judgement needs**: no position has been recorded; or nothing has happened
    since the last one was, and it lies on neither edge of the image; or it does lie on one, and a
    frame has been processed with motion off since. -/
def Steady (record : List NoseEvent) : Prop :=
  ∀ nose, lastRecorded record = some nose →
    (nose.1 ≠ 0 ∧ nose.2 ≠ 0 ∧ sinceRecorded record = []) ∨
      ((nose.1 = 0 ∨ nose.2 = 0) ∧ .passed ∈ sinceRecorded record)

/-- Before every frame on which the gesture branch is evaluated the record is steady. -/
def JudgedSteady (a : ViewInfo × List NoseEvent) : Event → Prop
  | .frame fr _ => stickerFrame a.1 fr = true → gestureJudged fr a.1 = true → Steady a.2
  | _ => True

/-! ## 3. Records -/

theorem lastRecorded_append (later before : List NoseEvent) :
    lastRecorded (later ++ before) = (lastRecorded later).or (lastRecorded before) :=
  List.findSome?_append

/-- The last call recorded the last position, unless a frame has been processed without. -/
theorem previous_eq (record : List NoseEvent) :
    previous record = if .passed ∈ sinceRecorded record then none else lastRecorded record := by
  induction record with
  | nil => rfl
  | cons e before ih =>
    cases e with
    | recorded nose => rfl
    | passed => exact (if_pos List.mem_cons_self).symm
    | interrupted =>
      have hsince : sinceRecorded (.interrupted :: before) = .interrupted :: sinceRecorded before :=
        rfl
      have hpassed : .passed ∈ NoseEvent.interrupted :: sinceRecorded before ↔
          .passed ∈ sinceRecorded before := by simp
      rw [hsince, if_congr hpassed rfl rfl]
      exact ih

/-- Since the last position was recorded none has been. -/
theorem sinceRecorded_eq_nil {record : List NoseEvent} :
    sinceRecorded record = [] ↔
      .passed ∉ sinceRecorded record ∧ .interrupted ∉ sinceRecorded record := by
  constructor
  · intro h
    rw [h]
    exact ⟨List.not_mem_nil, List.not_mem_nil⟩
  · intro hnone
    refine List.eq_nil_iff_forall_not_mem.mpr fun e he => ?_
    cases e with
    | recorded nose => exact absurd (List.mem_takeWhile_imp he) Bool.false_ne_true
    | passed => exact hnone.1 he
    | interrupted => exact hnone.2 he

/-- What the application remembers of a record: the last position, if the test takes it for one. -/
def rememberedOf (record : List NoseEvent) : Option (Int × Int) :=
  (lastRecorded record).filter fun nose => nose.1 != 0 && nose.2 != 0

/-- **Where the position remembered is the one a fresh judgement uses.** -/
theorem steady_iff (record : List NoseEvent) :
    ((previous record).map Prod.fst = (rememberedOf record).map Prod.fst ∧
        (.interrupted ∈ sinceRecorded record →
          none = (rememberedOf record).map Prod.fst)) ↔ Steady record := by
  unfold Steady rememberedOf
  rw [previous_eq, sinceRecorded_eq_nil]
  cases hlast : lastRecorded record with
  | none => simp
  | some nose =>
    by_cases hedge : nose.1 = 0 ∨ nose.2 = 0
    · have htest : (nose.1 != 0 && nose.2 != 0) = false := by
        rcases hedge with h | h <;> simp [h]
      by_cases hpassed : .passed ∈ sinceRecorded record
      · simp [Option.filter, htest, hedge, hpassed]
      · -- the position is not remembered, though the last call recorded it
        refine iff_of_false (fun h => ?_) fun h => ?_
        · simp [Option.filter, htest, hpassed] at h
        · rcases h nose rfl with hoff | hon
          · exact hedge.elim hoff.1 hoff.2.1
          · exact hpassed hon.2
    · obtain ⟨hx, hy⟩ := not_or.mp hedge
      have htest : (nose.1 != 0 && nose.2 != 0) = true := by simp [hx, hy]
      by_cases hpassed : .passed ∈ sinceRecorded record <;>
        by_cases hinterrupted : .interrupted ∈ sinceRecorded record <;>
        simp [Option.filter, htest, hx, hy, hpassed, hinterrupted]

/-! ## 4. Runs -/

/-- An event records what it writes to `s_info.nose`. -/
theorem step_nose (s : ViewInfo) (e : Event) :
    (step s e).nose = (lastRecorded (noseEvents s e)).getD s.nose := by
  have hinterrupted (b : Prop) [Decidable b] :
      lastRecorded (if b then [.interrupted] else []) = none := by
    split <;> rfl
  rw [step_toControls]
  cases e with
  | frame fr env =>
    dsimp only [written, noseEvents]
    rw [lastRecorded_append, hinterrupted, Option.none_or]
    cases stickerFrame s fr && processes fr s with
    | true =>
      by_cases hm : s.motion = 0
      · simp [hm, lastRecorded]
      · simp [hm, lastRecorded]
    | false =>
      rw [if_neg Bool.false_ne_true, hinterrupted]
      rfl
  | motionButton =>
    dsimp only [written, noseEvents]
    rw [hinterrupted]
    rfl
  | stickerButton =>
    dsimp only [written, noseEvents]
    split <;> rfl
  | _ => rfl

/-- The application remembers the last position recorded. -/
def NoseAgrees (a : ViewInfo × List NoseEvent) : Prop :=
  a.1.nose = (lastRecorded a.2).getD (0, 0)

theorem noseAgrees_step {a : ViewInfo × List NoseEvent} (h : NoseAgrees a) (e : Event) :
    NoseAgrees (noseStep a e) := by
  obtain ⟨s, record⟩ := a
  have hnose : s.nose = (lastRecorded record).getD (0, 0) := h
  show (step s e).nose = (lastRecorded (noseEvents s e ++ record)).getD (0, 0)
  rw [step_nose, lastRecorded_append, hnose]
  cases lastRecorded (noseEvents s e) <;> rfl

theorem NoseAgrees.remembered {a : ViewInfo × List NoseEvent} (h : NoseAgrees a) :
    a.1.remembered = rememberedOf a.2 := by
  unfold Controls.remembered compares rememberedOf
  rw [h]
  cases lastRecorded a.2 with
  | none => rfl
  | some nose => rfl

/-- So the judgement is fresh exactly where the record is steady. -/
theorem noseFresh_event {a : ViewInfo × List NoseEvent} (h : NoseAgrees a) (e : Event) :
    NoseFresh a e ↔ JudgedSteady a e := by
  cases e with
  | frame fr env =>
    refine imp_congr_right fun _ => imp_congr_right fun hj => ?_
    rw [judgedAgainst_iff hj, judgedAgainst_iff hj, h.remembered]
    exact steady_iff a.2
  | _ => exact Iff.rfl

/-- Start-up remembers no nose. -/
theorem noseAgrees_noseCreate (cfg : Startup) : NoseAgrees (noseCreate cfg) := by
  obtain ⟨enabled, hctl⟩ := viewCreate_toControls cfg
  exact congrArg Controls.nose hctl

/-- **A run judges every head movement against the frame before exactly when its record is steady
    wherever the gesture branch is evaluated** -- whatever camera calls fail. -/
theorem noseFresh_iff (cfg : Startup) (es : List Event) :
    Run.Along noseStep NoseFresh (noseCreate cfg) es ↔
      Run.Along noseStep JudgedSteady (noseCreate cfg) es :=
  Run.along_congr (I := NoseAgrees) (fun _ e h => noseAgrees_step h e)
    (fun _ e h => noseFresh_event h e) (noseAgrees_noseCreate cfg) es

/-- Motion on, a face, a frame that records the nose; motion off for seven frames, and on again. -/
def staleRun : List Event :=
  [.enableSticker, .stickerButton, .motionButton, .facesDetected [⟨0, 140, 4, 4⟩],
    .frame (evenFrame 0 128) (standingClock 0), .motionButton] ++
    List.replicate 7 (.frame (evenFrame 0 128) (standingClock 0)) ++ [.motionButton]

/-- The last seven calls have recorded nothing, and yet the nose of the next frame, two columns from
    where it was before motion was switched off, moves the selection. -/
theorem staleRun_compares :
    ¬ NoseFresh (Run.exec noseStep (noseCreate workingStartup) staleRun)
      (.frame (evenFrame 1 128) (standingClock 0)) := by
  intro h
  have hfresh := h (by decide +kernel) (by decide +kernel)
  exact absurd (hfresh.1 turningHead) (by decide +kernel)

end SelfCamera
