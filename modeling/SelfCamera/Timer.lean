/-
  File:      SelfCamera/Timer.lean
  Subject:   THE TIMER OF THE GESTURES: how often can a gesture act?

  `face_landmark` counts the frames it processes in `s_info.timer`, from 8 down to 0 and round
  again, and looks at the gestures when it comes round, for the first face only. Nothing else
  writes the timer: buttons, pauses and frames that are not processed leave it where it is.

  * `gestureActs` -- has a gesture moved the selection or requested a capture on this frame?
  * `stickerRounds` -- the rounds of one call that change the selection;
  * `GestureHistory`, `observeGestures` -- an observer beside the application: how many frames have
    been processed, and at which of them a gesture acted;
  * **`gestures_rateLimited`** -- every run.
-/
import SelfCamera.Writes

namespace SelfCamera

/-! ## 1. One call -/

/-- A gesture moves the selection on this frame, or requests a capture: one is requested after
    `face_landmark` when none was before. -/
def gestureActs (env : FrameEnv) (frame : Frame) (s : ViewInfo) : Bool :=
  let t := (landmarkIfRunning env frame { s with flagCapturing := false }).1
  t.sticker != s.sticker || t.flagCapturing

/-- **A gesture acts exactly where the head has moved or the mouth is open.** -/
theorem gestureActs_eq (env : FrameEnv) (frame : Frame) (s : ViewInfo) :
    gestureActs env frame s = (headGesture env frame s || mouthGesture env frame s) := by
  have hhead : headGesture env frame { s with flagCapturing := false } =
      headGesture env frame s := rfl
  have hmouth : mouthGesture env frame { s with flagCapturing := false } =
      mouthGesture env frame s := rfl
  unfold gestureActs
  dsimp only
  rw [landmarkIfRunning_writes, hhead, hmouth]
  cases headGesture env frame s with
  | false => simp
  | true => simp [advanced_ne]

/-- A round of the second loop of `face_landmark`, noting its index if it changes the selection. -/
def landmarkRoundLogged (sp : ShapePredictor) (img : Array2d) (i : Int)
    (r : (ViewInfo × Frame) × List Int) : (ViewInfo × Frame) × List Int :=
  let next := landmarkRound sp img i r.1
  (next, if next.1.sticker ≠ r.1.1.sticker then i :: r.2 else r.2)

/-- `face_landmark`, recording the rounds that change the selection. -/
def faceLandmarkLogged (sp : ShapePredictor) (frame : Frame) (count : Int) (s : ViewInfo) :
    (ViewInfo × Frame) × List Int :=
  if frame.ySize ≠ frame.width * frame.height then ((s, frame), [])
  else
    let img := rotateImage frame
    let s := tick s
    Loop.forLt count (landmarkRoundLogged sp img) ((s, frame), [])

/-- The rounds of one call of `face_landmark` that change the selection. -/
def stickerRounds (sp : ShapePredictor) (frame : Frame) (count : Int) (s : ViewInfo) : List Int :=
  (faceLandmarkLogged sp frame count s).2

/-- The record changes nothing. -/
theorem faceLandmarkLogged_fst (sp : ShapePredictor) (frame : Frame) (count : Int)
    (s : ViewInfo) : (faceLandmarkLogged sp frame count s).1 = faceLandmark sp frame count s := by
  unfold faceLandmarkLogged faceLandmark
  split
  · rfl
  · exact Loop.forLt_image Prod.fst (fun i r _ _ => rfl) ((tick s, frame), [])

/-- **One call changes the selection at most once, however many faces it has.** -/
theorem stickerRounds_length (sp : ShapePredictor) (frame : Frame) (count : Int) (s : ViewInfo) :
    (stickerRounds sp frame count s).length ≤ 1 := by
  have hadds (img : Array2d) (i : Int) (r : (ViewInfo × Frame) × List Int) :
      (landmarkRoundLogged sp img i r).2.length ≤ r.2.length + 1 := by
    unfold landmarkRoundLogged
    dsimp only
    split
    · exact Nat.le_refl _
    · exact Nat.le_succ _
  have hlater (img : Array2d) (i : Int) (r : (ViewInfo × Frame) × List Int) (hi : 0 < i) :
      (landmarkRoundLogged sp img i r).2 = r.2 := by
    unfold landmarkRoundLogged
    dsimp only
    rw [landmarkRound_later sp img (Int.ne_of_gt hi)]
    exact if_neg fun hne => hne rfl
  unfold stickerRounds faceLandmarkLogged
  dsimp only
  split
  · exact Nat.zero_le _
  · by_cases hc : 0 < count
    · rw [Loop.forLt_first Prod.snd hc fun i r hi _ => hlater _ i r hi]
      exact hadds _ 0 _
    · rw [Loop.forLt_nonpos (by omega)]
      exact Nat.zero_le _

/-! ## 2. The observer -/

/-- `face_landmark` is called in this event, and the frame passes its check. -/
def processesIn (s : ViewInfo) : Event → Bool
  | .frame fr _ => stickerFrame s fr && processes fr s
  | _ => false

/-- A gesture acts in this event. -/
def actsIn (s : ViewInfo) : Event → Bool
  | .frame fr env => stickerFrame s fr && gestureActs env fr s
  | _ => false

/-- What has been seen of the gestures. -/
structure GestureHistory where
  /-- the calls of `face_landmark` that passed its check -/
  processed : Nat
  /-- for each gesture that acted, the number of these calls by then; the newest first -/
  acted : List Nat

/-- What the observer notes of an event. -/
def observeGestures (s : ViewInfo) (h : GestureHistory) (e : Event) : GestureHistory :=
  let processed := if processesIn s e then h.processed + 1 else h.processed
  ⟨processed, if actsIn s e then processed :: h.acted else h.acted⟩

/-- The application and its observer. -/
def gestureStep : ViewInfo × GestureHistory → Event → ViewInfo × GestureHistory :=
  Run.watched step observeGestures

/-- Start-up, with nothing seen. -/
def gestureCreate (cfg : Startup) : ViewInfo × GestureHistory := (viewCreate cfg, ⟨0, []⟩)

/-- The application under observation is the application. -/
theorem exec_gestureStep (cfg : Startup) (es : List Event) :
    (Run.exec gestureStep (gestureCreate cfg) es).1 = runApp cfg es :=
  Run.exec_watched observeGestures (gestureCreate cfg) es

/-- **A gesture acts in a call that passes the check, and the number of that call is a multiple of
    nine.** -/
def OnNinthCall (a : ViewInfo × GestureHistory) (e : Event) : Prop :=
  actsIn a.1 e = true → processesIn a.1 e = true ∧ 9 ∣ a.2.processed + 1

/-- **The timer is in its range, and any two gestures that acted were nine calls apart.** -/
structure RateLimited (a : ViewInfo × GestureHistory) : Prop where
  timer : 0 ≤ a.1.timer ∧ a.1.timer ≤ 8
  apart : a.2.acted.Pairwise fun later earlier => earlier + 9 ≤ later

/-! ## 3. Runs -/

/-- **Who writes the timer**: a processed frame, and nothing else. -/
theorem step_timer (s : ViewInfo) (e : Event) :
    (step s e).timer = if processesIn s e then ticked s.timer else s.timer := by
  rw [step_toControls]
  cases e with
  | stickerButton =>
    dsimp only [written]
    split <;> rfl
  | _ => rfl

/-- The timer tells how many frames have been processed since it came round last, and gestures
    have acted only when it came round. -/
structure TimerCounts (a : ViewInfo × GestureHistory) : Prop where
  timer : a.1.timer = 8 - (a.2.processed % 9 : Nat)
  ninth : ∀ n ∈ a.2.acted, 9 ∣ n ∧ n ≤ a.2.processed
  apart : a.2.acted.Pairwise fun later earlier => earlier + 9 ≤ later

/-- A gesture acts in a processed frame on which the timer comes round. -/
theorem judged_of_acts {s : ViewInfo} {e : Event} (h : actsIn s e = true) :
    processesIn s e = true ∧ ticked s.timer = 8 := by
  cases e with
  | frame fr env =>
    obtain ⟨hs, hacts⟩ := Bool.and_eq_true_iff.mp h
    rw [gestureActs_eq, headGesture, mouthGesture, ← Bool.and_or_distrib_left] at hacts
    have hj := (Bool.and_eq_true_iff.mp hacts).1
    simp only [gestureJudged, Bool.and_eq_true, beq_iff_eq] at hj
    refine ⟨Bool.and_eq_true_iff.mpr ⟨hs, ?_⟩, hj.2⟩
    simp only [processes, Bool.and_eq_true, beq_iff_eq]
    exact hj.1.1
  | _ => exact absurd h Bool.false_ne_true

/-- **Under the count the timer comes round at every ninth call only.** -/
theorem onNinthCall_event {a : ViewInfo × GestureHistory} (h : TimerCounts a) (e : Event) :
    OnNinthCall a e := by
  intro hacts
  obtain ⟨hp, hround⟩ := judged_of_acts hacts
  have htimer := h.timer
  refine ⟨hp, ?_⟩
  unfold ticked at hround
  split at hround <;> omega

theorem timerCounts_step {a : ViewInfo × GestureHistory} (h : TimerCounts a) (e : Event) :
    TimerCounts (gestureStep a e) := by
  have hninth := onNinthCall_event h e
  obtain ⟨s, hist⟩ := a
  obtain ⟨htimer, hacted, hapart⟩ := h
  have hwritten := step_timer s e
  cases hp : processesIn s e with
  | false =>
    have hquiet : actsIn s e = false := by
      cases ha : actsIn s e with
      | false => rfl
      | true => exact absurd (hp.symm.trans (hninth ha).1) Bool.false_ne_true
    have hseen : observeGestures s hist e = hist := by
      simp [observeGestures, hp, hquiet]
    rw [hp, if_neg Bool.false_ne_true] at hwritten
    show TimerCounts (step s e, observeGestures s hist e)
    rw [hseen]
    exact ⟨hwritten.trans htimer, hacted, hapart⟩
  | true =>
    have hcount : (observeGestures s hist e).processed = hist.processed + 1 := by
      simp [observeGestures, hp]
    have hticked : (step s e).timer = 8 - ((hist.processed + 1) % 9 : Nat) := by
      dsimp only at htimer
      rw [hwritten, hp, if_pos rfl]
      unfold ticked
      split <;> omega
    have hnext : TimerCounts (step s e, ⟨hist.processed + 1, hist.acted⟩) :=
      ⟨hticked, fun n hn => ⟨(hacted n hn).1, Nat.le_succ_of_le (hacted n hn).2⟩, hapart⟩
    cases ha : actsIn s e with
    | false =>
      have hseen : observeGestures s hist e = ⟨hist.processed + 1, hist.acted⟩ := by
        simp [observeGestures, hp, ha]
      show TimerCounts (step s e, observeGestures s hist e)
      rw [hseen]
      exact hnext
    | true =>
      have hseen : observeGestures s hist e =
          ⟨hist.processed + 1, (hist.processed + 1) :: hist.acted⟩ := by
        simp [observeGestures, hp, ha]
      have hnine : 9 ∣ hist.processed + 1 := (hninth ha).2
      show TimerCounts (step s e, observeGestures s hist e)
      rw [hseen]
      refine ⟨hnext.timer, fun n hn => ?_, List.pairwise_cons.mpr ⟨fun n hn => ?_, hapart⟩⟩
      · rcases List.mem_cons.mp hn with rfl | hn
        · exact ⟨hnine, Nat.le_refl _⟩
        · exact hnext.ninth n hn
      · -- two multiples of nine, and the earlier one is smaller
        have hearlier : 9 ∣ n ∧ n ≤ hist.processed := hacted n hn
        show n + 9 ≤ hist.processed + 1
        omega

/-- Start-up sets the timer, and nothing has been processed. -/
theorem timerCounts_gestureCreate (cfg : Startup) : TimerCounts (gestureCreate cfg) := by
  obtain ⟨enabled, hctl⟩ := viewCreate_toControls cfg
  exact ⟨congrArg Controls.timer hctl, fun n hn => absurd hn List.not_mem_nil, List.Pairwise.nil⟩

theorem rateLimited_of_counts {a : ViewInfo × GestureHistory} (h : TimerCounts a) :
    RateLimited a := by
  have htimer := h.timer
  exact ⟨⟨by omega, by omega⟩, h.apart⟩

/-- **In every run the timer stays in its range, gestures act in every ninth processed call only
    and so at least nine processed calls apart, and one call moves the selection at most once** --
    whatever comes in between, and whatever camera calls fail. -/
theorem gestures_rateLimited (cfg : Startup) (es : List Event) :
    Run.All gestureStep RateLimited (gestureCreate cfg) es ∧
      Run.Along gestureStep OnNinthCall (gestureCreate cfg) es ∧
      ∀ sp frame count s, (stickerRounds sp frame count s).length ≤ 1 := by
  have h0 := timerCounts_gestureCreate cfg
  refine ⟨?_, ?_, stickerRounds_length⟩
  · exact Run.all_of_invariant (I := TimerCounts) (fun _ e h => timerCounts_step h e)
      (fun _ h => rateLimited_of_counts h) h0 es
  · exact Run.along_of_invariant (I := TimerCounts) (fun _ e h => timerCounts_step h e)
      (fun _ e h => onNinthCall_event h e) h0 es

/-- Eight dark frames and a bright one: the head movement acts in the ninth call. -/
example :
    (Run.exec gestureStep (gestureCreate workingStartup)
      ([.enableSticker, .stickerButton, .motionButton, .facesDetected [⟨0, 140, 4, 4⟩]] ++
        List.replicate 8 (.frame (evenFrame 0 128) (standingClock 0)) ++
        [.frame (evenFrame 1 128) (standingClock 0)])).2.acted = [9] := by
  decide +kernel

end SelfCamera
