/-
  File:      SelfCamera/Pointer.lean
  Subject:   THE STICKER BUTTON AS THE LAYOUT DRIVES IT: is the selection even between two gestures?

  The layout emits `camera_sticker_clicked` from two of its programs, on the release of the pointer
  and on the click that follows a release over the part. The stickers have even numbers: a click is
  meant to move the selection by two. It moves by one when only one of the two signals is counted.

  * `facePrograms`, `signal` -- the programs of the part `face`, and what a mouse signal does;
  * `layoutStep` -- gestures on the part, with everything else the application does in between;
  * **`sticker_restsEven_iff`** -- the runs that rest on even stickers only.
-/
import SelfCamera.Selection

namespace SelfCamera

/-! ## 1. The layout -/

/-- A mouse signal of the part `face`, with the number of the mouse button. -/
inductive MouseSignal where
  | down (button : Nat)
  | up (button : Nat)
  | clicked (button : Nat)

/-- The signals the programs of the part wait for. -/
inductive SignalPattern where
  /-- `"mouse,down,*"` -/
  | anyDown
  /-- `"mouse,up,*"` -/
  | anyUp
  /-- `"mouse,clicked,<button>"` -/
  | clicked (button : Nat)

def SignalPattern.covers : SignalPattern → MouseSignal → Bool
  | .anyDown, .down _ => true
  | .anyUp, .up _ => true
  | .clicked b, .clicked button => b == button
  | _, _ => false

/-- A program: what it waits for, and whether it emits `camera_sticker_clicked`. What it does to
    the looks of the part no program of the part reads: none of them has a `filter`. -/
structure EdjeProgram where
  signal : SignalPattern
  emits : Bool

/-- `clicked_sticker` -/
def clickedSticker : EdjeProgram := ⟨.clicked 1, true⟩

/-- `down_sticker` -/
def downSticker : EdjeProgram := ⟨.anyDown, false⟩

/-- `up_sticker` -/
def upSticker : EdjeProgram := ⟨.anyUp, true⟩

/-- The programs of the part `face`. -/
def facePrograms : List EdjeProgram := [clickedSticker, downSticker, upSticker]

/-- Every program that covers the signal runs, and the command it emits is delivered once. -/
def signal (m : MouseSignal) (s : ViewInfo) : ViewInfo :=
  facePrograms.foldl (fun s program =>
    if program.signal.covers m && program.emits then mainViewStickerButtonCb s else s) s

/-- Pressing is no command, releasing is one, clicking is one with the first mouse button. -/
@[simp] theorem signal_down (button : Nat) (s : ViewInfo) : signal (.down button) s = s := rfl

@[simp] theorem signal_up (button : Nat) (s : ViewInfo) :
    signal (.up button) s = mainViewStickerButtonCb s := rfl

theorem signal_clicked (button : Nat) (s : ViewInfo) :
    signal (.clicked button) s = if button = 1 then mainViewStickerButtonCb s else s := by
  by_cases hb : button = 1
  · rw [hb]
    rfl
  · have hne : (1 == button) = false := by
      rw [beq_eq_false_iff_ne]
      exact Ne.symm hb
    rw [if_neg hb]
    simp [signal, facePrograms, clickedSticker, downSticker, upSticker, SignalPattern.covers, hne]

/-! ## 2. Gestures -/

/-- The pointer, as far as the part is concerned. -/
inductive Pointer where
  | idle
  | down (button : Nat)
  /-- released over the part; the click is to follow -/
  | released (button : Nat)
  deriving DecidableEq

/-- The application behind its layout. -/
structure LaidOut where
  view : ViewInfo
  pointer : Pointer

/-- What can happen to it. -/
inductive LayoutStep where
  | press (button : Nat)
  /-- the pointer is released, over the part or outside it -/
  | release (inside : Bool)
  | click
  /-- anything that does not come from the part -/
  | event (e : Event)

/-- **One step**; the sticker command comes from the part alone. -/
def layoutStep (a : LaidOut) : LayoutStep → LaidOut
  | .press button =>
    match a.pointer with
    | .idle => ⟨signal (.down button) a.view, .down button⟩
    | _ => a
  | .release inside =>
    match a.pointer with
    | .down button => ⟨signal (.up button) a.view, if inside then .released button else .idle⟩
    | _ => a
  | .click =>
    match a.pointer with
    | .released button => ⟨signal (.clicked button) a.view, .idle⟩
    | _ => a
  | .event .stickerButton => a
  | .event e => { a with view := step a.view e }

/-- An observer: was the release of this gesture counted, with no head movement past the end of the
    selection since? -/
def observeCount (a : LaidOut) (counted : Bool) : LayoutStep → Bool
  | .release _ =>
    match a.pointer with
    | .down _ => a.view.fin == 1
    | _ => counted
  | .event e => counted && !(e.movesHead a.view && wraps a.view.sticker)
  | _ => counted

/-- The layout and its observer. -/
def pointerStep : LaidOut × Bool → LayoutStep → LaidOut × Bool :=
  Run.watched layoutStep observeCount

def pointerCreate (cfg : Startup) : LaidOut × Bool := (⟨viewCreate cfg, .idle⟩, false)

/-! ## 3. Parity -/

/-- While no gesture is in progress the selection is even. -/
def RestsEven (a : LaidOut × Bool) : Prop := a.1.pointer = .idle → a.1.view.sticker % 2 = 0

/-- What the last step of a gesture takes: a release outside the part finds the predictor still
    loading; a click is counted exactly if its release was. -/
def GestureWhole (a : LaidOut × Bool) : LayoutStep → Prop
  | .release inside =>
    match a.1.pointer with
    | .down _ => inside = false → a.1.view.fin ≠ 1
    | _ => True
  | .click =>
    match a.1.pointer with
    | .released button => a.2 = true ↔ button = 1 ∧ a.1.view.fin = 1
    | _ => True
  | _ => True

/-- Within a gesture: even until the release, and after it odd if the release was counted. -/
def HalfWay (a : LaidOut × Bool) : Prop :=
  match a.1.pointer with
  | .idle => True
  | .down _ => a.1.view.sticker % 2 = 0
  | .released _ => a.1.view.sticker % 2 = if a.2 then 1 else 0

/-- A counted command changes the parity of the selection. -/
theorem stickerButton_parity (s : ViewInfo) :
    (mainViewStickerButtonCb s).sticker % 2 =
      if s.fin = 1 then (s.sticker + 1) % 2 else s.sticker % 2 := by
  have hmod := Int.tmod_add_mul_tdiv (s.sticker + 1) maxSticker
  unfold maxSticker at hmod
  rw [stickerButton_sticker]
  unfold maxSticker
  split <;> omega

/-- So does a click with the first mouse button. -/
theorem clicked_parity (button : Nat) (s : ViewInfo) :
    (signal (.clicked button) s).sticker % 2 =
      if button = 1 ∧ s.fin = 1 then (s.sticker + 1) % 2 else s.sticker % 2 := by
  rw [signal_clicked]
  by_cases hb : button = 1
  · simp only [hb, true_and, if_true]
    exact stickerButton_parity s
  · simp [hb]

/-- A head movement does not, unless it passes the end. -/
theorem advanced_parity (sticker : Int) :
    advanced sticker % 2 = if wraps sticker then 0 else sticker % 2 := by
  unfold advanced
  split <;> omega

/-- An event that is no sticker press keeps an even selection even, and an odd one odd until a head
    movement passes the end. -/
theorem event_parity (s : ViewInfo) {e : Event} (he : e ≠ .stickerButton) :
    (step s e).sticker % 2 =
      if e.movesHead s && wraps s.sticker then 0 else s.sticker % 2 := by
  have hstep : (step s e).sticker = if e.movesHead s then advanced s.sticker else s.sticker := by
    rw [step_sticker]
    cases e <;> first | rfl | exact absurd rfl he
  rw [hstep]
  cases e.movesHead s with
  | false => rfl
  | true => exact advanced_parity s.sticker

theorem layoutStep_event (a : LaidOut) {e : Event} (he : e ≠ .stickerButton) :
    layoutStep a (.event e) = { a with view := step a.view e } := by
  cases e <;> first | rfl | exact absurd rfl he

/-- **One step keeps the parity within a gesture.** -/
theorem halfWay_step {a : LaidOut × Bool} (t : LayoutStep) (h : HalfWay a) (heven : RestsEven a) :
    HalfWay (pointerStep a t) := by
  obtain ⟨⟨s, pointer⟩, counted⟩ := a
  cases t with
  | press button =>
    cases pointer with
    | idle => exact heven rfl
    | down b => exact h
    | released b => exact h
  | release inside =>
    cases pointer with
    | idle => trivial
    | released b => exact h
    | down b =>
      cases inside with
      | false => trivial
      | true =>
        have hs : s.sticker % 2 = 0 := h
        show (mainViewStickerButtonCb s).sticker % 2 = if s.fin == 1 then 1 else 0
        rw [stickerButton_parity]
        by_cases hfin : s.fin = 1
        · rw [if_pos hfin, if_pos (beq_iff_eq.mpr hfin)]
          omega
        · rw [if_neg hfin, if_neg (by simpa using hfin)]
          exact hs
  | click =>
    cases pointer with
    | idle => trivial
    | down b => exact h
    | released b => trivial
  | event e =>
    by_cases he : e = .stickerButton
    · subst he
      cases pointer with
      | released b =>
        show s.sticker % 2 = if counted && !false then 1 else 0
        rw [Bool.not_false, Bool.and_true]
        exact h
      | _ => exact h
    · have hview := layoutStep_event ⟨s, pointer⟩ he
      unfold pointerStep Run.watched HalfWay
      rw [hview]
      cases pointer with
      | idle => trivial
      | down b =>
        have hs : s.sticker % 2 = 0 := h
        dsimp only
        rw [event_parity s he, hs]
        exact ite_self 0
      | released b =>
        have hs : s.sticker % 2 = if counted then 1 else 0 := h
        dsimp only [observeCount]
        rw [event_parity s he, hs]
        by_cases hpast : (e.movesHead s && wraps s.sticker) = true <;> cases counted <;>
          simp [hpast]

/-- **The step that ends a gesture leaves the selection even exactly when it makes the gesture
    whole**; no other step matters. -/
theorem restsEven_step {a : LaidOut × Bool} (t : LayoutStep) (h : HalfWay a) (heven : RestsEven a) :
    RestsEven (pointerStep a t) ↔ GestureWhole a t := by
  obtain ⟨⟨s, pointer⟩, counted⟩ := a
  cases t with
  | press button =>
    cases pointer with
    | idle => exact ⟨fun _ => trivial, fun _ hidle => Pointer.noConfusion hidle⟩
    | down b => exact ⟨fun _ => trivial, fun _ => heven⟩
    | released b => exact ⟨fun _ => trivial, fun _ => heven⟩
  | release inside =>
    cases pointer with
    | idle => exact ⟨fun _ => trivial, fun _ => heven⟩
    | released b => exact ⟨fun _ => trivial, fun _ => heven⟩
    | down b =>
      have hs : s.sticker % 2 = 0 := h
      have hparity := stickerButton_parity s
      cases inside with
      | true =>
        exact ⟨fun _ hin => Bool.noConfusion hin, fun _ hidle => Pointer.noConfusion hidle⟩
      | false =>
        show (_ → (mainViewStickerButtonCb s).sticker % 2 = 0) ↔ (_ → s.fin ≠ 1)
        rw [hparity]
        by_cases hfin : s.fin = 1
        · rw [if_pos hfin]
          exact ⟨fun heq => by have := heq rfl; omega, fun hne => absurd hfin (hne rfl)⟩
        · rw [if_neg hfin]
          exact ⟨fun _ _ => hfin, fun _ _ => hs⟩
  | click =>
    cases pointer with
    | idle => exact ⟨fun _ => trivial, fun _ => heven⟩
    | down b => exact ⟨fun _ => trivial, fun _ => heven⟩
    | released b =>
      show (_ → (signal (.clicked b) s).sticker % 2 = 0) ↔
        (counted = true ↔ b = 1 ∧ s.fin = 1)
      rw [clicked_parity]
      refine (imp_iff_right rfl).trans ?_
      by_cases hc : b = 1 ∧ s.fin = 1
      · rw [if_pos hc, iff_true_right hc]
        cases counted with
        | true =>
          have hs : s.sticker % 2 = 1 := h
          exact ⟨fun _ => rfl, fun _ => by omega⟩
        | false =>
          have hs : s.sticker % 2 = 0 := h
          exact ⟨fun heq => by omega, fun hf => Bool.noConfusion hf⟩
      · rw [if_neg hc, iff_false_right hc]
        cases counted with
        | true =>
          have hs : s.sticker % 2 = 1 := h
          exact ⟨fun heq => by omega, fun hf => absurd rfl hf⟩
        | false => exact ⟨fun _ => Bool.false_ne_true, fun _ => h⟩
  | event e =>
    refine ⟨fun _ => trivial, fun _ => ?_⟩
    by_cases he : e = .stickerButton
    · subst he
      exact heven
    · unfold pointerStep Run.watched RestsEven
      rw [layoutStep_event ⟨s, pointer⟩ he]
      intro hidle
      dsimp only
      rw [event_parity s he, heven hidle]
      exact ite_self 0

/-! ## 4. Runs -/

/-- **The selection is even whenever no gesture is in progress exactly when every gesture of the
    run is whole**: released outside the part only while the predictor is loading, and clicked so
    that both of its commands are counted or neither -- whatever else happens in between, and
    whatever camera calls fail. -/
theorem sticker_restsEven_iff (cfg : Startup) (ts : List LayoutStep) :
    Run.All pointerStep RestsEven (pointerCreate cfg) ts ↔
      Run.Along pointerStep GestureWhole (pointerCreate cfg) ts := by
  have h0 : HalfWay (pointerCreate cfg) := trivial
  refine Run.all_iff_along (I := HalfWay) ?_ ?_ h0 (fun _ => ?_) ts
  · exact fun _ t h heven => halfWay_step t h heven
  · exact fun _ t h heven => restsEven_step t h heven
  · show (viewCreate cfg).sticker % 2 = 0
    rw [viewCreate_sticker]
    rfl

/-- Pressed on the part, slid off it and released: one command, and the odd number 1. -/
theorem slidOff_restsOdd :
    ¬ RestsEven (Run.exec pointerStep (pointerCreate workingStartup)
      [.event .enableSticker, .press 1, .release false]) := by
  intro heven
  exact absurd (heven (by decide)) (by decide)

end SelfCamera
