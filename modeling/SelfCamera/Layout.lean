/-
  File:      SelfCamera/Layout.lean
  Subject:   THE LAYOUT main.edc OVER THE APPLICATION: what a gesture on one of its parts does.

  The layout turns the signals of the pointer into pictures of its own and into commands; the
  handlers of view.cpp are registered for the commands. The screen is the application behind all
  of its layout: gestures on any part, with frames, faces, pauses and the loader in between.

  * `mainPrograms` -- the programs of main.edc; `registered` -- `_main_view_register_cbs`;
  * `screenStep` -- one gesture step, or one event that comes from elsewhere;
  * `receive_up_effect`, `receive_up_motion`, ... -- what the signals of each part do;
  * `sets_own` -- what the programs have in common; `MenuInStep` -- the menu;
  * `orderly_step`, `inOrder_step` -- what holds of every screen;
  * **`emitted_eq`** -- the events a step of a gesture comes down to.
-/
import SelfCamera.Lib.Edje
import SelfCamera.Pointer
import SelfCamera.Gallery

namespace SelfCamera

open Edje Posix

/-! ## 1. The programs -/

/-- The parts the programs are about. -/
inductive Part where
  | btnMode | effect | face | motion | shutterButton | thumbnailBackground
  deriving DecidableEq

/-- The names of the descriptions of these parts. -/
inductive PartState where
  | default | selected | visible | pressed | noImage
  deriving DecidableEq

/-- What a program can be woken by. -/
inductive LayoutSignal where
  | mouse (m : MouseSignal)
  /-- `"no_image"`, from `_main_view_thumbnail_load` -/
  | noImage
  /-- `"default"`, from `_main_view_thumbnail_set` -/
  | default

/-- What a script may emit, and what a handler may be registered for. -/
inductive Command where
  | effectClicked | stickerClicked | changeClicked | motionClicked
  | shutterDown | shutterUp | shutterClicked
  deriving DecidableEq

/-- `"mouse,down,*"` -/
def mouseDown : LayoutSignal → Bool
  | .mouse (.down _) => true
  | _ => false

/-- `"mouse,up,*"` -/
def mouseUp : LayoutSignal → Bool
  | .mouse (.up _) => true
  | _ => false

/-- `"mouse,up,1"` -/
def mouseUp1 : LayoutSignal → Bool
  | .mouse (.up button) => button == 1
  | _ => false

/-- `"mouse,clicked,1"` -/
def mouseClicked1 : LayoutSignal → Bool
  | .mouse (.clicked button) => button == 1
  | _ => false

/-- `"mouse_clicked,1"`: no signal of the pointer is spelt like this. -/
def mouseUnderscoreClicked1 : LayoutSignal → Bool := fun _ => false

/-- A program of main.edc. -/
abbrev MainProgram := Program LayoutSignal Part PartState Command

/-- `clicked_motion` -/
def clickedMotion : MainProgram :=
  ⟨mouseUnderscoreClicked1, .motion, some (.motion, .visible), [(.motion, .pressed)],
    [.motionClicked]⟩

/-- `clicked_motion2` -/
def clickedMotion2 : MainProgram :=
  ⟨mouseUnderscoreClicked1, .motion, some (.motion, .pressed), [(.motion, .visible)],
    [.motionClicked]⟩

/-- `down_motion` -/
def downMotion : MainProgram := ⟨mouseDown, .motion, none, [], []⟩

/-- `up_motion` -/
def upMotion : MainProgram :=
  ⟨mouseUp, .motion, some (.motion, .visible), [(.motion, .pressed)], [.motionClicked]⟩

/-- `up_motion2` -/
def upMotion2 : MainProgram :=
  ⟨mouseUp, .motion, some (.motion, .pressed), [(.motion, .visible)], [.motionClicked]⟩

/-- `clicked_effect` -/
def clickedEffect : MainProgram :=
  ⟨mouseClicked1, .effect, some (.effect, .default), [(.effect, .visible)], [.effectClicked]⟩

/-- `down_effect` -/
def downEffect : MainProgram := ⟨mouseDown, .effect, none, [(.effect, .pressed)], []⟩

/-- `up_effect` -/
def upEffect : MainProgram :=
  ⟨mouseUp, .effect, some (.effect, .pressed), [(.effect, .visible)], [.effectClicked]⟩

/-- `clicked_sticker` -/
def clickedStickerMain : MainProgram :=
  ⟨mouseClicked1, .face, none, [(.face, .visible)], [.stickerClicked]⟩

/-- `down_sticker` -/
def downStickerMain : MainProgram := ⟨mouseDown, .face, none, [(.face, .pressed)], []⟩

/-- `up_sticker` -/
def upStickerMain : MainProgram :=
  ⟨mouseUp, .face, none, [(.face, .visible)], [.stickerClicked]⟩

/-- `clicked_mode` -/
def clickedMode : MainProgram :=
  ⟨mouseClicked1, .btnMode, some (.btnMode, .default),
    [(.btnMode, .selected), (.effect, .visible), (.face, .visible), (.motion, .visible)], []⟩

/-- `clicked_mode2` -/
def clickedMode2 : MainProgram :=
  ⟨mouseClicked1, .btnMode, some (.btnMode, .selected),
    [(.btnMode, .default), (.face, .default), (.effect, .default), (.motion, .default)], []⟩

/-- `down_shutter` -/
def downShutter : MainProgram :=
  ⟨mouseDown, .shutterButton, none, [(.shutterButton, .pressed)], [.shutterDown]⟩

/-- `up_shutter` -/
def upShutter : MainProgram :=
  ⟨mouseUp1, .shutterButton, none, [(.shutterButton, .default)], [.shutterUp]⟩

/-- `clicked_shutter` -/
def clickedShutter : MainProgram :=
  ⟨mouseClicked1, .shutterButton, none, [(.shutterButton, .default)], [.shutterClicked]⟩

/-- `no_image` -/
def noImage : MainProgram :=
  ⟨fun | .noImage => true | _ => false, .thumbnailBackground, none,
    [(.thumbnailBackground, .noImage)], []⟩

/-- `default` -/
def defaultImage : MainProgram :=
  ⟨fun | .default => true | _ => false, .thumbnailBackground, none,
    [(.thumbnailBackground, .default)], []⟩

/-- The programs of main.edc, in their order. -/
def mainPrograms : List MainProgram :=
  [clickedMotion, clickedMotion2, downMotion, upMotion, upMotion2, clickedEffect, downEffect,
    upEffect, clickedStickerMain, downStickerMain, upStickerMain, clickedMode, clickedMode2,
    downShutter, upShutter, clickedShutter, noImage, defaultImage]

/-- `_main_view_register_cbs`: the handler of each command, as the event it is. -/
def registered : Command → Option Event
  | .shutterClicked => some .shutterButton
  | .effectClicked => some .effectButton
  | .stickerClicked => some .stickerButton
  | .changeClicked => some .changeButton
  | .motionClicked => some .motionButton
  | .shutterDown | .shutterUp => none

/-- `visible` of the description a part is in: the three icons start hidden. -/
def shown : Part → PartState → Bool
  | .effect, .default | .face, .default | .motion, .default => false
  | _, _ => true

/-! ## 2. The screen -/

/-- The pointer. -/
inductive Touch where
  | idle
  | down (part : Part) (button : Nat)
  /-- released over its part; the click is to follow -/
  | released (part : Part) (button : Nat)

/-- The application behind its layout. -/
structure Screen where
  view : ViewInfo
  picture : Part → PartState
  touch : Touch

/-- What can happen to it. -/
inductive ScreenStep where
  | press (part : Part) (button : Nat)
  /-- the pointer is released, over its part or outside it -/
  | release (inside : Bool)
  | click
  /-- anything that does not come from the layout -/
  | event (e : Event)

/-- The events the layout's commands are handled as. -/
def Event.ofLayout : Event → Bool
  | .stickerButton | .effectButton | .motionButton | .changeButton | .shutterButton => true
  | _ => false

/-- The signal a step is for the layout. A part that is not shown gets none from the pointer; what
    comes from elsewhere signals when it sets the thumbnail (`step_paths`: it does so exactly when
    it writes a photo). -/
def signalOf (a : Screen) : ScreenStep → Option (LayoutSignal × Part)
  | .press part button =>
    match a.touch with
    | .idle => if shown part (a.picture part) then some (.mouse (.down button), part) else none
    | _ => none
  | .release _ =>
    match a.touch with
    | .down part button => some (.mouse (.up button), part)
    | _ => none
  | .click =>
    match a.touch with
    | .released part button => some (.mouse (.clicked button), part)
    | _ => none
  | .event e => if (writes a.view e).isSome then some (.default, .thumbnailBackground) else none

/-- The pointer after a step. -/
def touchAfter (a : Screen) : ScreenStep → Touch
  | .press part button =>
    match a.touch with
    | .idle => if shown part (a.picture part) then .down part button else .idle
    | touch => touch
  | .release inside =>
    match a.touch with
    | .down part button => if inside then .released part button else .idle
    | touch => touch
  | .click =>
    match a.touch with
    | .released _ _ => .idle
    | touch => touch
  | .event _ => a.touch

section Engine

variable (look : Look)

/-- The pictures after a step, and the commands its signal makes the layout emit. -/
def react (a : Screen) (t : ScreenStep) : (Part → PartState) × List Command :=
  match signalOf a t with
  | some (sig, part) => receive look mainPrograms sig part a.picture
  | none => (a.picture, [])

/-- What the application gets to see of a step. -/
def emitted (a : Screen) (t : ScreenStep) : List Event :=
  match t with
  | .event e => if e.ofLayout then [] else [e]
  | t => (react look a t).2.filterMap registered

/-- **One step of the screen.** -/
def screenStep (a : Screen) (t : ScreenStep) : Screen where
  view := Run.exec step a.view (emitted look a t)
  picture := (react look a t).1
  touch := touchAfter a t

/-- The screen after start-up: `_main_view_thumbnail_load` looks into the folder `readdir` lists. -/
def screenCreate (readdir : List Char → Option (List Dirent)) (cfg : Startup) : Screen where
  view := viewCreate cfg
  picture :=
    let found := (mainViewThumbnailLoad readdir (viewCreate cfg)).isSome
    let sig := if found then .default else .noImage
    (receive look mainPrograms sig .thumbnailBackground fun _ => .default).1
  touch := .idle

end Engine

/-! ## 3. The signals of each part -/

section Signals

variable (look : Look) (button : Nat) (picture : Part → PartState)

theorem receive_down_effect :
    receive look mainPrograms (.mouse (.down button)) .effect picture =
      (Function.update picture .effect .pressed, []) :=
  receive_single (p := downEffect) rfl look picture

theorem receive_up_effect :
    receive look mainPrograms (.mouse (.up button)) .effect picture =
      if picture .effect = .pressed then
        (Function.update picture .effect .visible, [.effectClicked])
      else (picture, []) := by
  refine (receive_single (p := upEffect) rfl look picture).trans ?_
  by_cases h : picture .effect = .pressed <;> simp [Program.passes, upEffect, h, Program.run]

/-- Clicks count with the first button only. -/
theorem receive_clicked_other (h : button ≠ 1) (part : Part) :
    receive look mainPrograms (.mouse (.clicked button)) part picture = (picture, []) := by
  refine receive_none (List.filter_eq_nil_iff.mpr fun p hp hwaits => h ?_) look picture
  have hcovers : ∀ p ∈ mainPrograms, p.signal (.mouse (.clicked button)) = true →
      (button == 1) = true := by
    unfold mainPrograms
    simp only [List.forall_mem_cons]
    exact ⟨nofun, nofun, nofun, nofun, nofun, id, nofun, nofun, id, nofun, nofun, id, id, nofun,
      nofun, id, nofun, nofun, nofun⟩
  simp only [Program.waitsFor, Bool.and_eq_true] at hwaits
  exact beq_iff_eq.mp (hcovers p hp hwaits.2)

/-- No state the icon is shown in lets `clicked_effect` run. -/
theorem receive_clicked_effect (h : picture .effect ≠ .default) :
    receive look mainPrograms (.mouse (.clicked button)) .effect picture = (picture, []) := by
  by_cases hb : button = 1
  · subst hb
    refine (receive_single (p := clickedEffect) rfl look picture).trans ?_
    simp [Program.passes, clickedEffect, h]
  · exact receive_clicked_other look button picture hb .effect

theorem receive_down_face :
    receive look mainPrograms (.mouse (.down button)) .face picture =
      (Function.update picture .face .pressed, []) :=
  receive_single (p := downStickerMain) rfl look picture

theorem receive_up_face :
    receive look mainPrograms (.mouse (.up button)) .face picture =
      (Function.update picture .face .visible, [.stickerClicked]) :=
  receive_single (p := upStickerMain) rfl look picture

/-- The icon goes from up to pressed and back, with a command each time. -/
theorem receive_up_motion (h : picture .motion = .visible ∨ picture .motion = .pressed) :
    receive .arrival mainPrograms (.mouse (.up button)) .motion picture =
      (Function.update picture .motion
        (if picture .motion = .visible then .pressed else .visible), [.motionClicked]) := by
  have hwaiting : mainPrograms.filter (fun p => p.waitsFor (.mouse (.up button)) .motion) =
      [upMotion, upMotion2] := rfl
  unfold receive
  rw [hwaiting]
  rcases h with h | h <;> simp [h, Program.passes, upMotion, upMotion2, runAll, Program.run]

theorem receive_clicked_face :
    receive look mainPrograms (.mouse (.clicked 1)) .face picture =
      (Function.update picture .face .visible, [.stickerClicked]) :=
  receive_single (p := clickedStickerMain) rfl look picture

theorem receive_clicked_shutter :
    receive look mainPrograms (.mouse (.clicked 1)) .shutterButton picture =
      (Function.update picture .shutterButton .default, [.shutterClicked]) :=
  receive_single (p := clickedShutter) rfl look picture

/-- Clicks on the motion icon find no program: the two that are meant for them wait for another
    spelling. -/
theorem receive_clicked_motion :
    receive look mainPrograms (.mouse (.clicked button)) .motion picture = (picture, []) :=
  receive_none rfl look picture

end Signals

/-! ## 4. What the programs have in common -/

/-- The icons the menu shows and hides. -/
def Part.icon : Part → Bool
  | .effect | .face | .motion => true
  | _ => false

/-- Only the button of the menu sets other parts than itself, or hides one. -/
theorem sets_own : ∀ p ∈ mainPrograms, p.source ≠ .btnMode →
    ∀ set ∈ p.setStates, set.1 = p.source ∧ shown set.1 set.2 = true := by
  decide

/-- The motion icon has three looks. -/
theorem sets_motion : ∀ p ∈ mainPrograms, ∀ set ∈ p.setStates, set.1 = .motion →
    set.2 = .default ∨ set.2 = .visible ∨ set.2 = .pressed := by
  decide

section Common

variable (look : Look) (sig : LayoutSignal) {source : Part} (picture : Part → PartState)

/-- **A signal of any other part** leaves a part as it is, or sets the part it comes from to a state
    in which that one is shown. -/
theorem receive_other (h : source ≠ .btnMode) (part : Part) :
    (receive look mainPrograms sig source picture).1 part = picture part ∨
      part = source ∧
        shown part ((receive look mainPrograms sig source picture).1 part) = true := by
  rcases receive_sets look mainPrograms sig source picture part with heq | ⟨p, hp, hwaits, hset⟩
  · exact Or.inl heq
  · have hsource : p.source = source := by
      simp only [Program.waitsFor, Bool.and_eq_true, beq_iff_eq] at hwaits
      exact hwaits.1
    obtain ⟨hpart, hshown⟩ := sets_own p hp (by rw [hsource]; exact h) _ hset
    exact Or.inr ⟨hpart.trans hsource, hshown⟩

theorem receive_shown {picture : Part → PartState} (h : source ≠ .btnMode) {part : Part}
    (hshown : shown part (picture part) = true) :
    shown part ((receive look mainPrograms sig source picture).1 part) = true := by
  rcases receive_other look sig picture h part with heq | ⟨-, hnew⟩
  · rw [heq]
    exact hshown
  · exact hnew

end Common

/-! ## 5. The menu -/

/-- The icons are shown exactly while the button of the menu is down. -/
structure MenuInStep (picture : Part → PartState) : Prop where
  mode : picture .btnMode = .default ∨ picture .btnMode = .selected
  icons : ∀ icon : Part, icon.icon = true →
    (shown icon (picture icon) = true ↔ picture .btnMode = .selected)

theorem MenuInStep.other {look : Look} {sig : LayoutSignal} {source : Part}
    {picture : Part → PartState} (h : MenuInStep picture) (hsource : source ≠ .btnMode)
    (hshown : shown source (picture source) = true) :
    MenuInStep (receive look mainPrograms sig source picture).1 := by
  have hmode : (receive look mainPrograms sig source picture).1 .btnMode = picture .btnMode := by
    rcases receive_other look sig picture hsource .btnMode with
      heq | ⟨hpart, -⟩
    · exact heq
    · exact absurd hpart.symm hsource
  refine ⟨by rw [hmode]; exact h.mode, fun icon hicon => ?_⟩
  rw [hmode, ← h.icons icon hicon]
  rcases receive_other look sig picture hsource icon with
    heq | ⟨hpart, hnew⟩
  · rw [heq]
  · subst hpart
    exact ⟨fun _ => hshown, fun _ => hnew⟩

/-- What `clicked_mode` and `clicked_mode2` leave. -/
theorem menuInStep_opened (picture : Part → PartState) : MenuInStep (clickedMode.run picture) := by
  refine ⟨Or.inr rfl, fun icon hicon => ?_⟩
  cases icon <;> first | exact absurd hicon (by decide) | exact ⟨fun _ => rfl, fun _ => rfl⟩

theorem menuInStep_closed (picture : Part → PartState) : MenuInStep (clickedMode2.run picture) := by
  refine ⟨Or.inl rfl, fun icon hicon => ?_⟩
  cases icon <;> first
    | exact absurd hicon (by decide)
    | exact (by decide : false = true ↔ PartState.default = .selected)

/-- **A click on the button of the menu**: it opens the menu or closes it; were the filters looked
    at later, it would do both. -/
theorem receive_clicked_mode {look : Look} {picture : Part → PartState} (h : MenuInStep picture) :
    receive look mainPrograms (.mouse (.clicked 1)) .btnMode picture =
      (if picture .btnMode = .selected then clickedMode2.run picture
        else if look = .arrival then clickedMode.run picture
        else clickedMode2.run (clickedMode.run picture), []) := by
  have hwaiting : mainPrograms.filter (fun p => p.waitsFor (.mouse (.clicked 1)) .btnMode) =
      [clickedMode, clickedMode2] := rfl
  unfold receive
  rw [hwaiting]
  rcases h.mode with hmode | hmode
  · cases look <;>
      simp [runAll, runInTurn, hmode, Program.passes, clickedMode, clickedMode2, Program.run]
  · cases look <;> simp [runAll, runInTurn, hmode, Program.passes, clickedMode, clickedMode2]

/-- **Every signal keeps the menu in step**, if the part it comes from is shown. -/
theorem MenuInStep.receive {picture : Part → PartState} (h : MenuInStep picture) (look : Look)
    (sig : LayoutSignal) {source : Part} (hshown : shown source (picture source) = true) :
    MenuInStep (receive look mainPrograms sig source picture).1 := by
  by_cases hsource : source = .btnMode
  · subst hsource
    have hnone (hw : mainPrograms.filter (fun p => p.waitsFor sig .btnMode) = []) :
        MenuInStep (Edje.receive look mainPrograms sig .btnMode picture).1 := by
      rw [receive_none hw look picture]
      exact h
    cases sig with
    | mouse m =>
      cases m with
      | down button => exact hnone rfl
      | up button => exact hnone rfl
      | clicked button =>
        by_cases hb : button = 1
        · subst hb
          rw [receive_clicked_mode h]
          dsimp only
          split
          · exact menuInStep_closed picture
          · split
            · exact menuInStep_opened picture
            · exact menuInStep_closed (clickedMode.run picture)
        · rw [receive_clicked_other look button picture hb]
          exact h
    | noImage => exact hnone rfl
    | default => exact hnone rfl
  · exact h.other hsource hshown

/-- What is shown stays shown while the pointer is on a part other than the button of the menu. -/
def TouchShown (a : Screen) : Prop :=
  match a.touch with
  | .idle => True
  | .down part _ | .released part _ => shown part (a.picture part) = true

/-- What holds of every screen: the menu is in step, the part under the pointer is shown, and the
    effect icon looks pressed while it is; the motion icon is hidden, up or pressed. -/
structure Orderly (a : Screen) : Prop where
  menu : MenuInStep a.picture
  motion : a.picture .motion = .default ∨ a.picture .motion = .visible ∨
    a.picture .motion = .pressed
  touch : TouchShown a
  effect : ∀ button, a.touch = .down .effect button → a.picture .effect = .pressed

/-- A signal comes from a part that is shown. -/
theorem signalOf_shown {a : Screen} (h : Orderly a) {t : ScreenStep} {sig : LayoutSignal}
    {part : Part} (hsig : signalOf a t = some (sig, part)) :
    shown part (a.picture part) = true := by
  have htouch := h.touch
  unfold signalOf at hsig
  unfold TouchShown at htouch
  cases t with
  | press p button =>
    dsimp only at hsig
    split at hsig
    · split at hsig
      · rename_i hshown
        cases hsig
        exact hshown
      · cases hsig
    · cases hsig
  | release inside =>
    dsimp only at hsig
    split at hsig
    · rename_i p button hdown
      cases hsig
      rw [hdown] at htouch
      exact htouch
    · cases hsig
  | click =>
    dsimp only at hsig
    split at hsig
    · rename_i p button hreleased
      cases hsig
      rw [hreleased] at htouch
      exact htouch
    · cases hsig
  | event e =>
    dsimp only at hsig
    split at hsig
    · cases hsig
      rfl
    · cases hsig

/-- Apart from a click nothing hides a part. -/
theorem receive_kept (look : Look) (sig : LayoutSignal) {source : Part}
    {picture : Part → PartState} (hsig : ∀ button, sig ≠ .mouse (.clicked button)) {part : Part}
    (hshown : shown part (picture part) = true) :
    shown part ((receive look mainPrograms sig source picture).1 part) = true := by
  by_cases hsource : source = .btnMode
  · subst hsource
    have hnone : mainPrograms.filter (fun p => p.waitsFor sig .btnMode) = [] := by
      rcases sig with (b | b | b) | _ | _ <;> first | rfl | exact absurd rfl (hsig b)
    rw [receive_none hnone look picture]
    exact hshown
  · exact receive_shown look sig hsource hshown

theorem orderly_press {look : Look} {a : Screen} (h : Orderly a) (part : Part) (button : Nat) :
    TouchShown (screenStep look a (.press part button)) ∧
      ∀ b, (screenStep look a (.press part button)).touch = .down .effect b →
        (screenStep look a (.press part button)).picture .effect = .pressed := by
  obtain ⟨view, picture, touch⟩ := a
  cases touch with
  | idle =>
    unfold screenStep react touchAfter signalOf TouchShown
    dsimp only
    cases hshown : shown part (picture part) with
    | false => exact ⟨trivial, fun b hb => absurd hb nofun⟩
    | true =>
      refine ⟨receive_kept look (.mouse (.down button)) (fun _ => nofun) hshown, fun b hb => ?_⟩
      cases hb
      show (receive look mainPrograms _ Part.effect picture).1 .effect = .pressed
      rw [receive_down_effect]
      exact Function.update_self .effect .pressed picture
  | down p b => exact ⟨h.touch, h.effect⟩
  | released p b => exact ⟨h.touch, h.effect⟩

theorem orderly_release {look : Look} {a : Screen} (h : Orderly a) (inside : Bool) :
    TouchShown (screenStep look a (.release inside)) ∧
      ∀ b, (screenStep look a (.release inside)).touch = .down .effect b →
        (screenStep look a (.release inside)).picture .effect = .pressed := by
  obtain ⟨view, picture, touch⟩ := a
  cases touch with
  | down part b =>
    cases inside with
    | true =>
      refine ⟨?_, fun b hb => nomatch hb⟩
      exact receive_kept look (.mouse (.up b)) (fun _ => nofun) h.touch
    | false => exact ⟨trivial, fun b hb => nomatch hb⟩
  | idle => exact ⟨trivial, h.effect⟩
  | released p b => exact ⟨h.touch, h.effect⟩

theorem orderly_click {look : Look} {a : Screen} (h : Orderly a) :
    TouchShown (screenStep look a .click) ∧
      ∀ b, (screenStep look a .click).touch = .down .effect b →
        (screenStep look a .click).picture .effect = .pressed := by
  obtain ⟨view, picture, touch⟩ := a
  cases touch with
  | released p b => exact ⟨trivial, fun b hb => nomatch hb⟩
  | idle => exact ⟨trivial, h.effect⟩
  | down p b => exact ⟨h.touch, h.effect⟩

theorem orderly_event {look : Look} {a : Screen} (h : Orderly a) (e : Event) :
    TouchShown (screenStep look a (.event e)) ∧
      ∀ b, (screenStep look a (.event e)).touch = .down .effect b →
        (screenStep look a (.event e)).picture .effect = .pressed := by
  have htouch : (screenStep look a (.event e)).touch = a.touch := rfl
  have hpicture : (screenStep look a (.event e)).picture = a.picture ∨
      (screenStep look a (.event e)).picture =
        (receive look mainPrograms .default .thumbnailBackground a.picture).1 := by
    unfold screenStep react signalOf
    dsimp only
    cases (writes a.view e).isSome with
    | false => exact Or.inl rfl
    | true => exact Or.inr rfl
  rcases hpicture with hp | hp
  · unfold TouchShown
    rw [htouch, hp]
    exact ⟨h.touch, h.effect⟩
  · have hother : (receive look mainPrograms .default .thumbnailBackground a.picture).1 .effect =
        a.picture .effect :=
      (receive_other look .default a.picture (by decide) Part.effect).resolve_right
        fun hpart => nomatch hpart.1
    have hshown := h.touch
    unfold TouchShown at hshown ⊢
    rw [htouch, hp, hother]
    refine ⟨?_, h.effect⟩
    split
    · trivial
    all_goals
      rename_i hdown
      rw [hdown] at hshown
      exact receive_kept look .default (fun _ => nofun) hshown

theorem react_motion (look : Look) {a : Screen}
    (h : a.picture .motion = .default ∨ a.picture .motion = .visible ∨
      a.picture .motion = .pressed) (t : ScreenStep) :
    (react look a t).1 .motion = .default ∨ (react look a t).1 .motion = .visible ∨
      (react look a t).1 .motion = .pressed := by
  unfold react
  split
  · rename_i sig part hsig
    rcases receive_sets look mainPrograms sig part a.picture .motion with heq | ⟨p, hp, -, hset⟩
    · rw [heq]
      exact h
    · exact sets_motion p hp _ hset rfl
  · exact h

/-- **One step keeps the screen in order.** -/
theorem orderly_step (look : Look) {a : Screen} (h : Orderly a) (t : ScreenStep) :
    Orderly (screenStep look a t) := by
  have hmenu : MenuInStep (screenStep look a t).picture := by
    unfold screenStep react
    dsimp only
    split
    · rename_i sig part hsig
      exact h.menu.receive look sig (signalOf_shown h hsig)
    · exact h.menu
  have hmotion := react_motion look h.motion t
  cases t with
  | press part button =>
    exact ⟨hmenu, hmotion, (orderly_press h part button).1, (orderly_press h part button).2⟩
  | release inside =>
    exact ⟨hmenu, hmotion, (orderly_release h inside).1, (orderly_release h inside).2⟩
  | click => exact ⟨hmenu, hmotion, (orderly_click h).1, (orderly_click h).2⟩
  | event e => exact ⟨hmenu, hmotion, (orderly_event h e).1, (orderly_event h e).2⟩

theorem orderly_create (look : Look) (readdir : List Char → Option (List Dirent)) (cfg : Startup) :
    Orderly (screenCreate look readdir cfg) := by
  have hmotion : (screenCreate look readdir cfg).picture .motion = .default :=
    (receive_other look _ (fun _ => .default) (by decide) Part.motion).resolve_right
      fun hpart => nomatch hpart.1
  refine ⟨?_, Or.inl hmotion, trivial, fun b hb => absurd hb nofun⟩
  refine MenuInStep.other ⟨Or.inl rfl, fun icon hicon => ?_⟩ (by decide) rfl
  cases icon <;> first
    | exact absurd hicon (by decide)
    | exact (by decide : false = true ↔ PartState.default = .selected)

/-- The screen is in order; and were each filter looked at when the turn of its program comes, the
    menu would never have opened: the click that opens it closes it again. -/
structure InOrder (look : Look) (a : Screen) : Prop where
  orderly : Orderly a
  closed : look = .turn → a.picture .btnMode = .default

/-- So an icon that is shown tells how filters are looked at. -/
theorem InOrder.arrival {look : Look} {a : Screen} (h : InOrder look a) (icon : Part)
    (hicon : icon.icon = true) (hshown : shown icon (a.picture icon) = true) : look = .arrival := by
  cases look with
  | arrival => rfl
  | turn =>
    have hmode := (h.orderly.menu.icons icon hicon).mp hshown
    rw [h.closed rfl] at hmode
    exact absurd hmode (by decide)

/-- **One step keeps that**, however filters are looked at. -/
theorem inOrder_step {look : Look} {a : Screen} (h : InOrder look a) (t : ScreenStep) :
    InOrder look (screenStep look a t) := by
  refine ⟨orderly_step look h.orderly t, fun hlook => ?_⟩
  subst hlook
  have hclosed := h.closed rfl
  unfold screenStep react
  dsimp only
  split
  · rename_i sig part hsig
    by_cases hpart : part = .btnMode
    · subst hpart
      have hnone (hw : mainPrograms.filter (fun p => p.waitsFor sig .btnMode) = []) :
          (receive .turn mainPrograms sig .btnMode a.picture).1 .btnMode = .default := by
        rw [receive_none hw .turn a.picture]
        exact hclosed
      rcases sig with (b | b | b) | _ | _ <;> try exact hnone rfl
      by_cases hb : b = 1
      · subst hb
        rw [receive_clicked_mode h.orderly.menu, if_neg (by rw [hclosed]; decide)]
        rfl
      · rw [receive_clicked_other .turn b a.picture hb]
        exact hclosed
    · refine Eq.trans ?_ hclosed
      exact (receive_other .turn sig a.picture hpart Part.btnMode).resolve_right
        fun hmode => hpart hmode.1.symm
  · exact hclosed

theorem inOrder_create (look : Look) (readdir : List Char → Option (List Dirent)) (cfg : Startup) :
    InOrder look (screenCreate look readdir cfg) :=
  ⟨orderly_create look readdir cfg, fun _ =>
    (receive_other look _ (fun _ => .default) (by decide) Part.btnMode).resolve_right
      fun hpart => nomatch hpart.1⟩

/-! ## 6. What a gesture amounts to -/

/-- The events a step of a gesture comes down to: one press for a release of an icon, two for a
    whole gesture on the stickers, a photo for a whole gesture on the shutter. -/
def commanded (a : Screen) : ScreenStep → List Event
  | .press _ _ => []
  | .release _ =>
    match a.touch with
    | .down .effect _ => [.effectButton]
    | .down .face _ => [.stickerButton]
    | .down .motion _ => [.motionButton]
    | _ => []
  | .click =>
    match a.touch with
    | .released .face 1 => [.stickerButton]
    | .released .shutterButton 1 => [.shutterButton]
    | _ => []
  | .event e => if e.ofLayout then [] else [e]

/-- A signal for which no program waits reaches no handler. -/
theorem registered_none {look : Look} {sig : LayoutSignal} {source : Part}
    {picture : Part → PartState}
    (h : mainPrograms.filter (fun p => p.waitsFor sig source) = []) :
    (receive look mainPrograms sig source picture).2.filterMap registered = [] := by
  rw [receive_none h look picture]
  rfl

/-- **What the layout emits**, however filters are looked at. -/
theorem emitted_eq {look : Look} {a : Screen} (horder : InOrder look a) (t : ScreenStep) :
    emitted look a t = commanded a t := by
  have h := horder.orderly
  obtain ⟨view, picture, touch⟩ := a
  cases t with
  | press part button =>
    cases touch with
    | idle =>
      unfold emitted react signalOf commanded
      dsimp only
      cases hshown : shown part (picture part) with
      | false => rfl
      | true =>
        rw [if_pos rfl]
        dsimp only
        cases part with
        | effect => rw [receive_down_effect]; rfl
        | face => rw [receive_down_face]; rfl
        | motion =>
          rw [receive_single (p := downMotion) rfl]
          rfl
        | shutterButton =>
          rw [receive_single (p := downShutter) rfl]
          rfl
        | btnMode => exact registered_none rfl
        | thumbnailBackground => exact registered_none rfl
    | _ => rfl
  | release inside =>
    cases touch with
    | down part button =>
      have hshown : shown part (picture part) = true := h.touch
      unfold emitted react signalOf commanded
      dsimp only
      cases part with
      | effect =>
        have hpressed : picture .effect = .pressed := h.effect button rfl
        rw [receive_up_effect, if_pos hpressed]
        rfl
      | face => rw [receive_up_face]; rfl
      | motion =>
        have hmotion : picture .motion = .visible ∨ picture .motion = .pressed :=
          h.motion.resolve_left fun hd : picture .motion = .default => by
            rw [hd] at hshown
            exact absurd hshown (by decide)
        -- the two programs of the icon differ in their filters only
        obtain rfl := horder.arrival .motion rfl hshown
        rw [receive_up_motion button picture hmotion]
        rfl
      | shutterButton =>
        rcases button with _ | _ | button
        · exact registered_none rfl
        · rw [receive_single (p := upShutter) rfl]
          rfl
        · exact registered_none rfl
      | btnMode => exact registered_none rfl
      | thumbnailBackground => exact registered_none rfl
    | _ => rfl
  | click =>
    cases touch with
    | released part button =>
      have hshown : shown part (picture part) = true := h.touch
      unfold emitted react signalOf commanded
      dsimp only
      by_cases hb : button = 1
      · subst hb
        cases part with
        | effect =>
          have hne : picture .effect ≠ .default := fun hd => by
            rw [hd] at hshown
            exact absurd hshown (by decide)
          rw [receive_clicked_effect look 1 picture hne]
          rfl
        | face => rw [receive_clicked_face]; rfl
        | motion => rw [receive_clicked_motion]; rfl
        | shutterButton => rw [receive_clicked_shutter]; rfl
        | btnMode => rw [receive_clicked_mode h.menu]; rfl
        | thumbnailBackground => exact registered_none rfl
      · rw [receive_clicked_other look button picture hb part]
        cases part <;> simp [hb]
    | _ => rfl
  | event e => rfl

end SelfCamera
