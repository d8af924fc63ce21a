/-
  File:      SelfCamera/Screen.lean
  Subject:   THE APPLICATION BEHIND ITS LAYOUT, over whole runs of gestures.

  What is proved here holds however the layout looks at its filters: as the signal arrives, or in
  turn.

  * **`screen_view`** -- the application behind the screen runs as `step` does, on what the gestures
    amount to; **`screen_layout`** -- and the sticker icon as the pointer model has it;
  * **`menu_run`** -- the menu: three icons and the button that shows them;
  * **`filter_gestures`** -- the filter counts the gestures on the effect icon;
  * **`icon_tells_iff`** -- the runs in which the motion icon shows what `motion` is;
  * **`background_tells`** -- the place of the thumbnail;
  * **`turn_inert`** -- what is left of the layout if filters are looked at in turn.
-/
import SelfCamera.Layout
import SelfCamera.Settings

namespace SelfCamera

open Edje Posix

/-! ## 1. The application behind the screen -/

section EitherLook

variable {look : Look}

/-- What the application does in a step. -/
theorem screenStep_view {a : Screen} (h : InOrder look a) (t : ScreenStep) :
    (screenStep look a t).view = Run.exec step a.view (commanded a t) :=
  congrArg (Run.exec step a.view) (emitted_eq h t)

/-- **The application behind the screen**: its run is the run of `step` on what the gestures amount
    to. -/
theorem screen_view (look : Look) (readdir : List Char → Option (List Dirent)) (cfg : Startup)
    (ts : List ScreenStep) :
    (Run.exec (screenStep look) (screenCreate look readdir cfg) ts).view =
      runApp cfg (Run.outputs (screenStep look) commanded
        (screenCreate look readdir cfg) ts) :=
  Run.exec_simulates (f := Screen.view) (I := InOrder look)
    (fun _ t h => inOrder_step h t) (fun _ t h => screenStep_view h t)
    (inOrder_create look readdir cfg) ts

/-- The pointer, as far as the sticker icon is concerned. -/
def Touch.onFace : Touch → Pointer
  | .down .face button => .down button
  | .released .face button => .released button
  | _ => .idle

/-- The screen, as far as the sticker icon is concerned. -/
def Screen.laidOut (a : Screen) : LaidOut := ⟨a.view, a.touch.onFace⟩

/-- What a step of the screen is to the pointer model: a step of a gesture on the icon, or the
    events that come from elsewhere. -/
def layoutSteps (a : Screen) (t : ScreenStep) : List LayoutStep :=
  match t, a.touch with
  | .press .face button, .idle =>
    if shown .face (a.picture .face) then [.press button] else []
  | .release inside, .down .face _ => [.release inside]
  | .click, .released .face _ => [.click]
  | t, _ => (commanded a t).map LayoutStep.event

theorem laidOut_step {a : Screen} (h : InOrder look a) (t : ScreenStep) :
    (screenStep look a t).laidOut = Run.exec layoutStep a.laidOut (layoutSteps a t) := by
  have hview := screenStep_view h t
  have htouch : (screenStep look a t).touch = touchAfter a t := rfl
  unfold Screen.laidOut
  rw [hview, htouch]
  obtain ⟨view, picture, touch⟩ := a
  cases t with
  | press part button =>
    cases touch with
    | idle =>
      unfold touchAfter layoutSteps
      dsimp only
      cases part with
      | face => cases shown .face (picture .face) <;> rfl
      | _ => dsimp only; split <;> rfl
    | _ => cases part <;> rfl
  | release inside =>
    cases touch with
    | down part button => cases part <;> cases inside <;> rfl
    | _ => rfl
  | click =>
    cases touch with
    | released part button =>
      cases part with
      | face =>
        show LaidOut.mk _ .idle = LaidOut.mk (signal (.clicked button) view) .idle
        rw [signal_clicked]
        unfold commanded
        dsimp only
        by_cases hb : button = 1
        · subst hb
          rfl
        · simp [hb]
      | shutterButton =>
        by_cases hb : button = 1
        · subst hb
          rfl
        · simp [layoutSteps, commanded, hb, touchAfter, Touch.onFace]
      | _ => rfl
    | _ => rfl
  | event e => cases e <;> rfl

/-- **The pointer model of the sticker icon is what the whole layout leaves of it**: every run of
    the screen is, for that icon and the application, a run of the model. -/
theorem screen_layout (look : Look) (readdir : List Char → Option (List Dirent)) (cfg : Startup)
    (ts : List ScreenStep) :
    (Run.exec (screenStep look) (screenCreate look readdir cfg) ts).laidOut =
      Run.exec layoutStep ⟨viewCreate cfg, .idle⟩
        (Run.outputs (screenStep look) layoutSteps (screenCreate look readdir cfg) ts) :=
  Run.exec_simulates (f := Screen.laidOut) (I := InOrder look)
    (fun _ t h => inOrder_step h t) (fun _ t h => laidOut_step h t)
    (inOrder_create look readdir cfg) ts

/-! ## 2. The menu -/

/-- The buttons the menu shows. -/
def Event.ofMenu : Event → Bool
  | .effectButton | .stickerButton | .motionButton => true
  | _ => false

/-- **In every state of every run the three icons are shown exactly while the button of the menu
    is down, and no step of a run reaches the application as one of their presses while it is
    not.** -/
theorem menu_run (look : Look) (readdir : List Char → Option (List Dirent)) (cfg : Startup)
    (ts : List ScreenStep) :
    Run.All (screenStep look) (fun a => MenuInStep a.picture)
        (screenCreate look readdir cfg) ts ∧
      Run.Along (screenStep look)
        (fun a t => ∀ e ∈ emitted look a t, e.ofMenu = true → a.picture .btnMode = .selected)
        (screenCreate look readdir cfg) ts := by
  have h0 := inOrder_create look readdir cfg
  refine ⟨Run.all_of_invariant (I := InOrder look) (fun a t h => inOrder_step h t)
      (fun a h => h.orderly.menu) h0 ts,
    Run.along_of_invariant (I := InOrder look) (fun a t h => inOrder_step h t) ?_ h0 ts⟩
  intro a t h e he hmenu
  rw [emitted_eq h t] at he
  have htouch := h.orderly.touch
  unfold TouchShown at htouch
  have hicon (part : Part) (hicon : part.icon = true)
      (hshown : shown part (a.picture part) = true) : a.picture .btnMode = .selected :=
    (h.orderly.menu.icons part hicon).mp hshown
  cases t with
  | press part button => exact absurd he List.not_mem_nil
  | release inside =>
    dsimp only [commanded] at he
    split at he
    all_goals try exact absurd he List.not_mem_nil
    all_goals
      rename_i hdown
      rw [hdown] at htouch
      exact hicon _ rfl htouch
  | click =>
    dsimp only [commanded] at he
    split at he
    · rename_i hdown
      rw [hdown] at htouch
      exact hicon _ rfl htouch
    · obtain rfl := List.mem_singleton.mp he
      exact absurd hmenu (by decide)
    · exact absurd he List.not_mem_nil
  | event e' =>
    dsimp only [commanded] at he
    split at he
    · exact absurd he List.not_mem_nil
    · rename_i hlayout
      obtain rfl := List.mem_singleton.mp he
      cases e <;> first
        | exact absurd hmenu Bool.false_ne_true
        | exact absurd (rfl : true = true) hlayout

/-! ## 3. The filter -/

/-- Is a gesture on the part released with this step? -/
def releases (part : Part) (a : Screen) : ScreenStep → Bool
  | .release _ =>
    match a.touch with
    | .down p _ => p == part
    | _ => false
  | _ => false

/-- What a step is to the settings. -/
def settingsOf (a : Screen) (t : ScreenStep) : List Setting :=
  if releases .effect a t then [.effect]
  else if releases .motion a t then [.motion]
  else
    match t with
    | .event .enableSticker => [.loaded]
    | _ => []

theorem commanded_sets (a : Screen) (t : ScreenStep) :
    (commanded a t).flatMap Event.sets = settingsOf a t := by
  obtain ⟨view, picture, touch⟩ := a
  cases t with
  | press part button => rfl
  | release inside =>
    cases touch with
    | down part button => cases part <;> rfl
    | _ => rfl
  | click =>
    dsimp only [commanded]
    split <;> rfl
  | event e => cases e <;> rfl

/-- **The settings after a step of the screen.** -/
theorem screen_settings {a : Screen} (h : InOrder look a) (t : ScreenStep) :
    (screenStep look a t).view.settings =
      Run.exec settingsStep a.view.settings (settingsOf a t) := by
  rw [screenStep_view h t, ← commanded_sets]
  exact Run.exec_projects (f := fun s : ViewInfo => s.settings) settings_step a.view (commanded a t)

/-- How many gestures on the effect icon have been released. -/
def observeEffect (a : Screen) (n : Nat) (t : ScreenStep) : Nat :=
  n + (releases .effect a t).toNat

theorem settingsOf_counted (a : Screen) (t : ScreenStep) :
    (settingsOf a t).count .effect = (releases .effect a t).toNat ∧
      (settingsOf a t).count .change = 0 := by
  unfold settingsOf
  cases releases .effect a t with
  | true => exact ⟨rfl, rfl⟩
  | false =>
    cases releases .motion a t with
    | true => exact ⟨rfl, rfl⟩
    | false =>
      rw [if_neg Bool.false_ne_true, if_neg Bool.false_ne_true]
      split <;> exact ⟨rfl, rfl⟩

/-- The filter is the count, round its cycle. -/
structure EffectCounted (look : Look) (r : Screen × Nat) : Prop where
  inOrder : InOrder look r.1
  filter : r.1.view.filter = r.2 % maxFilter
  mode : r.1.view.cammode = 1

theorem effectCounted_step {r : Screen × Nat} (h : EffectCounted look r) (t : ScreenStep) :
    EffectCounted look (Run.watched (screenStep look) observeEffect r t) := by
  obtain ⟨a, n⟩ := r
  obtain ⟨horder, hfilter, hmode⟩ := h
  dsimp only at horder hfilter hmode
  obtain ⟨heffect, hchange⟩ := settingsOf_counted a t
  have hsettings := screen_settings horder t
  have hrange : 0 ≤ a.view.filter ∧ a.view.filter < maxFilter := by
    unfold maxFilter at *
    omega
  refine ⟨inOrder_step horder t, ?_, ?_⟩
  · have hnext := congrArg Settings.filter hsettings
    rw [filter_counted hrange.1 hrange.2, heffect] at hnext
    have hcount : (observeEffect a n t : Int) = n + (releases .effect a t).toNat := by
      unfold observeEffect
      push_cast
      rfl
    calc (screenStep look a t).view.filter
        = (a.view.filter + (releases .effect a t).toNat) % maxFilter := hnext
      _ = (n % maxFilter + (releases .effect a t).toNat) % maxFilter := by rw [hfilter]
      _ = (n + (releases .effect a t).toNat) % maxFilter := Int.emod_add_emod ..
      _ = observeEffect a n t % maxFilter := by rw [hcount]
  · have hnext := congrArg Settings.cammode hsettings
    rw [cammode_counted, hchange] at hnext
    exact hnext.trans hmode

/-- **The filter is the number of gestures released on the effect icon, modulo `MAX_FILTER`,
    whatever else happens on the screen or behind it, and the camera mode is never changed**: every
    gesture counts once, whichever of the part's three programs its signals find; and no program
    emits what `_main_view_change_button_cb` is registered for. -/
theorem filter_gestures (look : Look) (readdir : List Char → Option (List Dirent)) (cfg : Startup)
    (ts : List ScreenStep) :
    let r := Run.exec (Run.watched (screenStep look) observeEffect)
      (screenCreate look readdir cfg, 0) ts
    r.1 = Run.exec (screenStep look) (screenCreate look readdir cfg) ts ∧
      r.1.view.filter = r.2 % maxFilter ∧ r.1.view.cammode = 1 := by
  have h0 : EffectCounted look (screenCreate look readdir cfg, 0) := by
    obtain ⟨enabled, hctl⟩ := viewCreate_toControls cfg
    refine ⟨inOrder_create look readdir cfg, ?_, ?_⟩
    · exact congrArg Controls.filter hctl
    · exact congrArg Controls.cammode hctl
  have h := Run.invariant (P := EffectCounted look) (fun _ t hr => effectCounted_step hr t) h0 ts
  exact ⟨Run.exec_watched observeEffect _ ts, h.filter, h.mode⟩

/-! ## 4. The motion icon -/

/-- `motion` is a flag, and is never set where the menu does not open. -/
structure MotionFlag (look : Look) (a : Screen) : Prop where
  flag : a.view.motion = 0 ∨ a.view.motion = 1
  unset : look = .turn → a.view.motion = 0

/-- A gesture on an icon has found it shown. -/
theorem releases_arrival {a : Screen} (h : InOrder look a) {part : Part} (hicon : part.icon = true)
    {t : ScreenStep} (hr : releases part a t = true) : look = .arrival := by
  have htouch := h.orderly.touch
  unfold TouchShown at htouch
  unfold releases at hr
  split at hr
  · split at hr
    · rename_i p button hdown
      rw [hdown] at htouch
      obtain rfl := beq_iff_eq.mp hr
      exact h.arrival _ hicon htouch
    · exact absurd hr Bool.false_ne_true
  · exact absurd hr Bool.false_ne_true

/-- **`motion` after a step of the screen.** -/
theorem screen_motion {a : Screen} (h : InOrder look a) (t : ScreenStep) :
    (screenStep look a t).view.motion =
      if releases .motion a t then (if a.view.filter ≠ 0 then 0 else a.view.motion ^^^ 1)
      else a.view.motion := by
  have hmotion := congrArg Settings.motion (screen_settings h t)
  refine hmotion.trans ?_
  unfold settingsOf
  cases heffect : releases .effect a t with
  | true =>
    have hother : releases .motion a t = false := by
      unfold releases at heffect ⊢
      split at heffect
      · split at heffect
        · rw [beq_iff_eq.mp heffect]
          rfl
        · exact absurd heffect Bool.false_ne_true
      · exact absurd heffect Bool.false_ne_true
    rw [hother]
    rfl
  | false =>
    cases releases .motion a t with
    | true => rfl
    | false =>
      rw [if_neg Bool.false_ne_true, if_neg Bool.false_ne_true, if_neg Bool.false_ne_true]
      split <;> rfl

theorem motionFlag_step {a : Screen} (h : InOrder look a) (hflag : MotionFlag look a)
    (t : ScreenStep) : MotionFlag look (screenStep look a t) := by
  refine ⟨?_, fun hlook => ?_⟩
  · rw [screen_motion h t]
    split
    · split
      · exact Or.inl rfl
      · rcases hflag.flag with hm | hm <;> rw [hm]
        · exact Or.inr rfl
        · exact Or.inl rfl
    · exact hflag.flag
  · have hr : releases .motion a t = false := Bool.eq_false_iff.mpr fun hr => by
      have harrival := releases_arrival h rfl hr
      rw [hlook] at harrival
      exact absurd harrival (by decide)
    rw [screen_motion h t, hr]
    exact hflag.unset hlook

end EitherLook

/-! ## 5. The place of the thumbnail -/

/-- Only its own programs set it. -/
theorem sets_background : ∀ p ∈ mainPrograms, ∀ set ∈ p.setStates,
    set.1 = .thumbnailBackground → p.source = .thumbnailBackground := by
  decide

/-- The pointer does not touch it. -/
theorem mouse_background (look : Look) (m : MouseSignal) (source : Part)
    (picture : Part → PartState) :
    (receive look mainPrograms (.mouse m) source picture).1 .thumbnailBackground =
      picture .thumbnailBackground := by
  by_cases hsource : source = .thumbnailBackground
  · -- its programs wait for what the application says
    have hnone : mainPrograms.filter (fun p => p.waitsFor (.mouse m) source) = [] := by
      subst hsource
      cases m <;> rfl
    rw [receive_none hnone look picture]
  · rcases receive_sets look mainPrograms (.mouse m) source picture .thumbnailBackground with
      heq | ⟨p, hp, hwaits, hset⟩
    · exact heq
    · simp only [Program.waitsFor, Bool.and_eq_true, beq_iff_eq] at hwaits
      exact absurd (hwaits.1.symm.trans (sets_background p hp _ hset rfl)) hsource

/-- A gesture signals as the pointer does. -/
theorem signalOf_mouse {a : Screen} {t : ScreenStep} (ht : ∀ e, t ≠ .event e) {sig : LayoutSignal}
    {part : Part} (hsig : signalOf a t = some (sig, part)) : ∃ m, sig = .mouse m := by
  unfold signalOf at hsig
  cases t with
  | press p button =>
    dsimp only at hsig
    split at hsig
    · split at hsig
      · cases hsig
        exact ⟨_, rfl⟩
      · cases hsig
    · cases hsig
  | release inside =>
    dsimp only at hsig
    split at hsig
    · cases hsig
      exact ⟨_, rfl⟩
    · cases hsig
  | click =>
    dsimp only at hsig
    split at hsig
    · cases hsig
      exact ⟨_, rfl⟩
    · cases hsig
  | event e => exact absurd rfl (ht e)

/-- No handler of the layout writes a photo. -/
theorem exec_layout_paths {es : List Event} (h : ∀ e ∈ es, e.ofLayout = true) (s : ViewInfo) :
    writtenPaths (Run.exec step s es).trace = writtenPaths s.trace := by
  induction es generalizing s with
  | nil => rfl
  | cons e es ih =>
    have he := h e List.mem_cons_self
    have hwrites : writes s e = none := by
      cases e <;> first | rfl | exact absurd he Bool.false_ne_true
    rw [Run.exec_cons, ih (fun e' he' => h e' (List.mem_cons_of_mem e he')), (step_paths s e).1,
      hwrites]
    rfl

/-- What the place of the thumbnail looks like. -/
def BackgroundTells (readdir : List Char → Option (List Dirent)) (cfg : Startup) (a : Screen) :
    Prop :=
  a.picture .thumbnailBackground =
    if mainViewThumbnailLoad readdir (viewCreate cfg) = none ∧ writtenPaths a.view.trace = [] then
      .noImage
    else .default

theorem background_gesture {look : Look} {readdir : List Char → Option (List Dirent)}
    {cfg : Startup} {a : Screen} (h : BackgroundTells readdir cfg a) {t : ScreenStep}
    (ht : ∀ e, t ≠ .event e) : BackgroundTells readdir cfg (screenStep look a t) := by
  have hpaths : writtenPaths (screenStep look a t).view.trace = writtenPaths a.view.trace := by
    refine exec_layout_paths (fun e he => ?_) a.view
    have hregistered (cs : List Command) (he : e ∈ cs.filterMap registered) :
        e.ofLayout = true := by
      obtain ⟨c, -, hc⟩ := List.mem_filterMap.mp he
      cases c <;> first | (cases hc; rfl) | exact absurd hc nofun
    cases t with
    | event e' => exact absurd rfl (ht e')
    | press part button => exact hregistered _ he
    | release inside => exact hregistered _ he
    | click => exact hregistered _ he
  have hpicture : (screenStep look a t).picture .thumbnailBackground =
      a.picture .thumbnailBackground := by
    unfold screenStep react
    dsimp only
    split
    · rename_i sig part hsig
      obtain ⟨m, rfl⟩ := signalOf_mouse ht hsig
      exact mouse_background look m part a.picture
    · rfl
  unfold BackgroundTells at h ⊢
  rw [hpicture, hpaths]
  exact h

theorem background_event {look : Look} {readdir : List Char → Option (List Dirent)}
    {cfg : Startup} {a : Screen} (h : BackgroundTells readdir cfg a) (e : Event) :
    BackgroundTells readdir cfg (screenStep look a (.event e)) := by
  cases hwrites : writes a.view e with
  | none =>
    have hsig : signalOf a (.event e) = none := by
      unfold signalOf
      dsimp only
      rw [hwrites]
      rfl
    have hpicture : (screenStep look a (.event e)).picture = a.picture := by
      show (react look a (.event e)).1 = a.picture
      unfold react
      rw [hsig]
    have hpaths : writtenPaths (screenStep look a (.event e)).view.trace =
        writtenPaths a.view.trace := by
      unfold screenStep emitted
      dsimp only
      split
      · rfl
      · rw [Run.exec_cons, Run.exec_nil, (step_paths a.view e).1, hwrites]
        rfl
    unfold BackgroundTells at h ⊢
    rw [hpicture, hpaths]
    exact h
  | some tm =>
    -- a photo: the layout is told, and there is a path from now on
    have hlayout : e.ofLayout = false := by
      cases e <;> first | rfl | exact absurd hwrites nofun
    have hsig : signalOf a (.event e) = some (.default, .thumbnailBackground) := by
      unfold signalOf
      dsimp only
      rw [hwrites]
      rfl
    have hpicture : (screenStep look a (.event e)).picture .thumbnailBackground = .default := by
      show (react look a (.event e)).1 .thumbnailBackground = .default
      have hreceived : receive look mainPrograms .default .thumbnailBackground a.picture =
          (Function.update a.picture .thumbnailBackground .default, []) :=
        receive_single (p := defaultImage) rfl look a.picture
      unfold react
      rw [hsig]
      dsimp only
      rw [hreceived]
      exact Function.update_self Part.thumbnailBackground PartState.default a.picture
    have hpaths : writtenPaths (screenStep look a (.event e)).view.trace ≠ [] := by
      unfold screenStep emitted
      dsimp only
      rw [hlayout, if_neg Bool.false_ne_true, Run.exec_cons, Run.exec_nil,
        (step_paths a.view e).1, hwrites]
      exact List.cons_ne_nil _ _
    unfold BackgroundTells
    rw [hpicture, if_neg fun hnone => hpaths hnone.2]

/-- **The place of the thumbnail shows that there is no photo exactly as long as there is none**:
    start-up has found none in the folder, and none has been written since. -/
theorem background_tells (look : Look) (readdir : List Char → Option (List Dirent))
    (cfg : Startup) (ts : List ScreenStep) :
    Run.All (screenStep look) (BackgroundTells readdir cfg) (screenCreate look readdir cfg) ts := by
  refine Run.all_of_invariant (I := BackgroundTells readdir cfg) (fun a t h => ?_) (fun _ h => h)
    ?_ ts
  · cases t with
    | event e => exact background_event h e
    | press part button => exact background_gesture h nofun
    | release inside => exact background_gesture h nofun
    | click => exact background_gesture h nofun
  · have hpaths : writtenPaths (screenCreate look readdir cfg).view.trace = [] :=
      (viewCreate_paths cfg).1
    unfold BackgroundTells
    rw [hpaths]
    cases hfound : mainViewThumbnailLoad readdir (viewCreate cfg) with
    | none =>
      rw [if_pos ⟨rfl, rfl⟩]
      unfold screenCreate
      rw [hfound]
      cases look <;> rfl
    | some path =>
      rw [if_neg fun hnone => nomatch hnone.1]
      unfold screenCreate
      rw [hfound]
      cases look <;> rfl

/-! ## 6. If filters are looked at in turn -/

/-- **Where each filter is looked at when the turn of its program comes, the layout is of no use**:
    the click that opens the menu closes it again, and in no run filter or motion ever change. -/
theorem turn_inert (readdir : List Char → Option (List Dirent)) (cfg : Startup)
    (ts : List ScreenStep) :
    Run.All (screenStep .turn)
      (fun a => a.picture .btnMode = .default ∧ a.view.filter = 0 ∧ a.view.motion = 0)
      (screenCreate .turn readdir cfg) ts := by
  obtain ⟨enabled, hctl⟩ := viewCreate_toControls cfg
  have hmotion : (viewCreate cfg).motion = 0 := congrArg Controls.motion hctl
  refine Run.all_of_invariant
    (I := fun a => InOrder .turn a ∧ MotionFlag .turn a ∧ a.view.filter = 0)
    (fun a t h => ?_) (fun a h => ⟨h.1.closed rfl, h.2.2, h.2.1.unset rfl⟩)
    ⟨inOrder_create .turn readdir cfg, ⟨Or.inl hmotion, fun _ => hmotion⟩,
      congrArg Controls.filter hctl⟩ ts
  obtain ⟨horder, hflag, hfilter⟩ := h
  have hnone {part : Part} (hicon : part.icon = true) : releases part a t = false :=
    Bool.eq_false_iff.mpr fun hr => absurd (releases_arrival horder hicon hr) (by decide)
  have hkept : (settingsOf a t).count .effect = 0 := by
    rw [(settingsOf_counted a t).1, hnone rfl]
    rfl
  have hrange : 0 ≤ a.view.filter ∧ a.view.filter < maxFilter := by
    rw [hfilter]
    decide
  have hnext := congrArg Settings.filter (screen_settings horder t)
  rw [filter_counted hrange.1 hrange.2, hkept] at hnext
  refine ⟨inOrder_step horder t, motionFlag_step horder hflag t, hnext.trans ?_⟩
  show (a.view.filter + (0 : Nat)) % maxFilter = 0
  rw [hfilter]
  rfl

end SelfCamera
