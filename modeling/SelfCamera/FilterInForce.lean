/-
  File:      SelfCamera/FilterInForce.lean
  Subject:   IS THE SELECTED FILTER IN FORCE? One press of the effect button, and the next frame.

  The filters 0 to 3 are effects of the device, set by the button. The filters 4 to 12 work on the
  frames, in the filter callback alone, and that callback takes the effect back; the button installs
  it only where it has just stopped the detection. 13 does neither.

  * `deliver_detectionOff` -- the frame after a press, and the effect it leaves;
  * `inForce_filterCb`, `not_inForce_stickerCb`, `inForce_hardware` -- by the kind of the filter;
  * **`filter_inForce_iff`** -- the reachable states in which a press puts the new filter in force.
-/
import SelfCamera.InStep
import SelfCamera.Writes
import SelfCamera.Chroma

namespace SelfCamera

/-- The hardware effect a filter value asks for. -/
def selectedEffect : Int → Effect
  | 1 => .mono
  | 2 => .negative
  | 3 => .sepia
  | _ => .none

/-- The filter value of `s` is in force on this frame: a software filter has gone over it, before
    the capture if one was requested, and the device has the effect that belongs to the value. -/
def InForce (s : ViewInfo) (env : FrameEnv) (frame : Frame) : Prop :=
  (∀ cb cr, filterScales s.filter = some (cb, cr) →
      (deliver env frame s).2 =
        if s.flagCapturing then swapUv (filterUv cb cr frame) else filterUv cb cr frame) ∧
    (deliver env frame s).1.camera.effect = selectedEffect s.filter

/-- Where a press of the effect button puts the next filter in force: a hardware filter; a
    software filter, if the filter callback is installed or the button installs it; the value 13,
    if no effect is left from before. -/
def PutsInForce (s : ViewInfo) : Prop :=
  let next := (s.filter + 1).tmod maxFilter
  next ≤ 3 ∨
    (4 ≤ next ∧ next ≤ 12 ∧ (s.camera.previewCb = some .filter ∨
      (s.flagFacerunning = true ∧ s.sticker ≠ 0))) ∨
    (next = 13 ∧ s.camera.effect = .none)

/-! ## 1. The values of the filter -/

/-- Only the effect button moves the filter. -/
theorem step_filter (s : ViewInfo) (e : Event) :
    (step s e).filter =
      match e with
      | .effectButton => (s.filter + 1).tmod maxFilter
      | _ => s.filter := by
  rw [step_toControls]
  cases e with
  | stickerButton =>
    dsimp only [written]
    split <;> rfl
  | _ => rfl

/-- The filter is never negative. -/
theorem filter_nonneg {cfg : Startup} (hok : cfg.AllOk) (es : List Event) :
    0 ≤ (runApp cfg es).filter := by
  obtain ⟨-, -, -, -, hctl, -⟩ := viewCreate_ok hok
  refine Run.invariant (P := fun s : ViewInfo => 0 ≤ s.filter) (fun s e h => ?_)
    (le_of_eq (congrArg Controls.filter hctl).symm) es
  rw [step_filter]
  split
  · exact Int.tmod_nonneg _ (by omega)
  · exact h

/-- The effect the button sets is the one that belongs to the value; it sets none for the software
    filters and for 13. -/
theorem filterEffect_eq {f : Int} (h0 : 0 ≤ f) :
    filterEffect f = if f ≤ 3 then some (selectedEffect f) else none := by
  by_cases h3 : f ≤ 3
  · have hcases : f = 0 ∨ f = 1 ∨ f = 2 ∨ f = 3 := by omega
    rcases hcases with rfl | rfl | rfl | rfl <;> rfl
  · rw [if_neg h3]
    unfold filterEffect
    split <;> first | omega | rfl

theorem selectedEffect_none {f : Int} (h : 4 ≤ f) : selectedEffect f = .none := by
  unfold selectedEffect
  split <;> first | omega | rfl

/-- The software filters are the values 4 to 12. -/
theorem filterScales_isSome {f : Int} : (filterScales f).isSome = true ↔ 4 ≤ f ∧ f ≤ 12 := by
  constructor
  · intro h
    unfold filterScales at h
    split at h <;> first | omega | exact absurd h (by decide)
  · intro hsoft
    rcases hsoft with ⟨h4, h12⟩
    have hcases : f = 4 ∨ f = 5 ∨ f = 6 ∨ f = 7 ∨ f = 8 ∨ f = 9 ∨ f = 10 ∨ f = 11 ∨ f = 12 := by
      omega
    rcases hcases with rfl | rfl | rfl | rfl | rfl | rfl | rfl | rfl | rfl <;> rfl

/-- Every software filter changes the chroma value 100. -/
theorem filterScales_changes {f : Int} {cb cr : ByteMap} (h : filterScales f = some (cb, cr)) :
    cb 100 ≠ 100 ∧ cr 100 ≠ 100 := by
  unfold filterScales at h
  split at h <;> first | (obtain ⟨rfl, rfl⟩ := Prod.mk.inj (Option.some.inj h); decide) | cases h

/-! ## 2. One press and the next frame -/

/-- What a press leaves in PREVIEW: detection off, and the callback that decides about the next
    frame. -/
theorem effectButton_preview {s : ViewInfo} (hi : InStep s) (hst : s.camera.state = .preview) :
    let s' := mainViewEffectButtonCb s
    let next := (s.filter + 1).tmod maxFilter
    InStep s' ∧ s'.camera.state = .preview ∧ s'.filter = next ∧ s'.flagFacerunning = false ∧
      (s'.camera.previewCb = some .filter ↔
        (s.camera.previewCb = some .filter ∨ (s.flagFacerunning = true ∧ s.sticker ≠ 0))) ∧
      s'.camera.effect = (filterEffect next).getD s.camera.effect := by
  obtain ⟨hi', hctl, hst', hcb', heff'⟩ := effectButton_ok hi
  refine ⟨hi', hst'.trans hst, congrArg Controls.filter hctl, ?_, ?_, heff'⟩
  · rw [hctl]
    simp [hst]
  · rw [hcb']
    by_cases hon : s.flagFacerunning = true ∧ s.sticker ≠ 0
    · rw [if_pos ⟨hst, hon.1, hon.2⟩]
      exact ⟨fun _ => Or.inr hon, fun _ => rfl⟩
    · rw [if_neg fun h => hon h.2]
      exact ⟨Or.inl, fun h => h.resolve_right hon⟩

/-- **The frame and the effect after it, with detection off**: the filter goes over the frame
    exactly under the filter callback. -/
theorem deliver_detectionOff {s : ViewInfo} (hi : InStep s) (hst : s.camera.state = .preview)
    (hoff : s.flagFacerunning = false) {frame : Frame} (hsup : frame.supported = true)
    (env : FrameEnv) :
    let shown :=
      if s.camera.previewCb = some .filter then (filterIfSelected filterScales frame s).2 else frame
    (deliver env frame s).2 = (if s.flagCapturing then swapUv shown else shown) ∧
      (deliver env frame s).1.camera.effect =
        if s.camera.previewCb = some .filter ∧ (filterScales s.filter).isSome then .none
        else s.camera.effect := by
  refine ⟨?_, (deliver_ok hi hst hsup env).2.2.2⟩
  rcases deliver_cases s frame with (hidle | hidle | hidle) | ⟨-, hcb, -⟩ | ⟨-, hcb, -⟩
  · exact absurd hst hidle
  · exact absurd hidle hi.installed
  · exact absurd (hidle.symm.trans hsup) (by decide)
  · rw [deliver_sticker hst hcb hsup, landmarkIfRunning_off (Or.inl hoff), hcb,
      captureIfRequested_frame hi.enabled]
    rfl
  · obtain ⟨hl, hctl, -, -, -⟩ := filterIfSelected_ok hi filterScales frame
    rw [deliver_filter hst hcb hsup, captureIfRequested_frame hl.enabled, hctl, if_pos hcb]

/-- Without the filter callback a software filter is not in force: the frame of constant chroma
    100 shows it. -/
theorem not_inForce_stickerCb {s : ViewInfo} (hi : InStep s) (hst : s.camera.state = .preview)
    (hoff : s.flagFacerunning = false) (hcb : s.camera.previewCb ≠ some .filter)
    (hsoft : (filterScales s.filter).isSome = true) (env : FrameEnv) :
    ¬ InForce s env (evenFrame 0 100) := by
  intro hforce
  rcases hforce with ⟨hframe, -⟩
  obtain ⟨⟨cb, cr⟩, hscales⟩ := Option.isSome_iff_exists.mp hsoft
  obtain ⟨hcb100, hcr100⟩ := filterScales_changes hscales
  have hsup : (evenFrame 0 100).supported = true := by decide
  obtain ⟨hshown, -⟩ := deliver_detectionOff hi hst hoff hsup env
  have heq := hshown.symm.trans (hframe cb cr hscales)
  rw [if_neg hcb] at heq
  have huv := congrArg (fun f : Frame => f.uv 0) heq
  have h0 : (0 : Int) < (evenFrame 0 100).uvSize := by decide
  cases hq : s.flagCapturing with
  | false =>
    rw [hq] at huv
    have hbyte : (evenFrame 0 100).uv 0 = (filterUv cb cr (evenFrame 0 100)).uv 0 := huv
    rw [filterUv_uv cb cr (Int.le_refl 0) h0] at hbyte
    exact hcb100 hbyte.symm
  | true =>
    rw [hq] at huv
    have hbyte : (swapUv (evenFrame 0 100)).uv 0 =
        (swapUv (filterUv cb cr (evenFrame 0 100))).uv 0 := huv
    rw [swapUv_filterUv_uv cb cr (by decide) (Int.le_refl 0) h0,
      swapUv_uv (by decide) (Int.le_refl 0) h0] at hbyte
    exact hcr100 hbyte.symm

/-- Under the filter callback a software filter is in force. -/
theorem inForce_filterCb {s : ViewInfo} (hi : InStep s) (hst : s.camera.state = .preview)
    (hoff : s.flagFacerunning = false) (hcb : s.camera.previewCb = some .filter)
    (hsoft : (filterScales s.filter).isSome = true) {frame : Frame}
    (hsup : frame.supported = true) (env : FrameEnv) : InForce s env frame := by
  obtain ⟨hframe, heffect⟩ := deliver_detectionOff hi hst hoff hsup env
  unfold InForce
  rw [hframe, heffect, if_pos hcb]
  refine ⟨fun cb cr hscales => ?_, ?_⟩
  · unfold filterIfSelected
    rw [hscales]
    rfl
  · rw [if_pos ⟨hcb, hsoft⟩, selectedEffect_none (filterScales_isSome.mp hsoft).1]

/-- Of a value without a software filter the device's effect is all there is. -/
theorem inForce_hardware {s : ViewInfo} (hi : InStep s) (hst : s.camera.state = .preview)
    (hoff : s.flagFacerunning = false) (hsoft : ¬ (filterScales s.filter).isSome = true)
    {frame : Frame} (hsup : frame.supported = true) (env : FrameEnv) :
    InForce s env frame ↔ s.camera.effect = selectedEffect s.filter := by
  obtain ⟨-, heffect⟩ := deliver_detectionOff hi hst hoff hsup env
  unfold InForce
  rw [heffect, if_neg fun hand => hsoft hand.2]
  refine ⟨fun h => h.2, fun h => ⟨fun cb cr hscales => absurd ?_ hsoft, h⟩⟩
  rw [hscales]
  rfl

/-- **In a reachable state with the camera in PREVIEW, a press of the effect button puts the next
    filter in force on every next frame exactly where `PutsInForce` says.** -/
theorem filter_inForce_iff {cfg : Startup} (hok : cfg.AllOk) (es : List Event)
    (hst : (runApp cfg es).camera.state = .preview) :
    (∀ env frame, frame.supported = true →
        InForce (mainViewEffectButtonCb (runApp cfg es)) env frame) ↔
      PutsInForce (runApp cfg es) := by
  have h0 := filter_nonneg hok es
  obtain ⟨hi', hst', hf', hoff', hcb', heff'⟩ := effectButton_preview (inStep_run hok es) hst
  unfold PutsInForce
  generalize mainViewEffectButtonCb (runApp cfg es) = s' at *
  generalize runApp cfg es = s at *
  dsimp only at *
  have hnext0 : 0 ≤ s'.filter := by
    rw [hf']
    exact Int.tmod_nonneg _ (by omega)
  have hnext14 : s'.filter < 14 := by
    rw [hf']
    exact Int.tmod_lt_of_pos _ (by decide)
  rw [← hf', ← hcb']
  rw [← hf', filterEffect_eq hnext0] at heff'
  have hsup : (evenFrame 0 100).supported = true := by decide
  by_cases hsoft : (filterScales s'.filter).isSome = true
  · obtain ⟨h4, h12⟩ := filterScales_isSome.mp hsoft
    constructor
    · intro h
      refine Or.inr (Or.inl ⟨h4, h12, Classical.byContradiction fun hcb => ?_⟩)
      exact not_inForce_stickerCb hi' hst' hoff' hcb hsoft (standingClock 0) (h _ _ hsup)
    · intro hcond env frame hsup'
      rcases hcond with h3 | ⟨-, -, hcb⟩ | ⟨h13, -⟩
      · omega
      · exact inForce_filterCb hi' hst' hoff' hcb hsoft hsup' env
      · omega
  · -- the effect of the device decides: the button has set it, or (13) it is left from before
    have hiff : (∀ env frame, frame.supported = true → InForce s' env frame) ↔
        s'.camera.effect = selectedEffect s'.filter :=
      ⟨fun h => (inForce_hardware hi' hst' hoff' hsoft hsup (standingClock 0)).mp (h _ _ hsup),
        fun h env _ hsup' => (inForce_hardware hi' hst' hoff' hsoft hsup' env).mpr h⟩
    rw [hiff, heff']
    by_cases h3 : s'.filter ≤ 3
    · rw [if_pos h3]
      exact ⟨fun _ => Or.inl h3, fun _ => rfl⟩
    · have h13 : s'.filter = 13 := by
        have hnot : ¬ (4 ≤ s'.filter ∧ s'.filter ≤ 12) := fun h => hsoft (filterScales_isSome.mpr h)
        omega
      rw [if_neg h3, selectedEffect_none (by omega)]
      refine ⟨fun hnone => Or.inr (Or.inr ⟨h13, hnone⟩), ?_⟩
      · intro hcond
        rcases hcond with hle | ⟨-, hle, -⟩ | ⟨-, hnone⟩
        · exact absurd hle h3
        · omega
        · exact hnone

/-- A sticker, and three effects after it: the first of them installs the filter callback, so that
    the fourth is in force on the next frame. -/
theorem filter_inForce_fourth :
    (mainViewEffectButtonCb (runApp workingStartup
        [.enableSticker, .stickerButton, .effectButton, .effectButton, .effectButton])).filter = 4 ∧
      InForce (mainViewEffectButtonCb (runApp workingStartup
          [.enableSticker, .stickerButton, .effectButton, .effectButton, .effectButton]))
        (standingClock 0) (evenFrame 0 100) := by
  refine ⟨by decide +kernel, ?_⟩
  exact (filter_inForce_iff (fun _ _ => rfl)
      [.enableSticker, .stickerButton, .effectButton, .effectButton, .effectButton]
      (by decide +kernel)).mpr
    (Or.inr (Or.inl (by decide +kernel))) (standingClock 0) (evenFrame 0 100) (by decide)

/-- Ten sticker presses and three effect presses leave the sticker callback; the next effect press
    selects filter 4, and it goes over no frame. -/
theorem tenStickersFourEffects_unfiltered :
    (runApp workingStartup (.enableSticker :: List.replicate 10 .stickerButton ++
        List.replicate 3 .effectButton)).camera.state = .preview ∧
      ¬ InForce (mainViewEffectButtonCb (runApp workingStartup
          (.enableSticker :: List.replicate 10 .stickerButton ++ List.replicate 3 .effectButton)))
        (standingClock 0) (evenFrame 0 100) := by
  refine ⟨by decide +kernel, ?_⟩
  intro hforce
  rcases hforce with ⟨hframe, -⟩
  have hfour : (mainViewEffectButtonCb (runApp workingStartup
      (.enableSticker :: List.replicate 10 .stickerButton ++
        List.replicate 3 .effectButton))).filter = 4 := by decide +kernel
  have heq := hframe (scale 95) (scale 105) (by rw [hfour]; rfl)
  have huv := congrArg (fun f : Frame => f.uv 0) heq
  exact absurd huv (by decide +kernel)

end SelfCamera
