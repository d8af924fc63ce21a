/-
  File:      SelfCamera/Chroma.lean
  Subject:   WHICH BYTE OF A CHROMA PAIR COMES FIRST, in the filters and in the capture.

  The encoder is given NV12: U at even, V at odd offsets. The capture exchanges the two bytes of
  every pair before it encodes, so what it takes from the preview is V first. The filters scale the
  first byte by their factor for Cb, before that exchange.

  * `swapUv_uv`, `filterUv_uv` -- the two loops, byte by byte;
  * `handedOver` -- the frame the encoder was given last;
  * **`filter_then_capture_iff`** -- the frames and factors for which the order does not matter.
-/
import SelfCamera.Handlers

namespace SelfCamera

/-! ## 1. The two loops, byte by byte -/

/-- The other byte of the pair. -/
def pairOf (i : Int) : Int := if i % 2 = 0 then i + 1 else i - 1

theorem pairOf_pairOf (i : Int) : pairOf (pairOf i) = i := by
  unfold pairOf
  split <;> split <;> omega

/-- Exchanging the bytes of a pair turns first into second. -/
theorem pairOf_even (i : Int) : pairOf i % 2 = 0 ↔ i % 2 ≠ 0 := by
  unfold pairOf
  split <;> omega

/-- In a plane of whole pairs the other byte is there. -/
theorem pairOf_mem {n i : Int} (heven : n % 2 = 0) (h0 : 0 ≤ i) (hi : i < n) :
    0 ≤ pairOf i ∧ pairOf i < n := by
  unfold pairOf
  split <;> omega

/-- **The loop of the capture exchanges the bytes of every pair.** -/
theorem swapUv_uv {frame : Frame} (heven : frame.uvSize % 2 = 0) {i : Int} (h0 : 0 ≤ i)
    (hi : i < frame.uvSize) : (swapUv frame).uv i = frame.uv (pairOf i) := by
  have hbound : (frame.uvSize + 1).tdiv 2 = (frame.uvSize + 1) / 2 :=
    Int.tdiv_eq_ediv_of_nonneg (by omega)
  have hpair : ((swapUv frame).uv (2 * (i / 2)), (swapUv frame).uv (2 * (i / 2) + 1)) =
      (frame.uv (2 * (i / 2) + 1), frame.uv (2 * (i / 2))) := by
    -- the iteration of this pair exchanges it, the others do not touch it
    refine Loop.forLt_local (j := i / 2)
      (fun t : Frame => (t.uv (2 * (i / 2)), t.uv (2 * (i / 2) + 1))) Prod.swap (by omega)
      (by omega) (fun t => ?_) (fun k t _ _ hk => ?_) frame
    · have hne : 2 * (i / 2) ≠ 2 * (i / 2) + 1 := by omega
      simp [Buffer.set_ne _ _ hne]
    · simp only [Prod.mk.injEq]
      refine ⟨?_, ?_⟩
      · rw [Buffer.set_ne _ _ (by omega), Buffer.set_ne _ _ (by omega)]
      · rw [Buffer.set_ne _ _ (by omega), Buffer.set_ne _ _ (by omega)]
  obtain ⟨hfirst, hsecond⟩ := Prod.mk.inj hpair
  unfold pairOf
  by_cases hmod : i % 2 = 0
  · have hi2 : 2 * (i / 2) = i := by omega
    rw [hi2] at hfirst
    rw [if_pos hmod]
    exact hfirst
  · have hi2 : 2 * (i / 2) = i - 1 := by omega
    rw [hi2, Int.sub_add_cancel] at hsecond
    rw [if_neg hmod]
    exact hsecond

/-- The loop of a filter: the first byte of a pair by one map, the second by the other. -/
theorem filterUv_uv (cb cr : ByteMap) {frame : Frame} {i : Int} (h0 : 0 ≤ i)
    (hi : i < frame.uvSize) :
    (filterUv cb cr frame).uv i = if i % 2 = 0 then cb (frame.uv i) else cr (frame.uv i) := by
  have hmod : i.tmod 2 = i % 2 := Int.tmod_eq_emod_of_nonneg h0
  refine Loop.forLt_local (fun t : Frame => t.uv i)
    (fun b => if i % 2 = 0 then cb b else cr b) h0 hi (fun t => ?_) (fun k t _ _ hk => ?_) frame
  · rw [hmod]
    by_cases heven : i % 2 = 0
    · rw [if_neg (not_not.mpr heven), if_pos heven]
      exact Buffer.set_same ..
    · rw [if_pos heven, if_neg heven]
      exact Buffer.set_same ..
  · split <;> exact Buffer.set_ne _ _ (Ne.symm hk)

/-! ## 2. What the encoder is given -/

/-- The frame an action gives to the encoder, if it does. -/
def Action.encodedFrame : Action → Option Frame
  | .encodeJpeg frame _ _ => some frame
  | _ => none

/-- The frame the encoder was given last. -/
def handedOver (trace : List Action) : Option Frame := trace.findSome? Action.encodedFrame

theorem handedOver_other {a : Action} (ha : a.encodedFrame = none) (before : List Action) :
    handedOver (a :: before) = handedOver before := by
  unfold handedOver
  rw [List.findSome?_cons, ha]

@[simp] theorem viewResume_handedOver (s : ViewInfo) :
    handedOver (viewResume s).1.trace = handedOver s.trace := by
  cases hst : s.camera.state with
  | none =>
    rw [viewResume_none hst]
    exact handedOver_other rfl _
  | preview =>
    rw [viewResume_on hst]
    exact handedOver_other rfl _
  | created =>
    rw [viewResume_created hst, restartPreview_calls]
    refine (handedOver_other rfl _).trans ?_
    exact invokes_keep (P := fun t => handedOver t.trace = handedOver s.trace)
      (fun _ _ h => (handedOver_other rfl _).trans h) rfl _

/-- The encoder is given the frame with its pairs exchanged. -/
theorem mycapture_handedOver {s : ViewInfo} {env : FrameEnv} {frame : Frame} {tm : Tm}
    (he : s.cameraEnabled = true) (hf : frame.format = .nv12)
    (ht : env.localtimeR env.rawtime = some tm) :
    handedOver (mainViewMycaptureCb env frame s).1.trace = some (swapUv frame) := by
  rw [mycapture_encode he hf ht]
  dsimp only
  split
  · rw [viewResume_handedOver]
    exact handedOver_other rfl _
  · rfl

/-- A capture from the filter callback hands over the filtered frame. -/
theorem filterCallback_handedOver (scales : Int → Option (ByteMap × ByteMap)) {s : ViewInfo}
    {env : FrameEnv} {frame : Frame} {tm : Tm} (he : s.cameraEnabled = true)
    (hq : s.flagCapturing = true) (hsup : frame.supported = true)
    (ht : env.localtimeR env.rawtime = some tm) :
    handedOver (filterPreviewCallbackWith scales env frame s).1.trace =
      some (swapUv (filterIfSelected scales frame s).2) := by
  have hctl : (filterIfSelected scales frame s).1.toControls = s.toControls := by
    unfold filterIfSelected applyFilter
    split <;> rfl
  have hf : (filterIfSelected scales frame s).2.format = .nv12 :=
    (congrArg FrameHeader.format (filterIfSelected_header scales frame s)).trans
      (supported_format hsup)
  have hq' : (filterIfSelected scales frame s).1.flagCapturing = true := by rw [hctl, hq]
  have he' : (filterIfSelected scales frame s).1.cameraEnabled = true := by rw [hctl, he]
  have hcall : filterPreviewCallbackWith scales env frame s =
      captureIfRequested env (filterIfSelected scales frame s).2
        (filterIfSelected scales frame s).1 := by
    simp [filterPreviewCallbackWith, hsup]
  rw [hcall, captureIfRequested_capture hq']
  exact mycapture_handedOver he' hf ht

/-! ## 3. Filter, then capture -/

/-- Filtering by `cb` and `cr` and capturing hands over what capturing alone hands over, with `cb`
    applied to every U byte and `cr` to every V byte. -/
def ChromaAgrees (cb cr : ByteMap) (env : FrameEnv) (frame : Frame) (s : ViewInfo) : Prop :=
  ∃ filtered plain,
    handedOver (filterPreviewCallbackWith (fun _ => some (cb, cr)) env frame s).1.trace =
        some filtered ∧
      handedOver (filterPreviewCallbackWith (fun _ => none) env frame s).1.trace = some plain ∧
      ∀ i, 0 ≤ i → i < frame.uvSize →
        filtered.uv i = if i % 2 = 0 then cb (plain.uv i) else cr (plain.uv i)

/-- After the exchange the byte at `i` is the other one of the pair, and it has been scaled by the
    other factor. -/
theorem swapUv_filterUv_uv (cb cr : ByteMap) {frame : Frame} (heven : frame.uvSize % 2 = 0)
    {i : Int} (h0 : 0 ≤ i) (hi : i < frame.uvSize) :
    (swapUv (filterUv cb cr frame)).uv i =
      if i % 2 = 0 then cr (frame.uv (pairOf i)) else cb (frame.uv (pairOf i)) := by
  have hsize : (filterUv cb cr frame).uvSize = frame.uvSize :=
    congrArg FrameHeader.uvSize (filterUv_header cb cr frame)
  obtain ⟨hp0, hpi⟩ := pairOf_mem heven h0 hi
  rw [swapUv_uv (by rw [hsize]; exact heven) h0 (by rw [hsize]; exact hi),
    filterUv_uv cb cr hp0 hpi]
  by_cases hmod : i % 2 = 0
  · rw [if_pos hmod, if_neg fun h => (pairOf_even i).mp h hmod]
  · rw [if_neg hmod, if_pos ((pairOf_even i).mpr hmod)]

/-- **Filter and capture agree on Cb and Cr exactly for the frames on whose every chroma byte the
    two maps are the same.** -/
theorem filter_then_capture_iff (cb cr : ByteMap) {env : FrameEnv} {frame : Frame} {s : ViewInfo}
    {tm : Tm} (hsup : frame.supported = true) (heven : frame.uvSize % 2 = 0)
    (he : s.cameraEnabled = true) (hq : s.flagCapturing = true)
    (ht : env.localtimeR env.rawtime = some tm) :
    ChromaAgrees cb cr env frame s ↔
      ∀ i, 0 ≤ i → i < frame.uvSize → cb (frame.uv i) = cr (frame.uv i) := by
  have hfiltered := filterCallback_handedOver (fun _ => some (cb, cr)) he hq hsup ht
  have hplain := filterCallback_handedOver (fun _ => none) he hq hsup ht
  constructor
  · intro hagree j h0 hj
    rcases hagree with ⟨filtered, plain, hf, hp, h⟩
    obtain rfl : swapUv (filterUv cb cr frame) = filtered :=
      Option.some.inj (hfiltered.symm.trans hf)
    obtain rfl : swapUv frame = plain := Option.some.inj (hplain.symm.trans hp)
    obtain ⟨hp0, hpj⟩ := pairOf_mem heven h0 hj
    have hbytes := h (pairOf j) hp0 hpj
    rw [swapUv_filterUv_uv cb cr heven hp0 hpj, swapUv_uv heven hp0 hpj, pairOf_pairOf] at hbytes
    split at hbytes
    · exact hbytes.symm
    · exact hbytes
  · intro h
    refine ⟨swapUv (filterUv cb cr frame), swapUv frame, hfiltered, hplain, fun i h0 hi => ?_⟩
    obtain ⟨hp0, hpi⟩ := pairOf_mem heven h0 hi
    rw [swapUv_filterUv_uv cb cr heven h0 hi, swapUv_uv heven h0 hi, h _ hp0 hpi]

/-- With one map for both bytes, on a frame of 4 by 4. -/
theorem filter_then_capture_oneMap :
    ChromaAgrees (scale 95) (scale 95) (standingClock 0) (evenFrame 0 100)
      (runApp workingStartup [.shutterButton]) :=
  (filter_then_capture_iff (scale 95) (scale 95) (by decide) (by decide) (by decide) (by decide)
    (show (standingClock 0).localtimeR 0 = some newYear from rfl)).mpr fun _ _ _ => rfl

/-- The first software filter, on grey: the photo is tinted the wrong way. -/
theorem firstFilter_wrongWay :
    ¬ ChromaAgrees (scale 95) (scale 105) (standingClock 0) (evenFrame 0 100)
      (runApp workingStartup [.shutterButton]) := by
  intro hagree
  rcases hagree with ⟨filtered, plain, hf, hp, h⟩
  have hf0 : some (filtered.uv 0) = some 105 := by
    have hmap := congrArg (Option.map fun f => f.uv 0) hf
    exact hmap.symm.trans (by decide)
  have hp0 : some (plain.uv 0) = some 100 := by
    have hmap := congrArg (Option.map fun f => f.uv 0) hp
    exact hmap.symm.trans (by decide)
  have h0 := h 0 (by decide) (by decide)
  rw [Option.some.inj hf0, Option.some.inj hp0] at h0
  exact absurd h0 (by decide)

end SelfCamera
