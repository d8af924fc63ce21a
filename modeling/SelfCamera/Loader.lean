/-
  File:      SelfCamera/Loader.lean
  Subject:   THE PREDICTOR AND ITS LOADER: is `sp` ever used before it has been read?

  `load_shape_predictor` runs on a thread of its own beside the main loop. It deserialises into
  `sp`, and when that is done it has `enable_sticker` run in the main loop, which sets `fin`. One
  handler looks at `fin`; the others are kept away from the predictor by the flag alone, which only
  that handler sets.

  * `loadingStep` -- the two threads, interleaved in any order;
  * `Unused` -- nothing has touched the predictor yet, and nothing that happens will;
  * **`predictor_loaded`** -- every run, whatever calls fail.
-/
import SelfCamera.Primitive
import SelfCamera.Writes

namespace SelfCamera

/-! ## 1. The two threads -/

/-- Where `load_shape_predictor` stands. -/
inductive LoaderState where
  /-- before and in `dlib::deserialize(file_path) >> sp` -/
  | deserializing
  /-- after it, and before `enable_sticker` -/
  | deserialized
  | done
  deriving DecidableEq

/-- The application and its loader. -/
structure LoadingApp where
  loader : LoaderState
  view : ViewInfo

/-- One step of one of the two threads. -/
inductive LoadingStep where
  /-- the deserialisation is finished -/
  | deserialize
  /-- the main loop runs `enable_sticker` for the loader -/
  | enableSticker
  /-- anything else in the main loop -/
  | event (e : Event)

/-- **One step of the interleaving.** `enable_sticker` has no other caller than the loader. -/
def loadingStep (a : LoadingApp) : LoadingStep → LoadingApp
  | .deserialize =>
    if a.loader = .deserializing then { a with loader := .deserialized } else a
  | .enableSticker =>
    if a.loader = .deserialized then ⟨.done, enableSticker a.view⟩ else a
  | .event .enableSticker => a
  | .event e => { a with view := step a.view e }

/-- `view_create` starts the loader last. -/
def loadingCreate (cfg : Startup) : LoadingApp := ⟨.deserializing, viewCreate cfg⟩

/-! ## 2. Before `enable_sticker` -/

/-- `fin` is not set, detection is off, and `face_landmark` has not been called. -/
structure Unused (s : ViewInfo) : Prop where
  fin : s.fin ≠ 1
  off : s.flagFacerunning = false
  uncalled : ∀ fs, .faceLandmark fs ∉ s.trace

/-- Of the controls only these two matter. -/
theorem Unused.of_eq {s t : ViewInfo} (h : Unused s) (hfin : t.fin = s.fin)
    (hflag : t.flagFacerunning = s.flagFacerunning)
    (htrace : ∀ fs, .faceLandmark fs ∈ t.trace ↔ .faceLandmark fs ∈ s.trace) : Unused t :=
  ⟨by rw [hfin]; exact h.fin, by rw [hflag]; exact h.off,
    fun fs hmem => h.uncalled fs ((htrace fs).mp hmem)⟩

/-- While the flag is off nothing before a capture calls `face_landmark`. -/
theorem live_uncalled :
    Live fun s => s.flagFacerunning = false ∧ ∀ fs, .faceLandmark fs ∉ s.trace where
  invoke h _ := ⟨h.1, by simpa using h.2⟩
  stopDetection h := ⟨rfl, by simpa [stopDetection] using h.2⟩
  faceLandmark h hf := absurd (h.1.symm.trans hf) (by decide)
  controls c h hf _ := ⟨hf.trans h.1, h.2⟩

/-- Nothing but `enable_sticker` writes `fin`. -/
theorem step_fin (s : ViewInfo) {e : Event} (he : e ≠ .enableSticker) :
    (step s e).fin = s.fin := by
  rw [step_toControls]
  cases e with
  | stickerButton =>
    dsimp only [written]
    split <;> rfl
  | enableSticker => exact absurd rfl he
  | _ => rfl

/-- **No event but `enable_sticker` changes that.** The sticker button looks at `fin`, and nothing
    else sets the flag. -/
theorem unused_step {s : ViewInfo} (h : Unused s) {e : Event} (he : e ≠ .enableSticker) :
    Unused (step s e) := by
  have hquiet := And.intro h.off h.uncalled
  have hkeep (ht : (step s e).flagFacerunning = false ∧
      ∀ fs, .faceLandmark fs ∉ (step s e).trace) : Unused (step s e) :=
    ⟨by rw [step_fin s he]; exact h.fin, ht.1, ht.2⟩
  cases e with
  | stickerButton => exact hkeep (live_uncalled.stickerButton hquiet fun hf => absurd hf h.fin)
  | effectButton => exact hkeep (live_uncalled.effectButton hquiet)
  | motionButton => exact hkeep (live_uncalled.motionButton hquiet)
  | changeButton => exact hkeep (live_uncalled.changeButton hquiet)
  | shutterButton => exact hkeep (live_uncalled.shutterButton hquiet)
  | enableSticker => exact absurd rfl he
  | frame fr env =>
    rcases taken_or_idle s fr with ⟨hst, hcb, hsup⟩ | hidle
    · obtain ⟨frame', hf, hd⟩ := deliver_taken hst hcb hsup env
      have hbefore := live_uncalled.beforeCapture hquiet env fr
      refine hkeep ?_
      rw [step, hd, captureIfRequested_toControls]
      exact ⟨hbefore.1, fun fs hmem =>
        hbefore.2 fs ((captureIfRequested_landmark env hf _ fs).mp hmem)⟩
    · rw [step, deliver_idle hidle]
      exact h
  | facesDetected faces =>
    simp only [step]
    split
    · exact h.of_eq rfl rfl fun fs => by
        simp [cameraFaceDetectedCb, cameraFaceDetectedCbAt]
    · exact h
  | pause =>
    exact h.of_eq (congrArg Controls.fin (viewPause_toControls s))
      (congrArg Controls.flagFacerunning (viewPause_toControls s))
      fun fs => viewPause_mem (by simp) s
  | resume =>
    exact h.of_eq (congrArg Controls.fin (viewResume_toControls s))
      (congrArg Controls.flagFacerunning (viewResume_toControls s))
      fun fs => viewResume_mem (by simp) (by simp) s

/-- While the flag is off a frame goes the same way under any predictor. -/
theorem deliver_anyPredictor {s : ViewInfo} (hoff : s.flagFacerunning = false) (env : FrameEnv)
    (frame : Frame) (sp : ShapePredictor) :
    deliver { env with sp := sp } frame s = deliver env frame s := by
  rcases deliver_cases s frame with hidle | ⟨hst, hcb, hsup⟩ | ⟨hst, hcb, hsup⟩
  · rw [deliver_idle hidle, deliver_idle hidle]
  · rw [deliver_sticker hst hcb hsup, deliver_sticker hst hcb hsup,
      landmarkIfRunning_off (Or.inl hoff), landmarkIfRunning_off (Or.inl hoff)]
    rfl
  · rw [deliver_filter hst hcb hsup, deliver_filter hst hcb hsup]
    rfl

/-! ## 3. Runs -/

/-- **The predictor is not used before it is loaded**: the flag is set only with `fin`, `fin` only
    after the deserialisation, and until then `face_landmark` has not been called. -/
structure PredictorSafe (a : LoadingApp) : Prop where
  guarded : a.view.flagFacerunning = true → a.view.fin = 1
  loaded : a.view.fin = 1 → a.loader = .done
  uncalled : a.loader ≠ .done → ∀ fs, .faceLandmark fs ∉ a.view.trace

/-- Until then no step depends on what the predictor would answer. -/
def AnyPredictor (a : LoadingApp) (t : LoadingStep) : Prop :=
  ∀ fr env sp, a.loader ≠ .done → t = .event (.frame fr env) →
    loadingStep a t = loadingStep a (.event (.frame fr { env with sp := sp }))

/-- What holds between any two steps. -/
def LoaderOrder (a : LoadingApp) : Prop :=
  if a.loader = .done then a.view.fin = 1 else Unused a.view

theorem loaderOrder_step {a : LoadingApp} (h : LoaderOrder a) (t : LoadingStep) :
    LoaderOrder (loadingStep a t) := by
  unfold LoaderOrder at h
  cases t with
  | deserialize =>
    simp only [loadingStep]
    split
    · rename_i hl
      rw [if_neg (by simp [hl])] at h
      exact h
    · exact h
  | enableSticker =>
    simp only [loadingStep]
    split
    · exact rfl
    · exact h
  | event e =>
    by_cases he : e = .enableSticker
    · subst he
      exact h
    · have hstep : loadingStep a (.event e) = { a with view := step a.view e } := by
        cases e <;> first | rfl | exact absurd rfl he
      rw [hstep]
      by_cases hl : a.loader = .done
      · rw [if_pos hl] at h
        exact (if_pos hl).mpr ((step_fin a.view he).trans h)
      · rw [if_neg hl] at h
        exact (if_neg hl).mpr (unused_step h he)

theorem predictorSafe_of_order {a : LoadingApp} (h : LoaderOrder a) : PredictorSafe a := by
  unfold LoaderOrder at h
  split at h
  · rename_i hl
    exact ⟨fun _ => h, fun _ => hl, fun hno => absurd hl hno⟩
  · exact ⟨fun hf => absurd (h.off.symm.trans hf) (by decide), fun hfin => absurd hfin h.fin,
      fun _ => h.uncalled⟩

theorem anyPredictor_of_order {a : LoadingApp} (h : LoaderOrder a) (t : LoadingStep) :
    AnyPredictor a t := by
  rintro fr env sp hl rfl
  unfold LoaderOrder at h
  rw [if_neg hl] at h
  simp only [loadingStep, step, deliver_anyPredictor h.off]

/-- Start-up leaves the predictor alone. -/
theorem unused_viewCreate (cfg : Startup) : Unused (viewCreate cfg) := by
  obtain ⟨enabled, hctl⟩ := viewCreate_toControls cfg
  refine ⟨?_, congrArg Controls.flagFacerunning hctl, fun fs => ?_⟩
  · have hfin : (viewCreate cfg).fin = 0 := congrArg Controls.fin hctl
    simp [hfin]
  · have hinit : .faceLandmark fs ∈ (mainViewInitCamera (sInfo cfg)).1.trace ↔
        .faceLandmark fs ∈ (sInfo cfg).trace := by
      unfold mainViewInitCamera
      dsimp only
      split
      · simp
      · split
        · simp
        · simp [viewResume_mem]
    exact fun hmem => absurd (hinit.mp hmem) (by simp [sInfo])

/-- **Under every interleaving of the loader with the main loop, and whatever camera calls fail,
    the predictor is not used before it is loaded.** -/
theorem predictor_loaded (cfg : Startup) (ts : List LoadingStep) :
    Run.All loadingStep PredictorSafe (loadingCreate cfg) ts ∧
      Run.Along loadingStep AnyPredictor (loadingCreate cfg) ts := by
  have h0 : LoaderOrder (loadingCreate cfg) := unused_viewCreate cfg
  refine ⟨?_, ?_⟩
  · exact Run.all_of_invariant (I := LoaderOrder) (fun _ t h => loaderOrder_step h t)
      (fun _ h => predictorSafe_of_order h) h0 ts
  · exact Run.along_of_invariant (I := LoaderOrder) (fun _ t h => loaderOrder_step h t)
      (fun _ t h => anyPredictor_of_order h t) h0 ts

end SelfCamera
