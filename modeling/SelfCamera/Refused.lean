/-
  File:      SelfCamera/Refused.lean
  Subject:   WHICH CALLS A WORKING DEVICE REFUSES, and why.

  A device on which every legal call succeeds refuses the illegal ones only. Two places make one:
  `view_resume` stops a preview that is stopped already, in its twice-over restart; and the sticker
  button starts or stops the detection without asking for the camera's state. That stopping it
  outside PREVIEW is refused, as starting it is, rests on the table of the model
  (`CameraCall.legal`).

  * `irregular` -- the calls of a record that were refused, and the starts of the preview;
  * `irregularOf`, **`step_irregular`** -- the ones an event makes;
  * `restarts_counted` -- one refused stop to two starts of the preview, in every state;
  * **`refused_iff`** -- the runs in which nothing else is refused.
-/
import SelfCamera.InStep
import SelfCamera.Requests

namespace SelfCamera

/-! ## 1. The record of refused calls -/

/-- A refused call, or a start of the preview. -/
def Action.isIrregular : Action → Bool
  | .camera k ok => !ok || k == .startPreview
  | _ => false

/-- The refused calls of a record and the starts of the preview, newest first. -/
def irregular (trace : List Action) : List Action := trace.filter Action.isIrregular

/-- What a restart of the preview leaves there. -/
def restarted : List Action :=
  [.camera .startPreview true, .camera .startPreview true, .camera .stopPreview false]

/-- What a press of the sticker button leaves there while the preview is stopped. -/
def pressedStopped (c : Controls) : List Action :=
  if c.flagFacerunning = false then [.camera .startFaceDetection false]
  else if (c.sticker + 1).tmod maxSticker = 0 then [.camera .stopFaceDetection false]
  else []

/-- **What an event leaves there.** -/
def irregularOf (s : ViewInfo) : Event → List Action
  | .stickerButton =>
    if s.fin = 1 ∧ s.camera.state ≠ .preview then pressedStopped s.toControls else []
  | .resume => if s.camera.state ≠ .preview then restarted else []
  | .frame fr env => if begins s (.frame fr env) && env.captureOk then restarted else []
  | _ => []

theorem irregular_cons {a : Action} (ha : a.isIrregular = false) (before : List Action) :
    irregular (a :: before) = irregular before := by
  unfold irregular
  rw [List.filter_cons, ha]
  rfl

/-- A working device, its preview on, and what its record has of refused calls. -/
structure Regular (entries : List Action) (s : ViewInfo) : Prop where
  ok : s.camera.AllOk
  on : s.camera.state = .preview
  eq : irregular s.trace = entries

/-! ## 2. While the preview is on -/

namespace Regular

variable {entries : List Action} {s : ViewInfo}

/-- A legal call that leaves the camera in PREVIEW is not recorded. -/
theorem invoke (h : Regular entries s) {k : CameraCall} (hlegal : k.legal .preview = true)
    (hmoves : k.moves = false) : Regular entries (s.invoke k) := by
  refine ⟨h.ok.invoke k, (invoke_state hmoves s.camera).trans h.on, ?_⟩
  have haccepts : s.camera.accepts k = true := by
    rw [h.ok.accepts k, h.on]
    exact hlegal
  have hregular : (Action.camera k (s.camera.accepts k)).isIrregular = false := by
    rw [haccepts]
    cases k <;> first | rfl | exact absurd hmoves (by decide)
  rw [invoke_trace, irregular_cons hregular]
  exact h.eq

theorem note (h : Regular entries s) {a : Action} (ha : a.isIrregular = false) :
    Regular entries (s.note a) :=
  ⟨h.ok, h.on, (irregular_cons ha s.trace).trans h.eq⟩

theorem controls (h : Regular entries s) (c : Controls) :
    Regular entries { s with toControls := c } := ⟨h.ok, h.on, h.eq⟩

theorem stopDetection (h : Regular entries s) : Regular entries (stopDetection s) :=
  (h.invoke rfl rfl).controls _

theorem advanceSticker (h : Regular entries s) : Regular entries (advanceSticker s) := by
  unfold SelfCamera.advanceSticker
  dsimp only
  split
  · exact (h.controls { s.toControls with sticker := 0 }).stopDetection
  · exact h.controls { s.toControls with sticker := s.sticker + 2 }

theorem gesture (h : Regular entries s) (shape : FullObjectDetection) (face : Rectangle) :
    Regular entries (gesture shape face s) := by
  have hmouth {t : ViewInfo} (ht : Regular entries t) :
      Regular entries (if mouthOpen shape face then { t with flagCapturing := true } else t) := by
    split
    · exact ht.controls { t.toControls with flagCapturing := true }
    · exact ht
  have hnose {t : ViewInfo} (ht : Regular entries t) (nose : Int × Int) :
      Regular entries { t with nose := nose } := ht.controls { t.toControls with nose := nose }
  unfold SelfCamera.gesture
  refine hnose ?_ _
  split
  · refine hmouth ?_
    split
    · exact h.advanceSticker
    · exact h
  · exact h

theorem landmarkIfRunning (h : Regular entries s) (env : FrameEnv) (frame : Frame) :
    Regular entries (landmarkIfRunning env frame s).1 := by
  by_cases hoff : s.flagFacerunning = false ∨ s.faces = []
  · rw [landmarkIfRunning_off hoff]
    exact h
  · simp only [not_or, Bool.not_eq_false] at hoff
    have hnoted : Regular entries (s.note (.faceLandmark s.faces)) := h.note rfl
    have htick : Regular entries (tick (s.note (.faceLandmark s.faces))) := by
      rw [tick_eq]
      exact hnoted.controls { s.toControls with timer := ticked s.timer }
    rw [landmarkIfRunning_on hoff.1 hoff.2,
      faceLandmark_state env.sp frame (Int.natCast_pos.mpr (List.length_pos_iff.mpr hoff.2))]
    split
    · exact hnoted
    · split
      · exact htick.gesture _ _
      · exact htick

theorem filterIfSelected (h : Regular entries s) (scales : Int → Option (ByteMap × ByteMap))
    (frame : Frame) : Regular entries (filterIfSelected scales frame s).1 := by
  unfold SelfCamera.filterIfSelected applyFilter
  split
  · exact h.invoke rfl rfl
  · exact h

theorem beforeCapture (h : Regular entries s) (env : FrameEnv) (frame : Frame) :
    Regular entries (beforeCapture env frame s) := by
  unfold SelfCamera.beforeCapture
  split
  · exact h.landmarkIfRunning env frame
  · exact h.filterIfSelected filterScales frame
  · exact h

end Regular

/-! ## 3. The functions that move the preview -/

theorem irregular_viewPause {s : ViewInfo} (hok : s.camera.AllOk) :
    irregular (viewPause s).trace = irregular s.trace := by
  by_cases hst : s.camera.state = .preview
  · rw [viewPause_on hst]
    have h : Regular (irregular s.trace) s := ⟨hok, hst, rfl⟩
    have hstopped := h.invoke (k := .stopFaceDetection) rfl rfl
    have haccepts : (s.invoke .stopFaceDetection).camera.accepts .stopPreview = true := by
      rw [hstopped.ok.accepts, hstopped.on]
      rfl
    refine (irregular_cons ?_ _).trans hstopped.eq
    rw [haccepts]
    rfl
  · rw [viewPause_off hst]

/-- In CREATED the calls of the stream and of the detection are illegal, those of the callback are
    not. -/
theorem created_legal :
    (CameraState.created == .preview) = false ∧ (CameraState.created != .none) = true :=
  ⟨rfl, rfl⟩

/-- The stop that `view_resume` makes first is refused; both starts succeed. -/
theorem irregular_restartPreview {s : ViewInfo} (hok : s.camera.AllOk)
    (hst : s.camera.state = .created) :
    irregular (restartPreview s).trace = restarted ++ irregular s.trace := by
  have h : ∀ n k, s.camera.outcome n k = true := hok
  by_cases hf : s.flagFacerunning = true <;> by_cases hs : s.sticker = 0 <;>
    simp [restartPreview, irregular, Action.isIrregular, restarted, Camera.invoke,
      Camera.accepts, CameraCall.legal, CameraCall.perform, created_legal, h, hst, hf, hs]

theorem irregular_viewResume {s : ViewInfo} (hok : s.camera.AllOk)
    (hst : s.camera.state = .created) :
    irregular (viewResume s).1.trace = restarted ++ irregular s.trace := by
  rw [viewResume_created hst]
  exact (irregular_cons rfl _).trans (irregular_restartPreview hok hst)

/-- A capture restarts the preview if it comes to its end. -/
theorem irregular_mycapture {s : ViewInfo} {env : FrameEnv} {frame : Frame}
    (hok : s.camera.AllOk) (hst : s.camera.state = .preview) (he : s.cameraEnabled = true)
    (hf : frame.format = .nv12) :
    irregular (mainViewMycaptureCb env frame s).1.trace =
      (if env.captureOk then restarted else []) ++ irregular s.trace := by
  obtain ⟨hok', hst', -, -, -⟩ := viewPause_ok hok hst
  have hpause := irregular_viewPause hok
  unfold FrameEnv.captureOk
  cases ht : env.localtimeR env.rawtime with
  | none =>
    rw [mycapture_noTime he hf ht]
    exact hpause
  | some tm =>
    rw [mycapture_encode he hf ht]
    dsimp only
    by_cases hr : env.encodeResult = 0
    · rw [if_pos hr, irregular_viewResume (by exact hok') (by exact hst')]
      simp only [hr, Option.isSome_some, beq_self_eq_true, Bool.and_self, if_true]
      exact congrArg (restarted ++ ·) hpause
    · rw [if_neg hr]
      simp only [beq_eq_false_iff_ne.mpr hr, Bool.and_false]
      exact hpause

theorem irregular_stickerButton {s : ViewInfo} (h : InStep s) :
    irregular (mainViewStickerButtonCb s).trace =
      irregularOf s .stickerButton ++ irregular s.trace := by
  have hall : ∀ n k, s.camera.outcome n k = true := h.ok
  by_cases hfin : s.fin = 1
  · cases hst : s.camera.state with
    | none => exact absurd hst h.alive
    | created =>
      cases hf : s.flagFacerunning <;> by_cases hn : (s.sticker + 1).tmod maxSticker = 0 <;>
        simp [mainViewStickerButtonCb, irregularOf, pressedStopped, irregular,
          Action.isIrregular, Camera.invoke, Camera.accepts, CameraCall.legal,
          CameraCall.perform, created_legal, hall, hst, hf, hn, hfin]
    | preview =>
      cases hf : s.flagFacerunning <;> by_cases hn : (s.sticker + 1).tmod maxSticker = 0 <;>
        simp [mainViewStickerButtonCb, irregularOf, irregular, Action.isIrregular,
          Camera.invoke, Camera.accepts, CameraCall.legal, CameraCall.perform, hall, hst, hf,
          hn, hfin]
  · rw [stickerButton_unloaded hfin]
    simp [irregularOf, hfin]

theorem irregular_effectButton {s : ViewInfo} (h : InStep s) :
    irregular (mainViewEffectButtonCb s).trace = irregular s.trace := by
  have hall : ∀ n k, s.camera.outcome n k = true := h.ok
  cases he : filterEffect ((s.filter + 1).tmod maxFilter) <;> cases hst : s.camera.state <;>
    cases hf : s.flagFacerunning <;> by_cases hs : s.sticker = 0 <;>
    first
    | exact absurd hst h.alive
    | simp [mainViewEffectButtonCb, Camera.getState, irregular, Action.isIrregular,
        Camera.invoke, Camera.accepts, CameraCall.legal, CameraCall.perform, hall, hst, hf, hs,
        he]

theorem irregularOf_frame (s : ViewInfo) (fr : Frame) (env : FrameEnv) :
    irregularOf s (.frame fr env) =
      if takes s fr && captureRequested s fr env && env.captureOk then restarted else [] := rfl

theorem irregular_frame {s : ViewInfo} (h : InStep s) (fr : Frame) (env : FrameEnv) :
    irregular (deliver env fr s).1.trace =
      irregularOf s (.frame fr env) ++ irregular s.trace := by
  rw [irregularOf_frame]
  rcases taken_or_idle s fr with ⟨hst, hcb, hsup⟩ | hidle
  · obtain ⟨frame', hf, hd⟩ := deliver_taken hst hcb hsup env
    obtain ⟨hrequest, hfixed⟩ := beforeCapture_request hst hsup env
    have henabled : (beforeCapture env fr s).cameraEnabled = true :=
      (congrArg Prod.fst hfixed).trans h.enabled
    have hbefore : Regular (irregular s.trace) (beforeCapture env fr s) :=
      (Regular.mk h.ok hst rfl).beforeCapture env fr
    have htakes : takes s fr = true := by simp [takes, hst, Option.isSome_iff_ne_none, hcb, hsup]
    rw [hd, htakes, Bool.true_and, ← hrequest]
    cases hq : (beforeCapture env fr s).flagCapturing with
    | false =>
      rw [captureIfRequested_quiet hq]
      exact hbefore.eq
    | true =>
      rw [captureIfRequested_capture hq, ← hbefore.eq, Bool.true_and]
      exact irregular_mycapture (s := { beforeCapture env fr s with flagCapturing := false })
        hbefore.ok hbefore.on henabled hf
  · have htakes : takes s fr = false := by rcases hidle with h | h | h <;> simp [takes, h]
    rw [deliver_idle hidle, htakes]
    rfl

/-- **What an event adds to the record of refused calls.** -/
theorem step_irregular {s : ViewInfo} (h : InStep s) (e : Event) :
    irregular (step s e).trace = irregularOf s e ++ irregular s.trace := by
  cases e with
  | stickerButton => exact irregular_stickerButton h
  | effectButton => exact irregular_effectButton h
  | motionButton =>
    simp only [step, mainViewMotionButtonCb]
    split <;> rfl
  | changeButton => rfl
  | shutterButton =>
    simp only [step, mainViewShutterButtonCb]
    split <;> rfl
  | frame fr env => exact irregular_frame h fr env
  | facesDetected faces =>
    simp only [step]
    split
    · exact irregular_cons rfl _
    · rfl
  | pause => exact irregular_viewPause h.ok
  | resume =>
    unfold irregularOf
    cases hst : s.camera.state with
    | none => exact absurd hst h.alive
    | created => exact irregular_viewResume h.ok hst
    | preview =>
      rw [step, viewResume_on hst]
      exact irregular_cons rfl _
  | enableSticker => rfl

/-- Start-up restarts the preview once. -/
theorem irregular_viewCreate {cfg : Startup} (hok : cfg.AllOk) :
    irregular (viewCreate cfg).trace = restarted := by
  have h : ∀ n k, cfg.outcome n k = true := hok
  have hall : (((sInfo cfg).invoke .create).invoke .setDisplay).camera.AllOk :=
    (Camera.AllOk.invoke (c := (sInfo cfg).camera) hok _).invoke _
  have hst : (((sInfo cfg).invoke .create).invoke .setDisplay).camera.state = .created := by
    simp [sInfo, Camera.invoke, Camera.accepts, CameraCall.legal, CameraCall.perform, h]
  have hinit : mainViewInitCamera (sInfo cfg) =
      viewResume (((sInfo cfg).invoke .create).invoke .setDisplay) := by
    simp [mainViewInitCamera, sInfo, Camera.accepts, Camera.invoke, CameraCall.legal,
      CameraCall.perform, h]
  have hquiet : irregular (((sInfo cfg).invoke .create).invoke .setDisplay).trace = [] := by
    simp [sInfo, irregular, Action.isIrregular, Camera.accepts, Camera.invoke, CameraCall.legal,
      CameraCall.perform, h]
  unfold viewCreate
  rw [hinit]
  dsimp only
  rw [irregular_viewResume hall hst, hquiet]
  rfl

/-! ## 4. Runs -/

/-- Is this the call `k`, with the answer `ok`? -/
def Action.isCall (k : CameraCall) (ok : Bool) : Action → Bool
  | .camera k' ok' => k == k' && ok == ok'
  | _ => false

/-- How often the record has the call `k` with the answer `ok`. -/
def calls (k : CameraCall) (ok : Bool) (trace : List Action) : Nat :=
  trace.countP (Action.isCall k ok)

/-- Only the stop of a restart has been refused. -/
def Conforms (s : ViewInfo) : Prop :=
  ∀ k, .camera k false ∈ s.trace → k = .stopPreview

/-- If this is a press of the sticker button that moves the detection, the preview is on. -/
def AsksOnline (s : ViewInfo) (e : Event) : Prop :=
  e = .stickerButton → s.fin = 1 → s.camera.state ≠ .preview → pressedStopped s.toControls = []

/-- The refused calls are among the irregular ones. -/
theorem mem_irregular {k : CameraCall} {trace : List Action} :
    .camera k false ∈ irregular trace ↔ .camera k false ∈ trace := by
  unfold irregular
  rw [List.mem_filter]
  exact and_iff_left rfl

theorem calls_irregular {k : CameraCall} {ok : Bool} (h : ok = false ∨ k = .startPreview)
    (trace : List Action) : calls k ok (irregular trace) = calls k ok trace := by
  unfold calls irregular
  rw [List.countP_filter]
  refine List.countP_congr fun a _ => ?_
  cases a with
  | camera k' ok' =>
    simp only [Action.isCall, Action.isIrregular, Bool.and_eq_true, beq_iff_eq, Bool.or_eq_true,
      Bool.not_eq_true']
    constructor
    · exact fun h => h.1
    · rintro ⟨rfl, rfl⟩
      exact ⟨⟨rfl, rfl⟩, h⟩
  | _ => simp [Action.isCall]

/-- The three things an event may leave: nothing, a restart, or a press while the preview is
    stopped. -/
theorem irregularOf_cases (s : ViewInfo) (e : Event) :
    irregularOf s e = [] ∨ irregularOf s e = restarted ∨
      (e = .stickerButton ∧ s.fin = 1 ∧ s.camera.state ≠ .preview ∧
        irregularOf s e = pressedStopped s.toControls) := by
  cases e with
  | stickerButton =>
    dsimp only [irregularOf]
    split
    · rename_i hoff
      exact .inr (.inr ⟨rfl, hoff.1, hoff.2, rfl⟩)
    · exact .inl rfl
  | frame fr env =>
    rw [irregularOf_frame]
    split
    · exact .inr (.inl rfl)
    · exact .inl rfl
  | resume =>
    dsimp only [irregularOf]
    split
    · exact .inr (.inl rfl)
    · exact .inl rfl
  | _ => exact .inl rfl

/-- **One event keeps the proportion**: a restart starts the preview twice, and only a restart
    starts it or is refused a stop. -/
theorem irregularOf_counted (s : ViewInfo) (e : Event) :
    calls .startPreview true (irregularOf s e) =
      2 * calls .stopPreview false (irregularOf s e) := by
  rcases irregularOf_cases s e with h | h | ⟨-, -, -, h⟩ <;> rw [h]
  · decide
  · decide
  · unfold pressedStopped
    split
    · decide
    · split <;> decide

theorem restarts_counted {cfg : Startup} (hok : cfg.AllOk) (es : List Event) :
    Run.All step (fun s => calls .startPreview true s.trace = 2 * calls .stopPreview false s.trace)
      (viewCreate cfg) es := by
  refine Run.all_of_invariant (I := fun s : ViewInfo => InStep s ∧
    calls .startPreview true s.trace = 2 * calls .stopPreview false s.trace) ?_
    (fun _ h => h.2) ⟨(viewCreate_ok hok).1, ?_⟩ es
  · intro s e h
    refine ⟨inStep_step h.1 e, ?_⟩
    have hcount := h.2
    have hstep := irregularOf_counted s e
    rw [← calls_irregular (.inr rfl), ← calls_irregular (.inl rfl)] at hcount ⊢
    rw [step_irregular h.1 e]
    unfold calls at *
    rw [List.countP_append, List.countP_append]
    omega
  · rw [← calls_irregular (.inr rfl), ← calls_irregular (.inl rfl), irregular_viewCreate hok]
    decide

/-- **What an event does to the protocol**: a press of the sticker button while the preview is
    stopped breaks it, if it moves the detection. -/
theorem conforms_step {s : ViewInfo} (h : InStep s) (hconforms : Conforms s) (e : Event) :
    Conforms (step s e) ↔ AsksOnline s e := by
  have hmem (k : CameraCall) : .camera k false ∈ (step s e).trace ↔
      .camera k false ∈ irregularOf s e ∨ .camera k false ∈ s.trace := by
    rw [← mem_irregular, step_irregular h e, List.mem_append, mem_irregular]
  have hrestarted (k : CameraCall) (hk : .camera k false ∈ restarted) : k = .stopPreview := by
    simpa [restarted] using hk
  unfold Conforms AsksOnline
  simp only [hmem]
  constructor
  · intro hnext hpress hfin hst
    subst hpress
    dsimp only [irregularOf] at hnext
    rw [if_pos ⟨hfin, hst⟩] at hnext
    unfold pressedStopped at hnext ⊢
    split
    · rename_i hf
      rw [if_pos hf] at hnext
      exact absurd (hnext .startFaceDetection (.inl List.mem_cons_self)) (by decide)
    · rename_i hf
      rw [if_neg hf] at hnext
      split
      · rename_i hn
        rw [if_pos hn] at hnext
        exact absurd (hnext .stopFaceDetection (.inl List.mem_cons_self)) (by decide)
      · rfl
  · intro hasks k hk
    rcases hk with hk | hk
    · rcases irregularOf_cases s e with h | h | ⟨hpress, hfin, hst, h⟩ <;> rw [h] at hk
      · exact absurd hk List.not_mem_nil
      · exact hrestarted k hk
      · rw [hasks hpress hfin hst] at hk
        exact absurd hk List.not_mem_nil
    · exact hconforms k hk

/-- **On a device that succeeds wherever it may, the application makes no illegal call but the
    first stop of a restart -- one for every two starts of the preview -- exactly as long as no
    press of the sticker button moves the detection while the preview is stopped.** -/
theorem refused_iff {cfg : Startup} (hok : cfg.AllOk) (es : List Event) :
    Run.All step (fun s => calls .startPreview true s.trace = 2 * calls .stopPreview false s.trace)
        (viewCreate cfg) es ∧
      (Run.All step Conforms (viewCreate cfg) es ↔
        Run.Along step AsksOnline (viewCreate cfg) es) := by
  refine ⟨restarts_counted hok es, ?_⟩
  refine Run.all_iff_along (I := InStep) (fun s e h _ => inStep_step h e)
    (fun s e h hconforms => conforms_step h hconforms e) (viewCreate_ok hok).1 ?_ es
  intro k hk
  rw [← mem_irregular, irregular_viewCreate hok] at hk
  simpa [restarted] using hk

/-- A sticker selected, a photo, the next one: no press finds the preview stopped. -/
theorem refused_iff_photo :
    Run.All step Conforms (viewCreate workingStartup)
      [.enableSticker, .stickerButton, .shutterButton, .stickerButton] := by
  refine (refused_iff (fun _ _ => rfl) _).2.mpr ⟨?_, ?_, ?_, ?_, trivial⟩
  · exact fun h => absurd h (by simp)
  · exact fun _ _ h => absurd (by decide +kernel) h
  · exact fun h => absurd h (by simp)
  · exact fun _ _ h => absurd (by decide +kernel) h

end SelfCamera
