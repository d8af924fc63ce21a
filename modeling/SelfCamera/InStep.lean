/-
  File:      SelfCamera/InStep.lean
  Subject:   WHEN EVERY CAMERA CALL SUCCEEDS, THE FLAGS FOLLOW THE DEVICE.

  * `InStep` -- the invariant: the device exists and has a callback, detection runs exactly when
    the camera is in PREVIEW and `flag_facerunning` is set;
  * `viewPause_ok`, `viewResume_ok`, `mycapture_ok`, `mycapture_failed` -- the device after the
    functions that move it;
  * **`inStep_run`** -- the invariant in every state of every run.
-/
import SelfCamera.Handlers

namespace SelfCamera

/-- **The flags follow the device.** -/
structure InStep (s : ViewInfo) : Prop where
  ok : s.camera.AllOk
  alive : s.camera.state ≠ .none
  installed : s.camera.previewCb ≠ none
  running : s.camera.faceDetection = (s.camera.state == .preview && s.flagFacerunning)
  enabled : s.cameraEnabled = true

/-! ## 1. The functions that move the device -/

theorem viewPause_ok {s : ViewInfo} (hok : s.camera.AllOk) (hst : s.camera.state = .preview) :
    (viewPause s).camera.AllOk ∧ (viewPause s).camera.state = .created ∧
      (viewPause s).camera.previewCb = s.camera.previewCb ∧
      (viewPause s).camera.faceDetection = false ∧
      (viewPause s).camera.effect = s.camera.effect := by
  have h : ∀ n k, s.camera.outcome n k = true := hok
  rw [viewPause_on hst]
  refine ⟨(hok.invoke _).invoke _, ?_⟩
  simp [Camera.invoke, Camera.accepts, CameraCall.legal, CameraCall.perform, h, hst]

theorem restartPreview_ok {s : ViewInfo} (hok : s.camera.AllOk)
    (hst : s.camera.state = .created) :
    (restartPreview s).camera.AllOk ∧ (restartPreview s).camera.state = .preview ∧
      (restartPreview s).camera.previewCb = some (resumeCb s.sticker) ∧
      (restartPreview s).camera.faceDetection = s.flagFacerunning ∧
      (restartPreview s).camera.effect = s.camera.effect := by
  have h : ∀ n k, s.camera.outcome n k = true := hok
  by_cases hf : s.flagFacerunning = true <;> by_cases hs : s.sticker = 0 <;>
    simp [restartPreview, resumeCb, Camera.AllOk, Camera.invoke, Camera.accepts,
      CameraCall.legal, CameraCall.perform, h, hst, hf, hs]

theorem viewResume_ok {s : ViewInfo} (hok : s.camera.AllOk) (hst : s.camera.state = .created) :
    (viewResume s).1.camera.AllOk ∧ (viewResume s).1.camera.state = .preview ∧
      (viewResume s).1.camera.previewCb = some (resumeCb s.sticker) ∧
      (viewResume s).1.camera.faceDetection = s.flagFacerunning ∧
      (viewResume s).1.camera.effect = s.camera.effect := by
  rw [viewResume_created hst]
  exact restartPreview_ok hok hst

/-- A capture that comes to its end leaves the camera as `view_resume` does. -/
theorem mycapture_ok {s : ViewInfo} {env : FrameEnv} {frame : Frame} (hok : s.camera.AllOk)
    (hst : s.camera.state = .preview) (he : s.cameraEnabled = true) (hf : frame.format = .nv12)
    (hc : env.captureOk = true) :
    (mainViewMycaptureCb env frame s).1.camera.AllOk ∧
      (mainViewMycaptureCb env frame s).1.camera.state = .preview ∧
      (mainViewMycaptureCb env frame s).1.camera.previewCb = some (resumeCb s.sticker) ∧
      (mainViewMycaptureCb env frame s).1.camera.faceDetection = s.flagFacerunning ∧
      (mainViewMycaptureCb env frame s).1.camera.effect = s.camera.effect := by
  simp only [FrameEnv.captureOk, Bool.and_eq_true, beq_iff_eq] at hc
  obtain ⟨tm, ht⟩ := Option.isSome_iff_exists.mp hc.1
  obtain ⟨hok', hst', -, -, heff⟩ := viewPause_ok hok hst
  rw [mycapture_encode he hf ht]
  dsimp only
  rw [if_pos hc.2]
  refine (viewResume_ok (by exact hok') (by exact hst')).imp_right fun h => ?_
  simpa [heff] using h

/-- A capture that fails leaves the camera stopped. -/
theorem mycapture_failed {s : ViewInfo} {env : FrameEnv} {frame : Frame}
    (he : s.cameraEnabled = true) (hf : frame.format = .nv12) (hc : env.captureOk = false) :
    (mainViewMycaptureCb env frame s).1.camera = (viewPause s).camera := by
  cases ht : env.localtimeR env.rawtime with
  | none => rw [mycapture_noTime he hf ht]
  | some tm =>
    have hr : env.encodeResult ≠ 0 := by simpa [FrameEnv.captureOk, ht] using hc
    rw [mycapture_encode he hf ht]
    dsimp only
    rw [if_neg hr]
    rfl

/-! ## 2. The buttons -/

/-- **The sticker button on a device that does what it is told**: the selection, the flag, and
    the device after it. -/
theorem stickerButton_ok {s : ViewInfo} (h : InStep s) (hfin : s.fin = 1) :
    let next := (s.sticker + 1).tmod maxSticker
    let s' := mainViewStickerButtonCb s
    InStep s' ∧
      s'.toControls =
        { s.toControls with
          sticker := next
          flagFacerunning := (s.flagFacerunning && next != 0) ||
            (!s.flagFacerunning && s.camera.state == .preview) } ∧
      s'.camera.state = s.camera.state ∧
      s'.camera.previewCb = (if next ≠ 0 then some .sticker else s.camera.previewCb) ∧
      s'.camera.effect = s.camera.effect := by
  obtain ⟨hok, halive, hinst, hrun, hen⟩ := h
  have hall : ∀ n k, s.camera.outcome n k = true := hok
  cases hst : s.camera.state with
  | none => exact absurd hst halive
  | created =>
    cases hf : s.flagFacerunning <;> by_cases hn : (s.sticker + 1).tmod maxSticker = 0 <;>
      refine ⟨⟨?_, ?_, ?_, ?_, ?_⟩, ?_⟩ <;>
      simp [mainViewStickerButtonCb, Camera.AllOk, Camera.invoke, Camera.accepts,
        CameraCall.legal, CameraCall.perform, hall, hst, hf, hn, hfin, hrun, hen, hinst]
  | preview =>
    cases hf : s.flagFacerunning <;> by_cases hn : (s.sticker + 1).tmod maxSticker = 0 <;>
      refine ⟨⟨?_, ?_, ?_, ?_, ?_⟩, ?_⟩ <;>
      simp [mainViewStickerButtonCb, Camera.AllOk, Camera.invoke, Camera.accepts,
        CameraCall.legal, CameraCall.perform, hall, hst, hf, hn, hfin, hrun, hen, hinst]

/-- **The effect button on a device that does what it is told.** -/
theorem effectButton_ok {s : ViewInfo} (h : InStep s) :
    let next := (s.filter + 1).tmod maxFilter
    let s' := mainViewEffectButtonCb s
    InStep s' ∧
      s'.toControls =
        { s.toControls with
          filter := next
          flagFacerunning := s.flagFacerunning && s.camera.state != .preview } ∧
      s'.camera.state = s.camera.state ∧
      s'.camera.previewCb =
        (if s.camera.state = .preview ∧ s.flagFacerunning = true ∧ s.sticker ≠ 0 then some .filter
          else s.camera.previewCb) ∧
      s'.camera.effect = (filterEffect next).getD s.camera.effect := by
  obtain ⟨hok, halive, hinst, hrun, hen⟩ := h
  have hall : ∀ n k, s.camera.outcome n k = true := hok
  cases he : filterEffect ((s.filter + 1).tmod maxFilter) <;> cases hst : s.camera.state <;>
    cases hf : s.flagFacerunning <;> by_cases hs : s.sticker = 0 <;>
    first
    | exact absurd hst halive
    | refine ⟨⟨?_, ?_, ?_, ?_, ?_⟩, ?_⟩ <;>
      simp [mainViewEffectButtonCb, Camera.getState, Camera.AllOk, Camera.invoke, Camera.accepts,
        CameraCall.legal, CameraCall.perform, hall, hst, hf, hs, he, hrun, hen, hinst]

/-! ## 3. The parts of a preview callback -/

/-- The face part may stop the detection, and the flag goes with it. -/
theorem landmarkIfRunning_ok {s : ViewInfo} (h : InStep s) (hst : s.camera.state = .preview)
    (env : FrameEnv) (frame : Frame) :
    InStep (landmarkIfRunning env frame s).1 ∧
      (landmarkIfRunning env frame s).1.camera.state = .preview ∧
      (landmarkIfRunning env frame s).1.camera.previewCb = s.camera.previewCb ∧
      (landmarkIfRunning env frame s).1.camera.effect = s.camera.effect := by
  obtain ⟨hok, halive, hinst, hrun, hen⟩ := h
  have hall : ∀ n k, s.camera.outcome n k = true := hok
  obtain ⟨⟨timer, nose, hc⟩, hcam, -⟩ := landmarkIfRunning_eq env frame s
  cases hw : headGesture env frame s && wraps s.sticker <;>
    refine ⟨⟨?_, ?_, ?_, ?_, ?_⟩, ?_⟩ <;>
    simp [hc, hcam, hw, hst, Camera.AllOk, Camera.invoke, Camera.accepts, CameraCall.legal,
      CameraCall.perform, hall, hinst, hrun, hen]

/-- A software filter takes the hardware effect back. -/
theorem filterIfSelected_ok {s : ViewInfo} (h : InStep s)
    (scales : Int → Option (ByteMap × ByteMap)) (frame : Frame) :
    InStep (filterIfSelected scales frame s).1 ∧
      (filterIfSelected scales frame s).1.toControls = s.toControls ∧
      (filterIfSelected scales frame s).1.camera.state = s.camera.state ∧
      (filterIfSelected scales frame s).1.camera.previewCb = s.camera.previewCb ∧
      (filterIfSelected scales frame s).1.camera.effect =
        (if (scales s.filter).isSome then .none else s.camera.effect) := by
  obtain ⟨hok, halive, hinst, hrun, hen⟩ := h
  have hall : ∀ n k, s.camera.outcome n k = true := hok
  cases hsc : scales s.filter <;> refine ⟨⟨?_, ?_, ?_, ?_, ?_⟩, ?_⟩ <;>
    simp [filterIfSelected, applyFilter, hsc, halive, Camera.AllOk, Camera.invoke,
      Camera.accepts, CameraCall.legal, CameraCall.perform, hall, hinst, hrun, hen]

/-- **The end of a preview callback**: without a request nothing moves; a capture that comes to
    its end leaves the camera as `view_resume` does, one that fails leaves it stopped. -/
theorem captureIfRequested_ok {s : ViewInfo} (h : InStep s) (hst : s.camera.state = .preview)
    {frame : Frame} (hf : frame.format = .nv12) (env : FrameEnv) :
    let s' := (captureIfRequested env frame s).1
    InStep s' ∧
      s'.camera.state = (if s.flagCapturing && !env.captureOk then .created else .preview) ∧
      s'.camera.previewCb =
        (if s.flagCapturing && env.captureOk then some (resumeCb s.sticker)
          else s.camera.previewCb) ∧
      s'.camera.effect = s.camera.effect := by
  cases hq : s.flagCapturing with
  | false =>
    rw [captureIfRequested_quiet hq]
    exact ⟨h, by simp [hst], by simp, rfl⟩
  | true =>
    rw [captureIfRequested_capture hq]
    cases hcap : env.captureOk with
    | true =>
      obtain ⟨hok', hst', hcb', hfd', heff'⟩ :=
        mycapture_ok (s := { s with flagCapturing := false }) h.ok hst h.enabled hf hcap
      exact ⟨⟨hok', by simp [hst'], by simp [hcb'], by simp [hst', hfd'],
        by simp [h.enabled]⟩, by simp [hst'], by simp [hcb'], heff'⟩
    | false =>
      have hcam := mycapture_failed (s := { s with flagCapturing := false }) h.enabled hf hcap
      obtain ⟨hok', hst', hcb', hfd', heff'⟩ :=
        viewPause_ok (s := { s with flagCapturing := false }) h.ok hst
      rw [← hcam] at hok' hst' hcb' hfd' heff'
      exact ⟨⟨hok', by simp [hst'], by simp [hcb', h.installed], by simp [hst', hfd'],
        by simp [h.enabled]⟩, by simp [hst'], by simp [hcb'], heff'⟩

/-! ## 4. Events and runs -/

/-- **A frame the installed callback takes.** The preview goes on unless a requested capture
    fails; the callback is chosen anew exactly when a requested capture comes to its end. -/
theorem deliver_ok {s : ViewInfo} (h : InStep s) (hst : s.camera.state = .preview)
    {frame : Frame} (hsup : frame.supported = true) (env : FrameEnv) :
    let s' := (deliver env frame s).1
    let requested := captureRequested s frame env
    InStep s' ∧
      s'.camera.state = (if requested && !env.captureOk then .created else .preview) ∧
      s'.camera.previewCb =
        (if requested && env.captureOk then some (resumeCb s'.sticker)
          else s.camera.previewCb) ∧
      s'.camera.effect =
        (if s.camera.previewCb = some .filter ∧ (filterScales s.filter).isSome then .none
          else s.camera.effect) := by
  rcases deliver_cases s frame with (hidle | hidle | hidle) | ⟨-, hcb, -⟩ | ⟨-, hcb, -⟩
  · exact absurd hst hidle
  · exact absurd hidle h.installed
  · exact absurd hsup (by simp [hidle])
  · obtain ⟨hl, hlst, hlcb, hleff⟩ := landmarkIfRunning_ok h hst env frame
    obtain ⟨⟨timer, nose, hc⟩, -, -⟩ := landmarkIfRunning_eq env frame s
    have hf : (landmarkIfRunning env frame s).2.format = .nv12 :=
      (congrArg FrameHeader.format (landmarkIfRunning_header env frame s)).trans
        (supported_format hsup)
    have hreq : captureRequested s frame env =
        (landmarkIfRunning env frame s).1.flagCapturing := by
      simp [captureRequested, stickerFrame, hst, hcb, hsup, hc]
    obtain ⟨hi, hst', hcb', heff'⟩ := captureIfRequested_ok hl hlst hf env
    rw [deliver_sticker hst hcb hsup]
    refine ⟨hi, by rw [hst', hreq], ?_, ?_⟩
    · rw [hcb', hreq, captureIfRequested_toControls, hlcb]
    · rw [heff', hleff, if_neg (by simp [hcb])]
  · obtain ⟨hl, hlctl, hlst, hlcb, hleff⟩ := filterIfSelected_ok h filterScales frame
    have hf : (filterIfSelected filterScales frame s).2.format = .nv12 :=
      (congrArg FrameHeader.format (filterIfSelected_header filterScales frame s)).trans
        (supported_format hsup)
    have hreq : captureRequested s frame env =
        (filterIfSelected filterScales frame s).1.flagCapturing := by
      simp [captureRequested, stickerFrame, hcb, hlctl]
    obtain ⟨hi, hst', hcb', heff'⟩ := captureIfRequested_ok hl (hlst.trans hst) hf env
    rw [deliver_filter hst hcb hsup]
    refine ⟨hi, by rw [hst', hreq], ?_, ?_⟩
    · rw [hcb', hreq, captureIfRequested_toControls, hlcb, hlctl]
    · rw [heff', hleff]
      simp [hcb]

theorem inStep_deliver {s : ViewInfo} (h : InStep s) (env : FrameEnv) (frame : Frame) :
    InStep (deliver env frame s).1 := by
  rcases deliver_cases s frame with hidle | ⟨hst, -, hsup⟩ | ⟨hst, -, hsup⟩
  · rw [deliver_idle hidle]
    exact h
  · exact (deliver_ok h hst hsup env).1
  · exact (deliver_ok h hst hsup env).1

/-- **Every event keeps the flags in step with the device.** -/
theorem inStep_step {s : ViewInfo} (h : InStep s) (e : Event) : InStep (step s e) := by
  cases e with
  | stickerButton =>
    by_cases hfin : s.fin = 1
    · exact (stickerButton_ok h hfin).1
    · rw [step, stickerButton_unloaded hfin]
      exact h
  | effectButton => exact (effectButton_ok h).1
  | motionButton =>
    simp only [step, mainViewMotionButtonCb]
    split <;> exact ⟨h.ok, h.alive, h.installed, h.running, h.enabled⟩
  | changeButton => exact ⟨h.ok, h.alive, h.installed, h.running, h.enabled⟩
  | shutterButton =>
    simp only [step, mainViewShutterButtonCb]
    split <;> exact ⟨h.ok, h.alive, h.installed, h.running, h.enabled⟩
  | frame fr env => exact inStep_deliver h env fr
  | facesDetected faces =>
    simp only [step]
    split <;> exact ⟨h.ok, h.alive, h.installed, h.running, h.enabled⟩
  | pause =>
    by_cases hst : s.camera.state = .preview
    · obtain ⟨hok, hst', hcb, hfd, -⟩ := viewPause_ok h.ok hst
      exact ⟨hok, by simp [step, hst'], by simp [step, hcb, h.installed],
        by simp [step, hst', hfd], by simp [step, h.enabled]⟩
    · rw [step, viewPause_off hst]
      exact h
  | resume =>
    cases hst : s.camera.state with
    | none => exact absurd hst h.alive
    | created =>
      obtain ⟨hok, hst', hcb, hfd, -⟩ := viewResume_ok h.ok hst
      exact ⟨hok, by simp [step, hst'], by simp [step, hcb], by simp [step, hst', hfd],
        by simp [step, h.enabled]⟩
    | preview =>
      rw [step, viewResume_on hst]
      exact ⟨h.ok, h.alive, h.installed, h.running, h.enabled⟩
  | enableSticker => exact ⟨h.ok, h.alive, h.installed, h.running, h.enabled⟩

/-- Start-up with every call succeeding: the preview runs, the filter callback is installed. -/
theorem viewCreate_ok {cfg : Startup} (hok : cfg.AllOk) :
    InStep (viewCreate cfg) ∧ (viewCreate cfg).camera.state = .preview ∧
      (viewCreate cfg).camera.previewCb = some .filter ∧
      (viewCreate cfg).camera.effect = .none ∧
      (viewCreate cfg).toControls = { (sInfo cfg).toControls with cameraEnabled := true } ∧
      (viewCreate cfg).faces = [] := by
  have h : ∀ n k, cfg.outcome n k = true := hok
  have hall : (((sInfo cfg).invoke .create).invoke .setDisplay).camera.AllOk :=
    (Camera.AllOk.invoke (c := (sInfo cfg).camera) hok _).invoke _
  have hst : (((sInfo cfg).invoke .create).invoke .setDisplay).camera.state = .created := by
    simp [sInfo, Camera.invoke, Camera.accepts, CameraCall.legal, CameraCall.perform, h]
  have hinit : mainViewInitCamera (sInfo cfg) =
      viewResume (((sInfo cfg).invoke .create).invoke .setDisplay) := by
    simp [mainViewInitCamera, sInfo, Camera.accepts, Camera.invoke, CameraCall.legal,
      CameraCall.perform, h]
  have heff : (((sInfo cfg).invoke .create).invoke .setDisplay).camera.effect = .none := by
    simp [sInfo, Camera.invoke, Camera.accepts, CameraCall.legal, CameraCall.perform, h]
  obtain ⟨hok', hst', hcb', hfd', heff'⟩ := viewResume_ok hall hst
  have hret : (viewResume (((sInfo cfg).invoke .create).invoke .setDisplay)).2 = true := by
    rw [viewResume_created hst]
  have hctl := viewResume_toControls (((sInfo cfg).invoke .create).invoke .setDisplay)
  have hfaces := viewResume_faces (((sInfo cfg).invoke .create).invoke .setDisplay)
  unfold viewCreate
  rw [hinit]
  refine ⟨⟨hok', by simp [hst'], by simp [hcb'], ?_, hret⟩, hst', ?_, ?_, ?_, hfaces⟩
  · simp [hst', hfd']
  · exact hcb'
  · exact heff'.trans heff
  · simp [hret]

/-- **The flags follow the device in every state of every run.** -/
theorem inStep_run {cfg : Startup} (hok : cfg.AllOk) (es : List Event) : InStep (runApp cfg es) :=
  Run.invariant (P := InStep) (fun _ e h => inStep_step h e) (viewCreate_ok hok).1 es

end SelfCamera
