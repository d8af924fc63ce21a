/-
  File:      SelfCamera/Failures.lean
  Subject:   CAMERA CALLS THAT FAIL, AND THE FLAGS: when does the state of the program still agree
             with the device?

  `camera_start_preview`, `camera_stop_preview`, `camera_set_preview_cb` and
  `camera_start_face_detection` may fail at any call; the other calls succeed. `view_resume`
  returns true whatever its calls answered, and ignores that the detection did not start; a pause
  whose stop fails leaves the detection off under a set flag; a button that could not install its
  callback leaves none.

  * `Agreement` -- the property; `ResumeAnswers`, `PausesWell`, `ResumesWell`, `CapturesWell` -- the
    answers it takes;
  * `agreement_pause`, `agreement_resume`, `agreement_capture` -- one pause, resume, capture:
    exactly those answers;
  * **`flags_agree_iff`** -- the runs.
-/
import SelfCamera.Primitive

namespace SelfCamera

/-- The calls that may fail. -/
def CameraCall.mayFail : CameraCall → Bool
  | .startPreview | .stopPreview | .setPreviewCb _ | .startFaceDetection => true
  | _ => false

/-- All other calls succeed. -/
def Startup.OthersOk (cfg : Startup) : Prop := ∀ n k, k.mayFail = false → cfg.outcome n k = true

/-- **Program and device agree.** -/
structure Agreement (s : ViewInfo) : Prop where
  /-- `view_resume` has returned true with a running preview and a callback only -/
  resumed : ∀ camera, .viewResume true camera ∈ s.trace →
    camera.state = .preview ∧ camera.previewCb ≠ none
  /-- in PREVIEW the flag says whether the detection runs -/
  running : s.camera.state = .preview → s.flagFacerunning = s.camera.faceDetection

/-! ## 1. The answers -/

/-- The answers to the calls of a resume, the `n`th call of the run being its first, that leave
    the preview running, the callback installed and the detection as the flag says. -/
def ResumeAnswers (outcome : Nat → CameraCall → Bool) (n : Nat) (running : Bool)
    (sticker : Int) : Prop :=
  ((outcome (n + 2) .startPreview = true ∧ outcome (n + 3) .stopPreview = false) ∨
      outcome (n + 4) .startPreview = true) ∧
    (running = true → outcome (n + 6) .startFaceDetection = true) ∧
    outcome (if running then n + 7 else n + 6) (.setPreviewCb (resumeCb sticker)) = true

/-- A pause in PREVIEW, here and now, stops the preview or has no detection to stop. -/
def PausesWell (s : ViewInfo) : Prop :=
  s.camera.state = .preview → s.flagFacerunning = true →
    s.camera.outcome (s.camera.calls + 1) .stopPreview = true

/-- A resume, here and now, finds a callback, or gets the answers it takes. -/
def ResumesWell (s : ViewInfo) : Prop :=
  (s.camera.state = .preview → s.camera.previewCb ≠ none) ∧
    (s.camera.state = .created →
      ResumeAnswers s.camera.outcome s.camera.calls s.flagFacerunning s.sticker)

/-- A capture, here and now: its pause, and, if it comes to its end with the preview stopped, its
    resume, two calls later. -/
def CapturesWell (s : ViewInfo) (env : FrameEnv) : Prop :=
  PausesWell s ∧
    (env.captureOk = true → s.camera.outcome (s.camera.calls + 1) .stopPreview = true →
      ResumeAnswers s.camera.outcome (s.camera.calls + 2) s.flagFacerunning s.sticker)

/-- The captures, pauses and resumes of an event get the answers they take. -/
def AnsweredWell (s : ViewInfo) : Event → Prop
  | .pause => PausesWell s
  | .resume => ResumesWell s
  | .frame fr env =>
    let t := beforeCapture env fr s
    s.camera.state = .preview → s.camera.previewCb ≠ none → fr.supported = true →
      t.flagCapturing = true → CapturesWell t env
  | _ => True

/-! ## 2. What holds whatever fails -/

/-- The device exists, and detects in PREVIEW only. -/
structure Alive (s : ViewInfo) : Prop where
  others : ∀ n k, k.mayFail = false → s.camera.outcome n k = true
  alive : s.camera.state ≠ .none
  detecting : s.camera.faceDetection = true → s.camera.state = .preview

theorem primitive_alive : Primitive Alive where
  invoke k h := ⟨by simpa using h.others, invoke_alive h.alive k, invoke_detecting h.detecting k⟩
  note h _ := ⟨h.others, h.alive, h.detecting⟩
  photo _ _ _ h := ⟨h.others, h.alive, h.detecting⟩
  controls _ h _ := ⟨h.others, h.alive, h.detecting⟩
  faces _ h := ⟨h.others, h.alive, h.detecting⟩

/-- `camera_enabled` is not written after start-up. -/
theorem primitive_enabled : Primitive fun s => s.cameraEnabled = true where
  invoke _ h := h
  note h _ := h
  photo _ _ _ h := h
  controls _ h hfixed := (congrArg Prod.fst hfixed).trans h
  faces _ h := h

/-- Out of PREVIEW nothing detects. -/
theorem Alive.notDetecting {s : ViewInfo} (h : Alive s) (hst : s.camera.state ≠ .preview) :
    s.camera.faceDetection = false := by
  cases hfd : s.camera.faceDetection with
  | false => rfl
  | true => exact absurd (h.detecting hfd) hst

/-! ## 3. Pause, resume, capture -/

section Steps

variable {s : ViewInfo} (ha : Alive s)

include ha

/-- The device after the stopping of the preview, whether or not it stopped. -/
theorem viewPause_device (hst : s.camera.state = .preview) :
    (viewPause s).camera.state =
        (if s.camera.outcome (s.camera.calls + 1) .stopPreview then .created else .preview) ∧
      (viewPause s).camera.faceDetection = false ∧
      (viewPause s).camera.previewCb = s.camera.previewCb := by
  have hstop : ∀ n, s.camera.outcome n .stopFaceDetection = true := fun n => ha.others n _ rfl
  rw [viewPause_on hst]
  cases hout : s.camera.outcome (s.camera.calls + 1) .stopPreview <;>
    simp [Camera.invoke, Camera.accepts, CameraCall.legal, CameraCall.perform, hst, hstop, hout]

end Steps

/-- The first six calls of a resume. -/
theorem restart_device {c : Camera} (hothers : ∀ n k, k.mayFail = false → c.outcome n k = true)
    (hst : c.state = .created) (hfd : c.faceDetection = false) :
    let c' := [CameraCall.unsetPreviewCb, .stopPreview, .startPreview, .stopPreview,
      .startPreview, .startFocusing].foldl Camera.invoke c
    let running := (c.outcome (c.calls + 2) .startPreview &&
      !c.outcome (c.calls + 3) .stopPreview) || c.outcome (c.calls + 4) .startPreview
    c'.state = (if running then .preview else .created) ∧ c'.previewCb = none ∧
      c'.faceDetection = false ∧ c'.calls = c.calls + 6 ∧ c'.outcome = c.outcome := by
  have hunset : ∀ n, c.outcome n .unsetPreviewCb = true := fun n => hothers n _ rfl
  cases h2 : c.outcome (c.calls + 2) .startPreview <;>
    cases h3 : c.outcome (c.calls + 3) .stopPreview <;>
    cases h4 : c.outcome (c.calls + 4) .startPreview <;>
    simp [Camera.invoke, Camera.accepts, CameraCall.legal, CameraCall.perform, hst, hfd, hunset,
      h2, h3, h4]

/-- **The device after a resume, by the answers it gave.** -/
theorem restartPreview_device {s : ViewInfo} (ha : Alive s) (hst : s.camera.state = .created) :
    let c := s.camera
    let running := (c.outcome (c.calls + 2) .startPreview &&
      !c.outcome (c.calls + 3) .stopPreview) || c.outcome (c.calls + 4) .startPreview
    let installed := c.outcome (if s.flagFacerunning then c.calls + 7 else c.calls + 6)
      (.setPreviewCb (resumeCb s.sticker))
    (restartPreview s).camera.state = (if running then .preview else .created) ∧
      (restartPreview s).camera.faceDetection = (running && s.flagFacerunning &&
        c.outcome (c.calls + 6) .startFaceDetection) ∧
      (restartPreview s).camera.previewCb =
        if installed then some (resumeCb s.sticker) else none := by
  obtain ⟨hst', hcb', hfd', hcalls', hout'⟩ := restart_device ha.others hst
    (ha.notDetecting (by simp [hst]))
  rw [restartPreview_calls, invokes_camera]
  unfold restartCalls
  rw [List.foldl_append]
  -- the six calls are done; the detection and the callback are left
  generalize [CameraCall.unsetPreviewCb, .stopPreview, .startPreview, .stopPreview, .startPreview,
    .startFocusing].foldl Camera.invoke s.camera = c' at *
  dsimp only at hst' ⊢
  generalize ((s.camera.outcome (s.camera.calls + 2) .startPreview &&
    !s.camera.outcome (s.camera.calls + 3) .stopPreview) ||
      s.camera.outcome (s.camera.calls + 4) .startPreview) = running at *
  cases hf : s.flagFacerunning with
  | false =>
    cases running <;>
      cases h6 : s.camera.outcome (s.camera.calls + 6) (.setPreviewCb (resumeCb s.sticker)) <;>
      simp_all [Camera.invoke, Camera.accepts, CameraCall.legal, CameraCall.perform]
  | true =>
    cases running <;>
      cases h6 : s.camera.outcome (s.camera.calls + 6) .startFaceDetection <;>
      cases h7 : s.camera.outcome (s.camera.calls + 7) (.setPreviewCb (resumeCb s.sticker)) <;>
      simp_all [Camera.invoke, Camera.accepts, CameraCall.legal, CameraCall.perform]

/-! ## 4. What a pause, a resume, a capture does to the agreement -/

/-- An entry that is no `view_resume` says nothing. -/
theorem Agreement.note {s : ViewInfo} (h : Agreement s) {a : Action}
    (hquiet : ∀ camera, a ≠ .viewResume true camera) : Agreement (s.note a) := by
  refine ⟨fun camera hmem => ?_, h.running⟩
  rcases List.mem_cons.mp hmem with heq | hmem
  · exact absurd heq.symm (hquiet camera)
  · exact h.resumed camera hmem

/-- Alive and in agreement: what the buttons, the gestures and the filters do keeps it. The
    detection and the flag are moved together there. -/
theorem live_agreement : Live fun s => Alive s ∧ Agreement s where
  invoke {s k} h hk := by
    obtain ⟨ha, hagree⟩ := h
    simp only [CameraCall.quiet, Bool.and_eq_true, Bool.not_eq_true', bne_iff_ne] at hk
    obtain ⟨⟨hmoves, hstart⟩, hstop⟩ := hk
    have hfd : (s.camera.invoke k).faceDetection = s.camera.faceDetection := by
      unfold Camera.invoke
      split
      · cases k <;> simp_all [CameraCall.perform, CameraCall.moves]
      · rfl
    refine ⟨primitive_alive.invoke k ha, (hagree.note (a := .camera k _) (by simp)).resumed, ?_⟩
    intro hst
    rw [invoke_camera, invoke_state hmoves] at hst
    rw [invoke_camera, hfd]
    exact hagree.running hst
  stopDetection {s} h := by
    obtain ⟨ha, hagree⟩ := h
    refine ⟨primitive_alive.live.stopDetection ha,
      (hagree.note (a := .camera _ _) (by simp)).resumed, fun hst => ?_⟩
    have hst' : s.camera.state = .preview := (invoke_state rfl s.camera).symm.trans hst
    have hacc : s.camera.accepts .stopFaceDetection = true := by
      simp [Camera.accepts, CameraCall.legal, hst', ha.others _ .stopFaceDetection rfl]
    show false = (s.camera.invoke .stopFaceDetection).faceDetection
    rw [invoke_accepted hacc]
    rfl
  faceLandmark h _ := ⟨primitive_alive.note h.1 rfl, h.2.note (by simp)⟩
  controls c h hf he :=
    ⟨primitive_alive.controls c h.1 he, h.2.resumed, fun hst => hf.trans (h.2.running hst)⟩

/-- Starting the detection and setting the flag to the answer go together. -/
theorem agreement_startDetection {s : ViewInfo} (h : Agreement s)
    (hoff : s.flagFacerunning = false) : Agreement (startDetection s) := by
  refine ⟨(h.note (a := .camera _ _) (by simp)).resumed, fun hst => ?_⟩
  have hst' : s.camera.state = .preview := (invoke_state rfl s.camera).symm.trans hst
  show s.camera.accepts .startFaceDetection =
    (s.camera.invoke .startFaceDetection).faceDetection
  cases hacc : s.camera.accepts .startFaceDetection with
  | false =>
    rw [invoke_refused hacc]
    exact hoff.symm.trans (h.running hst')
  | true =>
    rw [invoke_accepted hacc]
    rfl

/-- **A pause keeps the agreement exactly when it stops the preview or has no detection to
    stop.** -/
theorem agreement_pause {s : ViewInfo} (ha : Alive s) (h : Agreement s) :
    Agreement (viewPause s) ↔ PausesWell s := by
  by_cases hst : s.camera.state = .preview
  · obtain ⟨hst', hfd', -⟩ := viewPause_device ha hst
    constructor
    · intro hp _ hf
      cases hout : s.camera.outcome (s.camera.calls + 1) .stopPreview with
      | true => rfl
      | false =>
        have hrun := hp.running (by rw [hst', hout]; rfl)
        rw [viewPause_toControls, hf, hfd'] at hrun
        exact absurd hrun (by decide)
    · intro hp
      refine ⟨fun camera hmem => h.resumed camera ((viewPause_mem (by simp) s).mp hmem), ?_⟩
      intro hst''
      rw [viewPause_toControls, hfd']
      cases hf : s.flagFacerunning with
      | false => rfl
      | true =>
        rw [hst', hp hst hf] at hst''
        exact absurd hst'' (by decide)
  · rw [viewPause_off hst]
    exact ⟨fun _ hp => absurd hp hst, fun _ => h⟩

/-- A resume out of PREVIEW keeps the agreement exactly when it gets the answers it takes; nothing
    is asked of the flag before it. -/
theorem agreement_restart {s : ViewInfo} (ha : Alive s) (h : Agreement s)
    (hst : s.camera.state = .created) :
    Agreement ((restartPreview s).note (.viewResume true (restartPreview s).camera)) ↔
      ResumeAnswers s.camera.outcome s.camera.calls s.flagFacerunning s.sticker := by
  obtain ⟨hst', hfd', hcb'⟩ := restartPreview_device ha hst
  constructor
  · intro hr
    obtain ⟨hprev, hinst⟩ := hr.resumed (restartPreview s).camera List.mem_cons_self
    have hrun := hr.running hprev
    rw [note_toControls, restartPreview_toControls, note_camera, hfd'] at hrun
    rw [hst'] at hprev
    rw [hcb'] at hinst
    refine ⟨?_, ?_, ?_⟩
    · by_contra hno
      rw [if_neg (by simpa using hno)] at hprev
      exact absurd hprev (by decide)
    · intro hf
      rw [hf] at hrun
      simp only [Bool.and_eq_true, Bool.true_eq] at hrun
      exact hrun.2
    · by_contra hno
      exact hinst (if_neg hno)
  · intro hans
    rcases hans with ⟨hrunning, hstart, hset⟩
    rw [if_pos (by simpa using hrunning)] at hst'
    rw [if_pos hset] at hcb'
    refine ⟨fun camera hmem => ?_, fun _ => ?_⟩
    · rcases List.mem_cons.mp hmem with heq | hmem
      · obtain ⟨-, rfl⟩ := Action.viewResume.inj heq
        exact ⟨hst', by simp [hcb']⟩
      · exact h.resumed camera ((restartPreview_mem (by simp) s).mp hmem)
    · rw [note_toControls, restartPreview_toControls, note_camera, hfd']
      cases hf : s.flagFacerunning with
      | false => simp
      | true => simp_all

/-- **A resume keeps the agreement exactly when it gets the answers it takes.** -/
theorem agreement_resume {s : ViewInfo} (ha : Alive s) (h : Agreement s) :
    Agreement (viewResume s).1 ↔ ResumesWell s := by
  cases hst : s.camera.state with
  | none => exact absurd hst ha.alive
  | preview =>
    rw [viewResume_on hst]
    refine ⟨fun hr => ⟨fun _ => ?_, fun hc => ?_⟩, fun hw => ⟨fun camera hmem => ?_, h.running⟩⟩
    · exact (hr.resumed s.camera List.mem_cons_self).2
    · exact absurd (hst.symm.trans hc) (by decide)
    · rcases List.mem_cons.mp hmem with heq | hmem
      · obtain ⟨-, rfl⟩ := Action.viewResume.inj heq
        exact ⟨hst, hw.1 hst⟩
      · exact h.resumed camera hmem
  | created =>
    rw [viewResume_created hst]
    refine (agreement_restart ha h hst).trans ⟨fun hans => ⟨fun hp => ?_, fun _ => hans⟩, ?_⟩
    · exact absurd (hst.symm.trans hp) (by decide)
    · exact fun hw => hw.2 hst

/-- The resume of a capture follows two calls after the pause; where the pause did not stop the
    preview it has nothing to do. -/
theorem resumesWell_viewPause {s : ViewInfo} (ha : Alive s) (hst : s.camera.state = .preview)
    (hcb : s.camera.previewCb ≠ none) :
    ResumesWell (viewPause s) ↔
      (s.camera.outcome (s.camera.calls + 1) .stopPreview = true →
        ResumeAnswers s.camera.outcome (s.camera.calls + 2) s.flagFacerunning s.sticker) := by
  obtain ⟨hst', -, hcb'⟩ := viewPause_device ha hst
  have hcalls : (viewPause s).camera.calls = s.camera.calls + 2 := by simp [viewPause_on hst]
  have hout : (viewPause s).camera.outcome = s.camera.outcome := by simp [viewPause_on hst]
  unfold ResumesWell
  rw [hst', hcb', hcalls, hout, viewPause_toControls]
  cases s.camera.outcome (s.camera.calls + 1) .stopPreview <;> simp [hcb]

/-- A capture that comes to its end: the pause, three entries in the record, the resume. -/
theorem agreement_captureEnd {s : ViewInfo} (ha : Alive s) (h : Agreement s)
    (hst : s.camera.state = .preview) (tm : Tm) (frame : Frame) (result : Int) :
    let path := capturePath s.mediaContentFolder tm
    Agreement (viewResume ((((viewPause s).note (.localtime tm)).note
        (.encodeJpeg frame path result)).note (.thumbnailSet path))).1 ↔
      PausesWell s ∧ ResumesWell (viewPause s) := by
  intro path
  have hpause := agreement_pause ha h
  by_cases hp : PausesWell s
  · have hnoted := (((hpause.mpr hp).note (a := .localtime tm) (by simp)).note
      (a := .encodeJpeg frame path result) (by simp)).note (a := .thumbnailSet path) (by simp)
    have halive := primitive_alive.photo tm frame result (primitive_alive.viewPause ha)
    rw [viewPause_toControls] at halive
    exact (agreement_resume (primitive_alive.note halive rfl) hnoted).trans
      ⟨fun hw => ⟨hp, hw⟩, fun hw => hw.2⟩
  · refine ⟨fun hw => absurd ?_ hp, fun hw => absurd hw.1 hp⟩
    intro _ hflag
    cases hout : s.camera.outcome (s.camera.calls + 1) .stopPreview with
    | true => rfl
    | false =>
      -- the preview was not stopped, and the resume leaves the detection off
      obtain ⟨hstill, hfd, -⟩ := viewPause_device ha hst
      rw [hout] at hstill
      rw [viewResume_on (by exact hstill)] at hw
      have hrun := hw.running hstill
      change (viewPause s).flagFacerunning = (viewPause s).camera.faceDetection at hrun
      rw [viewPause_toControls, hflag, hfd] at hrun
      exact absurd hrun (by decide)

/-- **A capture keeps the agreement exactly when its pause does and, if it comes to its end, its
    resume.** -/
theorem agreement_capture {s : ViewInfo} (ha : Alive s) (h : Agreement s)
    (he : s.cameraEnabled = true) (hst : s.camera.state = .preview)
    (hcb : s.camera.previewCb ≠ none) (hq : s.flagCapturing = true) (env : FrameEnv)
    {frame : Frame} (hf : frame.format = .nv12) :
    Agreement (captureIfRequested env frame s).1 ↔ CapturesWell s env := by
  rw [captureIfRequested_capture hq]
  -- the request is taken back first; neither pause nor resume reads it
  have ha' : Alive { s with flagCapturing := false } := ⟨ha.others, ha.alive, ha.detecting⟩
  have he' : ({ s with flagCapturing := false } : ViewInfo).cameraEnabled = true := he
  have h' : Agreement { s with flagCapturing := false } := ⟨h.resumed, h.running⟩
  have hcb' : ({ s with flagCapturing := false } : ViewInfo).camera.previewCb ≠ none := hcb
  have hst' : ({ s with flagCapturing := false } : ViewInfo).camera.state = .preview := hst
  change _ ↔ CapturesWell { s with flagCapturing := false } env
  generalize ({ s with flagCapturing := false } : ViewInfo) = t at *
  unfold CapturesWell
  rw [← resumesWell_viewPause ha' hst' hcb']
  have hpause := agreement_pause ha' h'
  cases ht : env.localtimeR env.rawtime with
  | none =>
    have hno : env.captureOk = false := by simp [FrameEnv.captureOk, ht]
    rw [mycapture_noTime he' hf ht, hpause, hno]
    simp
  | some tm =>
    rw [mycapture_encode he' hf ht]
    dsimp only
    by_cases hr : env.encodeResult = 0
    · have hyes : env.captureOk = true := by simp [FrameEnv.captureOk, ht, hr]
      rw [if_pos hr, hyes]
      exact (agreement_captureEnd ha' h' hst' tm (swapUv frame) env.encodeResult).trans (by simp)
    · have hno : env.captureOk = false := by simp [FrameEnv.captureOk, ht, hr]
      rw [if_neg hr, hno]
      constructor
      · intro hw
        exact ⟨hpause.mp ⟨fun camera hmem => hw.resumed camera (by simp [hmem]), hw.running⟩,
          fun hfalse => absurd hfalse (by decide)⟩
      · intro hw
        exact ((hpause.mpr hw.1).note (by simp)).note (by simp)

/-! ## 5. Runs -/

/-- What precedes the capture of a frame neither stops the preview nor changes the callback. -/
theorem beforeCapture_device (env : FrameEnv) (frame : Frame) {s : ViewInfo}
    (hst : s.camera.state = .preview) :
    (beforeCapture env frame s).camera.state = .preview ∧
      (beforeCapture env frame s).camera.previewCb = s.camera.previewCb := by
  have hcall {k : CameraCall} (hk : k = .stopFaceDetection ∨ ∃ e, k = .attrSetEffect e) :
      (s.camera.invoke k).state = .preview ∧
        (s.camera.invoke k).previewCb = s.camera.previewCb := by
    rcases hk with rfl | ⟨e, rfl⟩
    · refine ⟨(invoke_state rfl _).trans hst, ?_⟩
      unfold Camera.invoke
      split <;> rfl
    · refine ⟨(invoke_state rfl _).trans hst, ?_⟩
      unfold Camera.invoke
      split <;> rfl
  unfold beforeCapture
  split
  · obtain ⟨-, hcam, -⟩ := landmarkIfRunning_eq env frame s
    rw [hcam]
    split
    · exact hcall (Or.inl rfl)
    · exact ⟨hst, rfl⟩
  · unfold filterIfSelected applyFilter
    split
    · exact hcall (Or.inr ⟨_, rfl⟩)
    · exact ⟨hst, rfl⟩
  · exact ⟨hst, rfl⟩

/-- What a frame does to the agreement. -/
theorem agreement_deliver {s : ViewInfo} (ha : Alive s) (he : s.cameraEnabled = true)
    (h : Agreement s) (fr : Frame) (env : FrameEnv) :
    Agreement (deliver env fr s).1 ↔ AnsweredWell s (.frame fr env) := by
  unfold AnsweredWell
  rcases taken_or_idle s fr with ⟨hst, hcb, hsup⟩ | hidle
  · obtain ⟨frame', hf, hd⟩ := deliver_taken hst hcb hsup env
    obtain ⟨hst', hcb'⟩ := beforeCapture_device env fr hst
    obtain ⟨ha', h'⟩ := live_agreement.beforeCapture ⟨ha, h⟩ env fr
    rw [hd]
    cases hq : (beforeCapture env fr s).flagCapturing with
    | false =>
      rw [captureIfRequested_quiet hq]
      exact ⟨fun _ _ _ _ hq' => absurd (hq.symm.trans hq') (by decide), fun _ => h'⟩
    | true =>
      have he' := primitive_enabled.live.beforeCapture he env fr
      rw [agreement_capture ha' h' he' hst' (by rw [hcb']; exact hcb) hq env hf]
      exact ⟨fun hw _ _ _ _ => hw, fun hw => hw hst hcb hsup hq⟩
  · rw [deliver_idle hidle]
    refine ⟨fun _ hst hcb hsup => ?_, fun _ => h⟩
    rcases hidle with hno | hno | hno
    · exact absurd hst hno
    · exact absurd hno hcb
    · exact absurd (hno.symm.trans hsup) (by decide)

/-- **What an event does to the agreement.** -/
theorem agreement_step {s : ViewInfo} (ha : Alive s) (he : s.cameraEnabled = true)
    (h : Agreement s) (e : Event) :
    Agreement (step s e) ↔ AnsweredWell s e := by
  have hboth : Alive s ∧ Agreement s := ⟨ha, h⟩
  cases e with
  | stickerButton =>
    refine ⟨fun _ => trivial, fun _ => (live_agreement.stickerButton hboth ?_).2⟩
    intro _ hoff ht
    have hoff' : (selectCb (pressed s)).flagFacerunning = false := by
      rw [selectCb_toControls]
      exact hoff
    exact ⟨primitive_alive.controls _ (primitive_alive.invoke _ ht.1) rfl,
      agreement_startDetection ht.2 hoff'⟩
  | effectButton => exact ⟨fun _ => trivial, fun _ => (live_agreement.effectButton hboth).2⟩
  | motionButton => exact ⟨fun _ => trivial, fun _ => (live_agreement.motionButton hboth).2⟩
  | changeButton => exact ⟨fun _ => trivial, fun _ => (live_agreement.changeButton hboth).2⟩
  | shutterButton => exact ⟨fun _ => trivial, fun _ => (live_agreement.shutterButton hboth).2⟩
  | enableSticker => exact ⟨fun _ => trivial, fun _ => (live_agreement.enableSticker hboth).2⟩
  | facesDetected faces =>
    refine ⟨fun _ => trivial, fun _ => ?_⟩
    simp only [step]
    split
    · exact ⟨(h.note (a := .facesDetected _) (by simp)).resumed, h.running⟩
    · exact h
  | pause => exact agreement_pause ha h
  | resume => exact agreement_resume ha h
  | frame fr env => exact agreement_deliver ha he h fr env

/-- Start-up creates the camera, and then resumes. -/
theorem viewCreate_agreement {cfg : Startup} (hothers : cfg.OthersOk) :
    Alive (viewCreate cfg) ∧ (viewCreate cfg).cameraEnabled = true ∧
      (Agreement (viewCreate cfg) ↔ ResumeAnswers cfg.outcome 2 false 0) := by
  have hcreate := hothers 0 .create rfl
  have hdisplay := hothers 1 .setDisplay rfl
  have hinit : mainViewInitCamera (sInfo cfg) =
      viewResume (((sInfo cfg).invoke .create).invoke .setDisplay) := by
    simp [mainViewInitCamera, sInfo, Camera.accepts, Camera.invoke, CameraCall.legal,
      CameraCall.perform, hcreate, hdisplay]
  have hcam : (((sInfo cfg).invoke .create).invoke .setDisplay).camera =
      ⟨.created, none, false, .none, 2, cfg.outcome⟩ := by
    simp [sInfo, Camera.accepts, Camera.invoke, CameraCall.legal, CameraCall.perform, hcreate]
  have htrace : ∀ camera, .viewResume true camera ∉
      (((sInfo cfg).invoke .create).invoke .setDisplay).trace := by
    simp [sInfo]
  have hctl : (((sInfo cfg).invoke .create).invoke .setDisplay).toControls =
      (sInfo cfg).toControls := rfl
  unfold viewCreate
  rw [hinit]
  generalize ((sInfo cfg).invoke .create).invoke .setDisplay = s at *
  have hst : s.camera.state = .created := by rw [hcam]
  have ha : Alive s := ⟨by rw [hcam]; exact hothers, by simp [hst], by simp [hcam]⟩
  have hagree : Agreement s := ⟨fun camera hmem => absurd hmem (htrace camera),
    fun hp => by rw [hst] at hp; exact absurd hp (by decide)⟩
  have hres := primitive_alive.viewResume ha
  refine ⟨⟨hres.others, hres.alive, hres.detecting⟩, by rw [viewResume_created hst], ?_⟩
  have hiff : Agreement { (viewResume s).1 with cameraEnabled := (viewResume s).2 } ↔
      Agreement (viewResume s).1 :=
    ⟨fun h => ⟨h.resumed, h.running⟩, fun h => ⟨h.resumed, h.running⟩⟩
  refine hiff.trans ((agreement_resume ha hagree).trans ?_)
  unfold ResumesWell
  rw [hctl, hcam]
  exact ⟨fun hw => hw.2 rfl, fun hw => ⟨fun hp => absurd hp (by simp), fun _ => hw⟩⟩

/-- **In a run in which only starting and stopping the preview, installing a callback and starting
    the detection may fail, program and device agree in every state exactly when the resume of
    start-up, and every later pause, resume and capture, gets the answers it takes.** The buttons
    may fail as they like. -/
theorem flags_agree_iff {cfg : Startup} (hothers : cfg.OthersOk) (es : List Event) :
    Run.All step Agreement (viewCreate cfg) es ↔
      ResumeAnswers cfg.outcome 2 false 0 ∧ Run.Along step AnsweredWell (viewCreate cfg) es := by
  obtain ⟨ha0, he0, hagree0⟩ := viewCreate_agreement hothers
  have hrun (h0 : Agreement (viewCreate cfg)) :
      Run.All step Agreement (viewCreate cfg) es ↔
        Run.Along step AnsweredWell (viewCreate cfg) es := by
    refine Run.all_iff_along (I := fun s => Alive s ∧ s.cameraEnabled = true) ?_ ?_
      ⟨ha0, he0⟩ h0 es
    · exact fun s e hi _ => ⟨primitive_alive.step hi.1 e, primitive_enabled.step hi.2 e⟩
    · exact fun s e hi h => agreement_step hi.1 hi.2 h e
  constructor
  · intro hall
    exact ⟨hagree0.mp hall.first, (hrun hall.first).mp hall⟩
  · intro hcond
    rcases hcond with ⟨hstart, halong⟩
    exact (hrun (hagree0.mpr hstart)).mpr halong

/-- A working device, over a pause and a resume. -/
theorem flags_agree_working :
    Run.All step Agreement (viewCreate workingStartup)
      [.enableSticker, .stickerButton, .pause, .resume] :=
  (flags_agree_iff (fun _ _ _ => rfl) _).mpr
    ⟨⟨Or.inr rfl, fun _ => rfl, rfl⟩, trivial, trivial, fun _ _ => rfl,
      ⟨by decide, fun _ => ⟨Or.inr rfl, fun _ => rfl, rfl⟩⟩, trivial⟩

/-- A device that never starts its preview. -/
def deafStartup : Startup := { workingStartup with outcome := fun _ k => k != .startPreview }

/-- There `view_resume` has returned true at start-up, with `camera_enabled` set and no preview. -/
theorem deafStartup_disagrees :
    deafStartup.OthersOk ∧ (viewCreate deafStartup).cameraEnabled = true ∧
      ¬ Agreement (viewCreate deafStartup) := by
  refine ⟨fun n k hk => ?_, by decide, fun h => ?_⟩
  · cases k <;> first | rfl | exact absurd hk (by decide)
  · have hres := h.resumed _ (List.mem_cons_self)
    exact absurd hres.1 (by decide)

end SelfCamera
