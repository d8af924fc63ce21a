/-
  File:      SelfCamera/Requests.lean
  Subject:   REQUESTS AND PHOTOS: is every request for a photo answered, and answered once?

  The shutter and an open mouth ask for a photo by one flag; the next frame a callback takes gives
  it back and begins a capture. The flag holds one request: whoever asks again before it is given
  back asks for the same photo.

  * `captures`, `captured` -- the part of the record that captures write, and what an event adds to
    it; **`step_captures`** -- that this is all of it, and that the encoder is given the frame that
    is displayed;
  * `asks`, `begins`, `fails` -- requests, captures, and captures that never reach the encoder;
  * `balance_step` -- one event;
  * **`requests_balance`** -- every run.
-/
import SelfCamera.Photos
import SelfCamera.Writes

namespace SelfCamera

/-! ## 1. The record of captures -/

/-- The entries only a capture writes. -/
def Action.ofCapture : Action → Bool
  | .localtime _ | .encodeJpeg _ _ _ | .thumbnailSet _ => true
  | _ => false

/-- What captures have written into a record, newest first. -/
def captures (trace : List Action) : List Action := trace.filter Action.ofCapture

/-- Does a capture begin with this event? -/
def begins (s : ViewInfo) : Event → Bool
  | .frame fr env => takes s fr && captureRequested s fr env
  | _ => false

/-- What a capture writes: the clock, the encoder, and the thumbnail if that one succeeds. -/
def captureEntries (displayed : Frame) (folder : Option (List Char)) (env : FrameEnv) :
    List Action :=
  match env.localtimeR env.rawtime with
  | none => []
  | some tm =>
    let entries := [.encodeJpeg displayed (capturePath folder tm) env.encodeResult, .localtime tm]
    if env.encodeResult = 0 then .thumbnailSet (capturePath folder tm) :: entries else entries

/-- What an event adds to the record of captures. -/
def captured (s : ViewInfo) (e : Event) : List Action :=
  if begins s e && s.cameraEnabled then
    match e with
    | .frame fr env => captureEntries (deliver env fr s).2 s.mediaContentFolder env
    | _ => []
  else []

/-- Calls, faces and resumes write nothing there. -/
theorem captures_cons {a : Action} (ha : a.ofCapture = false) (before : List Action) :
    captures (a :: before) = captures before := by
  unfold captures
  rw [List.filter_cons, ha]
  rfl

theorem captures_invokes (ks : List CameraCall) (s : ViewInfo) :
    captures (s.invokes ks).trace = captures s.trace :=
  invokes_keep (P := fun t => captures t.trace = captures s.trace)
    (fun t _ ht => (captures_cons rfl t.trace).trans ht) rfl ks

theorem captures_viewPause (s : ViewInfo) : captures (viewPause s).trace = captures s.trace := by
  by_cases hst : s.camera.state = .preview
  · rw [viewPause_on hst]
    exact (captures_cons rfl _).trans (captures_cons rfl _)
  · rw [viewPause_off hst]

theorem captures_viewResume (s : ViewInfo) :
    captures (viewResume s).1.trace = captures s.trace := by
  cases hst : s.camera.state with
  | none => rw [viewResume_none hst]; exact captures_cons rfl _
  | created =>
    rw [viewResume_created hst, restartPreview_calls]
    exact (captures_cons rfl _).trans (captures_invokes _ s)
  | preview => rw [viewResume_on hst]; exact captures_cons rfl _

/-- Neither do the buttons, the gestures and the filters. -/
theorem live_captures (entries : List Action) : Live fun s => captures s.trace = entries where
  invoke h _ := (captures_cons rfl _).trans h
  stopDetection h := (captures_cons rfl _).trans h
  faceLandmark h _ := (captures_cons rfl _).trans h
  controls _ h _ _ := h

/-- **What one capture writes.** -/
theorem captures_mycapture {s : ViewInfo} (he : s.cameraEnabled = true) (env : FrameEnv)
    {frame : Frame} (hf : frame.format = .nv12) :
    captures (mainViewMycaptureCb env frame s).1.trace =
      captureEntries (swapUv frame) s.mediaContentFolder env ++ captures s.trace := by
  unfold captureEntries
  cases ht : env.localtimeR env.rawtime with
  | none =>
    rw [mycapture_noTime he hf ht]
    exact captures_viewPause s
  | some tm =>
    rw [mycapture_encode he hf ht]
    dsimp only
    split
    · rw [captures_viewResume]
      exact congrArg (_ :: _ :: _ :: ·) (captures_viewPause s)
    · exact congrArg (_ :: _ :: ·) (captures_viewPause s)

/-- What precedes the capture decides on the request, and leaves the folder and `camera_enabled`
    alone. -/
theorem beforeCapture_request {s : ViewInfo} {frame : Frame} (hst : s.camera.state = .preview)
    (hsup : frame.supported = true) (env : FrameEnv) :
    (beforeCapture env frame s).flagCapturing = captureRequested s frame env ∧
      (beforeCapture env frame s).fixed = s.fixed := by
  unfold beforeCapture captureRequested stickerFrame
  cases hcb : s.camera.previewCb with
  | none => simp
  | some cb =>
    cases cb with
    | sticker =>
      dsimp only
      rw [landmarkIfRunning_writes]
      simp [hst, hsup, Controls.fixed]
    | filter =>
      have hctl : (filterIfSelected filterScales frame s).1.toControls = s.toControls := by
        unfold filterIfSelected applyFilter
        split <;> rfl
      dsimp only
      rw [hctl]
      simp

theorem captured_frame (s : ViewInfo) (fr : Frame) (env : FrameEnv) :
    captured s (.frame fr env) =
      if takes s fr && captureRequested s fr env && s.cameraEnabled then
        captureEntries (deliver env fr s).2 s.mediaContentFolder env else [] := rfl

theorem captures_frame (s : ViewInfo) (fr : Frame) (env : FrameEnv) :
    captures (deliver env fr s).1.trace = captured s (.frame fr env) ++ captures s.trace := by
  rw [captured_frame]
  rcases taken_or_idle s fr with ⟨hst, hcb, hsup⟩ | hidle
  · obtain ⟨frame', hf, hd⟩ := deliver_taken hst hcb hsup env
    obtain ⟨hrequest, hfixed⟩ := beforeCapture_request hst hsup env
    have henabled : (beforeCapture env fr s).cameraEnabled = s.cameraEnabled :=
      congrArg Prod.fst hfixed
    have hfolder : (beforeCapture env fr s).mediaContentFolder = s.mediaContentFolder :=
      congrArg Prod.snd hfixed
    have hbefore : captures (beforeCapture env fr s).trace = captures s.trace :=
      (live_captures (captures s.trace)).beforeCapture rfl env fr
    have htakes : takes s fr = true := by simp [takes, hst, Option.isSome_iff_ne_none, hcb, hsup]
    rw [hd, htakes, Bool.true_and, ← hrequest]
    cases hq : (beforeCapture env fr s).flagCapturing with
    | false =>
      rw [captureIfRequested_quiet hq]
      exact hbefore
    | true =>
      cases he : s.cameraEnabled with
      | false =>
        have hdisabled := mycapture_disabled (s := { beforeCapture env fr s with
          flagCapturing := false }) (henabled.trans he) env frame'
        rw [captureIfRequested_capture hq, hdisabled]
        exact hbefore
      | true =>
        have hshown : (captureIfRequested env frame' (beforeCapture env fr s)).2 =
            swapUv frame' := by
          rw [captureIfRequested_frame (henabled.trans he), hq]
          rfl
        rw [hshown, captureIfRequested_capture hq, ← hbefore, ← hfolder]
        exact captures_mycapture (s := { beforeCapture env fr s with flagCapturing := false })
          (henabled.trans he) env hf
  · have htakes : takes s fr = false := by rcases hidle with h | h | h <;> simp [takes, h]
    rw [deliver_idle hidle, htakes]
    rfl

/-- **What an event adds to the record of captures, and that nothing else does.** The frame the
    encoder is given is the one that is displayed. -/
theorem step_captures (s : ViewInfo) (e : Event) :
    captures (step s e).trace = captured s e ++ captures s.trace := by
  have hnone {t : ViewInfo} (h : captures t.trace = captures s.trace)
      (hb : begins s e = false) : captures t.trace = captured s e ++ captures s.trace := by
    unfold captured
    rw [hb]
    exact h
  have hlive := live_captures (captures s.trace)
  cases e with
  | stickerButton =>
    exact hnone (hlive.stickerButton rfl fun _ _ h => (captures_cons rfl _).trans h) rfl
  | effectButton => exact hnone (hlive.effectButton rfl) rfl
  | motionButton => exact hnone (hlive.motionButton rfl) rfl
  | changeButton => exact hnone (hlive.changeButton rfl) rfl
  | shutterButton => exact hnone (hlive.shutterButton rfl) rfl
  | frame fr env => exact captures_frame s fr env
  | facesDetected faces =>
    refine hnone ?_ rfl
    simp only [step]
    split
    · exact captures_cons rfl _
    · rfl
  | pause => exact hnone (captures_viewPause s) rfl
  | resume => exact hnone (captures_viewResume s) rfl
  | enableSticker => exact hnone (hlive.enableSticker rfl) rfl

/-- Start-up takes no photo. -/
theorem captures_viewCreate (cfg : Startup) : captures (viewCreate cfg).trace = [] := by
  have hdisplay : captures (((sInfo cfg).invoke .create).invoke .setDisplay).trace = [] := rfl
  unfold viewCreate mainViewInitCamera
  dsimp only
  split
  · rfl
  · split
    · rfl
    · exact (captures_viewResume _).trans hdisplay

/-! ## 2. Requests -/

/-- Does this event ask for a photo that is not asked for already? -/
def asks (s : ViewInfo) : Event → Bool
  | .shutterButton => s.cameraEnabled && !s.flagCapturing
  | .frame fr env => stickerFrame s fr && mouthGesture env fr s && !s.flagCapturing
  | _ => false

/-- A capture that never reaches the encoder: the camera is not initialised, or there is no local
    time. -/
def fails (s : ViewInfo) : Event → Bool
  | .frame fr env => begins s (.frame fr env) &&
    !(s.cameraEnabled && (env.localtimeR env.rawtime).isSome)
  | _ => false

/-- How many requests a run has made, and how many of them came to nothing. -/
structure Tally where
  requests : Nat
  failed : Nat

def observeRequests (s : ViewInfo) (tally : Tally) (e : Event) : Tally :=
  ⟨tally.requests + (asks s e).toNat, tally.failed + (fails s e).toNat⟩

/-- The paths given to the encoder are in the record of captures. -/
theorem photoPaths_captures (trace : List Action) :
    photoPaths (captures trace) = photoPaths trace := by
  induction trace with
  | nil => rfl
  | cons a before ih =>
    unfold captures at ih ⊢
    cases a <;> simp [List.filter_cons, Action.ofCapture, photoPaths, ih]

/-- An event that begins a capture hands over one photo, unless it fails. -/
theorem photoPaths_captured (s : ViewInfo) (e : Event) (before : List Action) :
    (photoPaths (captured s e ++ before)).length + (fails s e).toNat =
      (photoPaths before).length + (begins s e).toNat := by
  cases e with
  | frame fr env =>
    unfold captured fails
    dsimp only
    generalize begins s (.frame fr env) = b
    cases b with
    | false => rfl
    | true =>
      generalize s.cameraEnabled = enabled
      cases enabled with
      | false => rfl
      | true =>
        unfold captureEntries
        cases ht : env.localtimeR env.rawtime with
        | none => rfl
        | some tm => by_cases hr : env.encodeResult = 0 <;> simp [hr, photoPaths]
  | _ => rfl

/-- **One event keeps the balance**: what was asked for and is asked for now begins, or waits. -/
theorem balance_step (s : ViewInfo) (e : Event) :
    (step s e).flagCapturing.toNat + (begins s e).toNat =
      s.flagCapturing.toNat + (asks s e).toNat := by
  rw [step_toControls]
  cases e with
  | frame fr env =>
    dsimp only [written, begins, asks, captureRequested]
    cases htakes : takes s fr with
    | false =>
      have hno : stickerFrame s fr = false := by
        unfold takes at htakes
        unfold stickerFrame
        cases hcb : s.camera.previewCb <;> simp_all
      rw [hno]
      cases s.flagCapturing <;> rfl
    | true =>
      generalize s.flagCapturing = pending
      generalize stickerFrame s fr = drawn
      generalize mouthGesture env fr s = mouth
      cases pending <;> cases drawn <;> cases mouth <;> rfl
  | shutterButton =>
    dsimp only [written, begins, asks]
    generalize s.flagCapturing = pending
    generalize s.cameraEnabled = enabled
    cases pending <;> cases enabled <;> rfl
  | stickerButton =>
    dsimp only [written, begins, asks]
    split <;> rfl
  | _ => rfl

/-- **In every run the photos handed to the encoder, the captures that failed before it and the
    request that still waits are together as many as the requests made**: no request is lost, and
    none is answered twice, whatever camera calls fail. -/
theorem requests_balance (cfg : Startup) (es : List Event) :
    let r := Run.exec (Run.watched step observeRequests) (viewCreate cfg, ⟨0, 0⟩) es
    r.1 = runApp cfg es ∧
      (photoPaths r.1.trace).length + r.2.failed + r.1.flagCapturing.toNat = r.2.requests := by
  refine ⟨Run.exec_watched observeRequests _ es, ?_⟩
  refine Run.invariant (P := fun r : ViewInfo × Tally => (photoPaths r.1.trace).length +
    r.2.failed + r.1.flagCapturing.toNat = r.2.requests) ?_ ?_ es
  · intro r e h
    obtain ⟨s, tally⟩ := r
    have hbalance := balance_step s e
    have hphotos := photoPaths_captured s e (captures s.trace)
    rw [← step_captures, photoPaths_captures, photoPaths_captures] at hphotos
    dsimp only [Run.watched, observeRequests] at h ⊢
    omega
  · obtain ⟨enabled, hctl⟩ := viewCreate_toControls cfg
    have hflag : (viewCreate cfg).flagCapturing = false := by
      rw [hctl]
      rfl
    have hphotos : photoPaths (viewCreate cfg).trace = [] := by
      rw [← photoPaths_captures, captures_viewCreate]
      rfl
    dsimp only
    rw [hflag, hphotos]
    rfl

end SelfCamera
