/-
  File:      SelfCamera/Faces.lean
  Subject:   THE FACE LIST OVER A RUN: whose faces does `face_landmark` draw on?

  Camera calls may fail wherever they like here. The list is emptied by `view_pause` alone; the
  effect button, the sticker button and a head movement stop the detection and leave it. What
  keeps it from going stale is that nothing but a sticker press starts the detection outside a
  resume, so a run is sound whose presses start it on an empty list.

  * `freshFaces`, `NoStale` -- what has been delivered since the last start, and the property;
  * `FacesFresh` -- the invariant; `FacesFresh.invoke`, `FacesFresh.controls` -- what one call and
    one assignment keep;
  * **`noStale_run`** -- a run that starts the detection on empty lists only.
-/
import SelfCamera.Primitive

namespace SelfCamera

/-! ## 1. The property, on the record of a run -/

/-- The rectangles delivered since the last `camera_start_face_detection`. -/
def freshFaces : List Action → List Rectangle
  | [] => []
  | .camera .startFaceDetection _ :: _ => []
  | .facesDetected rs :: before => rs ++ freshFaces before
  | _ :: before => freshFaces before

/-- Whenever `face_landmark` was called, the list held such rectangles only. -/
def NoStale : List Action → Prop
  | [] => True
  | .faceLandmark rs :: before => rs ⊆ freshFaces before ∧ NoStale before
  | _ :: before => NoStale before

instance : DecidablePred NoStale := fun trace => go trace
where
  go : (trace : List Action) → Decidable (NoStale trace)
    | [] => isTrue trivial
    | .faceLandmark rs :: before =>
      have := go before
      inferInstanceAs (Decidable (rs ⊆ freshFaces before ∧ NoStale before))
    | .camera _ _ :: before => go before
    | .viewResume _ _ :: before => go before
    | .facesDetected _ :: before => go before
    | .localtime _ :: before => go before
    | .encodeJpeg _ _ _ :: before => go before
    | .thumbnailSet _ :: before => go before

/-- Only a start of the detection makes what was delivered old. -/
theorem freshFaces_camera {k : CameraCall} (hk : k ≠ .startFaceDetection) (ok : Bool)
    (before : List Action) : freshFaces (.camera k ok :: before) = freshFaces before := by
  cases k <;> first | rfl | exact absurd rfl hk

/-! ## 2. The invariant -/

/-- **The face list is fresh**, or nobody looks at it. -/
structure FacesFresh (s : ViewInfo) : Prop where
  drawn : NoStale s.trace
  shown : s.flagFacerunning = true → s.faces ⊆ freshFaces s.trace
  /-- out of PREVIEW the list is empty -/
  off : s.camera.state ≠ .preview → s.faces = []
  detecting : s.camera.faceDetection = true → s.camera.state = .preview

section Steps

variable {s : ViewInfo} (h : FacesFresh s)

include h

/-- A call keeps the invariant: on an empty list every call; on any list a call that does not
    stop the preview and, while the flag is set, does not start the detection. -/
theorem FacesFresh.invoke (k : CameraCall)
    (hk : s.faces = [] ∨
      ((k = .startFaceDetection → s.flagFacerunning = false) ∧ k ≠ .stopPreview)) :
    FacesFresh (s.invoke k) := by
  refine ⟨h.drawn, fun hf => ?_, fun hst => ?_, invoke_detecting h.detecting k⟩
  · rcases hk with hempty | ⟨hstart, -⟩
    · rw [invoke_faces, hempty]
      exact List.nil_subset _
    · have hne : k ≠ .startFaceDetection := fun hk => by
        rw [invoke_toControls, hstart hk] at hf
        exact absurd hf (by decide)
      rw [invoke_faces, invoke_trace, freshFaces_camera hne]
      exact h.shown hf
  · rcases hk with hempty | ⟨-, hstop⟩
    · exact hempty
    · exact h.off fun hp => hst (invoke_preview hstop hp)

/-- The other calls of the buttons and of the gestures. -/
theorem FacesFresh.invoke_other {k : CameraCall} (hstart : k ≠ .startFaceDetection)
    (hstop : k ≠ .stopPreview) : FacesFresh (s.invoke k) :=
  h.invoke k (Or.inr ⟨fun hk => absurd hk hstart, hstop⟩)

/-- An assignment to the controls keeps it, if it does not set the flag. -/
theorem FacesFresh.controls (c : Controls)
    (hf : c.flagFacerunning = true → s.flagFacerunning = true) :
    FacesFresh { s with toControls := c } :=
  ⟨h.drawn, fun hc => h.shown (hf hc), h.off, h.detecting⟩

theorem FacesFresh.cleared : FacesFresh { s with faces := [] } :=
  ⟨h.drawn, fun _ => List.nil_subset _, fun _ => rfl, h.detecting⟩

theorem FacesFresh.viewPause : FacesFresh (viewPause s) ∧ (SelfCamera.viewPause s).faces = [] := by
  by_cases hst : s.camera.state = .preview
  · rw [viewPause_on hst]
    -- the list is emptied last in the source; no call reads it
    have hcleared : FacesFresh
        ((({ s with faces := [] } : ViewInfo).invoke .stopFaceDetection).invoke .stopPreview) :=
      (h.cleared.invoke _ (Or.inl rfl)).invoke _ (Or.inl rfl)
    exact ⟨hcleared, rfl⟩
  · rw [viewPause_off hst]
    exact ⟨h, h.off hst⟩

theorem FacesFresh.restartPreview (hempty : s.faces = []) : FacesFresh (restartPreview s) := by
  have hkeep := invokes_keep (P := fun t => FacesFresh t ∧ t.faces = [])
    (fun t k ht => ⟨ht.1.invoke k (Or.inl ht.2), ht.2⟩) ⟨h, hempty⟩ (restartCalls s.toControls)
  rw [restartPreview_calls]
  exact hkeep.1

theorem FacesFresh.viewResume : FacesFresh (viewResume s).1 := by
  cases hst : s.camera.state with
  | none =>
    rw [viewResume_none hst]
    exact ⟨h.drawn, h.shown, h.off, h.detecting⟩
  | created =>
    have hempty : s.faces = [] := h.off (by simp [hst])
    have hr := h.restartPreview hempty
    rw [viewResume_created hst]
    exact ⟨hr.drawn, hr.shown, hr.off, hr.detecting⟩
  | preview =>
    rw [viewResume_on hst]
    exact ⟨h.drawn, h.shown, h.off, h.detecting⟩

theorem FacesFresh.mycapture (env : FrameEnv) (frame : Frame) (hf : frame.format = .nv12) :
    FacesFresh (mainViewMycaptureCb env frame s).1 := by
  cases he : s.cameraEnabled with
  | false =>
    rw [mycapture_disabled he]
    exact h
  | true =>
    have hp := h.viewPause.1
    cases ht : env.localtimeR env.rawtime with
    | none =>
      rw [mycapture_noTime he hf ht]
      exact hp
    | some tm =>
      have hnoted (rest : List Action) (hrest : NoStale rest ∧ freshFaces rest =
          freshFaces (SelfCamera.viewPause s).trace) :
          FacesFresh { SelfCamera.viewPause s with trace := rest } :=
        ⟨hrest.1, by rw [hrest.2]; exact hp.shown, hp.off, hp.detecting⟩
      rw [mycapture_encode he hf ht]
      dsimp only
      split
      · exact (hnoted (.thumbnailSet _ :: .encodeJpeg _ _ _ :: .localtime tm :: _)
          ⟨hp.drawn, rfl⟩).viewResume
      · exact hnoted (.encodeJpeg _ _ _ :: .localtime tm :: _) ⟨hp.drawn, rfl⟩

theorem FacesFresh.captureIfRequested (env : FrameEnv) (frame : Frame)
    (hf : frame.format = .nv12) : FacesFresh (captureIfRequested env frame s).1 := by
  unfold SelfCamera.captureIfRequested
  split
  · exact (h.controls { s.toControls with flagCapturing := false } id).mycapture env frame hf
  · exact h

omit h in
/-- What the buttons, the gestures and the filters do keeps the invariant: they stop the detection
    and leave the list, and `face_landmark` is called on a list that is fresh. -/
theorem live_facesFresh : Live FacesFresh where
  invoke h hk := h.invoke_other (fun he => by simp [he, CameraCall.quiet] at hk)
    (fun he => by simp [he, CameraCall.quiet, CameraCall.moves] at hk)
  stopDetection h :=
    let hstop := h.invoke_other (k := .stopFaceDetection) (by simp) (by simp)
    ⟨hstop.drawn, fun hf => absurd hf (by simp [stopDetection]), hstop.off, hstop.detecting⟩
  faceLandmark h hf := ⟨⟨h.shown hf, h.drawn⟩, h.shown, h.off, h.detecting⟩
  controls c h hf _ := h.controls c (fun hc => hf ▸ hc)

theorem FacesFresh.deliver (env : FrameEnv) (frame : Frame) :
    FacesFresh (deliver env frame s).1 := by
  rcases taken_or_idle s frame with ⟨hst, hcb, hsup⟩ | hidle
  · obtain ⟨frame', hf, hd⟩ := deliver_taken hst hcb hsup env
    rw [hd]
    exact (live_facesFresh.beforeCapture h env frame).captureIfRequested env frame' hf
  · rw [deliver_idle hidle]
    exact h

end Steps

/-! ## 3. Runs -/

/-- A press of the sticker button that starts the detection while the list still holds faces: the
    flag is off, and the device starts it when asked, which is two calls later where the press
    installs a callback first. -/
def StartsOnOldFaces (s : ViewInfo) (e : Event) : Prop :=
  e = .stickerButton ∧ s.fin = 1 ∧ s.flagFacerunning = false ∧ s.faces ≠ [] ∧
    s.camera.outcome
      (s.camera.calls + if (s.sticker + 1).tmod maxSticker ≠ 0 then 2 else 0)
      .startFaceDetection = true

/-- Starting the detection keeps the invariant, if it finds the list empty or fails. -/
theorem FacesFresh.startDetection {s : ViewInfo} (h : FacesFresh s)
    (hoff : s.flagFacerunning = false)
    (hold : s.faces = [] ∨ s.camera.accepts .startFaceDetection = false) :
    FacesFresh (startDetection s) := by
  have hstart := h.invoke .startFaceDetection (Or.inr ⟨fun _ => hoff, by simp⟩)
  refine ⟨hstart.drawn, fun hacc => ?_, hstart.off, hstart.detecting⟩
  rcases hold with hempty | hrefused
  · show s.faces ⊆ _
    rw [hempty]
    exact List.nil_subset _
  · exact absurd (hrefused.symm.trans hacc) (by decide)

theorem FacesFresh.step {s : ViewInfo} (h : FacesFresh s) {e : Event}
    (hold : ¬ StartsOnOldFaces s e) : FacesFresh (step s e) := by
  cases e with
  | stickerButton =>
    refine live_facesFresh.stickerButton h fun hfin hoff ht => ht.startDetection ?_ ?_
    · rw [selectCb_toControls]
      exact hoff
    · rw [selectCb_faces, selectCb_accepts]
      by_contra hno
      simp only [not_or, Bool.not_eq_false, startsDetection, Bool.and_eq_true] at hno
      exact hold ⟨rfl, hfin, hoff, hno.1, hno.2.2⟩
  | effectButton => exact live_facesFresh.effectButton h
  | motionButton => exact live_facesFresh.motionButton h
  | changeButton => exact live_facesFresh.changeButton h
  | shutterButton => exact live_facesFresh.shutterButton h
  | frame fr env => exact h.deliver env fr
  | facesDetected faces =>
    simp only [SelfCamera.step]
    split
    · rename_i hdet
      refine ⟨h.drawn, fun _ => List.subset_append_left _ _, fun hst => ?_, h.detecting⟩
      exact absurd (h.detecting hdet) hst
    · exact h
  | pause => exact h.viewPause.1
  | resume => exact h.viewResume
  | enableSticker => exact live_facesFresh.enableSticker h

/-- Start-up detects nothing yet. -/
theorem facesFresh_viewCreate (cfg : Startup) : FacesFresh (viewCreate cfg) := by
  have h0 : FacesFresh (sInfo cfg) :=
    ⟨trivial, fun hf => absurd hf (by simp [sInfo]), fun _ => rfl,
      fun hd => absurd hd (by simp [sInfo])⟩
  have hinit : FacesFresh (mainViewInitCamera (sInfo cfg)).1 := by
    have h1 := h0.invoke_other (k := .create) (by simp) (by simp)
    have h2 := h1.invoke_other (k := .setDisplay) (by simp) (by simp)
    unfold mainViewInitCamera
    dsimp only
    split
    · exact h1
    · split
      · exact h2
      · exact h2.viewResume
  exact hinit.controls _ id

/-- **In a run in which every start of the detection finds the list empty, whenever
    `face_landmark` is called the list holds faces delivered since the last start only** --
    whatever camera calls fail. -/
theorem noStale_run {cfg : Startup} {es : List Event}
    (h : Run.Along step (fun s e => ¬ StartsOnOldFaces s e) (viewCreate cfg) es) :
    Run.All step (fun s => NoStale s.trace) (viewCreate cfg) es :=
  (Run.invariant_along (P := FacesFresh) (fun _ _ hs hc => hs.step hc) (facesFresh_viewCreate cfg)
    h).mono fun _ hs => hs.drawn

/-- A sticker press, a face, and the frame that draws on it. -/
theorem noStale_oneFace :
    Run.All step (fun s => NoStale s.trace) (viewCreate workingStartup)
      [.enableSticker, .stickerButton, .facesDetected [⟨0, 0, 4, 4⟩],
        .frame (evenFrame 0 128) (standingClock 0)] :=
  noStale_run ⟨fun h => absurd h.1 (by simp), fun h => h.2.2.2.1 (by decide),
    fun h => absurd h.1 (by simp), fun h => absurd h.1 (by simp), trivial⟩

/-- The face of the first detection is still in the list when the second one is started, and the
    frame that follows is drawn on it. -/
theorem restartedDetection_draws_oldFace :
    ¬ NoStale (runApp workingStartup
      [.enableSticker, .stickerButton, .facesDetected [⟨0, 0, 4, 4⟩], .effectButton,
        .stickerButton, .frame (evenFrame 0 128) (standingClock 0)]).trace := by
  decide +kernel

end SelfCamera
