/-
  File:      SelfCamera/Capture.lean
  Subject:   A CAPTURE AND THE STREAM OF PREVIEW FRAMES, on a device whose calls succeed.

  The capture stops the preview, and only its last line starts it again: without a local time, and
  when the encoder fails, it returns before that.

  * `streams_mycapture` -- one capture;
  * `keepsStream_iff` -- one frame of a run;
  * **`capture_keeps_stream_iff`** -- every state, and every run.
-/
import SelfCamera.InStep

namespace SelfCamera

/-- Preview frames reach a callback. -/
def Streams (s : ViewInfo) : Prop := s.camera.state = .preview ∧ s.camera.previewCb ≠ none

/-- A frame does not end the stream. -/
def KeepsStream (s : ViewInfo) : Event → Prop
  | .frame fr env => Streams s → Streams (deliver env fr s).1
  | _ => True

/-- The capture of a frame, if one is requested, finds a local time and an encoder that returns
    `IMAGE_UTIL_ERROR_NONE`. -/
def CaptureSucceeds (s : ViewInfo) : Event → Prop
  | .frame fr env => Streams s → fr.supported = true → captureRequested s fr env = true →
    env.captureOk = true
  | _ => True

/-- **One capture, from any state**: the preview runs again, with a callback, exactly when the
    capture comes to its end. -/
theorem streams_mycapture {s : ViewInfo} (hok : s.camera.AllOk) (he : s.cameraEnabled = true)
    (hst : s.camera.state = .preview) {frame : Frame} (hf : frame.format = .nv12)
    (env : FrameEnv) : Streams (mainViewMycaptureCb env frame s).1 ↔ env.captureOk = true := by
  unfold Streams
  cases hc : env.captureOk with
  | true =>
    obtain ⟨-, hst', hcb', -, -⟩ := mycapture_ok hok hst he hf hc
    rw [hst', hcb']
    simp
  | false =>
    rw [mycapture_failed he hf hc, (viewPause_ok hok hst).2.1]
    simp

/-- One frame of a run, handed to either callback. -/
theorem keepsStream_iff {s : ViewInfo} (hi : InStep s) (e : Event) :
    KeepsStream s e ↔ CaptureSucceeds s e := by
  cases e with
  | frame fr env =>
    show (Streams s → Streams (deliver env fr s).1) ↔ (Streams s → fr.supported = true →
      captureRequested s fr env = true → env.captureOk = true)
    refine forall_congr' fun hs => ?_
    cases hsup : fr.supported with
    | false =>
      rw [deliver_idle (Or.inr (Or.inr hsup))]
      exact ⟨fun _ h => absurd h (by decide), fun _ => hs⟩
    | true =>
      obtain ⟨hi', hst', -, -⟩ := deliver_ok hi hs.1 hsup env
      unfold Streams
      rw [hst']
      cases hq : captureRequested s fr env <;> cases hc : env.captureOk <;>
        simp [hi'.installed]
  | _ => exact ⟨fun _ => trivial, fun _ => trivial⟩

/-- **A capture leaves the preview running, whatever state it began in, exactly when there is a
    local time and the encoder succeeds; and a run's frames never end the stream exactly when this
    is so for every capture it requests.** -/
theorem capture_keeps_stream_iff (s : ViewInfo) (env : FrameEnv) (frame : Frame) (cfg : Startup)
    (es : List Event) :
    (s.camera.AllOk → s.cameraEnabled = true → s.camera.state = .preview →
        frame.supported = true →
        (Streams (mainViewMycaptureCb env frame s).1 ↔ env.captureOk = true)) ∧
      (cfg.AllOk → (Run.Along step KeepsStream (viewCreate cfg) es ↔
        Run.Along step CaptureSucceeds (viewCreate cfg) es)) := by
  refine ⟨fun hok he hst hsup => ?_, fun hok => ?_⟩
  · exact streams_mycapture hok he hst (supported_format hsup) env
  · have hi0 := (viewCreate_ok hok).1
    refine ⟨?_, ?_⟩
    · exact Run.Along.derive (I := InStep) (fun s e hi _ => inStep_step hi e)
        (fun s e hi h => (keepsStream_iff hi e).mp h) hi0
    · exact Run.Along.derive (I := InStep) (fun s e hi _ => inStep_step hi e)
        (fun s e hi h => (keepsStream_iff hi e).mpr h) hi0

/-- One successful capture, from the state after start-up, and the run that requests one. -/
theorem capture_keeps_stream_once :
    (Streams (mainViewMycaptureCb (standingClock 0) (evenFrame 0 128)
          (viewCreate workingStartup)).1 ↔ (standingClock 0).captureOk = true) ∧
      (Run.Along step KeepsStream (viewCreate workingStartup)
          [.shutterButton, .frame (evenFrame 0 128) (standingClock 0)] ↔
        Run.Along step CaptureSucceeds (viewCreate workingStartup)
          [.shutterButton, .frame (evenFrame 0 128) (standingClock 0)]) :=
  have h := capture_keeps_stream_iff (viewCreate workingStartup) (standingClock 0)
    (evenFrame 0 128) workingStartup [.shutterButton, .frame (evenFrame 0 128) (standingClock 0)]
  ⟨h.1 (fun _ _ => rfl) (by decide) (by decide) (by decide), h.2 fun _ _ => rfl⟩

/-- The shutter, and a frame whose encoding fails: the preview is stopped. -/
theorem failedEncode_ends_stream :
    Streams (runApp workingStartup [.shutterButton]) ∧
      ¬ Streams (runApp workingStartup
        [.shutterButton, .frame (evenFrame 0 128) (standingClock (-1))]) := by
  unfold Streams
  decide

end SelfCamera
