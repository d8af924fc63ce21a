/-
  File:      SelfCamera/Camera.lean
  Subject:   THE CAMERA DEVICE behind `camera_h`: its state, the calls the application makes on
             it, and what a call does when it is legal and succeeds.

  The framework is not part of the repository. What is fixed here is its documented behaviour:
  every call has a state it is legal in; an illegal call fails and changes nothing; a legal call
  may still fail, and then changes nothing either. Whether the `n`th call succeeds is the field
  `outcome`, so a device with an arbitrary `outcome` is a device that fails wherever it likes.

  * `CameraCall.legal`, `CameraCall.perform` -- precondition and effect of each call;
  * `Camera.accepts`, `Camera.invoke` -- the return value and the device after a call;
  * `AllOk` -- every legal call succeeds.
-/
import Mathlib.Data.Bool.Basic

namespace SelfCamera

/-- `camera_state_e`, with `none` for a handle that was never created. The application takes no
    capture through the device, so the two capture states are never entered. -/
inductive CameraState where
  | none | created | preview
  deriving DecidableEq, Repr

/-- The two functions the application installs with `camera_set_preview_cb`. -/
inductive PreviewCb where
  | sticker | filter
  deriving DecidableEq, Repr

/-- `CAMERA_ATTR_EFFECT_*`, as far as the application sets them. -/
inductive Effect where
  | none | mono | negative | sepia
  deriving DecidableEq, Repr

/-- The `camera_*` calls whose result or effect something in the application depends on. -/
inductive CameraCall where
  | create | setDisplay
  | startPreview | stopPreview
  | setPreviewCb (cb : PreviewCb) | unsetPreviewCb
  | startFocusing
  | startFaceDetection | stopFaceDetection
  | attrSetEffect (e : Effect)
  deriving DecidableEq, Repr

/-- The device: what the framework holds for the handle, and the answers it is going to give. -/
structure Camera where
  state : CameraState
  previewCb : Option PreviewCb
  faceDetection : Bool
  effect : Effect
  /-- calls made so far, the failed ones included -/
  calls : Nat
  /-- does the `n`th call succeed, given that it is legal? -/
  outcome : Nat → CameraCall → Bool

/-! ## 1. One call -/

/-- The states a call is legal in. That the detection is stopped in PREVIEW only, as it is started
    there only, is a choice of the model; nothing in the program asks what that call returns. -/
def CameraCall.legal : CameraCall → CameraState → Bool
  | .create, st => st == .none
  | .setDisplay, st => st == .created
  | .startPreview, st => st == .created
  | .stopPreview, st => st == .preview
  | .setPreviewCb _, st => st == .created || st == .preview
  | .unsetPreviewCb, st => st != .none
  | .startFocusing, st => st == .preview
  | .startFaceDetection, st => st == .preview
  | .stopFaceDetection, st => st == .preview
  | .attrSetEffect _, st => st != .none

/-- What a call that succeeds does. Detection works on the preview stream, so stopping the
    preview ends it; the installed callback and the effect outlive the preview. -/
def CameraCall.perform : CameraCall → Camera → Camera
  | .create, c => { c with state := .created }
  | .setDisplay, c => c
  | .startPreview, c => { c with state := .preview }
  | .stopPreview, c => { c with state := .created, faceDetection := false }
  | .setPreviewCb cb, c => { c with previewCb := some cb }
  | .unsetPreviewCb, c => { c with previewCb := none }
  | .startFocusing, c => c
  | .startFaceDetection, c => { c with faceDetection := true }
  | .stopFaceDetection, c => { c with faceDetection := false }
  | .attrSetEffect e, c => { c with effect := e }

/-- Does the next call, if it is `k`, return `CAMERA_ERROR_NONE`? -/
def Camera.accepts (c : Camera) (k : CameraCall) : Bool :=
  k.legal c.state && c.outcome c.calls k

/-- The device after the call `k`. -/
def Camera.invoke (c : Camera) (k : CameraCall) : Camera :=
  if c.accepts k then k.perform { c with calls := c.calls + 1 }
  else { c with calls := c.calls + 1 }

/-- `camera_get_state`; it fails on a handle that was never created. -/
def Camera.getState (c : Camera) : Option CameraState :=
  if c.state = .none then none else some c.state

/-! ## 2. Facts about one call -/

@[simp] theorem perform_outcome (k : CameraCall) (c : Camera) :
    (k.perform c).outcome = c.outcome := by
  cases k <;> rfl

@[simp] theorem perform_calls (k : CameraCall) (c : Camera) :
    (k.perform c).calls = c.calls := by
  cases k <;> rfl

/-- No call changes what the device is going to answer. -/
@[simp] theorem invoke_outcome (c : Camera) (k : CameraCall) :
    (c.invoke k).outcome = c.outcome := by
  unfold Camera.invoke
  split <;> simp

@[simp] theorem invoke_calls (c : Camera) (k : CameraCall) :
    (c.invoke k).calls = c.calls + 1 := by
  unfold Camera.invoke
  split <;> simp

theorem invoke_accepted {c : Camera} {k : CameraCall} (h : c.accepts k = true) :
    c.invoke k = k.perform { c with calls := c.calls + 1 } := by
  unfold Camera.invoke
  rw [if_pos h]

theorem invoke_refused {c : Camera} {k : CameraCall} (h : c.accepts k = false) :
    c.invoke k = { c with calls := c.calls + 1 } := by
  unfold Camera.invoke
  rw [if_neg (by simp [h])]

/-- The calls that move the device between its states. -/
def CameraCall.moves : CameraCall → Bool
  | .create | .startPreview | .stopPreview => true
  | _ => false

/-- Any other call leaves the state as it is. -/
theorem invoke_state {k : CameraCall} (hk : k.moves = false) (c : Camera) :
    (c.invoke k).state = c.state := by
  unfold Camera.invoke
  split
  · cases k <;> first | rfl | exact absurd hk (by decide)
  · rfl

/-- Detection runs in PREVIEW only, whatever is called. -/
theorem invoke_detecting {c : Camera} (h : c.faceDetection = true → c.state = .preview)
    (k : CameraCall) : (c.invoke k).faceDetection = true → (c.invoke k).state = .preview := by
  cases hk : c.accepts k with
  | false =>
    rw [invoke_refused hk]
    exact h
  | true =>
    have hlegal : k.legal c.state = true := by
      simp only [Camera.accepts, Bool.and_eq_true] at hk
      exact hk.1
    rw [invoke_accepted hk]
    cases k <;> simp_all [CameraCall.perform, CameraCall.legal]

/-- Only `camera_stop_preview` leaves PREVIEW. -/
theorem invoke_preview {c : Camera} {k : CameraCall} (hk : k ≠ .stopPreview)
    (hst : c.state = .preview) : (c.invoke k).state = .preview := by
  cases ha : c.accepts k with
  | false =>
    rw [invoke_refused ha]
    exact hst
  | true =>
    rw [invoke_accepted ha]
    cases k <;> simp_all [CameraCall.perform, Camera.accepts, CameraCall.legal]

theorem invoke_alive {c : Camera} (h : c.state ≠ .none) (k : CameraCall) :
    (c.invoke k).state ≠ .none := by
  unfold Camera.invoke
  split
  · cases k <;> simp [CameraCall.perform, h]
  · exact h

/-! ## 3. A device on which every legal call succeeds -/

/-- Every legal call succeeds. -/
def Camera.AllOk (c : Camera) : Prop := ∀ n k, c.outcome n k = true

theorem Camera.AllOk.invoke {c : Camera} (h : c.AllOk) (k : CameraCall) : (c.invoke k).AllOk := by
  intro n j
  rw [invoke_outcome]
  exact h n j

/-- There a call is accepted exactly when it is legal. -/
theorem Camera.AllOk.accepts {c : Camera} (h : c.AllOk) (k : CameraCall) :
    c.accepts k = k.legal c.state := by
  simp [Camera.accepts, h c.calls k]

end SelfCamera
