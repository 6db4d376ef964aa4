import MyKvm.Lib.Text

/-!
# MyKvm.Protocol.Frames — what the two machines say to each other

The control, input and motion frames and the checks which every received frame has passed.  A frame which arrives
is well formed (`validateFrame` ran in the decoder), but the handshakes check it again, so the models take any
frame.
-/

namespace MyKvm.Protocol

open MyKvm.Lib

/-- Sixteen random bytes. -/
abbrev Bytes16 := Vector UInt8 16

/-- `[0; 16]` -/
def zero16 : Bytes16 := Vector.replicate 16 0

inductive DeviceRole where
  | controller
  | receiver
  deriving DecidableEq, Repr

structure BootId where
  bytes : Bytes16
  deriving DecidableEq

structure SessionId where
  controllerBoot : BootId
  receiverBoot : BootId
  nonce : Bytes16
  deriving DecidableEq

inductive CriticalButton where
  | left
  | right
  | middle
  | back
  | forward
  deriving DecidableEq, Repr

inductive CriticalEvent where
  | key (keyCode scanCode : UInt16) (extended down : Bool)
  | button (button : CriticalButton) (down : Bool) (x y : Int32) (motionSequence : UInt64)
  | scroll (deltaX deltaY x y : Int32) (motionSequence : UInt64)
  deriving DecidableEq

structure CriticalFrame where
  sessionId : SessionId
  sequence : UInt64
  event : CriticalEvent
  deriving DecidableEq

structure MotionFrame where
  sessionId : SessionId
  displayId : String
  layoutRevision : UInt64
  sequence : UInt64
  requiredReliableSequence : UInt64
  x : Int32
  y : Int32
  deriving DecidableEq

inductive ControlFrame where
  | hello (bootId : BootId) (peerId : String) (role : DeviceRole) (capabilities : List String)
  | prepare (requestId : UInt64) (targetDisplay : String) (layoutRevision : UInt64)
  | ready (requestId : UInt64) (receiverBoot : BootId) (inputReady : Bool) (targetDisplay : String)
      (layoutRevision : UInt64)
  | commit (requestId : UInt64) (sessionId : SessionId)
  | commitAck (sessionId : SessionId)
  | endSession (sessionId : SessionId) (reason : String)
  | ping (sessionId : SessionId) (sequence : UInt64)
  | pong (sessionId : SessionId) (sequence highestAppliedSequence : UInt64)
  | reject (code detail : String)
  deriving DecidableEq

inductive ProtocolError where
  | frameTooLarge (size : ℕ)
  | invalidLength
  | truncated
  | decode
  | invalidMagic
  | unsupportedMajor (major : UInt16)
  | invalidField (field : String)
  | invalidTransition
  | wrongBoot
  | wrongSession
  | wrongRole
  | randomUnavailable
  deriving DecidableEq, Repr

def maxPeerIdBytes : ℕ := 256
def maxCapabilities : ℕ := 32
def maxCapabilityBytes : ℕ := 64
def maxDetailBytes : ℕ := 512
def requiredCapabilities : List String := ["control_v2", "input_v2"]

/-! ### Checks -/

def refuseIf (bad : Prop) [Decidable bad] (field : String) : Except ProtocolError Unit :=
  if bad then .error (.invalidField field) else .ok ()

def validateText (value : String) (max : ℕ) (field : String) : Except ProtocolError Unit :=
  refuseIf (fits value max = false) field

def validateSession (session : SessionId) : Except ProtocolError Unit :=
  refuseIf (session.controllerBoot.bytes = zero16 ∨ session.receiverBoot.bytes = zero16 ∨ session.nonce = zero16)
    "session_id"

def validateNonzero (value : UInt64) (field : String) : Except ProtocolError Unit := refuseIf (value = 0) field

def validateCapabilities (capabilities : List String) : Except ProtocolError Unit := do
  refuseIf (maxCapabilities < capabilities.length) "capabilities"
  capabilities.forM fun capability => validateText capability maxCapabilityBytes "capability"
  refuseIf (requiredCapabilities.all (capabilities.contains ·) = false) "capabilities"

def validateFrame : ControlFrame → Except ProtocolError Unit
  | .hello _ peerId _ capabilities => do
    validateText peerId maxPeerIdBytes "peer_id"
    validateCapabilities capabilities
  | .prepare requestId targetDisplay layoutRevision => do
    validateNonzero requestId "request_id"
    validateText targetDisplay maxPeerIdBytes "target_display"
    validateNonzero layoutRevision "layout_revision"
  | .ready requestId _ _ targetDisplay layoutRevision => do
    validateNonzero requestId "request_id"
    validateText targetDisplay maxPeerIdBytes "target_display"
    validateNonzero layoutRevision "layout_revision"
  | .commit requestId sessionId => do
    validateNonzero requestId "request_id"
    validateSession sessionId
  | .commitAck sessionId => validateSession sessionId
  | .ping sessionId _ => validateSession sessionId
  | .pong sessionId _ _ => validateSession sessionId
  | .endSession sessionId reason => do
    validateSession sessionId
    validateText reason maxDetailBytes "reason"
  | .reject code detail => do
    validateText code maxCapabilityBytes "code"
    validateText detail maxDetailBytes "detail"

def validateCritical (frame : CriticalFrame) : Except ProtocolError Unit := do
  validateSession frame.sessionId
  validateNonzero frame.sequence "sequence"
  match frame.event with
  | .key keyCode scanCode _ _ => refuseIf (keyCode = 0 ∧ scanCode = 0) "key_code"
  | .button _ _ _ _ motionSequence => validateNonzero motionSequence "motion_sequence"
  | .scroll deltaX deltaY _ _ motionSequence => do
    validateNonzero motionSequence "motion_sequence"
    refuseIf (deltaX = 0 ∧ deltaY = 0) "scroll_delta"

def validateMotion (frame : MotionFrame) : Except ProtocolError Unit := do
  validateSession frame.sessionId
  validateText frame.displayId maxPeerIdBytes "display_id"
  validateNonzero frame.layoutRevision "layout_revision"
  validateNonzero frame.sequence "motion_sequence"

/-! ### What a check says -/

/-- `?` runs the second check after the first. -/
theorem bind_eq_ok {ε α β : Type} {x : Except ε α} {f : α → Except ε β} {b : β} :
    x >>= f = .ok b ↔ ∃ a, x = .ok a ∧ f a = .ok b := by
  cases x <;> simp [bind, Except.bind]

theorem bind_eq_error {ε α β : Type} {x : Except ε α} {f : α → Except ε β} {e : ε} :
    x >>= f = .error e ↔ x = .error e ∨ ∃ a, x = .ok a ∧ f a = .error e := by
  cases x <;> simp [bind, Except.bind]

@[simp] theorem refuseIf_eq_ok {bad : Prop} [Decidable bad] {field : String} {u : Unit} :
    refuseIf bad field = .ok u ↔ ¬ bad := by
  unfold refuseIf
  split <;> simp_all

@[simp] theorem validateText_eq_ok {value field : String} {max : ℕ} {u : Unit} :
    validateText value max field = .ok u ↔ fits value max = true := by simp [validateText]

@[simp] theorem validateNonzero_eq_ok {value : UInt64} {field : String} {u : Unit} :
    validateNonzero value field = .ok u ↔ value ≠ 0 := by simp [validateNonzero]

/-- A session id whose parts are all set. -/
def SessionId.Valid (s : SessionId) : Prop :=
  s.controllerBoot.bytes ≠ zero16 ∧ s.receiverBoot.bytes ≠ zero16 ∧ s.nonce ≠ zero16

@[simp] theorem validateSession_eq_ok {s : SessionId} {u : Unit} : validateSession s = .ok u ↔ s.Valid := by
  simp [validateSession, SessionId.Valid]

/-- A refusal names the field which it checks. -/
def NamesField (x : Except ProtocolError Unit) : Prop := ∀ e, x = .error e → ∃ field, e = .invalidField field

theorem NamesField.bind {x y : Except ProtocolError Unit} (hx : NamesField x) (hy : NamesField y) :
    NamesField (x >>= fun _ => y) := by
  intro e he
  rcases bind_eq_error.mp he with he | ⟨_, _, he⟩
  · exact hx e he
  · exact hy e he

theorem namesField_refuseIf (bad : Prop) [Decidable bad] (field : String) : NamesField (refuseIf bad field) := by
  unfold refuseIf
  split
  · rintro e ⟨⟩
    exact ⟨field, rfl⟩
  · rintro e ⟨⟩

theorem namesField_text (value : String) (max : ℕ) (field : String) : NamesField (validateText value max field) :=
  namesField_refuseIf _ _

theorem namesField_nonzero (value : UInt64) (field : String) : NamesField (validateNonzero value field) :=
  namesField_refuseIf _ _

theorem namesField_session (s : SessionId) : NamesField (validateSession s) := namesField_refuseIf _ _

theorem namesField_forM (capabilities : List String) :
    NamesField (capabilities.forM fun capability => validateText capability maxCapabilityBytes "capability") := by
  induction capabilities with
  | nil => rintro e ⟨⟩
  | cons c cs ih => exact (namesField_text c maxCapabilityBytes "capability").bind ih

theorem namesField_capabilities (capabilities : List String) : NamesField (validateCapabilities capabilities) :=
  (namesField_refuseIf _ _).bind ((namesField_forM capabilities).bind (namesField_refuseIf _ _))

/-- **Every refused frame names the field which refused it.** -/
theorem validateFrame_namesField (frame : ControlFrame) : NamesField (validateFrame frame) := by
  cases frame with
  | hello bootId peerId role capabilities => exact (namesField_text _ _ _).bind (namesField_capabilities _)
  | prepare requestId targetDisplay layoutRevision =>
    exact (namesField_nonzero _ _).bind ((namesField_text _ _ _).bind (namesField_nonzero _ _))
  | ready requestId receiverBoot inputReady targetDisplay layoutRevision =>
    exact (namesField_nonzero _ _).bind ((namesField_text _ _ _).bind (namesField_nonzero _ _))
  | commit requestId sessionId => exact (namesField_nonzero _ _).bind (namesField_session _)
  | commitAck sessionId => exact namesField_session _
  | endSession sessionId reason => exact (namesField_session _).bind (namesField_text _ _ _)
  | ping sessionId sequence => exact namesField_session _
  | pong sessionId sequence highestAppliedSequence => exact namesField_session _
  | reject code detail => exact (namesField_text _ _ _).bind (namesField_text _ _ _)

theorem validateCritical_namesField (frame : CriticalFrame) : NamesField (validateCritical frame) := by
  have hevent : NamesField (match frame.event with
      | .key keyCode scanCode _ _ => refuseIf (keyCode = 0 ∧ scanCode = 0) "key_code"
      | .button _ _ _ _ motionSequence => validateNonzero motionSequence "motion_sequence"
      | .scroll deltaX deltaY _ _ motionSequence => do
        validateNonzero motionSequence "motion_sequence"
        refuseIf (deltaX = 0 ∧ deltaY = 0) "scroll_delta") := by
    cases frame.event with
    | key keyCode scanCode extended down => exact namesField_refuseIf _ _
    | button button down x y motionSequence => exact namesField_nonzero _ _
    | scroll deltaX deltaY x y motionSequence => exact (namesField_nonzero _ _).bind (namesField_refuseIf _ _)
  exact (namesField_session _).bind ((namesField_nonzero _ _).bind hevent)

theorem validateMotion_namesField (frame : MotionFrame) : NamesField (validateMotion frame) :=
  (namesField_session _).bind
    ((namesField_text _ _ _).bind ((namesField_nonzero _ _).bind (namesField_nonzero _ _)))

/-- A session with a valid id can be ended with any reason which fits. -/
theorem validateFrame_endSession {s : SessionId} {reason : String} (hs : s.Valid)
    (hr : fits reason maxDetailBytes = true) :
    validateFrame (.endSession s reason) = .ok () :=
  bind_eq_ok.mpr ⟨(), validateSession_eq_ok.mpr hs, validateText_eq_ok.mpr hr⟩

theorem validateFrame_commit {requestId : UInt64} {s : SessionId} {u : Unit} :
    validateFrame (.commit requestId s) = .ok u ↔ requestId ≠ 0 ∧ s.Valid := by
  simp [validateFrame, bind_eq_ok]

end MyKvm.Protocol
