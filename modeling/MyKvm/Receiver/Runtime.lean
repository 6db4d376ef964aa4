import MyKvm.Lib.Machine
import MyKvm.Receiver.Handshake
import MyKvm.Receiver.Mapping
import MyKvm.Receiver.PressedState

/-!
# MyKvm.Receiver.Runtime — the receiver

One value holds the connection it is bound to, the handshake, the gate of the input frames, the displays, the
ledger of pressed keys and the injector.  Every operation returns its answer with the receiver after it; where the
source leaves with `?`, what was changed before stays changed.
-/

namespace MyKvm.Receiver

open MyKvm.Lib MyKvm.Protocol

inductive PeerRole where
  | controller
  | receiver
  deriving DecidableEq, Repr

inductive SocketAddr where
  | v4 (ip : BitVec 32) (port : UInt16)
  | v6 (ip : BitVec 128) (port : UInt16) (flowinfo scopeId : UInt32)
  deriving DecidableEq

structure AuthenticatedPeer where
  peerId : String
  role : PeerRole
  trustRevision : UInt64
  connectionGeneration : UInt64
  remoteAddr : SocketAddr
  deriving DecidableEq

inductive SessionRuntimeError where
  | wrongRole
  | wrongConnection
  | protocol (error : ProtocolError)
  | injector (error : PortError)
  deriving DecidableEq

def inputLeaseTimeoutMs : UInt64 := 3000

inductive SessionFault where
  | injector (error : PortError)
  | releaseFailed (error : PortError)
  | leaseExpired
  | inputStreamClosed
  | layoutChanged
  deriving DecidableEq

inductive MotionDisposition where
  | applied
  | buffered
  | stale
  deriving DecidableEq, Repr

structure ReceiverSessionRuntime where
  localBoot : BootId
  binding : Option AuthenticatedPeer
  handshake : Option ReceiverHandshake
  inputGate : InputSessionGate
  activeSession : Option SessionId
  highestAppliedSequence : UInt64
  highestMotionSequence : UInt64
  pendingMotion : Option MotionFrame
  displayLayouts : List ReceiverDisplayLayout
  preparedDisplay : Option ReceiverDisplayLayout
  activeDisplay : Option ReceiverDisplayLayout
  modifierRemap : Bool
  modifierControl : String
  modifierAlt : String
  modifierMeta : String
  lastActivityMs : Option UInt64
  lastFault : Option SessionFault
  pressed : PressedState
  injector : Injector
  deriving DecidableEq

/-- The loop which submits until the first failure. -/
def submitAll : List InputCommand → Injector → Except PortError Unit × Injector
  | [], i => (.ok (), i)
  | command :: commands, i =>
    match i.submitReady command with
    | (.error e, i) => (.error e, i)
    | (.ok (), i) => submitAll commands i

/-- The loop which submits every release, and keeps the first error and the last fault. -/
def releaseLoop : List InputCommand → Option PortError → Option SessionFault → Injector →
    Option PortError × Option SessionFault × Injector
  | [], firstError, lastFault, i => (firstError, lastFault, i)
  | command :: commands, firstError, lastFault, i =>
    match i.submitReady command with
    | (.error e, i) => releaseLoop commands (some (firstError.getD e)) (some (.releaseFailed e)) i
    | (.ok (), i) => releaseLoop commands firstError lastFault i

/-- What an input event asks of the device, and the ledger after it; `pointer` is its
point on the native display. -/
def inputCommands (pressed : PressedState) (event : CriticalEvent) (pointer : Option (Int32 × Int32)) :
    List InputCommand × PressedState :=
  let dragButton := pressed.dragButton
  let moved := match pointer with
    | some (x, y) => pressed.updatePointer x y
    | none => pressed
  let before := match pointer, event with
    | some (x, y), .scroll _ _ _ _ _ => [.mouseMove x y dragButton]
    | _, _ => []
  let (applied, after) := moved.apply event
  match before ++ applied, pointer with
  | [], some (x, y) => ([.mouseMove x y after.dragButton], after)
  | commands, _ => (commands, after)

namespace ReceiverSessionRuntime

def newWithDisplayLayouts (localBoot : BootId) (injector : Injector)
    (displayLayouts : List ReceiverDisplayLayout) :
    ReceiverSessionRuntime where
  localBoot
  binding := none
  handshake := none
  inputGate := .new localBoot
  activeSession := none
  highestAppliedSequence := 0
  highestMotionSequence := 0
  pendingMotion := none
  displayLayouts
  preparedDisplay := none
  activeDisplay := none
  modifierRemap := false
  modifierControl := "same"
  modifierAlt := "same"
  modifierMeta := "same"
  lastActivityMs := none
  lastFault := none
  pressed := .empty
  injector

variable (r : ReceiverSessionRuntime)

def resetMotion : ReceiverSessionRuntime := { r with highestMotionSequence := 0, pendingMotion := none }

def mapActivePointer (x y : Int32) : Except SessionRuntimeError (Int32 × Int32) :=
  match r.activeDisplay with
  | none => .error (.protocol (.invalidField "display_id"))
  | some display => (display.map x y).mapError .protocol

def releasePressed : Except SessionRuntimeError Unit × ReceiverSessionRuntime :=
  let (commands, pressed) := r.pressed.releaseAll
  let (firstError, lastFault, injector) := releaseLoop commands none r.lastFault r.injector
  match firstError with
  | some e => (.error (.injector e), { r with injector, lastFault })
  | none => (.ok (), { r with injector, lastFault, pressed })

/-- `release_pressed()?` and then `Ok(true)` -/
def releaseAndReport : Except SessionRuntimeError Bool × ReceiverSessionRuntime :=
  match r.releasePressed with
  | (.error e, r) => (.error e, r)
  | (.ok (), r) => (.ok true, r)

/-- What every way of losing the session `s` does: the gate and the handshake end it, whether they can or not. -/
def dropSession (s : SessionId) : ReceiverSessionRuntime :=
  resetMotion { r with
    inputGate := (r.inputGate.end s).2
    handshake := r.handshake.map fun h => (h.abortActive s).2
    activeSession := none
    lastActivityMs := none }

def abortAfterInjectorFailure (s : SessionId) : ReceiverSessionRuntime := (r.dropSession s).releasePressed.2

/-! ### Control frames -/

def handleHello (frame : ControlFrame) (peerId : String) (peer : AuthenticatedPeer) :
    Except SessionRuntimeError (Option ControlFrame) × ReceiverSessionRuntime :=
  if peerId ≠ peer.peerId then (.error .wrongConnection, r) else
  if r.activeSession.isSome then (.error .wrongConnection, r) else
  match r.releasePressed with
  | (.error e, r) => (.error e, r)
  | (.ok (), r) =>
    match ReceiverHandshake.new peer.peerId r.localBoot with
    | .error e => (.error (.protocol e), r)
    | .ok handshake =>
      match handshake.handle frame with
      | (.error e, _) => (.error (.protocol e), r)
      | (.ok response, handshake) =>
        let r : ReceiverSessionRuntime := { r with
          binding := some peer, handshake := some handshake, highestAppliedSequence := 0 }
        let r := r.resetMotion
        (.ok response, { r with preparedDisplay := none, activeDisplay := none, lastActivityMs := none })

/-- The layout which a `Prepare` asks for. -/
def findLayout (targetDisplay : String) (layoutRevision : UInt64) : Option ReceiverDisplayLayout :=
  r.displayLayouts.find? fun layout => layout.displayId == targetDisplay && layout.layoutRevision == layoutRevision

/-- Before the handshake sees a `Prepare`: the injector is ready and the layout is known. -/
def prepareDisplay (frame : ControlFrame) : Except SessionRuntimeError Unit × ReceiverSessionRuntime :=
  match frame with
  | .prepare _ targetDisplay layoutRevision =>
    match r.injector.readiness with
    | (.error e, injector) => (.error (.injector e), { r with injector })
    | (.ok (), injector) =>
      let r := { r with injector, preparedDisplay := r.findLayout targetDisplay layoutRevision }
      if r.preparedDisplay.isNone then (.error (.protocol (.invalidField "layout_revision")), r) else (.ok (), r)
  | _ => (.ok (), r)

/-- After the handshake acknowledged a commit: the session becomes active. -/
def activateSession (response : Option ControlFrame) (nowMs : UInt64) :
    Except SessionRuntimeError Unit × ReceiverSessionRuntime :=
  match response with
  | some (.commitAck sessionId) =>
    if r.activeSession.isNone then
      if !r.pressed.isEmpty then (.error (.protocol .invalidTransition), r) else
      match r.inputGate.activate sessionId with
      | (.error e, inputGate) => (.error (.protocol e), { r with inputGate })
      | (.ok (), inputGate) =>
        let r : ReceiverSessionRuntime := { r with
          inputGate, activeSession := some sessionId, activeDisplay := r.preparedDisplay, preparedDisplay := none,
          highestAppliedSequence := 0 }
        let r := r.resetMotion
        (.ok (), { r with lastActivityMs := some nowMs, lastFault := none })
    else if r.activeSession ≠ some sessionId then (.error (.protocol .wrongSession), r)
    else (.ok (), r)
  | _ => (.ok (), r)

/-- After the handshake took an `EndSession`: the session ends and everything is released. -/
def endSession (frame : ControlFrame) : Except SessionRuntimeError Unit × ReceiverSessionRuntime :=
  match frame with
  | .endSession sessionId _ =>
    if r.activeSession = some sessionId then
      match r.inputGate.end sessionId with
      | (.error e, inputGate) => (.error (.protocol e), { r with inputGate })
      | (.ok (), inputGate) =>
        let r : ReceiverSessionRuntime := { r with
          inputGate, activeSession := none, activeDisplay := none, lastActivityMs := none }
        r.resetMotion.releasePressed
    else r.releasePressed
  | _ => (.ok (), r)

/-- The highest applied sequence, in a `Pong`. -/
def stampPong : Option ControlFrame → Option ControlFrame
  | some (.pong sessionId sequence _) => some (.pong sessionId sequence r.highestAppliedSequence)
  | response => response

/-- A `Ping` or a `Commit` keeps an active session alive. -/
def touch (frame : ControlFrame) (nowMs : UInt64) : ReceiverSessionRuntime :=
  match frame with
  | .ping _ _ | .commit _ _ => if r.activeSession.isSome then { r with lastActivityMs := some nowMs } else r
  | _ => r

/-- What follows when the handshake took a frame. -/
def finishControl (frame : ControlFrame) (response : Option ControlFrame) (nowMs : UInt64) :
    Except SessionRuntimeError (Option ControlFrame) × ReceiverSessionRuntime :=
  match r.activateSession response nowMs with
  | (.error e, r) => (.error e, r)
  | (.ok (), r) =>
    match r.endSession frame with
    | (.error e, r) => (.error e, r)
    | (.ok (), r) => (.ok (r.stampPong response), r.touch frame nowMs)

/-- The frames of a bound connection, from the handshake on. -/
def handleBound (frame : ControlFrame) (nowMs : UInt64) :
    Except SessionRuntimeError (Option ControlFrame) × ReceiverSessionRuntime :=
  match r.handshake with
  | none => (.error .wrongConnection, r)
  | some handshake =>
    match handshake.handle frame with
    | (.error e, handshake) => (.error (.protocol e), { r with handshake := some handshake })
    | (.ok response, handshake) => finishControl { r with handshake := some handshake } frame response nowMs

/-- A `Commit` without a prepared display, while no session is active. -/
def commitsUnprepared (frame : ControlFrame) : Bool :=
  match frame with
  | .commit _ _ => r.activeSession.isNone && r.preparedDisplay.isNone
  | _ => false

def handleControlAt (frame : ControlFrame) (peer : AuthenticatedPeer) (nowMs : UInt64) :
    Except SessionRuntimeError (Option ControlFrame) × ReceiverSessionRuntime :=
  if peer.role ≠ .controller then (.error .wrongRole, r) else
  match frame with
  | .hello _ peerId .controller _ => r.handleHello frame peerId peer
  | _ =>
    if r.binding ≠ some peer then (.error .wrongConnection, r) else
    if r.commitsUnprepared frame then (.error (.protocol (.invalidField "layout_revision")), r) else
    match r.prepareDisplay frame with
    | (.error e, r) => (.error e, r)
    | (.ok (), r) => r.handleBound frame nowMs

/-! ### Layouts and mappings -/

/-- The active display is gone: the session is dropped, if there is one, and everything is released. -/
def loseDisplay : Except SessionRuntimeError Bool × ReceiverSessionRuntime :=
  let r := match r.activeSession with
    | some s => r.dropSession s
    | none => r
  let r := resetMotion { r with activeDisplay := none, lastActivityMs := none }
  releaseAndReport { r with lastFault := some .layoutChanged }

def updateDisplayLayouts (displayLayouts : List ReceiverDisplayLayout) :
    Except SessionRuntimeError Bool × ReceiverSessionRuntime :=
  let activeIsCurrent := r.activeDisplay.all displayLayouts.contains
  let preparedIsCurrent := r.preparedDisplay.all displayLayouts.contains
  let r := { r with displayLayouts }
  let r := if preparedIsCurrent then r else { r with preparedDisplay := none }
  if activeIsCurrent then (.ok false, r) else r.loseDisplay

def updateModifierMapping (enabled : Bool) (control alt «meta» : String) : ReceiverSessionRuntime :=
  { r with modifierRemap := enabled, modifierControl := control, modifierAlt := alt, modifierMeta := «meta» }

/-! ### Input and motion -/

/-- A submission failed: the ledger goes back, the session is lost, and everything is released. -/
def failSubmission (pressedBefore : PressedState) (e : PortError) (s : SessionId) : ReceiverSessionRuntime :=
  abortAfterInjectorFailure { r with pressed := pressedBefore, lastFault := some (.injector e) } s

def applyMotion (frame : MotionFrame) : Except SessionRuntimeError Unit × ReceiverSessionRuntime :=
  match r.mapActivePointer frame.x frame.y with
  | .error e => (.error e, r)
  | .ok (x, y) =>
    let pressedBefore := r.pressed
    let pressed := r.pressed.updatePointer x y
    match r.injector.submitReady (.mouseMove x y pressed.dragButton) with
    | (.error e, injector) =>
      (.error (.injector e), failSubmission { r with injector, pressed } pressedBefore e frame.sessionId)
    | (.ok (), injector) => (.ok (), { r with injector, pressed, highestMotionSequence := frame.sequence })

def flushPendingMotion : Except SessionRuntimeError Unit × ReceiverSessionRuntime :=
  match r.pendingMotion with
  | none => (.ok (), r)
  | some frame =>
    if r.highestAppliedSequence < frame.requiredReliableSequence then (.ok (), r) else
    let r := { r with pendingMotion := none }
    if r.highestMotionSequence < frame.sequence then r.applyMotion frame else (.ok (), r)

/-- The key of the event, under the modifier mapping. -/
def remapEvent (event : CriticalEvent) : CriticalEvent :=
  match event with
  | .key keyCode scanCode extended down =>
    if r.modifierRemap then
      .key (remapModifierVk keyCode r.modifierControl r.modifierAlt r.modifierMeta) scanCode extended down
    else event
  | _ => event

/-- The event on the native display, with its point; the source maps the point again
below, with the same result. -/
def mapEvent (event : CriticalEvent) : Except SessionRuntimeError (CriticalEvent × Option (Int32 × Int32)) :=
  match criticalMotionSnapshot event with
  | none => .ok (r.remapEvent event, none)
  | some (_, x, y) =>
    match r.mapActivePointer x y with
    | .error e => .error e
    | .ok (x, y) => .ok (moveTo x y (r.remapEvent event), some (x, y))

/-- The motion sequence of an event is behind the pointer. -/
def isStaleSnapshot (event : CriticalEvent) : Bool :=
  (criticalMotionSnapshot event).any fun (sequence, _, _) => sequence != 0 && sequence < r.highestMotionSequence

/-- The motion sequence which an event raises the pointer to. -/
def raiseMotion (event : CriticalEvent) : UInt64 :=
  match criticalMotionSnapshot event with
  | some (sequence, _, _) => max r.highestMotionSequence sequence
  | none => r.highestMotionSequence

/-- An admitted event: submitted, noted in the ledger, and followed by the motion which waited for it. -/
def applyInput (frame : CriticalFrame) (mappedEvent : CriticalEvent) (pointer : Option (Int32 × Int32))
    (nowMs : UInt64) : Except SessionRuntimeError Unit × ReceiverSessionRuntime :=
  let pressedBefore := r.pressed
  let (commands, pressed) := inputCommands r.pressed mappedEvent pointer
  match submitAll commands r.injector with
  | (.error e, injector) =>
    (.error (.injector e), failSubmission { r with injector, pressed } pressedBefore e frame.sessionId)
  | (.ok (), injector) =>
    let r : ReceiverSessionRuntime := { r with
      injector, pressed, highestAppliedSequence := frame.sequence,
      highestMotionSequence := r.raiseMotion frame.event, lastActivityMs := some nowMs }
    r.flushPendingMotion

def handleInputAt (frame : CriticalFrame) (peer : AuthenticatedPeer) (nowMs : UInt64) :
    Except SessionRuntimeError Unit × ReceiverSessionRuntime :=
  if r.binding ≠ some peer ∨ peer.role ≠ .controller then (.error .wrongConnection, r) else
  if r.isStaleSnapshot frame.event then (.error (.protocol .wrongSession), r) else
  match r.mapEvent frame.event with
  | .error e => (.error e, r)
  | .ok (mappedEvent, pointer) =>
    match r.inputGate.accept frame with
    | (.error e, inputGate) => (.error (.protocol e), { r with inputGate })
    | (.ok (), inputGate) => applyInput { r with inputGate } frame mappedEvent pointer nowMs

def handleMotionAt (frame : MotionFrame) (peer : AuthenticatedPeer) (nowMs : UInt64) :
    Except SessionRuntimeError MotionDisposition × ReceiverSessionRuntime :=
  if r.binding ≠ some peer ∨ peer.role ≠ .controller then (.error .wrongConnection, r) else
  if frame.sequence = 0 ∨ r.activeSession ≠ some frame.sessionId ∨ frame.sessionId.receiverBoot ≠ r.localBoot then
    (.error (.protocol .wrongSession), r)
  else if frame.sequence ≤ r.highestMotionSequence then (.ok .stale, r) else
  match r.activeDisplay with
  | none => (.error (.protocol (.invalidField "display_id")), r)
  | some display =>
    if frame.displayId ≠ display.displayId ∨ frame.layoutRevision ≠ display.layoutRevision then
      (.error (.protocol (.invalidField "layout_revision")), r)
    else
      match display.map frame.x frame.y with
      | .error e => (.error (.protocol e), r)
      | .ok _ =>
        let r := { r with lastActivityMs := some nowMs }
        if r.highestAppliedSequence < frame.requiredReliableSequence then
          if r.pendingMotion.all (fun pending => pending.sequence < frame.sequence) then
            (.ok .buffered, { r with pendingMotion := some frame })
          else (.ok .buffered, r)
        else
          match r.applyMotion frame with
          | (.error e, r) => (.error e, r)
          | (.ok (), r) => (.ok .applied, r)

/-! ### Losing the session -/

/-- The session is lost for the reason `fault`. -/
def loseSession (s : SessionId) (fault : SessionFault) :
    Except SessionRuntimeError Bool × ReceiverSessionRuntime :=
  releaseAndReport { r.dropSession s with lastFault := some fault }

def expireIfNeeded (nowMs : UInt64) : Except SessionRuntimeError Bool × ReceiverSessionRuntime :=
  match r.activeSession, r.lastActivityMs with
  | some sessionId, some lastActivityMs =>
    if saturatingSub nowMs lastActivityMs < inputLeaseTimeoutMs then (.ok false, r)
    else r.loseSession sessionId .leaseExpired
  | _, _ => (.ok false, r)

def inputStreamClosed (peer : AuthenticatedPeer) : Except SessionRuntimeError Bool × ReceiverSessionRuntime :=
  if r.binding ≠ some peer then (.ok false, r) else
  match r.activeSession with
  | none => (.ok false, r)
  | some sessionId => r.loseSession sessionId .inputStreamClosed

end ReceiverSessionRuntime

/-! ### Runs -/

inductive ReceiverCall where
  | control (frame : ControlFrame) (peer : AuthenticatedPeer) (nowMs : UInt64)
  | input (frame : CriticalFrame) (peer : AuthenticatedPeer) (nowMs : UInt64)
  | motion (frame : MotionFrame) (peer : AuthenticatedPeer) (nowMs : UInt64)
  | expire (nowMs : UInt64)
  | streamClosed (peer : AuthenticatedPeer)
  | layouts (displayLayouts : List ReceiverDisplayLayout)
  | modifiers (enabled : Bool) (control alt «meta» : String)
  deriving DecidableEq

/-- The receiver after a call. -/
def ReceiverSessionRuntime.next (r : ReceiverSessionRuntime) : ReceiverCall → ReceiverSessionRuntime
  | .control frame peer nowMs => (r.handleControlAt frame peer nowMs).2
  | .input frame peer nowMs => (r.handleInputAt frame peer nowMs).2
  | .motion frame peer nowMs => (r.handleMotionAt frame peer nowMs).2
  | .expire nowMs => (r.expireIfNeeded nowMs).2
  | .streamClosed peer => (r.inputStreamClosed peer).2
  | .layouts displayLayouts => (r.updateDisplayLayouts displayLayouts).2
  | .modifiers enabled control alt «meta» => r.updateModifierMapping enabled control alt «meta»

/-! ### A receiver to try runs on -/

namespace Sample

def boot (n : UInt8) : BootId := ⟨Vector.replicate 16 n⟩

def session (n : UInt8) : SessionId := ⟨boot 1, boot 2, Vector.replicate 16 n⟩

def peer : AuthenticatedPeer := ⟨"windows", .controller, 1, 1, .v4 0 0⟩

def hello : ControlFrame := .hello (boot 1) "windows" .controller ["control_v2", "input_v2"]

def layout (displayId : String) : ReceiverDisplayLayout := ⟨displayId, 1, 1920, 1080, 0, 0, 1920, 1080⟩

/-- A receiver with two displays, on a machine which refuses nothing. -/
def receiver : ReceiverSessionRuntime :=
  .newWithDisplayLayouts (boot 2) { answers := [], posted := [] } [layout "left", layout "right"]

/-- The control frames of the one controller, at time zero. -/
def control (frame : ControlFrame) : ReceiverCall := .control frame peer 0

end Sample

end MyKvm.Receiver
