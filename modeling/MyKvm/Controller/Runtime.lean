import MyKvm.Controller.Handshake
import MyKvm.Routing.Router

/-!
# MyKvm.Controller.Runtime — the controller

The router, the handshake and what is pending between them.  Every operation returns its answer with the controller
and the world after it; the answer lists what the layer above is asked to do.
-/

namespace MyKvm.Controller

open MyKvm.Lib MyKvm.Protocol MyKvm.Routing

inductive ControllerAction where
  | sendControl (frame : ControlFrame)
  | openInput (sessionId : SessionId)
  | closeInput
  deriving DecidableEq

inductive ControllerRuntimeError where
  | route (error : RouteError)
  | protocol (error : ProtocolError)
  | notActive
  deriving DecidableEq

structure ControllerRuntime where
  router : Router
  handshake : ControllerHandshake
  pendingRequest : Option UInt64
  pendingSession : Option SessionId
  inputSequence : UInt64
  motionSequence : UInt64
  display : Option (String × UInt64)
  deriving DecidableEq

def returnReason : ReturnReason → String
  | .user => "user"
  | .emergency => "emergency"
  | .timeout => "timeout"
  | .keysHeld => "keys-held"
  | .focusUnavailable => "focus-unavailable"
  | .captureFailed => "capture-failed"
  | .networkFailed => "network-failed"
  | .queueFull => "queue-full"

/-- `u128::from_be_bytes` of the nonce. -/
def sessionToken (sessionId : SessionId) : BitVec 128 :=
  sessionId.nonce.toList.foldl (fun token byte => token <<< 8 ||| byte.toBitVec.setWidth 128) 0

namespace ControllerRuntime

variable {ν : Type}

/-- An answer, with the controller and the world after it. -/
abbrev Answer (ν : Type) := Except ControllerRuntimeError (List ControllerAction) × ControllerRuntime × World ν

def newWithOverride (localBoot : BootId) (localPeerId : String) :
    Except ControllerRuntimeError ControllerRuntime :=
  match ControllerHandshake.new localBoot localPeerId with
  | .error e => .error (.protocol e)
  | .ok handshake => .ok
    { router := Router.withGate, handshake, pendingRequest := none, pendingSession := none, inputSequence := 0,
      motionSequence := 0, display := none }

variable (c : ControllerRuntime)

def canBegin : Bool := c.router.state.isLocal

def isActive : Bool := c.handshake.activeSession.isSome

def setGameMode (enabled : Bool) : ControllerRuntime := { c with router := c.router.setGameMode enabled }

/-- Nothing is pending, and the sequences start anew. -/
def forget : ControllerRuntime :=
  { c with pendingRequest := none, pendingSession := none, inputSequence := 0, motionSequence := 0 }

def begin (peerId targetDisplay : String) (layoutRevision nowMs : UInt64) (w : World ν) : Answer ν :=
  match c.router.goRemote peerId nowMs w with
  | (.error e, router, w) => (.error (.route e), { c with router }, w)
  | (.ok effects, router, w) =>
    let c := { c with router }
    match effects with
    | .prepare _ request :: _ =>
      match c.handshake.begin request targetDisplay layoutRevision with
      | (.ok frames, handshake) =>
        (.ok (frames.map .sendControl), { c with handshake, display := some (targetDisplay, layoutRevision) }, w)
      | (.error e, handshake) =>
        let (_, router, w) := c.router.goLocal .networkFailed w
        (.error (.protocol e), { c with handshake, display := none, router }, w)
    | _ => (.ok [], c, w)

def failLocal (w : World ν) : ControllerRuntime × World ν :=
  let (_, router, w) := c.router.goLocal .networkFailed w
  (forget { c with router, handshake := c.handshake.abort }, w)

/-- `fail_local`, and then the error. -/
def failWith (e : ControllerRuntimeError) (w : World ν) : Answer ν := (.error e, c.failLocal w)

def endAfterFailedAck (w : World ν) : List ControllerAction × ControllerRuntime × World ν :=
  let (actions, c) : List ControllerAction × ControllerRuntime :=
    if c.handshake.activeSession.isSome then
      match c.handshake.end "late-or-cancelled-ack" with
      | (.ok frame, handshake) => ([.sendControl frame], { c with handshake })
      | (.error _, handshake) => ([], { c with handshake })
    else ([], c)
  let (_, router, w) := c.router.goLocal .emergency w
  (actions ++ [.closeInput], forget { c with router }, w)

def handleReady (frame : ControlFrame) (w : World ν) : Answer ν :=
  match c.handshake.handle frame w with
  | (.error e, handshake, w) => failWith { c with handshake } (.protocol e) w
  | (.ok _, handshake, w) =>
    match handshake.preparedSession with
    | none => failWith { c with handshake } (.protocol .invalidTransition) w
    | some (request, sessionId) =>
      let c := { c with handshake, pendingRequest := some request, pendingSession := some sessionId }
      match c.router.ready request (sessionToken sessionId) w with
      | (.error e, router, w) => failWith { c with router } (.route e) w
      | (.ok (), router, w) => (.ok [], { c with router }, w)

def handleCommitAck (frame : ControlFrame) (sessionId : SessionId) (nowMs : UInt64) (w : World ν) : Answer ν :=
  match c.pendingRequest, c.pendingSession with
  | some request, some pending =>
    if pending ≠ sessionId then c.failWith (.protocol .wrongSession) w else
    match c.handshake.handle frame w with
    | (.error e, handshake, w) => failWith { c with handshake } (.protocol e) w
    | (.ok _, handshake, w) =>
      let c := { c with handshake }
      match c.router.commitAck request (sessionToken sessionId) nowMs w with
      | (.error e, router, w) =>
        let (actions, c, w) := endAfterFailedAck { c with router } w
        (if actions.isEmpty then .error (.route e) else .ok actions, c, w)
      | (.ok (), router, w) =>
        (.ok [.openInput sessionId],
          { c with router, pendingRequest := none, inputSequence := 0, motionSequence := 0 }, w)
  | _, _ => (.error .notActive, c, w)

def handleControl (frame : ControlFrame) (nowMs : UInt64) (w : World ν) : Answer ν :=
  match frame with
  | .ready _ _ _ _ _ => c.handleReady frame w
  | .commitAck sessionId => c.handleCommitAck frame sessionId nowMs w
  | .pong _ _ _ =>
    match c.handshake.handle frame w with
    | (.error e, handshake, w) => failWith { c with handshake } (.protocol e) w
    | (.ok _, handshake, w) => (.ok [], { c with handshake }, w)
  | .reject _ _ =>
    let (_, handshake, w) := c.handshake.handle frame w
    failWith { c with handshake } (.protocol .invalidTransition) w
  | _ => c.failWith (.protocol .invalidTransition) w

def routeEffect : RouteEffect → Except ControllerRuntimeError (List ControllerAction) × ControllerRuntime
  | .commit request session =>
    if c.pendingRequest ≠ some request then (.error .notActive, c) else
    match c.pendingSession.filter fun pending => sessionToken pending == session with
    | none => (.error .notActive, c)
    | some pending =>
      match c.handshake.commit request pending with
      | (.error e, handshake) => (.error (.protocol e), { c with handshake })
      | (.ok frame, handshake) => (.ok [.sendControl frame], { c with handshake })
  | .end _ reason =>
    if c.handshake.activeSession.isSome then
      match c.handshake.end (returnReason reason) with
      | (.error e, handshake) => (.error (.protocol e), { c with handshake })
      | (.ok frame, handshake) => (.ok [.sendControl frame, .closeInput], forget { c with handshake })
    else (.ok [.closeInput], forget { c with handshake := c.handshake.abort })
  | .cancel _ => (.ok [.closeInput], forget { c with handshake := c.handshake.abort })
  | .prepare _ _ => (.ok [], c)

/-- The loop over the effects; `actions` are those so far. -/
def routeEffects (c : ControllerRuntime) (actions : List ControllerAction) :
    List RouteEffect → Except ControllerRuntimeError (List ControllerAction) × ControllerRuntime
  | [] => (.ok actions, c)
  | effect :: effects =>
    match c.routeEffect effect with
    | (.error e, c) => (.error e, c)
    | (.ok more, c) => routeEffects c (actions ++ more) effects

def advance (nowMs : UInt64) (keysReleased : Bool) (w : World ν) : Answer ν :=
  match c.router.advance nowMs keysReleased w with
  | (.error e, router, w) => (.error (.route e), { c with router }, w)
  | (.ok effects, router, w) =>
    let (answer, c) := routeEffects { c with router } [] effects
    (answer, c, w)

def goLocal (reason : ReturnReason) (w : World ν) : Answer ν :=
  let (effects, router, w) := c.router.goLocal reason w
  let (answer, c) := routeEffects { c with router } [] effects
  (answer, c, w)

/-- The motion sequence of the controller, in a button or scroll event. -/
def stampEvent (motionSequence : UInt64) : CriticalEvent → CriticalEvent
  | .button button down x y _ => .button button down x y motionSequence
  | .scroll deltaX deltaY x y _ => .scroll deltaX deltaY x y motionSequence
  | .key keyCode scanCode extended down => .key keyCode scanCode extended down

/-- A button or a scroll, which needs a motion before it. -/
def needsMotion : CriticalEvent → Bool
  | .key _ _ _ _ => false
  | _ => true

def nextInput (event : CriticalEvent) : Except ControllerRuntimeError CriticalFrame × ControllerRuntime :=
  match c.handshake.activeSession with
  | none => (.error .notActive, c)
  | some sessionId =>
    if needsMotion event ∧ c.motionSequence = 0 then (.error (.protocol (.invalidField "motion_sequence")), c) else
    match checkedAdd c.inputSequence 1 with
    | none => (.error (.protocol (.invalidField "sequence")), c)
    | some sequence =>
      (.ok { sessionId, sequence, event := stampEvent c.motionSequence event },
        { c with inputSequence := sequence })

def nextMotion (x y : Int32) : Except ControllerRuntimeError MotionFrame × ControllerRuntime :=
  match c.handshake.activeSession with
  | none => (.error .notActive, c)
  | some sessionId =>
    match c.display with
    | none => (.error .notActive, c)
    | some (displayId, layoutRevision) =>
      match checkedAdd c.motionSequence 1 with
      | none => (.error (.protocol (.invalidField "motion_sequence")), c)
      | some sequence =>
        (.ok { sessionId, displayId, layoutRevision, sequence, requiredReliableSequence := c.inputSequence, x, y },
          { c with motionSequence := sequence })

def ping : Except ControllerRuntimeError ControllerAction × ControllerRuntime :=
  match c.handshake.ping with
  | (.error e, handshake) => (.error (.protocol e), { c with handshake })
  | (.ok frame, handshake) => (.ok (.sendControl frame), { c with handshake })

end ControllerRuntime

/-! ### Calls -/

inductive ControllerCall where
  | begin (peerId targetDisplay : String) (layoutRevision nowMs : UInt64)
  | control (frame : ControlFrame) (nowMs : UInt64)
  | advance (nowMs : UInt64) (keysReleased : Bool)
  | goLocal (reason : ReturnReason)
  | gameMode (enabled : Bool)
  | nextInput (event : CriticalEvent)
  | nextMotion (x y : Int32)
  | ping
  deriving DecidableEq

/-- A call; a stamped frame is no action. -/
def ControllerCall.exec {ν : Type} (c : ControllerRuntime) (w : World ν) :
    ControllerCall → ControllerRuntime.Answer ν
  | .begin peerId targetDisplay layoutRevision nowMs => c.begin peerId targetDisplay layoutRevision nowMs w
  | .control frame nowMs => c.handleControl frame nowMs w
  | .advance nowMs keysReleased => c.advance nowMs keysReleased w
  | .goLocal reason => c.goLocal reason w
  | .gameMode enabled => (.ok [], c.setGameMode enabled, w)
  | .nextInput event => ((c.nextInput event).1.map fun _ => [], (c.nextInput event).2, w)
  | .nextMotion x y => ((c.nextMotion x y).1.map fun _ => [], (c.nextMotion x y).2, w)
  | .ping => (c.ping.1.map fun action => [action], c.ping.2, w)

end MyKvm.Controller
