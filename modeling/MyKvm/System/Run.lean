import MyKvm.Controller.Coherence
import MyKvm.Receiver.Displays

/-!
# MyKvm.System.Run — a controller and a receiver, joined by two channels

The control stream is a queue in each direction.  The controller puts every control frame which it asks for at the
end of its queue; the receiver answers what it takes from there, and an error is answered by a `Reject`.  In any
order: calls of the controller, frames taken by either side, everything else which can happen to the receiver,
`request_local` anywhere, and losses of the connection, which empty both queues and let the controller appear as a
new peer.

`activated` notes every session which the receiver made active, newest first, with its display.
-/

namespace MyKvm.System

open MyKvm.Lib MyKvm.Protocol MyKvm.Routing
open MyKvm.Controller (ControllerRuntime ControllerCall ControllerAction ControllerRuntimeError)
open MyKvm.Receiver
  (ReceiverSessionRuntime ReceiverCall ReceiverDisplayLayout AuthenticatedPeer SessionRuntimeError)

/-- The two parties and what is on its way between them. -/
structure Parties where
  controller : ControllerRuntime
  world : World Unit
  receiver : ReceiverSessionRuntime
  /-- The controller, as the receiver sees it on this connection. -/
  peer : AuthenticatedPeer
  toReceiver : List ControlFrame
  toController : List ControlFrame
  activated : List (SessionId × Option (String × UInt64))
  deriving DecidableEq

inductive PartyMove where
  /-- A call of the controller which takes no frame. -/
  | controller (call : ControllerCall)
  | controllerTakes (nowMs : UInt64)
  | receiverTakes (nowMs : UInt64)
  /-- A frame which does not reach the session, as when receiving is disabled: a `Reject`, or no answer at all. -/
  | receiverRefuses (answer : Option (String × String))
  /-- Anything else which happens to the receiver. -/
  | receiver (call : ReceiverCall)
  | requestLocal
  | reconnect (peer : AuthenticatedPeer)
  deriving DecidableEq

/-- The frames which an answer of the controller sends. -/
def sentFrames : Except ControllerRuntimeError (List ControllerAction) → List ControlFrame
  | .ok actions => actions.filterMap fun action => match action with
    | .sendControl frame => some frame
    | _ => none
  | .error _ => []

/-- What the receiver sends back; `debug` is the text of an error. -/
def responseFrames (debug : SessionRuntimeError → String) :
    Except SessionRuntimeError (Option ControlFrame) → List ControlFrame
  | .ok response => response.toList
  | .error e => [.reject "session_rejected" (debug e)]

/-- The display and the layout revision of a layout. -/
def displayKey (layout : ReceiverDisplayLayout) : String × UInt64 := (layout.displayId, layout.layoutRevision)

/-- Notes the session which the receiver made active. -/
def noteActivation (before after : ReceiverSessionRuntime)
    (activated : List (SessionId × Option (String × UInt64))) :
    List (SessionId × Option (String × UInt64)) :=
  match after.activeSession with
  | none => activated
  | some session =>
    if before.activeSession = some session then
      activated else (session, after.activeDisplay.map displayKey) :: activated

namespace Parties

/-- The controller after a call; its frames are on their way. -/
def afterCall (s : Parties) (call : ControllerCall) : Parties :=
  let (answer, controller, world) := call.exec s.controller s.world
  { s with controller, world, toReceiver := s.toReceiver ++ sentFrames answer }

/-- The receiver after it took the frame; its answer is on its way. -/
def afterFrame (debug : SessionRuntimeError → String) (s : Parties) (frame : ControlFrame)
    (nowMs : UInt64) : Parties :=
  let (answer, receiver) := s.receiver.handleControlAt frame s.peer nowMs
  { s with
    receiver, toController := s.toController ++ responseFrames debug answer,
    activated := noteActivation s.receiver receiver s.activated }

def next (debug : SessionRuntimeError → String) (s : Parties) : PartyMove → Parties
  | .controller (.control _ _) => s
  | .controller call => s.afterCall call
  | .controllerTakes nowMs =>
    match s.toController with
    | [] => s
    | frame :: rest => { s with toController := rest }.afterCall (.control frame nowMs)
  | .receiverTakes nowMs =>
    match s.toReceiver with
    | [] => s
    | frame :: rest => { s with toReceiver := rest }.afterFrame debug frame nowMs
  | .receiverRefuses answer =>
    match s.toReceiver with
    | [] => s
    | _ :: rest => { s with
      toReceiver := rest
      toController := s.toController ++ (answer.map fun (code, detail) => ControlFrame.reject code detail).toList }
  | .receiver (.control _ _ _) => s
  | .receiver call => { s with receiver := s.receiver.next call }
  | .requestLocal => { s with world := s.world.requestLocal }
  | .reconnect peer => { s with peer, toReceiver := [], toController := [] }

def start (controller : ControllerRuntime) (receiver : ReceiverSessionRuntime) (peer : AuthenticatedPeer)
    (g : LocalOverride) (moments : List Moment) (entropy : List (Option (Vector UInt8 16))) : Parties :=
  { controller, world := World.start g moments entropy, receiver, peer, toReceiver := [], toController := [],
    activated := [] }

end Parties

end MyKvm.System
