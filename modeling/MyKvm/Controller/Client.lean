import MyKvm.Controller.Runtime
import MyKvm.Lib.Fallible

/-!
# MyKvm.Controller.Client — the controller and its connection

The client hands the actions of the controller to the transport, takes the frames which arrive, and pings.  The
transport is only known by its answers, so they come from a script; other threads put frames into the inbox at any
time, and may call `request_local` in every call of the transport.

The log notes every call of the transport with its answer, and every frame which was taken with the answer of the
controller.
-/

namespace MyKvm.Controller

open MyKvm.Lib MyKvm.Protocol MyKvm.Routing

def inboundControlFrames : ℕ := 64

def pingIntervalMs : UInt64 := 1000

structure ControllerTarget where
  peerId : String
  addr : String
  protocolVersion : UInt16
  targetDisplay : String
  layoutRevision : UInt64
  deriving DecidableEq

inductive TransportCall where
  | connect (target : ControllerTarget)
  | sendControl (frame : ControlFrame)
  | openInput
  | sendInput (frame : CriticalFrame)
  | sendMotion (frame : MotionFrame)
  | disconnect
  deriving DecidableEq

inductive ClientNote where
  | called (call : TransportCall) (answer : Except String Unit)
  | took (frame : ControlFrame) (answer : Except ControllerRuntimeError (List ControllerAction))
  deriving DecidableEq

inductive ControllerClientError where
  | runtime (error : ControllerRuntimeError)
  | transport (error : String)
  | inboundOverflow
  deriving DecidableEq

inductive TryRecvError where
  | empty
  | disconnected
  deriving DecidableEq

/-- The client; `transport` lists the answers which the transport will give. -/
structure ControllerClient where
  runtime : ControllerRuntime
  transport : List (Except String Unit)
  inbound : List ControlFrame
  overflowed : Bool
  nextPingMs : Option UInt64
  deriving DecidableEq

/-- The client in its world. -/
structure ClientSetting where
  client : ControllerClient
  world : World ClientNote
  deriving DecidableEq

/-- An operation of the client. -/
abbrev ClientM := Fallible ClientSetting ControllerClientError

namespace ControllerClient

open Fallible

/-- `ControllerInbox::offer` -/
def offer (c : ControllerClient) (frame : ControlFrame) : ControllerClient :=
  if c.inbound.length < inboundControlFrames then { c with inbound := c.inbound ++ [frame] }
  else { c with overflowed := true }

/-- `Receiver::try_recv`; the client holds a sender of its own inbox, which is therefore never disconnected. -/
def tryRecv (c : ControllerClient) : Except TryRecvError ControlFrame × ControllerClient :=
  match c.inbound with
  | [] => (.error .empty, c)
  | frame :: rest => (.ok frame, { c with inbound := rest })

/-! ### Steps -/

/-- A call of the controller. -/
def withRuntime (call : ControllerRuntime → World ClientNote → ControllerRuntime.Answer ClientNote) :
    ClientM (Except ControllerRuntimeError (List ControllerAction)) :=
  act fun s =>
    let (answer, runtime, world) := call s.client.runtime s.world
    (answer, { client := { s.client with runtime }, world })

/-- A call of the controller which does not meet the world. -/
def stamped {α : Type} (stamp : ControllerRuntime → Except ControllerRuntimeError α × ControllerRuntime) :
    ClientM (Except ControllerRuntimeError α) :=
  act fun s =>
    let (answer, runtime) := stamp s.client.runtime
    (answer, { s with client := { s.client with runtime } })

/-- A call of the transport. -/
def transportCall (call : TransportCall) : ClientM (Except String Unit) :=
  act fun s =>
    let world := s.world.pass.2
    match s.client.transport with
    | [] => (.ok (), { s with world := world.record (.note (.called call (.ok ()))) })
    | answer :: transport =>
      (answer, { client := { s.client with transport }, world := world.record (.note (.called call answer)) })

/-- `disconnect` answers nothing. -/
def disconnect : ClientM Unit :=
  act fun s => ((), { s with world := s.world.pass.2.record (.note (.called .disconnect (.ok ()))) })

def note (n : ClientNote) : ClientM Unit := act fun s => ((), { s with world := s.world.record (.note n) })

def setNextPing (nextPingMs : Option UInt64) : ClientM Unit :=
  act fun s => ((), { s with client := { s.client with nextPingMs } })

/-! ### Operations -/

/-- Every control frame among the actions is sent, whatever the transport answers. -/
def sendControls : List ControllerAction → ClientM Unit
  | [] => pure ()
  | .sendControl frame :: actions => do
    let _ ← transportCall (.sendControl frame)
    sendControls actions
  | _ :: actions => sendControls actions

def failTransport : ClientM Unit := do
  match ← withRuntime fun c w => c.goLocal .networkFailed w with
  | .ok actions => sendControls actions
  | .error _ => pure ()
  disconnect
  setNextPing none

def perform : ControllerAction → ClientM (Except String Unit)
  | .sendControl frame => transportCall (.sendControl frame)
  | .openInput _ => transportCall .openInput
  | .closeInput => do
    disconnect
    return .ok ()

def apply : List ControllerAction → ClientM Unit
  | [] => pure ()
  | action :: actions => do
    match ← perform action with
    | .error error =>
      failTransport
      throw (.transport error)
    | .ok () => apply actions

def pollPing (nowMs : UInt64) : ClientM Unit := do
  let s ← get
  if !s.client.runtime.isActive then setNextPing none else
  let due := s.client.nextPingMs.getD (saturatingAdd nowMs pingIntervalMs)
  setNextPing (some due)
  if nowMs < due then pure () else
  match ← stamped ControllerRuntime.ping with
  | .error error => throw (.runtime error)
  | .ok action =>
    apply [action]
    setNextPing (some (saturatingAdd nowMs pingIntervalMs))

def clearInbound : ClientM Unit :=
  act fun s => ((), { s with client := { s.client with overflowed := false, inbound := [] } })

def begin (target : ControllerTarget) (nowMs : UInt64) : ClientM Unit := do
  let s ← get
  if !s.client.runtime.canBegin then throw (.runtime (.route .busy)) else
  clearInbound
  setNextPing none
  match ← transportCall (.connect target) with
  | .error error => throw (.transport error)
  | .ok () =>
    match ← withRuntime fun c w => c.begin target.peerId target.targetDisplay target.layoutRevision nowMs w with
    | .error error =>
      disconnect
      throw (.runtime error)
    | .ok actions =>
      apply actions
      pollPing nowMs

/-- One turn of the loop over the inbox; false when it is empty. -/
def takeFrame (nowMs : UInt64) : ClientM Bool := do
  match ← act fun s => (s.client.tryRecv.1, { s with client := s.client.tryRecv.2 }) with
  | .ok frame =>
    let answer ← withRuntime fun c w => c.handleControl frame nowMs w
    note (.took frame answer)
    match answer with
    | .error error =>
      disconnect
      throw (.runtime error)
    | .ok actions =>
      apply actions
      return true
  | .error .empty => return false
  | .error .disconnected =>
    failTransport
    throw (.transport "V2 control inbox disconnected")

/-- The loop once nothing arrives any more: at most as many turns as there are frames. -/
def drainRest (nowMs : UInt64) : ℕ → ClientM Unit
  | 0 => pure ()
  | n + 1 => do
    if ← takeFrame nowMs then drainRest nowMs n else pure ()

/-- The loop over the inbox; `arrivals` is what other threads put there before each of its first turns. -/
def drain (nowMs : UInt64) : List (List ControlFrame) → ClientM Unit
  | [] => do
    let s ← get
    drainRest nowMs s.client.inbound.length
  | arrived :: arrivals => do
    act fun s => ((), { s with client := arrived.foldl offer s.client })
    if ← takeFrame nowMs then drain nowMs arrivals else pure ()

def poll (nowMs : UInt64) (keysReleased : Bool) (arrivals : List (List ControlFrame)) : ClientM Unit := do
  if ← act fun s => (s.client.overflowed, { s with client := { s.client with overflowed := false } }) then
    failTransport
    throw .inboundOverflow
  drain nowMs arrivals
  match ← withRuntime fun c w => c.advance nowMs keysReleased w with
  | .error error =>
    failTransport
    throw (.runtime error)
  | .ok actions =>
    apply actions
    pollPing nowMs

def sendInput (event : CriticalEvent) : ClientM Unit := do
  match ← stamped (fun c => c.nextInput event) with
  | .error error => throw (.runtime error)
  | .ok frame =>
    match ← transportCall (.sendInput frame) with
    | .error error =>
      failTransport
      throw (.transport error)
    | .ok () => pure ()

def sendMotion (x y : Int32) : ClientM UInt64 := do
  match ← stamped (fun c => c.nextMotion x y) with
  | .error error => throw (.runtime error)
  | .ok frame =>
    match ← transportCall (.sendMotion frame) with
    | .error error =>
      failTransport
      throw (.transport error)
    | .ok () => return frame.sequence

def goLocal (reason : ReturnReason) : ClientM Unit := do
  match ← withRuntime fun c w => c.goLocal reason w with
  | .error error => throw (.runtime error)
  | .ok actions =>
    apply actions
    setNextPing none

def newWithOverride (transport : List (Except String Unit)) (localBoot : BootId) (localPeerId : String) :
    Except ControllerClientError ControllerClient :=
  match ControllerRuntime.newWithOverride localBoot localPeerId with
  | .error error => .error (.runtime error)
  | .ok runtime => .ok { runtime, transport, inbound := [], overflowed := false, nextPingMs := none }

end ControllerClient

/-! ### Runs -/

/-- What happens to a client: its operations, and what other threads do between them. -/
inductive ClientCall where
  | begin (target : ControllerTarget) (nowMs : UInt64)
  | poll (nowMs : UInt64) (keysReleased : Bool) (arrivals : List (List ControlFrame))
  | sendInput (event : CriticalEvent)
  | sendMotion (x y : Int32)
  | goLocal (reason : ReturnReason)
  | gameMode (enabled : Bool)
  | offer (frame : ControlFrame)
  | requestLocal
  deriving DecidableEq

namespace ClientSetting

def next (s : ClientSetting) : ClientCall → ClientSetting
  | .begin target nowMs => ((ControllerClient.begin target nowMs).exec s).2
  | .poll nowMs keysReleased arrivals => ((ControllerClient.poll nowMs keysReleased arrivals).exec s).2
  | .sendInput event => ((ControllerClient.sendInput event).exec s).2
  | .sendMotion x y => ((ControllerClient.sendMotion x y).exec s).2
  | .goLocal reason => ((ControllerClient.goLocal reason).exec s).2
  | .gameMode enabled => { s with client := { s.client with runtime := s.client.runtime.setGameMode enabled } }
  | .offer frame => { s with client := s.client.offer frame }
  | .requestLocal => { s with world := s.world.requestLocal }

def start (client : ControllerClient) (g : LocalOverride) (moments : List Moment)
    (entropy : List (Option (Vector UInt8 16))) : ClientSetting :=
  { client, world := World.start g moments entropy }

end ClientSetting

end MyKvm.Controller
