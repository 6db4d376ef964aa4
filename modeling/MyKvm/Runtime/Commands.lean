import MyKvm.Clipboard.Engine
import MyKvm.Hook.Registration
import MyKvm.Layout.Scene
import MyKvm.Lib.Posts
import MyKvm.Receiver.Runtime
import MyKvm.Routing.LocalOverride
import MyKvm.Settings.Layout

/-!
# MyKvm.Runtime.Commands — the commands of the user interface, and the threads they start

The application has one state, which its commands and the tray change one after the other.  They start the QUIC
transport, the discovery thread, the capture thread of a controller and the clipboard thread, and stop them again.
What the system answers is part of a command.
-/

namespace MyKvm.Runtime

open MyKvm.Lib MyKvm.Protocol MyKvm.Settings
open MyKvm.Clipboard (ClipboardSyncEngine)
open MyKvm.Discovery (PairedController TrustedPeerRecord protocolVersion normalizeTransportPort preferredQuicPort)
open MyKvm.Hook (ControlHotkeys)
open MyKvm.Layout (modifyFirst)
open MyKvm.Receiver (PeerRole)
open MyKvm.Routing (LocalOverride)

/-! ### The layout -/

def controllerModeEnabled (machineRole inputMode : String) : Bool :=
  machineRole = "server" && inputMode = "control"

def receiverModeEnabled (machineRole inputMode : String) : Bool := machineRole = "client" && inputMode = "receive"

def mergeLocalRuntimeDeviceFields (incoming current : LayoutState) : LayoutState :=
  match current.devices.find? (·.role = "local") with
  | none => incoming
  | some currentLocal =>
    if isBlank currentLocal.transportPublicKey then incoming else
    { incoming with
      devices := modifyFirst (fun device => device.role = "local" || device.id = currentLocal.id)
        (fun device => { device with transportPublicKey := currentLocal.transportPublicKey,
                                     protocolVersion := currentLocal.protocolVersion }) incoming.devices }

def mergeRemoteUpgradingFields (incoming current : LayoutState) : LayoutState :=
  { incoming with
    devices := incoming.devices.map fun device =>
      if device.role = "local" then device else
      match current.devices.find? (·.id = device.id) with
      | some known => { device with upgrading := known.upgrading, upgradingUntilMs := known.upgradingUntilMs }
      | none => device }

def mergeRuntimeOwnedLayoutFields (incoming current : LayoutState) : LayoutState :=
  let incoming := { incoming with clusterId := current.clusterId, pairSecret := current.pairSecret,
                                  trustedPeers := current.trustedPeers }
  let incoming :=
    if current.machineRole = "client" && incoming.machineRole = "client" && !current.pairedControllers.isEmpty then
      { incoming with pairedControllers := current.pairedControllers }
    else incoming
  mergeRemoteUpgradingFields (mergeLocalRuntimeDeviceFields incoming current) current

def mergeDiskLayoutIntoRuntime (disk current : LayoutState) : LayoutState :=
  let disk :=
    if current.machineRole = "client" && disk.machineRole = "client" && disk.pairedControllers.isEmpty &&
        !current.pairedControllers.isEmpty then
      { disk with clusterId := current.clusterId, pairSecret := current.pairSecret,
                  pairedControllers := current.pairedControllers }
    else disk
  let disk :=
    if disk.trustedPeers.isEmpty &&
      !current.trustedPeers.isEmpty then { disk with trustedPeers := current.trustedPeers }
    else disk
  mergeLocalRuntimeDeviceFields disk current

def runtimeRelevantLayoutChanged (previous next : LayoutState) : Bool :=
  previous.inputMode ≠ next.inputMode || previous.machineRole ≠ next.machineRole ||
    previous.clipboardSync ≠ next.clipboardSync || previous.clipboardImageSync ≠ next.clipboardImageSync ||
    previous.clipboardTextLimitBytes ≠ next.clipboardTextLimitBytes ||
    previous.controlHotkeys ≠ next.controlHotkeys ||
    previous.transportPortMode ≠ next.transportPortMode || previous.transportPort ≠ next.transportPort

def transportPortChanged (previous next : LayoutState) : Bool :=
  previous.transportPortMode ≠ next.transportPortMode || previous.transportPort ≠ next.transportPort

/-- The role of the peers which share the clipboard. -/
def remoteRole (machineRole : String) : Option PeerRole :=
  if machineRole = "server" then some .receiver else if machineRole = "client" then some .controller else none

/-! ### The state -/

structure TransportHandle where
  /-- The number of its thread. -/
  index : ℕ
  port : UInt16
  publicKey : String

/-- What a thread was started for, and what it took along; `transport` is the number of its transport. -/
inductive Work where
  | transport
  | discovery (transport : ℕ)
  | capture (hotkeys : ControlHotkeys) (transport : ℕ)
  | clipboard (remoteRole : PeerRole) (transport : ℕ)

structure AppRuntime where
  layout : LayoutState
  workers : List (Work × Bool)
  started : Bool
  quicTransport : Option TransportHandle
  /-- The numbers of the threads whose signals are kept. -/
  discoveryStop : Option ℕ
  inputStop : Option ℕ
  clipboardStop : Option ℕ
  clipboardSyncEngine : Option ClipboardSyncEngine
  clipboardResendRequested : Bool
  clipboardTarget : Option String
  inputReceiveEnabled : Bool
  clipboardReceiveEnabled : Bool
  controllerLocalOverride : LocalOverride

/-- What the system answers to `start_discovery`: the port of the socket, the port and the key of the transport,
and whether the options of the socket can be set. -/
structure Sockets where
  bound : Except String UInt16
  quic : Except String (UInt16 × String)
  options : Except String Unit

/-- How a capture thread answers: a late one runs on, although it is not waited for. -/
inductive Readiness where
  | ready
  | failed
  | late
  deriving DecidableEq

/-- What the system answers to a start of everything. -/
structure Turn where
  sockets : Sockets
  readiness : Readiness
  bootId : Except String BootId
  clipboardRevision : UInt64

namespace AppRuntime

def new (layout : LayoutState) : AppRuntime where
  layout := layout
  workers := []
  started := false
  quicTransport := none
  discoveryStop := none
  inputStop := none
  clipboardStop := none
  clipboardSyncEngine := none
  clipboardResendRequested := false
  clipboardTarget := none
  inputReceiveEnabled := false
  clipboardReceiveEnabled := false
  controllerLocalOverride := ⟨1⟩

variable (s : AppRuntime)

def transportIndex : Option ℕ := s.quicTransport.map (·.index)

/-! ### Starting -/

def startQuicTransport (quic : Except String (UInt16 × String)) : Except String TransportHandle × AppRuntime :=
  match s.quicTransport with
  | some handle => (.ok handle, s)
  | none =>
    match quic with
    | .error e => (.error e, s)
    | .ok (port, publicKey) =>
      let handle : TransportHandle := ⟨s.workers.length, port, publicKey⟩
      (.ok handle, { s with workers := s.workers ++ [(.transport, false)], quicTransport := some handle })

/-- The layout shows the ports and the key of the transport. -/
def showTransport (layout : LayoutState) (actualPort : UInt16) (handle : TransportHandle) : LayoutState :=
  { layout with
    transportPort := actualPort
    quicPort := handle.port
    devices := layout.devices.map fun device =>
      if device.role = "local" then
        { device with transportPort := actualPort, quicPort := handle.port, transportPublicKey := handle.publicKey,
                      protocolVersion := protocolVersion }
      else device }

def startDiscovery (sockets : Sockets) : Except String Unit × AppRuntime :=
  let s := { s with inputReceiveEnabled := receiverModeEnabled s.layout.machineRole s.layout.inputMode }
  if s.discoveryStop.isSome then (.ok (), s) else
  match sockets.bound with
  | .error e => (.error e, s)
  | .ok actualPort =>
    match s.startQuicTransport sockets.quic with
    | (.error e, s) => (.error e, s)
    | (.ok handle, s) =>
      let s := { s with layout := showTransport s.layout actualPort handle }
      match sockets.options with
      | .error e => (.error e, s)
      | .ok () =>
        (.ok (), { s with workers := s.workers ++ [(.discovery handle.index, false)],
                          discoveryStop := some s.workers.length })

/-- `start_v2_controller_runtime` -/
def startV2ControllerRuntime (handle : TransportHandle) (readiness : Readiness) : AppRuntime :=
  let s := { s with controllerLocalOverride := s.controllerLocalOverride.requestLocal, clipboardTarget := none }
  let work : Work := .capture s.layout.controlHotkeys handle.index
  match readiness with
  | .ready => { s with workers := s.workers ++ [(work, false)], inputStop := some s.workers.length }
  | .failed => s
  | .late => { s with workers := s.workers ++ [(work, false)] }

def startInput (readiness : Readiness) : AppRuntime :=
  let s := { s with inputReceiveEnabled := receiverModeEnabled s.layout.machineRole s.layout.inputMode }
  if controllerModeEnabled s.layout.machineRole s.layout.inputMode then
    if s.inputStop.isSome then s else
    match s.quicTransport with
    | none => s
    | some handle => s.startV2ControllerRuntime handle readiness
  else s

def stopClipboard : AppRuntime :=
  { s with
    clipboardReceiveEnabled := false
    clipboardTarget := none
    workers := tell s.workers s.clipboardStop
    clipboardStop := none
    clipboardSyncEngine := none
    clipboardResendRequested := false }

/-- `localPeerId`: the id which `local_peer_from_layout` finds. -/
def startClipboard (localPeerId : LayoutState → String) (bootId : Except String BootId)
    (clipboardRevision : UInt64) :
    AppRuntime :=
  if !s.layout.clipboardSync then s.stopClipboard else
  if s.clipboardStop.isSome then s else
  match remoteRole s.layout.machineRole, bootId with
  | some role, .ok bootId =>
    match ClipboardSyncEngine.new (localPeerId s.layout) bootId clipboardRevision
        (normalizeClipboardTextLimitBytes s.layout.clipboardTextLimitBytes) with
    | .error _ => s
    | .ok engine =>
      match s.quicTransport with
      | none => { s with clipboardSyncEngine := none }
      | some handle =>
        { s with
          clipboardSyncEngine := some engine
          workers := s.workers ++ [(.clipboard role handle.index, false)]
          clipboardStop := some s.workers.length
          clipboardReceiveEnabled := true }
  | _, _ => s

/-! ### Stopping -/

def stopDiscovery : AppRuntime :=
  { s with
    workers := tell (tell s.workers s.discoveryStop) s.transportIndex
    discoveryStop := none
    quicTransport := none }

def stopInput : AppRuntime :=
  { s with
    controllerLocalOverride := s.controllerLocalOverride.requestLocal
    inputReceiveEnabled := false
    workers := tell s.workers s.inputStop
    inputStop := none
    clipboardTarget := none }

/-! ### The commands -/

section Commands

variable (localPeerId : LayoutState → String)

def refreshLayoutFromDisk (saved : Option LayoutState) (entropy : Entropy) (native : LayoutState) : AppRuntime :=
  match saved.bind fun saved => normalizeSavedLayout entropy saved native with
  | some disk => { s with layout := mergeDiskLayoutIntoRuntime disk s.layout }
  | none => s

/-- `start_input` and `start_clipboard`, for the layout there is. -/
def startStages (turn : Turn) : AppRuntime :=
  (s.startInput turn.readiness).startClipboard localPeerId turn.bootId turn.clipboardRevision

def restartRuntimeIfRunning (turn : Turn) : Except String Unit × AppRuntime :=
  if !s.started then (.ok (), s) else
  match s.stopInput.stopClipboard.startDiscovery turn.sockets with
  | (.error e, s) => (.error e, s)
  | (.ok (), s) => (.ok (), s.startStages localPeerId turn)

/-- What `run` does before there is a window. -/
def boot (turn : Turn) : AppRuntime :=
  { (s.startDiscovery turn.sockets).2.startStages localPeerId turn with started := true }

def startRuntimeInner (saved : Option LayoutState) (entropy : Entropy) (native : LayoutState)
    (turn : Turn) : AppRuntime :=
  (s.refreshLayoutFromDisk saved entropy native).boot localPeerId turn

def stopRuntimeInner (sockets : Sockets) : Except String Unit × AppRuntime :=
  match s.stopInput.stopClipboard.startDiscovery sockets with
  | (.error e, s) => (.error e, s)
  | (.ok (), s) => (.ok (), { s with started := false })

/-- What `save_layout` does to the threads when the layout was `previous` and is `saved` now. -/
def applySavedLayout (previous saved : LayoutState) (turn : Turn) : Except String Unit × AppRuntime :=
  if runtimeRelevantLayoutChanged previous saved then
    let s := if transportPortChanged previous saved then s.stopDiscovery else s
    match s.restartRuntimeIfRunning localPeerId turn with
    | (.error e, s) => (.error e, s)
    | (.ok (), s) => if s.started then (.ok (), s) else s.startDiscovery turn.sockets
  else (.ok (), s)

/-- `save_layout`; `checked` is what the checks of the layout and of its shortcuts say,
`written` what the disk does. -/
def saveLayout (incoming : LayoutState) (checked written : Except String Unit) (turn : Turn) :
    Except String Unit × AppRuntime :=
  match checked, written with
  | .ok (), .ok () =>
    let previous := s.layout
    let saved := mergeRuntimeOwnedLayoutFields incoming previous
    let s := { s with layout := saved }
    let s := if saved.gameMode && !previous.gameMode then
        { s with controllerLocalOverride := s.controllerLocalOverride.requestLocal } else s
    s.applySavedLayout localPeerId previous saved turn
  | .error e, _ => (.error e, s)
  | .ok (), .error e => (.error e, s)

/-- `reset_pairing`; the transport, if any, may refuse the peers. -/
def resetPairing (written replaced : Except String Unit) (turn : Turn) : Except String Unit × AppRuntime :=
  let s := { s with layout := { s.layout with
    pairedControllers := [], trustedPeers := s.layout.trustedPeers.filter (·.role ≠ "controller") } }
  match written with
  | .error e => (.error e, s)
  | .ok () =>
    match s.quicTransport, replaced with
    | some _, .error e => (.error e, s)
    | _, _ => s.restartRuntimeIfRunning localPeerId turn

def resendClipboard : Except String Unit × AppRuntime :=
  if !s.layout.clipboardSync then (.error "clipboard sync is disabled", s)
  else if s.clipboardStop.isNone then (.error "clipboard sync is not running", s)
  else if s.clipboardTarget.isNone then (.error "no authenticated clipboard peer is connected", s)
  else (.ok (), { s with clipboardResendRequested := true })

end Commands

/-- The end of `complete_pairing_from_confirm`, on a client. -/
def completePairing (clusterId pairSecret : String) (controller : PairedController)
    (trustedPeers : List TrustedPeerRecord) : AppRuntime :=
  if s.layout.machineRole ≠ "client" then s else
  { s with layout := { s.layout with
      clusterId, pairSecret, inputMode := "receive", pairedControllers := [controller], trustedPeers } }

end AppRuntime

/-- A command, or what a thread does to the shared state. -/
inductive Command where
  | boot (turn : Turn)
  | startRuntime (saved : Option LayoutState) (entropy : Entropy) (native : LayoutState) (turn : Turn)
  | stopRuntime (sockets : Sockets)
  | toggleRuntime (saved : Option LayoutState) (entropy : Entropy) (native : LayoutState) (turn : Turn)
  | saveLayout (incoming : LayoutState) (checked written : Except String Unit) (turn : Turn)
  | resetPairing (written replaced : Except String Unit) (turn : Turn)
  /-- Scanning, probing and pairing begin so. -/
  | startDiscovery (sockets : Sockets)
  | loadAppState (saved : Option LayoutState) (entropy : Entropy) (native : LayoutState)
  | resendClipboard
  /-- The clipboard thread has seen the request. -/
  | takeResend
  | completePairing (clusterId pairSecret : String) (controller : PairedController)
      (trustedPeers : List TrustedPeerRecord)
  /-- The devices and the trusted peers which discovery and pairing leave behind. -/
  | presence (devices : List Device) (pairedControllers : List PairedController)
      (trustedPeers : List TrustedPeerRecord)
  | clipboardTarget (target : Option String)
  | emergencyLocal

namespace AppRuntime

variable (localPeerId : LayoutState → String)

def next (s : AppRuntime) : Command → AppRuntime
  | .boot turn => s.boot localPeerId turn
  | .startRuntime saved entropy native turn => s.startRuntimeInner localPeerId saved entropy native turn
  | .stopRuntime sockets => (s.stopRuntimeInner sockets).2
  | .toggleRuntime saved entropy native turn =>
    if s.started then (s.stopRuntimeInner turn.sockets).2 else
      s.startRuntimeInner localPeerId saved entropy native turn
  | .saveLayout incoming checked written turn => (s.saveLayout localPeerId incoming checked written turn).2
  | .resetPairing written replaced turn => (s.resetPairing localPeerId written replaced turn).2
  | .startDiscovery sockets => (s.startDiscovery sockets).2
  | .loadAppState saved entropy native => s.refreshLayoutFromDisk saved entropy native
  | .resendClipboard => s.resendClipboard.2
  | .takeResend => { s with clipboardResendRequested := false }
  | .completePairing clusterId pairSecret controller trustedPeers =>
    s.completePairing clusterId pairSecret controller trustedPeers
  | .presence devices pairedControllers trustedPeers =>
    { s with layout := { s.layout with devices, pairedControllers, trustedPeers } }
  | .clipboardTarget target => { s with clipboardTarget := target }
  | .emergencyLocal => { s with controllerLocalOverride := s.controllerLocalOverride.requestLocal }

end AppRuntime

end MyKvm.Runtime
