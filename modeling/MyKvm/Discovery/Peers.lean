import MyKvm.Layout.Screens
import MyKvm.Lib.Word
import MyKvm.Transport.Registry

/-!
# MyKvm.Discovery.Peers — the peers on the network and what the layout shows of them

Every machine advertises itself in a `LanPeer`.  Whoever has been heard of lately is in the list of peers, and the
devices of the layout and the paired controllers take their addresses, keys and screens from there.  None of this
is trust: the `trustedPeers` of the layout are written by the pairing only.
-/

namespace MyKvm.Discovery

open MyKvm.Lib MyKvm.Layout MyKvm.Transport

def discoveryProtocol : String := "mykvm-local.discovery.v1"

def peerTtlMs : UInt64 := 90000

def maxDiscoveryPeers : ℕ := 128

def protocolVersion : UInt16 := 1

def transportPortMin : UInt16 := 1024

def transportPortMax : UInt16 := 65535

structure LanPeer where
  id : String
  name : String
  platform : String
  machineRole : String
  clusterId : String
  pairingRequired : Bool
  host : String
  ip : String
  transportPort : UInt16
  quicPort : UInt16
  transportPublicKey : String
  protocolVersion : UInt16
  screenCount : ℕ
  inputReady : Bool
  upgrading : Bool
  screens : List LanPeerScreen
  appVersion : String
  lastSeenMs : UInt64
  deriving DecidableEq

/-- A device of the layout, with what discovery keeps up to date in it. -/
structure Device extends Layout.Device where
  name : String
  platform : String
  host : String
  transportPort : UInt16
  quicPort : UInt16
  transportPublicKey : String
  protocolVersion : UInt16
  online : Bool
  inputReady : Bool
  upgrading : Bool
  upgradingUntilMs : UInt64
  source : String
  deriving DecidableEq

structure PairedController where
  id : String
  name : String
  host : String
  ip : String
  transportPublicKey : String
  protocolVersion : UInt16
  clusterId : String
  pairedAtMs : UInt64
  deriving DecidableEq

structure TrustedPeerRecord where
  id : String
  transportPublicKey : String
  role : String
  trustRevision : UInt64
  pairedAtMs : UInt64
  deriving DecidableEq

structure LayoutState where
  devices : List Device
  inputMode : String
  machineRole : String
  clusterId : String
  pairSecret : String
  pairedControllers : List PairedController
  trustedPeers : List TrustedPeerRecord
  transportPort : UInt16
  quicPort : UInt16
  deriving DecidableEq

/-- What the machine says about itself when it is asked. -/
structure LocalMachine where
  deviceName : String
  hostname : Option String
  ipAddress : Option String
  platform : String
  appVersion : String
  deriving DecidableEq

/-- The transport as discovery advertises it. -/
structure TransportHandle where
  port : UInt16
  publicKey : String
  deriving DecidableEq

/-! ### Ports, names and hosts -/

def normalizeTransportPort (port : UInt16) : UInt16 := max transportPortMin (min port transportPortMax)

def preferredQuicPort (discoveryPort : UInt16) : UInt16 :=
  normalizeTransportPort (if discoveryPort = 65535 then 65535 else discoveryPort + 1)

def normalizeQuicPort (discoveryPort quicPort : UInt16) : UInt16 :=
  if quicPort = 0 then preferredQuicPort discoveryPort else normalizeTransportPort quicPort

def normalizePeerPlatform (platform : String) : String :=
  if lowered platform = "windows" then "windows" else if lowered platform = "macos" then "macos" else "unknown"

def localPeerId (host ip : String) : String :=
  let cleaned := (host ++ "-" ++ ip).toList.map fun c => if c.isAlphanum then c.toLower else '-'
  let normalized := String.ofList (trimMatches (· == '-') cleaned)
  if normalized = "" then "peer-local" else "peer-" ++ normalized

def peerDeviceId (peer : LanPeer) : String :=
  let id := sanitizeId (if isBlank peer.id then if isBlank peer.name then peer.ip else peer.name else peer.id)
  if id = "" then "peer-device" else id

/-- One of the parts of `value` between slashes is the host. -/
def sameHost (value host : String) : Bool :=
  let host := lowered (trimmed host)
  host ≠ "" && (value.toList.splitOn '/').any fun part => lowered (trimmed (String.ofList part)) = host

def textMatches (left right : String) : Bool :=
  trimmed left ≠ "" && trimmed right ≠ "" && lowered (trimmed left) = lowered (trimmed right)

/-! ### This machine -/

def pairingRequired (layout : LayoutState) : Bool :=
  layout.machineRole = "client" && layout.pairedControllers.isEmpty

def advertisedClusterId (layout : LayoutState) : String := if pairingRequired layout then "" else layout.clusterId

def advertisedInputReady (layout : LayoutState) (inputReady : Bool) : Bool :=
  inputReady && !pairingRequired layout && !isBlank layout.clusterId

def localPeerFromLayout (machine : LocalMachine) (layout : LayoutState) (now : UInt64) : LanPeer :=
  let localDevice := (layout.devices.find? (·.role = "local")).or layout.devices.head?
  let host := machine.hostname.getD "localhost"
  let ip := machine.ipAddress.getD "127.0.0.1"
  { id := localPeerId host ip
    name := ((localDevice.map (·.name)).filter fun name => !isBlank name).getD machine.deviceName
    platform := machine.platform
    machineRole := layout.machineRole
    clusterId := advertisedClusterId layout
    pairingRequired := pairingRequired layout
    host, ip
    transportPort := layout.transportPort
    quicPort := normalizeQuicPort layout.transportPort layout.quicPort
    transportPublicKey := (localDevice.map (·.transportPublicKey)).getD ""
    protocolVersion := (localDevice.map (·.protocolVersion)).getD protocolVersion
    screenCount := (localDevice.map (·.screens.length)).getD 0
    inputReady := false
    upgrading := false
    screens := (localDevice.map fun device => device.screens.map screenToPeerScreen).getD []
    appVersion := machine.appVersion
    lastSeenMs := now }

def applyTransportToPeer (peer : LanPeer) (transport : TransportHandle) : LanPeer :=
  { peer with quicPort := transport.port, transportPublicKey := transport.publicKey, protocolVersion }

/-! ### Who is visible, and who is known -/

def peerVisibleToLayout (layout : LayoutState) (peer : LanPeer) : Bool :=
  if peer.pairingRequired then layout.machineRole = "server" else
  !isBlank layout.clusterId && peer.clusterId = trimmed layout.clusterId

def peerVisibleToLocalPeer (localPeer peer : LanPeer) : Bool :=
  if peer.pairingRequired then localPeer.machineRole = "server" else
  !isBlank localPeer.clusterId && peer.clusterId = trimmed localPeer.clusterId

def pairedControllerIdentityMatchesPeer (controller : PairedController) (peer : LanPeer) : Bool :=
  (!isBlank peer.id && controller.id = peer.id) || controller.id = peerDeviceId peer ||
    (!isBlank peer.transportPublicKey && controller.transportPublicKey = peer.transportPublicKey)

def pairedControllerCanRepairWithPeer (controller : PairedController) (peer : LanPeer) : Bool :=
  pairedControllerIdentityMatchesPeer controller peer || textMatches controller.name peer.name ||
    sameHost controller.host peer.host || sameHost peer.host controller.host || textMatches controller.ip peer.ip

def isPairedController (layout : LayoutState) (peer : LanPeer) : Bool :=
  layout.pairedControllers.any (pairedControllerIdentityMatchesPeer · peer)

def shouldReplyToDiscovery (layout : LayoutState) (peer : LanPeer) : Bool :=
  if peerVisibleToLayout layout peer then true
  else if layout.machineRole = "client" && pairingRequired layout then peer.machineRole = "server"
  else layout.machineRole = "client" && isPairedController layout peer

def sameClusterHost (device : Device) (peer : LanPeer) (layoutClusterId : String) : Bool :=
  !isBlank layoutClusterId && !peer.pairingRequired && peer.clusterId = trimmed layoutClusterId &&
    (sameHost device.host peer.host || sameHost device.host peer.ip)

def deviceMatchesPeer (device : Device) (peer : LanPeer) (layoutClusterId : String) : Bool :=
  device.id = peerDeviceId peer ||
    (!isBlank device.transportPublicKey && device.transportPublicKey = peer.transportPublicKey) ||
    sameClusterHost device peer layoutClusterId

/-! ### The list of peers -/

def pruneStalePeerEntries (peers : List LanPeer) (now : UInt64) : List LanPeer :=
  peers.filter fun peer => saturatingSub now peer.lastSeenMs ≤ peerTtlMs

/-- `swap_remove`: the last entry takes the place. -/
def swapRemove {α : Type*} (entries : List α) (index : ℕ) : List α :=
  match entries.getLast? with
  | some last => (entries.set index last).dropLast
  | none => []

/-- The first entry among those seen longest ago. -/
def oldestIndex (peers : List LanPeer) : ℕ :=
  peers.findIdx fun peer => peers.all fun other => peer.lastSeenMs ≤ other.lastSeenMs

def mergePeerEntry (peers : List LanPeer) (nextPeer : LanPeer) (now : UInt64) : List LanPeer :=
  let peers := pruneStalePeerEntries peers now
  match peers.findIdx? (·.id = nextPeer.id) with
  | some index => peers.set index nextPeer
  | none =>
    (if maxDiscoveryPeers ≤ peers.length then swapRemove peers (oldestIndex peers) else peers) ++ [nextPeer]

/-! ### Presence -/

def updateDeviceFromPeer (device : Device) (peer : LanPeer) (now : UInt64) : Device :=
  { device with
    online := true
    inputReady := peer.inputReady
    host := if isBlank peer.ip then peer.host else peer.ip
    transportPort := peer.transportPort
    quicPort := normalizeQuicPort peer.transportPort peer.quicPort
    transportPublicKey := peer.transportPublicKey
    protocolVersion := peer.protocolVersion
    platform := if isBlank peer.platform then device.platform else normalizePeerPlatform peer.platform
    name := if !isBlank peer.name && device.source = "detected" then peer.name else device.name
    screens := screensFromPeer peer.screens device.id device.screens
    upgradingUntilMs := if peer.upgrading && !device.upgrading then now + 120000 else device.upgradingUntilMs
    upgrading := peer.upgrading }

/-- The device, as it is shown beside these peers. -/
def presentDevice (layout : LayoutState) (peers : List LanPeer) (now : UInt64) (device : Device) : Device :=
  if device.role = "local" then
    { device with online := true, inputReady := false, transportPort := layout.transportPort,
                  quicPort := layout.quicPort, protocolVersion }
  else match peers.find? (deviceMatchesPeer device · layout.clusterId) with
    | some peer => updateDeviceFromPeer device peer now
    | none =>
      { device with online := false, inputReady := false,
                    upgrading := device.upgrading && !decide (device.upgradingUntilMs < now) }

/-- A paired controller follows the peer it was paired with, also when that one has a new key. -/
def refreshPairedController (peers : List LanPeer) (controller : PairedController) : PairedController :=
  match peers.find? (pairedControllerCanRepairWithPeer controller ·) with
  | none => controller
  | some peer =>
    { controller with
      transportPublicKey :=
        if isBlank peer.transportPublicKey then controller.transportPublicKey else trimmed peer.transportPublicKey
      id := peerDeviceId peer
      host := if isBlank peer.host then controller.host else peer.host
      ip := if isBlank peer.ip then controller.ip else peer.ip
      name := if isBlank peer.name then controller.name else peer.name
      protocolVersion := peer.protocolVersion }

def refreshPairedControllerKeys (layout : LayoutState) (peers : List LanPeer) : LayoutState :=
  { layout with pairedControllers := layout.pairedControllers.map (refreshPairedController peers) }

def applyPeerPresence (layout : LayoutState) (peers : List LanPeer) (now : UInt64) : LayoutState :=
  refreshPairedControllerKeys { layout with devices := layout.devices.map (presentDevice layout peers now) } peers

end MyKvm.Discovery
