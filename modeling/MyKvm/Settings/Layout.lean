import MyKvm.Discovery.Peers
import MyKvm.Hook.Shortcuts
import MyKvm.Layout.Identity

/-!
# MyKvm.Settings.Layout — the saved layout, and the one which is detected

The layout on disk holds all settings.  When it is loaded, the device of this machine is replaced by the one which
was detected, with the screens where the user had put them, and every setting is brought into a range which the
program knows.
-/

namespace MyKvm.Settings

open MyKvm.Lib MyKvm.Hook
open MyKvm.Layout (Screen localDisplayId)
open MyKvm.Discovery (PairedController TrustedPeerRecord protocolVersion normalizeTransportPort preferredQuicPort
  normalizeQuicPort)

structure Device where
  id : String
  name : String
  platform : String
  host : String
  transportPort : UInt16
  quicPort : UInt16
  transportPublicKey : String
  protocolVersion : UInt16
  color : String
  online : Bool
  inputReady : Bool
  upgrading : Bool
  upgradingUntilMs : UInt64
  role : String
  source : String
  screens : List Screen
  deriving DecidableEq

structure ModifierMap where
  control : String
  alt : String
  «meta» : String
  deriving DecidableEq

@[ext] structure LayoutState where
  devices : List Device
  activeDeviceId : String
  selectedScreenId : String
  inputMode : String
  machineRole : String
  clusterId : String
  pairSecret : String
  pairedControllers : List PairedController
  trustedPeers : List TrustedPeerRecord
  clipboardSync : Bool
  clipboardImageSync : Bool
  clipboardTextLimitBytes : ℕ
  fileTransferEnabled : Bool
  language : String
  themeMode : String
  performanceMonitor : Bool
  transportPortMode : String
  transportPort : UInt16
  quicPort : UInt16
  modifierRemap : Bool
  modifierMap : ModifierMap
  edgeSwitchHotkey : String
  screenSwitchHotkeys : ScreenSwitchHotkeys
  controlHotkeys : ControlHotkeys
  gameMode : Bool

/-! ### Defaults -/

/-- `{byte:02x}` -/
def hexByte (byte : UInt8) : List Char := [Nat.digitChar (byte.toNat / 16), Nat.digitChar (byte.toNat % 16)]

/-- `random_hex`, given the bytes which the system has drawn. -/
def randomHex (bytes : List UInt8) : String := String.ofList (bytes.flatMap hexByte)

/-- The bytes for a new cluster and its secret. -/
structure Entropy where
  cluster : List UInt8
  secret : List UInt8
  cluster_length : cluster.length = 16
  secret_length : secret.length = 32

def defaultClusterId (entropy : Entropy) : String := "cluster-" ++ randomHex entropy.cluster

def defaultPairSecret (entropy : Entropy) : String := randomHex entropy.secret

def clipboardTextLimitMinBytes : ℕ := 64 * 1024

def clipboardTextLimitDefaultBytes : ℕ := 1024 * 1024

def clipboardTextLimitMaxBytes : ℕ := 1536 * 1024

def defaultModifierMap : ModifierMap := { control := "same", alt := "same", «meta» := "same" }

/-- `ScreenSwitchHotkeys::default` -/
def defaultScreenSwitchHotkeys : ScreenSwitchHotkeys :=
  { left := "alt+left", right := "alt+right", up := "alt+up", down := "alt+down" }

/-! ### Detection -/

/-- A monitor in logical units: what is rounded from its size, position and scale. -/
structure Monitor where
  name : Option String
  x : Int32
  y : Int32
  width : Int32
  height : Int32
  scale : UInt64
  isPrimary : Bool

/-- What the system says about this machine. -/
structure Detection where
  hostname : Option String
  ipAddress : Option String
  platform : String
  transportPort : UInt16
  monitors : List Monitor
  entropy : Entropy

def localDeviceName (detection : Detection) : String :=
  (detection.hostname.filter fun name => !isBlank name).getD "This device"

def localHostLabel (detection : Detection) : String :=
  match detection.hostname, detection.ipAddress with
  | some name, some ip => name ++ " / " ++ ip
  | some name, none => name
  | none, some ip => ip
  | none, none => "localhost"

/-- The bits of `1.0`. -/
def scaleOne : UInt64 := 0x3FF0000000000000

def detectLocalScreens (monitors : List Monitor) (deviceId : String) : List Screen :=
  if monitors.isEmpty then
    [{ id := localDisplayId 0, deviceId, name := "Display unavailable", x := 0, y := 0, width := 1, height := 1,
       scale := scaleOne, isPrimary := true }]
  else
    monitors.mapIdx fun index monitor =>
      { id := localDisplayId index, deviceId
        name := (monitor.name.filter fun name => !isBlank name).getD ("Display " ++ Nat.repr (index + 1))
        x := monitor.x, y := monitor.y, width := monitor.width, height := monitor.height
        scale := monitor.scale, isPrimary := monitor.isPrimary }

def detectedDevice (detection : Detection) : Device where
  id := "local-device"
  name := localDeviceName detection
  platform := detection.platform
  host := localHostLabel detection
  transportPort := detection.transportPort
  quicPort := preferredQuicPort detection.transportPort
  transportPublicKey := ""
  protocolVersion := protocolVersion
  color := "#2f7af8"
  online := true
  inputReady := false
  upgrading := false
  upgradingUntilMs := 0
  role := "local"
  source := "detected"
  screens := detectLocalScreens detection.monitors "local-device"

def detectLocalLayout (detection : Detection) : LayoutState :=
  let device := detectedDevice detection
  { devices := [device]
    activeDeviceId := device.id
    selectedScreenId :=
      (((device.screens.find? (·.isPrimary)).or device.screens.head?).map (·.id)).getD "local-display-1"
    inputMode := "control"
    machineRole := "unset"
    clusterId := defaultClusterId detection.entropy
    pairSecret := defaultPairSecret detection.entropy
    pairedControllers := []
    trustedPeers := []
    clipboardSync := false
    clipboardImageSync := false
    clipboardTextLimitBytes := clipboardTextLimitDefaultBytes
    fileTransferEnabled := true
    language := "cn"
    themeMode := "system"
    performanceMonitor := false
    transportPortMode := "auto"
    transportPort := detection.transportPort
    quicPort := preferredQuicPort detection.transportPort
    modifierRemap := false
    modifierMap := defaultModifierMap
    edgeSwitchHotkey := defaultEdgeSwitchHotkey
    screenSwitchHotkeys := defaultScreenSwitchHotkeys
    controlHotkeys := ControlHotkeys.default
    gameMode := false }

/-! ### Normalisation -/

def isOldDemoDevice (device : Device) : Bool :=
  device.id = "studio-win" || device.id = "macbook-pro" ||
    device.host = "192.168.31.24" || device.host = "192.168.31.63"

def isOldDemoLayout (layout : LayoutState) : Bool := layout.devices.any isOldDemoDevice

/-- The screen stands where it stood in the saved layout. -/
def placeScreen (savedScreens : List Screen) (screen : Screen) : Screen :=
  match savedScreens.find? (·.id = screen.id) with
  | some savedScreen => { screen with x := savedScreen.x, y := savedScreen.y }
  | none => screen

def mergeDetectedLocalDevice (savedLayout : LayoutState) (detectedDevice : Device) : Device :=
  match savedLayout.devices.find? (·.id = detectedDevice.id) with
  | some savedDevice =>
      { detectedDevice with screens := detectedDevice.screens.map (placeScreen savedDevice.screens) }
  | none => detectedDevice

/-- A value which is none of the choices becomes the fallback. -/
def oneOf (choices : List String) (fallback value : String) : String := if value ∈ choices then value else fallback

def normalizeInputMode : String → String := oneOf ["receive"] "control"

def normalizeMachineRole : String → String := oneOf ["server", "client"] "unset"

/-- A blank value becomes the fallback, any other one is trimmed. -/
def trimmedOr (fallback value : String) : String := if trimmed value = "" then fallback else trimmed value

def normalizeClusterId (entropy : Entropy) : String → String := trimmedOr (defaultClusterId entropy)

def normalizePairSecret (entropy : Entropy) : String → String := trimmedOr (defaultPairSecret entropy)

def normalizePairedControllers (controllers : List PairedController) : List PairedController :=
  controllers.filter fun controller =>
    !isBlank controller.id && !isBlank controller.transportPublicKey && !isBlank controller.clusterId

/-- The record may be kept behind these. -/
def keepsTrustedPeer (normalized : List TrustedPeerRecord) (peer : TrustedPeerRecord) : Bool :=
  !(isBlank peer.id || isBlank peer.transportPublicKey || peer.trustRevision = 0 ||
    !(peer.role = "controller" || peer.role = "receiver") ||
    normalized.any fun existing => existing.id = peer.id || existing.transportPublicKey = peer.transportPublicKey)

def normalizeTrustedPeers (peers : List TrustedPeerRecord) : List TrustedPeerRecord :=
  peers.foldl (fun normalized peer =>
    if keepsTrustedPeer normalized peer then normalized ++ [peer] else normalized) []

def normalizeClipboardTextLimitBytes (value : ℕ) : ℕ :=
  max clipboardTextLimitMinBytes (min value clipboardTextLimitMaxBytes)

def normalizeLanguage : String → String := oneOf ["en"] "cn"

def normalizeThemeMode : String → String := oneOf ["dark", "light", "system"] "system"

def normalizeTransportPortMode : String → String := oneOf ["fixed"] "auto"

/-- All three keys have the same fallback. -/
def normalizeModifierTarget : String → String := oneOf ["control", "alt", "meta", "same"] "same"

def normalizeModifierMap (map : ModifierMap) : ModifierMap where
  control := normalizeModifierTarget map.control
  alt := normalizeModifierTarget map.alt
  «meta» := normalizeModifierTarget map.meta

/-- `normalize_edge_switch_hotkey`, as a text again. -/
def normalizedEdgeSwitchHotkey (value : String) : String := String.ofList (normalizeEdgeSwitchHotkey value)

def hasScreen (devices : List Device) (screenId : String) : Bool :=
  devices.any fun device => device.screens.any fun screen => screen.id = screenId

/-- What becomes of a layout which is kept, with this device for the local one. -/
def mergedLayout (entropy : Entropy) (savedLayout detectedLayout : LayoutState) (detectedDevice : Device) :
    LayoutState :=
  let localDevice := mergeDetectedLocalDevice savedLayout detectedDevice
  let devices := localDevice ::
    savedLayout.devices.filter fun device => device.id ≠ localDevice.id && !isOldDemoDevice device
  let transportPort := normalizeTransportPort savedLayout.transportPort
  { devices
    activeDeviceId :=
      if devices.any (·.id = savedLayout.activeDeviceId) then savedLayout.activeDeviceId else localDevice.id
    selectedScreenId :=
      if hasScreen devices savedLayout.selectedScreenId then savedLayout.selectedScreenId
      else detectedLayout.selectedScreenId
    inputMode := normalizeInputMode savedLayout.inputMode
    machineRole := normalizeMachineRole savedLayout.machineRole
    clusterId := normalizeClusterId entropy savedLayout.clusterId
    pairSecret := normalizePairSecret entropy savedLayout.pairSecret
    pairedControllers := normalizePairedControllers savedLayout.pairedControllers
    trustedPeers := normalizeTrustedPeers savedLayout.trustedPeers
    clipboardSync := savedLayout.clipboardSync
    clipboardImageSync := savedLayout.clipboardImageSync
    clipboardTextLimitBytes := normalizeClipboardTextLimitBytes savedLayout.clipboardTextLimitBytes
    fileTransferEnabled := savedLayout.fileTransferEnabled
    language := normalizeLanguage savedLayout.language
    themeMode := normalizeThemeMode savedLayout.themeMode
    performanceMonitor := savedLayout.performanceMonitor
    transportPortMode := normalizeTransportPortMode savedLayout.transportPortMode
    transportPort
    quicPort := normalizeQuicPort transportPort savedLayout.quicPort
    modifierRemap := savedLayout.modifierRemap
    modifierMap := normalizeModifierMap savedLayout.modifierMap
    edgeSwitchHotkey := normalizedEdgeSwitchHotkey savedLayout.edgeSwitchHotkey
    screenSwitchHotkeys := savedLayout.screenSwitchHotkeys
    controlHotkeys := savedLayout.controlHotkeys
    gameMode := savedLayout.gameMode }

/-- `none`: there is no `detected_layout.devices[0]`. -/
def normalizeSavedLayout (entropy : Entropy) (savedLayout detectedLayout : LayoutState) : Option LayoutState :=
  if isOldDemoLayout savedLayout ∨ savedLayout.devices = [] then some detectedLayout
  else detectedLayout.devices.head?.map (mergedLayout entropy savedLayout detectedLayout)

end MyKvm.Settings
