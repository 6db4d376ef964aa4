import MyKvm.Lib.Bytes
import MyKvm.Lib.MessagePack
import MyKvm.Lib.Text
import MyKvm.Receiver.Mapping

/-!
# MyKvm.Layout.Screens — devices, their screens, and the names of these on the wire

The layout lists the devices and their screens, this machine's among them.  A machine advertises its screens; the
controller imports them under ids of its own, which carry the id of the device in front, and takes that off again
when it names a screen to the receiver.  A screen's revision is a hash of what the receiver needs to agree on.
-/

namespace MyKvm.Layout

open MyKvm.Lib MyKvm.Lib.MessagePack MyKvm.Receiver

/-- A screen in the layout; the scale is given by the bits of the `f64`. -/
structure Screen where
  id : String
  deviceId : String
  name : String
  x : Int32
  y : Int32
  width : Int32
  height : Int32
  scale : UInt64
  isPrimary : Bool
  deriving DecidableEq

/-- A screen in an advertisement. -/
structure LanPeerScreen where
  id : String
  name : String
  x : Int32
  y : Int32
  width : Int32
  height : Int32
  scale : UInt64
  isPrimary : Bool
  deriving DecidableEq

structure Device where
  id : String
  role : String
  screens : List Screen
  deriving DecidableEq

structure LayoutState where
  devices : List Device
  activeDeviceId : String
  deriving DecidableEq

/-! ### Revisions -/

/-- FNV-1a over the id, the size and the scale; never zero. -/
def displayLayoutRevision (displayId : String) (width height : Int32) (scaleBits : UInt64) : UInt64 :=
  let bytes := utf8 displayId ++ littleEndian 4 width.toUInt32.toNat ++ littleEndian 4 height.toUInt32.toNat ++
    littleEndian 8 scaleBits.toNat
  max (bytes.foldl (fun hash byte => (hash ^^^ byte.toUInt64) * 0x100000001B3) 0xCBF29CE484222325) 1

def screenLayoutRevision (screen : Screen) : UInt64 :=
  displayLayoutRevision screen.id screen.width screen.height screen.scale

/-! ### The receiver -/

/-- The device which `local_peer_from_layout` advertises. -/
def localDevice (layout : LayoutState) : Option Device :=
  (layout.devices.find? (·.role = "local")).or layout.devices.head?

def screenToPeerScreen (screen : Screen) : LanPeerScreen where
  id := screen.id
  name := screen.name
  x := screen.x
  y := screen.y
  width := screen.width
  height := screen.height
  scale := screen.scale
  isPrimary := screen.isPrimary

/-- The screens of `local_peer_from_layout`. -/
def localPeerScreens (layout : LayoutState) : List LanPeerScreen :=
  match localDevice layout with
  | some device => device.screens.map screenToPeerScreen
  | none => []

/-- The displays which the receiver accepts: its own screens, as far as the platform has them. -/
def v2ReceiverDisplayLayouts (layout nativeLayout : LayoutState) : List ReceiverDisplayLayout :=
  match layout.devices.find? (fun device => device.role = "local" || device.id = layout.activeDeviceId) with
  | none => []
  | some device => device.screens.filterMap fun screen =>
    ((nativeLayout.devices.flatMap (·.screens)).find? (·.id = screen.id)).map fun native =>
      { displayId := screen.id, layoutRevision := screenLayoutRevision screen, logicalWidth := screen.width,
        logicalHeight := screen.height, nativeX := native.x, nativeY := native.y, nativeWidth := native.width,
        nativeHeight := native.height }

/-! ### The controller -/

/-- Lower-case letters and digits; whatever else is inside becomes a hyphen. -/
def sanitizeId (value : String) : String :=
  let cleaned := (trim value.toList).map fun c => if c.isAlphanum then c.toLower else '-'
  String.ofList (trimMatches (· == '-') cleaned)

def uniquePeerScreenId (deviceId : String) (screen : LanPeerScreen) (index : ℕ) : String :=
  let numbered := deviceId ++ "-display-" ++ Nat.repr (index + 1)
  if isBlank screen.id && isBlank screen.name then numbered else
  let suffix := sanitizeId (if isBlank screen.id then screen.name else screen.id)
  if suffix = "" then numbered else deviceId ++ "-" ++ suffix

/-- The import of an advertisement: places the user has given to known screens stay, the others are taken over
relative to the top left corner. -/
def screensFromPeer (peerScreens : List LanPeerScreen) (deviceId : String) (existingScreens : List Screen) :
    List Screen :=
  if peerScreens = [] then existingScreens else
  let peerMinX := (peerScreens.map (·.x)).min?.getD 0
  let peerMinY := (peerScreens.map (·.y)).min?.getD 0
  peerScreens.mapIdx fun index peerScreen =>
    let id := uniquePeerScreenId deviceId peerScreen index
    let existing := existingScreens.find? (·.id = id)
    { id, deviceId
      name := if isBlank peerScreen.name then "Display " ++ Nat.repr (index + 1) else peerScreen.name
      x := (existing.map (·.x)).getD (peerScreen.x - peerMinX)
      y := (existing.map (·.y)).getD (peerScreen.y - peerMinY)
      width := peerScreen.width
      height := peerScreen.height
      scale := peerScreen.scale
      isPrimary := peerScreen.isPrimary }

/-- `strip_prefix(..).unwrap_or(..)` -/
def withoutFront (front value : String) : String :=
  if front.toList.isPrefixOf value.toList then String.ofList (value.toList.drop front.toList.length) else value

/-- The id under which the receiver knows the screen. -/
def peerScreenId (device : Device) (screen : Screen) : String := withoutFront (device.id ++ "-") screen.id

/-- The screen, under the receiver's id. -/
def wireScreen (device : Device) (screen : Screen) : Screen := { screen with id := peerScreenId device screen }

def remoteDeviceScreens (layout : LayoutState) (deviceId : String) : List Screen :=
  match layout.devices.find? (·.id = deviceId) with
  | some device => device.screens.map (wireScreen device)
  | none => []

theorem withoutFront_append (front value : String) : withoutFront front (front ++ value) = value := by
  unfold withoutFront
  rw [String.toList_append, if_pos (by simp), List.drop_left, String.ofList_toList]

theorem peerScreenId_prefixed {device : Device} {screen : Screen} {name : String}
    (h : screen.id = device.id ++ "-" ++ name) : peerScreenId device screen = name := by
  rw [peerScreenId, h, withoutFront_append]

end MyKvm.Layout
