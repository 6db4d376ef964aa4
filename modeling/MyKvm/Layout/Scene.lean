import MyKvm.Layout.Importing
import MyKvm.Pairing.Confirm

/-!
# MyKvm.Layout.Scene — what geometry sees of the layout

Two things put screens into the layout: a save of the user interface, which is validated, and the presence of a
peer, which is not.  A `Scene` is what geometry sees of the layout, in ℤ.

* `Sound`: the scenes on which geometry computes.
* `scene_saved`, `scene_present`: what a save and what presence make of the scene.
-/

namespace MyKvm.Layout

open MyKvm.Lib MyKvm.Discovery MyKvm.Pairing MyKvm.Pointer

/-! ### Saving -/

/-- The checks of a screen: its place is not among them.  The scale lies between those of 0.1 and of 16. -/
def screenValid (screen : Screen) : Bool :=
  screen.id.utf8ByteSize ≤ 512 && screen.name.utf8ByteSize ≤ 512 && 0 < screen.width && 0 < screen.height &&
    screen.width ≤ 100000 && screen.height ≤ 100000 && 0x3FB999999999999A ≤ screen.scale &&
    screen.scale ≤ 0x4030000000000000

def deviceValid (device : Discovery.Device) : Bool :=
  device.id.utf8ByteSize ≤ 512 && device.name.utf8ByteSize ≤ 512 && device.host.utf8ByteSize ≤ maxIpcHostBytes &&
    device.screens.length ≤ 32 && device.screens.all screenValid

/-- `validate_layout_ipc`, as far as the fields of the model go. -/
def validateLayoutIpc (layout : Discovery.LayoutState) : Bool :=
  ["unset", "server", "client"].contains layout.machineRole && ["control", "receive"].contains layout.inputMode &&
    layout.devices.length ≤ maxDiscoveryPeers && layout.pairedControllers.length ≤ maxDiscoveryPeers &&
    layout.trustedPeers.length ≤ maxDiscoveryPeers && layout.devices.all deviceValid

/-- The first device which passes is changed. -/
def modifyFirst {α : Type} (test : α → Bool) (change : α → α) (entries : List α) : List α :=
  match entries.findIdx? test with
  | some index => entries.modify index change
  | none => entries

def mergeLocalRuntimeDeviceFields (incoming current : Discovery.LayoutState) : Discovery.LayoutState :=
  match current.devices.find? (·.role = "local") with
  | none => incoming
  | some currentLocal =>
    if isBlank currentLocal.transportPublicKey then incoming else
    { incoming with
      devices := modifyFirst (fun device => device.role = "local" || device.id = currentLocal.id)
        (fun device => { device with transportPublicKey := currentLocal.transportPublicKey,
                                     protocolVersion := currentLocal.protocolVersion }) incoming.devices }

def mergeRemoteUpgradingFields (incoming current : Discovery.LayoutState) : Discovery.LayoutState :=
  { incoming with
    devices := incoming.devices.map fun device =>
      if device.role = "local" then device else
      match current.devices.find? (·.id = device.id) with
      | some known => { device with upgrading := known.upgrading, upgradingUntilMs := known.upgradingUntilMs }
      | none => device }

def mergeRuntimeOwnedLayoutFields (incoming current : Discovery.LayoutState) : Discovery.LayoutState :=
  let incoming := { incoming with clusterId := current.clusterId, pairSecret := current.pairSecret,
                                  trustedPeers := current.trustedPeers }
  let incoming :=
    if current.machineRole = "client" && incoming.machineRole = "client" && !current.pairedControllers.isEmpty then
      { incoming with pairedControllers := current.pairedControllers }
    else incoming
  mergeRemoteUpgradingFields (mergeLocalRuntimeDeviceFields incoming current) current

/-- `save_layout`; `otherChecks` stands for the checks of what the model leaves out,
and for the write to the disk. -/
def saveLayout (incoming : Discovery.LayoutState) (otherChecks : Bool) (current : Discovery.LayoutState) :
    Discovery.LayoutState :=
  if validateLayoutIpc incoming && otherChecks then mergeRuntimeOwnedLayoutFields incoming current else current

/-! ### Presence -/

/-- The peer which the device is shown as. -/
def shownAs (layout : Discovery.LayoutState) (peers : List LanPeer) (device : Discovery.Device) : Option LanPeer :=
  if device.role = "local" then none else peers.find? (deviceMatchesPeer device · layout.clusterId)

/-- `update_device_from_peer`, with every step reported. -/
def updateDeviceFromPeerChecked (device : Discovery.Device) (peer : LanPeer) (now : UInt64) :
    Option Discovery.Device :=
  (screensFromPeerChecked peer.screens device.id device.screens).map fun screens =>
    { updateDeviceFromPeer device peer now with screens }

/-- One device in `apply_peer_presence`. -/
def presentDeviceChecked (layout : Discovery.LayoutState) (peers : List LanPeer) (now : UInt64)
    (device : Discovery.Device) : Option Discovery.Device :=
  match shownAs layout peers device with
  | some peer => updateDeviceFromPeerChecked device peer now
  | none => some (presentDevice layout peers now device)

/-- `apply_peer_presence` -/
def applyPeerPresenceChecked (layout : Discovery.LayoutState) (peers : List LanPeer) (now : UInt64) :
    Option Discovery.LayoutState :=
  (layout.devices.mapM (presentDeviceChecked layout peers now)).map fun devices =>
    refreshPairedControllerKeys { layout with devices } peers

/-! ### Scenes -/

/-- A device, as far as geometry goes. -/
structure Spot where
  isLocal : Bool
  screens : List (String × Box)
  deriving DecidableEq

abbrev Scene := List Spot

namespace Scene

variable (scene : Scene)

/-- The local screens, for targets on other machines. -/
def homes : List (String × Box) := ((scene.find? (·.isLocal)).map (·.screens)).getD []

/-- The local screens, for switches between them; without a local device the first one is taken. -/
def bases : List (String × Box) := (((scene.find? (·.isLocal)).or scene.head?).map (·.screens)).getD []

/-- Every screen is bounded, and the ones which are compared are comparable. -/
structure Sound : Prop where
  bounded : ∀ spot ∈ scene, ∀ screen ∈ spot.screens, screen.2.Bounded
  across : ∀ home ∈ scene.homes, ∀ spot ∈ scene, spot.isLocal = false → ∀ screen ∈ spot.screens,
    Box.Comparable home.2 screen.2
  between : ∀ base ∈ scene.bases, ∀ screen ∈ scene.bases, screen.1 ≠ base.1 → Box.Comparable base.2 screen.2

instance : Decidable scene.Sound :=
  decidable_of_iff
    ((∀ spot ∈ scene, ∀ screen ∈ spot.screens, screen.2.Bounded) ∧
      (∀ home ∈ scene.homes, ∀ spot ∈ scene, spot.isLocal = false → ∀ screen ∈ spot.screens,
        Box.Comparable home.2 screen.2) ∧
      ∀ base ∈ scene.bases, ∀ screen ∈ scene.bases, screen.1 ≠ base.1 → Box.Comparable base.2 screen.2)
    ⟨fun ⟨bounded, across, between⟩ => ⟨bounded, across, between⟩,
      fun ⟨bounded, across, between⟩ => ⟨bounded, across, between⟩⟩

end Scene

def spot (device : Discovery.Device) : Spot := ⟨device.role = "local", device.screens.map placed⟩

/-- The screens of this machine. -/
def localScreens (layout : Discovery.LayoutState) : List Screen :=
  ((layout.devices.find? (·.role = "local")).map (·.screens)).getD []

/-- What geometry sees of the layout. -/
def sceneOf (layout : Discovery.LayoutState) : Scene := layout.devices.map spot

/-- The device, once the peers are shown in it. -/
def shownSpot (layout : Discovery.LayoutState) (peers : List LanPeer) (device : Discovery.Device) : Spot :=
  match shownAs layout peers device with
  | some peer => ⟨device.role = "local", importedBoxes peer.screens device.id (device.screens.map placed)⟩
  | none => spot device

/-- The scene, once the peers are shown in it. -/
def sceneShown (layout : Discovery.LayoutState) (peers : List LanPeer) : Scene :=
  layout.devices.map (shownSpot layout peers)

/-- Whoever is shown advertises screens which can be imported. -/
def Importable (layout : Discovery.LayoutState) (peers : List LanPeer) : Prop :=
  ∀ device ∈ layout.devices, ∀ peer ∈ shownAs layout peers device, InSpan peer.screens

instance (layout : Discovery.LayoutState) (peers : List LanPeer) : Decidable (Importable layout peers) :=
  inferInstanceAs (Decidable (∀ device ∈ layout.devices, ∀ peer ∈ shownAs layout peers device,
    InSpan peer.screens))

variable {layout current : Discovery.LayoutState} {peers : List LanPeer} {now : UInt64}

theorem modifyFirst_map {α β : Type} {test : α → Bool} {change : α → α} {view : α → β}
    (h : ∀ a, view (change a) = view a) (entries : List α) :
    (modifyFirst test change entries).map view = entries.map view := by
  unfold modifyFirst
  split
  · refine List.ext_getElem? fun index => ?_
    rw [List.getElem?_map, List.getElem?_modify, List.getElem?_map]
    cases entries[index]? with
    | none => rfl
    | some entry =>
      refine congrArg some ?_
      dsimp only
      split
      · exact h entry
      · rfl
  · rfl

/-- What a save may not change. -/
def face (device : Discovery.Device) : String × List Screen := (device.role, device.screens)

/-- **A save**: the screens are the ones which the user interface sent. -/
theorem faces_merged (incoming current : Discovery.LayoutState) :
    (mergeRuntimeOwnedLayoutFields incoming current).devices.map face = incoming.devices.map face := by
  have hupgrading : ∀ layout : Discovery.LayoutState,
      (mergeRemoteUpgradingFields layout current).devices.map face = layout.devices.map face := by
    intro layout
    unfold mergeRemoteUpgradingFields
    rw [List.map_map]
    refine List.map_congr_left fun device _ => ?_
    dsimp only [Function.comp]
    split
    · rfl
    · split <;> rfl
  have hlocal : ∀ layout : Discovery.LayoutState,
      (mergeLocalRuntimeDeviceFields layout current).devices.map face = layout.devices.map face := by
    intro layout
    unfold mergeLocalRuntimeDeviceFields
    split
    · rfl
    · split
      · rfl
      · refine modifyFirst_map ?_ layout.devices
        exact fun _ => rfl
  unfold mergeRuntimeOwnedLayoutFields
  dsimp only
  rw [hupgrading, hlocal]
  split <;> rfl

theorem sceneOf_faces (layout : Discovery.LayoutState) :
    sceneOf layout = (layout.devices.map face).map fun (role, screens) =>
      ⟨role = "local", screens.map placed⟩ := by
  unfold sceneOf
  rw [List.map_map]
  rfl

theorem localScreens_faces (layout : Discovery.LayoutState) :
    localScreens layout = (((layout.devices.map face).find? (·.1 = "local")).map (·.2)).getD [] := by
  unfold localScreens
  rw [List.find?_map, Option.map_map]
  rfl

theorem scene_merged (incoming current : Discovery.LayoutState) :
    sceneOf (mergeRuntimeOwnedLayoutFields incoming current) = sceneOf incoming := by
  rw [sceneOf_faces, faces_merged, ← sceneOf_faces]

theorem localScreens_merged (incoming current : Discovery.LayoutState) :
    localScreens (mergeRuntimeOwnedLayoutFields incoming current) = localScreens incoming := by
  rw [localScreens_faces, faces_merged, ← localScreens_faces]

theorem presentDevice_shown {device : Discovery.Device} {peer : LanPeer}
    (h : shownAs layout peers device = some peer) :
    presentDevice layout peers now device = updateDeviceFromPeer device peer now := by
  unfold shownAs at h
  unfold presentDevice
  split at h
  · cases h
  · rename_i hrole
    rw [if_neg hrole, h]

theorem presentDevice_hidden {device : Discovery.Device} (h : shownAs layout peers device = none) :
    spot (presentDevice layout peers now device) = spot device := by
  unfold shownAs at h
  unfold presentDevice
  split at h
  · rename_i hrole
    rw [if_pos hrole]
    rfl
  · rename_i hrole
    rw [if_neg hrole, h]
    rfl

theorem presentDeviceChecked_isSome_iff {device : Discovery.Device} :
    (presentDeviceChecked layout peers now device).isSome ↔
      ∀ peer ∈ shownAs layout peers device, InSpan peer.screens := by
  unfold presentDeviceChecked
  cases shownAs layout peers device with
  | none => simp
  | some peer =>
    dsimp only [updateDeviceFromPeerChecked]
    rw [Option.isSome_map, screensFromPeerChecked_isSome_iff]
    simp

/-- **What presence needs**: everything which it shows can be imported. -/
theorem applyPeerPresenceChecked_isSome_iff :
    (applyPeerPresenceChecked layout peers now).isSome ↔ Importable layout peers := by
  unfold applyPeerPresenceChecked Importable
  rw [Option.isSome_map, mapM_isSome_iff]
  exact forall₂_congr fun device _ => presentDeviceChecked_isSome_iff

/-- Presence which has an answer has the one of the function which does not report. -/
theorem applyPeerPresenceChecked_eq (h : Importable layout peers) :
    applyPeerPresenceChecked layout peers now = some (applyPeerPresence layout peers now) := by
  have hdevices : layout.devices.mapM (presentDeviceChecked layout peers now) =
      some (layout.devices.map (presentDevice layout peers now)) := by
    refine mapM_eq_map fun device hdevice => ?_
    unfold presentDeviceChecked
    cases hshown : shownAs layout peers device with
    | none => rfl
    | some peer =>
      dsimp only [updateDeviceFromPeerChecked]
      rw [screensFromPeerChecked_eq (h device hdevice peer hshown), presentDevice_shown hshown]
      rfl
  unfold applyPeerPresenceChecked
  rw [hdevices]
  rfl

/-- **Presence**: what geometry sees of it. -/
theorem scene_present (h : Importable layout peers) :
    sceneOf (applyPeerPresence layout peers now) = sceneShown layout peers := by
  unfold sceneOf sceneShown applyPeerPresence refreshPairedControllerKeys
  rw [List.map_map]
  refine List.map_congr_left fun device hdevice => ?_
  dsimp only [Function.comp]
  unfold shownSpot
  cases hshown : shownAs layout peers device with
  | none => exact presentDevice_hidden hshown
  | some peer =>
    rw [presentDevice_shown hshown]
    exact congrArg (Spot.mk _) (screensFromPeer_boxes (h device hdevice peer hshown))

/-- Presence leaves the screens of this machine alone. -/
theorem localScreens_present : localScreens (applyPeerPresence layout peers now) = localScreens layout := by
  have hrole : ∀ device, (presentDevice layout peers now device).role = device.role := by
    intro device
    unfold presentDevice
    split
    · rfl
    · split <;> rfl
  have hscreens : ∀ device, device.role = "local" →
      (presentDevice layout peers now device).screens = device.screens := by
    intro device hlocal
    unfold presentDevice
    rw [if_pos hlocal]
  unfold localScreens applyPeerPresence refreshPairedControllerKeys
  dsimp only
  rw [List.find?_map]
  have hfind : (fun device : Discovery.Device => decide (device.role = "local")) ∘ presentDevice layout peers now =
      fun device => decide (device.role = "local") :=
    funext fun device => congrArg (fun role : String => decide (role = "local")) (hrole device)
  rw [hfind]
  cases hfound : layout.devices.find? (·.role = "local") with
  | none => rfl
  | some device =>
    have hlocal := List.find?_some hfound
    exact hscreens device (of_decide_eq_true hlocal)

end MyKvm.Layout
