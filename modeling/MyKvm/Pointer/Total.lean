import MyKvm.Discovery.Packets
import MyKvm.Lib.Machine
import MyKvm.Pointer.Targets

/-!
# MyKvm.Pointer.Total — geometry on every layout which can be reached

The layout is saved by the user interface and shows the peers which have been heard of; the pointer works on
whatever the layout is at the moment, on targets of some earlier moment, and on the screen it has been taken to.

* `Admits`: what a save and what presence may bring in.
* `geometry_total`: then no step overflows, and no clamp is without an interval.
-/

namespace MyKvm.Pointer.Checked

open MyKvm.Lib MyKvm.Layout MyKvm.Discovery

structure Desk (F : Type) where
  layout : Discovery.LayoutState
  peers : List LanPeer
  /-- The targets as they were built last. -/
  targets : List InputTarget
  active : Option (ActiveTarget F)
  deriving DecidableEq

def Desk.start {F : Type} (layout : Discovery.LayoutState) : Desk F := ⟨layout, [], [], none⟩

/-- What happens: to the layout, to the targets and to the pointer. -/
inductive Happening (F : Type) where
  | save (incoming : Discovery.LayoutState) (otherChecks : Bool)
  | packet (wire : Option DiscoveryPacket) (sourceIp localPeerId : String) (now : UInt64)
  | presence (now : UInt64)
  | refreshTargets
  | cross (x y dx dy : F)
  | crossFlipped (startBounds : Option (F × F)) (x y dx dy : F)
  | select (activeDeviceId selectedScreenId : String)
  | switchScreen (direction : SwitchDirection) (currentPoint : Option (F × F))
  | move (dx dy : F)
  | callBack

variable {F : Type} [Coordinate F]

/-- The layout, as far as roaming goes. -/
def roamed (layout : Discovery.LayoutState) : Layout.LayoutState := ⟨layout.devices.map (·.toDevice), ""⟩

namespace Desk

/-- What the peer list makes of a packet. -/
def hear (s : Desk F) (wire : Option DiscoveryPacket) (sourceIp localPeerId : String) (now : UInt64) : Desk F :=
  match incomingDiscovery wire sourceIp localPeerId now with
  | none => s
  | some incoming =>
    if incoming.kind ≠ "pair-request" && incoming.kind ≠ "pair-confirm" &&
        peerVisibleToLayout s.layout incoming.peer then
      { s with peers := mergePeerEntry s.peers incoming.peer now }
    else s

/-- The pointer enters, and the local one is kept at its anchor. -/
def enterChecked (s : Desk F) (active : ActiveTarget F) : Option (Desk F) := do
  let _ ← localReturnPointChecked active
  return { s with active := some active }

def settleChecked (s : Desk F) : SwitchOutcome F → Option (Desk F)
  | .enter active => s.enterChecked active
  | _ => some s

/-- The user calls the pointer back. -/
def callBackChecked (s : Desk F) : Option (Desk F) :=
  match s.active with
  | none => some s
  | some active => do
    let _ ← screenCenterPointChecked (F := F) active.target.localScreen
    return { s with active := none }

def moveChecked (s : Desk F) (dx dy : F) : Option (Desk F) :=
  match s.active with
  | none => some s
  | some active => do
    let (returned, moved) ← updateActiveRemoteScreenChecked (active.accumulate dx dy) dx dy (roamed s.layout)
    if returned then
      let _ ← localReturnPointChecked moved
      return { s with active := none }
    return { s with active := some (← moved.clampedChecked) }

def crossedChecked (s : Desk F) (crossed : Option (Option (ActiveTarget F))) : Option (Desk F) :=
  if s.active.isSome then some s else do
  match ← crossed with
  | some active => s.enterChecked active
  | none => return s

end Desk

variable (desktop : Desktop F)

def stepChecked (s : Desk F) : Happening F → Option (Desk F)
  | .save incoming otherChecks => some { s with layout := saveLayout incoming otherChecks s.layout }
  | .packet wire sourceIp localPeerId now => some (s.hear wire sourceIp localPeerId now)
  | .presence now => do
    let peers := pruneStalePeerEntries s.peers now
    return { s with peers, layout := ← applyPeerPresenceChecked s.layout peers now }
  | .refreshTargets => do return { s with targets := ← buildInputTargetsChecked desktop s.layout }
  | .cross x y dx dy => s.crossedChecked (crossingTargetChecked s.targets x y dx dy)
  | .crossFlipped startBounds x y dx dy =>
      s.crossedChecked (macCrossingTargetChecked startBounds s.targets x y dx dy)
  | .select activeDeviceId selectedScreenId =>
    if s.active.isSome then some s else do
    s.settleChecked (← requestSelectedRemoteChecked desktop s.layout activeDeviceId selectedScreenId)
  | .switchScreen direction currentPoint =>
    if s.active.isSome then s.callBackChecked else do
    s.settleChecked (← requestScreenSwitchChecked desktop direction s.layout currentPoint)
  | .move dx dy => s.moveChecked dx dy
  | .callBack => s.callBackChecked

/-- What has no answer changes nothing. -/
def next (s : Desk F) (happening : Happening F) : Desk F := (stepChecked desktop s happening).getD s

/-- Nothing overflows, and every clamp has an interval. -/
def Answers (s : Desk F) (happening : Happening F) : Prop := (stepChecked desktop s happening).isSome

/-- A save which is stored is sound, and so is what presence shows, which can be imported. -/
def Admits (s : Desk F) : Happening F → Prop
  | .save incoming otherChecks => validateLayoutIpc incoming = true → otherChecks = true → Homed desktop incoming
  | .presence now => Importable s.layout (pruneStalePeerEntries s.peers now) ∧
      (sceneShown s.layout (pruneStalePeerEntries s.peers now)).Sound
  | _ => True

/-- What the pointer works with is bounded. -/
structure Good (s : Desk F) : Prop where
  homed : Homed desktop s.layout
  targets : ∀ target ∈ s.targets, Usable target
  active : ∀ active ∈ s.active, Steady active

variable {desktop} {s : Desk F}

theorem roamed_bounded (h : Homed desktop s.layout) {deviceId : String} {screen : Screen}
    (hscreen : screen ∈ remoteDeviceScreens (roamed s.layout) deviceId) : (box screen).Bounded := by
  unfold remoteDeviceScreens at hscreen
  split at hscreen
  · rename_i device hdevice
    obtain ⟨listed, hlisted, rfl⟩ := List.mem_map.mp hscreen
    obtain ⟨owner, howner, rfl⟩ := List.mem_map.mp (List.mem_of_find?_eq_some hdevice)
    have hbounded : (box listed).Bounded := h.bounded howner hlisted
    exact hbounded
  · simp at hscreen

theorem Good.hear (h : Good desktop s) (wire : Option DiscoveryPacket) (sourceIp localPeerId : String)
    (now : UInt64) :
    Good desktop (s.hear wire sourceIp localPeerId now) := by
  unfold Desk.hear
  split
  · exact h
  · split
    · exact ⟨h.homed, h.targets, h.active⟩
    · exact h

theorem Good.enter (h : Good desktop s) {active : ActiveTarget F} (hsteady : Steady active) :
    Yields (s.enterChecked active) (Good desktop) :=
  Yields.bind (localReturnPoint_yields hsteady.usable) fun _ _ => yields_some
    ⟨h.homed, h.targets, fun _ hactive => Option.some.inj hactive ▸ hsteady⟩

theorem Good.settle (h : Good desktop s) {outcome : SwitchOutcome F} (hsteady : outcome.Steady) :
    Yields (s.settleChecked outcome) (Good desktop) := by
  cases outcome with
  | enter active => exact h.enter hsteady
  | noop => exact yields_some h
  | localMove fromScreenId toScreenId x y => exact yields_some h

theorem Good.callBack (h : Good desktop s) : Yields s.callBackChecked (Good desktop) := by
  unfold Desk.callBackChecked
  cases hactive : s.active with
  | none => exact yields_some h
  | some active =>
    have hlocal := (h.active active hactive).usable.localScreen
    refine Yields.bind (screenCenterPoint_yields hlocal.width hlocal.height) fun _ _ => yields_some ?_
    exact ⟨h.homed, h.targets, by simp⟩

theorem Good.move (h : Good desktop s) (dx dy : F) : Yields (s.moveChecked dx dy) (Good desktop) := by
  unfold Desk.moveChecked
  cases hactive : s.active with
  | none => exact yields_some h
  | some active =>
    have hsteady : Steady (active.accumulate dx dy) :=
      ⟨(h.active active hactive).usable, (h.active active hactive).current, (h.active active hactive).named⟩
    refine Yields.bind (update_yields hsteady (fun screen hscreen => roamed_bounded h.homed hscreen) dx dy)
      fun moved hmoved => ?_
    obtain ⟨returned, pointer⟩ := moved
    dsimp only
    split
    · exact Yields.bind (localReturnPoint_yields hmoved.usable) fun _ _ =>
        yields_some ⟨h.homed, h.targets, by simp⟩
    · exact Yields.bind (clamped_yields hmoved) fun clamped hclamped => yields_some
        ⟨h.homed, h.targets, fun _ hnext => Option.some.inj hnext ▸ hclamped⟩

theorem Good.crossed (h : Good desktop s) {crossed : Option (Option (ActiveTarget F))}
    (hcrossed : Yields crossed fun found => ∀ active, found = some active → Steady active) :
    Yields (s.crossedChecked crossed) (Good desktop) := by
  unfold Desk.crossedChecked
  split
  · exact yields_some h
  · refine Yields.bind hcrossed fun found hfound => ?_
    cases found with
    | none => exact yields_some h
    | some active => exact h.enter (hfound active rfl)

/-- A save which is admitted leaves the layout sound. -/
theorem homed_saved (h : Homed desktop s.layout) {incoming : Discovery.LayoutState} {otherChecks : Bool}
    (hadmits : Admits desktop s (.save incoming otherChecks)) :
    Homed desktop (saveLayout incoming otherChecks s.layout) := by
  unfold saveLayout
  split
  · rename_i hstored
    obtain ⟨hvalid, hother⟩ := Bool.and_eq_true_iff.mp hstored
    have hincoming := hadmits hvalid hother
    refine ⟨?_, ?_⟩
    · rw [scene_merged]
      exact hincoming.sound
    · rw [localScreens_merged]
      exact hincoming.native
  · exact h

theorem homed_present (h : Homed desktop s.layout) {now : UInt64} (hadmits : Admits desktop s (.presence now)) :
    Homed desktop (applyPeerPresence s.layout (pruneStalePeerEntries s.peers now) now) := by
  obtain ⟨himport, hsound⟩ := hadmits
  refine ⟨?_, ?_⟩
  · rw [scene_present himport]
    exact hsound
  · rw [localScreens_present]
    exact h.native

/-- **A step** has an answer, and what the pointer works with stays bounded. -/
theorem step_yields (hdesktop : desktop.Bounded) (h : Good desktop s) {happening : Happening F}
    (hadmits : Admits desktop s happening) : Yields (stepChecked desktop s happening) (Good desktop) := by
  cases happening with
  | save incoming otherChecks => exact yields_some ⟨homed_saved h.homed hadmits, h.targets, h.active⟩
  | packet wire sourceIp localPeerId now => exact yields_some (h.hear wire sourceIp localPeerId now)
  | presence now =>
    have hanswer : applyPeerPresenceChecked s.layout (pruneStalePeerEntries s.peers now) now =
        some (applyPeerPresence s.layout (pruneStalePeerEntries s.peers now) now) :=
        applyPeerPresenceChecked_eq hadmits.1
    exact Yields.bind (yields_of_eq hanswer (homed_present h.homed hadmits)) fun layout hlayout =>
      yields_some ⟨hlayout, h.targets, h.active⟩
  | refreshTargets =>
    exact Yields.bind (buildInputTargets_yields h.homed) fun targets htargets =>
      yields_some ⟨h.homed, htargets, h.active⟩
  | cross x y dx dy => exact h.crossed (crossingTarget_yields h.targets x y dx dy)
  | crossFlipped startBounds x y dx dy =>
      exact h.crossed (macCrossingTarget_yields h.targets startBounds x y dx dy)
  | select activeDeviceId selectedScreenId =>
    show Yields (if s.active.isSome = true then _ else _) _
    split
    · exact yields_some h
    · exact Yields.bind (requestSelectedRemote_yields h.homed activeDeviceId selectedScreenId) fun _ => h.settle
  | switchScreen direction currentPoint =>
    show Yields (if s.active.isSome = true then _ else _) _
    split
    · exact h.callBack
    · exact Yields.bind (requestScreenSwitch_yields hdesktop h.homed direction currentPoint) fun _ => h.settle
  | move dx dy => exact h.move dx dy
  | callBack => exact h.callBack

/-- **Geometry is total.**  On a desktop whose displays end within the words, from a sound layout: as long as every
save which is stored is sound and presence shows what can be imported and is sound, no step of the run overflows
and no clamp is without an interval. -/
theorem geometry_total (desktop : Desktop F) (hdesktop : desktop.Bounded) (layout : Discovery.LayoutState)
    (hstart : Homed desktop layout) (happenings : List (Happening F))
    (h : Meets (next desktop) (Admits desktop) (Desk.start layout) happenings) :
    Meets (next desktop) (Answers desktop) (Desk.start layout) happenings := by
  have hgood : Good desktop (Desk.start layout) := ⟨hstart, by simp [Desk.start], by simp [Desk.start]⟩
  refine meets_keeps (I := Good desktop) (fun s happening hs hadmits => ?_) hgood h
  have hstep := step_yields hdesktop hs hadmits
  exact ⟨hstep.getD s, hstep.isSome⟩

section Examples

instance (desktop : Desktop F) : Decidable desktop.Bounded :=
  inferInstanceAs (Decidable (∀ display ∈ desktop.displays, (box (platformNativeScreen desktop display)).Bounded))

instance (desktop : Desktop F) (layout : Discovery.LayoutState) : Decidable (Homed desktop layout) :=
  decidable_of_iff
    ((sceneOf layout).Sound ∧ ∀ screen ∈ localScreens layout, (box (nativeScreen desktop screen)).Bounded)
    ⟨fun ⟨sound, native⟩ => ⟨sound, native⟩, fun ⟨sound, native⟩ => ⟨sound, native⟩⟩

instance (desktop : Desktop F) (s : Desk F) : ∀ happening, Decidable (Admits desktop s happening)
  | .save incoming otherChecks =>
    inferInstanceAs (Decidable (validateLayoutIpc incoming = true → otherChecks = true → Homed desktop incoming))
  | .presence now => inferInstanceAs (Decidable (Importable s.layout (pruneStalePeerEntries s.peers now) ∧
      (sceneShown s.layout (pruneStalePeerEntries s.peers now)).Sound))
  | .packet _ _ _ _ | .refreshTargets | .cross _ _ _ _ | .crossFlipped _ _ _ _ _ | .select _ _ | .switchScreen _ _
  | .move _ _ | .callBack => .isTrue trivial

instance (desktop : Desktop F) (s : Desk F) (happening : Happening F) : Decidable (Answers desktop s happening) :=
  inferInstanceAs (Decidable (_ = true))

def sampleDisplay : Screen :=
  ⟨"local-display-1", "local-device", "Display 1", 0, 0, 1920, 1080, 0x3FF0000000000000, true⟩

def sampleDesktop : Desktop ℚ := ⟨[sampleDisplay], false, fun _ => 1⟩

/-- A device which has been paired with, to the right of the local one. -/
def sampleDevice (x : Int32) : Discovery.Device where
  id := "studio"
  role := "remote"
  screens := [⟨"studio-main", "studio", "Main", x, 0, 2560, 1440, 0x3FF0000000000000, true⟩]
  name := "Studio"
  platform := "macos"
  host := "studio.local"
  transportPort := 47832
  quicPort := 47833
  transportPublicKey := "studio-key"
  protocolVersion := 1
  online := false
  inputReady := false
  upgrading := false
  upgradingUntilMs := 0
  source := "detected"

def sampleLayout (x : Int32) : Discovery.LayoutState where
  devices :=
    [{ sampleDevice x with id := "local-device", role := "local", screens := [sampleDisplay] }, sampleDevice x]
  inputMode := "control"
  machineRole := "server"
  clusterId := "home"
  pairSecret := "secret"
  pairedControllers := []
  trustedPeers := []
  transportPort := 47832
  quicPort := 47833

/-- The device advertises one screen. -/
def samplePacket (width : Int32) : Happening ℚ :=
  .packet (some
    { protocol := discoveryProtocol
      kind := "announce"
      peer :=
        { id := "studio", name := "Studio", platform := "macos", machineRole := "client", clusterId := "home",
          pairingRequired := false, host := "studio.local", ip := "", transportPort := 47832, quicPort := 47833,
          transportPublicKey := "studio-key", protocolVersion := 1, screenCount := 1, inputReady := true,
          upgrading := false, appVersion := "1.0.0", lastSeenMs := 0,
          screens := [⟨"main", "Main", 0, 0, width, 1440, 0x3FF0000000000000, true⟩] }
      pairingCode := none
      pairClusterId := none
      pairSecret := none
      pairingError := none }) "192.168.0.7" "peer-local" 1000

/-- The screen is moved to where it touches, and shown; the pointer crosses to it, goes on and is called back. -/
theorem geometry_total_moved :
    Meets (next sampleDesktop) (Answers sampleDesktop) (Desk.start (sampleLayout 4000))
      [.save (sampleLayout 1920) true, samplePacket 2560, .presence 1000, .refreshTargets, .cross 1919 500 40 0,
        .move 5 5, .callBack] :=
  geometry_total sampleDesktop (by decide +kernel) (sampleLayout 4000) (by decide +kernel) _ (by decide +kernel)

/-- A known device advertises a screen of no width; the user selects it. -/
theorem not_geometry_total :
    ¬ ∀ (desktop : Desktop ℚ), desktop.Bounded → ∀ (layout : Discovery.LayoutState), Homed desktop layout →
      ∀ happenings, Meets (next desktop) (Answers desktop) (Desk.start layout) happenings := by
  intro h
  have hrun := h sampleDesktop (by decide +kernel) (sampleLayout 1920) (by decide +kernel)
    [samplePacket 0, .presence 1000, .select "studio" "studio-main"]
  revert hrun
  decide +kernel

/-- A save puts no bound on places. -/
example : validateLayoutIpc (sampleLayout 2147483000) = true ∧
    ¬ Meets (next sampleDesktop) (Answers sampleDesktop) (Desk.start (sampleLayout 1920))
      [.save (sampleLayout 2147483000) true, .refreshTargets, samplePacket 2560, .presence 1000,
        .refreshTargets] := by
  decide +kernel

end Examples

end MyKvm.Pointer.Checked
