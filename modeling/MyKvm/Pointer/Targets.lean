import MyKvm.Layout.Scene
import MyKvm.Pointer.Checked

/-!
# MyKvm.Pointer.Targets — the targets of a layout, with every step reported

The targets are the remote screens which touch a local one.  The pointer enters one of them in the middle, when the
user selects it or switches in its direction; a switch prefers another local screen.

* `Homed`: the layout is sound, and so are the displays which its local screens are on.
* `buildInputTargets_yields`, `requestScreenSwitch_yields`: on such a layout everything has an answer.
-/

namespace MyKvm.Pointer.Checked

open MyKvm.Lib MyKvm.Lib.Coordinate MyKvm.Layout MyKvm.Discovery

/-- The displays as the platform has them.  Windows counts in its own pixels: `scaleOf` is the number which the
bits of a scale stand for, and 1 for what is no scale. -/
structure Desktop (F : Type) where
  displays : List Screen
  windows : Bool
  scaleOf : UInt64 → F

inductive SwitchDirection where
  | left
  | right
  | up
  | down
  deriving DecidableEq

def SwitchDirection.matchesEdge : SwitchDirection → Edge → Bool
  | .left, .left | .right, .right | .up, .top | .down, .bottom => true
  | _, _ => false

inductive SwitchOutcome (F : Type) where
  | noop
  | localMove (fromScreenId toScreenId : String) (x y : F)
  | enter (active : ActiveTarget F)

variable {F : Type} [Coordinate F]

/-! ### Displays -/

def scalePosition (value : Int32) (scale : F) : Int32 := round (ofInt32 value * scale)

def scaleSize (value : Int32) (scale : F) : Int32 := max (round (ofInt32 (max value 1) * scale)) 1

section Desktop

variable (desktop : Desktop F)

def platformNativeScreen (screen : Screen) : Screen :=
  if desktop.windows then
    { screen with
      x := scalePosition screen.x (desktop.scaleOf screen.scale)
      y := scalePosition screen.y (desktop.scaleOf screen.scale)
      width := scaleSize screen.width (desktop.scaleOf screen.scale)
      height := scaleSize screen.height (desktop.scaleOf screen.scale) }
  else screen

/-- The local screen, as the platform has it. -/
def nativeScreen (screen : Screen) : Screen :=
  platformNativeScreen desktop ((desktop.displays.find? (·.id = screen.id)).getD screen)

/-! ### Targets -/

/-- The device can be controlled. -/
def targetable (device : Discovery.Device) : Bool :=
  device.role ≠ "local" && device.online && device.inputReady && device.protocolVersion = protocolVersion &&
    !isBlank device.transportPublicKey

/-- The target, if the screens touch. -/
def inputTargetChecked (device : Discovery.Device) (layoutLocalScreen remoteScreen : Screen) :
    Option (Option InputTarget) :=
  (adjacencyChecked layoutLocalScreen remoteScreen).map fun edge => edge.map fun edge =>
    { deviceId := device.id
      targetAddr := device.host ++ ":" ++ Nat.repr (normalizeQuicPort device.transportPort device.quicPort).toNat
      protocolVersion := device.protocolVersion
      screenId := peerScreenId device.toDevice remoteScreen
      localScreen := nativeScreen desktop layoutLocalScreen
      layoutLocalScreen
      remoteScreen
      edge }

def buildInputTargetsChecked (layout : Discovery.LayoutState) : Option (List InputTarget) :=
  match layout.devices.find? (·.role = "local") with
  | none => some []
  | some localDevice => do
    let found ← (layout.devices.filter targetable).mapM fun device =>
      localDevice.screens.mapM fun layoutLocalScreen =>
        device.screens.mapM (inputTargetChecked desktop device layoutLocalScreen)
    return found.flatten.flatten.filterMap id

/-- `request_selected_remote` -/
def requestSelectedRemoteChecked (layout : Discovery.LayoutState) (activeDeviceId selectedScreenId : String) :
    Option (SwitchOutcome F) := do
  let targets ← buildInputTargetsChecked desktop layout
  let target := (targets.find? fun target => target.deviceId = activeDeviceId &&
    (target.screenId = selectedScreenId || target.remoteScreen.id = selectedScreenId)).or
      (targets.find? (·.deviceId = activeDeviceId))
  match target with
  | some target => return .enter (← centeredActiveTargetChecked target)
  | none => return .noop

/-! ### Switching -/

/-- `local_device` -/
def baseDevice (layout : Discovery.LayoutState) : Option Discovery.Device :=
  (layout.devices.find? (·.role = "local")).or layout.devices.head?

/-- The local screen which the point is on. -/
def sourceLocalScreenChecked (layout : Discovery.LayoutState) (currentPoint : Option (F × F)) :
    Option (Option Screen) :=
  match baseDevice layout with
  | none => some none
  | some device => do
    let onDisplay ← match currentPoint with
      | none => some none
      | some (x, y) => desktop.displays.findSomeM? fun display => do
        let inside ← pointInScreenChecked (platformNativeScreen desktop display) x y
        return if inside then device.screens.find? (·.id = display.id) else none
    if onDisplay.isSome then return onDisplay
    let onScreen ← match currentPoint with
      | none => some none
      | some (x, y) => device.screens.findM? fun screen => pointInScreenChecked screen x y
    return onScreen.or ((device.screens.find? (·.isPrimary)).or device.screens.head?)

/-- `local_screen_switch_point` -/
def localScreenSwitchPointChecked (direction : SwitchDirection) (layout : Discovery.LayoutState)
    (sourceScreenId : Option String) : Option (Option (SwitchOutcome F)) :=
  match baseDevice layout with
  | none => some none
  | some device =>
    let source := (sourceScreenId.bind fun id => device.screens.find? (·.id = id)).or
      ((device.screens.find? (·.isPrimary)).or device.screens.head?)
    match source with
    | none => some none
    | some source => do
      let target ← device.screens.findM? fun screen => andAlso (some (screen.id ≠ source.id))
        ((adjacencyChecked source screen).map fun edge => (edge.map direction.matchesEdge).getD false)
      match target with
      | none => return none
      | some target =>
        let (x, y) ← screenCenterPointChecked (nativeScreen desktop target)
        return some (.localMove source.id target.id x y)

/-- `request_screen_switch_from_point`, while nothing is controlled. -/
def requestScreenSwitchChecked (direction : SwitchDirection) (layout : Discovery.LayoutState)
    (currentPoint : Option (F × F)) : Option (SwitchOutcome F) := do
  let source ← sourceLocalScreenChecked desktop layout currentPoint
  match ← localScreenSwitchPointChecked desktop direction layout (source.map (·.id)) with
  | some move => return move
  | none =>
    let targets ← buildInputTargetsChecked desktop layout
    let target := (targets.find? fun target =>
      (source.all fun source => target.layoutLocalScreen.id = source.id) && direction.matchesEdge target.edge).or
        (targets.find? fun target => direction.matchesEdge target.edge)
    match target with
    | some target => return .enter (← centeredActiveTargetChecked target)
    | none => return .noop

end Desktop

/-! ### On sound layouts -/

/-- Every display ends within the words. -/
def Desktop.Bounded (desktop : Desktop F) : Prop :=
  ∀ display ∈ desktop.displays, (box (platformNativeScreen desktop display)).Bounded

/-- The layout is sound, and so are the displays of the local screens which have targets. -/
structure Homed (desktop : Desktop F) (layout : Discovery.LayoutState) : Prop where
  sound : (sceneOf layout).Sound
  native : ∀ screen ∈ localScreens layout, (box (nativeScreen desktop screen)).Bounded

variable {desktop : Desktop F} {layout : Discovery.LayoutState}

theorem Homed.bounded (h : Homed desktop layout) {device : Discovery.Device} (hdevice : device ∈ layout.devices)
    {screen : Screen} (hscreen : screen ∈ device.screens) : (box screen).Bounded :=
  h.sound.bounded (spot device) (List.mem_map_of_mem hdevice) (placed screen) (List.mem_map_of_mem hscreen)

theorem homes_eq {localDevice : Discovery.Device}
    (h : layout.devices.find? (·.role = "local") = some localDevice) :
    (sceneOf layout).homes = localDevice.screens.map placed := by
  have hfind : (sceneOf layout).find? (·.isLocal) = some (spot localDevice) := by
    unfold sceneOf
    rw [List.find?_map]
    exact congrArg (Option.map spot) h
  unfold Scene.homes
  rw [hfind]
  rfl

theorem localScreens_eq {localDevice : Discovery.Device}
    (h : layout.devices.find? (·.role = "local") = some localDevice) :
    localScreens layout = localDevice.screens := by
  unfold localScreens
  rw [h]
  rfl

theorem bases_eq {device : Discovery.Device} (h : baseDevice layout = some device) :
    (sceneOf layout).bases = device.screens.map placed := by
  have hbase : ((sceneOf layout).find? (·.isLocal)).or (sceneOf layout).head? = some (spot device) := by
    unfold sceneOf
    rw [List.find?_map, List.head?_map, ← Option.map_or]
    exact congrArg (Option.map spot) h
  unfold Scene.bases
  rw [hbase]
  rfl

theorem baseDevice_mem {device : Discovery.Device} (h : baseDevice layout = some device) :
    device ∈ layout.devices := by
  rcases Option.or_eq_some_iff.mp h with hfound | ⟨-, hhead⟩
  · exact List.mem_of_find?_eq_some hfound
  · exact List.mem_of_head? hhead

theorem inputTarget_yields (h : Homed desktop layout) {localDevice device : Discovery.Device}
    (hlocal : layout.devices.find? (·.role = "local") = some localDevice) (hdevice : device ∈ layout.devices)
    (hrole : device.role ≠ "local") {localScreen remoteScreen : Screen} (hhome : localScreen ∈ localDevice.screens)
    (hremote : remoteScreen ∈ device.screens) :
    Yields (inputTargetChecked desktop device localScreen remoteScreen) fun found =>
      ∀ target ∈ found, Usable target := by
  have hlocalBounded := h.bounded (List.mem_of_find?_eq_some hlocal) hhome
  have hremoteBounded := h.bounded hdevice hremote
  have hcomparable : Box.Comparable (box localScreen) (box remoteScreen) :=
    h.sound.across (placed localScreen) (homes_eq hlocal ▸ List.mem_map_of_mem hhome) (spot device)
      (List.mem_map_of_mem hdevice) (decide_eq_false hrole) (placed remoteScreen) (List.mem_map_of_mem hremote)
  obtain ⟨edge, hedge⟩ :=
    Option.isSome_iff_exists.mp ((adjacency_isSome_iff hlocalBounded hremoteBounded).mpr hcomparable)
  refine Yields.map (yields_of_eq (P := fun _ => True) hedge trivial) fun edge _ target htarget => ?_
  obtain ⟨side, -, rfl⟩ := Option.map_eq_some_iff.mp htarget
  exact ⟨h.native localScreen (localScreens_eq hlocal ▸ hhome), hlocalBounded, hremoteBounded⟩

/-- **Targets**: on a sound layout every pair of screens is compared. -/
theorem buildInputTargets_yields (h : Homed desktop layout) :
    Yields (buildInputTargetsChecked desktop layout) fun targets => ∀ target ∈ targets, Usable target := by
  unfold buildInputTargetsChecked
  cases hlocal : layout.devices.find? (·.role = "local") with
  | none => exact yields_some (by simp)
  | some localDevice =>
    have hfound : Yields ((layout.devices.filter targetable).mapM fun device =>
        localDevice.screens.mapM fun layoutLocalScreen =>
          device.screens.mapM (inputTargetChecked desktop device layoutLocalScreen)) fun found =>
        ∀ ofDevice ∈ found, ∀ ofScreen ∈ ofDevice, ∀ entry ∈ ofScreen, ∀ target ∈ entry, Usable target := by
      refine Yields.mapM fun device hdevice => Yields.mapM fun localScreen hhome =>
        Yields.mapM fun remoteScreen hremote => ?_
      obtain ⟨hmem, htargetable⟩ := List.mem_filter.mp hdevice
      have hrole : device.role ≠ "local" := by
        simp only [targetable, Bool.and_eq_true, decide_eq_true_eq] at htargetable
        exact htargetable.1.1.1.1
      exact inputTarget_yields h hlocal hmem hrole hhome hremote
    refine Yields.bind hfound fun found hall => yields_some fun target htarget => ?_
    obtain ⟨entry, hentry, htarget⟩ := List.mem_filterMap.mp htarget
    obtain ⟨ofScreen, hofScreen, hentry⟩ := List.mem_flatten.mp hentry
    obtain ⟨ofDevice, hofDevice, hofScreen⟩ := List.mem_flatten.mp hofScreen
    exact hall ofDevice hofDevice ofScreen hofScreen entry hentry target htarget

/-- The pointer which an outcome leaves is steady. -/
def SwitchOutcome.Steady : SwitchOutcome F → Prop
  | .enter active => Checked.Steady active
  | _ => True

theorem enter_yields {targets : List InputTarget} (h : ∀ target ∈ targets, Usable target)
    {first second : InputTarget → Bool} :
    Yields (match (targets.find? first).or (targets.find? second) with
      | some target => do return .enter (← centeredActiveTargetChecked (F := F) target)
      | none => (return .noop)) SwitchOutcome.Steady := by
  cases hfound : (targets.find? first).or (targets.find? second) with
  | none => exact yields_some trivial
  | some target =>
    have hmem : target ∈ targets := by
      rcases Option.or_eq_some_iff.mp hfound with hfirst | ⟨-, hsecond⟩
      · exact List.mem_of_find?_eq_some hfirst
      · exact List.mem_of_find?_eq_some hsecond
    exact Yields.bind (centered_yields (h target hmem)) fun active hactive => yields_some hactive

/-- **Selecting.** -/
theorem requestSelectedRemote_yields (h : Homed desktop layout) (activeDeviceId selectedScreenId : String) :
    Yields (requestSelectedRemoteChecked desktop layout activeDeviceId selectedScreenId) SwitchOutcome.Steady :=
  Yields.bind (buildInputTargets_yields h) fun _ htargets => enter_yields htargets

theorem sourceLocalScreen_yields (hdesktop : desktop.Bounded) (h : Homed desktop layout)
    (currentPoint : Option (F × F)) :
    Yields (sourceLocalScreenChecked desktop layout currentPoint) fun _ => True := by
  unfold sourceLocalScreenChecked
  cases hbase : baseDevice layout with
  | none => exact yields_some trivial
  | some device =>
    cases currentPoint with
    | none => exact yields_some trivial
    | some point =>
      obtain ⟨x, y⟩ := point
      have honDisplay : Yields (desktop.displays.findSomeM? fun display => do
          let inside ← pointInScreenChecked (platformNativeScreen desktop display) x y
          return if inside then device.screens.find? (·.id = display.id) else none) fun _ => True := by
        refine (Yields.findSomeM (R := fun _ => True) fun display hdisplay => ?_).mono fun _ _ => trivial
        rw [pointInScreenChecked_eq (hdesktop display hdisplay)]
        exact yields_some fun _ _ => trivial
      have honScreen : Yields (device.screens.findM? fun screen => pointInScreenChecked screen x y)
          fun _ => True := by
        refine (Yields.findM fun screen hscreen => ?_).mono fun _ _ => trivial
        exact yields_of_eq (pointInScreenChecked_eq (h.bounded (baseDevice_mem hbase) hscreen) _ _) trivial
      dsimp only
      refine Yields.bind honDisplay fun onDisplay _ => ?_
      split
      · exact ⟨onDisplay, rfl, trivial⟩
      · exact Yields.bind honScreen fun _ _ => ⟨_, rfl, trivial⟩

/-- The displays of bounded screens have sizes. -/
theorem nativeScreen_sized (hdesktop : desktop.Bounded) {screen : Screen} (h : (box screen).Bounded) :
    1 ≤ (nativeScreen desktop screen).width.toInt ∧ 1 ≤ (nativeScreen desktop screen).height.toInt := by
  have hscaled : ∀ (value : Int32) (scale : F), 1 ≤ (scaleSize value scale).toInt := by
    intro value scale
    unfold scaleSize
    rw [max_toInt]
    exact le_max_right _ _
  unfold nativeScreen
  cases hfound : desktop.displays.find? (·.id = screen.id) with
  | some display =>
    have hbounded := hdesktop display (List.mem_of_find?_eq_some hfound)
    exact ⟨hbounded.width, hbounded.height⟩
  | none =>
    rw [Option.getD_none]
    unfold platformNativeScreen
    split
    · exact ⟨hscaled _ _, hscaled _ _⟩
    · exact ⟨h.width, h.height⟩

theorem localScreenSwitchPoint_yields (hdesktop : desktop.Bounded) (h : Homed desktop layout)
    (direction : SwitchDirection) (sourceScreenId : Option String) :
    Yields (localScreenSwitchPointChecked desktop direction layout sourceScreenId) fun found =>
      ∀ outcome ∈ found, outcome.Steady := by
  unfold localScreenSwitchPointChecked
  cases hbase : baseDevice layout with
  | none => exact yields_some (by simp)
  | some device =>
    dsimp only
    split
    · exact yields_some (by simp)
    rename_i source hsource
    have hmem : source ∈ device.screens := by
      rcases Option.or_eq_some_iff.mp hsource with hnamed | ⟨-, hother⟩
      · obtain ⟨id, -, hfound⟩ := Option.bind_eq_some_iff.mp hnamed
        exact List.mem_of_find?_eq_some hfound
      · rcases Option.or_eq_some_iff.mp hother with hprimary | ⟨-, hhead⟩
        · exact List.mem_of_find?_eq_some hprimary
        · exact List.mem_of_head? hhead
    have hbounded : ∀ screen ∈ device.screens, (box screen).Bounded := fun screen hscreen =>
      h.bounded (baseDevice_mem hbase) hscreen
    refine Yields.bind (Yields.findM fun screen hscreen => ?_) fun target htarget => ?_
    · by_cases hsame : screen.id = source.id
      · rw [decide_eq_false (not_not.mpr hsame)]
        exact yields_some trivial
      · have hcomparable : Box.Comparable (box source) (box screen) :=
          h.sound.between (placed source) (bases_eq hbase ▸ List.mem_map_of_mem hmem) (placed screen)
            (bases_eq hbase ▸ List.mem_map_of_mem hscreen) hsame
        obtain ⟨edge, hedge⟩ := Option.isSome_iff_exists.mp
          ((adjacency_isSome_iff (hbounded source hmem) (hbounded screen hscreen)).mpr hcomparable)
        rw [hedge, Option.map_some, andAlso_some]
        exact yields_some trivial
    · cases target with
      | none => exact yields_some (by simp)
      | some target =>
        obtain ⟨hwidth, hheight⟩ := nativeScreen_sized hdesktop (hbounded target (htarget target rfl))
        refine Yields.bind (screenCenterPoint_yields hwidth hheight) fun point _ =>
          yields_some fun outcome houtcome => ?_
        obtain rfl := Option.some.inj houtcome
        exact trivial

/-- **Switching.** -/
theorem requestScreenSwitch_yields (hdesktop : desktop.Bounded) (h : Homed desktop layout)
    (direction : SwitchDirection) (currentPoint : Option (F × F)) :
    Yields (requestScreenSwitchChecked desktop direction layout currentPoint) SwitchOutcome.Steady := by
  refine Yields.bind (sourceLocalScreen_yields hdesktop h currentPoint) fun source _ => ?_
  refine Yields.bind (localScreenSwitchPoint_yields hdesktop h direction (source.map (·.id)))
    fun found hfound => ?_
  cases found with
  | some outcome => exact yields_some (hfound outcome rfl)
  | none => exact Yields.bind (buildInputTargets_yields h) fun _ htargets => enter_yields htargets

end MyKvm.Pointer.Checked
