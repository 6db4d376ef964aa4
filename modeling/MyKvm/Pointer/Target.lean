import MyKvm.Layout.Screens
import MyKvm.Lib.Coordinate

/-!
# MyKvm.Pointer.Target — the pointer on a remote machine

While a remote machine is controlled, the controller keeps a pointer of its own: the remote screen it is on, and
where on it.  The pointer enters at an edge or in the middle, moves by the deltas of the local pointer, roams to
the other screens of the same machine, and comes back over the edge it entered at.

`update_placed`, `entered_placed`, `centered_placed`: wherever the pointer goes, it is on its screen once it is
clamped.
-/

namespace MyKvm.Pointer

open MyKvm.Lib MyKvm.Lib.Coordinate MyKvm.Layout

inductive Edge where
  | left
  | right
  | top
  | bottom
  deriving DecidableEq

/-- A screen of positive size.  `validate_layout_ipc` lets no other one be saved, but discovery takes over what a
peer says of its screens; a pointer on a screen without width ends its thread, in `clamp`, and is left out here. -/
def Sized (screen : Screen) : Prop := 0 < screen.width ∧ 0 < screen.height

instance (screen : Screen) : Decidable (Sized screen) := inferInstanceAs (Decidable (_ ∧ _))

/-- A layout all of whose screens have a size. -/
abbrev SizedLayout :=
  { layout : LayoutState // ∀ device ∈ layout.devices, ∀ screen ∈ device.screens, Sized screen }

/-- A remote screen next to a local one, which is given natively and as the layout has it. -/
structure InputTarget where
  deviceId : String
  targetAddr : String
  protocolVersion : UInt16
  screenId : String
  localScreen : Screen
  layoutLocalScreen : Screen
  remoteScreen : Screen
  edge : Edge
  sized : Sized remoteScreen
  deriving DecidableEq

/-- The pointer; `x` and `y` count from the corner of `currentScreen`. -/
structure ActiveTarget (F : Type) where
  target : InputTarget
  currentScreen : Screen
  currentScreenId : String
  x : F
  y : F
  deriving DecidableEq

variable {F : Type} [Coordinate F]

/-- The last coordinate of an axis. -/
def last (size : Int32) : F := ofInt32 (size - 1)

def zero : F := ofInt32 0

/-! ### Entering -/

def crossingMargin : F := ofInt32 1

def minCrossingDelta : F := ofInt32 1

def crossingAxisDominance : F := ofInt32 1 / ofInt32 2

def edgeTolerance : Int32 := 80

def crossingActivationBand : F := ofInt32 edgeTolerance * ofInt32 2

def returnEdgeInset : F := zero

def nativeToLayoutPoint (target : InputTarget) (x y : F) : F × F :=
  let native := target.localScreen
  let layout := target.layoutLocalScreen
  let ratioX := (x - ofInt32 native.x) / ofInt32 (max native.width 1)
  let ratioY := (y - ofInt32 native.y) / ofInt32 (max native.height 1)
  (ofInt32 layout.x + ratioX * ofInt32 (max layout.width 1),
    ofInt32 layout.y + ratioY * ofInt32 (max layout.height 1))

/-- The pointer is pushed over the edge, and was near it before. -/
def isCrossingScreen (screen : Screen) (edge : Edge) (x y dx dy : F) : Bool :=
  let left : F := ofInt32 screen.x
  let right : F := ofInt32 (screen.x + screen.width)
  let top : F := ofInt32 screen.y
  let bottom : F := ofInt32 (screen.y + screen.height)
  let previousX := x - dx
  let previousY := y - dy
  match edge with
  | .right => minCrossingDelta ≤ dx && abs dy * crossingAxisDominance ≤ abs dx &&
      right - crossingActivationBand ≤ previousX && right - crossingMargin ≤ x && top - crossingMargin ≤ y &&
      y ≤ bottom + crossingMargin
  | .left => dx ≤ -minCrossingDelta && abs dy * crossingAxisDominance ≤ abs dx &&
      previousX ≤ left + crossingActivationBand && x ≤ left + crossingMargin && top - crossingMargin ≤ y &&
      y ≤ bottom + crossingMargin
  | .bottom => minCrossingDelta ≤ dy && abs dx * crossingAxisDominance ≤ abs dy &&
      bottom - crossingActivationBand ≤ previousY && bottom - crossingMargin ≤ y && left - crossingMargin ≤ x &&
      x ≤ right + crossingMargin
  | .top => dy ≤ -minCrossingDelta && abs dx * crossingAxisDominance ≤ abs dy &&
      previousY ≤ top + crossingActivationBand && y ≤ top + crossingMargin && left - crossingMargin ≤ x &&
      x ≤ right + crossingMargin

/-- A native delta, in the layout. -/
def layoutDelta (delta : F) (layoutSize nativeSize : Int32) : F :=
  delta * ofInt32 (max layoutSize 1) / ofInt32 (max nativeSize 1)

def crossingLayoutPoint (target : InputTarget) (x y dx dy : F) : Option (F × F) :=
  if isCrossingScreen target.localScreen target.edge x y dx dy then some (nativeToLayoutPoint target x y) else
  let mapped := nativeToLayoutPoint target x y
  let mappedDx := layoutDelta dx target.layoutLocalScreen.width target.localScreen.width
  let mappedDy := layoutDelta dy target.layoutLocalScreen.height target.localScreen.height
  if isCrossingScreen target.layoutLocalScreen target.edge mapped.1 mapped.2 mappedDx mappedDy then
    some mapped
  else none

/-- The pointer on the screen it enters, which goes by its id on the wire. -/
def enter (target : InputTarget) (x y : F) : ActiveTarget F where
  target := target
  currentScreen := { target.remoteScreen with id := target.screenId }
  currentScreenId := target.screenId
  x := clamp x zero (last target.remoteScreen.width)
  y := clamp y zero (last target.remoteScreen.height)

/-- The pointer enters where the local one left: by the delta inside the edge, and along it at the same height. -/
def enterAt (target : InputTarget) (mapped : F × F) (dx dy : F) : ActiveTarget F :=
  let entryDx := layoutDelta dx target.layoutLocalScreen.width target.localScreen.width
  let entryDy := layoutDelta dy target.layoutLocalScreen.height target.localScreen.height
  let remote := target.remoteScreen
  let remoteX := match target.edge with
    | .right => ofInt32 1 + max entryDx zero
    | .left => ofInt32 (remote.width - 2) + min entryDx zero
    | _ => clamp (mapped.1 - ofInt32 remote.x) zero (last remote.width)
  let remoteY := match target.edge with
    | .bottom => ofInt32 1 + max entryDy zero
    | .top => ofInt32 (remote.height - 2) + min entryDy zero
    | _ => clamp (mapped.2 - ofInt32 remote.y) zero (last remote.height)
  enter target remoteX remoteY

def crossingTarget (targets : List InputTarget) (x y dx dy : F) : Option (ActiveTarget F) :=
  (targets.findSome? fun target => (crossingLayoutPoint target x y dx dy).map fun point => (target, point)).map
    fun (target, mapped) => enterAt target mapped dx dy

/-- The pointer enters in the middle. -/
def centeredActiveTarget (target : InputTarget) : ActiveTarget F :=
  enter target (ofInt32 target.remoteScreen.width / ofInt32 2) (ofInt32 target.remoteScreen.height / ofInt32 2)

/-! ### Moving -/

def pointInLocalBounds (screen : Screen) (x y : F) : Bool :=
  zero ≤ x && x ≤ last screen.width && zero ≤ y && y ≤ last screen.height

def pointInScreen (screen : Screen) (globalX globalY : F) : Bool :=
  ofInt32 screen.x ≤ globalX && globalX ≤ ofInt32 (screen.x + screen.width - 1) &&
    ofInt32 screen.y ≤ globalY && globalY ≤ ofInt32 (screen.y + screen.height - 1)

def exitedEntryEdge (edge : Edge) (screen : Screen) (x y dx dy : F) : Bool :=
  match edge with
  | .right => x ≤ zero && dx < zero
  | .left => last screen.width ≤ x && zero < dx
  | .bottom => y ≤ zero && dy < zero
  | .top => last screen.height ≤ y && zero < dy

namespace ActiveTarget

variable (active : ActiveTarget F)

/-- `accumulate_remote_delta` -/
def accumulate (dx dy : F) : ActiveTarget F := { active with x := active.x + dx, y := active.y + dy }

def clamped : ActiveTarget F :=
  { active with
    x := clamp active.x zero (last active.currentScreen.width)
    y := clamp active.y zero (last active.currentScreen.height) }

def pinToEntryEdge : ActiveTarget F :=
  let active := active.clamped
  match active.target.edge with
  | .right => { active with x := zero }
  | .left => { active with x := last active.currentScreen.width }
  | .bottom => { active with y := zero }
  | .top => { active with y := last active.currentScreen.height }

/-- The position in the layout which the screens of the remote machine share. -/
def globalPoint : F × F := (ofInt32 active.currentScreen.x + active.x, ofInt32 active.currentScreen.y + active.y)

/-- Another screen of the machine which holds the pointer, once that has left its own one. -/
def neighbor (layout : LayoutState) : Option Screen :=
  if pointInLocalBounds active.currentScreen active.x active.y then none else
  (remoteDeviceScreens layout active.target.deviceId).find? fun screen =>
    screen.id ≠ active.currentScreenId && pointInScreen screen active.globalPoint.1 active.globalPoint.2

def roamTo (screen : Screen) : ActiveTarget F :=
  { active with
    x := active.globalPoint.1 - ofInt32 screen.x
    y := active.globalPoint.2 - ofInt32 screen.y
    currentScreenId := screen.id
    currentScreen := screen }

end ActiveTarget

/-- True when the pointer goes back to the local machine. -/
def updateActiveRemoteScreen (active : ActiveTarget F) (dx dy : F) (layout : LayoutState) :
    Bool × ActiveTarget F :=
  if pointInLocalBounds active.currentScreen active.x active.y then (false, active) else
  match active.neighbor layout with
  | some screen => (false, active.roamTo screen)
  | none =>
    if active.currentScreenId = active.target.screenId &&
        exitedEntryEdge active.target.edge active.currentScreen active.x active.y dx dy then
      (true, active.pinToEntryEdge)
    else (false, active)

/-- Where the local pointer is kept, and comes back to. -/
def localReturnPoint (active : ActiveTarget F) : F × F :=
  let localScreen := active.target.localScreen
  let layoutLocal := active.target.layoutLocalScreen
  let remote := active.target.remoteScreen
  let globalX := ofInt32 remote.x + active.x
  let globalY := ofInt32 remote.y + active.y
  let ratioX := (globalX - ofInt32 layoutLocal.x) / ofInt32 (max layoutLocal.width 1)
  let ratioY := (globalY - ofInt32 layoutLocal.y) / ofInt32 (max layoutLocal.height 1)
  let nativeX := ofInt32 localScreen.x + ratioX * ofInt32 (max localScreen.width 1)
  let nativeY := ofInt32 localScreen.y + ratioY * ofInt32 (max localScreen.height 1)
  let inset := min returnEdgeInset (ofInt32 (max localScreen.width 1 - 1) / ofInt32 2)
  let insetV := min returnEdgeInset (ofInt32 (max localScreen.height 1 - 1) / ofInt32 2)
  match active.target.edge with
  | .right => (ofInt32 (localScreen.x + localScreen.width - 1) - inset,
      clamp nativeY (ofInt32 localScreen.y) (ofInt32 (localScreen.y + localScreen.height - 1)))
  | .left => (ofInt32 localScreen.x + inset,
      clamp nativeY (ofInt32 localScreen.y) (ofInt32 (localScreen.y + localScreen.height - 1)))
  | .bottom => (clamp nativeX (ofInt32 localScreen.x) (ofInt32 (localScreen.x + localScreen.width - 1)),
      ofInt32 (localScreen.y + localScreen.height - 1) - insetV)
  | .top => (clamp nativeX (ofInt32 localScreen.x) (ofInt32 (localScreen.x + localScreen.width - 1)),
      ofInt32 localScreen.y + insetV)

/-- `local_anchor_point` -/
def localAnchorPoint (active : ActiveTarget F) : F × F := localReturnPoint active

/-! ### On its screen -/

theorem pred_toInt {size : Int32} (h : 0 < size) : (size - 1).toInt = size.toInt - 1 := by
  have hpos : 0 < size.toInt := Int32.lt_iff_toInt_lt.mp h
  have hlt := size.toInt_lt
  rw [Int32.toInt_sub, show (1 : Int32).toInt = 1 from rfl]
  exact Int.bmod_eq_of_le (by omega) (by omega)

/-- An axis with a size has a first and a last coordinate. -/
theorem zero_le_last {size : Int32} (h : 0 < size) : (zero : F) ≤ last size := by
  refine ofInt32_le.mpr ?_
  have hpos : 0 < size.toInt := Int32.lt_iff_toInt_lt.mp h
  rw [Int32.le_iff_toInt_le, pred_toInt h, show (0 : Int32).toInt = 0 from rfl]
  omega

/-- A coordinate inside is told as a pixel of the axis. -/
theorem round_inside {size : Int32} (h : 0 < size) {x : F} (hx : zero ≤ x ∧ x ≤ last size) :
    0 ≤ round x ∧ round x < size := by
  obtain ⟨hlow, hhigh⟩ := round_mem hx
  refine ⟨hlow, ?_⟩
  rw [Int32.le_iff_toInt_le, pred_toInt h] at hhigh
  rw [Int32.lt_iff_toInt_lt]
  omega

theorem pointInLocalBounds_eq_true {screen : Screen} {x y : F} :
    pointInLocalBounds screen x y = true ↔
      (zero ≤ x ∧ x ≤ last screen.width) ∧ zero ≤ y ∧ y ≤ last screen.height := by
  simp [pointInLocalBounds, and_assoc]

/-- A pixel of the screen. -/
def Contains (screen : Screen) (x y : Int32) : Prop := (0 ≤ x ∧ x < screen.width) ∧ 0 ≤ y ∧ y < screen.height

/-- The pointer is on its screen, which has a size and goes by the pointer's id for it. -/
structure Placed (active : ActiveTarget F) : Prop where
  sized : Sized active.currentScreen
  named : active.currentScreen.id = active.currentScreenId
  inside : pointInLocalBounds active.currentScreen active.x active.y = true

theorem Placed.contains {active : ActiveTarget F} (h : Placed active) :
    Contains active.currentScreen (round active.x) (round active.y) := by
  obtain ⟨hx, hy⟩ := pointInLocalBounds_eq_true.mp h.inside
  exact ⟨round_inside h.sized.1 hx, round_inside h.sized.2 hy⟩

theorem enter_placed (target : InputTarget) (x y : F) : Placed (enter target x y) :=
  ⟨target.sized, rfl, pointInLocalBounds_eq_true.mpr
    ⟨clamp_mem (zero_le_last target.sized.1) x, clamp_mem (zero_le_last target.sized.2) y⟩⟩

theorem crossingTarget_placed {targets : List InputTarget} {x y dx dy : F} {active : ActiveTarget F}
    (h : crossingTarget targets x y dx dy = some active) : Placed active := by
  obtain ⟨⟨target, mapped⟩, -, rfl⟩ := Option.map_eq_some_iff.mp h
  exact enter_placed target _ _

theorem ActiveTarget.clamped_placed {active : ActiveTarget F} (hsized : Sized active.currentScreen)
    (hnamed : active.currentScreen.id = active.currentScreenId) : Placed active.clamped :=
  ⟨hsized, hnamed, pointInLocalBounds_eq_true.mpr
    ⟨clamp_mem (zero_le_last hsized.1) active.x, clamp_mem (zero_le_last hsized.2) active.y⟩⟩

theorem ActiveTarget.pinToEntryEdge_placed {active : ActiveTarget F} (hsized : Sized active.currentScreen)
    (hnamed : active.currentScreen.id = active.currentScreenId) : Placed active.pinToEntryEdge := by
  obtain ⟨-, -, hinside⟩ := clamped_placed hsized hnamed
  obtain ⟨hx, hy⟩ := pointInLocalBounds_eq_true.mp hinside
  have hwidth := zero_le_last (F := F) hsized.1
  have hheight := zero_le_last (F := F) hsized.2
  unfold pinToEntryEdge
  dsimp only
  split
  · exact ⟨hsized, hnamed, pointInLocalBounds_eq_true.mpr ⟨⟨le_refl _, hwidth⟩, hy⟩⟩
  · exact ⟨hsized, hnamed, pointInLocalBounds_eq_true.mpr ⟨⟨hwidth, le_refl _⟩, hy⟩⟩
  · exact ⟨hsized, hnamed, pointInLocalBounds_eq_true.mpr ⟨hx, le_refl _, hheight⟩⟩
  · exact ⟨hsized, hnamed, pointInLocalBounds_eq_true.mpr ⟨hx, hheight, le_refl _⟩⟩

theorem remoteDeviceScreens_sized (layout : SizedLayout) {deviceId : String} {screen : Screen}
    (h : screen ∈ remoteDeviceScreens layout deviceId) : Sized screen := by
  unfold remoteDeviceScreens at h
  split at h
  · rename_i device hdevice
    obtain ⟨listed, hlisted, rfl⟩ := List.mem_map.mp h
    exact layout.2 device (List.mem_of_find?_eq_some hdevice) listed hlisted
  · simp at h

/-- **What an update does**: the pointer stays on its screen, or goes to a neighbor. -/
theorem update_cases (active : ActiveTarget F) (dx dy : F) (layout : LayoutState) :
    ((active.neighbor layout = none ∧
      (updateActiveRemoteScreen active dx dy layout).2.currentScreen = active.currentScreen ∧
      (updateActiveRemoteScreen active dx dy layout).2.currentScreenId = active.currentScreenId) ∨
    ∃ screen, active.neighbor layout = some screen ∧
      updateActiveRemoteScreen active dx dy layout = (false, active.roamTo screen)) := by
  unfold updateActiveRemoteScreen
  by_cases hinside : pointInLocalBounds active.currentScreen active.x active.y = true
  · rw [if_pos hinside]
    exact Or.inl ⟨if_pos hinside, rfl, rfl⟩
  rw [if_neg hinside]
  cases hneighbor : active.neighbor layout with
  | some screen => exact Or.inr ⟨screen, rfl, rfl⟩
  | none =>
    refine Or.inl ⟨rfl, ?_⟩
    dsimp only
    split
    · unfold ActiveTarget.pinToEntryEdge
      dsimp only
      split <;> exact ⟨rfl, rfl⟩
    · exact ⟨rfl, rfl⟩

/-- The pointer goes back from the edge at which it entered. -/
theorem update_returns {active pinned : ActiveTarget F} {dx dy : F} {layout : LayoutState}
    (h : updateActiveRemoteScreen active dx dy layout = (true, pinned)) : pinned = active.pinToEntryEdge := by
  unfold updateActiveRemoteScreen at h
  split at h
  · cases h
  split at h
  · cases h
  split at h
  · exact (Prod.mk.inj h).2.symm
  · cases h

/-- Wherever an update takes the pointer, it is on its screen once it is clamped. -/
theorem update_placed {active : ActiveTarget F} (hsized : Sized active.currentScreen)
    (hnamed : active.currentScreen.id = active.currentScreenId) (dx dy : F) (layout : SizedLayout) :
    Placed (updateActiveRemoteScreen active dx dy layout).2.clamped := by
  rcases update_cases active dx dy layout with ⟨-, hscreen, hid⟩ | ⟨screen, hneighbor, heq⟩
  · refine ActiveTarget.clamped_placed ?_ ?_
    · rwa [hscreen]
    · rw [hscreen, hid, hnamed]
  · rw [heq]
    have hmem : screen ∈ remoteDeviceScreens layout active.target.deviceId := by
      unfold ActiveTarget.neighbor at hneighbor
      split at hneighbor
      · cases hneighbor
      · exact List.mem_of_find?_eq_some hneighbor
    have hplaced : Placed (active.roamTo screen).clamped :=
      ActiveTarget.clamped_placed (remoteDeviceScreens_sized layout hmem) rfl
    exact hplaced

end MyKvm.Pointer
