import MyKvm.Pointer.Geometry

/-!
# MyKvm.Pointer.Checked — the pointer, with every step reported

The functions of the pointer once more: a step which overflows has no answer, and neither has a clamp between
bounds which are the wrong way round.  A target is what the layout made it, with a size or without.

* `Usable`: the screens of a target have sizes and end within the words.
* `enterAtChecked_eq`, `centeredChecked_eq`, `updateChecked_eq`, `localReturnPointChecked_eq`: for these every
  function has an answer, and it is the one of the function which does not report.
-/

namespace MyKvm.Pointer.Checked

open MyKvm.Lib MyKvm.Lib.Coordinate MyKvm.Layout

/-- A remote screen next to a local one. -/
structure InputTarget where
  deviceId : String
  targetAddr : String
  protocolVersion : UInt16
  screenId : String
  localScreen : Screen
  layoutLocalScreen : Screen
  remoteScreen : Screen
  edge : Edge
  deriving DecidableEq

structure ActiveTarget (F : Type) where
  target : InputTarget
  currentScreen : Screen
  currentScreenId : String
  x : F
  y : F
  deriving DecidableEq

variable {F : Type} [Coordinate F]

/-! ### Steps -/

/-- `f64::clamp` panics without an interval. -/
def clampChecked (x lo hi : F) : Option F := if lo ≤ hi then some (clamp x lo hi) else none

/-- `size - 1` -/
def lastChecked (size : Int32) : Option F := (sub32 size 1).map ofInt32

/-- `x.clamp(0.0, (size - 1) as f64)` -/
def clampAxisChecked (x : F) (size : Int32) : Option F := do clampChecked x zero (← lastChecked size)

/-- `start + size - 1` -/
def endChecked (start size : Int32) : Option F := do
  let last ← sub32 (← add32 start size) 1
  return ofInt32 last

/-! ### Entering -/

def nativeToLayoutPoint (target : InputTarget) (x y : F) : F × F :=
  let native := target.localScreen
  let layout := target.layoutLocalScreen
  let ratioX := (x - ofInt32 native.x) / ofInt32 (max native.width 1)
  let ratioY := (y - ofInt32 native.y) / ofInt32 (max native.height 1)
  (ofInt32 layout.x + ratioX * ofInt32 (max layout.width 1),
    ofInt32 layout.y + ratioY * ofInt32 (max layout.height 1))

/-- The far edges are computed first, whatever the edge is. -/
def isCrossingScreenChecked (screen : Screen) (edge : Edge) (x y dx dy : F) : Option Bool := do
  let _ ← add32 screen.x screen.width
  let _ ← add32 screen.y screen.height
  return isCrossingScreen screen edge x y dx dy

def crossingLayoutPointChecked (target : InputTarget) (x y dx dy : F) : Option (Option (F × F)) := do
  if ← isCrossingScreenChecked target.localScreen target.edge x y dx dy then
    return some (nativeToLayoutPoint target x y)
  let mapped := nativeToLayoutPoint target x y
  let mappedDx := layoutDelta dx target.layoutLocalScreen.width target.localScreen.width
  let mappedDy := layoutDelta dy target.layoutLocalScreen.height target.localScreen.height
  if ← isCrossingScreenChecked target.layoutLocalScreen target.edge mapped.1 mapped.2 mappedDx mappedDy then
    return some mapped
  return none

/-- The pointer on the screen it enters, which goes by its id on the wire. -/
def enterChecked (target : InputTarget) (x y : F) : Option (ActiveTarget F) := do
  let x ← clampAxisChecked x target.remoteScreen.width
  let y ← clampAxisChecked y target.remoteScreen.height
  return { target, currentScreen := { target.remoteScreen with id := target.screenId },
           currentScreenId := target.screenId, x, y }

def enterAtChecked (target : InputTarget) (mapped : F × F) (dx dy : F) : Option (ActiveTarget F) := do
  let entryDx := layoutDelta dx target.layoutLocalScreen.width target.localScreen.width
  let entryDy := layoutDelta dy target.layoutLocalScreen.height target.localScreen.height
  let remote := target.remoteScreen
  let remoteX ← match target.edge with
    | .right => some (ofInt32 1 + max entryDx zero)
    | .left => (sub32 remote.width 2).map fun inner => ofInt32 inner + min entryDx zero
    | _ => clampAxisChecked (mapped.1 - ofInt32 remote.x) remote.width
  let remoteY ← match target.edge with
    | .bottom => some (ofInt32 1 + max entryDy zero)
    | .top => (sub32 remote.height 2).map fun inner => ofInt32 inner + min entryDy zero
    | _ => clampAxisChecked (mapped.2 - ofInt32 remote.y) remote.height
  enterChecked target remoteX remoteY

/-- `crossing_target_with_transform` -/
def crossingTargetChecked (targets : List InputTarget) (x y dx dy : F) : Option (Option (ActiveTarget F)) := do
  let crossed ← targets.findSomeM? fun target => do
    let point ← crossingLayoutPointChecked target x y dx dy
    return point.map fun mapped => (target, mapped)
  match crossed with
  | some (target, mapped) => (enterAtChecked target mapped dx dy).map some
  | none => some none

def centeredActiveTargetChecked (target : InputTarget) : Option (ActiveTarget F) :=
  enterChecked target (ofInt32 target.remoteScreen.width / ofInt32 2)
    (ofInt32 target.remoteScreen.height / ofInt32 2)

/-- `local_y_bounds` -/
def localYBoundsChecked (targets : List InputTarget) : Option (Option (F × F)) := do
  let bottoms ← targets.mapM fun target => add32 target.localScreen.y target.localScreen.height
  match (targets.map (·.localScreen.y)).min?, bottoms.max? with
  | some minY, some maxY => return some (ofInt32 minY, ofInt32 maxY)
  | _, _ => return none

/-- `mac_crossing_target`: where nothing is crossed, the point is tried upside down. -/
def macCrossingTargetChecked (startBounds : Option (F × F)) (targets : List InputTarget) (x y dx dy : F) :
    Option (Option (ActiveTarget F)) := do
  match ← crossingTargetChecked targets x y dx dy with
  | some active => return some active
  | none =>
    match (← localYBoundsChecked targets).or startBounds with
    | none => return none
    | some (minY, maxY) =>
      let flippedY := minY + maxY - y
      if abs (flippedY - y) < ofInt32 1 / ofInt32 2 then return none
      crossingTargetChecked targets x flippedY dx (-dy)

/-! ### Moving -/

def pointInLocalBoundsChecked (screen : Screen) (x y : F) : Option Bool :=
  andAlso (some (zero ≤ x)) <| andAlso ((lastChecked screen.width).map fun last => x ≤ last) <|
    andAlso (some (zero ≤ y)) ((lastChecked screen.height).map fun last => y ≤ last)

def pointInScreenChecked (screen : Screen) (globalX globalY : F) : Option Bool :=
  andAlso (some (ofInt32 screen.x ≤ globalX)) <|
  andAlso ((endChecked screen.x screen.width).map fun last => globalX ≤ last) <|
  andAlso (some (ofInt32 screen.y ≤ globalY))
    ((endChecked screen.y screen.height).map fun last => globalY ≤ last)

def exitedEntryEdgeChecked (edge : Edge) (screen : Screen) (x y dx dy : F) : Option Bool :=
  match edge with
  | .right => some (x ≤ zero && dx < zero)
  | .left => andAlso ((lastChecked screen.width).map fun last => last ≤ x) (some (zero < dx))
  | .bottom => some (y ≤ zero && dy < zero)
  | .top => andAlso ((lastChecked screen.height).map fun last => last ≤ y) (some (zero < dy))

namespace ActiveTarget

variable (active : ActiveTarget F)

def accumulate (dx dy : F) : ActiveTarget F := { active with x := active.x + dx, y := active.y + dy }

def clampedChecked : Option (ActiveTarget F) := do
  let x ← clampAxisChecked active.x active.currentScreen.width
  let y ← clampAxisChecked active.y active.currentScreen.height
  return { active with x, y }

/-- `pin_active_to_entry_edge` -/
def pinToEntryEdgeChecked : Option (ActiveTarget F) := do
  let active ← active.clampedChecked
  match active.target.edge with
  | .right => return { active with x := zero }
  | .left => return { active with x := ← lastChecked active.currentScreen.width }
  | .bottom => return { active with y := zero }
  | .top => return { active with y := ← lastChecked active.currentScreen.height }

def globalPoint : F × F := (ofInt32 active.currentScreen.x + active.x, ofInt32 active.currentScreen.y + active.y)

def roamTo (screen : Screen) : ActiveTarget F :=
  { active with
    x := active.globalPoint.1 - ofInt32 screen.x
    y := active.globalPoint.2 - ofInt32 screen.y
    currentScreenId := screen.id
    currentScreen := screen }

end ActiveTarget

/-- `update_active_remote_screen`, with the layout as it is now. -/
def updateActiveRemoteScreenChecked (active : ActiveTarget F) (dx dy : F) (layout : LayoutState) :
    Option (Bool × ActiveTarget F) := do
  if ← pointInLocalBoundsChecked active.currentScreen active.x active.y then return (false, active)
  let neighbor ← (remoteDeviceScreens layout active.target.deviceId).findM? fun screen =>
    andAlso (some (screen.id ≠ active.currentScreen.id))
      (pointInScreenChecked screen active.globalPoint.1 active.globalPoint.2)
  match neighbor with
  | some screen => return (false, active.roamTo screen)
  | none =>
    let returned ← andAlso (some (active.currentScreenId = active.target.screenId))
      (exitedEntryEdgeChecked active.target.edge active.currentScreen active.x active.y dx dy)
    if returned then return (true, ← active.pinToEntryEdgeChecked)
    return (false, active)

def localReturnPointChecked (active : ActiveTarget F) : Option (F × F) := do
  let localScreen := active.target.localScreen
  let layoutLocal := active.target.layoutLocalScreen
  let remote := active.target.remoteScreen
  let globalX := ofInt32 remote.x + active.x
  let globalY := ofInt32 remote.y + active.y
  let ratioX := (globalX - ofInt32 layoutLocal.x) / ofInt32 (max layoutLocal.width 1)
  let ratioY := (globalY - ofInt32 layoutLocal.y) / ofInt32 (max layoutLocal.height 1)
  let nativeX := ofInt32 localScreen.x + ratioX * ofInt32 (max localScreen.width 1)
  let nativeY := ofInt32 localScreen.y + ratioY * ofInt32 (max localScreen.height 1)
  let inset := min returnEdgeInset ((← lastChecked (max localScreen.width 1)) / ofInt32 2)
  let insetV := min returnEdgeInset ((← lastChecked (max localScreen.height 1)) / ofInt32 2)
  match active.target.edge with
  | .right => return ((← endChecked localScreen.x localScreen.width) - inset,
      ← clampChecked nativeY (ofInt32 localScreen.y) (← endChecked localScreen.y localScreen.height))
  | .left => return (ofInt32 localScreen.x + inset,
      ← clampChecked nativeY (ofInt32 localScreen.y) (← endChecked localScreen.y localScreen.height))
  | .bottom =>
      return (← clampChecked nativeX (ofInt32 localScreen.x) (← endChecked localScreen.x localScreen.width),
      (← endChecked localScreen.y localScreen.height) - insetV)
  | .top => return (← clampChecked nativeX (ofInt32 localScreen.x) (← endChecked localScreen.x localScreen.width),
      ofInt32 localScreen.y + insetV)

/-- `screen_center_point`, and `local_center_point` of the local screen. -/
def screenCenterPointChecked (screen : Screen) : Option (F × F) := do
  let lastX ← sub32 screen.width 1
  let lastY ← sub32 screen.height 1
  let x ← clampChecked (ofInt32 screen.width / ofInt32 2) zero (ofInt32 (max lastX 0))
  let y ← clampChecked (ofInt32 screen.height / ofInt32 2) zero (ofInt32 (max lastY 0))
  return (ofInt32 screen.x + x, ofInt32 screen.y + y)

/-! ### The two kinds of targets -/

/-- A target with a size is one. -/
def forgetTarget (target : Pointer.InputTarget) : InputTarget where
  deviceId := target.deviceId
  targetAddr := target.targetAddr
  protocolVersion := target.protocolVersion
  screenId := target.screenId
  localScreen := target.localScreen
  layoutLocalScreen := target.layoutLocalScreen
  remoteScreen := target.remoteScreen
  edge := target.edge

def forget (active : Pointer.ActiveTarget F) : ActiveTarget F where
  target := forgetTarget active.target
  currentScreen := active.currentScreen
  currentScreenId := active.currentScreenId
  x := active.x
  y := active.y

/-- The screens have sizes and end within the words. -/
structure Usable (target : InputTarget) : Prop where
  localScreen : (box target.localScreen).Bounded
  layoutLocalScreen : (box target.layoutLocalScreen).Bounded
  remoteScreen : (box target.remoteScreen).Bounded

theorem sized_of_bounded {screen : Screen} (h : (box screen).Bounded) : Sized screen := by
  have hwidth : 1 ≤ screen.width.toInt := h.width
  have hheight : 1 ≤ screen.height.toInt := h.height
  have hzero : (0 : Int32).toInt = 0 := rfl
  refine ⟨Int32.lt_iff_toInt_lt.mpr ?_, Int32.lt_iff_toInt_lt.mpr ?_⟩ <;> omega

theorem Usable.exists_target {target : InputTarget} (h : Usable target) :
    ∃ sized : Pointer.InputTarget, forgetTarget sized = target :=
  ⟨⟨target.deviceId, target.targetAddr, target.protocolVersion, target.screenId, target.localScreen,
    target.layoutLocalScreen, target.remoteScreen, target.edge, sized_of_bounded h.remoteScreen⟩, rfl⟩

omit [Coordinate F] in
theorem Usable.exists_active {active : ActiveTarget F} (h : Usable active.target) :
    ∃ sized : Pointer.ActiveTarget F, forget sized = active := by
  obtain ⟨target, htarget⟩ := h.exists_target
  exact ⟨⟨target, active.currentScreen, active.currentScreenId, active.x,
    active.y⟩, by unfold forget; rw [htarget]⟩

/-! ### No step overflows -/

section Steps

variable {size start : Int32}

theorem clampChecked_eq {lo hi : F} (h : lo ≤ hi) (x : F) : clampChecked x lo hi = some (clamp x lo hi) := if_pos h

theorem sub_one_eq (h : 1 ≤ size.toInt) : sub32 size 1 = some (size - 1) := by
  have hone : (1 : Int32).toInt = 1 := rfl
  have hhigh := size.toInt_lt
  exact sub32_eq (by omega) (by omega)

theorem sub_two_eq (h : 1 ≤ size.toInt) : sub32 size 2 = some (size - 2) := by
  have htwo : (2 : Int32).toInt = 2 := rfl
  have hhigh := size.toInt_lt
  exact sub32_eq (by omega) (by omega)

theorem lastChecked_eq (h : 1 ≤ size.toInt) : lastChecked size = some (last size : F) := by
  unfold lastChecked
  rw [sub_one_eq h]
  rfl

theorem endChecked_eq (h : 1 ≤ size.toInt) (hends : start.toInt + size.toInt < 2 ^ 31) :
    endChecked start size = some (ofInt32 (start + size - 1) : F) := by
  have hlow := start.le_toInt
  have hsum : add32 start size = some (start + size) := add32_eq (by omega) hends
  have hvalue : (start + size).toInt = start.toInt + size.toInt := fit32_eq_some.mp hsum
  have hone : (1 : Int32).toInt = 1 := rfl
  unfold endChecked
  rw [hsum, Option.bind_eq_bind, Option.bind_some, sub32_eq (by omega) (by omega), Option.bind_some]
  rfl

/-- The last coordinate is not before the first one. -/
theorem start_le_end (h : 1 ≤ size.toInt) (hends : start.toInt + size.toInt < 2 ^ 31) :
    (ofInt32 start : F) ≤ ofInt32 (start + size - 1) := by
  have hlow := start.le_toInt
  have hsum : (start + size).toInt = start.toInt + size.toInt := fit32_eq_some.mp (add32_eq (by omega) hends)
  have hone : (1 : Int32).toInt = 1 := rfl
  have hend : (start + size - 1).toInt = (start + size).toInt - (1 : Int32).toInt :=
    sub32_eq_some.mp (sub32_eq (by omega) (by omega))
  refine ofInt32_le.mpr ?_
  rw [Int32.le_iff_toInt_le]
  omega

theorem clampAxisChecked_eq (h : 1 ≤ size.toInt) (x : F) :
    clampAxisChecked x size = some (clamp x zero (last size)) := by
  have hzero : (0 : Int32).toInt = 0 := rfl
  unfold clampAxisChecked
  rw [lastChecked_eq h, Option.bind_eq_bind, Option.bind_some]
  exact clampChecked_eq (zero_le_last (Int32.lt_iff_toInt_lt.mpr (by omega))) x

/-- **What can be clamped**: a coordinate of an axis with a size. -/
theorem clampAxisChecked_isSome_iff {x : F} : (clampAxisChecked x size).isSome ↔ 1 ≤ size.toInt := by
  refine ⟨fun hsome => ?_, fun h => by rw [clampAxisChecked_eq h, Option.isSome_some]⟩
  unfold clampAxisChecked lastChecked at hsome
  cases hlast : sub32 size 1 with
  | none =>
    rw [hlast] at hsome
    cases hsome
  | some last =>
    have hzero : (0 : Int32).toInt = 0 := rfl
    have hone : (1 : Int32).toInt = 1 := rfl
    rw [hlast, Option.map_some, Option.bind_eq_bind, Option.bind_some] at hsome
    rw [sub32_eq_some] at hlast
    by_cases hle : (zero : F) ≤ ofInt32 last
    · have hle' := Int32.le_iff_toInt_le.mp (ofInt32_le.mp hle)
      omega
    · unfold clampChecked at hsome
      rw [if_neg hle] at hsome
      cases hsome

end Steps

section Screens

variable {screen : Screen} (h : (box screen).Bounded)
include h

theorem isCrossingScreenChecked_eq (edge : Edge) (x y dx dy : F) :
    isCrossingScreenChecked screen edge x y dx dy = some (isCrossingScreen screen edge x y dx dy) := by
  obtain ⟨right, hright, -⟩ := add_width h
  obtain ⟨bottom, hbottom, -⟩ := add_height h
  unfold isCrossingScreenChecked
  rw [hright, hbottom, Option.bind_eq_bind, Option.bind_some, Option.bind_some]
  rfl

theorem pointInLocalBoundsChecked_eq (x y : F) :
    pointInLocalBoundsChecked screen x y = some (pointInLocalBounds screen x y) := by
  unfold pointInLocalBoundsChecked pointInLocalBounds
  rw [lastChecked_eq h.width, lastChecked_eq h.height, Option.map_some, Option.map_some,
    andAlso_some, andAlso_some, andAlso_some, Bool.and_assoc, Bool.and_assoc]

theorem pointInScreenChecked_eq (x y : F) : pointInScreenChecked screen x y = some (pointInScreen screen x y) := by
  unfold pointInScreenChecked pointInScreen
  rw [endChecked_eq h.width h.right, endChecked_eq h.height h.bottom, Option.map_some,
    Option.map_some, andAlso_some, andAlso_some, andAlso_some, Bool.and_assoc, Bool.and_assoc]

theorem exitedEntryEdgeChecked_eq (edge : Edge) (x y dx dy : F) :
    exitedEntryEdgeChecked edge screen x y dx dy = some (exitedEntryEdge edge screen x y dx dy) := by
  cases edge with
  | right => rfl
  | left =>
    unfold exitedEntryEdgeChecked exitedEntryEdge
    rw [lastChecked_eq h.width, Option.map_some, andAlso_some]
  | bottom => rfl
  | top =>
    unfold exitedEntryEdgeChecked exitedEntryEdge
    rw [lastChecked_eq h.height, Option.map_some, andAlso_some]

end Screens

/-- **What can be entered**: a screen with a size. -/
theorem enterChecked_isSome_iff (target : InputTarget) (x y : F) :
    (enterChecked target x y).isSome ↔
      1 ≤ target.remoteScreen.width.toInt ∧ 1 ≤ target.remoteScreen.height.toInt := by
  rw [← clampAxisChecked_isSome_iff (x := x), ← clampAxisChecked_isSome_iff (x := y)]
  unfold enterChecked
  cases clampAxisChecked x target.remoteScreen.width <;> cases clampAxisChecked y
    target.remoteScreen.height <;> simp

section Targets

variable {target : Pointer.InputTarget} (h : Usable (forgetTarget target))
include h

theorem crossingLayoutPointChecked_eq (x y dx dy : F) :
    crossingLayoutPointChecked (forgetTarget target) x y dx dy = some (crossingLayoutPoint target x y dx dy) := by
  have hlocal := isCrossingScreenChecked_eq h.localScreen target.edge x y dx dy
  have hlayout := isCrossingScreenChecked_eq (F := F) h.layoutLocalScreen target.edge
  have hmapped : nativeToLayoutPoint (forgetTarget target) x y = Pointer.nativeToLayoutPoint target x y := rfl
  unfold crossingLayoutPointChecked crossingLayoutPoint
  rw [hmapped]
  dsimp only [forgetTarget] at hlocal hlayout ⊢
  rw [hlocal, Option.bind_eq_bind, Option.bind_some]
  by_cases hcrosses : isCrossingScreen target.localScreen target.edge x y dx dy = true
  · rw [if_pos hcrosses, if_pos hcrosses]
    rfl
  · rw [if_neg hcrosses, if_neg hcrosses, hlayout, Option.bind_some]
    exact (apply_ite some _ _ _).symm

theorem enterChecked_eq (x y : F) : enterChecked (forgetTarget target) x y = some (forget (enter target x y)) := by
  have hwidth := clampAxisChecked_eq h.remoteScreen.width x
  have hheight := clampAxisChecked_eq h.remoteScreen.height y
  unfold enterChecked
  rw [hwidth, hheight, Option.bind_eq_bind, Option.bind_some, Option.bind_some]
  rfl

theorem enterAtChecked_eq (mapped : F × F) (dx dy : F) :
    enterAtChecked (forgetTarget target) mapped dx dy = some (forget (enterAt target mapped dx dy)) := by
  have hx := clampAxisChecked_eq h.remoteScreen.width (mapped.1 - ofInt32 target.remoteScreen.x)
  have hy := clampAxisChecked_eq h.remoteScreen.height (mapped.2 - ofInt32 target.remoteScreen.y)
  have hinnerX := sub_two_eq h.remoteScreen.width
  have hinnerY := sub_two_eq h.remoteScreen.height
  obtain ⟨deviceId, targetAddr, protocolVersion, screenId, localScreen, layoutLocalScreen, remoteScreen,
    edge, sized⟩ :=
    target
  unfold enterAtChecked enterAt
  dsimp only [forgetTarget] at hx hy hinnerX hinnerY ⊢
  rw [hx, hy, hinnerX, hinnerY, Option.map_some, Option.map_some]
  cases edge <;> dsimp only <;> rw [Option.bind_eq_bind, Option.bind_some, Option.bind_some] <;>
    exact enterChecked_eq h _ _

theorem centeredChecked_eq :
    centeredActiveTargetChecked (F := F) (forgetTarget target) = some (forget (centeredActiveTarget target)) :=
  enterChecked_eq h _ _

end Targets

/-- **Crossing**: nothing overflows, and it is the first target which is crossed. -/
theorem crossingTargetChecked_eq {targets : List Pointer.InputTarget}
    (h : ∀ target ∈ targets, Usable (forgetTarget target)) (x y dx dy : F) :
    crossingTargetChecked (targets.map forgetTarget) x y dx dy =
      some ((crossingTarget targets x y dx dy).map forget) := by
  unfold crossingTargetChecked crossingTarget
  induction targets with
  | nil => rfl
  | cons target targets ih =>
    obtain ⟨htarget, hrest⟩ := List.forall_mem_cons.mp h
    have hpoint := crossingLayoutPointChecked_eq htarget x y dx dy
    rw [List.map_cons, List.findSomeM?_cons, List.findSome?_cons, hpoint]
    cases hcrossed : crossingLayoutPoint target x y dx dy with
    | none => exact ih hrest
    | some mapped =>
      have hentered := enterAtChecked_eq htarget mapped dx dy
      show (enterAtChecked (forgetTarget target) mapped dx dy).map some = _
      rw [hentered]
      rfl

section Moving

variable {active : Pointer.ActiveTarget F}

theorem clampedChecked_eq (h : (box active.currentScreen).Bounded) :
    (forget active).clampedChecked = some (forget active.clamped) := by
  have hx := clampAxisChecked_eq h.width active.x
  have hy := clampAxisChecked_eq h.height active.y
  unfold ActiveTarget.clampedChecked
  dsimp only [forget] at hx hy ⊢
  rw [hx, hy, Option.bind_eq_bind, Option.bind_some, Option.bind_some]
  rfl

theorem pinToEntryEdgeChecked_eq (h : (box active.currentScreen).Bounded) :
    (forget active).pinToEntryEdgeChecked = some (forget active.pinToEntryEdge) := by
  have hlastX := lastChecked_eq (F := F) h.width
  have hlastY := lastChecked_eq (F := F) h.height
  obtain ⟨⟨deviceId, targetAddr, protocolVersion, screenId, localScreen, layoutLocalScreen,
    remoteScreen, edge, sized⟩, currentScreen, currentScreenId, x, y⟩ := active
  unfold ActiveTarget.pinToEntryEdgeChecked ActiveTarget.pinToEntryEdge
  dsimp only at hlastX hlastY
  rw [clampedChecked_eq h, Option.bind_eq_bind, Option.bind_some]
  cases edge <;> dsimp only [forget, forgetTarget, Pointer.ActiveTarget.clamped]
  · rw [hlastX]
    rfl
  · rfl
  · rw [hlastY]
    rfl
  · rfl

/-- **Roaming**: nothing overflows on bounded screens. -/
theorem updateChecked_eq (hcurrent : (box active.currentScreen).Bounded)
    (hnamed : active.currentScreen.id = active.currentScreenId) {layout : LayoutState}
    (hscreens : ∀ screen ∈ remoteDeviceScreens layout active.target.deviceId, (box screen).Bounded) (dx dy : F) :
    updateActiveRemoteScreenChecked (forget active) dx dy layout =
      some (Prod.map id forget (updateActiveRemoteScreen active dx dy layout)) := by
  have hinside : pointInLocalBoundsChecked (forget active).currentScreen (forget active).x (forget active).y =
      some (pointInLocalBounds active.currentScreen active.x active.y) := pointInLocalBoundsChecked_eq hcurrent ..
  have hexited : exitedEntryEdgeChecked (forget active).target.edge (forget active).currentScreen (forget active).x
      (forget active).y dx dy =
      some (exitedEntryEdge active.target.edge active.currentScreen active.x active.y dx dy) :=
    exitedEntryEdgeChecked_eq hcurrent ..
  have hneighbor : (remoteDeviceScreens layout (forget active).target.deviceId).findM? (fun screen =>
      andAlso (some (decide (screen.id ≠ (forget active).currentScreen.id)))
        (pointInScreenChecked screen (forget active).globalPoint.1 (forget active).globalPoint.2)) =
      some ((remoteDeviceScreens layout active.target.deviceId).find? fun screen =>
        screen.id ≠ active.currentScreenId && pointInScreen screen active.globalPoint.1 active.globalPoint.2) := by
    refine findM_eq_find fun screen hscreen => ?_
    rw [pointInScreenChecked_eq (hscreens screen hscreen), andAlso_some, ← hnamed]
    rfl
  unfold updateActiveRemoteScreenChecked updateActiveRemoteScreen
  rw [hinside, hneighbor, hexited, andAlso_some, Option.bind_eq_bind, Option.bind_some]
  by_cases hin : pointInLocalBounds active.currentScreen active.x active.y = true
  · rw [if_pos hin, if_pos hin]
    rfl
  have hfound : active.neighbor layout = (remoteDeviceScreens layout active.target.deviceId).find? fun screen =>
      screen.id ≠ active.currentScreenId && pointInScreen screen active.globalPoint.1 active.globalPoint.2 :=
        if_neg hin
  rw [if_neg hin, if_neg hin, ← hfound, Option.bind_some]
  cases active.neighbor layout with
  | some screen => rfl
  | none =>
    rw [Option.bind_eq_bind, Option.bind_some]
    dsimp only
    rw [pinToEntryEdgeChecked_eq hcurrent]
    by_cases hreturned : (decide (active.currentScreenId = active.target.screenId) &&
        exitedEntryEdge active.target.edge active.currentScreen active.x active.y dx dy) = true
    · rw [if_pos hreturned]
      exact if_pos hreturned
    · rw [if_neg hreturned]
      exact if_neg hreturned

/-- **Returning**: nothing overflows on a bounded screen. -/
theorem localReturnPointChecked_eq (h : (box active.target.localScreen).Bounded) :
    localReturnPointChecked (forget active) = some (localReturnPoint active) := by
  have hspareX : 1 ≤ (max active.target.localScreen.width 1).toInt := by
    rw [max_toInt]
    exact le_max_right _ _
  have hspareY : 1 ≤ (max active.target.localScreen.height 1).toInt := by
    rw [max_toInt]
    exact le_max_right _ _
  have hlastX := lastChecked_eq (F := F) hspareX
  have hlastY := lastChecked_eq (F := F) hspareY
  have hendX := endChecked_eq (F := F) h.width h.right
  have hendY := endChecked_eq (F := F) h.height h.bottom
  have hclampX := fun x => clampChecked_eq (start_le_end (F := F) h.width h.right) x
  have hclampY := fun y => clampChecked_eq (start_le_end (F := F) h.height h.bottom) y
  obtain ⟨⟨deviceId, targetAddr, protocolVersion, screenId, localScreen, layoutLocalScreen,
    remoteScreen, edge, sized⟩, currentScreen, currentScreenId, x, y⟩ := active
  unfold localReturnPointChecked localReturnPoint
  dsimp only [forget, forgetTarget] at *
  rw [hlastX, hlastY, Option.bind_eq_bind, Option.bind_some, Option.bind_some]
  cases edge <;> dsimp only
  · rw [hendY, Option.bind_some, hclampY, Option.bind_some]
    rfl
  · rw [hendX, hendY, Option.bind_some, Option.bind_some, hclampY, Option.bind_some]
    rfl
  · rw [hendX, Option.bind_some, hclampX, Option.bind_some]
    rfl
  · rw [hendX, Option.bind_some, hclampX, Option.bind_some, hendY, Option.bind_some]
    rfl

end Moving

/-! ### What the pointer keeps -/

/-- The pointer is on a bounded screen, which goes by its id for it. -/
structure Steady (active : ActiveTarget F) : Prop where
  usable : Usable active.target
  current : (box active.currentScreen).Bounded
  named : active.currentScreen.id = active.currentScreenId

theorem enter_steady {target : Pointer.InputTarget} (h : Usable (forgetTarget target)) (x y : F) :
    Steady (forget (enter target x y)) := ⟨h, h.remoteScreen, rfl⟩

theorem exists_targets {targets : List InputTarget} (h : ∀ target ∈ targets, Usable target) :
    ∃ sized : List Pointer.InputTarget, sized.map forgetTarget = targets := by
  induction targets with
  | nil => exact ⟨[], rfl⟩
  | cons target targets ih =>
    obtain ⟨htarget, hrest⟩ := List.forall_mem_cons.mp h
    obtain ⟨first, rfl⟩ := htarget.exists_target
    obtain ⟨rest, rfl⟩ := ih hrest
    exact ⟨first :: rest, rfl⟩

theorem crossingTarget_yields {targets : List InputTarget} (h : ∀ target ∈ targets, Usable target)
    (x y dx dy : F) :
    Yields (crossingTargetChecked targets x y dx dy) fun crossed =>
      ∀ active, crossed = some active → Steady active := by
  obtain ⟨sized, rfl⟩ := exists_targets h
  have husable : ∀ target ∈ sized, Usable (forgetTarget target) := fun target htarget =>
    h _ (List.mem_map_of_mem htarget)
  refine yields_of_eq (crossingTargetChecked_eq husable x y dx dy) fun active hactive => ?_
  obtain ⟨entered, hentered, rfl⟩ := Option.map_eq_some_iff.mp hactive
  obtain ⟨⟨target, mapped⟩, hfound, rfl⟩ := Option.map_eq_some_iff.mp hentered
  obtain ⟨candidate, hcandidate, hpoint⟩ := List.exists_of_findSome?_eq_some hfound
  obtain ⟨_, _, hpair⟩ := Option.map_eq_some_iff.mp hpoint
  obtain rfl : candidate = target := congrArg Prod.fst hpair
  exact enter_steady (husable candidate hcandidate) _ _

theorem localYBounds_yields {targets : List InputTarget} (h : ∀ target ∈ targets, Usable target) :
    Yields (localYBoundsChecked (F := F) targets) fun _ => True := by
  refine Yields.bind (Yields.mapM (R := fun _ => True) fun target htarget => ?_) fun bottoms _ => ?_
  · obtain ⟨bottom, hbottom, -⟩ := add_height (h target htarget).localScreen
    exact yields_of_eq hbottom trivial
  · split
    · exact yields_some trivial
    · exact yields_some trivial

theorem macCrossingTarget_yields {targets : List InputTarget} (h : ∀ target ∈ targets, Usable target)
    (startBounds : Option (F × F)) (x y dx dy : F) :
    Yields (macCrossingTargetChecked startBounds targets x y dx dy)
      fun crossed => ∀ active, crossed = some active → Steady active := by
  refine Yields.bind (crossingTarget_yields h x y dx dy) fun crossed hcrossed => ?_
  cases crossed with
  | some active => exact yields_some fun _ hactive => hcrossed _ hactive
  | none =>
    refine Yields.bind (localYBounds_yields h) fun bounds _ => ?_
    cases bounds.or startBounds with
    | none => exact yields_some (by simp)
    | some limits =>
      dsimp only
      split
      · exact yields_some (by simp)
      · exact crossingTarget_yields h x _ dx (-dy)

theorem centered_yields {target : InputTarget} (h : Usable target) :
    Yields (centeredActiveTargetChecked (F := F) target) Steady := by
  obtain ⟨sized, rfl⟩ := h.exists_target
  exact yields_of_eq (centeredChecked_eq h) (enter_steady h _ _)

/-- The target stays. -/
theorem update_target (active : Pointer.ActiveTarget F) (dx dy : F) (layout : LayoutState) :
    (updateActiveRemoteScreen active dx dy layout).2.target = active.target := by
  unfold updateActiveRemoteScreen
  split
  · rfl
  split
  · rfl
  split
  · unfold Pointer.ActiveTarget.pinToEntryEdge
    dsimp only
    split <;> rfl
  · rfl

theorem update_yields {active : ActiveTarget F} (h : Steady active) {layout : LayoutState}
    (hscreens : ∀ screen ∈ remoteDeviceScreens layout active.target.deviceId, (box screen).Bounded) (dx dy : F) :
    Yields (updateActiveRemoteScreenChecked active dx dy layout) fun moved => Steady moved.2 := by
  obtain ⟨sized, rfl⟩ := h.usable.exists_active
  refine yields_of_eq (updateChecked_eq h.current h.named hscreens dx dy) ?_
  have htarget : (forget (updateActiveRemoteScreen sized dx dy layout).2).target = (forget sized).target :=
    congrArg forgetTarget (update_target sized dx dy layout)
  refine ⟨htarget ▸ h.usable, ?_, ?_⟩
  all_goals rcases update_cases sized dx dy layout with ⟨-, hscreen, hid⟩ | ⟨screen, hneighbor, hmoved⟩
  · show (box (updateActiveRemoteScreen sized dx dy layout).2.currentScreen).Bounded
    rw [hscreen]
    exact h.current
  · have hmem : screen ∈ remoteDeviceScreens layout sized.target.deviceId := by
      unfold Pointer.ActiveTarget.neighbor at hneighbor
      split at hneighbor
      · cases hneighbor
      · exact List.mem_of_find?_eq_some hneighbor
    rw [hmoved]
    exact hscreens screen hmem
  · show (updateActiveRemoteScreen sized dx dy layout).2.currentScreen.id = _
    rw [hscreen]
    exact h.named.trans hid.symm
  · rw [hmoved]
    rfl

theorem clamped_yields {active : ActiveTarget F} (h : Steady active) : Yields active.clampedChecked Steady := by
  obtain ⟨sized, rfl⟩ := h.usable.exists_active
  exact yields_of_eq (clampedChecked_eq h.current) ⟨h.usable, h.current, h.named⟩

theorem localReturnPoint_yields {active : ActiveTarget F} (h : Usable active.target) :
    Yields (localReturnPointChecked active) fun _ => True := by
  obtain ⟨sized, rfl⟩ := h.exists_active
  exact yields_of_eq (localReturnPointChecked_eq h.localScreen) trivial

theorem screenCenterPoint_yields {screen : Screen} (hwidth : 1 ≤ screen.width.toInt)
    (hheight : 1 ≤ screen.height.toInt) : Yields (screenCenterPointChecked (F := F) screen) fun _ => True := by
  have hnonneg : ∀ last : Int32, (zero : F) ≤ ofInt32 (max last 0) := by
    intro last
    refine ofInt32_le.mpr ?_
    rw [Int32.le_iff_toInt_le, max_toInt]
    exact le_max_right _ _
  unfold screenCenterPointChecked
  rw [sub_one_eq hwidth, sub_one_eq hheight, Option.bind_eq_bind, Option.bind_some, Option.bind_some,
    clampChecked_eq (hnonneg _), clampChecked_eq (hnonneg _)]
  exact yields_some trivial

end MyKvm.Pointer.Checked
