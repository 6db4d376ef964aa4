import MyKvm.Lib.Text
import Mathlib.Data.Int.Order.Basic
import Mathlib.Data.List.Nodup

/-!
# MyKvm.Board.Placing — where the layout editor of the user interface lets a screen be

The user interface draws the screens of all devices on a board.  The places are whole numbers: those of the
backend, moved by multiples of the grid.

* `Apart`: no two screens overlap, but for one which may be held.
* `Free`: a screen may be put at a place.
* `apart_moveScreen`: putting a screen at a free place leaves the screens apart.
-/

namespace MyKvm.Board

open MyKvm.Lib

structure Screen where
  id : String
  deviceId : String
  x : ℤ
  y : ℤ
  width : ℤ
  height : ℤ
  deriving DecidableEq

structure Device where
  id : String
  role : String
  transportPublicKey : String
  screens : List Screen
  deriving DecidableEq

structure LayoutState where
  devices : List Device
  activeDeviceId : String
  selectedScreenId : String
  inputMode : String
  deriving DecidableEq

structure ScreenPosition where
  x : ℤ
  y : ℤ
  deriving DecidableEq

structure LayoutBounds where
  minX : ℤ
  minY : ℤ
  maxX : ℤ
  maxY : ℤ
  width : ℤ
  height : ℤ
  deriving DecidableEq

def snapTolerance : ℤ := 80

/-- `{ ...screen, ...position }` -/
def Screen.place (screen : Screen) (position : ScreenPosition) : Screen :=
  { screen with x := position.x, y := position.y }

def Screen.position (screen : Screen) : ScreenPosition := ⟨screen.x, screen.y⟩

@[simp] theorem Screen.place_id (screen : Screen) (position : ScreenPosition) :
    (screen.place position).id = screen.id :=
  rfl

@[simp] theorem Screen.place_position (screen : Screen) : screen.place screen.position = screen := rfl

@[simp] theorem Screen.place_place (screen : Screen) (first second : ScreenPosition) :
    (screen.place first).place second = screen.place second := rfl

def flattenScreens (layout : LayoutState) : List Screen := layout.devices.flatMap (·.screens)

def getScreenById (layout : LayoutState) (screenId : String) : Option Screen :=
  (flattenScreens layout).find? (·.id = screenId)

/-- `Math.min` and `Math.max` over the screens; no caller has none. -/
def getLayoutBounds (screens : List Screen) : LayoutBounds :=
  let minX := ((screens.map fun screen => screen.x).min?).getD 0
  let minY := ((screens.map fun screen => screen.y).min?).getD 0
  let maxX := ((screens.map fun screen => screen.x + screen.width).max?).getD 0
  let maxY := ((screens.map fun screen => screen.y + screen.height).max?).getD 0
  { minX, minY, maxX, maxY, width := max (maxX - minX) 1, height := max (maxY - minY) 1 }

def screensOverlap (a b : Screen) : Bool :=
  a.x < b.x + b.width && a.x + a.width > b.x && a.y < b.y + b.height && a.y + a.height > b.y

def screenOverlapArea (a b : Screen) : ℤ :=
  let width := min (a.x + a.width) (b.x + b.width) - max a.x b.x
  let height := min (a.y + a.height) (b.y + b.height) - max a.y b.y
  if width > 0 && height > 0 then width * height else 0

def screenPositionOverlaps (layout : LayoutState) (screenId : String) (nextPosition : ScreenPosition) : Bool :=
  match getScreenById layout screenId with
  | none => false
  | some movingScreen =>
    (flattenScreens layout).any fun screen =>
      screen.id ≠ screenId && screensOverlap (movingScreen.place nextPosition) screen

/-- The screen which is overlapped most, the first one of several, with the area. -/
def overlapTarget (layout : LayoutState) (screenId : String) (nextScreen : Screen) : Option Screen × ℤ :=
  (flattenScreens layout).foldl (fun found screen =>
    if screen.id = screenId then found else
    let area := screenOverlapArea nextScreen screen
    if area > found.2 then (some screen, area) else found) (none, 0)

/-- Beside the target, on the side the screen comes from.  The centres are compared doubled. -/
def besideTarget (movingScreen target : Screen) (nextPosition startPosition : ScreenPosition) : ScreenPosition :=
  let dx := nextPosition.x - startPosition.x
  let dy := nextPosition.y - startPosition.y
  let movingCenterX := 2 * nextPosition.x + movingScreen.width
  let movingCenterY := 2 * nextPosition.y + movingScreen.height
  let targetCenterX := 2 * target.x + target.width
  let targetCenterY := 2 * target.y + target.height
  if dx.natAbs ≥ dy.natAbs then
    { x := if movingCenterX < targetCenterX || (movingCenterX = targetCenterX && dx < 0) then
          target.x - movingScreen.width
        else target.x + target.width
      y := nextPosition.y }
  else
    { x := nextPosition.x
      y := if movingCenterY < targetCenterY || (movingCenterY = targetCenterY && dy < 0) then
          target.y - movingScreen.height
        else target.y + target.height }

def snapOverlappingScreenPosition (layout : LayoutState) (screenId : String)
    (nextPosition startPosition : ScreenPosition) : Option ScreenPosition :=
  match getScreenById layout screenId with
  | none => none
  | some movingScreen =>
    match (overlapTarget layout screenId (movingScreen.place nextPosition)).1 with
    | none => none
    | some target =>
      let snapped := besideTarget movingScreen target nextPosition startPosition
      if screenPositionOverlaps layout screenId snapped then none else some snapped

def moveScreen (layout : LayoutState) (screenId : String) (nextPosition : ScreenPosition) : LayoutState :=
  { layout with
    devices := layout.devices.map fun device =>
      { device with
        screens := device.screens.map fun screen =>
          if screen.id = screenId then screen.place nextPosition else screen } }

def snapAxis (value : ℤ) (candidates : List ℤ) : ℤ :=
  let (closest, closestDistance) := candidates.foldl (fun (found : ℤ × ℤ) candidate =>
    let distance : ℤ := (value - candidate).natAbs
    if distance < found.2 then (candidate, distance) else found) (value, snapTolerance + 1)
  if closestDistance ≤ snapTolerance then closest else value

def snapScreenPosition (layout : LayoutState) (screenId : String) (nextPosition : ScreenPosition) :
    ScreenPosition :=
  match getScreenById layout screenId with
  | none => nextPosition
  | some movingScreen =>
    let screens := (flattenScreens layout).filter (·.id ≠ screenId)
    { x := snapAxis nextPosition.x (screens.flatMap fun screen =>
        [screen.x, screen.x + screen.width, screen.x - movingScreen.width,
          screen.x + screen.width - movingScreen.width])
      y := snapAxis nextPosition.y (screens.flatMap fun screen =>
        [screen.y, screen.y + screen.height, screen.y - movingScreen.height,
          screen.y + screen.height - movingScreen.height]) }

/-! ### Overlaps -/

theorem screensOverlap_comm (a b : Screen) : screensOverlap a b = screensOverlap b a := by
  unfold screensOverlap
  rw [Bool.eq_iff_iff]
  simp only [Bool.and_eq_true, decide_eq_true_eq]
  omega

theorem screensOverlap_iff {a b : Screen} : screensOverlap a b = true ↔
    a.x < b.x + b.width ∧ b.x < a.x + a.width ∧ a.y < b.y + b.height ∧ b.y < a.y + a.height := by
  unfold screensOverlap
  simp only [Bool.and_eq_true, decide_eq_true_eq, gt_iff_lt]
  tauto

/-- Screens left and right of a line do not overlap. -/
theorem screensOverlap_of_le {a b : Screen} (h : a.x + a.width ≤ b.x) : screensOverlap a b = false := by
  rw [← Bool.not_eq_true, screensOverlap_iff]
  omega

/-- Moving both screens alike changes nothing. -/
theorem screensOverlap_shift {a b a' b' : Screen} (dx dy : ℤ)
    (ha : a'.x = a.x + dx ∧ a'.y = a.y + dy ∧ a'.width = a.width ∧ a'.height = a.height)
    (hb : b'.x = b.x + dx ∧ b'.y = b.y + dy ∧ b'.width = b.width ∧ b'.height = b.height) :
    screensOverlap a' b' = screensOverlap a b := by
  rw [Bool.eq_iff_iff, screensOverlap_iff, screensOverlap_iff]
  omega

/-- A smaller screen at the same place overlaps less. -/
theorem screensOverlap_shrink {a b a' b' : Screen}
    (ha : a'.x = a.x ∧ a'.y = a.y ∧ a'.width ≤ a.width ∧ a'.height ≤ a.height)
    (hb : b'.x = b.x ∧ b'.y = b.y ∧ b'.width ≤ b.width ∧ b'.height ≤ b.height) (h : screensOverlap a b = false) :
    screensOverlap a' b' = false := by
  rw [← Bool.not_eq_true, screensOverlap_iff] at h ⊢
  omega

/-! ### Apart -/

/-- No two screens overlap, but for the one which is held. -/
def Apart (held : Option String) (screens : List Screen) : Prop :=
  ∀ a ∈ screens, ∀ b ∈ screens, a.id ≠ b.id → some a.id ≠ held → some b.id ≠ held → screensOverlap a b = false

/-- The screen of this id may be put at the place. -/
def Free (screens : List Screen) (screenId : String) (position : ScreenPosition) : Prop :=
  ∀ moving ∈ screens, moving.id = screenId →
    ∀ screen ∈ screens, screen.id ≠ screenId → screensOverlap (moving.place position) screen = false

/-- Every id is that of one screen. -/
def Distinct (screens : List Screen) : Prop := (screens.map (·.id)).Nodup

instance (held : Option String) (screens : List Screen) : Decidable (Apart held screens) :=
  inferInstanceAs (Decidable (∀ a ∈ screens, ∀ b ∈ screens, a.id ≠ b.id → some a.id ≠ held → some b.id ≠ held →
    screensOverlap a b = false))

instance (screens : List Screen) : Decidable (Distinct screens) := inferInstanceAs (Decidable (List.Nodup _))

section Apart

variable {held : Option String} {screens fewer : List Screen} {screenId : String} {position : ScreenPosition}

theorem Apart.subset (h : Apart held screens) (hfewer : fewer ⊆ screens) : Apart held fewer :=
  fun a ha b hb => h a (hfewer ha) b (hfewer hb)

theorem Free.subset (h : Free screens screenId position) (hfewer : fewer ⊆ screens) :
    Free fewer screenId position :=
  fun moving hmoving hid screen hscreen => h moving (hfewer hmoving) hid screen (hfewer hscreen)

theorem Apart.hold (h : Apart none screens) : Apart held screens :=
  fun a ha b hb hne _ _ => h a ha b hb hne nofun nofun

theorem Distinct.unique (h : Distinct screens) {a b : Screen} (ha : a ∈ screens) (hb : b ∈ screens)
    (hid : a.id = b.id) : a = b :=
  List.inj_on_of_nodup_map h ha hb hid

/-- A screen which is clear of the others where it is may be let go of. -/
theorem Apart.release (h : Apart (some screenId) screens)
    (hclear : ∀ moving ∈ screens, moving.id = screenId →
      ∀ screen ∈ screens, screen.id ≠ screenId → screensOverlap moving screen = false) : Apart none screens := by
  intro a ha b hb hne _ _
  by_cases hida : a.id = screenId
  · exact hclear a ha hida b hb fun hidb => hne (hida.trans hidb.symm)
  by_cases hidb : b.id = screenId
  · rw [screensOverlap_comm]
    exact hclear b hb hidb a ha hida
  exact h a ha b hb hne (by simpa using hida) (by simpa using hidb)

/-- Where it stands, a screen is free. -/
theorem Apart.free (h : Apart none screens) (hdistinct : Distinct screens) {screen : Screen}
    (hscreen : screen ∈ screens) :
    Free screens screen.id screen.position := by
  intro moving hmoving hid other hother hne
  obtain rfl := hdistinct.unique hmoving hscreen hid
  exact h moving hmoving other hother (Ne.symm hne) nofun nofun

end Apart

section Moving

variable {layout : LayoutState} {screenId : String} {position : ScreenPosition}

theorem mem_of_getScreenById {screen : Screen} (h : getScreenById layout screenId = some screen) :
    screen ∈ flattenScreens layout ∧ screen.id = screenId :=
  ⟨List.mem_of_find?_eq_some h, by simpa using List.find?_some h⟩

theorem getScreenById_eq_some (hdistinct : Distinct (flattenScreens layout)) {screen : Screen}
    (hscreen : screen ∈ flattenScreens layout) : getScreenById layout screen.id = some screen := by
  cases h : getScreenById layout screen.id with
  | none => exact absurd (List.find?_eq_none.mp h screen hscreen) (by simp)
  | some found =>
    obtain ⟨hfound, hid⟩ := mem_of_getScreenById h
    rw [hdistinct.unique hfound hscreen hid]

theorem screenPositionOverlaps_eq_false_iff (hdistinct : Distinct (flattenScreens layout)) :
    screenPositionOverlaps layout screenId position = false ↔ Free (flattenScreens layout) screenId position := by
  unfold screenPositionOverlaps
  constructor
  · rintro h moving hmoving rfl screen hscreen hne
    rw [getScreenById_eq_some hdistinct hmoving] at h
    have hany := List.any_eq_false.mp h screen hscreen
    simpa [hne] using hany
  · intro h
    cases hfound : getScreenById layout screenId with
    | none => rfl
    | some moving =>
      obtain ⟨hmoving, hid⟩ := mem_of_getScreenById hfound
      refine List.any_eq_false.mpr fun screen hscreen => ?_
      by_cases hne : screen.id = screenId
      · simp [hne]
      · simp [hne, h moving hmoving hid screen hscreen hne]

theorem flattenScreens_moveScreen : flattenScreens (moveScreen layout screenId position) =
    (flattenScreens layout).map fun screen => if screen.id = screenId then screen.place position else screen := by
  simp only [flattenScreens, moveScreen, List.flatMap_map, List.map_flatMap]

theorem mem_moveScreen {screen : Screen} (h : screen ∈ flattenScreens (moveScreen layout screenId position)) :
    ∃ before ∈ flattenScreens layout, before.id = screen.id ∧
      ((before.id = screenId ∧ screen = before.place position) ∨ (before.id ≠ screenId ∧ screen = before)) := by
  rw [flattenScreens_moveScreen, List.mem_map] at h
  obtain ⟨before, hbefore, rfl⟩ := h
  refine ⟨before, hbefore, ?_⟩
  split <;> rename_i hid
  · exact ⟨rfl, .inl ⟨hid, rfl⟩⟩
  · exact ⟨rfl, .inr ⟨hid, rfl⟩⟩

theorem Distinct.moveScreen (h : Distinct (flattenScreens layout)) :
    Distinct (flattenScreens (moveScreen layout screenId position)) := by
  unfold Distinct at h ⊢
  rw [flattenScreens_moveScreen, List.map_map]
  convert h using 2
  ext screen
  simp only [Function.comp_apply]
  split <;> rfl

/-- While a screen is held, moving it leaves the others apart. -/
theorem Apart.moveScreen (h : Apart (some screenId) (flattenScreens layout)) :
    Apart (some screenId) (flattenScreens (moveScreen layout screenId position)) := by
  intro a ha b hb hne hheld hheld'
  obtain ⟨a', ha', hid, ⟨hmoved, rfl⟩ | ⟨-, rfl⟩⟩ := mem_moveScreen ha
  · exact absurd (congrArg some hmoved) hheld
  obtain ⟨b', hb', hid', ⟨hmoved, rfl⟩ | ⟨-, rfl⟩⟩ := mem_moveScreen hb
  · exact absurd (congrArg some hmoved) hheld'
  exact h _ ha' _ hb' hne hheld hheld'

/-- Where else the held screen may be put does not depend on where it is. -/
theorem Free.moveScreen {other : ScreenPosition} (h : Free (flattenScreens layout) screenId other) :
    Free (flattenScreens (moveScreen layout screenId position)) screenId other := by
  intro moving hmoving hid screen hscreen hne
  obtain ⟨before, hbefore, -, ⟨hid', rfl⟩ | ⟨hid', rfl⟩⟩ := mem_moveScreen hmoving
  · obtain ⟨screen', hscreen', hid'', ⟨hmoved, -⟩ | ⟨-, rfl⟩⟩ := mem_moveScreen hscreen
    · exact absurd (hid''.symm.trans hmoved) hne
    rw [Screen.place_place]
    exact h before hbefore hid' _ hscreen' hne
  · exact absurd hid hid'

/-- Putting a screen at a free place leaves the screens apart, also the one which was held. -/
theorem apart_moveScreen (h : Apart (some screenId) (flattenScreens layout))
    (hfree : Free (flattenScreens layout) screenId position) :
    Apart none (flattenScreens (moveScreen layout screenId position)) := by
  refine h.moveScreen.release fun moving hmoving hid screen hscreen hne => ?_
  obtain ⟨before, -, hid', ⟨-, rfl⟩ | ⟨hstay, -⟩⟩ := mem_moveScreen hmoving
  · simpa using hfree.moveScreen _ hmoving hid screen hscreen hne
  · exact absurd (hid'.trans hid) hstay

end Moving

end MyKvm.Board
