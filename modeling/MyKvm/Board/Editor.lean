import MyKvm.Board.Placing
import MyKvm.Lib.Machine
import MyKvm.Lib.Script
import Mathlib.Data.List.Flatten
import Mathlib.Data.List.Perm.Basic

/-!
# MyKvm.Board.Editor — dragging, pushing, removing and adding screens

The user drags a screen with the pointer or pushes it with the arrow keys, removes a device, or adds a peer, whose
screens are put to the right of all others, unless they are known already.  While it is dragged, a screen may lie
over others; where it is dropped it is put beside the screen it covers most, or back to where it came from.  The
editor does not look again at screens which a peer brings along, nor at the place a drag began at, so this is no
more than the user and the peers make of it:

* `Careful`: one pointer, no other screen and no new peer during a drag, and a peer whose screens are apart, can be
  told apart and have not grown.
* `Kept`: but for the dragged one the screens are apart, and the place the drag began at stays free.
* `screens_apart`: the screens are apart in every careful run, whenever none is held.
-/

namespace MyKvm.Board

open MyKvm.Lib MyKvm.Lib.Script

/-! ### Peers -/

structure LanPeerScreen where
  id : String
  name : String
  x : ℤ
  y : ℤ
  width : ℤ
  height : ℤ
  deriving DecidableEq

structure LanPeer where
  id : String
  name : String
  ip : String
  transportPublicKey : String
  screens : List LanPeerScreen
  deriving DecidableEq

/-- Every run of other characters becomes one hyphen. -/
def hyphenate : List Char → List Char
  | [] => []
  | c :: rest =>
    if c.isLower || c.isDigit then c :: hyphenate rest else
    match hyphenate rest with
    | '-' :: tail => '-' :: tail
    | cleaned => '-' :: cleaned

def sanitizeId (value : String) : String :=
  String.ofList (trimMatches (· == '-') (hyphenate (toLowerCase (Script.trim value.toList))))

def peerDeviceId (peer : LanPeer) : String :=
  orElse (sanitizeId (orElse peer.id (orElse peer.name peer.ip))) "peer-device"

def uniqueScreenId (deviceId : String) (screen : LanPeerScreen) (index : ℕ) : String :=
  deviceId ++ "-" ++ sanitizeId (orElse screen.id (orElse screen.name ("display-" ++ Nat.repr (index + 1))))

def fallbackScreen : Screen :=
  { id := "fallback", deviceId := "fallback", x := 0, y := 0, width := 1, height := 1 }

/-- A known screen stays where it is, a new one is put relative to the corner of the peer's screens. -/
def importScreen (deviceId : String) (existingScreens : List Screen) (startX startY peerMinX peerMinY : ℤ)
    (index : ℕ) (screen : LanPeerScreen) : Screen :=
  let id := uniqueScreenId deviceId screen index
  let existingScreen := existingScreens.find? (·.id = id)
  { id, deviceId
    x := (existingScreen.map (·.x)).getD (startX + (screen.x - peerMinX))
    y := (existingScreen.map (·.y)).getD (startY + (screen.y - peerMinY))
    width := screen.width
    height := screen.height }

def orFallback (screens : List Screen) : List Screen := if screens = [] then [fallbackScreen] else screens

def createScreensFromPeer (layout : LayoutState) (deviceId : String) (peerScreens : List LanPeerScreen)
    (existingDevice : Option Device) : List Screen :=
  let localScreens := ((layout.devices.find? (·.role = "local")).map (·.screens)).getD []
  let localBounds := getLayoutBounds (orFallback localScreens)
  let layoutBounds := getLayoutBounds (orFallback (flattenScreens layout))
  let peerMinX := ((peerScreens.map (·.x)).min?).getD 0
  let peerMinY := ((peerScreens.map (·.y)).min?).getD 0
  peerScreens.mapIdx (importScreen deviceId ((existingDevice.map (·.screens)).getD []) layoutBounds.maxX
    localBounds.minY peerMinX peerMinY)

def createDeviceFromPeer (layout : LayoutState) (peer : LanPeer) (existingDevice : Option Device) : Device :=
  let id := peerDeviceId peer
  { id, role := "client", transportPublicKey := peer.transportPublicKey
    screens := createScreensFromPeer layout id peer.screens existingDevice }

def existingIndex (layout : LayoutState) (peer : LanPeer) : Option ℕ :=
  layout.devices.findIdx? fun device =>
    device.id = peerDeviceId peer ||
      (Script.trim device.transportPublicKey.toList ≠ [] && device.transportPublicKey = peer.transportPublicKey)

def upsertPeerDevice (layout : LayoutState) (peer : LanPeer) : LayoutState :=
  let index := existingIndex layout peer
  let nextDevice := createDeviceFromPeer layout peer (index.bind (layout.devices[·]?))
  { layout with
    devices := match index with
      | some index => layout.devices.set index nextDevice
      | none => layout.devices ++ [nextDevice]
    inputMode := "control"
    activeDeviceId := nextDevice.id
    selectedScreenId := (nextDevice.screens.head?.map (·.id)).getD layout.selectedScreenId }

/-! ### Steps -/

structure DragState where
  pointerId : ℤ
  screenId : String
  startX : ℤ
  startY : ℤ
  deriving DecidableEq

def DragState.startPosition (drag : DragState) : ScreenPosition := ⟨drag.startX, drag.startY⟩

structure Editor where
  layout : LayoutState
  dragState : Option DragState
  deriving DecidableEq

def snapSize : ℤ := 20

/-- The way of the pointer since the drag began comes in cells of the grid, rounded. -/
inductive Step
  | pointerDown (pointerId : ℤ) (screenId : String)
  | pointerMove (pointerId columns rows : ℤ)
  | pointerUp
  | keyDown (screenId key : String) (shiftKey : Bool)
  | removeDevice (deviceId : String)
  | upsertPeer (peer : LanPeer)

def handleScreenPointerDown (editor : Editor) (pointerId : ℤ) (screenId : String) : Editor :=
  match getScreenById editor.layout screenId with
  | none => editor
  | some screen =>
    { layout := { editor.layout with activeDeviceId := screen.deviceId, selectedScreenId := screen.id }
      dragState := some ⟨pointerId, screen.id, screen.x, screen.y⟩ }

def handleGlobalPointerMove (editor : Editor) (pointerId columns rows : ℤ) : Editor :=
  match editor.dragState with
  | none => editor
  | some drag =>
    if pointerId ≠ drag.pointerId then editor else
    let nextPosition := snapScreenPosition editor.layout drag.screenId
      ⟨drag.startX + columns * snapSize, drag.startY + rows * snapSize⟩
    { editor with layout := moveScreen editor.layout drag.screenId nextPosition }

def endDrag (editor : Editor) : Editor :=
  match editor.dragState with
  | none => editor
  | some drag =>
    let nextLayout := match getScreenById editor.layout drag.screenId with
      | none => editor.layout
      | some screen =>
        if screenPositionOverlaps editor.layout drag.screenId screen.position then
          moveScreen editor.layout drag.screenId
            ((snapOverlappingScreenPosition editor.layout drag.screenId screen.position drag.startPosition).getD
              drag.startPosition)
        else editor.layout
    { layout := nextLayout, dragState := none }

def arrowDelta (key : String) (step : ℤ) : Option ScreenPosition :=
  if key = "ArrowLeft" then some ⟨-step, 0⟩
  else if key = "ArrowRight" then some ⟨step, 0⟩
  else if key = "ArrowUp" then some ⟨0, -step⟩
  else if key = "ArrowDown" then some ⟨0, step⟩
  else none

def pushScreen (layout : LayoutState) (screenId : String) (delta : ScreenPosition) : LayoutState :=
  match getScreenById layout screenId with
  | none => layout
  | some currentScreen =>
    let nextPosition := snapScreenPosition layout currentScreen.id
      ⟨currentScreen.x + delta.x, currentScreen.y + delta.y⟩
    if screenPositionOverlaps layout currentScreen.id nextPosition then layout
    else moveScreen layout currentScreen.id nextPosition

def handleScreenKeyDown (editor : Editor) (screenId key : String) (shiftKey : Bool) : Editor :=
  match arrowDelta key (if shiftKey then snapSize * 5 else snapSize) with
  | none => editor
  | some delta => { editor with layout := pushScreen editor.layout screenId delta }

def handleRemoveDevice (layout : LayoutState) (deviceId : String) : LayoutState :=
  let nextDevices := layout.devices.filter (·.id ≠ deviceId)
  let fallbackDevice := nextDevices.head?
  { layout with
    devices := nextDevices
    activeDeviceId :=
      if nextDevices.any (·.id = layout.activeDeviceId) then layout.activeDeviceId
      else (fallbackDevice.map (·.id)).getD layout.activeDeviceId
    selectedScreenId :=
      if nextDevices.any fun device => device.screens.any (·.id = layout.selectedScreenId) then
        layout.selectedScreenId
      else (fallbackDevice.bind fun device => device.screens.head?.map (·.id)).getD layout.selectedScreenId }

def next (editor : Editor) : Step → Editor
  | .pointerDown pointerId screenId => handleScreenPointerDown editor pointerId screenId
  | .pointerMove pointerId columns rows => handleGlobalPointerMove editor pointerId columns rows
  | .pointerUp => endDrag editor
  | .keyDown screenId key shiftKey => handleScreenKeyDown editor screenId key shiftKey
  | .removeDevice deviceId => { editor with layout := handleRemoveDevice editor.layout deviceId }
  | .upsertPeer peer => { editor with layout := upsertPeerDevice editor.layout peer }

/-! ### Adding a peer -/

/-- The device the peer replaces. -/
def replaced (layout : LayoutState) (peer : LanPeer) : Option Device :=
  (existingIndex layout peer).bind (layout.devices[·]?)

/-- The devices which stay. -/
def staying (layout : LayoutState) (peer : LanPeer) : List Device :=
  match existingIndex layout peer with
  | some index => layout.devices.eraseIdx index
  | none => layout.devices

def importedScreens (layout : LayoutState) (peer : LanPeer) : List Screen :=
  (createDeviceFromPeer layout peer (replaced layout peer)).screens

/-- The peer's screens, as the peer sees them. -/
def LanPeerScreen.seen (screen : LanPeerScreen) : Screen :=
  { id := screen.id, deviceId := "", x := screen.x, y := screen.y, width := screen.width, height := screen.height }

/-- The peer's screens are apart and told apart, none bears the id of another device's screen, and those the layout
has already have not grown. -/
structure Placeable (layout : LayoutState) (peer : LanPeer) : Prop where
  apart : peer.screens.Pairwise fun a b => screensOverlap a.seen b.seen = false
  distinct : Distinct (importedScreens layout peer)
  fresh : ∀ screen ∈ importedScreens layout peer, ∀ device ∈ staying layout peer, ∀ other ∈ device.screens,
    other.id ≠ screen.id
  grown : ∀ screen ∈ importedScreens layout peer, ∀ known ∈ ((replaced layout peer).map (·.screens)).getD [],
    known.id = screen.id → screen.width ≤ known.width ∧ screen.height ≤ known.height

instance (layout : LayoutState) (peer : LanPeer) : Decidable (Placeable layout peer) :=
  decidable_of_iff
    (peer.screens.Pairwise (fun a b => screensOverlap a.seen b.seen = false) ∧
      Distinct (importedScreens layout peer) ∧
      (∀ screen ∈ importedScreens layout peer, ∀ device ∈ staying layout peer, ∀ other ∈ device.screens,
        other.id ≠ screen.id) ∧
      ∀ screen ∈ importedScreens layout peer, ∀ known ∈ ((replaced layout peer).map (·.screens)).getD [],
        known.id = screen.id → screen.width ≤ known.width ∧ screen.height ≤ known.height)
    ⟨fun ⟨apart, distinct, fresh, grown⟩ => ⟨apart, distinct, fresh, grown⟩,
      fun ⟨apart, distinct, fresh, grown⟩ => ⟨apart, distinct, fresh, grown⟩⟩

theorem flattenScreens_upsert (layout : LayoutState) (peer : LanPeer) :
    (flattenScreens (upsertPeerDevice layout peer)).Perm
      (importedScreens layout peer ++ (staying layout peer).flatMap (·.screens)) := by
  unfold flattenScreens upsertPeerDevice importedScreens staying replaced
  cases hindex : existingIndex layout peer with
  | none =>
    simp only [List.flatMap_append, List.flatMap_singleton, Option.bind_none]
    exact List.perm_append_comm
  | some index =>
    obtain ⟨hlt, -⟩ := List.findIdx?_eq_some_iff_getElem.mp hindex
    exact (List.set_perm_cons_eraseIdx hlt _).flatMap_right (·.screens)

theorem staying_sublist (layout : LayoutState) (peer : LanPeer) :
    (staying layout peer).Sublist layout.devices := by
  unfold staying
  split
  · exact List.eraseIdx_sublist _ _
  · exact List.Sublist.refl _

theorem staying_subset (layout : LayoutState) (peer : LanPeer) :
    (staying layout peer).flatMap (·.screens) ⊆ flattenScreens layout :=
  ((staying_sublist layout peer).flatMap _).subset

theorem replaced_subset (layout : LayoutState) (peer : LanPeer) :
    ((replaced layout peer).map (·.screens)).getD [] ⊆ flattenScreens layout := by
  intro screen hscreen
  cases hreplaced : replaced layout peer with
  | none => simp [hreplaced] at hscreen
  | some device =>
    rw [hreplaced] at hscreen
    obtain ⟨index, -, hdevice⟩ := Option.bind_eq_some_iff.mp hreplaced
    exact List.mem_flatMap.mpr ⟨device, List.mem_of_getElem? hdevice, hscreen⟩

theorem right_le_maxX {screens : List Screen} {screen : Screen} (h : screen ∈ screens) :
    screen.x + screen.width ≤ (getLayoutBounds (orFallback screens)).maxX := by
  have hne : screens ≠ [] := List.ne_nil_of_mem h
  rw [orFallback, if_neg hne]
  have hmem : screen.x + screen.width ∈ screens.map fun screen => screen.x + screen.width := List.mem_map_of_mem h
  obtain ⟨most, hmost⟩ := Option.isSome_iff_exists.mp (List.isSome_max?_of_ne_nil (List.ne_nil_of_mem hmem))
  simp only [getLayoutBounds, hmost, Option.getD_some]
  exact (List.max?_eq_some_iff.mp hmost).2 _ hmem

theorem peerMinX_le {peerScreens : List LanPeerScreen} {screen : LanPeerScreen} (h : screen ∈ peerScreens) :
    ((peerScreens.map (·.x)).min?).getD 0 ≤ screen.x := by
  have hmem : screen.x ∈ peerScreens.map (·.x) := List.mem_map_of_mem h
  obtain ⟨least, hleast⟩ := Option.isSome_iff_exists.mp (List.isSome_min?_of_ne_nil (List.ne_nil_of_mem hmem))
  rw [hleast, Option.getD_some]
  exact (List.min?_eq_some_iff.mp hleast).2 _ hmem

/-- An imported screen stands where a known one of its id stands, or right of all screens, as far
from a corner as on the peer. -/
theorem imported_cases {layout : LayoutState} {peer : LanPeer} {screen : Screen}
    (h : screen ∈ importedScreens layout peer) :
    ∃ index, ∃ hlt : index < peer.screens.length, screen.width = peer.screens[index].width ∧
      screen.height = peer.screens[index].height ∧
      screen.id = uniqueScreenId (peerDeviceId peer) peer.screens[index] index ∧
      ((∃ known ∈ ((replaced layout peer).map (·.screens)).getD [], known.id = screen.id ∧ screen.x = known.x ∧
          screen.y = known.y) ∨
        ((getLayoutBounds (orFallback (flattenScreens layout))).maxX ≤ screen.x ∧
          screen.x = peer.screens[index].x + ((getLayoutBounds (orFallback (flattenScreens layout))).maxX -
            ((peer.screens.map (·.x)).min?).getD 0) ∧
          screen.y = peer.screens[index].y + ((getLayoutBounds (orFallback (((layout.devices.find?
            (·.role = "local")).map (·.screens)).getD []))).minY - ((peer.screens.map (·.y)).min?).getD 0))) := by
  obtain ⟨index, hlt, rfl⟩ := List.mem_mapIdx.mp h
  refine ⟨index, hlt, rfl, rfl, rfl, ?_⟩
  have hmin := peerMinX_le (List.getElem_mem hlt)
  simp only [importScreen]
  cases hknown : (((replaced layout peer).map (·.screens)).getD []).find?
      (·.id = uniqueScreenId (peerDeviceId peer) peer.screens[index] index) with
  | none =>
    refine .inr ?_
    simp only [Option.map_none, Option.getD_none]
    omega
  | some known =>
    exact .inl ⟨known, List.mem_of_find?_eq_some hknown, by simpa using List.find?_some hknown, rfl, rfl⟩

section Upsert

variable {layout : LayoutState} {peer : LanPeer}

/-- The peer's screens do not overlap each other, where they come to stand. -/
theorem imported_apart (hapart : Apart none (flattenScreens layout)) (hplaceable : Placeable layout peer)
    {a b : Screen} (ha : a ∈ importedScreens layout peer) (hb : b ∈ importedScreens layout peer)
    (hne : a.id ≠ b.id) :
    screensOverlap a b = false := by
  have hgrown := hplaceable.grown
  obtain ⟨i, hi, hwidth, hheight, hid, ⟨known, hknown, hknownId, hx, hy⟩ | ⟨hright, hx, hy⟩⟩ :=
    imported_cases ha <;>
    obtain ⟨j, hj, hwidth', hheight', hid', ⟨known', hknown', hknownId', hx', hy'⟩ | ⟨hright', hx', hy'⟩⟩ :=
      imported_cases hb
  · -- both were there already
    obtain ⟨hw, hh⟩ := hgrown a ha known hknown hknownId
    obtain ⟨hw', hh'⟩ := hgrown b hb known' hknown' hknownId'
    have hapart' := hapart known (replaced_subset layout peer hknown) known' (replaced_subset layout peer hknown')
      (by rw [hknownId, hknownId']; exact hne) nofun nofun
    exact screensOverlap_shrink ⟨hx, hy, hw, hh⟩ ⟨hx', hy', hw', hh'⟩ hapart'
  · have hle := right_le_maxX (replaced_subset layout peer hknown)
    obtain ⟨hw, -⟩ := hgrown a ha known hknown hknownId
    exact screensOverlap_of_le (by omega)
  · have hle := right_le_maxX (replaced_subset layout peer hknown')
    obtain ⟨hw, -⟩ := hgrown b hb known' hknown' hknownId'
    rw [screensOverlap_comm]
    exact screensOverlap_of_le (by omega)
  · -- both are new: they stand to each other as on the peer
    have hpeer : ∀ {k l : ℕ} (hk : k < peer.screens.length) (hl : l < peer.screens.length), k < l →
        screensOverlap peer.screens[k].seen peer.screens[l].seen = false :=
      fun hk hl hkl => List.pairwise_iff_getElem.mp hplaceable.apart _ _ hk hl hkl
    rw [screensOverlap_shift (a := peer.screens[i].seen) (b := peer.screens[j].seen) _ _ ⟨hx, hy, hwidth, hheight⟩
      ⟨hx', hy', hwidth', hheight'⟩]
    rcases Nat.lt_trichotomy i j with hlt | rfl | hgt
    · exact hpeer hi hj hlt
    · exact absurd (hid.trans hid'.symm) hne
    · rw [screensOverlap_comm]
      exact hpeer hj hi hgt

/-- Nor do they overlap the screens of the other devices. -/
theorem imported_staying_apart (hapart : Apart none (flattenScreens layout)) (hplaceable : Placeable layout peer)
    {a b : Screen} (ha : a ∈ importedScreens layout peer) (hb : b ∈ (staying layout peer).flatMap (·.screens)) :
    screensOverlap a b = false := by
  obtain ⟨device, hdevice, hscreen⟩ := List.mem_flatMap.mp hb
  have hfresh := hplaceable.fresh a ha device hdevice b hscreen
  have hstays := staying_subset layout peer hb
  obtain ⟨i, hi, hwidth, hheight, hid, ⟨known, hknown, hknownId, hx, hy⟩ | ⟨hright, -, -⟩⟩ := imported_cases ha
  · obtain ⟨hw, hh⟩ := hplaceable.grown a ha known hknown hknownId
    have hapart' := hapart known (replaced_subset layout peer hknown) b hstays
      (by rw [hknownId]; exact Ne.symm hfresh) nofun nofun
    exact screensOverlap_shrink ⟨hx, hy, hw, hh⟩ ⟨rfl, rfl, le_rfl, le_rfl⟩ hapart'
  · have hle := right_le_maxX hstays
    rw [screensOverlap_comm]
    exact screensOverlap_of_le (by omega)

theorem apart_upsert (hapart : Apart none (flattenScreens layout)) (hplaceable : Placeable layout peer) :
    Apart none (flattenScreens (upsertPeerDevice layout peer)) := by
  refine Apart.subset ?_ (flattenScreens_upsert layout peer).subset
  intro a ha b hb hne _ _
  rcases List.mem_append.mp ha with ha | ha <;> rcases List.mem_append.mp hb with hb | hb
  · exact imported_apart hapart hplaceable ha hb hne
  · exact imported_staying_apart hapart hplaceable ha hb
  · rw [screensOverlap_comm]
    exact imported_staying_apart hapart hplaceable hb ha
  · exact hapart a (staying_subset layout peer ha) b (staying_subset layout peer hb) hne nofun nofun

theorem distinct_upsert (hdistinct : Distinct (flattenScreens layout)) (hplaceable : Placeable layout peer) :
    Distinct (flattenScreens (upsertPeerDevice layout peer)) := by
  have hperm := (flattenScreens_upsert layout peer).map (·.id)
  refine hperm.nodup_iff.mpr ?_
  rw [List.map_append]
  have hstaying : (((staying layout peer).flatMap (·.screens)).map (·.id)).Nodup :=
    hdistinct.sublist (((staying_sublist layout peer).flatMap _).map _)
  refine List.Nodup.append hplaceable.distinct hstaying fun id himported hstays => ?_
  obtain ⟨screen, hscreen, rfl⟩ := List.mem_map.mp himported
  obtain ⟨other, hother, hid⟩ := List.mem_map.mp hstays
  obtain ⟨device, hdevice, hother⟩ := List.mem_flatMap.mp hother
  exact hplaceable.fresh screen hscreen device hdevice other hother hid

end Upsert

/-! ### Runs -/

/-- One pointer drags; meanwhile no other screen is pushed and no peer is added; and a peer
which is added can be placed. -/
def Careful (editor : Editor) : Step → Prop
  | .pointerDown .. => editor.dragState = none
  | .keyDown screenId .. => ∀ drag ∈ editor.dragState, drag.screenId = screenId
  | .upsertPeer peer => editor.dragState = none ∧ Placeable editor.layout peer
  | .pointerMove .. | .pointerUp | .removeDevice _ => True

instance (editor : Editor) : (step : Step) → Decidable (Careful editor step)
  | .pointerDown .. => inferInstanceAs (Decidable (editor.dragState = none))
  | .keyDown screenId .. => inferInstanceAs (Decidable (∀ drag ∈ editor.dragState, drag.screenId = screenId))
  | .upsertPeer peer => inferInstanceAs (Decidable (editor.dragState = none ∧ Placeable editor.layout peer))
  | .pointerMove .. | .pointerUp | .removeDevice _ => .isTrue trivial

/-- But for the dragged screen the screens are apart, and it can go back to where it came from. -/
structure Kept (editor : Editor) : Prop where
  distinct : Distinct (flattenScreens editor.layout)
  apart : Apart (editor.dragState.map (·.screenId)) (flattenScreens editor.layout)
  back : ∀ drag ∈ editor.dragState, Free (flattenScreens editor.layout) drag.screenId drag.startPosition

section Steps

variable {editor : Editor}

theorem Kept.idle (h : Kept editor) (hidle : editor.dragState = none) :
    Apart none (flattenScreens editor.layout) := by
  have := h.apart
  rwa [hidle] at this

theorem Kept.dragging (h : Kept editor) {drag : DragState} (hdrag : editor.dragState = some drag) :
    Apart (some drag.screenId) (flattenScreens editor.layout) := by
  have := h.apart
  rwa [hdrag] at this

theorem kept_pointerDown (h : Kept editor) (hidle : editor.dragState = none) (pointerId : ℤ) (screenId : String) :
    Kept (handleScreenPointerDown editor pointerId screenId) := by
  unfold handleScreenPointerDown
  split
  · exact h
  · rename_i screen hscreen
    obtain ⟨hmem, -⟩ := mem_of_getScreenById hscreen
    exact ⟨h.distinct, (h.idle hidle).hold, fun drag hdrag => by
      obtain rfl := Option.some.inj hdrag
      exact (h.idle hidle).free h.distinct hmem⟩

theorem kept_pointerMove (h : Kept editor) (pointerId columns rows : ℤ) :
    Kept (handleGlobalPointerMove editor pointerId columns rows) := by
  unfold handleGlobalPointerMove
  split
  · exact h
  · rename_i drag hdrag
    split
    · exact h
    · refine ⟨h.distinct.moveScreen, ?_, fun other hother => ?_⟩
      · simpa [hdrag] using (h.dragging hdrag).moveScreen
      · obtain rfl := Option.some.inj (hdrag.symm.trans hother)
        exact (h.back drag hdrag).moveScreen

/-- The place beside the target is taken only if it is free. -/
theorem snapped_free {layout : LayoutState} (hdistinct : Distinct (flattenScreens layout)) {screenId : String}
    {nextPosition startPosition snapped : ScreenPosition}
    (h : snapOverlappingScreenPosition layout screenId nextPosition startPosition = some snapped) :
    Free (flattenScreens layout) screenId snapped := by
  unfold snapOverlappingScreenPosition at h
  split at h
  · simp at h
  · split at h
    · simp at h
    · dsimp only at h
      split at h
      · simp at h
      · rename_i hclear
        rw [Option.some.inj h] at hclear
        exact (screenPositionOverlaps_eq_false_iff hdistinct).mp (by simpa using hclear)

theorem kept_endDrag (h : Kept editor) : Kept (endDrag editor) := by
  unfold endDrag
  split
  · exact h
  rename_i drag hdrag
  have hheld := h.dragging hdrag
  dsimp only
  split
  · -- the screen is gone
    rename_i hgone
    refine ⟨h.distinct, hheld.release fun moving hmoving hid => ?_, nofun⟩
    rw [← hid, getScreenById_eq_some h.distinct hmoving] at hgone
    exact absurd hgone (by simp)
  rename_i screen hscreen
  obtain ⟨hmem, hid⟩ := mem_of_getScreenById hscreen
  split
  · -- it lies over another one
    refine ⟨h.distinct.moveScreen, apart_moveScreen hheld ?_, nofun⟩
    cases hsnap : snapOverlappingScreenPosition editor.layout drag.screenId screen.position drag.startPosition with
    | none => exact h.back drag hdrag
    | some snapped => exact snapped_free h.distinct hsnap
  · rename_i hclear
    rw [Bool.not_eq_true, screenPositionOverlaps_eq_false_iff h.distinct] at hclear
    refine ⟨h.distinct, hheld.release fun moving hmoving hid' other hother hne => ?_, nofun⟩
    obtain rfl := h.distinct.unique hmoving hmem (hid'.trans hid.symm)
    exact hclear moving hmoving hid' other hother hne

theorem kept_keyDown (h : Kept editor) {screenId : String}
    (hown : ∀ drag ∈ editor.dragState, drag.screenId = screenId) (key : String) (shiftKey : Bool) :
    Kept (handleScreenKeyDown editor screenId key shiftKey) := by
  unfold handleScreenKeyDown
  split
  · exact h
  rename_i delta hdelta
  unfold pushScreen
  split
  · exact h
  rename_i screen hscreen
  obtain ⟨-, rfl⟩ := mem_of_getScreenById hscreen
  dsimp only
  split
  · exact h
  rename_i hclear
  rw [Bool.not_eq_true, screenPositionOverlaps_eq_false_iff h.distinct] at hclear
  cases hdrag : editor.dragState with
  | none =>
    refine ⟨h.distinct.moveScreen, ?_, by simp⟩
    exact apart_moveScreen (h.idle hdrag).hold hclear
  | some drag =>
    have hid := hown drag hdrag
    refine ⟨h.distinct.moveScreen, ?_, fun other hother => ?_⟩
    · have hheld := h.dragging hdrag
      rw [hid] at hheld
      exact (apart_moveScreen hheld hclear).hold
    · obtain rfl := Option.some.inj hother
      have hback := h.back drag hdrag
      rw [hid] at hback ⊢
      exact hback.moveScreen

theorem kept_removeDevice (h : Kept editor) (deviceId : String) :
    Kept { editor with layout := handleRemoveDevice editor.layout deviceId } := by
  have hsublist :
      (flattenScreens (handleRemoveDevice editor.layout deviceId)).Sublist (flattenScreens editor.layout) :=
    List.filter_sublist.flatMap _
  exact ⟨h.distinct.sublist (hsublist.map _), h.apart.subset hsublist.subset,
    fun drag hdrag => (h.back drag hdrag).subset hsublist.subset⟩

theorem kept_upsertPeer (h : Kept editor) {peer : LanPeer} (hidle : editor.dragState = none)
    (hplaceable : Placeable editor.layout peer) :
    Kept { editor with layout := upsertPeerDevice editor.layout peer } :=
  ⟨distinct_upsert h.distinct hplaceable, (apart_upsert (h.idle hidle) hplaceable).hold, by simp [hidle]⟩

theorem kept_next (editor : Editor) (step : Step) (h : Kept editor) (hcareful : Careful editor step) :
    Kept (next editor step) := by
  cases step with
  | pointerDown pointerId screenId => exact kept_pointerDown h hcareful pointerId screenId
  | pointerMove pointerId columns rows => exact kept_pointerMove h pointerId columns rows
  | pointerUp => exact kept_endDrag h
  | keyDown screenId key shiftKey => exact kept_keyDown h hcareful key shiftKey
  | removeDevice deviceId => exact kept_removeDevice h deviceId
  | upsertPeer peer => exact kept_upsertPeer h hcareful.1 hcareful.2

end Steps

/-- **The screens stay apart**, in a careful run: a pointer takes hold of a screen only when none is held, while
one is held no other is pushed with the keys and no peer is added, and a peer is added only when its screens are
apart, have ids which no other screen has, and have not grown since the layout got to know them.  No two screens
overlap then, but for one the pointer still holds; that one can always go back to where the drag began, and letting
go of it leaves all screens apart. -/
theorem screens_apart {start : Editor} (hdistinct : Distinct (flattenScreens start.layout))
    (hapart : Apart none (flattenScreens start.layout)) (hidle : start.dragState = none) {steps : List Step}
    (hcareful : Meets next Careful start steps) :
    let reached := run next start steps
    Distinct (flattenScreens reached.layout) ∧
      Apart (reached.dragState.map (·.screenId)) (flattenScreens reached.layout) ∧
      (∀ drag ∈ reached.dragState, Free (flattenScreens reached.layout) drag.screenId drag.startPosition) ∧
      Apart none (flattenScreens (next reached .pointerUp).layout) := by
  have hstart : Kept start := ⟨hdistinct, hapart.hold, by simp [hidle]⟩
  have hkept := run_keeps kept_next hstart hcareful
  refine ⟨hkept.distinct, hkept.apart, hkept.back, (kept_endDrag hkept).idle ?_⟩
  unfold endDrag
  split
  · assumption
  · rfl

section Examples

/-- Two screens of this machine side by side. -/
def sampleEditor : Editor :=
  { layout :=
      { devices := [⟨"local-device", "local", "", [⟨"a", "local-device", 0, 0, 1920, 1080⟩,
          ⟨"b", "local-device", 1920, 0, 1920, 1080⟩]⟩]
        activeDeviceId := "local-device", selectedScreenId := "a", inputMode := "control" }
    dragState := none }

def samplePeer : LanPeer :=
  { id := "Mac", name := "Mac", ip := "10.0.0.2", transportPublicKey := "key"
    screens := [⟨"main", "", 0, 0, 1440, 900⟩, ⟨"side", "", 1440, 0, 1440, 900⟩] }

/-- A peer is added, the first screen is dragged onto the second one and dropped there,
and the second one is pushed. -/
def sampleSteps : List Step :=
  [.upsertPeer samplePeer, .pointerDown 1 "a", .pointerMove 1 70 10, .pointerUp, .keyDown "b" "ArrowUp" true]

theorem screens_apart_drag :
    let reached := run next sampleEditor sampleSteps
    reached.dragState = none ∧ Apart none (flattenScreens (next reached .pointerUp).layout) :=
  ⟨by decide +kernel, (@screens_apart sampleEditor
    (by decide +kernel) (by decide +kernel) rfl sampleSteps (by decide +kernel)).2.2.2⟩

/-- A peer whose first screen has grown is added again, and the screen lies over the second. -/
example :
    let grown := { samplePeer with screens := [⟨"main", "", 0, 0, 1920, 1080⟩, ⟨"side", "", 1920, 0, 1440, 900⟩] }
    ¬ Apart none (flattenScreens (run next sampleEditor [.upsertPeer samplePeer, .upsertPeer grown]).layout) := by
  decide +kernel

end Examples

end MyKvm.Board
