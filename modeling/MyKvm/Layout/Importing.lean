import MyKvm.Pointer.Geometry

/-!
# MyKvm.Layout.Importing — the import of screens, with every step reported

An advertisement is imported relative to its top left corner.  The difference to the corner is computed for every
screen, also for one whose place the user has given already.

* `screensFromPeerChecked_isSome_iff`: the advertisements which can be imported.
* `screensFromPeer_boxes`: the boxes of what is imported.
-/

namespace MyKvm.Layout

open MyKvm.Lib MyKvm.Pointer

/-- The left end of what is advertised. -/
def peerMinX (peerScreens : List LanPeerScreen) : Int32 := (peerScreens.map (·.x)).min?.getD 0

def peerMinY (peerScreens : List LanPeerScreen) : Int32 := (peerScreens.map (·.y)).min?.getD 0

/-- `screens_from_peer` -/
def screensFromPeerChecked (peerScreens : List LanPeerScreen) (deviceId : String) (existingScreens : List Screen) :
    Option (List Screen) :=
  if peerScreens = [] then some existingScreens else
  peerScreens.zipIdx.mapM fun (peerScreen, index) => do
    let id := uniquePeerScreenId deviceId peerScreen index
    let existing := existingScreens.find? (·.id = id)
    let fallbackX ← sub32 peerScreen.x (peerMinX peerScreens)
    let fallbackY ← sub32 peerScreen.y (peerMinY peerScreens)
    return { id, deviceId
             name := if isBlank peerScreen.name then "Display " ++ Nat.repr (index + 1) else peerScreen.name
             x := (existing.map (·.x)).getD fallbackX
             y := (existing.map (·.y)).getD fallbackY
             width := peerScreen.width
             height := peerScreen.height
             scale := peerScreen.scale
             isPrimary := peerScreen.isPrimary }

/-- No two of the screens are further apart than a word. -/
def InSpan (peerScreens : List LanPeerScreen) : Prop :=
  ∀ p ∈ peerScreens, ∀ q ∈ peerScreens, p.x.toInt - q.x.toInt < 2 ^ 31 ∧ p.y.toInt - q.y.toInt < 2 ^ 31

instance (peerScreens : List LanPeerScreen) : Decidable (InSpan peerScreens) :=
  inferInstanceAs (Decidable (∀ p ∈ peerScreens, ∀ q ∈ peerScreens, _ ∧ _))

/-- The ids and the boxes of what is imported. -/
def importedBoxes (peerScreens : List LanPeerScreen) (deviceId : String) (existing : List (String × Box)) :
    List (String × Box) :=
  if peerScreens = [] then existing else
  peerScreens.mapIdx fun index peerScreen =>
    let id := uniquePeerScreenId deviceId peerScreen index
    let known := (existing.find? (·.1 = id)).map (·.2)
    (id, { x := (known.map (·.x)).getD (peerScreen.x.toInt - (peerMinX peerScreens).toInt)
           y := (known.map (·.y)).getD (peerScreen.y.toInt - (peerMinY peerScreens).toInt)
           width := peerScreen.width.toInt
           height := peerScreen.height.toInt })

/-- A screen by its id, and its box. -/
def placed (screen : Screen) : String × Box := (screen.id, box screen)

variable {peerScreens : List LanPeerScreen} {deviceId : String} {existingScreens : List Screen}

theorem min?_spec {l : List Int32} (hne : l ≠ []) :
    l.min?.getD 0 ∈ l ∧ ∀ v ∈ l, (l.min?.getD 0).toInt ≤ v.toInt := by
  obtain ⟨least, hleast⟩ := Option.isSome_iff_exists.mp (List.isSome_min?_of_ne_nil hne)
  obtain ⟨hmem, hle⟩ := List.min?_eq_some_iff.mp hleast
  rw [hleast, Option.getD_some]
  exact ⟨hmem, fun v hv => Int32.le_iff_toInt_le.mp (hle v hv)⟩

/-- The corner is that of the screens. -/
theorem corner_spec (hne : peerScreens ≠ []) :
    ((∃ q ∈ peerScreens, q.x = peerMinX peerScreens) ∧
        ∀ p ∈ peerScreens, (peerMinX peerScreens).toInt ≤ p.x.toInt) ∧
      (∃ q ∈ peerScreens, q.y = peerMinY peerScreens) ∧
        ∀ p ∈ peerScreens, (peerMinY peerScreens).toInt ≤ p.y.toInt := by
  obtain ⟨hx, hleX⟩ := min?_spec (l := peerScreens.map (·.x)) (by simpa using hne)
  obtain ⟨hy, hleY⟩ := min?_spec (l := peerScreens.map (·.y)) (by simpa using hne)
  exact ⟨⟨List.mem_map.mp hx, fun p hp => hleX p.x (List.mem_map_of_mem hp)⟩,
    List.mem_map.mp hy, fun p hp => hleY p.y (List.mem_map_of_mem hp)⟩

/-- In an advertisement which is in span no screen is too far from the corner. -/
theorem InSpan.sub32_corner (hspan : InSpan peerScreens) {peerScreen : LanPeerScreen}
    (hpeer : peerScreen ∈ peerScreens) :
    sub32 peerScreen.x (peerMinX peerScreens) = some (peerScreen.x - peerMinX peerScreens) ∧
      sub32 peerScreen.y (peerMinY peerScreens) = some (peerScreen.y - peerMinY peerScreens) := by
  obtain ⟨⟨⟨qx, hqx, hqxValue⟩, hlowX⟩, ⟨qy, hqy, hqyValue⟩, hlowY⟩ := corner_spec (List.ne_nil_of_mem hpeer)
  have hx := (hspan peerScreen hpeer qx hqx).1
  have hy := (hspan peerScreen hpeer qy hqy).2
  have hminX := hlowX peerScreen hpeer
  have hminY := hlowY peerScreen hpeer
  rw [hqxValue] at hx
  rw [hqyValue] at hy
  exact ⟨sub32_eq (by omega) hx, sub32_eq (by omega) hy⟩

/-- Nothing overflows in an advertisement which is in span. -/
theorem screensFromPeerChecked_eq (hspan : InSpan peerScreens) :
    screensFromPeerChecked peerScreens deviceId existingScreens =
      some (screensFromPeer peerScreens deviceId existingScreens) := by
  unfold screensFromPeerChecked screensFromPeer
  by_cases hempty : peerScreens = []
  · rw [if_pos hempty, if_pos hempty]
  rw [if_neg hempty, if_neg hempty]
  dsimp only
  rw [List.mapIdx_eq_zipIdx_map]
  refine mapM_eq_map ?_
  rintro ⟨peerScreen, index⟩ hmem
  obtain ⟨hx, hy⟩ := hspan.sub32_corner (List.fst_mem_of_mem_zipIdx hmem)
  dsimp only at hx hy ⊢
  rw [hx, hy, Option.bind_eq_bind, Option.bind_some, Option.bind_some]
  rfl

/-- **What can be imported**: an advertisement which is in span. -/
theorem screensFromPeerChecked_isSome_iff :
    (screensFromPeerChecked peerScreens deviceId existingScreens).isSome ↔ InSpan peerScreens := by
  refine ⟨fun hsome => ?_, fun hspan => by rw [screensFromPeerChecked_eq hspan, Option.isSome_some]⟩
  unfold screensFromPeerChecked at hsome
  intro p hp q hq
  obtain ⟨⟨-, hlowX⟩, -, hlowY⟩ := corner_spec (List.ne_nil_of_mem hp)
  have hminX := hlowX q hq
  have hminY := hlowY q hq
  rw [if_neg (List.ne_nil_of_mem hp), mapM_isSome_iff] at hsome
  obtain ⟨index, hindex, hvalue⟩ := List.getElem_of_mem hp
  have hmem : (p, index) ∈ peerScreens.zipIdx :=
    List.mk_mem_zipIdx_iff_getElem?.mpr (List.getElem?_eq_some_iff.mpr ⟨hindex, hvalue⟩)
  have hanswer := hsome (p, index) hmem
  dsimp only at hanswer
  cases hx : sub32 p.x (peerMinX peerScreens) with
  | none =>
    rw [hx] at hanswer
    cases hanswer
  | some dx =>
    cases hy : sub32 p.y (peerMinY peerScreens) with
    | none =>
      rw [hx, hy] at hanswer
      cases hanswer
    | some dy =>
      rw [sub32_eq_some] at hx hy
      have hdx := dx.toInt_lt
      have hdy := dy.toInt_lt
      omega

theorem find_placed (screens : List Screen) (id : String) :
    (screens.map placed).find? (·.1 = id) = (screens.find? (·.id = id)).map placed := List.find?_map ..

/-- The boxes are those of the import. -/
theorem screensFromPeer_boxes (hspan : InSpan peerScreens) :
    (screensFromPeer peerScreens deviceId existingScreens).map placed =
      importedBoxes peerScreens deviceId (existingScreens.map placed) := by
  unfold screensFromPeer importedBoxes
  by_cases hempty : peerScreens = []
  · rw [if_pos hempty, if_pos hempty]
  rw [if_neg hempty, if_neg hempty]
  dsimp only
  rw [List.mapIdx_eq_zipIdx_map, List.mapIdx_eq_zipIdx_map, List.map_map]
  refine List.map_congr_left ?_
  rintro ⟨peerScreen, index⟩ hmem
  obtain ⟨hsubX, hsubY⟩ := hspan.sub32_corner (List.fst_mem_of_mem_zipIdx hmem)
  have hx : (peerScreen.x - peerMinX peerScreens).toInt = peerScreen.x.toInt - (peerMinX peerScreens).toInt :=
    sub32_eq_some.mp hsubX
  have hy : (peerScreen.y - peerMinY peerScreens).toInt = peerScreen.y.toInt - (peerMinY peerScreens).toInt :=
    sub32_eq_some.mp hsubY
  dsimp only [Function.comp, placed, box]
  rw [find_placed]
  cases existingScreens.find? (·.id = uniquePeerScreenId deviceId peerScreen index) with
  | none =>
    simp only [Option.map_none, Option.getD_none]
    rw [← hx, ← hy]
    rfl
  | some existing => rfl

end MyKvm.Layout
