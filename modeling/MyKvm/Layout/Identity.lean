import Mathlib.Data.List.Nodup
import MyKvm.Layout.Screens
import MyKvm.Lib.Trimming
import MyKvm.Receiver.Runtime

/-!
# MyKvm.Layout.Identity — the two machines mean the same display

A receiver numbers its screens `local-display-1`, `local-display-2` and so on.  Importing these names keeps them
whole (`sanitizeId_generated`), so taking the device's id off again gives them back, and the hash is taken of the
same data on both sides.

* `import_ids`, `import_revisions`, `import_distinct`: each screen of an import.
* `display_identity_agreement`: the result, down to the display which the receiver finds for a `Prepare`.
-/

namespace MyKvm.Layout

open MyKvm.Lib MyKvm.Receiver

/-- The id which `detect_local_screens` gives to the screen at `index`. -/
def localDisplayId (index : ℕ) : String := "local-display-" ++ Nat.repr (index + 1)

/-! ### The names survive -/

/-- A text whose ends are not trimmed. -/
theorem trimMatches_eq_self {p : Char → Bool} {first last : Char} {middle : List Char} (hfirst : p first = false)
    (hlast : p last = false) : trimMatches p (first :: middle ++ [last]) = first :: middle ++ [last] := by
  refine trimMatches_eq_self_iff.mpr ⟨?_, ?_⟩
  · rintro c ⟨⟩
    exact hfirst
  · intro c hc
    rw [List.getLast?_concat] at hc
    cases hc
    exact hlast

theorem toList_localDisplayId (index : ℕ) :
    (localDisplayId index).toList = "local-display-".toList ++ Nat.toDigits 10 (index + 1) := by
  rw [localDisplayId, String.toList_append, Nat.toList_repr]

/-- The generated names differ. -/
theorem localDisplayId_injective : Function.Injective localDisplayId := by
  intro i j h
  have hlists := congrArg String.toList h
  rw [toList_localDisplayId, toList_localDisplayId] at hlists
  have hdigits := List.append_cancel_left hlists
  have hnumbers := congrArg (Nat.ofDigitChars 10 · 0) hdigits
  simp only [Nat.ofDigitChars_ten_toDigits] at hnumbers
  omega

/-- A generated name ends in a digit. -/
theorem localDisplayId_ends (index : ℕ) : ∃ middle last, (localDisplayId index).toList = 'l' :: middle ++ [last] ∧
    last.isDigit = true ∧ ∀ c ∈ middle, c = '-' ∨ c.isLower = true ∨ c.isDigit = true := by
  have hne : Nat.toDigits 10 (index + 1) ≠ [] := Nat.toDigits_ne_nil
  obtain ⟨digits, last, hdigits⟩ : ∃ digits last, Nat.toDigits 10 (index + 1) = digits ++ [last] :=
    ⟨_, _, (List.dropLast_append_getLast hne).symm⟩
  have hall : ∀ c ∈ digits ++ [last], c.isDigit = true := by
    intro c hc
    rw [← hdigits] at hc
    exact Nat.isDigit_of_mem_toDigits (by decide) (by decide) hc
  refine ⟨"ocal-display-".toList ++ digits, last, ?_, hall last (by simp), fun c hc => ?_⟩
  · rw [toList_localDisplayId, hdigits]
    simp
  · rcases List.mem_append.mp hc with hc | hc
    · have hfront : ∀ c ∈ "ocal-display-".toList, c = '-' ∨ c.isLower = true := by simp
      rcases hfront c hc with hc | hc
      · exact .inl hc
      · exact .inr (.inl hc)
    · exact .inr (.inr (hall c (by simp [hc])))

/-- Lower-case letters, digits and hyphens stay as they are. -/
theorem sanitize_char {c : Char} (h : c = '-' ∨ c.isLower = true ∨ c.isDigit = true) :
    (if c.isAlphanum then c.toLower else '-') = c := by
  rcases h with rfl | h | h
  · decide
  · have hupper : ¬ (c.val ≥ 'A'.val ∧ c.val ≤ 'Z'.val) := by
      obtain ⟨hlow, hhigh⟩ := Bool.and_eq_true_iff.mp h
      have hlow := UInt32.le_iff_toNat_le.mp (of_decide_eq_true hlow)
      rintro ⟨-, hletter⟩
      have hletter := UInt32.le_iff_toNat_le.mp hletter
      exact absurd (hlow.trans hletter) (by decide)
    have halpha : c.isAlpha = true := Bool.or_eq_true_iff.mpr (.inr h)
    rw [if_pos (by simp [Char.isAlphanum, halpha])]
    exact dif_neg hupper
  · have hupper : ¬ (c.val ≥ 'A'.val ∧ c.val ≤ 'Z'.val) := by
      simp [Char.isDigit, UInt32.le_iff_toNat_le] at h ⊢
      omega
    rw [if_pos (by simp [Char.isAlphanum, h])]
    exact dif_neg hupper

theorem isWhitespace_of_isDigit {c : Char} (h : c.isDigit = true) : isWhitespace c = false := by
  have hrange : 48 ≤ c.toNat ∧ c.toNat ≤ 57 := by
    simpa [Char.isDigit, UInt32.le_iff_toNat_le] using h
  simp [isWhitespace]
  omega

theorem not_hyphen_of_isDigit {c : Char} (h : c.isDigit = true) : (c == '-') = false := by
  simp only [beq_eq_false_iff_ne]
  rintro rfl
  cases h

/-- **A generated name is kept whole.** -/
theorem sanitizeId_generated (index : ℕ) : sanitizeId (localDisplayId index) = localDisplayId index := by
  obtain ⟨middle, last, hlist, hdigit, hmiddle⟩ := localDisplayId_ends index
  have hmap : ('l' :: middle ++ [last]).map (fun c => if c.isAlphanum then c.toLower else '-') =
      'l' :: middle ++ [last] := by
    refine (List.map_congr_left fun c hc => sanitize_char ?_).trans (List.map_id _)
    rcases List.mem_append.mp hc with hc | hc
    · rcases List.mem_cons.mp hc with rfl | hc
      · exact .inr (.inl (by decide))
      · exact hmiddle c hc
    · rw [List.mem_singleton.mp hc]
      exact .inr (.inr hdigit)
  have htrim : trim ('l' :: middle ++ [last]) = 'l' :: middle ++ [last] :=
    trimMatches_eq_self (p := isWhitespace) (by decide) (isWhitespace_of_isDigit hdigit)
  have hhyphen : trimMatches (· == '-') ('l' :: middle ++ [last]) = 'l' :: middle ++ [last] :=
    trimMatches_eq_self (by decide) (not_hyphen_of_isDigit hdigit)
  unfold sanitizeId
  rw [hlist, htrim, hmap]
  dsimp only
  rw [hhyphen, ← hlist, String.ofList_toList]

theorem isBlank_generated (index : ℕ) : isBlank (localDisplayId index) = false := by
  obtain ⟨middle, last, hlist, -, -⟩ := localDisplayId_ends index
  have hfirst : isWhitespace 'l' = false := by decide
  rw [isBlank, hlist, List.cons_append, List.all_cons, hfirst]
  rfl

theorem localDisplayId_ne_empty (index : ℕ) : localDisplayId index ≠ "" := by
  intro hempty
  have hlist := congrArg String.toList hempty
  obtain ⟨middle, last, hends, -, -⟩ := localDisplayId_ends index
  rw [hends] at hlist
  cases hlist

/-- The id of an imported screen is the generated one with the device's in front. -/
theorem uniquePeerScreenId_generated {deviceId : String} {screen : LanPeerScreen} {index : ℕ}
    (h : screen.id = localDisplayId index) (place : ℕ) :
    uniquePeerScreenId deviceId screen place = deviceId ++ "-" ++ localDisplayId index := by
  have hblank := isBlank_generated index
  unfold uniquePeerScreenId
  rw [h, hblank]
  simp [sanitizeId_generated, localDisplayId_ne_empty]

/-! ### An import -/

/-- The screens of a receiver, as the platform numbers them. -/
def Numbered (screens : List LanPeerScreen) : Prop :=
  screens.map (·.id) = (List.range screens.length).map localDisplayId

section Import

variable {screens : List LanPeerScreen} (hnumbered : Numbered screens) (hne : screens ≠ []) (deviceId : String)
  (existing : List Screen)

include hnumbered in
theorem numbered_get {k : ℕ} {screen : LanPeerScreen} (h : screens[k]? = some screen) :
    screen.id = localDisplayId k := by
  obtain ⟨hk, -⟩ := List.getElem?_eq_some_iff.mp h
  have hid : (screens.map (·.id))[k]? = some screen.id := by rw [List.getElem?_map, h, Option.map_some]
  rw [hnumbered, List.getElem?_map, List.getElem?_range hk, Option.map_some] at hid
  exact (Option.some.inj hid).symm

include hnumbered hne in
/-- What an import keeps of a screen, and what it calls it; whatever is read off these agrees. -/
theorem import_map {β : Type} {f : Screen → β} {g : LanPeerScreen → β}
    (h : ∀ (imported : Screen) (screen : LanPeerScreen), imported.id = deviceId ++ "-" ++ screen.id →
      imported.width = screen.width → imported.height = screen.height → imported.scale = screen.scale →
      f imported = g screen) : (screensFromPeer screens deviceId existing).map f = screens.map g := by
  rw [screensFromPeer, if_neg hne]
  apply List.ext_getElem?
  intro k
  rw [List.getElem?_map, List.getElem?_map, List.getElem?_mapIdx]
  cases hscreen : screens[k]? with
  | none => rfl
  | some screen =>
    have hid := numbered_get hnumbered hscreen
    have hunique : uniquePeerScreenId deviceId screen k = deviceId ++ "-" ++ localDisplayId k :=
      uniquePeerScreenId_generated hid k
    rw [← hid] at hunique
    exact congrArg some (h _ screen hunique rfl rfl rfl)

include hnumbered hne in
/-- **The ids**, with the device's taken off again. -/
theorem import_ids {device : Device} (hdevice : device.id = deviceId) :
    (screensFromPeer screens deviceId existing).map (peerScreenId device) = screens.map (·.id) := by
  subst hdevice
  exact import_map hnumbered hne device.id existing fun imported screen hid _ _ _ => peerScreenId_prefixed hid

/-- The hash of an advertised screen. -/
def peerScreenRevision (screen : LanPeerScreen) : UInt64 :=
  displayLayoutRevision screen.id screen.width screen.height screen.scale

include hnumbered hne in
/-- **The revisions**, as the controller computes them. -/
theorem import_revisions {device : Device} (hdevice : device.id = deviceId) :
    (screensFromPeer screens deviceId existing).map
      (fun screen => screenLayoutRevision (wireScreen device screen)) =
      screens.map peerScreenRevision := by
  subst hdevice
  refine import_map hnumbered hne device.id existing fun imported screen hid hwidth hheight hscale => ?_
  show displayLayoutRevision (peerScreenId device imported) imported.width imported.height imported.scale = _
  rw [peerScreenId_prefixed hid, hwidth, hheight, hscale]
  rfl

include hnumbered hne in
/-- **The imported ids differ.** -/
theorem import_distinct : ((screensFromPeer screens deviceId existing).map (·.id)).Nodup := by
  have hwire : (screensFromPeer screens deviceId existing).map (peerScreenId ⟨deviceId, "", []⟩) =
    screens.map (·.id) :=
    import_ids hnumbered hne deviceId existing rfl
  have hscreens : (screens.map (·.id)).Nodup := by
    rw [hnumbered]
    exact List.Nodup.map localDisplayId_injective List.nodup_range
  rw [← hwire] at hscreens
  have hfactor : (screensFromPeer screens deviceId existing).map (peerScreenId ⟨deviceId, "", []⟩) =
      ((screensFromPeer screens deviceId existing).map (·.id)).map (withoutFront (deviceId ++ "-")) := by
    rw [List.map_map]
    rfl
  rw [hfactor] at hscreens
  exact List.Nodup.of_map _ hscreens

end Import

/-! ### The receiver knows the display -/

/-- The device whose screens the receiver accepts. -/
def receivingDevice (layout : LayoutState) : Option Device :=
  layout.devices.find? fun device => device.role = "local" || device.id = layout.activeDeviceId

/-- The platform has these screens. -/
def Native (native : LayoutState) (screens : List Screen) : Prop :=
  ∀ screen ∈ screens, ∃ device ∈ native.devices, ∃ other ∈ device.screens, other.id = screen.id

theorem mem_v2ReceiverDisplayLayouts {receiver native : LayoutState} {own : Device}
    (hown : receivingDevice receiver = some own) (hnative : Native native own.screens) {screen : Screen}
    (hscreen : screen ∈ own.screens) :
    ∃ l ∈ v2ReceiverDisplayLayouts receiver native, l.displayId = screen.id ∧
      l.layoutRevision = screenLayoutRevision screen := by
  obtain ⟨device, hdevice, other, hother, hid⟩ := hnative screen hscreen
  have hfound : ((native.devices.flatMap (·.screens)).find? (·.id = screen.id)).isSome = true := by
    rw [List.find?_isSome]
    exact ⟨other, List.mem_flatMap.mpr ⟨device, hdevice, hother⟩, by simpa using hid⟩
  obtain ⟨found, hfound⟩ := Option.isSome_iff_exists.mp hfound
  unfold receivingDevice at hown
  rw [v2ReceiverDisplayLayouts, hown]
  refine ⟨_, List.mem_filterMap.mpr ⟨screen, hscreen, by rw [hfound]; rfl⟩, rfl, rfl⟩

/-- A `Prepare` for a screen of the receiver finds its display. -/
theorem findLayout_isSome {receiver native : LayoutState} {own : Device}
    (hown : receivingDevice receiver = some own)
    (hnative : Native native own.screens) {screen : Screen} (hscreen : screen ∈ own.screens)
    {r : ReceiverSessionRuntime} (hr : r.displayLayouts = v2ReceiverDisplayLayouts receiver native) :
    (r.findLayout screen.id (screenLayoutRevision screen)).isSome = true := by
  obtain ⟨l, hl, hid, hrevision⟩ := mem_v2ReceiverDisplayLayouts hown hnative hscreen
  rw [ReceiverSessionRuntime.findLayout, List.find?_isSome, hr]
  exact ⟨l, hl, by simp [hid, hrevision]⟩

/-- **Display identity agreement.**  Every screen which the controller imports from a receiver with generated ids
yields the receiver's own id and the receiver's own revision, and the imported ids differ.  So a `Prepare` for an
imported screen names a display which the receiver finds, where it accepts the screens which it advertises. -/
theorem display_identity_agreement (receiver : LayoutState) (own : Device) (hown : localDevice receiver = some own)
    (hne : own.screens ≠ []) (hids : own.screens.map (·.id) = (List.range own.screens.length).map localDisplayId)
    (device : Device) (existing : List Screen) :
    let imported := screensFromPeer (localPeerScreens receiver) device.id existing
    imported.map (peerScreenId device) = own.screens.map (·.id) ∧
    imported.map (fun screen => screenLayoutRevision (wireScreen device screen)) =
      own.screens.map screenLayoutRevision ∧
    (imported.map (·.id)).Nodup ∧
    (∀ native, receivingDevice receiver = some own → Native native own.screens → ∀ screen ∈ imported,
      ∀ r : ReceiverSessionRuntime, r.displayLayouts = v2ReceiverDisplayLayouts receiver native →
        (r.findLayout (peerScreenId device screen) (screenLayoutRevision (wireScreen device screen))).isSome =
        true) := by
  have hscreens : localPeerScreens receiver = own.screens.map screenToPeerScreen := by rw [localPeerScreens, hown]
  rw [hscreens]
  intro imported
  have hnumbered : Numbered (own.screens.map screenToPeerScreen) := by
    rw [Numbered, List.map_map, List.length_map]
    exact hids
  have hnonempty : own.screens.map screenToPeerScreen ≠ [] := by simpa using hne
  have himported : imported.map (peerScreenId device) = own.screens.map (·.id) := by
    rw [import_ids hnumbered hnonempty device.id existing rfl, List.map_map]
    rfl
  have hrevisions : imported.map (fun screen => screenLayoutRevision (wireScreen device screen)) =
      own.screens.map screenLayoutRevision := by
    rw [import_revisions hnumbered hnonempty device.id existing rfl, List.map_map]
    rfl
  refine ⟨himported, hrevisions, import_distinct hnumbered hnonempty device.id existing, ?_⟩
  intro native hreceiving hnative screen hscreen r hr
  obtain ⟨k, hk⟩ := List.mem_iff_getElem?.mp hscreen
  -- the screen of the receiver at the same place
  have hid := congrArg (·[k]?) himported
  have hrevision := congrArg (·[k]?) hrevisions
  simp only [List.getElem?_map, hk, Option.map_some] at hid hrevision
  cases hscreen' : own.screens[k]? with
  | none =>
    rw [hscreen'] at hid
    cases hid
  | some screen' =>
    rw [hscreen'] at hid hrevision
    rw [Option.some.inj hid, Option.some.inj hrevision]
    exact findLayout_isSome hreceiving hnative (List.mem_of_getElem? hscreen') hr

section Examples

def sampleScreen (index : ℕ) (y : Int32) : Screen :=
  ⟨localDisplayId index, "local-device", "Display", 0, y, 1920, 1080, 0x3FF0000000000000, index == 0⟩

/-- A machine with two screens, one above the other. -/
def sampleReceiver : LayoutState :=
  { devices := [⟨"local-device", "local", [sampleScreen 0 0, sampleScreen 1 1080]⟩],
    activeDeviceId := "local-device" }

theorem display_identity_agreement_two :
    let imported := screensFromPeer (localPeerScreens sampleReceiver) "peer-a" []
    imported.map (peerScreenId ⟨"peer-a", "client", []⟩) = [localDisplayId 0, localDisplayId 1] ∧
    (imported.map (·.id)).Nodup := by
  have h :=
    display_identity_agreement sampleReceiver ⟨"local-device", "local", [sampleScreen 0 0, sampleScreen 1 1080]⟩
    rfl (by simp) rfl ⟨"peer-a", "client", []⟩ []
  exact ⟨h.1, h.2.2.1⟩

end Examples

end MyKvm.Layout
