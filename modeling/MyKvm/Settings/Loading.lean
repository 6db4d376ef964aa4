import MyKvm.Settings.Normal

/-!
# MyKvm.Settings.Loading — loading a layout twice

A layout which is kept is merged with the detected one, and merging it again changes nothing
(`mergedLayout_idem`).  What is left is the check for the old demo layout: it looks at the hosts of all devices,
this machine's own among them, so that a layout which has just been loaded may be thrown away the next time.

* `shaped_merged`, `shaped_detected`: the local device, the active one and the selected screen.
* `loading_idempotent_iff`: when loading twice is loading once.
-/

namespace MyKvm.Settings

open MyKvm.Lib MyKvm.Hook
open MyKvm.Layout (Screen localDisplayId localDisplayId_injective)
open MyKvm.Discovery (PairedController TrustedPeerRecord protocolVersion normalizeTransportPort preferredQuicPort
  normalizeQuicPort)

/-- A screen without its place. -/
def unplaced (screen : Screen) : Screen := { screen with x := 0, y := 0 }

/-- The local device stands first and has its id alone, and what is active and what is selected exists. -/
structure Shaped (detected : Device) (layout : LayoutState) : Prop where
  localFirst : ∃ placed others, layout.devices = { detected with screens := placed } :: others ∧
    placed.map unplaced = detected.screens.map unplaced ∧ ∀ device ∈ others, device.id ≠ detected.id
  activeExists : ∃ device ∈ layout.devices, device.id = layout.activeDeviceId
  selectedExists : ∃ device ∈ layout.devices, ∃ screen ∈ device.screens, screen.id = layout.selectedScreenId

/-- The saved layout says in all its settings what is detected anyway. -/
structure AlreadyDetected (entropy : Entropy) (saved : LayoutState) (detection : Detection) : Prop where
  devices : ∀ device ∈ saved.devices, device.id = (detectedDevice detection).id
  screens : mergeDetectedLocalDevice saved (detectedDevice detection) = detectedDevice detection
  selected : hasScreen [detectedDevice detection] saved.selectedScreenId = true →
    saved.selectedScreenId = (detectLocalLayout detection).selectedScreenId
  inputMode : normalizeInputMode saved.inputMode = "control"
  machineRole : normalizeMachineRole saved.machineRole = "unset"
  clusterId : normalizeClusterId entropy saved.clusterId = defaultClusterId detection.entropy
  pairSecret : normalizePairSecret entropy saved.pairSecret = defaultPairSecret detection.entropy
  pairedControllers : normalizePairedControllers saved.pairedControllers = []
  trustedPeers : normalizeTrustedPeers saved.trustedPeers = []
  clipboardSync : saved.clipboardSync = false
  clipboardImageSync : saved.clipboardImageSync = false
  clipboardTextLimitBytes :
    normalizeClipboardTextLimitBytes saved.clipboardTextLimitBytes = clipboardTextLimitDefaultBytes
  fileTransferEnabled : saved.fileTransferEnabled = true
  language : normalizeLanguage saved.language = "cn"
  themeMode : normalizeThemeMode saved.themeMode = "system"
  performanceMonitor : saved.performanceMonitor = false
  transportPortMode : normalizeTransportPortMode saved.transportPortMode = "auto"
  transportPort : normalizeTransportPort saved.transportPort = detection.transportPort
  quicPort : normalizeQuicPort (normalizeTransportPort saved.transportPort) saved.quicPort =
    preferredQuicPort detection.transportPort
  modifierRemap : saved.modifierRemap = false
  modifierMap : normalizeModifierMap saved.modifierMap = defaultModifierMap
  edgeSwitchHotkey : normalizedEdgeSwitchHotkey saved.edgeSwitchHotkey = defaultEdgeSwitchHotkey
  screenSwitchHotkeys : saved.screenSwitchHotkeys = defaultScreenSwitchHotkeys
  controlHotkeys : saved.controlHotkeys = ControlHotkeys.default
  gameMode : saved.gameMode = false

/-- A layout which is thrown away is loaded the same way again if the detected one is thrown away
too, or is left alone; one which is kept, if the detected device is not taken for an old demo device,
or nothing but it was saved. -/
def LoadsAgain (entropy : Entropy) (saved : LayoutState) (detection : Detection) : Prop :=
  if isOldDemoLayout saved ∨ saved.devices = [] then
    isOldDemoDevice (detectedDevice detection) = true ∨ 1024 ≤ detection.transportPort.toNat
  else isOldDemoDevice (detectedDevice detection) = true → AlreadyDetected entropy saved detection

/-! ### The local device -/

section Merging

variable (entropy again : Entropy) (saved detected : LayoutState) (device : Device)

@[simp] theorem merge_id : (mergeDetectedLocalDevice saved device).id = device.id := by
  unfold mergeDetectedLocalDevice
  split <;> rfl

theorem isOldDemoDevice_merge :
    isOldDemoDevice (mergeDetectedLocalDevice saved device) = isOldDemoDevice device := by
  unfold mergeDetectedLocalDevice
  split <;> rfl

theorem mergedLayout_devices : (mergedLayout entropy saved detected device).devices =
    mergeDetectedLocalDevice saved device ::
      saved.devices.filter fun other => other.id ≠ (mergeDetectedLocalDevice saved device).id &&
        !isOldDemoDevice other :=
  rfl

theorem mergedLayout_active : (mergedLayout entropy saved detected device).activeDeviceId =
    if (mergedLayout entropy saved detected device).devices.any (·.id = saved.activeDeviceId) then
      saved.activeDeviceId
    else (mergeDetectedLocalDevice saved device).id :=
  rfl

theorem mergedLayout_selected : (mergedLayout entropy saved detected device).selectedScreenId =
    if hasScreen (mergedLayout entropy saved detected device).devices saved.selectedScreenId then
      saved.selectedScreenId
    else detected.selectedScreenId :=
  rfl

/-- The active device is one of the layout. -/
theorem any_active : (mergedLayout entropy saved detected device).devices.any
    (·.id = (mergedLayout entropy saved detected device).activeDeviceId) = true := by
  rw [mergedLayout_active]
  split
  · next hany => exact hany
  · simp [mergedLayout_devices]

/-- Of a layout which is kept, only the local device may look like the old demo. -/
theorem isOldDemoLayout_merged :
    isOldDemoLayout (mergedLayout entropy saved detected device) = isOldDemoDevice device := by
  have hothers : (saved.devices.filter fun other =>
      other.id ≠ (mergeDetectedLocalDevice saved device).id && !isOldDemoDevice other).any
        isOldDemoDevice = false := by
    rw [List.any_eq_false]
    intro other hother
    simpa using (Bool.and_eq_true_iff.mp (List.mem_filter.mp hother).2).2
  rw [isOldDemoLayout, mergedLayout_devices, List.any_cons, hothers, isOldDemoDevice_merge, Bool.or_false]

variable {device}

/-- The screens are put where they have been put before. -/
theorem merge_merged (hnodup : (device.screens.map (·.id)).Nodup) :
    mergeDetectedLocalDevice (mergedLayout entropy saved detected device) device =
      mergeDetectedLocalDevice saved device := by
  have hfirst : (mergedLayout entropy saved detected device).devices.find? (·.id = device.id) =
      some (mergeDetectedLocalDevice saved device) := by
    rw [mergedLayout_devices, List.find?_cons_of_pos (by simp)]
  rw [mergeDetectedLocalDevice, hfirst]
  cases hsaved : saved.devices.find? (·.id = device.id) with
  | none =>
    have hmerge : mergeDetectedLocalDevice saved device = device := by
      rw [mergeDetectedLocalDevice, hsaved]
    rw [hmerge]
    dsimp only
    rw [map_placeScreen_self hnodup]
  | some old =>
    have hmerge : mergeDetectedLocalDevice saved device =
        { device with screens := device.screens.map (placeScreen old.screens) } := by
      rw [mergeDetectedLocalDevice, hsaved]
    have hscreens : device.screens.map (placeScreen (device.screens.map (placeScreen old.screens))) =
        device.screens.map (placeScreen old.screens) :=
      List.map_congr_left fun screen hscreen => placeScreen_placed _ hnodup hscreen
    rw [hmerge]
    dsimp only
    rw [hscreens]

/-- **Merging twice is merging once**, in every field. -/
theorem mergedLayout_idem (hnodup : (device.screens.map (·.id)).Nodup) :
    mergedLayout again (mergedLayout entropy saved detected device) detected device =
      mergedLayout entropy saved detected device := by
  have hdevices : (mergedLayout again (mergedLayout entropy saved detected device) detected device).devices =
      (mergedLayout entropy saved detected device).devices := by
    rw [mergedLayout_devices, merge_merged entropy saved detected hnodup, mergedLayout_devices]
    simp
  have hactive : (mergedLayout again (mergedLayout entropy saved detected device) detected device).activeDeviceId =
      (mergedLayout entropy saved detected device).activeDeviceId := by
    rw [mergedLayout_active, hdevices, if_pos (any_active entropy saved detected device)]
  have hselected :
      (mergedLayout again (mergedLayout entropy saved detected device) detected device).selectedScreenId =
      (mergedLayout entropy saved detected device).selectedScreenId := by
    rw [mergedLayout_selected, hdevices, mergedLayout_selected entropy]
    split
    · rfl
    · exact ite_self _
  -- the settings, one after the other
  refine LayoutState.ext hdevices hactive hselected ?_ ?_ ?_ ?_ ?_ ?_ ?_ ?_ ?_ ?_ ?_ ?_ ?_ ?_ ?_ ?_ ?_ ?_
    ?_ ?_ ?_ ?_ <;>
    simp only [mergedLayout, normalizeInputMode_idem, normalizeMachineRole_idem, normalizeClusterId_idem,
      normalizePairSecret_idem, normalizePairedControllers_idem, normalizeTrustedPeers_idem,
      normalizeClipboardTextLimitBytes_idem, normalizeLanguage_idem, normalizeThemeMode_idem,
      normalizeTransportPortMode_idem, normalizeTransportPort_idem, normalizeQuicPort_idem,
      normalizeModifierMap_idem, normalizedEdgeSwitchHotkey_idem]

end Merging

/-! ### The shape of a loaded layout -/

theorem unplaced_placeScreen (savedScreens : List Screen) (screen : Screen) :
    unplaced (placeScreen savedScreens screen) = unplaced screen := by
  unfold placeScreen
  split <;> rfl

theorem merge_unplaced (saved : LayoutState) (device : Device) :
    (mergeDetectedLocalDevice saved device).screens.map unplaced = device.screens.map unplaced := by
  unfold mergeDetectedLocalDevice
  split
  · rw [List.map_map]
    exact List.map_congr_left fun screen _ => unplaced_placeScreen _ screen
  · rfl

theorem merge_eq (saved : LayoutState) (device : Device) : mergeDetectedLocalDevice saved device =
    { device with screens := (mergeDetectedLocalDevice saved device).screens } := by
  unfold mergeDetectedLocalDevice
  split <;> rfl

/-- What is selected after the detection is a detected screen. -/
theorem detected_selected (detection : Detection) : ∃ screen ∈ (detectedDevice detection).screens,
    screen.id = (detectLocalLayout detection).selectedScreenId := by
  have hne : (detectedDevice detection).screens ≠ [] := by
    intro hnil
    have hids := detectLocalScreens_ids detection.monitors "local-device"
    have hscreens : detectLocalScreens detection.monitors "local-device" = [] := hnil
    rw [hscreens] at hids
    have hlength := congrArg List.length hids
    simp at hlength
    omega
  show ∃ screen ∈ (detectedDevice detection).screens, screen.id =
    ((((detectedDevice detection).screens.find? (·.isPrimary)).or (detectedDevice detection).screens.head?).map
      (·.id)).getD "local-display-1"
  cases hprimary : (detectedDevice detection).screens.find? (·.isPrimary) with
  | some screen => exact ⟨screen, List.mem_of_find?_eq_some hprimary, rfl⟩
  | none =>
    cases hscreens : (detectedDevice detection).screens with
    | nil => exact absurd hscreens hne
    | cons screen screens => exact ⟨screen, List.mem_cons_self, rfl⟩

theorem shaped_detected (detection : Detection) :
    Shaped (detectedDevice detection) (detectLocalLayout detection) where
  localFirst := ⟨(detectedDevice detection).screens, [], rfl, rfl, by simp⟩
  activeExists := ⟨detectedDevice detection, by simp [detectLocalLayout], rfl⟩
  selectedExists := by
    obtain ⟨screen, hscreen, hid⟩ := detected_selected detection
    exact ⟨detectedDevice detection, by simp [detectLocalLayout], screen, hscreen, hid⟩

theorem shaped_merged (entropy : Entropy) (saved : LayoutState) (detection : Detection) :
    Shaped (detectedDevice detection)
      (mergedLayout entropy saved (detectLocalLayout detection) (detectedDevice detection)) where
  localFirst := by
    refine ⟨_, saved.devices.filter fun other =>
        other.id ≠ (mergeDetectedLocalDevice saved (detectedDevice detection)).id && !isOldDemoDevice other,
      ?_, merge_unplaced saved (detectedDevice detection), ?_⟩
    · rw [← merge_eq]
      rfl
    · intro device hdevice
      simpa using (Bool.and_eq_true_iff.mp (List.mem_filter.mp hdevice).2).1
  activeExists := by
    simpa using any_active entropy saved (detectLocalLayout detection) (detectedDevice detection)
  selectedExists := by
    rw [mergedLayout_selected]
    split
    · next h => simpa [hasScreen] using h
    · -- the detected screens are there, wherever they have been put
      obtain ⟨screen, hscreen, hid⟩ := detected_selected detection
      have hunplaced : unplaced screen ∈
          (mergeDetectedLocalDevice saved (detectedDevice detection)).screens.map unplaced := by
        rw [merge_unplaced]
        exact List.mem_map_of_mem hscreen
      obtain ⟨placed, hplaced, heq⟩ := List.mem_map.mp hunplaced
      exact ⟨_, List.mem_cons_self, placed, hplaced, (congrArg Screen.id heq).trans hid⟩

/-! ### Twice -/

theorem normalizeSavedLayout_eq (entropy : Entropy) (saved : LayoutState) (detection : Detection) :
    normalizeSavedLayout entropy saved (detectLocalLayout detection) =
      some (if isOldDemoLayout saved ∨ saved.devices = [] then detectLocalLayout detection
        else mergedLayout entropy saved (detectLocalLayout detection) (detectedDevice detection)) := by
  unfold normalizeSavedLayout
  split <;> rfl

/-- Every default is in its own range. -/
theorem defaults_normal : normalizeInputMode "control" = "control" ∧ normalizeMachineRole "unset" = "unset" ∧
    normalizeClipboardTextLimitBytes clipboardTextLimitDefaultBytes = clipboardTextLimitDefaultBytes ∧
    normalizeLanguage "cn" = "cn" ∧ normalizeThemeMode "system" = "system" ∧
    normalizeTransportPortMode "auto" = "auto" ∧
    normalizeModifierMap defaultModifierMap = defaultModifierMap ∧
    normalizedEdgeSwitchHotkey defaultEdgeSwitchHotkey = defaultEdgeSwitchHotkey := by
  decide

/-- A layout which is kept becomes the detected one if it says nothing else. -/
theorem mergedLayout_eq_detected_iff {saved : LayoutState} (hdemo : isOldDemoLayout saved = false)
    (entropy : Entropy) (detection : Detection) :
    mergedLayout entropy saved (detectLocalLayout detection)
    (detectedDevice detection) = detectLocalLayout detection ↔
      AlreadyDetected entropy saved detection := by
  have hothers : (saved.devices.filter fun other => other.id ≠
      (mergeDetectedLocalDevice saved (detectedDevice detection)).id && !isOldDemoDevice other) = [] ↔
      ∀ device ∈ saved.devices, device.id = (detectedDevice detection).id := by
    rw [List.filter_eq_nil_iff]
    refine forall₂_congr fun device hdevice => ?_
    have hkept : isOldDemoDevice device = false := by
      simpa using List.any_eq_false.mp hdemo device hdevice
    simp [hkept]
  constructor
  · intro h
    have hdevices : (mergedLayout entropy saved (detectLocalLayout detection) (detectedDevice detection)).devices =
        [detectedDevice detection] := by
      rw [h]
      rfl
    have hselected := congrArg LayoutState.selectedScreenId h
    rw [mergedLayout_selected, hdevices] at hselected
    rw [mergedLayout_devices] at hdevices
    obtain ⟨hlocal, hrest⟩ := List.cons.inj hdevices
    simp only [mergedLayout, detectLocalLayout, LayoutState.mk.injEq] at h
    obtain ⟨-, -, -, hmode, hrole, hcluster, hsecret, hcontrollers, hpeers, hsync, himages, hlimit, htransfer,
      hlanguage, htheme, hmonitor, hportMode, hport, hquic, hremap, hmap, hedge, hswitch, hcontrol, hgame⟩ := h
    have hsame : hasScreen [detectedDevice detection] saved.selectedScreenId = true →
        saved.selectedScreenId = (detectLocalLayout detection).selectedScreenId := by
      intro hscreen
      rw [if_pos hscreen] at hselected
      exact hselected
    exact ⟨hothers.mp hrest, hlocal, hsame, hmode, hrole, hcluster, hsecret, hcontrollers, hpeers, hsync,
      himages, hlimit, htransfer, hlanguage, htheme, hmonitor, hportMode, hport, hquic, hremap, hmap,
      hedge, hswitch, hcontrol, hgame⟩
  · intro h
    have hdevices : (mergedLayout entropy saved (detectLocalLayout detection) (detectedDevice detection)).devices =
        [detectedDevice detection] := by
      rw [mergedLayout_devices, hothers.mpr h.devices, h.screens]
    have hactive :
        (mergedLayout entropy saved (detectLocalLayout detection) (detectedDevice detection)).activeDeviceId =
        (detectedDevice detection).id := by
      have hany := any_active entropy saved (detectLocalLayout detection) (detectedDevice detection)
      rw [hdevices] at hany
      simpa [eq_comm] using hany
    have hselected :
        (mergedLayout entropy saved (detectLocalLayout detection) (detectedDevice detection)).selectedScreenId =
        (detectLocalLayout detection).selectedScreenId := by
      rw [mergedLayout_selected, hdevices]
      split
      · next hscreen => exact h.selected hscreen
      · rfl
    refine LayoutState.ext hdevices hactive hselected ?_ ?_ ?_ ?_ ?_ ?_ ?_ ?_ ?_ ?_ ?_ ?_ ?_ ?_ ?_ ?_ ?_ ?_
      ?_ ?_ ?_ ?_ <;>
      simp only [mergedLayout, detectLocalLayout, h.inputMode, h.machineRole, h.clusterId, h.pairSecret,
        h.pairedControllers, h.trustedPeers, h.clipboardSync, h.clipboardImageSync, h.clipboardTextLimitBytes,
        h.fileTransferEnabled, h.language, h.themeMode, h.performanceMonitor, h.transportPortMode, h.transportPort,
        ← h.quicPort, h.modifierRemap, h.modifierMap, h.edgeSwitchHotkey, h.screenSwitchHotkeys, h.controlHotkeys,
        h.gameMode]

/-- The detected layout is kept as it is unless its port is a privileged one. -/
theorem mergedLayout_detected_iff {detection : Detection}
    (hdemo : isOldDemoDevice (detectedDevice detection) = false) (entropy : Entropy) :
    mergedLayout entropy (detectLocalLayout detection) (detectLocalLayout detection) (detectedDevice detection) =
      detectLocalLayout detection ↔ 1024 ≤ detection.transportPort.toNat := by
  have hlayout : isOldDemoLayout (detectLocalLayout detection) = false := (Bool.or_false _).trans hdemo
  rw [mergedLayout_eq_detected_iff hlayout, ← normalizeTransportPort_eq_self_iff]
  refine ⟨fun h => h.transportPort, fun hport => ?_⟩
  have hscreens : mergeDetectedLocalDevice (detectLocalLayout detection) (detectedDevice detection) =
      detectedDevice detection := by
    have hself : (detectedDevice detection).screens.map (placeScreen (detectedDevice detection).screens) =
        (detectedDevice detection).screens := map_placeScreen_self (detectLocalScreens_nodup _ _)
    have hfirst : (detectLocalLayout detection).devices.find? (·.id = (detectedDevice detection).id) =
        some (detectedDevice detection) := List.find?_cons_of_pos (by simp)
    rw [mergeDetectedLocalDevice, hfirst]
    dsimp only
    rw [hself]
  have hquic : normalizeQuicPort (normalizeTransportPort detection.transportPort)
      (preferredQuicPort detection.transportPort) = preferredQuicPort detection.transportPort :=
    normalizeQuicPort_of_normal _ _
  obtain ⟨hmode, hrole, hlimit, hlanguage, htheme, hportMode, hmap, hedge⟩ := defaults_normal
  exact ⟨by simp [detectLocalLayout], hscreens, fun _ => rfl, hmode, hrole,
    normalizeClusterId_default entropy detection.entropy,
    normalizePairSecret_default entropy detection.entropy, rfl, rfl,
    rfl, rfl, hlimit, rfl, hlanguage, htheme, rfl, hportMode, hport, hquic, rfl, hmap, hedge, rfl, rfl, rfl⟩

/-- **Loading a layout twice**: the result always has its shape, and loading it again changes nothing if and only
if the layout was thrown away for good or the local device is not taken for an old demo device. -/
theorem loading_idempotent_iff (entropy again : Entropy) (saved : LayoutState) (detection : Detection) :
    ∃ result, normalizeSavedLayout entropy saved (detectLocalLayout detection) = some result ∧
      Shaped (detectedDevice detection) result ∧
      (normalizeSavedLayout again result (detectLocalLayout detection) = some result ↔
        LoadsAgain entropy saved detection) := by
  refine ⟨_, normalizeSavedLayout_eq entropy saved detection, ?_, ?_⟩
  · split
    · exact shaped_detected detection
    · exact shaped_merged entropy saved detection
  rw [normalizeSavedLayout_eq, Option.some_inj, LoadsAgain]
  by_cases hthrown : isOldDemoLayout saved = true ∨ saved.devices = []
  · rw [if_pos hthrown, if_pos hthrown]
    have hdevice : isOldDemoLayout (detectLocalLayout detection) = isOldDemoDevice (detectedDevice detection) :=
      Bool.or_false _
    have hne : (detectLocalLayout detection).devices ≠ [] := List.cons_ne_nil _ _
    simp only [hdevice, hne, or_false]
    split
    · next hdemo => simp [hdemo]
    · next hdemo => rw [mergedLayout_detected_iff (by simpa using hdemo), or_iff_right hdemo]
  · rw [if_neg hthrown, if_neg hthrown]
    rw [not_or, Bool.not_eq_true] at hthrown
    have hne :
        (mergedLayout entropy saved (detectLocalLayout detection) (detectedDevice detection)).devices ≠ [] :=
      List.cons_ne_nil _ _
    simp only [isOldDemoLayout_merged, hne, or_false]
    split
    · next hdemo => rw [eq_comm, mergedLayout_eq_detected_iff hthrown.1, forall_prop_of_true hdemo]
    · next hdemo =>
      rw [mergedLayout_idem _ _ _ _ (detectLocalScreens_nodup _ _)]
      simp [hdemo]

section Examples

def drawn : Entropy := ⟨List.replicate 16 7, List.replicate 32 11, rfl, rfl⟩

/-- A machine without a name, at this address. -/
def nameless (ipAddress : String) : Detection := ⟨none, some ipAddress, "windows", 47833, [], drawn⟩

/-- The settings of a machine which moved to the address of an old demo device are lost
when they are loaded again. -/
theorem not_loading_idempotent : ¬ ∀ (entropy again : Entropy) (saved : LayoutState) (detection : Detection)
    (result : LayoutState), normalizeSavedLayout entropy saved (detectLocalLayout detection) = some result →
      normalizeSavedLayout again result (detectLocalLayout detection) = some result := by
  intro h
  let saved : LayoutState := { detectLocalLayout (nameless "192.168.31.7") with inputMode := "receive" }
  let moved : Detection := nameless "192.168.31.24"
  have hkept : ¬ (isOldDemoLayout saved = true ∨ saved.devices = []) := by decide
  have honce : normalizeSavedLayout drawn saved (detectLocalLayout moved) =
      some (mergedLayout drawn saved (detectLocalLayout moved) (detectedDevice moved)) := by
    rw [normalizeSavedLayout_eq, if_neg hkept]
  have htwice := h drawn drawn saved moved _ honce
  rw [normalizeSavedLayout_eq, isOldDemoLayout_merged, if_pos (.inl (by decide)), Option.some_inj] at htwice
  exact absurd (congrArg LayoutState.inputMode htwice) (by decide)

end Examples

end MyKvm.Settings
