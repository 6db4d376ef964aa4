import Mathlib.Data.List.Induction
import MyKvm.Lib.Trimming
import MyKvm.Settings.Layout

/-!
# MyKvm.Settings.Normal — what loading leaves alone

A setting which has been brought into its range once is in it, and stays as it is the next time; so does a list
which has been cleaned up, and so do screens which have been put where they were.

* `trimmedOr_trimmedOr`, `oneOf_oneOf`, `normalizeHotkey_idem`: texts.
* `normalizeTrustedPeers_idem`, `normalizeQuicPort_idem`, `placeScreen_placed`: lists, ports and screens.
-/

namespace MyKvm.Settings

open MyKvm.Lib MyKvm.Hook
open MyKvm.Layout (Screen localDisplayId localDisplayId_injective)
open MyKvm.Discovery (PairedController TrustedPeerRecord protocolVersion normalizeTransportPort preferredQuicPort
  normalizeQuicPort)

/-! ### Texts -/

@[simp] theorem trimmed_trimmed (s : String) : trimmed (trimmed s) = trimmed s := by
  unfold trimmed
  rw [String.toList_ofList, trim_eq, trim_eq, trimMatches_trimMatches]

theorem trimmed_of_plain {s : String} (h : ∀ c ∈ s.toList, isWhitespace c = false) : trimmed s = s := by
  have hfirm : Firm isWhitespace s.toList :=
    ⟨fun c hc => h c (List.mem_of_mem_head? hc), fun c hc => h c (List.mem_of_getLast? hc)⟩
  rw [trimmed, trim_eq, trimMatches_eq_self_iff.mpr hfirm, String.ofList_toList]

theorem hexByte_plain (byte : UInt8) : ∀ c ∈ hexByte byte, isWhitespace c = false := by
  have hdigit : ∀ n < 16, isWhitespace (Nat.digitChar n) = false := by decide
  have hlt := byte.toNat_lt
  intro c hc
  rcases List.mem_cons.mp hc with rfl | hc
  · exact hdigit _ (by omega)
  · rw [List.mem_singleton.mp hc]
    exact hdigit _ (by omega)

theorem randomHex_plain (bytes : List UInt8) : ∀ c ∈ (randomHex bytes).toList, isWhitespace c = false := by
  intro c hc
  rw [randomHex, String.toList_ofList] at hc
  obtain ⟨byte, -, hc⟩ := List.mem_flatMap.mp hc
  exact hexByte_plain byte c hc

theorem defaultClusterId_plain (entropy : Entropy) :
    ∀ c ∈ (defaultClusterId entropy).toList, isWhitespace c = false := by
  intro c hc
  rw [defaultClusterId, String.toList_append] at hc
  rcases List.mem_append.mp hc with hc | hc
  · have hfront : "cluster-".toList.all (fun c => !isWhitespace c) = true := by decide
    simpa using List.all_eq_true.mp hfront c hc
  · exact randomHex_plain _ c hc

theorem defaultClusterId_ne (entropy : Entropy) : defaultClusterId entropy ≠ "" := by
  intro h
  have hlists := congrArg String.toList h
  rw [defaultClusterId, String.toList_append] at hlists
  exact absurd (List.append_eq_nil_iff.mp hlists).1 (by decide)

theorem defaultPairSecret_ne (entropy : Entropy) : defaultPairSecret entropy ≠ "" := by
  intro h
  have hlists := congrArg String.toList h
  rw [defaultPairSecret, randomHex, String.toList_ofList] at hlists
  cases hbytes : entropy.secret with
  | nil => exact absurd entropy.secret_length (by simp [hbytes])
  | cons byte bytes =>
    rw [hbytes, List.flatMap_cons] at hlists
    cases hlists

theorem trimmedOr_of_plain {value : String} (hplain : ∀ c ∈ value.toList, isWhitespace c = false)
    (hne : value ≠ "") (fallback : String) : trimmedOr fallback value = value := by
  rw [trimmedOr, trimmed_of_plain hplain, if_neg hne]

/-- The second fallback is not needed. -/
theorem trimmedOr_trimmedOr {fallback : String} (hplain : ∀ c ∈ fallback.toList, isWhitespace c = false)
    (hne : fallback ≠ "") (again value : String) :
    trimmedOr again (trimmedOr fallback value) = trimmedOr fallback value := by
  by_cases h : trimmed value = ""
  · have hfallback : trimmedOr fallback value = fallback := if_pos h
    rw [hfallback, trimmedOr_of_plain hplain hne]
  · simp [trimmedOr, h]

theorem normalizeClusterId_default (again entropy : Entropy) :
    normalizeClusterId again (defaultClusterId entropy) = defaultClusterId entropy :=
  trimmedOr_of_plain (defaultClusterId_plain entropy) (defaultClusterId_ne entropy) _

theorem normalizePairSecret_default (again entropy : Entropy) :
    normalizePairSecret again (defaultPairSecret entropy) = defaultPairSecret entropy :=
  trimmedOr_of_plain (randomHex_plain entropy.secret) (defaultPairSecret_ne entropy) _

theorem normalizeClusterId_idem (again entropy : Entropy) (clusterId : String) :
    normalizeClusterId again (normalizeClusterId entropy clusterId) = normalizeClusterId entropy clusterId :=
  trimmedOr_trimmedOr (defaultClusterId_plain entropy) (defaultClusterId_ne entropy) _ _

theorem normalizePairSecret_idem (again entropy : Entropy) (pairSecret : String) :
    normalizePairSecret again (normalizePairSecret entropy pairSecret) = normalizePairSecret entropy pairSecret :=
  trimmedOr_trimmedOr (randomHex_plain entropy.secret) (defaultPairSecret_ne entropy) _ _

/-- Only the 26 capitals have another lower case. -/
theorem toLower_cases (c : Char) : c.toLower = c ∨ ∃ n < 26, c = Char.ofNat (65 + n) := by
  by_cases hupper : c.val ≥ 'A'.val ∧ c.val ≤ 'Z'.val
  · have hlow : 65 ≤ c.toNat := UInt32.le_iff_toNat_le.mp hupper.1
    have hhigh : c.toNat ≤ 90 := UInt32.le_iff_toNat_le.mp hupper.2
    exact .inr ⟨c.toNat - 65, by omega, by rw [Nat.add_sub_cancel' hlow, Char.ofNat_toNat]⟩
  · exact .inl (dif_neg hupper)

theorem isWhitespace_toLower (c : Char) : isWhitespace c.toLower = isWhitespace c := by
  have hcapitals : ∀ n < 26, isWhitespace (Char.ofNat (65 + n)).toLower = isWhitespace (Char.ofNat (65 + n)) := by
    decide
  rcases toLower_cases c with h | ⟨n, hn, rfl⟩
  · rw [h]
  · exact hcapitals n hn

theorem toLower_toLower (c : Char) : c.toLower.toLower = c.toLower := by
  have hcapitals : ∀ n < 26, (Char.ofNat (65 + n)).toLower.toLower = (Char.ofNat (65 + n)).toLower := by
    decide
  rcases toLower_cases c with h | ⟨n, hn, rfl⟩
  · rw [h, h]
  · exact hcapitals n hn

/-- The first character stays the first one if it is not white. -/
theorem first_lowered {text : List Char} (h : ∀ c ∈ text.head?, isWhitespace c = false) :
    ∀ c ∈ ((text.map Char.toLower).filter (· ≠ ' ')).head?, isWhitespace c = false := by
  cases text with
  | nil => simp
  | cons first text =>
    have hfirst : isWhitespace first.toLower = false := (isWhitespace_toLower first).trans (h first rfl)
    have hkept : first.toLower ≠ ' ' := by
      intro hspace
      rw [hspace] at hfirst
      exact absurd hfirst (by decide)
    rw [List.map_cons, List.filter_cons_of_pos (by simpa using hkept)]
    rintro c ⟨⟩
    exact hfirst

theorem firm_lowered {text : List Char} (h : Firm isWhitespace text) :
    Firm isWhitespace ((text.map Char.toLower).filter (· ≠ ' ')) where
  first := first_lowered h.first
  last := by
    have hback := first_lowered h.reverse.first
    rwa [List.map_reverse, List.filter_reverse, List.head?_reverse] at hback

/-- Lower case without spaces stays as it is. -/
theorem normalizeHotkey_idem (value : String) :
    normalizeHotkey (String.ofList (normalizeHotkey value)) = normalizeHotkey value := by
  have hfirm : Firm isWhitespace (normalizeHotkey value) := firm_lowered (firm_trimMatches _ _)
  have hlower : (normalizeHotkey value).map Char.toLower = normalizeHotkey value := by
    refine (List.map_congr_left fun c hc => ?_).trans (List.map_id _)
    obtain ⟨original, -, rfl⟩ := List.mem_map.mp (List.mem_of_mem_filter hc)
    exact toLower_toLower original
  have hspaces : (normalizeHotkey value).filter (· ≠ ' ') = normalizeHotkey value := by
    simp [normalizeHotkey]
  calc normalizeHotkey (String.ofList (normalizeHotkey value))
      = ((trim (normalizeHotkey value)).map Char.toLower).filter (· ≠ ' ') := by
        rw [normalizeHotkey, String.toList_ofList]
    _ = normalizeHotkey value := by
        rw [trim_eq, trimMatches_eq_self_iff.mpr hfirm, hlower, hspaces]

theorem normalizedEdgeSwitchHotkey_idem (value : String) :
    normalizedEdgeSwitchHotkey (normalizedEdgeSwitchHotkey value) = normalizedEdgeSwitchHotkey value := by
  have hdefault : normalizeHotkey (String.ofList defaultEdgeSwitchHotkey.toList) =
    defaultEdgeSwitchHotkey.toList := by
    decide
  unfold normalizedEdgeSwitchHotkey normalizeEdgeSwitchHotkey
  by_cases h : normalizeHotkey value = []
  · simp only [h, if_true, hdefault]
    rfl
  · simp only [h, if_false, normalizeHotkey_idem]

/-! ### Choices, numbers and lists -/

theorem oneOf_oneOf (choices : List String) (fallback value : String) :
    oneOf choices fallback (oneOf choices fallback value) = oneOf choices fallback value := by
  unfold oneOf
  by_cases h : value ∈ choices
  · simp only [h, if_true]
  · simp only [h, if_false, ite_self]

theorem normalizeInputMode_idem (mode : String) :
    normalizeInputMode (normalizeInputMode mode) = normalizeInputMode mode :=
  oneOf_oneOf _ _ _

theorem normalizeMachineRole_idem (role : String) :
    normalizeMachineRole (normalizeMachineRole role) = normalizeMachineRole role :=
  oneOf_oneOf _ _ _

theorem normalizeLanguage_idem (language : String) :
    normalizeLanguage (normalizeLanguage language) = normalizeLanguage language :=
  oneOf_oneOf _ _ _

theorem normalizeThemeMode_idem (themeMode : String) :
    normalizeThemeMode (normalizeThemeMode themeMode) = normalizeThemeMode themeMode :=
  oneOf_oneOf _ _ _

theorem normalizeTransportPortMode_idem (mode : String) :
    normalizeTransportPortMode (normalizeTransportPortMode mode) = normalizeTransportPortMode mode :=
  oneOf_oneOf _ _ _

theorem normalizeModifierTarget_idem (value : String) :
    normalizeModifierTarget (normalizeModifierTarget value) = normalizeModifierTarget value :=
  oneOf_oneOf _ _ _

theorem normalizeModifierMap_idem (map : ModifierMap) :
    normalizeModifierMap (normalizeModifierMap map) = normalizeModifierMap map := by
  simp only [normalizeModifierMap, normalizeModifierTarget_idem]

theorem normalizeClipboardTextLimitBytes_idem (value : ℕ) :
    normalizeClipboardTextLimitBytes (normalizeClipboardTextLimitBytes value) =
      normalizeClipboardTextLimitBytes value := by
  simp only [normalizeClipboardTextLimitBytes, clipboardTextLimitMinBytes, clipboardTextLimitMaxBytes]
  omega

theorem normalizePairedControllers_idem (controllers : List PairedController) :
    normalizePairedControllers (normalizePairedControllers controllers) =
      normalizePairedControllers controllers := by
  simp [normalizePairedControllers]

theorem normalizeTrustedPeers_concat (peers : List TrustedPeerRecord) (peer : TrustedPeerRecord) :
    normalizeTrustedPeers (peers ++ [peer]) =
      if keepsTrustedPeer (normalizeTrustedPeers peers) peer then normalizeTrustedPeers peers ++ [peer]
      else normalizeTrustedPeers peers := by
  rw [normalizeTrustedPeers, List.foldl_append]
  rfl

/-- What was kept behind the records before it is kept again. -/
theorem normalizeTrustedPeers_idem (peers : List TrustedPeerRecord) :
    normalizeTrustedPeers (normalizeTrustedPeers peers) = normalizeTrustedPeers peers := by
  induction peers using List.reverseRecOn with
  | nil => rfl
  | append_singleton peers peer ih =>
    rw [normalizeTrustedPeers_concat]
    split
    · next hkeeps => rw [normalizeTrustedPeers_concat, ih, if_pos hkeeps]
    · exact ih

/-! ### Ports -/

theorem normalizeTransportPort_toNat (port : UInt16) :
    (normalizeTransportPort port).toNat = max 1024 port.toNat := by
  have hlt := port.toNat_lt
  have hbounds : (1024 : UInt16).toNat = 1024 ∧ (65535 : UInt16).toNat = 65535 := ⟨rfl, rfl⟩
  show (if (1024 : UInt16) ≤ (if port ≤ 65535 then port else 65535) then (if port ≤ 65535 then port else 65535)
    else 1024).toNat = _
  split_ifs with hhigh hlow hlow <;> rw [UInt16.le_iff_toNat_le] at * <;> omega

/-- The ports which are left alone: all but the privileged ones. -/
theorem normalizeTransportPort_eq_self_iff {port : UInt16} :
    normalizeTransportPort port = port ↔ 1024 ≤ port.toNat := by
  rw [← UInt16.toNat_inj, normalizeTransportPort_toNat]
  omega

theorem normalizeTransportPort_idem (port : UInt16) :
    normalizeTransportPort (normalizeTransportPort port) = normalizeTransportPort port := by
  rw [normalizeTransportPort_eq_self_iff, normalizeTransportPort_toNat]
  exact le_max_left _ _

theorem normalizeQuicPort_of_normal (discoveryPort port : UInt16) :
    normalizeQuicPort discoveryPort (normalizeTransportPort port) = normalizeTransportPort port := by
  have hne : normalizeTransportPort port ≠ 0 := by
    intro hzero
    have hmax := normalizeTransportPort_toNat port
    rw [hzero] at hmax
    simp at hmax
    omega
  rw [normalizeQuicPort, if_neg hne, normalizeTransportPort_idem]

theorem normalizeQuicPort_idem (again discoveryPort quicPort : UInt16) :
    normalizeQuicPort again (normalizeQuicPort discoveryPort quicPort) =
      normalizeQuicPort discoveryPort quicPort := by
  have hnormal : ∃ port, normalizeQuicPort discoveryPort quicPort = normalizeTransportPort port := by
    unfold normalizeQuicPort preferredQuicPort
    split_ifs <;> exact ⟨_, rfl⟩
  obtain ⟨port, hport⟩ := hnormal
  rw [hport, normalizeQuicPort_of_normal]

/-! ### Screens -/

@[simp] theorem placeScreen_id (savedScreens : List Screen) (screen : Screen) :
    (placeScreen savedScreens screen).id = screen.id := by
  unfold placeScreen
  split <;> rfl

theorem find?_placed (savedScreens : List Screen) {screens : List Screen} (hnodup : (screens.map (·.id)).Nodup)
    {screen : Screen} (hmem : screen ∈ screens) :
    (screens.map (placeScreen savedScreens)).find? (·.id = screen.id) =
      some (placeScreen savedScreens screen) := by
  induction screens with
  | nil => cases hmem
  | cons first screens ih =>
    rw [List.map_cons, List.nodup_cons] at hnodup
    rcases List.mem_cons.mp hmem with rfl | hmem
    · simp
    · have hne : first.id ≠ screen.id := fun heq => hnodup.1 (heq ▸ List.mem_map_of_mem hmem)
      simp [hne, ih hnodup.2 hmem]

/-- A screen which has been put somewhere is put there again. -/
theorem placeScreen_placed (savedScreens : List Screen) {screens : List Screen}
    (hnodup : (screens.map (·.id)).Nodup) {screen : Screen} (hmem : screen ∈ screens) :
    placeScreen (screens.map (placeScreen savedScreens)) screen = placeScreen savedScreens screen := by
  rw [placeScreen, find?_placed savedScreens hnodup hmem]
  cases hsaved : savedScreens.find? (·.id = screen.id) <;> simp [placeScreen, hsaved]

/-- Screens which stand where they stood. -/
theorem map_placeScreen_self {screens : List Screen} (hnodup : (screens.map (·.id)).Nodup) :
    screens.map (placeScreen screens) = screens := by
  have hnowhere : screens.map (placeScreen []) = screens :=
    (List.map_congr_left fun _ _ => rfl).trans (List.map_id _)
  refine (List.map_congr_left fun screen hscreen => ?_).trans hnowhere
  have hplaced := placeScreen_placed [] hnodup hscreen
  rwa [hnowhere] at hplaced

theorem detectLocalScreens_ids (monitors : List Monitor) (deviceId : String) :
    (detectLocalScreens monitors deviceId).map (·.id) =
      (List.range (max 1 monitors.length)).map localDisplayId := by
  unfold detectLocalScreens
  cases monitors with
  | nil => rfl
  | cons monitor monitors =>
    rw [if_neg (by simp)]
    refine List.ext_getElem (by simp) fun i _ _ => ?_
    simp only [List.getElem_map, List.getElem_mapIdx, List.getElem_range]

/-- The detected screens have names of their own. -/
theorem detectLocalScreens_nodup (monitors : List Monitor) (deviceId : String) :
    ((detectLocalScreens monitors deviceId).map (·.id)).Nodup := by
  rw [detectLocalScreens_ids]
  exact List.nodup_range.map localDisplayId_injective

end MyKvm.Settings
