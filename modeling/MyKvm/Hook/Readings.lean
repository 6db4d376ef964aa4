import Mathlib.Tactic.IntervalCases
import MyKvm.Hook.Shortcuts

/-!
# MyKvm.Hook.Readings — the two readings of a hotkey

A hotkey of the settings is read twice: by the hook, and by the function which registers it with the system.  Both
of them split the text at the plus signs, and each has its own table of keys.

* `hotkeys_agree_iff`: the texts which both read the same way, and what the conflict check is good for.
-/

namespace MyKvm.Hook

open MyKvm.Lib

/-! ### What a text names -/

/-- The parts between the plus signs. -/
def partsOf (normalized : List Char) : List (List Char) := (normalized.splitOn '+').filter (· ≠ [])

def isModifier (part : List Char) : Bool :=
  isOneOf part ["ctrl", "control"] || isOneOf part ["alt", "option"] || isOneOf part ["shift"] ||
    isOneOf part ["meta", "cmd", "command", "win", "windows", "super", "os"]

def withModifier (modifiers : HotkeyModifiers) (part : List Char) : HotkeyModifiers :=
  if isOneOf part ["ctrl", "control"] then { modifiers with ctrl := true }
  else if isOneOf part ["alt", "option"] then { modifiers with alt := true }
  else if isOneOf part ["shift"] then { modifiers with shift := true }
  else { modifiers with «meta» := true }

/-- The parts which are no modifiers. -/
def keyParts (normalized : List Char) : List (List Char) :=
  (partsOf normalized).filter fun part => !isModifier part

def modifiersOf (normalized : List Char) : HotkeyModifiers :=
  ((partsOf normalized).filter isModifier).foldl withModifier HotkeyModifiers.none

/-- F1 to F24, or ScrollLock. -/
def StandsAlone (keyCode : UInt16) : Prop := (0x70 ≤ keyCode ∧ keyCode ≤ 0x87) ∨ keyCode = 0x91

/-- Exactly one key, with a modifier or one which may stand alone. -/
def NamesChord (value : String) : Prop :=
  ∃ key keyCode, keyParts (normalizeHotkey value) = [key] ∧ hotkeyKeyToWindowsVk key = some keyCode ∧
    (modifiersOf (normalizeHotkey value) ≠ HotkeyModifiers.none ∨ StandsAlone keyCode)

/-- The name which the canonical text gives to a key. -/
def keyName (keyCode : UInt16) : String :=
  if (0x30 ≤ keyCode ∧ keyCode ≤ 0x39) ∨ (0x41 ≤ keyCode ∧ keyCode ≤ 0x5A) then
    String.singleton (Char.ofNat keyCode.toNat)
  else if 0x70 ≤ keyCode ∧ keyCode ≤ 0x87 then "F" ++ toString (keyCode.toNat - 0x6F)
  else if keyCode = 0x20 then "space" else if keyCode = 0x09 then "tab" else if keyCode = 0x0D then "enter"
  else if keyCode = 0x1B then "escape" else if keyCode = 0x91 then "scrolllock" else
    if keyCode = 0x26 then "arrowup"
  else if keyCode = 0x28 then "arrowdown" else if keyCode = 0x25 then "arrowleft" else "arrowright"

/-- The library reads every canonical text, as the chord which it spells. -/
def ShortcutLibrary.ReadsCanonical (lib : ShortcutLibrary) : Prop :=
  ∀ modifiers key keyCode, hotkeyKeyToWindowsVk key = some keyCode →
    lib.parse (joinShortcut modifiers (keyName keyCode)) = .ok (modifiers, keyCode)

/-- The chord which is registered for this text. -/
def registeredChord (lib : ShortcutLibrary) (value : String) : Option Chord :=
  match canonicalRuntimeToggleShortcut lib value with
  | .ok (some text) => (lib.parse text).toOption
  | .ok none | .error _ => none

/-! ### The two tables of keys -/

theorem isAlphanum_lt {c : Char} (h : c.isAlphanum = true) : c.toNat < 128 := by
  have hranges : ((decide (c.val ≥ 'A'.val ∧ c.val ≤ 'Z'.val) ||
      (decide (c.val ≥ 'a'.val) && decide (c.val ≤ 'z'.val))) ||
      (decide (c.val ≥ '0'.val) && decide (c.val ≤ '9'.val))) = true := h
  simp only [Bool.or_eq_true, Bool.and_eq_true, decide_eq_true_eq, UInt32.le_iff_toNat_le, ge_iff_le] at hranges
  have hval : c.toNat = c.val.toNat := rfl
  have hZ : 'Z'.val.toNat = 90 := rfl
  have hz : 'z'.val.toNat = 122 := rfl
  have hnine : '9'.val.toNat = 57 := rfl
  omega

theorem canonicalCharacterKey_eq (key : List Char) :
    canonicalCharacterKey key = (characterKey key).map keyName := by
  have htable : ∀ n < 128, canonicalCharacterKey [Char.ofNat n] = (characterKey [Char.ofNat n]).map keyName := by
    decide +kernel
  match key with
  | [] | _ :: _ :: _ => rfl
  | [c] =>
    by_cases h : c.isAlphanum = true
    · have hc := htable c.toNat (isAlphanum_lt h)
      rwa [Char.ofNat_toNat] at hc
    · obtain ⟨halpha, hdigit⟩ : c.isAlpha = false ∧ c.isDigit = false := by
        simpa [Char.isAlphanum, not_or] using h
      simp [canonicalCharacterKey, characterKey, h, halpha, hdigit]

/-- A number from 1 to 24 is the same whether one byte is read or two, and no other is let through. -/
theorem functionNumber_eq (value : ℕ) :
    ((if value < 2 ^ 8 then some value.toUInt8 else none).bind fun n =>
        if 1 ≤ n ∧ n ≤ 24 then some ("F" ++ toString n.toNat) else none) =
      ((if value < 2 ^ 16 then some value.toUInt16 else none).bind fun n =>
        if 1 ≤ n ∧ n ≤ 24 then some (0x70 + n - 1) else none).map keyName := by
  by_cases hrange : 1 ≤ value ∧ value ≤ 24
  · obtain ⟨hlow, hhigh⟩ := hrange
    interval_cases value <;> decide
  · have hbyte : ((if value < 2 ^ 8 then some value.toUInt8 else none).bind fun n =>
        if 1 ≤ n ∧ n ≤ 24 then some ("F" ++ toString n.toNat) else none) = none := by
      split_ifs with h
      · refine if_neg ?_
        rw [UInt8.le_iff_toNat_le, UInt8.le_iff_toNat_le, Nat.toUInt8_eq, UInt8.toNat_ofNat_of_lt' h]
        exact hrange
      · rfl
    have hword : ((if value < 2 ^ 16 then some value.toUInt16 else none).bind fun n : UInt16 =>
        if 1 ≤ n ∧ n ≤ 24 then some (0x70 + n - 1) else none) = none := by
      split_ifs with h
      · refine if_neg ?_
        rw [UInt16.le_iff_toNat_le, UInt16.le_iff_toNat_le, Nat.toUInt16_eq, UInt16.toNat_ofNat_of_lt' h]
        exact hrange
      · rfl
    rw [hbyte, hword]
    rfl

theorem canonicalFunctionKey_eq (key : List Char) : canonicalFunctionKey key = (functionKey key).map keyName := by
  have hnumber : ∀ number : List Char,
      ((parseU8 number).bind fun n => if 1 ≤ n ∧ n ≤ 24 then some ("F" ++ toString n.toNat) else none) =
        ((parseU16 number).bind fun n => if 1 ≤ n ∧ n ≤ 24 then some (0x70 + n - 1) else none).map keyName := by
    intro number
    unfold parseU8 parseU16
    dsimp only
    generalize (if number.head? = some '+' then number.tail else number) = digits
    by_cases hdigits : digits = [] ∨ (!digits.all Char.isDigit) = true
    · rw [if_pos hdigits, if_pos hdigits]
      rfl
    · rw [if_neg hdigits, if_neg hdigits]
      exact functionNumber_eq _
  unfold canonicalFunctionKey
  split
  · exact hnumber _
  · rename_i hother
    unfold functionKey
    split
    · exact absurd rfl (hother _)
    · rfl

theorem canonicalNamedKey_eq (key : List Char) : canonicalNamedKey key = (namedKey key).map keyName := by
  unfold canonicalNamedKey namedKey
  simp only [apply_ite (Option.map keyName), Option.map_some, Option.map_none]
  rfl

/-- **The tables agree**: the canonical name is the name of the key which the hook compares with. -/
theorem canonicalRuntimeToggleKey_eq (key : List Char) :
    canonicalRuntimeToggleKey key = (hotkeyKeyToWindowsVk key).map keyName := by
  unfold canonicalRuntimeToggleKey hotkeyKeyToWindowsVk
  rw [canonicalCharacterKey_eq, canonicalFunctionKey_eq, canonicalNamedKey_eq, Option.map_or, Option.map_or]

/-! ### Reading the parts -/

section Split

variable {m : Type → Type*} [Monad m] [LawfulMonad m] {α σ τ : Type} {step : σ × τ → α → m (σ × τ)}
    {isLeft : α → Bool}
  {left : σ → α → σ} {right : τ → α → m τ}

/-- Where every element goes to one half of the state, the halves are folded one by one. -/
theorem foldlM_split
    (hleft : ∀ s t a, isLeft a = true → step (s, t) a = pure (left s a, t))
    (hright : ∀ s t a, isLeft a = false → step (s, t) a = (fun t' => (s, t')) <$> right t a)
    (parts : List α) (s : σ) (t : τ) :
    parts.foldlM step (s, t) = (fun t' => ((parts.filter isLeft).foldl left s, t')) <$>
      (parts.filter fun a => !isLeft a).foldlM right t := by
  induction parts generalizing s t with
  | nil => simp
  | cons part parts ih =>
    cases h : isLeft part with
    | true =>
      rw [List.foldlM_cons, hleft s t part h, pure_bind, ih]
      simp [h]
    | false =>
      rw [List.foldlM_cons, hright s t part h]
      simp [h, ih]

end Split

/-- The hook takes an unknown key for no key yet. -/
def addHookKey (keyCode : Option UInt16) (part : List Char) : Option (Option UInt16) :=
  if keyCode.isSome then none else some (hotkeyKeyToWindowsVk part)

def addCanonicalKey (key : Option String) (part : List Char) : Except String (Option String) :=
  if key.isSome then .error "快捷启停快捷键只能包含一个主按键。"
  else match canonicalRuntimeToggleKey part with
    | none => .error ("无法识别快捷启停快捷键按键：" ++ String.ofList part)
    | some key => .ok (some key)

theorem isModifier_false {part : List Char} (h : isModifier part = false) :
    isOneOf part ["ctrl", "control"] = false ∧ isOneOf part ["alt", "option"] = false ∧
      isOneOf part ["shift"] = false ∧
      isOneOf part ["meta", "cmd", "command", "win", "windows", "super", "os"] = false := by
  simpa [isModifier, and_assoc] using h

theorem hook_fold (normalized : List Char) :
    ((normalized.splitOn '+').filter (· ≠ [])).foldlM addPart (HotkeyModifiers.none, none) =
      (fun keyCode => (modifiersOf normalized, keyCode)) <$> (keyParts normalized).foldlM addHookKey none := by
  refine foldlM_split (fun modifiers keyCode part h => ?_) (fun modifiers keyCode part h => ?_) _ _ _
  · simp only [addPart, withModifier]
    split_ifs with hctrl halt hshift hmeta
    · rfl
    · rfl
    · rfl
    · rfl
    all_goals simp [isModifier, hctrl, halt, hshift, hmeta] at h
  · obtain ⟨hctrl, halt, hshift, hmeta⟩ := isModifier_false h
    simp only [addPart, addHookKey, hctrl, halt, hshift, hmeta]
    cases keyCode <;> rfl

theorem canonical_fold (normalized : List Char) :
    ((normalized.splitOn '+').filter (· ≠ [])).foldlM addCanonicalPart (HotkeyModifiers.none, none) =
      (fun key => (modifiersOf normalized, key)) <$> (keyParts normalized).foldlM addCanonicalKey none := by
  refine foldlM_split (fun modifiers key part h => ?_) (fun modifiers key part h => ?_) _ _ _
  · simp only [addCanonicalPart, withModifier]
    split_ifs with hctrl halt hshift hmeta
    · rfl
    · rfl
    · rfl
    · rfl
    all_goals simp [isModifier, hctrl, halt, hshift, hmeta] at h
  · obtain ⟨hctrl, halt, hshift, hmeta⟩ := isModifier_false h
    simp only [addCanonicalPart, addCanonicalKey, hctrl, halt, hshift, hmeta]
    cases key with
    | some key => rfl
    | none => cases canonicalRuntimeToggleKey part <;> rfl

/-- After a known key the hook takes no other. -/
theorem hook_keys_some_iff (keys : List (List Char)) (found keyCode : UInt16) :
    keys.foldlM addHookKey (some found) = some (some keyCode) ↔ keys = [] ∧ found = keyCode := by
  cases keys with
  | nil => simp
  | cons key keys => simp [addHookKey]

/-- The hook reads the last of the keys, behind any number of unknown ones. -/
theorem hook_keys_iff (keys : List (List Char)) (keyCode : UInt16) :
    keys.foldlM addHookKey none = some (some keyCode) ↔
      ∃ unknown key, keys = unknown ++ [key] ∧ (∀ part ∈ unknown, hotkeyKeyToWindowsVk part = none) ∧
        hotkeyKeyToWindowsVk key = some keyCode := by
  induction keys with
  | nil => simp
  | cons first keys ih =>
    have hstep : (first :: keys).foldlM addHookKey none = keys.foldlM addHookKey (hotkeyKeyToWindowsVk first) := by
      rw [List.foldlM_cons]
      rfl
    rw [hstep]
    cases hfirst : hotkeyKeyToWindowsVk first with
    | none =>
      rw [ih]
      constructor
      · rintro ⟨unknown, key, rfl, hunknown, hkey⟩
        exact ⟨first :: unknown, key, rfl, List.forall_mem_cons.mpr ⟨hfirst, hunknown⟩, hkey⟩
      · rintro ⟨unknown, key, hkeys, hunknown, hkey⟩
        cases unknown with
        | nil =>
          obtain ⟨rfl, -⟩ := List.cons.inj hkeys
          rw [hfirst] at hkey
          cases hkey
        | cons head unknown =>
          obtain ⟨rfl, rfl⟩ := List.cons.inj hkeys
          exact ⟨unknown, key, rfl, (List.forall_mem_cons.mp hunknown).2, hkey⟩
    | some found =>
      rw [hook_keys_some_iff]
      constructor
      · rintro ⟨rfl, rfl⟩
        exact ⟨[], first, rfl, by simp, hfirst⟩
      · rintro ⟨unknown, key, hkeys, hunknown, hkey⟩
        cases unknown with
        | nil =>
          obtain ⟨rfl, rfl⟩ := List.cons.inj hkeys
          exact ⟨rfl, Option.some.inj (hfirst.symm.trans hkey)⟩
        | cons head unknown =>
          obtain ⟨rfl, -⟩ := List.cons.inj hkeys
          have hnone := hunknown first List.mem_cons_self
          rw [hfirst] at hnone
          cases hnone

/-- The canonical text is made of one key, which is known. -/
theorem canonical_keys_iff (keys : List (List Char)) (name : String) :
    keys.foldlM addCanonicalKey none = .ok (some name) ↔
      ∃ key keyCode, keys = [key] ∧ hotkeyKeyToWindowsVk key = some keyCode ∧ keyName keyCode = name := by
  match keys with
  | [] => simp [pure, Except.pure]
  | first :: rest =>
    rw [List.foldlM_cons]
    cases hfirst : hotkeyKeyToWindowsVk first with
    | none =>
      have herror : addCanonicalKey none first = .error ("无法识别快捷启停快捷键按键：" ++ String.ofList first) := by
        simp [addCanonicalKey, canonicalRuntimeToggleKey_eq, hfirst]
      rw [herror]
      simp only [bind, Except.bind, reduceCtorEq, false_iff]
      rintro ⟨key, keyCode, hkeys, hkey, -⟩
      obtain ⟨rfl, -⟩ := List.cons.inj hkeys
      rw [hfirst] at hkey
      cases hkey
    | some found =>
      have hok : addCanonicalKey none first = .ok (some (keyName found)) := by
        simp [addCanonicalKey, canonicalRuntimeToggleKey_eq, hfirst]
      rw [hok]
      cases rest with
      | nil => simp [bind, Except.bind, pure, Except.pure, hfirst, eq_comm]
      | cons second rest => simp [bind, Except.bind, addCanonicalKey]

/-! ### What each of the two makes of a text -/

theorem concat_eq_singleton {α : Type*} {front : List α} {last single : α} (h : front ++ [last] = [single]) :
    front = [] ∧ last = single := by
  obtain ⟨hfront, hlast⟩ := List.append_inj' (show front ++ [last] = [] ++ [single] from h) rfl
  exact ⟨hfront, (List.cons.inj hlast).1⟩

/-- A text which says that there is no hotkey is one part, and no key. -/
theorem keyParts_of_isDisabled {normalized : List Char} (h : isDisabled normalized = true) :
    keyParts normalized = [normalized] ∧ hotkeyKeyToWindowsVk normalized = none := by
  simp only [isDisabled, isOneOf, List.any_cons, List.any_nil, Bool.or_false, Bool.or_eq_true, beq_iff_eq] at h
  rcases h with rfl | rfl | rfl | rfl <;> exact ⟨by decide, by decide⟩

/-- Both functions of the hook stop at the same texts. -/
theorem hook_reads (normalized : List Char) (modifiers : HotkeyModifiers) (keyCode : UInt16) :
    (¬ (normalized = [] ∨ isOneOf normalized ["disabled", "disable", "off", "none"] = true) ∧
        ((normalized.splitOn '+').filter (· ≠ [])).foldlM addPart (HotkeyModifiers.none, none) =
          some (modifiers, some keyCode)) ↔
      modifiersOf normalized = modifiers ∧ ∃ unknown key, keyParts normalized = unknown ++ [key] ∧
        (∀ part ∈ unknown, hotkeyKeyToWindowsVk part = none) ∧ hotkeyKeyToWindowsVk key = some keyCode := by
  have hparts : ((normalized.splitOn '+').filter (· ≠ [])).foldlM addPart (HotkeyModifiers.none, none) =
      some (modifiers, some keyCode) ↔ modifiersOf normalized = modifiers ∧
        (keyParts normalized).foldlM addHookKey none = some (some keyCode) := by
    rw [hook_fold]
    simp only [Option.map_eq_map, Option.map_eq_some_iff, Prod.mk.injEq]
    constructor
    · rintro ⟨found, hfound, rfl, rfl⟩
      exact ⟨rfl, hfound⟩
    · rintro ⟨rfl, hfound⟩
      exact ⟨_, hfound, rfl, rfl⟩
  rw [hparts, hook_keys_iff]
  constructor
  · rintro ⟨-, hreads⟩
    exact hreads
  · rintro ⟨hmodifiers, unknown, key, hkeys, hunknown, hkey⟩
    refine ⟨?_, hmodifiers, unknown, key, hkeys, hunknown, hkey⟩
    rintro (rfl | hdisabled)
    · have hnone : keyParts [] = [] := by decide
      rw [hnone] at hkeys
      exact absurd hkeys.symm (by simp)
    · obtain ⟨hword, hunknownWord⟩ := keyParts_of_isDisabled hdisabled
      rw [hword] at hkeys
      obtain ⟨-, rfl⟩ := concat_eq_singleton hkeys.symm
      rw [hunknownWord] at hkey
      cases hkey

theorem parseControlHotkeyBinding_iff (value : String) (action : ControlHotkeyAction) (modifiers : HotkeyModifiers)
    (keyCode : UInt16) :
    (parseControlHotkeyBinding value action).map (fun b => (b.modifiers, b.keyCode)) = some (modifiers, keyCode) ↔
      modifiersOf (normalizeHotkey value) = modifiers ∧
        ∃ unknown key, keyParts (normalizeHotkey value) = unknown ++ [key] ∧
          (∀ part ∈ unknown, hotkeyKeyToWindowsVk part = none) ∧ hotkeyKeyToWindowsVk key = some keyCode := by
  rw [← hook_reads]
  unfold parseControlHotkeyBinding
  dsimp only
  split
  · rename_i hstop
    simp [hstop]
  · rename_i hgo
    simp only [hgo, not_false_eq_true, true_and, Option.bind_eq_bind]
    cases ((normalizeHotkey value).splitOn '+' |>.filter (· ≠ [])).foldlM addPart (HotkeyModifiers.none, none) with
    | none => simp
    | some found =>
      obtain ⟨required, mainKey⟩ := found
      cases mainKey <;> simp

theorem hotkeyMatchesVk_iff (value : String) (keyCode : UInt16) (modifiers : HotkeyModifiers)
    (action : ControlHotkeyAction) :
    hotkeyMatchesVk value keyCode modifiers = true ↔
      (parseControlHotkeyBinding value action).map (fun b => (b.modifiers, b.keyCode)) =
        some (modifiers, keyCode) := by
  rw [parseControlHotkeyBinding_iff, ← hook_reads]
  unfold hotkeyMatchesVk
  dsimp only
  split
  · rename_i hstop
    simp [hstop]
  · rename_i hgo
    simp only [hgo, not_false_eq_true, true_and]
    cases ((normalizeHotkey value).splitOn '+' |>.filter (· ≠ [])).foldlM addPart (HotkeyModifiers.none, none) with
    | none => simp
    | some found =>
      obtain ⟨required, mainKey⟩ := found
      simp [and_comm]

instance (keyCode : UInt16) : Decidable (StandsAlone keyCode) := inferInstanceAs (Decidable (_ ∨ _))

/-- The names which may stand alone are F1 to F24, ScrollLock, and the letter F. -/
theorem allowsSingle_iff (keyCode : UInt16) :
    allowsSingleRuntimeToggleKey (keyName keyCode) = true ↔ StandsAlone keyCode ∨ keyCode = 0x46 := by
  have hlow : ∀ n < 0x92, allowsSingleRuntimeToggleKey (keyName (UInt16.ofNat n)) = true ↔
      StandsAlone (UInt16.ofNat n) ∨ UInt16.ofNat n = 0x46 := by decide +kernel
  by_cases hlt : keyCode.toNat < 0x92
  · have h := hlow keyCode.toNat hlt
    rwa [UInt16.ofNat_toNat] at h
  · have hname : keyName keyCode = "arrowright" := by
      unfold keyName
      simp only [UInt16.le_iff_toNat_le, ← UInt16.toNat_inj, UInt16.reduceToNat]
      repeat rw [if_neg (by omega)]
    have hother : ¬ (StandsAlone keyCode ∨ keyCode = 0x46) := by
      unfold StandsAlone
      simp only [UInt16.le_iff_toNat_le, ← UInt16.toNat_inj, UInt16.reduceToNat]
      omega
    rw [hname]
    exact iff_of_false (by decide) hother

section Canonical

variable {lib : ShortcutLibrary} (hlib : lib.ReadsCanonical)
include hlib

theorem canonicalRuntimeToggleShortcut_iff (value text : String) :
    canonicalRuntimeToggleShortcut lib value = .ok (some text) ↔
      ∃ key keyCode, keyParts (normalizeEdgeSwitchHotkey value) = [key] ∧ hotkeyKeyToWindowsVk key = some keyCode ∧
        (modifiersOf (normalizeEdgeSwitchHotkey value) ≠ HotkeyModifiers.none ∨
          allowsSingleRuntimeToggleKey (keyName keyCode) = true) ∧
        joinShortcut (modifiersOf (normalizeEdgeSwitchHotkey value)) (keyName keyCode) = text := by
  unfold canonicalRuntimeToggleShortcut
  dsimp only
  generalize normalizeEdgeSwitchHotkey value = normalized
  by_cases hdisabled : isDisabled normalized = true
  · obtain ⟨hword, hunknown⟩ := keyParts_of_isDisabled hdisabled
    rw [if_pos hdisabled, hword]
    simp only [Except.ok.injEq, reduceCtorEq, false_iff]
    rintro ⟨key, keyCode, hkeys, hkey, -⟩
    obtain ⟨rfl, -⟩ := List.cons.inj hkeys
    rw [hunknown] at hkey
    cases hkey
  · rw [if_neg hdisabled, canonical_fold]
    have hname := fun name => canonical_keys_iff (keyParts normalized) name
    cases hkeys : (keyParts normalized).foldlM addCanonicalKey none with
    | error error =>
      refine iff_of_false (by simp [Functor.map, Except.map]) ?_
      rintro ⟨key, keyCode, hkey, hknown, -⟩
      have hfound := (hname _).mpr ⟨key, keyCode, hkey, hknown, rfl⟩
      rw [hkeys] at hfound
      cases hfound
    | ok found =>
      cases found with
      | none =>
        refine iff_of_false (by simp [Functor.map, Except.map]) ?_
        rintro ⟨key, keyCode, hkey, hknown, -⟩
        have hfound := (hname _).mpr ⟨key, keyCode, hkey, hknown, rfl⟩
        rw [hkeys] at hfound
        cases hfound
      | some name =>
        obtain ⟨key, keyCode, hkey, hknown, hname⟩ := (hname name).mp hkeys
        simp only [Functor.map, Except.map, ← hname]
        have hparse := hlib (modifiersOf normalized) key keyCode hknown
        by_cases hsingle : modifiersOf normalized = HotkeyModifiers.none ∧
            (!allowsSingleRuntimeToggleKey (keyName keyCode)) = true
        · rw [if_pos hsingle]
          refine iff_of_false (by simp) ?_
          rintro ⟨key', keyCode', hkey', hknown', hallowed, -⟩
          obtain ⟨rfl, -⟩ := List.cons.inj (hkey.symm.trans hkey')
          obtain rfl := Option.some.inj (hknown.symm.trans hknown')
          rcases hallowed with hmodified | hallowed
          · exact hmodified hsingle.1
          · rw [hallowed] at hsingle
            exact absurd hsingle.2 (by simp)
        · rw [if_neg hsingle, hparse]
          have hallowed : modifiersOf normalized ≠ HotkeyModifiers.none ∨
              allowsSingleRuntimeToggleKey (keyName keyCode) = true := by
            by_contra hnot
            obtain ⟨hplain, hrefused⟩ := not_or.mp hnot
            exact hsingle ⟨not_not.mp hplain, by simpa using hrefused⟩
          simp only [Except.ok.injEq, Option.some.injEq]
          constructor
          · intro hjoin
            exact ⟨key, keyCode, hkey, hknown, hallowed, hjoin⟩
          · rintro ⟨key', keyCode', hkey', hknown', -, hjoin⟩
            obtain ⟨rfl, -⟩ := List.cons.inj (hkey.symm.trans hkey')
            obtain rfl := Option.some.inj (hknown.symm.trans hknown')
            exact hjoin

/-- The chord which is registered, in the words of the text. -/
theorem registeredChord_iff (value : String) (modifiers : HotkeyModifiers) (keyCode : UInt16) :
    registeredChord lib value = some (modifiers, keyCode) ↔
      modifiersOf (normalizeEdgeSwitchHotkey value) = modifiers ∧
        ∃ key, keyParts (normalizeEdgeSwitchHotkey value) = [key] ∧ hotkeyKeyToWindowsVk key = some keyCode ∧
          (modifiers ≠ HotkeyModifiers.none ∨ StandsAlone keyCode ∨ keyCode = 0x46) := by
  have hread := fun text => canonicalRuntimeToggleShortcut_iff hlib value text
  have hnothing : (∀ text, canonicalRuntimeToggleShortcut lib value ≠ .ok (some text)) →
      (modifiersOf (normalizeEdgeSwitchHotkey value) = modifiers ∧
        ∃ key, keyParts (normalizeEdgeSwitchHotkey value) = [key] ∧ hotkeyKeyToWindowsVk key = some keyCode ∧
          (modifiers ≠ HotkeyModifiers.none ∨ StandsAlone keyCode ∨ keyCode = 0x46)) → False := by
    rintro hnone ⟨rfl, key, hkey, hknown, hallowed⟩
    exact hnone _ ((hread _).mpr ⟨key, keyCode, hkey, hknown, hallowed.imp_right (allowsSingle_iff _).mpr, rfl⟩)
  unfold registeredChord
  split
  · rename_i text htext
    obtain ⟨key, found, hkey, hknown, hallowed, hjoin⟩ := (hread text).mp htext
    rw [← hjoin, hlib _ key found hknown]
    simp only [Except.toOption, Option.some.injEq, Prod.mk.injEq]
    constructor
    · rintro ⟨rfl, rfl⟩
      exact ⟨rfl, key, hkey, hknown, hallowed.imp_right (allowsSingle_iff _).mp⟩
    · rintro ⟨rfl, key', hkey', hknown', -⟩
      obtain ⟨rfl, -⟩ := List.cons.inj (hkey.symm.trans hkey')
      exact ⟨rfl, Option.some.inj (hknown.symm.trans hknown')⟩
  · rename_i htext
    exact iff_of_false (by simp) (hnothing (by simp [htext]))
  · rename_i error htext
    exact iff_of_false (by simp) (hnothing (by simp [htext]))

end Canonical

/-! ### Both of them -/

/-- Both readings of a text give the same chord, or none; and there is one when the text names one. -/
structure Agrees (lib : ShortcutLibrary) (value : String) : Prop where
  binding : ∀ action, (parseControlHotkeyBinding value action).map (fun b => (b.modifiers, b.keyCode)) =
    registeredChord lib value
  matching : ∀ keyCode modifiers, hotkeyMatchesVk value keyCode modifiers = true ↔
    registeredChord lib value = some (modifiers, keyCode)
  accepted : (∃ text, canonicalRuntimeToggleShortcut lib value = .ok (some text)) ↔ NamesChord value

/-- The text is not blank, no unknown key stands before a known one, and a key without
a modifier may stand alone. -/
def WellNamed (value : String) : Prop :=
  normalizeHotkey value ≠ [] ∧ ∀ unknown key keyCode, keyParts (normalizeHotkey value) = unknown ++ [key] →
    (∀ part ∈ unknown, hotkeyKeyToWindowsVk part = none) → hotkeyKeyToWindowsVk key = some keyCode →
      unknown = [] ∧ (modifiersOf (normalizeHotkey value) = HotkeyModifiers.none → StandsAlone keyCode)

theorem normalizeEdgeSwitchHotkey_eq {value : String} (h : normalizeHotkey value ≠ []) :
    normalizeEdgeSwitchHotkey value = normalizeHotkey value := if_neg h

theorem ne_nil_of_keyParts {normalized key : List Char} {unknown : List (List Char)}
    (h : keyParts normalized = unknown ++ [key]) : normalized ≠ [] := by
  rintro rfl
  have hnone : keyParts [] = [] := by decide
  rw [hnone] at h
  exact absurd h.symm (by simp)

section Agreement

variable {lib : ShortcutLibrary} (hlib : lib.ReadsCanonical) {value : String}
include hlib

theorem Agrees.wellNamed (h : Agrees lib value) : WellNamed value := by
  refine ⟨fun hblank => ?_, fun unknown key keyCode hkeys hunknown hkey => ?_⟩
  · -- The default is registered for a blank text, and the hook takes it for no hotkey.
    have hdefault : normalizeEdgeSwitchHotkey value = defaultEdgeSwitchHotkey.toList := if_pos hblank
    have hregistered := (registeredChord_iff hlib value ⟨false, true, true, false⟩ 0x4B).mpr (by
      rw [hdefault]
      exact ⟨by decide, ['k'], by decide, by decide, .inl (by decide)⟩)
    have hmatches := (h.matching _ _).mpr hregistered
    rw [hotkeyMatchesVk_iff value _ _ .goMac, parseControlHotkeyBinding_iff] at hmatches
    obtain ⟨-, unknown, key, hkeys, -⟩ := hmatches
    exact ne_nil_of_keyParts hkeys hblank
  · have hnormal := normalizeEdgeSwitchHotkey_eq (ne_nil_of_keyParts hkeys)
    have hbinding := (parseControlHotkeyBinding_iff value .goMac (modifiersOf (normalizeHotkey value)) keyCode).mpr
      ⟨rfl, unknown, key, hkeys, hunknown, hkey⟩
    rw [h.binding, registeredChord_iff hlib, hnormal] at hbinding
    obtain ⟨-, single, hsingle, hknown, hallowed⟩ := hbinding
    rw [hkeys] at hsingle
    obtain ⟨rfl, -⟩ := concat_eq_singleton hsingle
    refine ⟨rfl, fun hplain => ?_⟩
    obtain ⟨key', keyCode', hkey', hknown', hnamed⟩ :=
      h.accepted.mp ⟨_, (canonicalRuntimeToggleShortcut_iff hlib value
      _).mpr ⟨key, keyCode, by rw [hnormal, hkeys, List.nil_append], hkey,
        by rw [hnormal]; exact hallowed.imp_right (allowsSingle_iff _).mpr, rfl⟩⟩
    rw [hkeys] at hkey'
    obtain ⟨rfl, -⟩ := List.cons.inj hkey'
    obtain rfl := Option.some.inj (hkey.symm.trans hknown')
    exact hnamed.resolve_left (not_not.mpr hplain)

theorem WellNamed.agrees (h : WellNamed value) : Agrees lib value := by
  obtain ⟨hblank, hnamed⟩ := h
  have hnormal := normalizeEdgeSwitchHotkey_eq hblank
  have hsame : ∀ action modifiers keyCode,
      (parseControlHotkeyBinding value action).map (fun b => (b.modifiers, b.keyCode)) =
      some (modifiers, keyCode) ↔
        registeredChord lib value = some (modifiers, keyCode) := by
    intro action modifiers keyCode
    rw [parseControlHotkeyBinding_iff, registeredChord_iff hlib, hnormal]
    constructor
    · rintro ⟨rfl, unknown, key, hkeys, hunknown, hkey⟩
      obtain ⟨rfl, halone⟩ := hnamed unknown key keyCode hkeys hunknown hkey
      refine ⟨rfl, key, hkeys, hkey, ?_⟩
      by_cases hplain : modifiersOf (normalizeHotkey value) = HotkeyModifiers.none
      · exact .inr (.inl (halone hplain))
      · exact .inl hplain
    · rintro ⟨rfl, key, hkeys, hkey, -⟩
      exact ⟨rfl, [], key, hkeys, by simp, hkey⟩
  refine ⟨fun action => Option.ext fun chord => hsame action chord.1 chord.2, fun keyCode modifiers => ?_, ?_⟩
  · rw [hotkeyMatchesVk_iff value keyCode modifiers .goMac, hsame]
  · constructor
    · rintro ⟨text, htext⟩
      obtain ⟨key, keyCode, hkeys, hkey, hallowed, -⟩ :=
        (canonicalRuntimeToggleShortcut_iff hlib value text).mp htext
      rw [hnormal] at hkeys hallowed
      refine ⟨key, keyCode, hkeys, hkey, ?_⟩
      by_cases hplain : modifiersOf (normalizeHotkey value) = HotkeyModifiers.none
      · exact .inr ((hnamed [] key keyCode hkeys (by simp) hkey).2 hplain)
      · exact .inl hplain
    · rintro ⟨key, keyCode, hkeys, hkey, hallowed⟩
      refine ⟨_, (canonicalRuntimeToggleShortcut_iff hlib value _).mpr ⟨key, keyCode, ?_, hkey, ?_, rfl⟩⟩
      · rw [hnormal, hkeys]
      · rw [hnormal]
        exact hallowed.imp_right fun halone => (allowsSingle_iff _).mpr (.inl halone)

end Agreement

/-! ### The conflict check -/

/-- The entries which were read before, with all of these. -/
theorem foldlM_addEntry {lib : ShortcutLibrary} {entries before after : List (String × String)}
    (h : entries.foldlM (addEntry lib) before = .ok after) :
    (∀ entry ∈ entries, ∃ found, canonicalRuntimeToggleShortcut lib entry.2 = .ok found ∧
      ∀ text, found = some text → ∀ earlier ∈ before, earlier.2 ≠ text) ∧
      entries.Pairwise fun first second => ∀ text, canonicalRuntimeToggleShortcut lib first.2 = .ok (some text) →
        canonicalRuntimeToggleShortcut lib second.2 ≠ .ok (some text) := by
  induction entries generalizing before with
  | nil => simp
  | cons entry entries ih =>
    obtain ⟨label, raw⟩ := entry
    rw [List.foldlM_cons] at h
    cases hread : canonicalRuntimeToggleShortcut lib raw with
    | error error => simp [addEntry, hread, bind, Except.bind] at h
    | ok found =>
      cases found with
      | none =>
        have hstep : addEntry lib before (label, raw) = .ok before := by simp [addEntry, hread]
        rw [hstep] at h
        obtain ⟨hentries, hpairs⟩ := ih h
        refine ⟨List.forall_mem_cons.mpr ⟨⟨none, hread, by simp⟩, hentries⟩, List.pairwise_cons.mpr ⟨?_, hpairs⟩⟩
        intro other _ text htext
        rw [hread] at htext
        cases htext
      | some value =>
        cases hfind : before.find? fun entry => entry.2 = value with
        | some other => simp [addEntry, hread, hfind, bind, Except.bind] at h
        | none =>
          have hstep : addEntry lib before (label, raw) = .ok (before ++ [(label, value)]) := by
            simp [addEntry, hread, hfind]
          rw [hstep] at h
          obtain ⟨hentries, hpairs⟩ := ih h
          have hnew : ∀ earlier ∈ before, earlier.2 ≠ value := by simpa using hfind
          refine ⟨List.forall_mem_cons.mpr ⟨⟨some value, hread, ?_⟩, fun entry hentry => ?_⟩,
            List.pairwise_cons.mpr ⟨fun entry hentry => ?_, hpairs⟩⟩
          · rintro text ⟨rfl⟩
            exact hnew
          · obtain ⟨found, hfound, hdistinct⟩ := hentries entry hentry
            exact ⟨found, hfound, fun text htext earlier hearlier =>
              hdistinct text htext earlier (List.mem_append_left _ hearlier)⟩
          · intro text htext hsame
            obtain ⟨found, hfound, hdistinct⟩ := hentries entry hentry
            obtain rfl := Option.some.inj (Except.ok.inj (hread.symm.trans htext))
            rw [hsame] at hfound
            exact hdistinct value (Except.ok.inj hfound).symm (label, value) (by simp) rfl

/-- The key and the modifiers set this binding off, in the hook or in the system. -/
def Triggers (lib : ShortcutLibrary) (chord : Chord) (value : String) : Prop :=
  hotkeyMatchesVk value chord.2 chord.1 = true ∨ registeredChord lib value = some chord

/-- Only a server has bindings. -/
def HotkeySettings.inForce (layout : HotkeySettings) : List String :=
  if layout.machineRole = "server" then layout.entries.map (·.2) else []

theorem isDisabled_of_ok_none {lib : ShortcutLibrary} {value : String}
    (h : canonicalRuntimeToggleShortcut lib value = .ok none) :
    isDisabled (normalizeEdgeSwitchHotkey value) = true := by
  unfold canonicalRuntimeToggleShortcut at h
  dsimp only at h
  split at h
  · assumption
  · split at h
    · cases h
    · cases h
    · split at h
      · cases h
      · split at h <;> cases h

/-- A text which was read without an error, and which the chord sets off, is the canonical text of the chord. -/
theorem Triggers.canonical {lib : ShortcutLibrary} (hlib : lib.ReadsCanonical) {chord : Chord} {value : String}
    (h : Triggers lib chord value) {found : Option String}
    (hread : canonicalRuntimeToggleShortcut lib value = .ok found) :
    canonicalRuntimeToggleShortcut lib value = .ok (some (joinShortcut chord.1 (keyName chord.2))) := by
  obtain ⟨modifiers, keyCode⟩ := chord
  dsimp only [Triggers] at h ⊢
  rcases h with hhook | hregistered
  · rw [hotkeyMatchesVk_iff value _ _ .goMac, parseControlHotkeyBinding_iff] at hhook
    obtain ⟨rfl, unknown, key, hkeys, -, hkey⟩ := hhook
    have hnormal := normalizeEdgeSwitchHotkey_eq (ne_nil_of_keyParts hkeys)
    cases found with
    | none =>
      have hdisabled := isDisabled_of_ok_none hread
      rw [hnormal] at hdisabled
      obtain ⟨hword, hunknown⟩ := keyParts_of_isDisabled hdisabled
      obtain ⟨-, rfl⟩ := concat_eq_singleton (hkeys.symm.trans hword)
      rw [hunknown] at hkey
      cases hkey
    | some text =>
      obtain ⟨single, found, hsingle, hknown, -, hjoin⟩ :=
        (canonicalRuntimeToggleShortcut_iff hlib value text).mp hread
      rw [hnormal] at hsingle hjoin
      obtain ⟨-, rfl⟩ := concat_eq_singleton (hkeys.symm.trans hsingle)
      obtain rfl := Option.some.inj (hknown.symm.trans hkey)
      rw [hread, hjoin]
  · have hsome := (registeredChord_iff hlib value modifiers keyCode).mp hregistered
    obtain ⟨rfl, key, hkeys, hkey, hallowed⟩ := hsome
    exact (canonicalRuntimeToggleShortcut_iff hlib value _).mpr
      ⟨key, keyCode, hkeys, hkey, hallowed.imp_right (allowsSingle_iff _).mpr, rfl⟩

/-- **The two readings of a hotkey.**  They agree exactly on the texts which are well named; and where the conflict
check lets a layout through, no chord sets off two of its bindings. -/
theorem hotkeys_agree_iff {lib : ShortcutLibrary} (hlib : lib.ReadsCanonical) :
    (∀ value, Agrees lib value ↔ WellNamed value) ∧
      ∀ layout, validateLayoutShortcutConflicts lib layout = .ok () → ∀ chord,
        layout.inForce.Pairwise fun first second => ¬ (Triggers lib chord first ∧ Triggers lib chord second) := by
  refine ⟨fun value => ⟨fun h => h.wellNamed hlib, fun h => h.agrees hlib⟩, fun layout hvalid chord => ?_⟩
  unfold HotkeySettings.inForce
  split_ifs with hserver
  · unfold validateLayoutShortcutConflicts at hvalid
    rw [if_neg (not_not.mpr hserver)] at hvalid
    cases hfold : layout.entries.foldlM (addEntry lib) [] with
    | error error =>
      rw [hfold] at hvalid
      cases hvalid
    | ok after =>
      obtain ⟨hentries, hpairs⟩ := foldlM_addEntry hfold
      refine List.pairwise_map.mpr (hpairs.imp_of_mem fun {first second} hfirst hsecond hdistinct => ?_)
      rintro ⟨htrigger, htrigger'⟩
      obtain ⟨found, hfound, -⟩ := hentries first hfirst
      obtain ⟨found', hfound', -⟩ := hentries second hsecond
      exact hdistinct _ (htrigger.canonical hlib hfound) (htrigger'.canonical hlib hfound')
  · exact List.Pairwise.nil

section Examples

/-- The keys which have a canonical name. -/
def isNamed (keyCode : UInt16) : Bool :=
  (0x30 ≤ keyCode && keyCode ≤ 0x39) || (0x41 ≤ keyCode && keyCode ≤ 0x5A) || (0x70 ≤ keyCode && keyCode ≤ 0x87) ||
    [0x20, 0x09, 0x0D, 0x1B, 0x91, 0x26, 0x28, 0x25, 0x27].contains keyCode

/-- The key of a canonical name. -/
def keyOfName : List Char → Option UInt16
  | [c] => some c.toNat.toUInt16
  | 'F' :: number => (parseU8 number).map fun n => 0x6F + n.toUInt16
  | name =>
      ([("space", 0x20), ("tab", 0x09), ("enter", 0x0D), ("escape", 0x1B), ("scrolllock", 0x91), ("arrowup", 0x26),
      ("arrowdown", 0x28), ("arrowleft", 0x25), ("arrowright", 0x27)].find? fun entry =>
        entry.1.toList = name).map (·.2)

/-- A library which reads the name behind the modifiers. -/
def plainLibrary : ShortcutLibrary where
  parse text :=
    let parts := text.toList.splitOn '+'
    match parts.getLast?.bind keyOfName with
    | some keyCode =>
        .ok (⟨parts.contains "control".toList, parts.contains "alt".toList, parts.contains "shift".toList,
        parts.contains "super".toList⟩, keyCode)
    | none => .error "unknown key"

theorem isNamed_of_known {key : List Char} {keyCode : UInt16} (h : hotkeyKeyToWindowsVk key = some keyCode) :
    isNamed keyCode = true ∧ keyCode.toNat < 0x92 := by
  have hcharacter : ∀ n < 128,
      (characterKey [Char.ofNat n]).all (fun found => isNamed found && found.toNat < 0x92) =
      true := by decide +kernel
  have hfunction : ∀ n < 25, 1 ≤ n → isNamed (0x70 + UInt16.ofNat n - 1) = true ∧
      (0x70 + UInt16.ofNat n - 1).toNat < 0x92 := by decide +kernel
  rcases Option.or_eq_some_iff.mp h with hfound | ⟨-, hfound⟩
  · match key, hfound with
    | [c], hfound =>
      by_cases halnum : c.isAlphanum = true
      · have hall := hcharacter c.toNat (isAlphanum_lt halnum)
        rw [Char.ofNat_toNat, hfound] at hall
        simpa using hall
      · obtain ⟨halpha, hdigit⟩ : c.isAlpha = false ∧ c.isDigit = false := by
          simpa [Char.isAlphanum, not_or] using halnum
        simp [characterKey, halpha, hdigit] at hfound
  · rcases Option.or_eq_some_iff.mp hfound with hfound | ⟨-, hfound⟩
    · unfold functionKey at hfound
      split at hfound
      · obtain ⟨n, -, hn⟩ := Option.bind_eq_some_iff.mp hfound
        split_ifs at hn with hrange
        obtain rfl := Option.some.inj hn
        rw [UInt16.le_iff_toNat_le, UInt16.le_iff_toNat_le] at hrange
        have hnumber := hfunction n.toNat (Nat.lt_succ_of_le hrange.2) hrange.1
        rwa [UInt16.ofNat_toNat] at hnumber
      · cases hfound
    · unfold namedKey at hfound
      split_ifs at hfound <;> obtain rfl := Option.some.inj hfound <;> decide

theorem plainLibrary_readsCanonical : plainLibrary.ReadsCanonical := by
  intro modifiers key keyCode hkey
  have hfind : ∀ n < 0x92, isNamed (UInt16.ofNat n) = true →
      keyOfName (keyName (UInt16.ofNat n)).toList = some (UInt16.ofNat n) := by
    decide +kernel
  have hname : ∀ n < 0x92, isNamed (UInt16.ofNat n) = true → '+' ∉ (keyName (UInt16.ofNat n)).toList ∧
      ∀ word ∈ ["control", "alt", "shift", "super"], word.toList ≠ (keyName (UInt16.ofNat n)).toList := by
    decide +kernel
  obtain ⟨hnamed, hlt⟩ := isNamed_of_known hkey
  have hfind := hfind keyCode.toNat hlt (by rwa [UInt16.ofNat_toNat])
  obtain ⟨hplus, hword⟩ := hname keyCode.toNat hlt (by rwa [UInt16.ofNat_toNat])
  rw [UInt16.ofNat_toNat] at hfind hplus hword
  generalize keyName keyCode = name at *
  have hsplit : ∀ words : List String, (∀ word ∈ words, '+' ∉ word.toList) →
      (String.intercalate "+" (words ++ [name])).toList.splitOn '+' = words.map String.toList ++
      [name.toList] := by
    intro words hwords
    rw [String.toList_intercalate, List.map_append]
    refine List.splitOn_intercalate '+' (fun part hpart => ?_) (by simp)
    rcases List.mem_append.mp hpart with hpart | hpart
    · obtain ⟨word, hmem, rfl⟩ := List.mem_map.mp hpart
      exact hwords word hmem
    · rw [List.mem_singleton.mp hpart]
      exact hplus
  obtain ⟨ctrl, alt, shift, «meta»⟩ := modifiers
  simp only [plainLibrary, joinShortcut]
  rw [hsplit _ (by cases ctrl <;> cases alt <;> cases shift <;> cases «meta» <;> decide), List.getLast?_concat,
    Option.bind_some, hfind]
  simp only [List.forall_mem_cons, String.reduceToList] at hword
  cases ctrl <;> cases alt <;> cases shift <;> cases «meta» <;> simp [hword]

/-- The default of the control hotkeys is well named. -/
theorem hotkeys_agree_default : Agrees plainLibrary "control+alt+F11" := by
  refine ((hotkeys_agree_iff plainLibrary_readsCanonical).1 "control+alt+F11").mpr ⟨by decide, ?_⟩
  intro unknown key keyCode hkeys _ _
  have hsingle : keyParts (normalizeHotkey "control+alt+F11") = ["f11".toList] := by decide
  exact ⟨(concat_eq_singleton (hkeys.symm.trans hsingle)).1, fun hplain => absurd hplain (by decide)⟩

/-- The system refuses the first of these texts, which the hook takes for Control and A; it registers the letter F
alone; and it registers the default for the blank text, which sets off nothing in the hook. -/
theorem not_hotkeys_agree :
    ¬ Agrees plainLibrary "foo+ctrl+a" ∧ ¬ Agrees plainLibrary "f" ∧ ¬ Agrees plainLibrary "" := by
  refine ⟨fun h => ?_, fun h => ?_, fun h => ?_⟩
  · exact absurd (h.binding .goMac) (by decide +kernel)
  · obtain ⟨key, keyCode, hkeys, hkey, hallowed⟩ := h.accepted.mp ⟨"F", by decide +kernel⟩
    have hletter : keyParts (normalizeHotkey "f") = [['f']] := by decide
    obtain ⟨rfl, -⟩ := List.cons.inj (hletter.symm.trans hkeys)
    obtain rfl := Option.some.inj ((by decide : hotkeyKeyToWindowsVk ['f'] = some 0x46).symm.trans hkey)
    exact absurd hallowed (by decide)
  · exact absurd (h.binding .goMac) (by decide +kernel)

end Examples

end MyKvm.Hook
