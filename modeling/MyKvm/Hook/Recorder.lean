import Mathlib.Data.List.Nodup
import MyKvm.Hook.Readings
import MyKvm.Lib.Script
import MyKvm.Lib.Trimming

/-!
# MyKvm.Hook.Recorder — hotkeys which the user interface records

The settings record a hotkey from the keys the user holds down, and store it as a text.  The backend reads the text
twice (`MyKvm.Hook.Readings`), and the settings show it again with the platform's name for the meta key.

* `Presses`: which key of Windows an event of the browser is about.
* `spelled`: the parts of a recorded text.
* `recorded_hotkeys_taken`: hook, registration and display read what was held down.
-/

namespace MyKvm.Hook

open MyKvm.Lib MyKvm.Lib.Script

/-! ### The source -/

structure HotkeyKeyboardEventLike where
  key : String
  code : Option String
  ctrlKey : Bool
  altKey : Bool
  shiftKey : Bool
  metaKey : Bool
  deriving DecidableEq

inductive MetaKeyLabel where
  | command
  | win
  | «meta»
  deriving DecidableEq

def MetaKeyLabel.text : MetaKeyLabel → List Char
  | .command => "command".toList
  | .win => "win".toList
  | .meta => "meta".toList

/-- `MODIFIER_KEYS` -/
def modifierKeys : List String :=
  ["alt", "altgraph", "cmd", "command", "control", "ctrl", "meta", "os", "shift", "super", "win", "windows"]

/-- `[1-9]|1[0-9]|2[0-4]` -/
def isFunctionNumber : List Char → Bool
  | [c] => '1' ≤ c && c ≤ '9'
  | ['1', c] => '0' ≤ c && c ≤ '9'
  | ['2', c] => '0' ≤ c && c ≤ '4'
  | _ => false

def letterCode : List Char → Option (List Char)
  | ['K', 'e', 'y', c] => if c.isUpper then some [c.toLower] else none
  | _ => none

def digitCode : List Char → Option (List Char)
  | ['D', 'i', 'g', 'i', 't', c] => if c.isDigit then some [c] else none
  | _ => none

def functionCode : List Char → Option (List Char)
  | 'F' :: number => if isFunctionNumber number then some ('f' :: number) else none
  | _ => none

/-- The codes of the keys with a name of their own. -/
def namedCode (code : List Char) : Option (List Char) :=
  if isOneOf code ["Space"] then some "space".toList
  else if isOneOf code ["Tab"] then some "tab".toList
  else if isOneOf code ["Enter", "NumpadEnter"] then some "enter".toList
  else if isOneOf code ["Escape"] then some "escape".toList
  else if isOneOf code ["ScrollLock"] then some "scrolllock".toList
  else if isOneOf code ["ArrowUp"] then some "up".toList
  else if isOneOf code ["ArrowDown"] then some "down".toList
  else if isOneOf code ["ArrowLeft"] then some "left".toList
  else if isOneOf code ["ArrowRight"] then some "right".toList
  else none

def normalizeHotkeyCode (code : Option String) : Option (List Char) :=
  code.bind fun code =>
    let code := code.toList
    ((letterCode code).or (digitCode code)).or ((functionCode code).or (namedCode code))

def plainKey : List Char → Option (List Char)
  | [c] => if c.isLower || c.isDigit then some [c] else none
  | 'f' :: number => if isFunctionNumber number then some ('f' :: number) else none
  | _ => none

/-- The names of the keys with a name of their own. -/
def spelledKey (key : List Char) : Option (List Char) :=
  if isOneOf key [" ", "space", "spacebar"] then some "space".toList
  else if isOneOf key ["tab"] then some "tab".toList
  else if isOneOf key ["enter", "return"] then some "enter".toList
  else if isOneOf key ["esc", "escape"] then some "escape".toList
  else if isOneOf key ["scrolllock", "scroll", "scrlk"] then some "scrolllock".toList
  else if isOneOf key ["arrowup", "up"] then some "up".toList
  else if isOneOf key ["arrowdown", "down"] then some "down".toList
  else if isOneOf key ["arrowleft", "left"] then some "left".toList
  else if isOneOf key ["arrowright", "right"] then some "right".toList
  else none

def normalizeHotkeyKey (key : String) : Option (List Char) :=
  let normalized := toLowerCase key.toList
  (plainKey normalized).or (spelledKey normalized)

/-- The place of the key on the keyboard counts first, and then what it writes. -/
def normalizeHotkeyEventKey (event : HotkeyKeyboardEventLike) : Option (List Char) :=
  (normalizeHotkeyCode event.code).or (normalizeHotkeyKey event.key)

def shouldCaptureSingleKey (key : List Char) : Bool :=
  (match key with
    | 'f' :: number => isFunctionNumber number
    | _ => false) || isOneOf key ["scrolllock"]

/-- The modifiers which are held down. -/
def HotkeyKeyboardEventLike.held (event : HotkeyKeyboardEventLike) : HotkeyModifiers :=
  { ctrl := event.ctrlKey, alt := event.altKey, shift := event.shiftKey, «meta» := event.metaKey }

def modifierParts (held : HotkeyModifiers) (metaKeyLabel : MetaKeyLabel) : List (List Char) :=
  (if held.ctrl then ["ctrl".toList] else []) ++ (if held.alt then ["alt".toList] else []) ++
    (if held.shift then ["shift".toList] else []) ++ (if held.meta then [metaKeyLabel.text] else [])

/-- `parts.join("+")` -/
def joinParts (parts : List (List Char)) : String := String.ofList (List.intercalate ['+'] parts)

def hotkeyFromKeyboardEvent (event : HotkeyKeyboardEventLike) (metaKeyLabel : MetaKeyLabel) : Option String :=
  if event.key = "Backspace" ∨ event.key = "Delete" then some "disabled"
  else if isOneOf (toLowerCase event.key.toList) modifierKeys then none
  else match normalizeHotkeyEventKey event with
    | none => none
    | some key =>
      let hasModifier := event.ctrlKey || event.altKey || event.shiftKey || event.metaKey
      if !hasModifier && !shouldCaptureSingleKey key then none
      else some (joinParts (modifierParts event.held metaKeyLabel ++ [key]))

/-- What is stored for the toggle; the other hotkeys are stored as recorded. -/
def normalizeEdgeSwitchHotkeyInput (value : String) : String :=
  let normalized := withoutSpaces (toLowerCase (Script.trim value.toList))
  if normalized = [] then "alt+shift+k" else String.ofList normalized

def isMetaAlias (part : List Char) : Bool :=
  isOneOf part ["cmd", "command", "meta", "os", "super", "win", "windows"]

def formatEdgeSwitchHotkeyForDisplay (hotkey : String) (metaKeyLabel : MetaKeyLabel) : String :=
  let parts := ((withoutSpaces (toLowerCase (Script.trim hotkey.toList))).splitOn '+').filter (· ≠ [])
  joinParts (parts.map fun part => if isMetaAlias part then metaKeyLabel.text else part)

example : hotkeyFromKeyboardEvent ⟨"K", some "KeyK", true, false, true, true⟩ .win = some "ctrl+shift+win+k" := by
  decide +kernel

/-! ### What is pressed -/

/-- The keys of a keyboard with US layout: the code of the browser for the place, and
the virtual key of Windows. -/
def keysByCode : List (List Char × UInt16) :=
  "ABCDEFGHIJKLMNOPQRSTUVWXYZ".toList.mapIdx (fun n c => (['K', 'e', 'y', c], UInt16.ofNat (0x41 + n))) ++
    "0123456789".toList.mapIdx (fun n c => (['D', 'i', 'g', 'i', 't', c], UInt16.ofNat (0x30 + n))) ++
    (List.range 24).map (fun n => ('F' :: (Nat.repr (n + 1)).toList, UInt16.ofNat (0x70 + n))) ++
    [("Space".toList, 0x20), ("Tab".toList, 0x09), ("Enter".toList, 0x0D), ("NumpadEnter".toList, 0x0D),
      ("Escape".toList, 0x1B), ("ScrollLock".toList, 0x91), ("ArrowUp".toList, 0x26), ("ArrowDown".toList, 0x28),
      ("ArrowLeft".toList, 0x25), ("ArrowRight".toList, 0x27)]

/-- What the keys write, or what they are called, in lower case. -/
def keysByName : List (List Char × UInt16) :=
  "abcdefghijklmnopqrstuvwxyz".toList.mapIdx (fun n c => ([c], UInt16.ofNat (0x41 + n))) ++
    "0123456789".toList.mapIdx (fun n c => ([c], UInt16.ofNat (0x30 + n))) ++
    (List.range 24).map (fun n => ('f' :: (Nat.repr (n + 1)).toList, UInt16.ofNat (0x70 + n))) ++
    [(" ".toList, 0x20), ("space".toList, 0x20), ("spacebar".toList, 0x20), ("tab".toList, 0x09),
      ("enter".toList, 0x0D), ("return".toList, 0x0D), ("esc".toList, 0x1B), ("escape".toList, 0x1B),
      ("scrolllock".toList, 0x91), ("scroll".toList, 0x91), ("scrlk".toList, 0x91), ("arrowup".toList, 0x26),
      ("up".toList, 0x26), ("arrowdown".toList, 0x28), ("down".toList, 0x28), ("arrowleft".toList, 0x25),
      ("left".toList, 0x25), ("arrowright".toList, 0x27), ("right".toList, 0x27)]

/-- The event is about the key of Windows with this number: the key at that place, or, if there is none at its
place, the key which writes that. -/
inductive HotkeyKeyboardEventLike.Presses (event : HotkeyKeyboardEventLike) (keyCode : UInt16) : Prop
  | place (code : String) (hevent : event.code = some code) (hkey : (code.toList, keyCode) ∈ keysByCode)
  | name (hnone : ∀ code ∈ event.code, ∀ other, (code.toList, other) ∉ keysByCode)
      (hkey : (toLowerCase event.key.toList, keyCode) ∈ keysByName)

theorem keysByCode_nodup : (keysByCode.map Prod.fst).Nodup := by decide +kernel

theorem keysByName_nodup : (keysByName.map Prod.fst).Nodup := by decide +kernel

/-- An event is about one key. -/
theorem HotkeyKeyboardEventLike.Presses.unique {event : HotkeyKeyboardEventLike} {a b : UInt16}
    (ha : event.Presses a) (hb : event.Presses b) : a = b := by
  cases ha with
  | place code hevent hkey =>
    cases hb with
    | place code' hevent' hkey' =>
      obtain rfl := Option.some.inj (hevent.symm.trans hevent')
      exact congrArg Prod.snd (List.inj_on_of_nodup_map keysByCode_nodup hkey hkey' rfl)
    | name hnone' hkey' => exact absurd hkey (hnone' code hevent a)
  | name hnone hkey =>
    cases hb with
    | place code' hevent' hkey' => exact absurd hkey' (hnone code' hevent' b)
    | name hnone' hkey' => exact congrArg Prod.snd (List.inj_on_of_nodup_map keysByName_nodup hkey hkey' rfl)

/-! ### What is recorded -/

/-- The keys which a recorded text may name. -/
def recordableKeys : List (List Char) :=
  (List.range 26).map (fun n => [Char.ofNat ('a'.toNat + n)]) ++
    (List.range 10).map (fun n => [Char.ofNat ('0'.toNat + n)]) ++
    (List.range' 1 24).map (fun n => 'f' :: (Nat.repr n).toList) ++
    ["space", "tab", "enter", "escape", "scrolllock", "up", "down", "left", "right"].map String.toList

/-- The part is a word which neither side changes. -/
structure PlainWord (part : List Char) : Prop where
  ne_nil : part ≠ []
  noPlus : '+' ∉ part
  plain : ∀ c ∈ part, isWhitespace c = false ∧ isSpace c = false ∧ lowerCase c = [c] ∧ c.toLower = c

instance (part : List Char) : Decidable (PlainWord part) :=
  -- over the part, and not over all characters
  have : Decidable (∀ c ∈ part, isWhitespace c = false ∧ isSpace c = false ∧ lowerCase c = [c] ∧ c.toLower = c) :=
    List.decidableBAll _ part
  decidable_of_iff (part ≠ [] ∧ '+' ∉ part ∧
      ∀ c ∈ part, isWhitespace c = false ∧ isSpace c = false ∧ lowerCase c = [c] ∧ c.toLower = c)
    ⟨fun ⟨ne_nil, noPlus, plain⟩ => ⟨ne_nil, noPlus, plain⟩,
      fun ⟨ne_nil, noPlus, plain⟩ => ⟨ne_nil, noPlus, plain⟩⟩

/-- A word which is a key for the backend, and no modifier. -/
structure KeyWord (key : List Char) : Prop where
  word : PlainWord key
  known : (hotkeyKeyToWindowsVk key).isSome = true
  notModifier : isModifier key = false
  notMeta : isMetaAlias key = false
  alone : shouldCaptureSingleKey key = true → ∀ keyCode ∈ hotkeyKeyToWindowsVk key,
    (0x70 ≤ keyCode ∧ keyCode ≤ 0x87) ∨ keyCode = 0x91

instance (key : List Char) : Decidable (KeyWord key) :=
  have : Decidable (∀ keyCode ∈ hotkeyKeyToWindowsVk key, (0x70 ≤ keyCode ∧ keyCode ≤ 0x87) ∨ keyCode = 0x91) :=
    Option.decidableForallMem (hotkeyKeyToWindowsVk key)
  decidable_of_iff (PlainWord key ∧ (hotkeyKeyToWindowsVk key).isSome = true ∧ isModifier key = false ∧
      isMetaAlias key = false ∧ (shouldCaptureSingleKey key = true → ∀ keyCode ∈ hotkeyKeyToWindowsVk key,
        (0x70 ≤ keyCode ∧ keyCode ≤ 0x87) ∨ keyCode = 0x91))
    ⟨fun ⟨word, known, notModifier, notMeta, alone⟩ => ⟨word, known, notModifier, notMeta, alone⟩,
      fun ⟨word, known, notModifier, notMeta, alone⟩ => ⟨word, known, notModifier, notMeta, alone⟩⟩

theorem keyWord_of_recordable : ∀ key ∈ recordableKeys, KeyWord key := by decide +kernel

/-- The recorder's word for a text of the table: a key it may name, and for the backend the one the table says. -/
structure Named (table : List (List Char × UInt16)) (text key : List Char) : Prop where
  recordable : key ∈ recordableKeys
  listed : ∀ keyCode ∈ hotkeyKeyToWindowsVk key, (text, keyCode) ∈ table

instance (table : List (List Char × UInt16)) (text key : List Char) : Decidable (Named table text key) :=
  have : Decidable (∀ keyCode ∈ hotkeyKeyToWindowsVk key, (text, keyCode) ∈ table) :=
    Option.decidableForallMem (hotkeyKeyToWindowsVk key)
  decidable_of_iff (key ∈ recordableKeys ∧ ∀ keyCode ∈ hotkeyKeyToWindowsVk key, (text, keyCode) ∈ table)
    ⟨fun ⟨recordable, listed⟩ => ⟨recordable, listed⟩, fun ⟨recordable, listed⟩ => ⟨recordable, listed⟩⟩

section Named

variable {c : Char}

theorem named_of_plain (h : (c.isLower || c.isDigit) = true) : Named keysByName [c] [c] := by
  have htable : ∀ n < 128, ((Char.ofNat n).isLower || (Char.ofNat n).isDigit) = true →
      Named keysByName [Char.ofNat n] [Char.ofNat n] := by decide +kernel
  have hlt : c.toNat < 128 := isAlphanum_lt (by
    rcases Bool.or_eq_true_iff.mp h with h | h
    · exact Bool.or_eq_true_iff.mpr (.inl (Bool.or_eq_true_iff.mpr (.inr h)))
    · exact Bool.or_eq_true_iff.mpr (.inr h))
  have hc := htable c.toNat hlt
  rw [Char.ofNat_toNat] at hc
  exact hc h

theorem named_of_digit (h : c.isDigit = true) : Named keysByCode ['D', 'i', 'g', 'i', 't', c] [c] := by
  have htable : ∀ n < 128, (Char.ofNat n).isDigit = true →
      Named keysByCode ['D', 'i', 'g', 'i', 't', Char.ofNat n] [Char.ofNat n] := by decide +kernel
  have hlt : c.toNat < 128 := isAlphanum_lt (Bool.or_eq_true_iff.mpr (.inr h))
  have hc := htable c.toNat hlt
  rw [Char.ofNat_toNat] at hc
  exact hc h

theorem named_of_upper (h : c.isUpper = true) : Named keysByCode ['K', 'e', 'y', c] [c.toLower] := by
  have htable : ∀ n < 128, (Char.ofNat n).isUpper = true →
      Named keysByCode ['K', 'e', 'y', Char.ofNat n] [(Char.ofNat n).toLower] := by decide +kernel
  have hlt : c.toNat < 128 := isAlphanum_lt (Bool.or_eq_true_iff.mpr (.inl (Bool.or_eq_true_iff.mpr (.inl h))))
  have hc := htable c.toNat hlt
  rw [Char.ofNat_toNat] at hc
  exact hc h

theorem toNat_lt_of_le (h : (c ≤ '9') = true) : c.toNat < 128 := by
  have hle : c ≤ '9' := by simpa using h
  have hnat : c.toNat ≤ 57 := UInt32.le_iff_toNat_le.mp hle
  omega

/-- The function keys, by their place and by their name. -/
theorem named_of_function {number : List Char} (h : isFunctionNumber number = true) :
    Named keysByCode ('F' :: number) ('f' :: number) ∧ Named keysByName ('f' :: number) ('f' :: number) := by
  have htable : ∀ n < 128, ∀ front ∈ [[], ['1'], ['2']], isFunctionNumber (front ++ [Char.ofNat n]) = true →
      Named keysByCode ('F' :: (front ++ [Char.ofNat n])) ('f' :: (front ++ [Char.ofNat n])) ∧
        Named keysByName ('f' :: (front ++ [Char.ofNat n])) ('f' :: (front ++ [Char.ofNat n])) := by decide +kernel
  have hlast : ∀ front ∈ [[], ['1'], ['2']], ∀ c : Char, c.toNat < 128 → isFunctionNumber (front ++ [c]) = true →
      Named keysByCode ('F' :: (front ++ [c])) ('f' :: (front ++ [c])) ∧
        Named keysByName ('f' :: (front ++ [c])) ('f' :: (front ++ [c])) := by
    intro front hfront c hlt hnumber
    have hc := htable c.toNat hlt front hfront
    rw [Char.ofNat_toNat] at hc
    exact hc hnumber
  unfold isFunctionNumber at h
  split at h
  · rename_i c
    exact hlast [] (by simp) c (toNat_lt_of_le (by simpa using (Bool.and_eq_true_iff.mp h).2)) h
  · rename_i c
    exact hlast ['1'] (by simp) c (toNat_lt_of_le (by simpa using (Bool.and_eq_true_iff.mp h).2)) h
  · rename_i c
    have hle : c.toNat < 128 := by
      have hfour : c ≤ '4' := by simpa using (Bool.and_eq_true_iff.mp h).2
      have hnat : c.toNat ≤ 52 := UInt32.le_iff_toNat_le.mp hfour
      omega
    exact hlast ['2'] (by simp) c hle h
  · cases h

theorem named_of_isOneOf {table : List (List Char × UInt16)} {text key : List Char} {words : List String}
    (h : isOneOf text words = true) (hwords : ∀ word ∈ words, Named table word.toList key) :
    Named table text key := by
  obtain ⟨word, hword, heq⟩ := List.any_eq_true.mp h
  rw [← beq_iff_eq.mp heq]
  exact hwords word hword

end Named

theorem named_of_code {code : String} {key : List Char} (h : normalizeHotkeyCode (some code) = some key) :
    Named keysByCode code.toList key := by
  unfold normalizeHotkeyCode at h
  rw [Option.bind_some] at h
  dsimp only at h
  generalize code.toList = text at h ⊢
  rcases Option.or_eq_some_iff.mp h with h | ⟨-, h⟩
  · rcases Option.or_eq_some_iff.mp h with h | ⟨-, h⟩
    · unfold letterCode at h
      split at h
      · split_ifs at h with hupper
        obtain rfl := Option.some.inj h
        exact named_of_upper hupper
      · cases h
    · unfold digitCode at h
      split at h
      · split_ifs at h with hdigit
        obtain rfl := Option.some.inj h
        exact named_of_digit hdigit
      · cases h
  · rcases Option.or_eq_some_iff.mp h with h | ⟨-, h⟩
    · unfold functionCode at h
      split at h
      · split_ifs at h with hnumber
        obtain rfl := Option.some.inj h
        exact (named_of_function hnumber).1
      · cases h
    · unfold namedCode at h
      split_ifs at h with hcode <;> obtain rfl := Option.some.inj h <;>
        exact named_of_isOneOf (by assumption) (by decide +kernel)

theorem named_of_name {name : String} {key : List Char} (h : normalizeHotkeyKey name = some key) :
    Named keysByName (toLowerCase name.toList) key := by
  unfold normalizeHotkeyKey at h
  dsimp only at h
  generalize toLowerCase name.toList = text at h ⊢
  rcases Option.or_eq_some_iff.mp h with h | ⟨-, h⟩
  · unfold plainKey at h
    split at h
    · split_ifs at h with hplain
      obtain rfl := Option.some.inj h
      exact named_of_plain hplain
    · split_ifs at h with hnumber
      obtain rfl := Option.some.inj h
      exact (named_of_function hnumber).2
    · cases h
  · unfold spelledKey at h
    split_ifs at h with hname <;> obtain rfl := Option.some.inj h <;>
      exact named_of_isOneOf (by assumption) (by decide +kernel)

/-- The recorder knows every place of the table. -/
theorem normalizeHotkeyCode_isSome {code : String} {keyCode : UInt16} (h : (code.toList, keyCode) ∈ keysByCode) :
    (normalizeHotkeyCode (some code)).isSome = true := by
  have htable : ∀ entry ∈ keysByCode, (normalizeHotkeyCode (some (String.ofList entry.1))).isSome = true := by
    decide +kernel
  have hcode := htable _ h
  rwa [String.ofList_toList] at hcode

/-- The word which the recorder finds for an event is one it may name, and names the key the event is about. -/
theorem recorded_key {event : HotkeyKeyboardEventLike} {key : List Char}
    (h : normalizeHotkeyEventKey event = some key) :
    key ∈ recordableKeys ∧ ∀ keyCode, hotkeyKeyToWindowsVk key = some keyCode → event.Presses keyCode := by
  rcases Option.or_eq_some_iff.mp h with hplace | ⟨hnone, hname⟩
  · obtain ⟨code, hcode, -⟩ := Option.bind_eq_some_iff.mp hplace
    rw [hcode] at hplace
    have hnamed := named_of_code hplace
    exact ⟨hnamed.recordable, fun keyCode hkey => .place code hcode (hnamed.listed keyCode hkey)⟩
  · have hnamed := named_of_name hname
    refine ⟨hnamed.recordable,
      fun keyCode hkey => .name (fun code hcode other hlisted => ?_) (hnamed.listed keyCode hkey)⟩
    have hsome := normalizeHotkeyCode_isSome hlisted
    rw [show event.code = some code from hcode] at hnone
    rw [hnone] at hsome
    cases hsome

/-! ### The text -/

/-- The modifiers as words, and what they say. -/
theorem modifierParts_spec (held : HotkeyModifiers) (metaKeyLabel : MetaKeyLabel) :
    (∀ part ∈ modifierParts held metaKeyLabel, PlainWord part ∧ isModifier part = true) ∧
      (modifierParts held metaKeyLabel).foldl withModifier HotkeyModifiers.none = held ∧
      ∀ shown : MetaKeyLabel, (modifierParts held metaKeyLabel).map (fun part =>
        if isMetaAlias part then shown.text else part) = modifierParts held shown := by
  obtain ⟨ctrl, alt, shift, super⟩ := held
  have htable : ∀ ctrl alt shift super : Bool, ∀ label ∈ [MetaKeyLabel.command, .win, .meta],
      (∀ part ∈ modifierParts ⟨ctrl, alt, shift, super⟩ label, PlainWord part ∧ isModifier part = true) ∧
        (modifierParts ⟨ctrl, alt, shift, super⟩ label).foldl withModifier HotkeyModifiers.none =
          ⟨ctrl, alt, shift, super⟩ ∧
        ∀ shown ∈ [MetaKeyLabel.command, .win, .meta],
        (modifierParts ⟨ctrl, alt, shift, super⟩ label).map (fun part =>
          if isMetaAlias part then shown.text else part) = modifierParts ⟨ctrl, alt, shift, super⟩ shown := by
    decide +kernel
  have hall : ∀ label : MetaKeyLabel, label ∈ [MetaKeyLabel.command, .win, .meta] := by
    intro label
    cases label <;> simp
  obtain ⟨hparts, hheld, hshown⟩ := htable ctrl alt shift super metaKeyLabel (hall metaKeyLabel)
  exact ⟨hparts, hheld, fun shown => hshown shown (hall shown)⟩

/-- What holds of the separator and of every part holds of the joined text. -/
theorem forall_intercalate {P : Char → Prop} {separator : Char} (hseparator : P separator)
    {parts : List (List Char)}
    (h : ∀ part ∈ parts, ∀ c ∈ part, P c) : ∀ c ∈ List.intercalate [separator] parts, P c := by
  induction parts with
  | nil => simp
  | cons part parts ih =>
    have hrest := ih fun other hother => h other (List.mem_cons_of_mem _ hother)
    cases parts with
    | nil => simpa using h part List.mem_cons_self
    | cons other parts =>
      intro c hc
      rw [List.intercalate_cons_cons] at hc
      rcases List.mem_append.mp hc with hc | hc
      · rcases List.mem_append.mp hc with hc | hc
        · exact h part List.mem_cons_self c hc
        · rw [List.mem_singleton.mp hc]
          exact hseparator
      · exact hrest c hc

/-- **Words joined by plus signs** are read as they were written, by either side. -/
theorem joined_words {parts : List (List Char)} (hne : parts ≠ []) (hwords : ∀ part ∈ parts, PlainWord part) :
    normalizeHotkey (joinParts parts) = List.intercalate ['+'] parts ∧
      withoutSpaces (toLowerCase (Script.trim (joinParts parts).toList)) = List.intercalate ['+'] parts ∧
      partsOf (List.intercalate ['+'] parts) = parts := by
  have hplain : ∀ c ∈ List.intercalate ['+'] parts,
      isWhitespace c = false ∧ isSpace c = false ∧ lowerCase c = [c] ∧ c.toLower = c :=
    forall_intercalate (by decide) fun part hpart c hc => (hwords part hpart).plain c hc
  have hfirm : ∀ p : Char → Bool, (∀ c ∈ List.intercalate ['+'] parts, p c = false) →
      trimMatches p (List.intercalate ['+'] parts) = List.intercalate ['+'] parts := fun p hp =>
    trimMatches_eq_self_iff.mpr ⟨fun c hc => hp c (List.mem_of_mem_head? hc),
      fun c hc => hp c (List.mem_of_getLast? hc)⟩
  refine ⟨?_, ?_, ?_⟩
  · have hlower : (List.intercalate ['+'] parts).map Char.toLower = List.intercalate ['+'] parts :=
      (List.map_congr_left fun c hc => (hplain c hc).2.2.2).trans (List.map_id' _)
    rw [normalizeHotkey, joinParts, String.toList_ofList, trim_eq, hfirm _ fun c hc => (hplain c hc).1, hlower]
    refine List.filter_eq_self.mpr fun c hc => ?_
    have hblank : c ≠ ' ' := by
      rintro rfl
      exact absurd (hplain _ hc).1 (by decide)
    simpa using hblank
  · rw [joinParts, String.toList_ofList, Script.trim, hfirm _ fun c hc => (hplain c hc).2.1,
      toLowerCase_of_lower fun c hc => (hplain c hc).2.2.1]
    exact List.filter_eq_self.mpr fun c hc => by simp [(hplain c hc).2.1]
  · rw [partsOf, List.splitOn_intercalate '+' (fun part hpart => (hwords part hpart).noPlus) hne]
    exact List.filter_eq_self.mpr fun part hpart => by simpa using (hwords part hpart).ne_nil

theorem recorded_words (held : HotkeyModifiers) (label : MetaKeyLabel) {key : List Char} (hkey : KeyWord key) :
    ∀ part ∈ modifierParts held label ++ [key], PlainWord part := by
  obtain ⟨hparts, -, -⟩ := modifierParts_spec held label
  intro part hpart
  rcases List.mem_append.mp hpart with hpart | hpart
  · exact (hparts part hpart).1
  · rw [List.mem_singleton.mp hpart]
    exact hkey.word

/-- **The words of a recorded text**: the modifiers which were held, and the key. -/
theorem spelled (held : HotkeyModifiers) (label : MetaKeyLabel) {key : List Char} (hkey : KeyWord key) :
    let text := List.intercalate ['+'] (modifierParts held label ++ [key])
    keyParts text = [key] ∧ modifiersOf text = held := by
  obtain ⟨hparts, hheld, -⟩ := modifierParts_spec held label
  obtain ⟨-, -, hread⟩ := joined_words (by simp) (recorded_words held label hkey)
  have hmodifiers : (modifierParts held label).filter isModifier = modifierParts held label :=
    List.filter_eq_self.mpr fun part hpart => (hparts part hpart).2
  have hnone : (modifierParts held label).filter (fun part => !isModifier part) = [] :=
    List.filter_eq_nil_iff.mpr fun part hpart => by simp [(hparts part hpart).2]
  refine ⟨?_, ?_⟩
  · rw [keyParts, hread, List.filter_append, hnone, List.nil_append]
    simp [hkey.notModifier]
  · rw [modifiersOf, hread, List.filter_append, hmodifiers]
    simpa [hkey.notModifier] using hheld

/-- What the two readings of the backend make of a text. -/
structure ReadAs (lib : ShortcutLibrary) (text : String) (modifiers : HotkeyModifiers)
    (keyCode : UInt16) : Prop where
  registered : registeredChord lib text = some (modifiers, keyCode)
  hooked : ∀ action, (parseControlHotkeyBinding text action).map (fun b => (b.modifiers, b.keyCode)) =
    some (modifiers, keyCode)

/-- A recorded text is read as it was meant, with whatever name for the meta key. -/
theorem recorded_read {lib : ShortcutLibrary} (hlib : lib.ReadsCanonical) {held : HotkeyModifiers}
    {key : List Char} {keyCode : UInt16} (hkey : KeyWord key) (hcode : hotkeyKeyToWindowsVk key = some keyCode)
    (hallowed : held ≠ HotkeyModifiers.none ∨ shouldCaptureSingleKey key = true) (label : MetaKeyLabel) :
    ReadAs lib (joinParts (modifierParts held label ++ [key])) held keyCode := by
  obtain ⟨hnormal, -, -⟩ := joined_words (by simp) (recorded_words held label hkey)
  obtain ⟨hkeys, hmodifiers⟩ := spelled held label hkey
  rw [← hnormal] at hkeys hmodifiers
  have hedge := normalizeEdgeSwitchHotkey_eq (ne_nil_of_keyParts (show keyParts _ = [] ++ [key] from hkeys))
  refine ⟨(registeredChord_iff hlib _ held keyCode).mpr ?_, fun action => ?_⟩
  · rw [hedge]
    refine ⟨hmodifiers, key, hkeys, hcode, ?_⟩
    rcases hallowed with hheld | hsingle
    · exact .inl hheld
    · exact .inr (.inl (hkey.alone hsingle keyCode hcode))
  · exact (parseControlHotkeyBinding_iff _ action held keyCode).mpr
      ⟨hmodifiers, [], key, hkeys, by simp, hcode⟩

/-- What the recorder lets through. -/
theorem recorded_cases {event : HotkeyKeyboardEventLike} {label : MetaKeyLabel} {value : String}
    (h : hotkeyFromKeyboardEvent event label = some value) :
    ((event.key = "Backspace" ∨ event.key = "Delete") ∧ value = "disabled") ∨
      ∃ key, normalizeHotkeyEventKey event = some key ∧
        (event.held ≠ HotkeyModifiers.none ∨ shouldCaptureSingleKey key = true) ∧
        value = joinParts (modifierParts event.held label ++ [key]) := by
  unfold hotkeyFromKeyboardEvent at h
  split at h
  · rename_i hclears
    exact .inl ⟨hclears, (Option.some.inj h).symm⟩
  split at h
  · cases h
  split at h
  · cases h
  rename_i key hkey
  dsimp only at h
  split at h
  · cases h
  rename_i hallowed
  refine .inr ⟨key, hkey, ?_, (Option.some.inj h).symm⟩
  by_contra hnot
  obtain ⟨hnone, hsingle⟩ := not_or.mp hnot
  obtain ⟨hctrl, halt, hshift, hmeta⟩ := HotkeyModifiers.mk.inj (not_not.mp hnone)
  exact hallowed (by simp [hctrl, halt, hshift, hmeta, hsingle])

/-- The displayed text joins the same words, with the name of this platform. -/
theorem display_joins {held : HotkeyModifiers} {label : MetaKeyLabel} (shown : MetaKeyLabel) {key : List Char}
    (hkey : KeyWord key) :
    formatEdgeSwitchHotkeyForDisplay (joinParts (modifierParts held label ++ [key])) shown =
        joinParts (modifierParts held shown ++ [key]) ∧
      normalizeEdgeSwitchHotkeyInput (joinParts (modifierParts held label ++ [key])) =
        joinParts (modifierParts held label ++ [key]) := by
  obtain ⟨-, -, hshown⟩ := modifierParts_spec held label
  obtain ⟨-, hread, hsplit⟩ := joined_words (by simp) (recorded_words held label hkey)
  constructor
  · unfold partsOf at hsplit
    rw [formatEdgeSwitchHotkeyForDisplay, hread, hsplit, List.map_append, hshown, List.map_singleton,
      if_neg (by simp [hkey.notMeta])]
  · have hne : List.intercalate ['+'] (modifierParts held label ++ [key]) ≠ [] := by
      intro hnil
      rw [hnil] at hsplit
      simp [partsOf] at hsplit
    rw [normalizeEdgeSwitchHotkeyInput, hread, if_neg hne]
    rfl

theorem registeredChord_disabled (lib : ShortcutLibrary) : registeredChord lib "disabled" = none := by
  have hdisabled : isDisabled (normalizeEdgeSwitchHotkey "disabled") = true := by decide +kernel
  have hread : canonicalRuntimeToggleShortcut lib "disabled" = .ok none := by
    rw [canonicalRuntimeToggleShortcut]
    exact if_pos hdisabled
  rw [registeredChord, hread]

/-- The recorded text names the chord which was held down. -/
theorem recorded_registered {lib : ShortcutLibrary} (hlib : lib.ReadsCanonical) {event : HotkeyKeyboardEventLike}
    {label : MetaKeyLabel} {value : String} (h : hotkeyFromKeyboardEvent event label = some value) {chord : Chord}
    (hchord : registeredChord lib value = some chord) : chord.1 = event.held ∧ event.Presses chord.2 := by
  rcases recorded_cases h with ⟨-, hdisabled⟩ | ⟨key, hkey, hallowed, hvalue⟩
  · rw [hdisabled, registeredChord_disabled] at hchord
    cases hchord
  obtain ⟨hrecordable, hpresses⟩ := recorded_key hkey
  have hword := keyWord_of_recordable key hrecordable
  obtain ⟨keyCode, hcode⟩ := Option.isSome_iff_exists.mp hword.known
  rw [hvalue, (recorded_read hlib hword hcode hallowed label).registered] at hchord
  obtain rfl := Option.some.inj hchord
  exact ⟨rfl, hpresses keyCode hcode⟩

end MyKvm.Hook
