import Mathlib.Data.List.Basic
import MyKvm.Lib.Text
import MyKvm.Routing.LocalOverride

/-!
# MyKvm.Hook.Hotkeys — the control hotkeys

A hotkey is read from the settings as text, and compared with a key and the modifiers which are down.  A press of
it acts once until the deduper sees its release: a return closes the gate at once, and every action waits in the
slot for the capture thread.
-/

namespace MyKvm.Hook

open MyKvm.Lib MyKvm.Routing

structure HotkeyModifiers where
  ctrl : Bool
  alt : Bool
  shift : Bool
  «meta» : Bool
  deriving DecidableEq

/-- `HotkeyModifiers::default` -/
def HotkeyModifiers.none : HotkeyModifiers := ⟨false, false, false, false⟩

inductive ControlHotkeyAction where
  | goMac
  | goLocal
  | emergencyLocal
  deriving DecidableEq

namespace ControlHotkeyAction

def bit : ControlHotkeyAction → UInt8
  | .goMac => 1
  | .goLocal => 2
  | .emergencyLocal => 4

def priority : ControlHotkeyAction → ℕ
  | .goMac => 1
  | .goLocal => 2
  | .emergencyLocal => 3

/-- `GoLocal | EmergencyLocal` -/
def returnsLocal : ControlHotkeyAction → Bool
  | .goMac => false
  | .goLocal | .emergencyLocal => true

end ControlHotkeyAction

/-! ### Reading a hotkey -/

structure ControlHotkeyBinding where
  action : ControlHotkeyAction
  keyCode : UInt16
  modifiers : HotkeyModifiers
  deriving DecidableEq

def ControlHotkeyBinding.matches (b : ControlHotkeyBinding) (keyCode : UInt16)
    (modifiers : HotkeyModifiers) : Bool :=
  b.keyCode == keyCode && b.modifiers == modifiers

/-- `parse::<u16>` -/
def parseU16 (text : List Char) : Option UInt16 :=
  let digits := if text.head? = some '+' then text.tail else text
  if digits = [] ∨ !digits.all Char.isDigit then none else
  let value := digits.foldl (fun n c => 10 * n + (c.toNat - '0'.toNat)) 0
  if value < 2 ^ 16 then some value.toUInt16 else none

/-- The part is one of these words. -/
def isOneOf (part : List Char) (words : List String) : Bool := words.any fun word => word.toList == part

/-- The keys which have a name of their own. -/
def namedKey (key : List Char) : Option UInt16 :=
  if isOneOf key ["space", "spacebar"] then some 0x20
  else if isOneOf key ["tab"] then some 0x09
  else if isOneOf key ["enter", "return"] then some 0x0D
  else if isOneOf key ["esc", "escape"] then some 0x1B
  else if isOneOf key ["scrolllock", "scroll", "scrlk"] then some 0x91
  else if isOneOf key ["up", "arrowup"] then some 0x26
  else if isOneOf key ["down", "arrowdown"] then some 0x28
  else if isOneOf key ["left", "arrowleft"] then some 0x25
  else if isOneOf key ["right", "arrowright"] then some 0x27
  else none

/-- The key of one character: a letter or a digit. -/
def characterKey : List Char → Option UInt16
  | [c] => if c.isAlpha then some c.toUpper.toNat.toUInt16 else if c.isDigit then some c.toNat.toUInt16 else none
  | _ => none

/-- `F1` to `F24` -/
def functionKey : List Char → Option UInt16
  | 'f' :: number => (parseU16 number).bind fun n => if 1 ≤ n ∧ n ≤ 24 then some (0x70 + n - 1) else none
  | _ => none

def hotkeyKeyToWindowsVk (key : List Char) : Option UInt16 :=
  (characterKey key).or ((functionKey key).or (namedKey key))

/-- One part of a hotkey: a modifier, or the key, of which there is at most one. -/
def addPart : HotkeyModifiers × Option UInt16 → List Char → Option (HotkeyModifiers × Option UInt16)
  | (modifiers, keyCode), part =>
    if isOneOf part ["ctrl", "control"] then some ({ modifiers with ctrl := true }, keyCode)
    else if isOneOf part ["alt", "option"] then some ({ modifiers with alt := true }, keyCode)
    else if isOneOf part ["shift"] then some ({ modifiers with shift := true }, keyCode)
    else if isOneOf part ["meta", "cmd", "command", "win", "windows", "super", "os"] then
      some ({ modifiers with «meta» := true }, keyCode)
    else if keyCode.isSome then none
    else some (modifiers, hotkeyKeyToWindowsVk part)

/-- `value.trim().to_ascii_lowercase().replace(' ', "")` -/
def normalizeHotkey (value : String) : List Char :=
  ((trim value.toList).map Char.toLower).filter (· ≠ ' ')

def parseControlHotkeyBinding (value : String) (action : ControlHotkeyAction) : Option ControlHotkeyBinding :=
  let normalized := normalizeHotkey value
  if normalized = [] ∨ isOneOf normalized ["disabled", "disable", "off", "none"] then none else
  ((normalized.splitOn '+').filter (· ≠ [])).foldlM addPart (HotkeyModifiers.none,
    none) >>= fun (modifiers, keyCode) =>
    keyCode.map fun keyCode => { action, keyCode, modifiers }

def hotkeyMatchesVk (value : String) (keyCode : UInt16) (modifiers : HotkeyModifiers) : Bool :=
  let normalized := normalizeHotkey value
  if normalized = [] ∨ isOneOf normalized ["disabled", "disable", "off", "none"] then false else
  match ((normalized.splitOn '+').filter (· ≠ [])).foldlM addPart (HotkeyModifiers.none, none) with
  | none => false
  | some (required, mainKey) => mainKey == some keyCode && required == modifiers

structure ScreenSwitchHotkeys where
  left : String
  right : String
  up : String
  down : String
  deriving DecidableEq

def screenSwitchHotkeysMatchVk (hotkeys : ScreenSwitchHotkeys) (keyCode : UInt16)
    (modifiers : HotkeyModifiers) : Bool :=
  [hotkeys.left, hotkeys.right, hotkeys.up, hotkeys.down].any fun hotkey =>
    hotkeyMatchesVk hotkey keyCode modifiers

structure ControlHotkeys where
  controlMac : String
  returnWindows : String
  emergencyReturn : String

def ControlHotkeys.default : ControlHotkeys :=
  { controlMac := "control+alt+F11", returnWindows := "control+alt+F10",
    emergencyReturn := "control+alt+shift+F10" }

/-- In the order in which they are looked up. -/
def controlHotkeyBindings (hotkeys : ControlHotkeys) : List (Option ControlHotkeyBinding) :=
  [parseControlHotkeyBinding hotkeys.emergencyReturn .emergencyLocal,
    parseControlHotkeyBinding hotkeys.returnWindows .goLocal,
    parseControlHotkeyBinding hotkeys.controlMac .goMac]

example : parseControlHotkeyBinding " Ctrl + Alt+F12" .goMac =
    some ⟨.goMac, 0x7B, { ctrl := true, alt := true, shift := false, «meta» := false }⟩ := by decide +kernel

/-! ### Acting once -/

/-- The actions whose hotkey is down, as bits. -/
structure HotkeyDeduper where
  bits : UInt8
  deriving DecidableEq

namespace HotkeyDeduper

/-- True at the first press since the last release. -/
def press (d : HotkeyDeduper) (action : ControlHotkeyAction) : Bool × HotkeyDeduper :=
  (d.bits &&& action.bit == 0, ⟨d.bits ||| action.bit⟩)

def release (d : HotkeyDeduper) (action : ControlHotkeyAction) : HotkeyDeduper := ⟨d.bits &&& ~~~action.bit⟩

end HotkeyDeduper

/-- The action which waits for the capture thread. -/
structure ControlActionSlot where
  pending : Option ControlHotkeyAction
  deriving DecidableEq

/-- Only a weaker action is replaced; `free` says that nobody else holds the slot. -/
def ControlActionSlot.offer (slot : ControlActionSlot) (free : Bool) (action : ControlHotkeyAction) :
    Bool × ControlActionSlot :=
  if !free then (false, slot)
  else if slot.pending.all fun current => current.priority ≤ action.priority then (true, ⟨some action⟩)
  else (true, slot)

/-- What the hotkeys share with the other threads. -/
structure HotkeyState where
  deduper : HotkeyDeduper
  pending : ControlActionSlot
  localOverride : LocalOverride
  deriving DecidableEq

def dispatchControlHotkey (s : HotkeyState) (free : Bool) (action : ControlHotkeyAction) (pressed : Bool) :
    Bool × HotkeyState :=
  if !pressed then (false, { s with deduper := s.deduper.release action })
  else
    let (first, deduper) := s.deduper.press action
    if !first then (false, { s with deduper })
    else
      let localOverride := if action.returnsLocal then s.localOverride.requestLocal else s.localOverride
      let (offered, pending) := s.pending.offer free action
      (offered, { deduper, pending, localOverride })

end MyKvm.Hook
