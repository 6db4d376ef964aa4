import MyKvm.Hook.Hotkeys

/-!
# MyKvm.Hook.Shortcuts — the hotkeys as the system knows them

The hook compares keys with the text of the settings.  For the system the text is rewritten to a canonical one,
which the shortcut library reads; and the settings are refused if two of the canonical texts are the same.
-/

namespace MyKvm.Hook

open MyKvm.Lib

/-- The modifiers and the key at which the system reports a shortcut. -/
abbrev Chord := HotkeyModifiers × UInt16

/-- The shortcut library reads a text. -/
structure ShortcutLibrary where
  parse : String → Except String Chord

def defaultEdgeSwitchHotkey : String := "alt+shift+k"

def normalizeEdgeSwitchHotkey (value : String) : List Char :=
  let normalized := normalizeHotkey value
  if normalized = [] then defaultEdgeSwitchHotkey.toList else normalized

/-- `parse::<u8>` -/
def parseU8 (text : List Char) : Option UInt8 :=
  let digits := if text.head? = some '+' then text.tail else text
  if digits = [] ∨ !digits.all Char.isDigit then none else
  let value := digits.foldl (fun n c => 10 * n + (c.toNat - '0'.toNat)) 0
  if value < 2 ^ 8 then some value.toUInt8 else none

def canonicalCharacterKey : List Char → Option String
  | [c] => if c.isAlphanum then some (String.singleton c.toUpper) else none
  | _ => none

def canonicalFunctionKey : List Char → Option String
  | 'f' :: number => (parseU8 number).bind fun n => if 1 ≤ n ∧ n ≤ 24 then some ("F" ++ toString n.toNat) else none
  | _ => none

def canonicalNamedKey (key : List Char) : Option String :=
  if isOneOf key ["space", "spacebar"] then some "space"
  else if isOneOf key ["tab"] then some "tab"
  else if isOneOf key ["enter", "return"] then some "enter"
  else if isOneOf key ["esc", "escape"] then some "escape"
  else if isOneOf key ["scrolllock", "scroll", "scrlk"] then some "scrolllock"
  else if isOneOf key ["up", "arrowup"] then some "arrowup"
  else if isOneOf key ["down", "arrowdown"] then some "arrowdown"
  else if isOneOf key ["left", "arrowleft"] then some "arrowleft"
  else if isOneOf key ["right", "arrowright"] then some "arrowright"
  else none

def canonicalRuntimeToggleKey (key : List Char) : Option String :=
  (canonicalCharacterKey key).or ((canonicalFunctionKey key).or (canonicalNamedKey key))

def allowsSingleRuntimeToggleKey (key : String) : Bool := key.toList.head? = some 'F' || key = "scrolllock"

def addCanonicalPart :
    HotkeyModifiers × Option String → List Char → Except String (HotkeyModifiers × Option String)
  | (modifiers, key), part =>
    if isOneOf part ["ctrl", "control"] then .ok ({ modifiers with ctrl := true }, key)
    else if isOneOf part ["alt", "option"] then .ok ({ modifiers with alt := true }, key)
    else if isOneOf part ["shift"] then .ok ({ modifiers with shift := true }, key)
    else if isOneOf part ["meta", "cmd", "command", "win", "windows", "super", "os"] then
      .ok ({ modifiers with «meta» := true }, key)
    else if key.isSome then .error "快捷启停快捷键只能包含一个主按键。"
    else match canonicalRuntimeToggleKey part with
      | none => .error ("无法识别快捷启停快捷键按键：" ++ String.ofList part)
      | some key => .ok (modifiers, some key)

/-- `parts.join("+")` -/
def joinShortcut (modifiers : HotkeyModifiers) (key : String) : String :=
  String.intercalate "+" ((if modifiers.ctrl then ["control"] else []) ++
    (if modifiers.alt then ["alt"] else []) ++
    (if modifiers.shift then ["shift"] else []) ++ (if modifiers.«meta» then ["super"] else []) ++ [key])

/-- The texts which say that there is no hotkey. -/
def isDisabled (normalized : List Char) : Bool := isOneOf normalized ["disabled", "disable", "off", "none"]

def canonicalRuntimeToggleShortcut (lib : ShortcutLibrary) (value : String) : Except String (Option String) :=
  let normalized := normalizeEdgeSwitchHotkey value
  if isDisabled normalized then .ok none else
  match ((normalized.splitOn '+').filter (· ≠ [])).foldlM addCanonicalPart (HotkeyModifiers.none, none) with
  | .error error => .error error
  | .ok (_, none) => .error "快捷启停快捷键缺少主按键。"
  | .ok (modifiers, some key) =>
    if modifiers = HotkeyModifiers.none ∧ !allowsSingleRuntimeToggleKey key then
      .error "快捷启停快捷键需要使用组合键，或使用 F1-F24 / ScrollLock。"
    else match lib.parse (joinShortcut modifiers key) with
      | .error error => .error ("无法注册快捷启停快捷键 " ++ String.ofList normalized ++ ": " ++ error)
      | .ok _ => .ok (some (joinShortcut modifiers key))

/-! ### The hotkeys of a layout -/

/-- What the settings say about hotkeys. -/
structure HotkeySettings where
  machineRole : String
  edgeSwitchHotkey : String
  controlHotkeys : ControlHotkeys
  screenSwitchHotkeys : ScreenSwitchHotkeys

def runtimeToggleShortcutForLayout (lib : ShortcutLibrary) (layout : HotkeySettings) :
    Except String (Option String) :=
  if layout.machineRole ≠ "server" then .ok none else canonicalRuntimeToggleShortcut lib layout.edgeSwitchHotkey

def emptyScreenSwitchHotkeys : ScreenSwitchHotkeys := ⟨"", "", "", ""⟩

def emptyControlHotkeys : ControlHotkeys := ⟨"", "", ""⟩

/-- `.unwrap_or(None).unwrap_or_default()` -/
def orEmpty (shortcut : Except String (Option String)) : String :=
  match shortcut with
  | .ok (some text) => text
  | .ok none | .error _ => ""

def screenSwitchShortcutsForLayout (lib : ShortcutLibrary) (layout : HotkeySettings) : ScreenSwitchHotkeys :=
  if layout.machineRole ≠ "server" then emptyScreenSwitchHotkeys else
  { left := orEmpty (canonicalRuntimeToggleShortcut lib layout.screenSwitchHotkeys.left)
    right := orEmpty (canonicalRuntimeToggleShortcut lib layout.screenSwitchHotkeys.right)
    up := orEmpty (canonicalRuntimeToggleShortcut lib layout.screenSwitchHotkeys.up)
    down := orEmpty (canonicalRuntimeToggleShortcut lib layout.screenSwitchHotkeys.down) }

def controlHotkeysForLayout (lib : ShortcutLibrary) (layout : HotkeySettings) : Except String ControlHotkeys :=
  if layout.machineRole ≠ "server" then .ok emptyControlHotkeys else do
  let controlMac ← canonicalRuntimeToggleShortcut lib layout.controlHotkeys.controlMac
  let returnWindows ← canonicalRuntimeToggleShortcut lib layout.controlHotkeys.returnWindows
  let emergencyReturn ← canonicalRuntimeToggleShortcut lib layout.controlHotkeys.emergencyReturn
  return { controlMac := controlMac.getD "", returnWindows := returnWindows.getD "",
           emergencyReturn := emergencyReturn.getD "" }

/-- The eight bindings, each with its label. -/
def HotkeySettings.entries (layout : HotkeySettings) : List (String × String) :=
  [("快捷启停", layout.edgeSwitchHotkey), ("控制 Mac", layout.controlHotkeys.controlMac),
    ("返回 Windows", layout.controlHotkeys.returnWindows), ("紧急返回 Windows", layout.controlHotkeys.emergencyReturn),
    ("向左切换", layout.screenSwitchHotkeys.left), ("向右切换", layout.screenSwitchHotkeys.right),
    ("向上切换", layout.screenSwitchHotkeys.up), ("向下切换", layout.screenSwitchHotkeys.down)]

def addEntry (lib : ShortcutLibrary) (canonical : List (String × String)) :
    String × String → Except String (List (String × String))
  | (label, raw) =>
    match canonicalRuntimeToggleShortcut lib raw with
    | .error error => .error error
    | .ok none => .ok canonical
    | .ok (some value) =>
      match canonical.find? fun entry => entry.2 = value with
      | some (other, _) => .error ("快捷键冲突：" ++ label ++ " 与 " ++ other ++ " 都使用 " ++ value)
      | none => .ok (canonical ++ [(label, value)])

def validateLayoutShortcutConflicts (lib : ShortcutLibrary) (layout : HotkeySettings) : Except String Unit :=
  if layout.machineRole ≠ "server" then .ok () else
  (layout.entries.foldlM (addEntry lib) []).map fun _ => ()

end MyKvm.Hook
