import MyKvm.Hook.Hotkeys

/-!
# MyKvm.Hook.Keyboard — the low-level keyboard hook

The system calls the hook for every key event before anyone else sees it.  The hook lets the event pass to the
local system, takes it as a control hotkey, or puts it into the queue of the capture thread, which sends it to the
remote machine.
-/

namespace MyKvm.Hook

open MyKvm.Lib MyKvm.Routing

structure KbdLlHookStruct where
  vkCode : UInt32
  scanCode : UInt32
  flags : UInt32
  deriving DecidableEq

inductive WindowsHookEvent where
  | mouse (message : UInt32) (x y : Int32) (mouseData : UInt32)
  | key (message keyCode scanCode flags : UInt32) (modifiers : HotkeyModifiers)
  deriving DecidableEq

structure WindowsCaptureContext where
  controlHotkeyBindings : List (Option ControlHotkeyBinding)
  hotkeys : HotkeyState
  remoteActive : Bool
  v2Controller : Bool
  hookEvents : List WindowsHookEvent
  deriving DecidableEq

/-- What the hook meets in one call: its arguments, the settings and the system, and whether nobody else holds the
context and the slot and the queue has room. -/
structure KeyboardCall where
  code : Int32
  wparam : UInt64
  event : KbdLlHookStruct
  modifiers : HotkeyModifiers
  localGameMode : Bool
  desktopIsDefault : Bool
  contextFree : Bool
  slotFree : Bool
  queueFree : Bool
  deriving DecidableEq

/-- What becomes of a key event; the last two keep it from the local system. -/
inductive KeyOutcome where
  | next
  | hotkey (action : ControlHotkeyAction)
  | queued
  deriving DecidableEq

def wmKeydown : UInt32 := 0x100
def wmKeyup : UInt32 := 0x101
def wmSyskeydown : UInt32 := 0x104
def wmSyskeyup : UInt32 := 0x105

namespace WindowsCaptureContext

variable (c : WindowsCaptureContext)

def capturing : Bool := if c.v2Controller then !c.hotkeys.localOverride.isLocal else c.remoteActive

/-- The first binding of the key; a press needs its modifiers too. -/
def controlAction (keyCode : UInt16) (modifiers : HotkeyModifiers) (down : Bool) : Option ControlHotkeyAction :=
  c.controlHotkeyBindings.reduceOption.findSome? fun binding =>
    if (down && binding.matches keyCode modifiers) || (!down && binding.keyCode == keyCode) then
      some binding.action
    else none

/-- `request_local`, and `GoLocal` for the capture thread. -/
def returnLocal (slotFree : Bool) : WindowsCaptureContext :=
  { c with hotkeys := { c.hotkeys with
      localOverride :=
        c.hotkeys.localOverride.requestLocal, pending := (c.hotkeys.pending.offer slotFree .goLocal).2 } }

def windowsKeyboardProcInner (call : KeyboardCall) : KeyOutcome × WindowsCaptureContext :=
  if call.code < 0 then (.next, c)
  else if !call.contextFree then (.next, c)
  else if !call.desktopIsDefault then (.next, c.returnLocal call.slotFree)
  else
    let message := call.wparam.toUInt32
    if message ∉ [wmKeydown, wmSyskeydown, wmKeyup, wmSyskeyup] then (.next, c)
    else
      let keyCode := call.event.vkCode.toUInt16
      let down := message == wmKeydown || message == wmSyskeydown
      match c.controlAction keyCode call.modifiers down with
      | some action =>
        (.hotkey action, { c with hotkeys := (dispatchControlHotkey c.hotkeys call.slotFree action down).2 })
      | none =>
        if !c.capturing then (.next, c)
        else if !call.queueFree then (.next, c.returnLocal call.slotFree)
        else
          let event := .key message call.event.vkCode call.event.scanCode call.event.flags call.modifiers
          (.queued, { c with hookEvents := c.hookEvents ++ [event] })

def windowsKeyboardProc (call : KeyboardCall) : KeyOutcome × WindowsCaptureContext :=
  if call.localGameMode then (.next, c) else c.windowsKeyboardProcInner call

end WindowsCaptureContext

/-! ### Physical keys -/

/-- A key event, whose message is a system one while `Alt` is down. -/
structure KeyEvent where
  event : KbdLlHookStruct
  modifiers : HotkeyModifiers
  system : Bool
  slotFree : Bool
  deriving DecidableEq

namespace KeyEvent

def keyCode (e : KeyEvent) : UInt16 := e.event.vkCode.toUInt16

def message (e : KeyEvent) (down : Bool) : UInt32 :=
  match down, e.system with
  | true, false => wmKeydown
  | true, true => wmSyskeydown
  | false, false => wmKeyup
  | false, true => wmSyskeyup

/-- The call of a hook which routes: no game mode, the default desktop, and a queue with room. -/
def call (e : KeyEvent) (down : Bool) : KeyboardCall :=
  { code := 0, wparam := (e.message down).toUInt64, event := e.event, modifiers := e.modifiers,
    localGameMode := false, desktopIsDefault := true, contextFree := true, slotFree := e.slotFree,
    queueFree := true }

end KeyEvent

namespace WindowsCaptureContext

variable (c : WindowsCaptureContext)

/-- What becomes of a key which meets the gate like this. -/
def verdict (capturing : Bool) (e : KeyEvent) (down : Bool) : KeyOutcome :=
  match c.controlAction e.keyCode e.modifiers down with
  | some action => .hotkey action
  | none => if capturing then .queued else .next

/-- **What the hook does** with a physical key. -/
theorem windowsKeyboardProc_call (e : KeyEvent) (down : Bool) :
    (c.windowsKeyboardProc (e.call down)).1 = c.verdict c.capturing e down ∧
      (c.windowsKeyboardProc (e.call down)).2.controlHotkeyBindings = c.controlHotkeyBindings := by
  have hmessage : (e.message down).toUInt64.toUInt32 = e.message down := by simp
  have hknown : e.message down ∈ [wmKeydown, wmSyskeydown, wmKeyup, wmSyskeyup] := by
    unfold KeyEvent.message
    split <;> simp
  have hdown : (e.message down == wmKeydown || e.message down == wmSyskeydown) = down := by
    unfold KeyEvent.message
    cases down <;> cases e.system <;> rfl
  have hinner : c.windowsKeyboardProc (e.call down) =
      match c.controlAction e.keyCode e.modifiers down with
      | some action =>
        (.hotkey action, { c with hotkeys := (dispatchControlHotkey c.hotkeys e.slotFree action down).2 })
      | none =>
        if !c.capturing then (.next, c)
        else (.queued, { c with hookEvents := c.hookEvents ++
          [.key (e.message down) e.event.vkCode e.event.scanCode e.event.flags e.modifiers] }) := by
    unfold windowsKeyboardProc windowsKeyboardProcInner
    simp only [KeyEvent.call, hmessage, hdown]
    rw [if_neg (by decide), if_neg (by decide), if_neg (by decide), if_neg (by decide),
      if_neg (not_not.mpr hknown)]
    rfl
  rw [hinner]
  unfold verdict
  cases c.controlAction e.keyCode e.modifiers down with
  | some action => exact ⟨rfl, rfl⟩
  | none => cases c.capturing <;> exact ⟨rfl, rfl⟩

/-- A press is a hotkey only of a key whose release is one. -/
theorem controlAction_down {keyCode : UInt16} {modifiers modifiers' : HotkeyModifiers}
    (h : c.controlAction keyCode modifiers false = none) : c.controlAction keyCode modifiers' true = none := by
  unfold controlAction at h ⊢
  rw [List.findSome?_eq_none_iff] at h ⊢
  intro binding hmem
  have hkey : ¬ binding.keyCode = keyCode := by simpa using h binding hmem
  simp [ControlHotkeyBinding.matches, hkey]

end WindowsCaptureContext

end MyKvm.Hook
