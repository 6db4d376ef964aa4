import MyKvm.Hook.Keyboard
import MyKvm.Protocol.Frames

/-!
# MyKvm.Pointer.Events — what the queued events of the hooks say

The hooks queue raw words.  The capture thread reads a button, a wheel delta or a key from them.
-/

namespace MyKvm.Pointer

open MyKvm.Protocol MyKvm.Hook

def wmMousemove : UInt32 := 0x200
def wmLbuttondown : UInt32 := 0x201
def wmLbuttonup : UInt32 := 0x202
def wmRbuttondown : UInt32 := 0x204
def wmRbuttonup : UInt32 := 0x205
def wmMbuttondown : UInt32 := 0x207
def wmMbuttonup : UInt32 := 0x208
def wmMousewheel : UInt32 := 0x20A
def wmXbuttondown : UInt32 := 0x20B
def wmXbuttonup : UInt32 := 0x20C
def wmMousehwheel : UInt32 := 0x20E

def xbutton1 : UInt16 := 1

/-- The high word of the mouse data. -/
def highWord (mouseData : UInt32) : UInt16 := (mouseData >>> 16).toUInt16

/-- The button of a message, and whether it goes down. -/
def mouseButton (message mouseData : UInt32) : Option (CriticalButton × Bool) :=
  let xButton := if highWord mouseData = xbutton1 then .back else .forward
  if message = wmLbuttondown then some (.left, true)
  else if message = wmLbuttonup then some (.left, false)
  else if message = wmRbuttondown then some (.right, true)
  else if message = wmRbuttonup then some (.right, false)
  else if message = wmMbuttondown then some (.middle, true)
  else if message = wmMbuttonup then some (.middle, false)
  else if message = wmXbuttondown then some (xButton, true)
  else if message = wmXbuttonup then some (xButton, false)
  else none

/-- The notches of a wheel message; what is left of a division by 120 is lost. -/
def scrollDelta (message mouseData : UInt32) : Option (Int32 × Int32) :=
  let delta := ((highWord mouseData).toInt16 / 120).toInt32
  if message = wmMousehwheel then some (delta, 0)
  else if message = wmMousewheel then some (0, delta)
  else none

/-- `u16::try_from` -/
def toU16 (value : UInt32) : Option UInt16 := if value.toNat < 2 ^ 16 then some value.toUInt16 else none

/-- A key which fits its fields; bit 0 of the flags says that it is an extended one. -/
def v2KeyEvent (keyCode scanCode flags : UInt32) (down : Bool) : Option CriticalEvent := do
  let keyCode ← toU16 keyCode
  let scanCode ← toU16 scanCode
  return .key keyCode scanCode (flags &&& 1 != 0) down

theorem toU16_eq_some {value : UInt32} {v : UInt16} :
    toU16 value = some v ↔ value.toNat < 2 ^ 16 ∧ value.toUInt16 = v := by
  unfold toU16
  by_cases h : value.toNat < 2 ^ 16
  · rw [if_pos h, Option.some_inj]
    exact ⟨fun heq => ⟨h, heq⟩, And.right⟩
  · rw [if_neg h]
    exact ⟨fun hnone => (by cases hnone), fun hsome => absurd hsome.1 h⟩

theorem v2KeyEvent_eq_some {keyCode scanCode flags : UInt32} {down : Bool} {event : CriticalEvent} :
    v2KeyEvent keyCode scanCode flags down = some event ↔ keyCode.toNat < 2 ^ 16 ∧ scanCode.toNat < 2 ^ 16 ∧
      .key keyCode.toUInt16 scanCode.toUInt16 (flags &&& 1 != 0) down = event := by
  unfold v2KeyEvent
  constructor
  · intro h
    obtain ⟨code, hcode, h⟩ := Option.bind_eq_some_iff.mp h
    obtain ⟨scan, hscan, h⟩ := Option.bind_eq_some_iff.mp h
    obtain ⟨hcodeFits, rfl⟩ := toU16_eq_some.mp hcode
    obtain ⟨hscanFits, rfl⟩ := toU16_eq_some.mp hscan
    exact ⟨hcodeFits, hscanFits, Option.some.inj h⟩
  · rintro ⟨hcode, hscan, rfl⟩
    rw [toU16_eq_some.mpr ⟨hcode, rfl⟩, toU16_eq_some.mpr ⟨hscan, rfl⟩]
    rfl

/-- `matches!(message, WM_KEYDOWN | WM_SYSKEYDOWN)` -/
def keyDown (message : UInt32) : Bool := message == wmKeydown || message == wmSyskeydown

example : scrollDelta wmMousewheel 0xFF880000 = some (0, -1) := by decide

end MyKvm.Pointer
