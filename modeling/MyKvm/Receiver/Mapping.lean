import MyKvm.ControlPorts
import MyKvm.Protocol.Frames

/-!
# MyKvm.Receiver.Mapping — from the controller's coordinates and keys to the receiver's

A layout maps a point of the logical display to the native one; the modifier mapping replaces Control, Alt and
Meta.
-/

namespace MyKvm.Receiver

open MyKvm.Protocol

structure ReceiverDisplayLayout where
  displayId : String
  layoutRevision : UInt64
  logicalWidth : Int32
  logicalHeight : Int32
  nativeX : Int32
  nativeY : Int32
  nativeWidth : Int32
  nativeHeight : Int32
  deriving DecidableEq

/-- `i32::try_from(v).unwrap_or(i32::MAX)` -/
def clampI32 (v : Int) : Int32 :=
  if Int32.minValue.toInt ≤ v ∧ v ≤ Int32.maxValue.toInt then Int32.ofInt v else Int32.maxValue

/-- One axis; the products and quotients are taken in `i64`, where they do not overflow. -/
def mapAxis (value logicalSize nativeOrigin nativeSize : Int32) : Int32 :=
  if logicalSize ≤ 1 ∨ nativeSize ≤ 1 then nativeOrigin else
  let offset := (value.toInt * (nativeSize.toInt - 1)).tdiv (logicalSize.toInt - 1)
  clampI32 (nativeOrigin.toInt + offset)

def ReceiverDisplayLayout.map (l : ReceiverDisplayLayout) (x y : Int32) : Except ProtocolError (Int32 × Int32) :=
  if l.layoutRevision = 0 ∨ l.logicalWidth ≤ 0 ∨ l.logicalHeight ≤ 0 ∨ l.nativeWidth ≤ 0 ∨ l.nativeHeight ≤ 0 ∨
      x < 0 ∨ y < 0 ∨ l.logicalWidth ≤ x ∨ l.logicalHeight ≤ y then
    .error (.invalidField "coordinates")
  else
    .ok (mapAxis x l.logicalWidth l.nativeX l.nativeWidth, mapAxis y l.logicalHeight l.nativeY l.nativeHeight)

/-- The modifier which a virtual key is, under the mapping. -/
def modifierTarget (vk : UInt16) (control alt «meta» : String) : Option String :=
  if vk = 0x11 ∨ vk = 0xA2 ∨ vk = 0xA3 then some control
  else if vk = 0x12 ∨ vk = 0xA4 ∨ vk = 0xA5 then some alt
  else if vk = 0x5B ∨ vk = 0x5C then some «meta»
  else none

def remapModifierVk (vk : UInt16) (control alt «meta» : String) : UInt16 :=
  match modifierTarget vk control alt «meta» with
  | none => vk
  | some target =>
    let right := vk = 0xA1 ∨ vk = 0xA3 ∨ vk = 0xA5 ∨ vk = 0x5C
    let generic := vk = 0x10 ∨ vk = 0x11 ∨ vk = 0x12
    if target = "control" then (if generic then 0x11 else if right then 0xA3 else 0xA2)
    else if target = "alt" then (if generic then 0x12 else if right then 0xA5 else 0xA4)
    else if target = "meta" then (if right then 0x5C else 0x5B)
    else vk

/-- The point of an event, with its motion sequence. -/
def criticalMotionSnapshot : CriticalEvent → Option (UInt64 × Int32 × Int32)
  | .button _ _ x y motionSequence => some (motionSequence, x, y)
  | .scroll _ _ x y motionSequence => some (motionSequence, x, y)
  | .key _ _ _ _ => none

/-- The event at another point. -/
def moveTo (x y : Int32) : CriticalEvent → CriticalEvent
  | .button button down _ _ motionSequence => .button button down x y motionSequence
  | .scroll deltaX deltaY _ _ motionSequence => .scroll deltaX deltaY x y motionSequence
  | event => event

end MyKvm.Receiver
