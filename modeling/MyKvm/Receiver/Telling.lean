import MyKvm.Receiver.Chronicle
import MyKvm.Receiver.Typing

/-!
# MyKvm.Receiver.Telling — what an event says to the device

`Tells` says it without the ledger, by the events which came before: the first source on a target presses it and
the last one releases it, a button is struck at its point, a scroll moves the pointer first.  `Told` puts the
events of a session and the moves of the pointer between them in turn.  `Recast` is the modifier mapping, by a
table of the keys.

* `recast_targetKey`: the key under the mapping is the one which the table says.
* `inputCommands_tells`: the commands of an input frame are what its event says.
-/

namespace MyKvm.Receiver

open MyKvm.Lib MyKvm.Protocol ReceiverSessionRuntime PressedState

/-- The point of a button or scroll event. -/
def eventPoint (event : CriticalEvent) : Option (Int32 × Int32) := (criticalMotionSnapshot event).map Prod.snd

/-- The button which the pointer drags. -/
def dragging (events : List CriticalEvent) : Option MouseButton :=
  [.left, .right, .middle].find? fun button => buttonInHand (events.map gesture) button

/-- What a mapped event says to the device, after the mapped events `before`. -/
inductive Tells (before : List CriticalEvent) : CriticalEvent → List InputCommand → Prop
  /-- The first source on a target presses it. -/
  | pressed {keyCode scanCode : UInt16} {extended : Bool} :
      frozen before (.fromEvent keyCode scanCode extended) = none →
      (∀ source, frozen before source ≠ some keyCode) →
      Tells before (.key keyCode scanCode extended true) [.key keyCode true]
  /-- A repeat says nothing, and neither does another source on a target. -/
  | repeated {keyCode scanCode : UInt16} {extended : Bool} :
      (frozen before (.fromEvent keyCode scanCode extended) ≠ none ∨ ∃ source,
        frozen before source = some keyCode) →
      Tells before (.key keyCode scanCode extended true) []
  /-- The last source on a target releases it, whatever key the release names. -/
  | released {keyCode scanCode code : UInt16} {extended : Bool} :
      frozen before (.fromEvent keyCode scanCode extended) = some code →
      (∀ source, frozen before source = some code → source = .fromEvent keyCode scanCode extended) →
      Tells before (.key keyCode scanCode extended false) [.key code false]
  | kept {keyCode scanCode : UInt16} {extended : Bool} :
      (∀ code, frozen before (.fromEvent keyCode scanCode extended) = some code →
        ∃ source, frozen before source = some code ∧ source ≠ .fromEvent keyCode scanCode extended) →
      Tells before (.key keyCode scanCode extended false) []
  | struck {button : CriticalButton} {down : Bool} {x y : Int32} {motionSequence : UInt64} :
      buttonInHand (before.map gesture) (mouseButton button) ≠ down →
      Tells before (.button button down x y motionSequence) [.mouseButton (mouseButton button) down x y]
  /-- Of a button which is so already the pointer alone is moved. -/
  | stayed {button : CriticalButton} {down : Bool} {x y : Int32} {motionSequence : UInt64} :
      buttonInHand (before.map gesture) (mouseButton button) = down →
      Tells before (.button button down x y motionSequence) [.mouseMove x y (dragging before)]
  | scrolled {deltaX deltaY x y : Int32} {motionSequence : UInt64} :
      Tells before (.scroll deltaX deltaY x y motionSequence)
        [.mouseMove x y (dragging before), .scroll deltaX deltaY]

/-- **What was told**, oldest first: what the events say, and moves of the pointer to
points which `steered` knows. -/
inductive Told (steered : Int32 → Int32 → Prop) : List CriticalEvent → List InputCommand → Prop
  | nothing : Told steered [] []
  | event {events : List CriticalEvent} {log commands : List InputCommand} {event : CriticalEvent} :
      Told steered events log → Tells events event commands → Told steered (events ++ [event]) (log ++ commands)
  | moved {events : List CriticalEvent} {log : List InputCommand} {x y : Int32} :
      Told steered events log → steered x y → Told steered events (log ++ [.mouseMove x y (dragging events)])

theorem Told.mono {steered steered' : Int32 → Int32 → Prop} {events : List CriticalEvent} {log : List InputCommand}
    (h : Told steered events log) (hmono : ∀ x y, steered x y → steered' x y) : Told steered' events log := by
  induction h with
  | nothing => exact .nothing
  | event _ htells ih => exact ih.event htells
  | moved _ hsteered ih => exact ih.moved (hmono _ _ hsteered)

/-! ### The mapping -/

inductive Modifier where
  | control
  | alt
  | «meta»
  deriving DecidableEq

inductive KeySide where
  | left
  | right
  | either
  deriving DecidableEq

/-- The keys of Windows for the modifiers, and the side of each. -/
def modifierKeys : List (Modifier × KeySide × UInt16) :=
  [(.control, .either, 0x11), (.control, .left, 0xA2), (.control, .right, 0xA3), (.alt, .either, 0x12),
    (.alt, .left, 0xA4), (.alt, .right, 0xA5), (.«meta», .left, 0x5B), (.«meta», .right, 0x5C)]

/-- The word of the settings for it. -/
def Modifier.word : Modifier → String
  | .control => "control"
  | .alt => "alt"
  | .«meta» => "meta"

/-- What the receiver is set to make of the modifiers. -/
structure ModifierMapping where
  enabled : Bool
  words : Modifier → String

def ReceiverSessionRuntime.modifierMapping (r : ReceiverSessionRuntime) : ModifierMapping where
  enabled := r.modifierRemap
  words
    | .control => r.modifierControl
    | .alt => r.modifierAlt
    | .«meta» => r.modifierMeta

/-- The key is a modifier of this side, and stands for the modifier `target`. -/
def ModifierMapping.Puts (mapping : ModifierMapping) (keyCode : UInt16) (target : Modifier) (side : KeySide) :
    Prop :=
  mapping.enabled = true ∧ ∃ modifier, (modifier, side, keyCode) ∈ modifierKeys ∧
    mapping.words modifier = target.word

/-- The key which is pressed in place of a key. -/
inductive Recast (mapping : ModifierMapping) (keyCode : UInt16) : UInt16 → Prop
  /-- A modifier is replaced by the one it stands for, on its side. -/
  | put {target : Modifier} {side : KeySide} {code : UInt16} :
      mapping.Puts keyCode target side → (target, side, code) ∈ modifierKeys → Recast mapping keyCode code
  /-- There is no Meta without a side; the left one is taken. -/
  | sideless : mapping.Puts keyCode .«meta» .either → Recast mapping keyCode 0x5B
  /-- Every other key stays what it is. -/
  | kept : (∀ target side, ¬ mapping.Puts keyCode target side) → Recast mapping keyCode keyCode

theorem modifierKeys_nodup : (modifierKeys.map fun key => key.2.2).Nodup := by decide

theorem modifierTarget_of_mem (r : ReceiverSessionRuntime) {modifier : Modifier} {side : KeySide}
    {keyCode : UInt16} (hmem : (modifier, side, keyCode) ∈ modifierKeys) :
    modifierTarget keyCode r.modifierControl r.modifierAlt r.modifierMeta =
      some (r.modifierMapping.words modifier) := by
  simp only [modifierKeys, List.mem_cons, Prod.mk.injEq, List.not_mem_nil, or_false] at hmem
  rcases hmem with ⟨rfl, rfl, rfl⟩ | ⟨rfl, rfl, rfl⟩ | ⟨rfl, rfl, rfl⟩ | ⟨rfl, rfl, rfl⟩ | ⟨rfl, rfl, rfl⟩ |
    ⟨rfl, rfl, rfl⟩ | ⟨rfl, rfl, rfl⟩ | ⟨rfl, rfl, rfl⟩ <;> rfl

theorem modifierTarget_eq_none {keyCode : UInt16} (hnot : ∀ key ∈ modifierKeys, keyCode ≠ key.2.2)
    (control alt «meta» : String) : modifierTarget keyCode control alt «meta» = none := by
  simp only [modifierKeys, List.forall_mem_cons, ne_eq] at hnot
  obtain ⟨hcontrol, hcontrolLeft, hcontrolRight, halt, haltLeft, haltRight, hmetaLeft, hmetaRight, -⟩ := hnot
  simp [modifierTarget, hcontrol, hcontrolLeft, hcontrolRight, halt, haltLeft, haltRight, hmetaLeft, hmetaRight]

section Remap

variable {keyCode : UInt16} {control alt «meta» word : String}

/-- The word names a modifier: its key on the same side. -/
theorem remapModifierVk_of_word {modifier target : Modifier} {side : KeySide}
    (hmem : (modifier, side, keyCode) ∈ modifierKeys)
    (hword : modifierTarget keyCode control alt «meta» = some target.word) :
    (target, side, remapModifierVk keyCode control alt «meta») ∈ modifierKeys ∨
      target = .«meta» ∧ side = .either ∧ remapModifierVk keyCode control alt «meta» = 0x5B := by
  unfold remapModifierVk
  rw [hword]
  simp only [modifierKeys, List.mem_cons, Prod.mk.injEq, List.not_mem_nil, or_false] at hmem
  rcases hmem with ⟨rfl, rfl, rfl⟩ | ⟨rfl, rfl, rfl⟩ | ⟨rfl, rfl, rfl⟩ | ⟨rfl, rfl, rfl⟩ | ⟨rfl, rfl, rfl⟩ |
    ⟨rfl, rfl, rfl⟩ | ⟨rfl, rfl, rfl⟩ | ⟨rfl, rfl, rfl⟩ <;> cases target <;> simp [Modifier.word, modifierKeys]

theorem remapModifierVk_of_no_word (hword : modifierTarget keyCode control alt «meta» = some word)
    (hnone : ∀ target : Modifier, word ≠ target.word) : remapModifierVk keyCode control alt «meta» = keyCode := by
  unfold remapModifierVk
  rw [hword]
  dsimp only
  rw [if_neg (show word ≠ "control" from hnone .control), if_neg (show word ≠ "alt" from hnone .alt),
    if_neg (show word ≠ "meta" from hnone .«meta»)]

end Remap

/-- **The key under the mapping** is the one which the words say. -/
theorem recast_targetKey (r : ReceiverSessionRuntime) (keyCode : UInt16) :
    Recast r.modifierMapping keyCode (r.targetKey keyCode) := by
  unfold targetKey
  by_cases henabled : r.modifierRemap = true
  · rw [if_pos henabled]
    by_cases hmodifier : ∃ modifier side, (modifier, side, keyCode) ∈ modifierKeys
    · obtain ⟨modifier, side, hmem⟩ := hmodifier
      have hword := modifierTarget_of_mem r hmem
      by_cases hnamed : ∃ target : Modifier, r.modifierMapping.words modifier = target.word
      · obtain ⟨target, hsame⟩ := hnamed
        have hputs : r.modifierMapping.Puts keyCode target side := ⟨henabled, modifier, hmem, hsame⟩
        rcases remapModifierVk_of_word hmem (hword.trans (congrArg some hsame)) with hput | ⟨rfl, rfl, hleft⟩
        · exact .put hputs hput
        · rw [hleft]
          exact .sideless hputs
      · push Not at hnamed
        rw [remapModifierVk_of_no_word hword hnamed]
        refine .kept fun target side' hputs => ?_
        obtain ⟨-, modifier', hmem', hsame⟩ := hputs
        have hkey := List.inj_on_of_nodup_map (f := fun key => key.2.2) modifierKeys_nodup hmem' hmem rfl
        exact hnamed target ((Prod.mk.inj hkey).1 ▸ hsame)
    · have hnot : ∀ key ∈ modifierKeys, keyCode ≠ key.2.2 := by
        rintro ⟨modifier, side, code⟩ hmem rfl
        exact hmodifier ⟨modifier, side, hmem⟩
      unfold remapModifierVk
      rw [modifierTarget_eq_none hnot]
      refine .kept fun target side hputs => ?_
      obtain ⟨-, modifier, hmem, -⟩ := hputs
      exact hmodifier ⟨modifier, side, hmem⟩
  · rw [if_neg henabled]
    exact .kept fun target side hputs => henabled hputs.1

/-- The gesture of the event, with its key recast, at the mapped point of the display. -/
structure Mapped (display : Option ReceiverDisplayLayout) (mapping : ModifierMapping)
    (event mapped : CriticalEvent) : Prop where
  gesture : gesture mapped = gesture event
  key : ∀ keyCode scanCode extended down, event = .key keyCode scanCode extended down →
    ∃ code, Recast mapping keyCode code ∧ mapped = .key code scanCode extended down
  point : ∀ x y, eventPoint event = some (x, y) →
    ∃ d ∈ display, ∃ point, d.map x y = .ok point ∧ eventPoint mapped = some point

theorem eventPoint_remapEvent (r : ReceiverSessionRuntime) (event : CriticalEvent) :
    eventPoint (r.remapEvent event) = eventPoint event := by
  cases event with
  | key keyCode scanCode extended down =>
    rw [remapEvent_key]
    rfl
  | button button down x y motionSequence => rfl
  | scroll deltaX deltaY x y motionSequence => rfl

theorem eventPoint_moveTo (x y : Int32) (event : CriticalEvent) :
    eventPoint (moveTo x y event) = (eventPoint event).map fun _ => (x, y) := by
  cases event <;> rfl

theorem mapEvent_mapped {r : ReceiverSessionRuntime} {event mapped : CriticalEvent}
    {pointer : Option (Int32 × Int32)} (h : r.mapEvent event = .ok (mapped, pointer)) :
    Mapped r.activeDisplay r.modifierMapping event mapped ∧ pointer = eventPoint mapped := by
  have hgesture := mapEvent_gesture h
  rcases mapEvent_cases h with ⟨hnone, rfl, rfl⟩ | ⟨sequence, x, y, px, py, hsome, hmap, rfl, rfl⟩
  · have hpoint : eventPoint event = none := congrArg (Option.map Prod.snd) hnone
    refine ⟨⟨hgesture, fun keyCode scanCode extended down hevent => ?_, fun x y hevent => ?_⟩, ?_⟩
    · subst hevent
      exact ⟨r.targetKey keyCode, recast_targetKey r keyCode, remapEvent_key r keyCode scanCode extended down⟩
    · cases hpoint.symm.trans hevent
    · rw [eventPoint_remapEvent, hpoint]
  · have hpoint : eventPoint event = some (x, y) := congrArg (Option.map Prod.snd) hsome
    have hmoved : eventPoint (moveTo px py (r.remapEvent event)) = some (px, py) := by
      rw [eventPoint_moveTo, eventPoint_remapEvent, hpoint]
      rfl
    obtain ⟨display, hdisplay, hat⟩ := mapActivePointer_eq_ok hmap
    refine ⟨⟨hgesture, fun keyCode scanCode extended down hevent => ?_, fun x' y' hevent => ?_⟩, hmoved.symm⟩
    · -- a key has no point
      subst hevent
      cases hsome
    obtain ⟨rfl, rfl⟩ := Prod.mk.inj (Option.some.inj (hpoint.symm.trans hevent))
    exact ⟨display, hdisplay, (px, py), hat, hmoved⟩

/-! ### The commands of the ledger -/

section Ledger

variable {before : List CriticalEvent} {s : PressedState}

/-- The ledger lists what the events before have left down. -/
structure Holds (before : List CriticalEvent) (s : PressedState) : Prop where
  listed : s.Listed
  freezes : s.Freezes (frozen before)
  buttons : ∀ button, .button button ∈ s.targets ↔ buttonInHand (before.map gesture) button = true

theorem Holds.sameGrips {s' : PressedState} (h : Holds before s) (hsame : SameGrips s s') : Holds before s' :=
  ⟨hsame.listed h.listed, hsame.freezes h.freezes, fun button => (hsame.mem_targets _).trans (h.buttons button)⟩

theorem Holds.inputCommands (h : Holds before s) (mapped : CriticalEvent) (pointer : Option (Int32 × Int32)) :
    Holds (before ++ [mapped]) (Receiver.inputCommands s mapped pointer).2 := by
  refine ⟨h.listed.inputCommands mapped pointer, ?_, ?_⟩
  · have hfreezes := h.listed.inputCommands_freezes h.freezes mapped pointer
    intro source code
    rw [frozen_concat]
    exact hfreezes source code
  · intro button
    rw [List.map_append, List.map_singleton, buttonInHand_concat]
    exact h.listed.inputCommands_button (h.buttons button) mapped pointer

theorem Holds.any_button (h : Holds before s) (button : MouseButton) :
    s.buttons.any (·.button == button) = buttonInHand (before.map gesture) button := by
  rw [Bool.eq_iff_iff, ← h.buttons, button_mem_map]
  simp

theorem Holds.dragButton (h : Holds before s) : s.dragButton = dragging before :=
  congrArg ([.left, .right, .middle] : List MouseButton).find? (funext h.any_button)

theorem Holds.press_tells (h : Holds before s) (keyCode scanCode : UInt16) (extended : Bool) :
    Tells before (.key keyCode scanCode extended true) (s.applyKey keyCode scanCode extended true).1 := by
  rw [applyKey_eq]
  dsimp only
  rw [if_pos rfl]
  generalize hstruck : KeySource.fromEvent keyCode scanCode extended = struck
  cases hpress : (Grip.press HeldKey.source HeldKey.targetKeyCode s.keys ⟨struck, keyCode⟩).1 with
  | some code =>
    obtain ⟨hcode, hsources, htargets⟩ := Grip.press_eq_some.mp hpress
    rw [show code = keyCode from hcode]
    subst hstruck
    refine .pressed ((h.freezes.listed_iff _).mp hsources) fun source hsource => ?_
    exact htargets ⟨source, keyCode⟩ ((h.freezes source keyCode).mpr hsource) rfl
  | none =>
    subst hstruck
    refine .repeated ?_
    by_contra hfree
    push Not at hfree
    obtain ⟨hsource, htarget⟩ := hfree
    have hpressed := (@Grip.press_eq_some _ _ _ _ _ HeldKey.source HeldKey.targetKeyCode s.keys
      ⟨.fromEvent keyCode scanCode extended, keyCode⟩ keyCode).mpr ⟨rfl, (h.freezes.listed_iff _).mpr hsource, ?_⟩
    · cases hpress.symm.trans hpressed
    · rintro ⟨source, code⟩ hheld hsame
      obtain rfl : code = keyCode := hsame
      exact htarget source ((h.freezes source code).mp hheld)

theorem Holds.release_tells (h : Holds before s) (keyCode scanCode : UInt16) (extended : Bool) :
    Tells before (.key keyCode scanCode extended false) (s.applyKey keyCode scanCode extended false).1 := by
  obtain ⟨answer, hcommands, hanswer⟩ := h.listed.release_freezes h.freezes keyCode scanCode extended
  change (s.applyKey keyCode scanCode extended false).1 = _ at hcommands
  rw [hcommands]
  cases answer with
  | some code =>
    obtain ⟨hfrozen, hlast⟩ := (hanswer code).mp rfl
    exact .released hfrozen hlast
  | none =>
    refine .kept fun code hfrozen => ?_
    by_contra hlast
    push Not at hlast
    cases (hanswer code).mpr ⟨hfrozen, hlast⟩

/-- A button which is so already stays as it is. -/
theorem Holds.stays (h : Holds before s) {button : MouseButton} {down : Bool} (x y : Int32)
    (hstays : buttonInHand (before.map gesture) button = down) :
    (s.applyButton button down x y).1 = [] ∧ Holds before (s.applyButton button down x y).2 := by
  have hany := (h.any_button button).trans hstays
  unfold applyButton
  cases down with
  | true =>
    rw [if_pos rfl, if_pos hany]
    exact ⟨rfl, h.sameGrips ⟨rfl, map_button_replaceF _ _ _ _⟩⟩
  | false =>
    rw [if_neg Bool.false_ne_true, if_neg (Bool.eq_false_iff.mp hany)]
    exact ⟨rfl, h⟩

/-- **The commands of an input frame** are what its event says. -/
theorem inputCommands_tells (h : Holds before s) (mapped : CriticalEvent) :
    Tells before mapped (Receiver.inputCommands s mapped (eventPoint mapped)).1 := by
  cases mapped with
  | key keyCode scanCode extended down =>
    show Tells before _ (inputCommands s (.key keyCode scanCode extended down) none).1
    rw [inputCommands_key]
    cases down with
    | true => exact h.press_tells keyCode scanCode extended
    | false => exact h.release_tells keyCode scanCode extended
  | scroll deltaX deltaY x y motionSequence =>
    show Tells before _ [.mouseMove x y s.dragButton, .scroll deltaX deltaY]
    rw [h.dragButton]
    exact .scrolled
  | button button down x y motionSequence =>
    have hmoved := h.sameGrips (sameGrips_updatePointer s x y)
    show Tells before _ (inputCommands s (.button button down x y motionSequence) (some (x, y))).1
    unfold inputCommands
    simp only [PressedState.apply, List.nil_append]
    by_cases hstays : buttonInHand (before.map gesture) (mouseButton button) = down
    · obtain ⟨hnone, hafter⟩ := hmoved.stays x y hstays
      rw [hnone]
      dsimp only
      rw [hafter.dragButton]
      exact .stayed hstays
    · have hany := hmoved.any_button (mouseButton button)
      have hstruck : ((s.updatePointer x y).applyButton (mouseButton button) down x y).1 =
          [.mouseButton (mouseButton button) down x y] := by
        unfold applyButton
        cases down with
        | true => rw [if_pos rfl, if_neg (fun htrue => hstays (hany.symm.trans htrue))]
        | false => rw [if_neg Bool.false_ne_true, if_pos (hany.trans (Bool.not_eq_false _ ▸ hstays))]
      rw [hstruck]
      exact .struck hstays

end Ledger

end MyKvm.Receiver
