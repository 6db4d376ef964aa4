import MyKvm.Receiver.Admission
import MyKvm.Receiver.NoStuckKeys
import MyKvm.Receiver.StreamLaw

/-!
# MyKvm.Receiver.Typing — what the ledger makes of an input frame

The commands of an input frame are those of its event on the ledger, with a pointer move before or after them
(`inputCommands_apply`); a motion moves the pointer only (`Steers`).  So the laws of `MyKvm.Receiver.StreamLaw`
hold of the frames as they arrive.

What the modifier mapping and the display leave of an event is its `gesture`.  A session begins with an empty
ledger (`Unpressed`).
-/

namespace MyKvm.Receiver

open MyKvm.Lib MyKvm.Lib.Held MyKvm.Protocol ReceiverSessionRuntime

/-! ### Gestures -/

/-- What the hand did, whatever key or point it was mapped to. -/
inductive Gesture where
  | key (scanCode : UInt16) (extended down : Bool)
  | button (button : CriticalButton) (down : Bool)
  | scroll (deltaX deltaY : Int32)
  deriving DecidableEq

def gesture : CriticalEvent → Gesture
  | .key _ scanCode extended down => .key scanCode extended down
  | .button button down _ _ _ => .button button down
  | .scroll deltaX deltaY _ _ _ => .scroll deltaX deltaY

/-- A key is down after its press and until its release. -/
def pressKey (source : KeySource) (held : Bool) : Gesture → Bool
  | .key scanCode extended down => if KeySource.scanCode scanCode extended = source then down else held
  | _ => held

def pressButton (button : MouseButton) (held : Bool) : Gesture → Bool
  | .button struck down => if mouseButton struck = button then down else held
  | _ => held

/-- The key is down in the hand. -/
def keyInHand (gestures : List Gesture) (source : KeySource) : Bool := gestures.foldl (pressKey source) false

/-- The button is down in the hand. -/
def buttonInHand (gestures : List Gesture) (button : MouseButton) : Bool :=
  gestures.foldl (pressButton button) false

theorem keyInHand_concat (gestures : List Gesture) (g : Gesture) (source : KeySource) :
    keyInHand (gestures ++ [g]) source = pressKey source (keyInHand gestures source) g := by
  rw [keyInHand, List.foldl_append]
  rfl

theorem buttonInHand_concat (gestures : List Gesture) (g : Gesture) (button : MouseButton) :
    buttonInHand (gestures ++ [g]) button = pressButton button (buttonInHand gestures button) g := by
  rw [buttonInHand, List.foldl_append]
  rfl

/-- A key event names its key by a scan code. -/
def Scanned : Gesture → Prop
  | .key scanCode _ _ => scanCode ≠ 0
  | _ => True

/-- **A key which has a target is a key in the hand**, as long as all are named by scan codes. -/
theorem frozen_isSome (events : List CriticalEvent) (hscanned : ∀ event ∈ events, Scanned (gesture event))
    (source : KeySource) : (frozen events source).isSome = keyInHand (events.map gesture) source := by
  induction events using List.reverseRecOn with
  | nil => rfl
  | append_singleton events event ih =>
    have hrest := ih fun e he => hscanned e (List.mem_append_left _ he)
    have hlast : Scanned (gesture event) := hscanned event (List.mem_append_right _ List.mem_cons_self)
    rw [frozen_concat, List.map_append, List.map_singleton, keyInHand_concat, ← hrest]
    cases event with
    | button button down x y motionSequence => rfl
    | scroll deltaX deltaY x y motionSequence => rfl
    | key keyCode scanCode extended down =>
      have hsource : KeySource.fromEvent keyCode scanCode extended = .scanCode scanCode extended := if_neg hlast
      unfold freeze pressKey gesture
      dsimp only
      rw [hsource]
      by_cases hsame : KeySource.scanCode scanCode extended = source
      · rw [if_pos hsame, if_pos hsame]
        cases down with
        | true => cases frozen events source <;> rfl
        | false => rfl
      · rw [if_neg hsame, if_neg hsame]

section Mapped

variable {r : ReceiverSessionRuntime}

theorem gesture_remapEvent (event : CriticalEvent) : gesture (r.remapEvent event) = gesture event := by
  cases event with
  | key keyCode scanCode extended down =>
    rw [remapEvent_key]
    rfl
  | button button down x y motionSequence => rfl
  | scroll deltaX deltaY x y motionSequence => rfl

theorem gesture_moveTo (x y : Int32) (event : CriticalEvent) : gesture (moveTo x y event) = gesture event := by
  cases event <;> rfl

/-- What an event becomes on the native display. -/
theorem mapEvent_cases {event mapped : CriticalEvent} {pointer : Option (Int32 × Int32)}
    (h : r.mapEvent event = .ok (mapped, pointer)) :
    (criticalMotionSnapshot event = none ∧ pointer = none ∧ mapped = r.remapEvent event) ∨
      ∃ sequence x y x' y', criticalMotionSnapshot event = some (sequence, x, y) ∧
        r.mapActivePointer x y = .ok (x', y') ∧ pointer = some (x', y') ∧
        mapped = moveTo x' y' (r.remapEvent event) := by
  unfold mapEvent at h
  split at h
  · rename_i hnone
    cases h
    exact Or.inl ⟨hnone, rfl, rfl⟩
  · rename_i sequence x y hsome
    split at h
    · cases h
    · rename_i x' y' hmap
      cases h
      exact Or.inr ⟨sequence, x, y, x', y', hsome, hmap, rfl, rfl⟩

/-- **The mapping keeps the gesture.** -/
theorem mapEvent_gesture {event mapped : CriticalEvent} {pointer : Option (Int32 × Int32)}
    (h : r.mapEvent event = .ok (mapped, pointer)) : gesture mapped = gesture event := by
  unfold mapEvent at h
  split at h
  · cases h
    exact gesture_remapEvent event
  · split at h
    · cases h
    · cases h
      rw [gesture_moveTo, gesture_remapEvent]

end Mapped

/-! ### Grips -/

namespace PressedState

/-- The same keys and buttons; a button may be elsewhere. -/
structure SameGrips (s s' : PressedState) : Prop where
  keys : s'.keys = s.keys
  buttons : s'.buttons.map HeldButton.button = s.buttons.map HeldButton.button

variable {s s' : PressedState}

theorem SameGrips.refl (s : PressedState) : SameGrips s s := ⟨rfl, rfl⟩

theorem sameGrips_updatePointer (s : PressedState) (x y : Int32) : SameGrips s (s.updatePointer x y) := by
  refine ⟨rfl, ?_⟩
  unfold updatePointer
  rw [List.map_map]
  rfl

theorem SameGrips.mem_targets (h : SameGrips s s') (t : Target) : t ∈ s'.targets ↔ t ∈ s.targets := by
  cases t with
  | key code => rw [key_mem_map, key_mem_map, h.keys]
  | button button => rw [button_mem_map, button_mem_map, h.buttons]

theorem SameGrips.listed (h : SameGrips s s') (hlisted : Listed s) : Listed s' :=
  ⟨h.keys.symm ▸ hlisted.sources, h.buttons.symm ▸ hlisted.buttons⟩

theorem SameGrips.freezes {target : KeySource → Option UInt16} (h : SameGrips s s') (hfreezes : Freezes s target) :
    Freezes s' target := by
  unfold Freezes
  rw [h.keys]
  exact hfreezes

theorem SameGrips.dragButton (h : SameGrips s s') : s'.dragButton = s.dragButton := by
  have hany : ∀ (buttons : List HeldButton) (button : MouseButton),
      buttons.any (·.button == button) = (buttons.map HeldButton.button).any (· == button) := by
    intro buttons button
    rw [List.any_map]
    rfl
  unfold PressedState.dragButton
  simp only [hany, h.buttons]

/-- A button is down after its press, and up after its release. -/
theorem Listed.apply_button (h : Listed s) (event : CriticalEvent) (button : MouseButton) {held : Bool}
    (hheld : .button button ∈ s.targets ↔ held = true) :
    .button button ∈ (s.apply event).2.targets ↔ pressButton button held (gesture event) = true := by
  cases event with
  | scroll deltaX deltaY x y motionSequence => exact hheld
  | key keyCode scanCode extended down =>
    show .button button ∈ (s.applyKey keyCode scanCode extended down).2.targets ↔ held = true
    rw [applyKey_eq]
    rw [button_mem_map] at hheld ⊢
    exact hheld
  | button struck down x y motionSequence =>
    show .button button ∈ (s.applyButton (mouseButton struck) down x y).2.targets ↔
      (if mouseButton struck = button then down else held) = true
    obtain ⟨-, hbuttons, -⟩ := h.applyButton_eq (mouseButton struck) down x y
    have hnodup : ((s.buttons.map HeldButton.button).map id).Nodup := by
      rw [List.map_id]
      exact h.buttons
    rw [button_mem_map] at hheld ⊢
    rw [hbuttons]
    by_cases hsame : mouseButton struck = button
    · subst hsame
      rw [if_pos rfl]
      cases down with
      | true =>
        rw [if_pos rfl, Grip.mem_press]
        refine iff_of_true ?_ rfl
        by_cases hin : mouseButton struck ∈ s.buttons.map HeldButton.button
        · exact .inl hin
        · refine .inr ⟨rfl, ?_⟩
          rintro y hy rfl
          exact hin hy
      | false =>
        rw [if_neg Bool.false_ne_true, Grip.mem_release hnodup]
        simp
    · have hother : button ≠ mouseButton struck := fun heq => hsame heq.symm
      rw [if_neg hsame, ← hheld]
      cases down with
      | true =>
        rw [if_pos rfl, Grip.mem_press]
        simp [hother]
      | false =>
        rw [if_neg Bool.false_ne_true, Grip.mem_release hnodup]
        simp [hother]

end PressedState

/-! ### The commands of a frame -/

open PressedState

section Commands

variable {pressed : PressedState} {mapped : CriticalEvent} {pointer : Option (Int32 × Int32)}
    {log : List InputCommand}

/-- **The commands of an event** are those of the ledger, among pointer moves. -/
theorem inputCommands_apply (pressed : PressedState) (mapped : CriticalEvent) (pointer : Option (Int32 × Int32)) :
    ∃ moved before after, SameGrips pressed moved ∧
      inputCommands pressed mapped pointer = (before ++ (moved.apply mapped).1 ++ after, (moved.apply mapped).2) ∧
      ∀ c ∈ before ++ after, stroke c = none := by
  cases pointer with
  | none =>
    refine ⟨pressed, [], [], .refl pressed, ?_, by simp⟩
    unfold inputCommands
    dsimp only
    split
    · rename_i hpointer
      cases hpointer
    · simp
  | some p =>
    obtain ⟨x, y⟩ := p
    have hmoved := sameGrips_updatePointer pressed x y
    unfold inputCommands
    cases mapped with
    | scroll deltaX deltaY sx sy motionSequence =>
      exact ⟨pressed.updatePointer x y, [.mouseMove x y pressed.dragButton], [], hmoved, rfl, by simp [stroke]⟩
    | key keyCode scanCode extended down =>
      dsimp only
      cases hout : (pressed.updatePointer x y).apply (.key keyCode scanCode extended down) with
      | mk commands applied =>
      cases commands with
      | nil => exact ⟨_, [], [.mouseMove x y applied.dragButton], hmoved, by rw [hout]; rfl, by simp [stroke]⟩
      | cons c cs => exact ⟨_, [], [], hmoved, by rw [hout]; simp, by simp⟩
    | button button down bx b_y motionSequence =>
      dsimp only
      cases hout : (pressed.updatePointer x y).apply (.button button down bx b_y motionSequence) with
      | mk commands applied =>
      cases commands with
      | nil => exact ⟨_, [], [.mouseMove x y applied.dragButton], hmoved, by rw [hout]; rfl, by simp [stroke]⟩
      | cons c cs => exact ⟨_, [], [], hmoved, by rw [hout]; simp, by simp⟩

theorem PressedState.Listed.inputCommands (h : Listed pressed) (mapped : CriticalEvent)
    (pointer : Option (Int32 × Int32)) :
    Listed (Receiver.inputCommands pressed mapped pointer).2 := by
  obtain ⟨moved, before, after, hsame, heq, -⟩ := inputCommands_apply pressed mapped pointer
  rw [heq]
  exact (hsame.listed h).apply mapped

theorem PressedState.Listed.inputCommands_lawful (h : Listed pressed) (hlog : Lawful stroke log pressed.targets)
    (mapped : CriticalEvent) (pointer : Option (Int32 × Int32)) :
    Lawful stroke (log ++ (Receiver.inputCommands pressed mapped pointer).1)
      (Receiver.inputCommands pressed mapped pointer).2.targets := by
  obtain ⟨moved, before, after, hsame, heq, hneutral⟩ := inputCommands_apply pressed mapped pointer
  rw [heq]
  have hbefore : Lawful stroke (log ++ before) moved.targets :=
    (hlog.none fun c hc => hneutral c (List.mem_append_left _ hc)).congr hsame.mem_targets
  have hevent := (hsame.listed h).apply_lawful hbefore mapped
  have hafter := hevent.none fun c hc => hneutral c (List.mem_append_right before hc)
  simpa only [List.append_assoc] using hafter

theorem PressedState.Listed.inputCommands_freezes {target : KeySource → Option UInt16} (h : Listed pressed)
    (hfreezes : Freezes pressed target) (mapped : CriticalEvent) (pointer : Option (Int32 × Int32)) :
    Freezes (Receiver.inputCommands pressed mapped pointer).2 fun source =>
      freeze source (target source) mapped := by
  obtain ⟨moved, before, after, hsame, heq, -⟩ := inputCommands_apply pressed mapped pointer
  rw [heq]
  exact (hsame.listed h).apply_freezes (hsame.freezes hfreezes) mapped

theorem PressedState.Listed.inputCommands_button {button : MouseButton} {held : Bool} (h : Listed pressed)
    (hheld : .button button ∈ pressed.targets ↔ held = true) (mapped : CriticalEvent)
    (pointer : Option (Int32 × Int32)) :
    .button button ∈ (Receiver.inputCommands pressed mapped pointer).2.targets ↔
      pressButton button held (gesture mapped) = true := by
  obtain ⟨moved, before, after, hsame, heq, -⟩ := inputCommands_apply pressed mapped pointer
  rw [heq]
  exact (hsame.listed h).apply_button mapped button ((hsame.mem_targets _).trans hheld)

end Commands

/-! ### Motions -/

section Steers

variable {r r₁ : ReceiverSessionRuntime}

/-- Only the pointer has moved, to the mapped point of the motion, or not at all. -/
structure Steers (motion : Option MotionFrame) (r r₁ : ReceiverSessionRuntime) : Prop where
  grips : SameGrips r.pressed r₁.pressed
  display : r₁.activeDisplay = r.activeDisplay
  pending : ∀ frame ∈ r₁.pendingMotion, frame ∈ r.pendingMotion ∨ frame ∈ motion
  posted : r₁.injector.posted = r.injector.posted ∨ ∃ frame ∈ motion, ∃ x y,
    r.mapActivePointer frame.x frame.y = .ok (x, y) ∧
      r₁.injector.posted = .mouseMove x y r.pressed.dragButton :: r.injector.posted

theorem steers_of_eq {motion : Option MotionFrame} (hpressed : r₁.pressed = r.pressed)
    (hdisplay : r₁.activeDisplay = r.activeDisplay) (hpending : r₁.pendingMotion = r.pendingMotion)
    (hposted : r₁.injector.posted = r.injector.posted) : Steers motion r r₁ := by
  refine ⟨?_, hdisplay, fun frame hframe => .inl (hpending ▸ hframe), .inl hposted⟩
  rw [hpressed]
  exact .refl _

theorem ApplyStep.steers {frame : MotionFrame} {u : Unit} (hstep : ApplyStep r frame (.ok u, r₁)) :
    Steers (some frame) r r₁ := by
  cases hstep with
  | moved hmapped hposted =>
    rename_i x y
    have hsame := sameGrips_updatePointer r.pressed x y
    refine ⟨hsame, rfl, fun f hf => .inl hf, .inr ⟨frame, rfl, _, _, hmapped, ?_⟩⟩
    rw [← hsame.dragButton]
    exact hposted

theorem FlushStep.steers {u : Unit} (hstep : FlushStep r (.ok u, r₁)) : Steers r.pendingMotion r r₁ := by
  cases hstep with
  | kept => exact steers_of_eq rfl rfl rfl rfl
  | dropped => exact ⟨.refl _, rfl, fun frame hframe => (by cases hframe), .inl rfl⟩
  | applied hpending _ _ happly =>
    obtain ⟨hgrips, hdisplay, hlater, hposted⟩ := happly.steers
    rw [hpending]
    exact ⟨hgrips, hdisplay, fun f hf => (hlater f hf).elim (fun hnone => by cases hnone) .inr, hposted⟩

theorem MotionStep.steers {frame : MotionFrame} {nowMs : UInt64} {disposition : MotionDisposition}
    (hstep : MotionStep r frame nowMs (.ok disposition, r₁)) : Steers (some frame) r r₁ := by
  generalize hanswer : (Except.ok disposition : Except SessionRuntimeError MotionDisposition) = answer at hstep
  cases hstep with
  | refused _ => cases hanswer
  | stale => exact steers_of_eq rfl rfl rfl rfl
  | buffered _ hwaits =>
    refine ⟨.refl _, rfl, fun f hf => ?_, .inl rfl⟩
    rcases hwaits with heq | heq
    · exact .inr (heq ▸ hf)
    · exact .inl (heq ▸ hf)
  | applied hactive happly =>
    rename_i answer
    cases answer with
    | error e => cases hanswer
    | ok u =>
      obtain ⟨hgrips, hdisplay, hpending, hposted⟩ := happly.steers
      exact ⟨hgrips, hdisplay, hpending, hposted⟩

end Steers

/-! ### The ledger of a new session -/

section Unpressed

variable {r r₁ : ReceiverSessionRuntime}

theorem Admitted.sequence_ne_zero {frame : CriticalFrame} {peer : AuthenticatedPeer} {mapped : CriticalEvent}
    {pointer : Option (Int32 × Int32)} (h : Admitted r frame peer mapped pointer) : frame.sequence ≠ 0 := by
  obtain ⟨-, -, hchecked⟩ := bind_eq_ok.mp h.valid
  obtain ⟨u, hnonzero, -⟩ := bind_eq_ok.mp hchecked
  exact validateNonzero_eq_ok.mp hnonzero

/-- As long as no event of the session was applied, nothing is in the ledger. -/
def Unpressed (r : ReceiverSessionRuntime) : Prop :=
  r.activeSession.isSome → r.highestAppliedSequence = 0 → r.pressed.targets = []

theorem unpressed_of_none (h : r.activeSession = none) : Unpressed r := by
  intro hsome
  rw [h] at hsome
  cases hsome

theorem Unpressed.congr (h : Unpressed r) (hactive : r₁.activeSession = r.activeSession)
    (happlied : r₁.highestAppliedSequence = r.highestAppliedSequence) (hgrips : SameGrips r.pressed r₁.pressed) :
    Unpressed r₁ := by
  intro hsome hzero
  have hempty := h (hactive ▸ hsome) (happlied.symm.trans hzero)
  refine List.eq_nil_iff_forall_not_mem.mpr fun t ht => ?_
  rw [hgrips.mem_targets, hempty] at ht
  exact List.not_mem_nil ht

theorem ControlStep.unpressed {frame : ControlFrame} {peer : AuthenticatedPeer} {nowMs : UInt64}
    {answer : Except SessionRuntimeError (Option ControlFrame)}
    (hstep : ControlStep r frame peer nowMs (answer, r₁)) (h : Unpressed r) : Unpressed r₁ := by
  cases hstep with
  | refused _ _ => exact h
  | unready _ _ | unknownLayout _ _ _ | prepareRefused _ _ _ _ _ | prepared _ _ _ _ _ =>
      exact h.congr rfl rfl (.refl _)
  | helloFailed hreach hrelease | helloRefused hreach hrelease | greeted hreach hrelease =>
    exact unpressed_of_none (hrelease.activeSession.trans hreach.2.2)
  | activated _ _ _ _ _ hpressed _ =>
    intro _ _
    have hempty : r.pressed.keys = [] ∧ r.pressed.buttons = [] := by simpa [PressedState.isEmpty] using hpressed
    show r.pressed.targets = []
    simp [targets, hempty]
  | commitRefused _ _ hnone _ => exact unpressed_of_none hnone
  | recommitted _ _ => exact h.congr rfl rfl (.refl _)
  | ended _ _ _ hrelease => exact unpressed_of_none hrelease.activeSession
  | endedIdle _ hnone _ _ hrelease => exact unpressed_of_none (hrelease.activeSession.trans hnone)
  | ponged _ _ _ =>
    unfold touch
    dsimp only
    split
    · exact h.congr rfl rfl (.refl _)
    · exact h

theorem LoseStep.unpressed {answer : Except SessionRuntimeError Bool} (hstep : LoseStep r (answer, r₁))
    (h : Unpressed r) : Unpressed r₁ := by
  cases hstep with
  | kept => exact h
  | lost _ _ hrelease => exact unpressed_of_none hrelease.activeSession

theorem LayoutStep.unpressed {displayLayouts : List ReceiverDisplayLayout}
    {answer : Except SessionRuntimeError Bool}
    (hstep : LayoutStep r displayLayouts (answer, r₁)) (h : Unpressed r) : Unpressed r₁ := by
  cases hstep with
  | current _ => exact h.congr rfl rfl (.refl _)
  | lost _ _ _ hrelease => exact unpressed_of_none hrelease.activeSession
  | cleared _ hnone hrelease => exact unpressed_of_none (hrelease.activeSession.trans hnone)

theorem ApplyStep.unpressed {frame : MotionFrame} {answer : Except SessionRuntimeError Unit}
    (hstep : ApplyStep r frame (answer, r₁)) (h : Unpressed r) : Unpressed r₁ := by
  cases hstep with
  | refused _ => exact h
  | failed _ _ hrelease => exact unpressed_of_none hrelease.activeSession
  | moved _ _ => exact h.congr rfl rfl (sameGrips_updatePointer _ _ _)

theorem FlushStep.unpressed {answer : Except SessionRuntimeError Unit} (hstep : FlushStep r (answer, r₁))
    (h : Unpressed r) : Unpressed r₁ := by
  cases hstep with
  | kept => exact h
  | dropped => exact h.congr rfl rfl (.refl _)
  | applied _ _ _ happly => exact happly.unpressed (h.congr rfl rfl (.refl _))

theorem MotionStep.unpressed {frame : MotionFrame} {nowMs : UInt64}
    {answer : Except SessionRuntimeError MotionDisposition} (hstep : MotionStep r frame nowMs (answer, r₁))
    (h : Unpressed r) : Unpressed r₁ := by
  cases hstep with
  | refused _ | stale => exact h
  | buffered _ _ => exact h.congr rfl rfl (.refl _)
  | applied _ happly => exact happly.unpressed (h.congr rfl rfl (.refl _))

theorem InputStep.unpressed {frame : CriticalFrame} {peer : AuthenticatedPeer} {nowMs : UInt64}
    {answer : Except SessionRuntimeError Unit} (hstep : InputStep r frame peer nowMs (answer, r₁))
    (h : Unpressed r) :
    Unpressed r₁ := by
  cases hstep with
  | refused _ => exact h
  | failed _ _ _ hrelease => exact unpressed_of_none hrelease.activeSession
  | applied hadmitted _ _ hflush =>
    refine hflush.unpressed fun _ hzero => ?_
    exact absurd hzero hadmitted.sequence_ne_zero

theorem next_unpressed (hc : Coherent r) (h : Unpressed r) (c : ReceiverCall) : Unpressed (r.next c) := by
  cases c with
  | control frame peer nowMs => exact (handleControlAt_cases hc frame peer nowMs).unpressed h
  | input frame peer nowMs => exact (handleInputAt_cases hc frame peer nowMs).unpressed h
  | motion frame peer nowMs => exact (handleMotionAt_cases hc frame peer nowMs).unpressed h
  | expire nowMs => exact (expireIfNeeded_cases hc nowMs).unpressed h
  | streamClosed peer => exact (inputStreamClosed_cases hc peer).unpressed h
  | layouts displayLayouts => exact (updateDisplayLayouts_cases hc displayLayouts).unpressed h
  | modifiers enabled control alt «meta» => exact h.congr rfl rfl (.refl _)

end Unpressed

/-! ### A session which goes on -/

section GoesOn

variable {r r₁ : ReceiverSessionRuntime} {s : SessionId}

theorem ControlStep.pressed {frame : ControlFrame} {peer : AuthenticatedPeer} {nowMs : UInt64}
    {answer : Except SessionRuntimeError (Option ControlFrame)}
    (hstep : ControlStep r frame peer nowMs (answer, r₁))
    (hactive : r.activeSession = some s) (hactive₁ : r₁.activeSession = some s) : r₁.pressed = r.pressed := by
  cases hstep with
  | refused _ _ | unready _ _ | unknownLayout _ _ _ | prepareRefused _ _ _ _ _ | prepared _ _ _ _ _ => rfl
  | recommitted _ _ => rfl
  | helloFailed hreach _ | helloRefused hreach _ | greeted hreach _ => cases hactive.symm.trans hreach.2.2
  | activated _ _ _ hnone _ _ _ | commitRefused _ _ hnone _ | endedIdle _ hnone _ _ _ =>
      cases hactive.symm.trans hnone
  | ended _ _ _ hrelease => cases hactive₁.symm.trans hrelease.activeSession
  | ponged _ _ _ =>
    unfold touch
    dsimp only
    split <;> rfl

theorem LoseStep.pressed {answer : Except SessionRuntimeError Bool} (hstep : LoseStep r (answer, r₁))
    (hactive₁ : r₁.activeSession = some s) : r₁.pressed = r.pressed := by
  cases hstep with
  | kept => rfl
  | lost _ _ hrelease => cases hactive₁.symm.trans hrelease.activeSession

theorem LayoutStep.pressed {displayLayouts : List ReceiverDisplayLayout} {answer : Except SessionRuntimeError Bool}
    (hstep : LayoutStep r displayLayouts (answer, r₁)) (hactive : r.activeSession = some s)
    (hactive₁ : r₁.activeSession = some s) : r₁.pressed = r.pressed := by
  cases hstep with
  | current _ => rfl
  | lost _ _ _ hrelease => cases hactive₁.symm.trans hrelease.activeSession
  | cleared _ hnone _ => cases hactive.symm.trans hnone

/-- A call which is neither input nor motion leaves the ledger, as long as the session goes on. -/
theorem next_pressed (hc : Coherent r) {c : ReceiverCall}
    (hinput : ∀ frame peer nowMs, c ≠ .input frame peer nowMs)
    (hmotion : ∀ frame peer nowMs, c ≠ .motion frame peer nowMs) (hactive : r.activeSession = some s)
    (hactive₁ : (r.next c).activeSession = some s) : (r.next c).pressed = r.pressed := by
  cases c with
  | control frame peer nowMs => exact (handleControlAt_cases hc frame peer nowMs).pressed hactive hactive₁
  | input frame peer nowMs => exact absurd rfl (hinput frame peer nowMs)
  | motion frame peer nowMs => exact absurd rfl (hmotion frame peer nowMs)
  | expire nowMs => exact (expireIfNeeded_cases hc nowMs).pressed hactive₁
  | streamClosed peer => exact (inputStreamClosed_cases hc peer).pressed hactive₁
  | layouts displayLayouts => exact (updateDisplayLayouts_cases hc displayLayouts).pressed hactive hactive₁
  | modifiers enabled control alt «meta» => rfl

end GoesOn

end MyKvm.Receiver
