import MyKvm.Lib.Grip
import MyKvm.Receiver.Lockstep

/-!
# MyKvm.Receiver.KeyFreeze — a held key keeps its target

`Typist` is the receiver with the hands of its controller: the physical keys which are down, each with the target
which the modifier mapping gave it when it went down.  The ledger of the receiver notes the same keys under their
sources; its answers are the right ones as long as the sources tell the keys in the hands apart (`Distinguished`).

* `Frozen`: what a key event must inject, given the hands.
* `mapping_freezes`: every key event of a run in which the sources tell the keys apart.
-/

namespace MyKvm.Receiver

open MyKvm.Lib MyKvm.Protocol ReceiverSessionRuntime

structure PhysicalKey where
  keyCode : UInt16
  scanCode : UInt16
  extended : Bool
  deriving DecidableEq

/-- A physical key which is down, with its target and the source under which the ledger notes it. -/
structure HandKey where
  key : PhysicalKey
  source : KeySource
  target : UInt16
  deriving DecidableEq

def HandKey.held (k : HandKey) : HeldKey := { source := k.source, targetKeyCode := k.target }

/-- The key under the modifier mapping. -/
def ReceiverSessionRuntime.targetKey (r : ReceiverSessionRuntime) (keyCode : UInt16) : UInt16 :=
  if r.modifierRemap then remapModifierVk keyCode r.modifierControl r.modifierAlt r.modifierMeta else keyCode

/-- The key as the receiver takes it now. -/
def ReceiverSessionRuntime.handKey (r : ReceiverSessionRuntime) (key : PhysicalKey) : HandKey :=
  { key, source := .fromEvent (r.targetKey key.keyCode) key.scanCode key.extended,
    target := r.targetKey key.keyCode }

/-- A key event which was applied, with its commands. -/
structure Strike where
  key : PhysicalKey
  down : Bool
  commands : List InputCommand
  deriving DecidableEq

/-- The key event which a call applies. -/
def strike (r : ReceiverSessionRuntime) : ReceiverCall → Option Strike
  | .input frame peer _ =>
    match frame.event with
    | .key keyCode scanCode extended down =>
      (appliedCommands r frame peer).map fun commands => { key := ⟨keyCode, scanCode, extended⟩, down, commands }
    | _ => none
  | _ => none

structure Typist where
  receiver : ReceiverSessionRuntime
  hands : List HandKey
  deriving DecidableEq

namespace Typist

/-- The target which a strike moves, and the hands after it: a key keeps the target of its press. -/
def answer (w : Typist) (s : Strike) : Option UInt16 × List HandKey :=
  if s.down then Grip.press HandKey.key HandKey.target w.hands (w.receiver.handKey s.key)
  else Grip.release HandKey.key HandKey.target w.hands s.key

def next (w : Typist) (c : ReceiverCall) : Typist :=
  let r₁ := w.receiver.next c
  if w.receiver.activeSession.isNone ∧ r₁.activeSession.isSome then { receiver := r₁, hands := [] }
  else { receiver := r₁, hands := (strike w.receiver c).elim w.hands fun s => (w.answer s).2 }

def start (r : ReceiverSessionRuntime) : Typist := { receiver := r, hands := [] }

/-- **What a key event injects**: the target goes down with the first key on it and up with the last, and a release
is about the target of its own press. -/
structure Frozen (w : Typist) (s : Strike) : Prop where
  repeated : s.down = true → (∃ k ∈ w.hands, k.key = s.key) → s.commands = []
  pressed : s.down = true → (∀ k ∈ w.hands, k.key ≠ s.key) →
    s.commands = if ∃ k ∈ w.hands, k.target = w.receiver.targetKey s.key.keyCode then []
      else [.key (w.receiver.targetKey s.key.keyCode) true]
  released : s.down = false → ∀ k ∈ w.hands, k.key = s.key →
    s.commands = if ∃ other ∈ w.hands, other ≠ k ∧ other.target = k.target then [] else [.key k.target false]
  stray : s.down = false → (∀ k ∈ w.hands, k.key ≠ s.key) → s.commands = []

/-- The key events of the call, if there is one, inject what they must. -/
def Freezes (w : Typist) (c : ReceiverCall) : Prop := ∀ s ∈ strike w.receiver c, w.Frozen s

/-- The source of the key event tells its key from the others in the hands. -/
def Distinguished (w : Typist) (c : ReceiverCall) : Prop :=
  ∀ s ∈ strike w.receiver c, ∀ k ∈ w.hands, k.source = (w.receiver.handKey s.key).source ↔ k.key = s.key

instance (w : Typist) (c : ReceiverCall) : Decidable (w.Distinguished c) :=
  inferInstanceAs (Decidable (∀ s ∈ strike w.receiver c, ∀ k ∈ w.hands, _ ↔ _))

end Typist

/-! ### The ledger is a list of grips -/

section Ledger

/-- **A key event** presses or releases a source in the ledger. -/
theorem applyKey_eq (s : PressedState) (keyCode scanCode : UInt16) (extended down : Bool) :
    s.applyKey keyCode scanCode extended down =
      let source := KeySource.fromEvent keyCode scanCode extended
      let out := if down then Grip.press HeldKey.source HeldKey.targetKeyCode s.keys ⟨source, keyCode⟩
        else Grip.release HeldKey.source HeldKey.targetKeyCode s.keys source
      (out.1.toList.map (.key · down), { s with keys := out.2 }) := by
  unfold PressedState.applyKey
  cases down with
  | true =>
    simp only [if_true, Grip.press]
    split
    · rfl
    · split <;> rfl
  | false =>
    simp only [Bool.false_eq_true, if_false, Grip.release]
    cases s.keys.find? (·.source == KeySource.fromEvent keyCode scanCode extended) with
    | none => rfl
    | some held =>
      dsimp only
      split <;> rfl

theorem inputCommands_key (pressed : PressedState) (keyCode scanCode : UInt16) (extended down : Bool) :
    inputCommands pressed (.key keyCode scanCode extended down) none =
      pressed.applyKey keyCode scanCode extended down := by
  unfold inputCommands
  simp only [PressedState.apply, List.nil_append]
  split
  · rename_i hpointer
    cases hpointer
  · rfl

/-- Only a key event moves the keys of the ledger. -/
theorem inputCommands_keys (pressed : PressedState) {event : CriticalEvent} (pointer : Option (Int32 × Int32))
    (hevent : ∀ keyCode scanCode extended down, event ≠ .key keyCode scanCode extended down) :
    (inputCommands pressed event pointer).2.keys = pressed.keys := by
  have hmoved : ∀ moved : PressedState, moved.keys = pressed.keys → (moved.apply event).2.keys = pressed.keys := by
    intro moved hkeys
    cases event with
    | key keyCode scanCode extended down => exact absurd rfl (hevent keyCode scanCode extended down)
    | scroll deltaX deltaY x y motionSequence => exact hkeys
    | button button down x y motionSequence =>
      unfold PressedState.apply PressedState.applyButton
      dsimp only
      split
      · split <;> exact hkeys
      · split <;> exact hkeys
  unfold inputCommands
  cases pointer with
  | none =>
    dsimp only
    split <;> exact hmoved _ rfl
  | some point =>
    dsimp only
    split <;> exact hmoved _ rfl

/-- The session, and the keys in the ledger: the session is over, it begins without a
key, or it goes on with these. -/
inductive Carries (r : ReceiverSessionRuntime) (keys : List HeldKey) (r₁ : ReceiverSessionRuntime) : Prop
  | finished : r₁.activeSession = none → Carries r keys r₁
  | opened : r.activeSession = none → r₁.activeSession.isSome → r₁.pressed.keys = [] → Carries r keys r₁
  | same : r₁.activeSession = r.activeSession → r₁.pressed.keys = keys → Carries r keys r₁

variable {r r₁ : ReceiverSessionRuntime}

theorem Carries.congr {r' : ReceiverSessionRuntime} {keys : List HeldKey} (h : Carries r' keys r₁)
    (hsame : r'.activeSession = r.activeSession) : Carries r keys r₁ := by
  cases h with
  | finished hnone => exact .finished hnone
  | opened hnone hsome hkeys => exact .opened (hsame ▸ hnone) hsome hkeys
  | same hactive hkeys => exact .same (hactive.trans hsame) hkeys

theorem ControlStep.carries {frame : ControlFrame} {peer : AuthenticatedPeer} {nowMs : UInt64}
    {answer : Except SessionRuntimeError (Option ControlFrame)}
    (hstep : ControlStep r frame peer nowMs (answer, r₁)) :
    Carries r r.pressed.keys r₁ := by
  cases hstep with
  | refused _ _ | unready _ _ | unknownLayout _ _ _ | prepareRefused _ _ _ _ _ | prepared _ _ _ _ _ =>
      exact .same rfl rfl
  | helloFailed hreach hrelease | helloRefused hreach hrelease | greeted hreach hrelease =>
    exact .finished (hrelease.activeSession.trans hreach.2.2)
  | activated _ _ _ hnone _ hpressed _ =>
    have hempty : r.pressed.keys = [] ∧ r.pressed.buttons = [] := by simpa [PressedState.isEmpty] using hpressed
    exact .opened hnone rfl hempty.1
  | commitRefused _ _ hnone _ => exact .same rfl rfl
  | recommitted _ _ => exact .same rfl rfl
  | ended _ _ _ hrelease => exact .finished hrelease.activeSession
  | endedIdle _ hnone _ _ hrelease => exact .finished (hrelease.activeSession.trans hnone)
  | ponged _ _ _ =>
    unfold touch
    dsimp only
    split <;> exact .same rfl rfl

theorem LoseStep.carries {answer : Except SessionRuntimeError Bool} (hstep : LoseStep r (answer, r₁)) :
    Carries r r.pressed.keys r₁ := by
  cases hstep with
  | kept => exact .same rfl rfl
  | lost _ _ hrelease => exact .finished hrelease.activeSession

theorem LayoutStep.carries {displayLayouts : List ReceiverDisplayLayout} {answer : Except SessionRuntimeError Bool}
    (hstep : LayoutStep r displayLayouts (answer, r₁)) : Carries r r.pressed.keys r₁ := by
  cases hstep with
  | current _ => exact .same rfl rfl
  | lost _ _ _ hrelease => exact .finished hrelease.activeSession
  | cleared _ hnone hrelease => exact .finished (hrelease.activeSession.trans hnone)

theorem ApplyStep.carries {frame : MotionFrame} {answer : Except SessionRuntimeError Unit}
    (hstep : ApplyStep r frame (answer, r₁)) : Carries r r.pressed.keys r₁ := by
  cases hstep with
  | refused _ => exact .same rfl rfl
  | failed _ _ hrelease => exact .finished hrelease.activeSession
  | moved _ _ => exact .same rfl rfl

theorem FlushStep.carries {out : Except SessionRuntimeError Unit × ReceiverSessionRuntime}
    (hstep : FlushStep r out) :
    Carries r r.pressed.keys out.2 := by
  cases hstep with
  | kept | dropped => exact .same rfl rfl
  | applied _ _ _ happly =>
    obtain ⟨answer, r₁⟩ := out
    exact happly.carries.congr rfl

theorem Arrival.carries {frame : MotionFrame} {peer : AuthenticatedPeer} {nowMs : UInt64}
    {answer : Except SessionRuntimeError MotionDisposition} (hstep : Arrival r frame peer nowMs (answer, r₁)) :
    Carries r r.pressed.keys r₁ := by
  cases hstep with
  | aside _ => exact .same rfl rfl
  | waits _ _ _ _ _ _ => exact .same rfl rfl
  | due _ _ _ _ _ happly => exact happly.carries.congr rfl

/-- **An input frame** which is not applied leaves the keys; one which is leaves those of its event. -/
theorem Taken.carries (hc : Coherent r) {frame : CriticalFrame} {peer : AuthenticatedPeer} {nowMs : UInt64}
    {commands : Option (List InputCommand)} {out : Except SessionRuntimeError Unit × ReceiverSessionRuntime}
    (hstep : Taken r frame peer nowMs commands out) :
    (commands = none ∧ Carries r r.pressed.keys out.2) ∨ ∃ mapped pointer, Admitted r frame peer mapped pointer ∧
      commands = some (inputCommands r.pressed mapped pointer).1 ∧
      Carries r (inputCommands r.pressed mapped pointer).2.keys out.2 := by
  cases hstep with
  | refused => exact Or.inl ⟨rfl, .same rfl rfl⟩
  | broken hrelease => exact Or.inl ⟨rfl, .finished hrelease.activeSession⟩
  | applied hadmitted hsubmit hnext =>
    rename_i mapped pointer i next
    have hafter := hc.afterInput (hadmitted.active hc) (inputCommands r.pressed mapped pointer).2 i next nowMs
    exact Or.inr ⟨mapped, pointer, hadmitted, rfl, (flushPendingMotion_cases hafter).carries.congr rfl⟩

/-- The ledger after a strike. -/
def struck (r : ReceiverSessionRuntime) (s : Strike) : List InputCommand × PressedState :=
  r.pressed.applyKey (r.targetKey s.key.keyCode) s.key.scanCode s.key.extended s.down

theorem remapEvent_key (r : ReceiverSessionRuntime) (keyCode scanCode : UInt16) (extended down : Bool) :
    r.remapEvent (.key keyCode scanCode extended down) = .key (r.targetKey keyCode) scanCode extended down := by
  unfold remapEvent targetKey
  dsimp only
  split <;> rfl

theorem mapEvent_not_key {event mapped : CriticalEvent} {pointer : Option (Int32 × Int32)}
    (hevent : ∀ keyCode scanCode extended down, event ≠ .key keyCode scanCode extended down)
    (hmapped : r.mapEvent event = .ok (mapped, pointer)) (keyCode scanCode : UInt16) (extended down : Bool) :
    mapped ≠ .key keyCode scanCode extended down := by
  unfold mapEvent at hmapped
  cases event with
  | key keyCode scanCode extended down => exact absurd rfl (hevent keyCode scanCode extended down)
  | button _ _ x y _ | scroll _ _ x y _ =>
    dsimp only [criticalMotionSnapshot] at hmapped
    cases hpoint : r.mapActivePointer x y with
    | error e =>
      rw [hpoint] at hmapped
      cases hmapped
    | ok p =>
      rw [hpoint] at hmapped
      cases hmapped
      simp [remapEvent, moveTo]

/-- **What a call does** to the keys: it strikes one, in an active session, or it leaves them. -/
theorem next_carries (hc : Coherent r) (c : ReceiverCall) :
    (strike r c = none ∧ Carries r r.pressed.keys (r.next c)) ∨ ∃ s, strike r c = some s ∧ r.activeSession.isSome ∧
      s.commands = (struck r s).1 ∧ Carries r (struck r s).2.keys (r.next c) := by
  cases c with
  | control frame peer nowMs => exact Or.inl ⟨rfl, ControlStep.carries (handleControlAt_cases hc frame peer nowMs)⟩
  | motion frame peer nowMs => exact Or.inl ⟨rfl, Arrival.carries (handleMotionAt_arrival hc frame peer nowMs)⟩
  | expire nowMs => exact Or.inl ⟨rfl, LoseStep.carries (expireIfNeeded_cases hc nowMs)⟩
  | streamClosed peer => exact Or.inl ⟨rfl, LoseStep.carries (inputStreamClosed_cases hc peer)⟩
  | layouts displayLayouts => exact Or.inl ⟨rfl, LayoutStep.carries (updateDisplayLayouts_cases hc displayLayouts)⟩
  | modifiers enabled control alt «meta» => exact Or.inl ⟨rfl, .same rfl rfl⟩
  | input frame peer nowMs =>
    rcases (handleInputAt_taken hc frame peer nowMs).carries hc with ⟨hnone, hcarries⟩ |
      ⟨mapped, pointer, hadmitted, hsome, hcarries⟩
    · refine Or.inl ⟨?_, hcarries⟩
      unfold strike
      dsimp only
      split
      · rw [hnone]
        rfl
      · rfl
    · have hmapped := hadmitted.mapped
      by_cases hkey : ∃ keyCode scanCode extended down, frame.event = .key keyCode scanCode extended down
      · obtain ⟨keyCode, scanCode, extended, down, hevent⟩ := hkey
        rw [hevent] at hmapped
        simp only [mapEvent, criticalMotionSnapshot, remapEvent_key, Except.ok.injEq, Prod.mk.injEq] at hmapped
        obtain ⟨rfl, rfl⟩ := hmapped
        rw [inputCommands_key] at hsome hcarries
        refine Or.inr ⟨⟨⟨keyCode, scanCode, extended⟩, down,
          (r.pressed.applyKey (r.targetKey keyCode) scanCode extended down).1⟩, ?_, ?_, rfl, hcarries⟩
        · simp only [strike, hevent, hsome, Option.map_some]
        · exact Option.isSome_iff_exists.mpr ⟨_, hadmitted.active hc⟩
      · push Not at hkey
        refine Or.inl ⟨?_, ?_⟩
        · unfold strike
          dsimp only
          split
          · rename_i hevent
            exact absurd hevent (hkey _ _ _ _)
          · rfl
        · rw [inputCommands_keys r.pressed pointer (mapEvent_not_key hkey hmapped)] at hcarries
          exact hcarries

end Ledger

namespace Typist

variable {w : Typist} {s : Strike} {c : ReceiverCall}

/-- What holds between the calls. -/
structure Gripped (w : Typist) : Prop where
  coherent : Coherent w.receiver
  names : (w.hands.map HandKey.key).Nodup
  keys : w.receiver.activeSession.isSome → w.receiver.pressed.keys = w.hands.map HandKey.held

/-- **The ledger answers for the hands**, as long as its sources tell the keys apart. -/
theorem struck_eq (hkeys : w.receiver.pressed.keys = w.hands.map HandKey.held)
    (hapart : ∀ k ∈ w.hands, k.source = (w.receiver.handKey s.key).source ↔ k.key = s.key) :
    struck w.receiver s =
      ((w.answer s).1.toList.map (.key · s.down),
        { w.receiver.pressed with keys := (w.answer s).2.map HandKey.held }) := by
  have hpress :
      Grip.press HeldKey.source HeldKey.targetKeyCode w.receiver.pressed.keys (w.receiver.handKey s.key).held =
      ((Grip.press HandKey.key HandKey.target w.hands (w.receiver.handKey s.key)).1,
        (Grip.press HandKey.key HandKey.target w.hands (w.receiver.handKey s.key)).2.map HandKey.held) := by
    have hsame : Grip.press HandKey.source HandKey.target w.hands (w.receiver.handKey s.key) =
      Grip.press HandKey.key HandKey.target w.hands (w.receiver.handKey s.key) := Grip.press_congr hapart
    rw [hkeys, ← hsame]
    exact Grip.press_map (fun _ => rfl) (fun _ => rfl) w.hands _
  have hrelease : Grip.release HeldKey.source HeldKey.targetKeyCode w.receiver.pressed.keys
        (w.receiver.handKey s.key).source =
      ((Grip.release HandKey.key HandKey.target w.hands s.key).1,
        (Grip.release HandKey.key HandKey.target w.hands s.key).2.map HandKey.held) := by
    have hsame : Grip.release HandKey.source HandKey.target w.hands (w.receiver.handKey s.key).source =
      Grip.release HandKey.key HandKey.target w.hands s.key := Grip.release_congr hapart
    rw [hkeys, ← hsame]
    exact Grip.release_map (fun _ => rfl) (fun _ => rfl) w.hands _
  unfold struck answer
  rw [applyKey_eq]
  cases hdown : s.down with
  | true =>
    simp only [if_true]
    exact congrArg (fun out : Option UInt16 × List HeldKey =>
      (out.1.toList.map (InputCommand.key · true), { w.receiver.pressed with keys := out.2 })) hpress
  | false =>
    simp only [Bool.false_eq_true, if_false]
    exact congrArg (fun out : Option UInt16 × List HeldKey =>
      (out.1.toList.map (InputCommand.key · false), { w.receiver.pressed with keys := out.2 })) hrelease

/-- **The hands answer as they must.** -/
theorem frozen_of_answer (hnames : (w.hands.map HandKey.key).Nodup)
    (hcommands : s.commands = (w.answer s).1.toList.map (.key · s.down)) : w.Frozen s := by
  unfold answer at hcommands
  constructor
  · rintro hdown ⟨k, hk, hkey⟩
    rw [if_pos hdown, hdown] at hcommands
    cases hanswer : (Grip.press HandKey.key HandKey.target w.hands (w.receiver.handKey s.key)).1 with
    | none => rw [hcommands, hanswer]; rfl
    | some t => exact absurd hkey ((Grip.press_eq_some.mp hanswer).2.1 k hk)
  · intro hdown hnew
    rw [if_pos hdown, hdown] at hcommands
    rw [hcommands]
    by_cases htarget : ∃ k ∈ w.hands, k.target = w.receiver.targetKey s.key.keyCode
    · rw [if_pos htarget]
      obtain ⟨k, hk, hsame⟩ := htarget
      cases hanswer : (Grip.press HandKey.key HandKey.target w.hands (w.receiver.handKey s.key)).1 with
      | none => rfl
      | some t => exact absurd hsame ((Grip.press_eq_some.mp hanswer).2.2 k hk)
    · rw [if_neg htarget]
      push Not at htarget
      have hanswer : (Grip.press HandKey.key HandKey.target w.hands (w.receiver.handKey s.key)).1 =
          some (w.receiver.targetKey s.key.keyCode) := Grip.press_eq_some.mpr ⟨rfl, hnew, htarget⟩
      rw [hanswer]
      rfl
  · intro hdown k hk hkey
    rw [if_neg (by simp [hdown]), hdown, ← hkey] at hcommands
    rw [hcommands]
    by_cases hother : ∃ other ∈ w.hands, other ≠ k ∧ other.target = k.target
    · rw [if_pos hother]
      obtain ⟨other, hmem, hne, hsame⟩ := hother
      cases hanswer : (Grip.release HandKey.key HandKey.target w.hands k.key).1 with
      | none => rfl
      | some t => exact absurd (((Grip.release_eq_some hnames hk).mp hanswer).2 other hmem hsame) hne
    · rw [if_neg hother]
      have hlast : ∀ b ∈ w.hands, b.target = k.target → b = k := by
        intro b hb hsame
        by_contra hne
        exact hother ⟨b, hb, hne, hsame⟩
      rw [(Grip.release_eq_some hnames hk).mpr ⟨rfl, hlast⟩]
      rfl
  · intro hdown hnone
    rw [if_neg (by simp [hdown]), Grip.release_eq_none hnone] at hcommands
    exact hcommands

theorem answer_nodup (hnames : (w.hands.map HandKey.key).Nodup) (s : Strike) :
    ((w.answer s).2.map HandKey.key).Nodup := by
  unfold answer
  split
  · exact Grip.press_nodup hnames _
  · exact Grip.release_nodup hnames _

/-- The hands go on with the ledger, or begin anew with a session. -/
theorem Gripped.carry {r r₁ : ReceiverSessionRuntime} {keys : List HeldKey} {hands : List HandKey}
    (hc : Coherent r₁)
    (hnames : (hands.map HandKey.key).Nodup) (hkeys : r.activeSession.isSome → keys = hands.map HandKey.held)
    (hcarries : Carries r keys r₁) :
    Gripped (if r.activeSession.isNone ∧ r₁.activeSession.isSome then { receiver := r₁, hands := [] }
      else { receiver := r₁, hands }) := by
  split
  · rename_i hopen
    refine ⟨hc, List.nodup_nil, fun _ => ?_⟩
    cases hcarries with
    | finished hnone => simp [hnone] at hopen
    | opened _ _ hnothing => exact hnothing
    | same hactive _ =>
      rw [hactive] at hopen
      cases hsession : r.activeSession <;> simp [hsession] at hopen
  · rename_i hgoes
    refine ⟨hc, hnames, fun hsome => ?_⟩
    dsimp only at hsome
    cases hcarries with
    | finished hnone => simp [hnone] at hsome
    | opened hnone hsome _ => exact absurd ⟨by simp [hnone], hsome⟩ hgoes
    | same hactive hsame => exact hsame.trans (hkeys (hactive ▸ hsome))

/-- **One call** keeps the ledger in step with the hands, and injects what it must. -/
theorem next_gripped (h : Gripped w) (hapart : w.Distinguished c) : Gripped (w.next c) ∧ w.Freezes c := by
  have hc := next_coherent w.receiver c h.coherent
  unfold next
  dsimp only
  rcases next_carries h.coherent c with ⟨hnone, hcarries⟩ | ⟨s, hstrike, hactive, hcommands, hcarries⟩
  · rw [hnone]
    exact ⟨Gripped.carry hc h.names h.keys hcarries, by simp [Freezes, hnone]⟩
  · have hstruck := struck_eq (h.keys hactive) (hapart s hstrike)
    rw [hstruck] at hcommands hcarries
    rw [hstrike]
    refine ⟨Gripped.carry hc (answer_nodup h.names s) (fun _ => rfl) hcarries, ?_⟩
    intro s' hs'
    cases hstrike.symm.trans hs'
    exact frozen_of_answer h.names hcommands

/-- **A held key keeps its target.**  In every run in which the source of every key event which is applied tells
its key from the others in the hands, every such event injects what it must. -/
theorem mapping_freezes (localBoot : BootId) (injector : Injector) (displayLayouts : List ReceiverDisplayLayout)
    (calls : List ReceiverCall)
    (hapart : Meets next Distinguished (start (newWithDisplayLayouts localBoot injector displayLayouts)) calls) :
    Meets next Freezes (start (newWithDisplayLayouts localBoot injector displayLayouts)) calls := by
  have hstart : Gripped (start (newWithDisplayLayouts localBoot injector displayLayouts)) :=
    ⟨newWithDisplayLayouts_coherent _ _ _, List.nodup_nil, fun _ => rfl⟩
  exact meets_keeps (fun _ _ h hapart => next_gripped h hapart) hstart hapart

namespace Sample

/-- A key event in the session which `Sample.opening 3` opens. -/
def stroke (sequence : UInt64) (keyCode scanCode : UInt16) (down : Bool) : ReceiverCall :=
  .input ⟨Sample.session 3, sequence, .key keyCode scanCode false down⟩ Sample.peer 0

/-- Right Control goes down as Command, and the mapping is switched off. -/
def switched (scanCode : UInt16) : List ReceiverCall :=
  Sample.opening 3 ++ [.modifiers true "meta" "same" "control", stroke 1 0xA3 scanCode true,
    .modifiers false "same" "same" "same"]

/-- Left Control and the Windows key both go down as Command. -/
def shared (scanCode scanCode' : UInt16) : List ReceiverCall :=
  Sample.opening 3 ++ [.modifiers true "meta" "same" "meta", stroke 1 0xA2 scanCode true,
    stroke 2 0x5B scanCode' true]

end Sample

/-- Keys with scan codes, under a mapping which changes, and sharing a target. -/
theorem mapping_freezes_switched :
    Meets next Freezes (start Sample.receiver)
      (Sample.switched 29 ++ [Sample.stroke 2 0xA3 29 false, .modifiers true "meta" "same" "meta",
        Sample.stroke 3 0xA2 29 true, Sample.stroke 4 0x5B 91 true, Sample.stroke 5 0xA2 29 false]) := by
  unfold Sample.receiver
  exact mapping_freezes _ _ _ _ (by decide +kernel)

/-- A key without a scan code: under a mapping which changed its release goes nowhere, and one which shares its
target takes the target up from under the other. -/
theorem not_mapping_freezes_virtual :
    ¬ (run next (start Sample.receiver) (Sample.switched 0)).Freezes (Sample.stroke 2 0xA3 0 false) ∧
      ¬ (run next (start Sample.receiver) (Sample.shared 0 0)).Freezes (Sample.stroke 3 0xA2 0 false) := by
  constructor
  · intro h
    have hfrozen := h ⟨⟨0xA3, 0, false⟩, false, []⟩ (by decide +kernel)
    have hreleased := hfrozen.released rfl ⟨⟨0xA3, 0, false⟩, .virtualKey 0x5C, 0x5C⟩ (by decide +kernel) rfl
    revert hreleased
    decide +kernel
  · intro h
    have hfrozen := h ⟨⟨0xA2, 0, false⟩, false, [.key 0x5B false]⟩ (by decide +kernel)
    have hreleased := hfrozen.released rfl ⟨⟨0xA2, 0, false⟩, .virtualKey 0x5B, 0x5B⟩ (by decide +kernel) rfl
    revert hreleased
    decide +kernel

end Typist

end MyKvm.Receiver
