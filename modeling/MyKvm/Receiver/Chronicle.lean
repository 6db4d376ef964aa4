import MyKvm.Lib.Feed
import MyKvm.Receiver.Lockstep

/-!
# MyKvm.Receiver.Chronicle — what the active session has done

`Chronicle` is the receiver with the log of its newest activation: the input events it applied and the motion
frames it submitted, each with its commands.  A call is read by its frames, its answer and what the injector got;
the receiver's own counters are not consulted.

`Kept` ties the counters to the log: they track it as a feed of numbered events and motion samples (`Feed.Tracks`),
and as long as the session is active the injector got the commands of the log and nothing else.
-/

namespace MyKvm.Receiver

open MyKvm.Lib MyKvm.Protocol ReceiverSessionRuntime

/-- An input event which was applied, with the display it was applied on. -/
structure AppliedEvent where
  frame : CriticalFrame
  display : Option ReceiverDisplayLayout
  commands : List InputCommand
  deriving DecidableEq

/-- A motion frame which was submitted. -/
structure SubmittedMotion where
  frame : MotionFrame
  commands : List InputCommand
  deriving DecidableEq

abbrev Happening := Feed.Entry AppliedEvent SubmittedMotion

/-- What the injector got, newest first. -/
def Happening.posts : Happening → List InputCommand
  | .item event => event.commands.reverse
  | .sample motion => motion.commands

/-- The numbers of the protocol: a motion sequence on an event is the newest motion before it. -/
def frameNumbers : Feed.Numbers AppliedEvent SubmittedMotion where
  number event := event.frame.sequence.toNat
  mark event := (criticalMotionSnapshot event.frame.event).elim 0 (·.1.toNat)
  stamp motion := motion.frame.sequence.toNat
  needs motion := motion.frame.requiredReliableSequence.toNat

/-- The motion which was flushed behind an event: the injector got one more command than the event asked for. -/
def flushed (r r₁ : ReceiverSessionRuntime) (commands : List InputCommand) : List Happening :=
  if r₁.activeSession.isSome ∧ r.injector.posted.length + commands.length < r₁.injector.posted.length then
    (r.pendingMotion.map fun frame => .sample ⟨frame, r₁.injector.posted.take 1⟩).toList
  else []

/-- What a call applied and submitted, newest first. -/
def happenings (r : ReceiverSessionRuntime) : ReceiverCall → List Happening
  | .input frame peer nowMs =>
    match appliedCommands r frame peer with
    | none => []
    | some commands =>
      flushed r (r.handleInputAt frame peer nowMs).2 commands ++ [.item ⟨frame, r.activeDisplay, commands⟩]
  | .motion frame peer nowMs =>
    match r.handleMotionAt frame peer nowMs with
    | (.ok .applied, r₁) => [.sample ⟨frame, r₁.injector.posted.take 1⟩]
    | _ => []
  | _ => []

structure Chronicle where
  receiver : ReceiverSessionRuntime
  /-- The session of the newest activation. -/
  session : Option SessionId
  /-- What the injector had got before it. -/
  before : List InputCommand
  /-- What it has done, newest first. -/
  log : List Happening

namespace Chronicle

/-- A call opens a new log if it activates a session, and goes on with the log otherwise. -/
def next (w : Chronicle) (c : ReceiverCall) : Chronicle :=
  let r₁ := w.receiver.next c
  if w.receiver.activeSession.isNone ∧ r₁.activeSession.isSome then
    { receiver := r₁, session := r₁.activeSession, before := r₁.injector.posted, log := [] }
  else { w with receiver := r₁, log := happenings w.receiver c ++ w.log }

def start (r : ReceiverSessionRuntime) : Chronicle := { receiver := r, session := none, before := [], log := [] }

/-- The events applied in the newest activation, newest first. -/
def applied (w : Chronicle) : List AppliedEvent := Feed.items w.log

/-- The motion frames submitted in it, newest first. -/
def submitted (w : Chronicle) : List SubmittedMotion := Feed.samples w.log

end Chronicle

/-- An event with a position puts the pointer there: before a scroll, with a button, or on its own. -/
def AppliedEvent.Leads (event : AppliedEvent) : Prop :=
  ∀ sequence x y, criticalMotionSnapshot event.frame.event = some (sequence, x, y) →
    ∃ display px py, event.display = some display ∧ display.map x y = .ok (px, py) ∧
      ((∃ dragButton deltaX deltaY, event.commands = [.mouseMove px py dragButton, .scroll deltaX deltaY]) ∨
        (∃ button down, event.commands = [.mouseButton button down px py]) ∨
        ∃ dragButton, event.commands = [.mouseMove px py dragButton])

section Leads

variable {r : ReceiverSessionRuntime}

theorem mapActivePointer_eq_ok {x y px py : Int32} (h : r.mapActivePointer x y = .ok (px, py)) :
    ∃ display, r.activeDisplay = some display ∧ display.map x y = .ok (px, py) := by
  unfold mapActivePointer at h
  split at h
  · cases h
  · rename_i display hdisplay
    refine ⟨display, hdisplay, ?_⟩
    cases hmap : display.map x y with
    | error e =>
      rw [hmap] at h
      cases h
    | ok p =>
      rw [hmap] at h
      cases h
      rfl

/-- The commands of a button at a point. -/
theorem applyButton_commands (s : PressedState) (button : MouseButton) (down : Bool) (x y : Int32) :
    (s.applyButton button down x y).1 = [.mouseButton button down x y] ∨
    (s.applyButton button down x y).1 = [] := by
  unfold PressedState.applyButton
  split
  · split
    · exact Or.inr rfl
    · exact Or.inl rfl
  · split
    · exact Or.inl rfl
    · exact Or.inr rfl

theorem inputCommands_button (pressed : PressedState) (button : CriticalButton) (down : Bool) (x y : Int32)
    (motionSequence : UInt64) :
    (∃ b, (inputCommands pressed (.button button down x y motionSequence) (some (x, y))).1 =
      [.mouseButton b down x y]) ∨
      ∃ dragButton, (inputCommands pressed (.button button down x y motionSequence) (some (x, y))).1 =
        [.mouseMove x y dragButton] := by
  have hcommands := applyButton_commands (pressed.updatePointer x y) (mouseButton button) down x y
  unfold inputCommands PressedState.apply
  dsimp only
  generalize (pressed.updatePointer x y).applyButton (mouseButton button) down x y = out at hcommands ⊢
  obtain ⟨commands, after⟩ := out
  rcases hcommands with rfl | rfl
  · exact Or.inl ⟨_, rfl⟩
  · exact Or.inr ⟨_, rfl⟩

/-- **The pointer leads**: the commands of an admitted event start with its mapped position. -/
theorem Admitted.leads {frame : CriticalFrame} {peer : AuthenticatedPeer} {mapped : CriticalEvent}
    {pointer : Option (Int32 × Int32)} (h : Admitted r frame peer mapped pointer) :
    AppliedEvent.Leads ⟨frame, r.activeDisplay, (inputCommands r.pressed mapped pointer).1⟩ := by
  intro sequence x y hsnapshot
  have hmapped := h.mapped
  unfold mapEvent at hmapped
  dsimp only at hsnapshot
  rw [hsnapshot] at hmapped
  dsimp only at hmapped
  cases hpoint : r.mapActivePointer x y with
  | error e =>
    rw [hpoint] at hmapped
    cases hmapped
  | ok p =>
    obtain ⟨px, py⟩ := p
    rw [hpoint] at hmapped
    cases hmapped
    obtain ⟨display, hdisplay, hmap⟩ := mapActivePointer_eq_ok hpoint
    refine ⟨display, px, py, hdisplay, hmap, ?_⟩
    dsimp only
    cases hevent : frame.event with
    | key keyCode scanCode extended down =>
      rw [hevent] at hsnapshot
      cases hsnapshot
    | button button down bx b_y motionSequence =>
      rcases inputCommands_button r.pressed button down px py motionSequence with ⟨b, heq⟩ | ⟨dragButton, heq⟩
      · exact Or.inr (Or.inl ⟨b, down, heq⟩)
      · exact Or.inr (Or.inr ⟨dragButton, heq⟩)
    | scroll deltaX deltaY sx sy motionSequence => exact Or.inl ⟨_, deltaX, deltaY, rfl⟩

end Leads

/-! ### The log and the counters -/

namespace Chronicle

/-- What the log says of the newest activation, and of the receiver as long as the activation lasts. -/
structure Logged (w : Chronicle) : Prop where
  session : w.receiver.activeSession.isSome → w.session = w.receiver.activeSession
  frames : ∀ event ∈ w.applied, w.session = some event.frame.sessionId
  leads : ∀ event ∈ w.applied, event.Leads
  lawful : Feed.Lawful frameNumbers w.log
  tracks : w.receiver.activeSession.isSome →
    Feed.Tracks frameNumbers w.log w.receiver.highestAppliedSequence.toNat w.receiver.highestMotionSequence.toNat
  posted : w.receiver.activeSession.isSome → w.receiver.injector.posted = w.log.flatMap Happening.posts ++ w.before

/-- The invariant of every call. -/
structure Kept (w : Chronicle) : Prop where
  coherent : Coherent w.receiver
  lockstep : Lockstep w.receiver
  logged : Logged w

/-- The numbers which the log follows. -/
def counters (r : ReceiverSessionRuntime) :=
  (r.activeSession, r.highestAppliedSequence, r.highestMotionSequence, r.injector.posted)

/-- What a call other than input and motion does to the counters. -/
inductive Steady (r : ReceiverSessionRuntime) (r₁ : ReceiverSessionRuntime) : Prop
  | finished : r₁.activeSession = none → Steady r r₁
  | opened : r.activeSession = none → r₁.activeSession.isSome → r₁.highestAppliedSequence = 0 → Steady r r₁
  | same : counters r₁ = counters r → Steady r r₁

section Kept

variable {r r₁ : ReceiverSessionRuntime} {w : Chronicle}

theorem steady_touch (frame : ControlFrame) (nowMs : UInt64) : Steady r (r.touch frame nowMs) := by
  unfold touch
  split
  · split <;> exact .same rfl
  · split <;> exact .same rfl
  · exact .same rfl

theorem ControlStep.steady {frame : ControlFrame} {peer : AuthenticatedPeer} {nowMs : UInt64}
    {answer : Except SessionRuntimeError (Option ControlFrame)}
    (hstep : ControlStep r frame peer nowMs (answer, r₁)) :
    Steady r r₁ := by
  cases hstep with
  | refused _ _ => exact .same rfl
  | helloFailed hreach hrelease => exact .finished (hrelease.activeSession.trans hreach.2.2)
  | helloRefused hreach hrelease => exact .finished (hrelease.activeSession.trans hreach.2.2)
  | greeted hreach hrelease => exact .finished (hrelease.activeSession.trans hreach.2.2)
  | unready _ hready | unknownLayout _ hready _ | prepareRefused _ hready _ _ _ =>
    refine .same ?_
    unfold counters
    rw [← Injector.posted_of_readiness hready]
  | prepared _ hready _ _ _ =>
    refine .same ?_
    unfold counters
    rw [← Injector.posted_of_readiness hready]
    rfl
  | activated _ _ _ hnone _ _ _ => exact .opened hnone rfl rfl
  | commitRefused _ _ hnone _ => exact .finished hnone
  | recommitted _ _ => exact .same rfl
  | ended _ _ _ hrelease => exact .finished hrelease.activeSession
  | endedIdle _ hnone _ _ hrelease => exact .finished (hrelease.activeSession.trans hnone)
  | ponged _ _ _ => exact steady_touch _ _

theorem LoseStep.steady {answer : Except SessionRuntimeError Bool} (hstep : LoseStep r (answer, r₁)) :
    Steady r r₁ := by
  cases hstep with
  | kept => exact .same rfl
  | lost _ _ hrelease => exact .finished hrelease.activeSession

theorem LayoutStep.steady {displayLayouts : List ReceiverDisplayLayout} {answer : Except SessionRuntimeError Bool}
    (hstep : LayoutStep r displayLayouts (answer, r₁)) : Steady r r₁ := by
  cases hstep with
  | current _ => exact .same rfl
  | lost _ _ _ hrelease => exact .finished hrelease.activeSession
  | cleared _ hnone hrelease => exact .finished (hrelease.activeSession.trans hnone)

/-- After the activation its log stays as it was. -/
theorem Logged.finished (h : Logged w) (hnone : r₁.activeSession = none) : Logged { w with receiver := r₁ } :=
  { h with
    session := by simp [hnone]
    tracks := by simp [hnone]
    posted := by simp [hnone] }

theorem Logged.congr (h : Logged w) (hsame : counters r₁ = counters w.receiver) :
    Logged { w with receiver := r₁ } := by
  simp only [counters, Prod.mk.injEq] at hsame
  obtain ⟨hactive, happlied, hmotion, hposted⟩ := hsame
  exact
    { h with
      session := by
        intro hsome
        dsimp only at hsome ⊢
        rw [hactive] at hsome ⊢
        exact h.session hsome
      tracks := by
        intro hsome
        dsimp only at hsome ⊢
        rw [happlied, hmotion]
        exact h.tracks (hactive ▸ hsome)
      posted := by
        intro hsome
        dsimp only at hsome ⊢
        rw [hposted]
        exact h.posted (hactive ▸ hsome) }

/-- **An event is applied.** -/
theorem Logged.item (h : Logged w) (hc : Coherent w.receiver) (hl : Lockstep w.receiver) {frame : CriticalFrame}
    {peer : AuthenticatedPeer} {mapped : CriticalEvent} {pointer : Option (Int32 × Int32)} {i : Injector}
    {next : UInt64} (nowMs : UInt64) (hadmitted : Admitted w.receiver frame peer mapped pointer)
    (hsubmit : submitAll (inputCommands w.receiver.pressed mapped pointer).1 w.receiver.injector = (.ok (), i)) :
    Logged { w with
      receiver := afterInput w.receiver frame (inputCommands w.receiver.pressed mapped pointer).2 i next nowMs
      log := .item ⟨frame, w.receiver.activeDisplay,
        (inputCommands w.receiver.pressed mapped pointer).1⟩ :: w.log } := by
  have hactive := hadmitted.active hc
  have hsome : w.receiver.activeSession.isSome := Option.isSome_iff_exists.mpr ⟨_, hactive⟩
  have hnumber : frame.sequence.toNat = w.receiver.highestAppliedSequence.toNat + 1 :=
    (hl.gate _ _ hadmitted.gate).symm
  have htracks : Feed.Tracks frameNumbers
      (.item ⟨frame, w.receiver.activeDisplay, (inputCommands w.receiver.pressed mapped pointer).1⟩ :: w.log)
      frame.sequence.toNat (w.receiver.raiseMotion frame.event).toNat := by
    rw [hnumber, raiseMotion_toNat]
    exact (h.tracks hsome).item hnumber
  have hposted : i.posted = (inputCommands w.receiver.pressed mapped pointer).1.reverse ++
    w.receiver.injector.posted := by
    rcases submitAll_cases (inputCommands w.receiver.pressed mapped pointer).1 w.receiver.injector with
      ⟨-, hdone⟩ | ⟨e, _, _, _, herr, -, -⟩
    · rwa [hsubmit] at hdone
    · rw [hsubmit] at herr
      cases herr
  exact
    { session := fun _ => h.session hsome
      frames := by
        intro event hevent
        rcases List.mem_cons.mp hevent with rfl | hevent
        · exact (h.session hsome).trans hactive
        · exact h.frames event hevent
      leads := by
        intro event hevent
        rcases List.mem_cons.mp hevent with rfl | hevent
        · exact hadmitted.leads
        · exact h.leads event hevent
      lawful := htracks.lawful
      tracks := fun _ => htracks
      posted := by
        intro _
        show i.posted = _
        rw [hposted, h.posted hsome, List.flatMap_cons, List.append_assoc]
        rfl }

/-- **A motion which is due** is submitted and logged, or the log stays. -/
theorem Logged.sample (h : Logged w) {frame : MotionFrame} {answer : Except SessionRuntimeError Unit}
    (hactive : w.receiver.activeSession = some frame.sessionId)
    (hneeds : frame.requiredReliableSequence ≤ w.receiver.highestAppliedSequence)
    (hnew : w.receiver.highestMotionSequence < frame.sequence) (hstep : ApplyStep w.receiver frame (answer, r₁)) :
    ((∃ e, answer = .error e) ∧ Logged { w with receiver := r₁ } ∧
        (r₁.activeSession.isSome → r₁.injector.posted = w.receiver.injector.posted)) ∨
      (answer = .ok () ∧ r₁.activeSession.isSome ∧
        r₁.injector.posted.length = w.receiver.injector.posted.length + 1 ∧
        Logged { w with receiver := r₁, log := .sample ⟨frame, r₁.injector.posted.take 1⟩ :: w.log }) := by
  have hsome : w.receiver.activeSession.isSome := Option.isSome_iff_exists.mpr ⟨_, hactive⟩
  cases hstep with
  | refused _ => exact Or.inl ⟨⟨_, rfl⟩, h, fun _ => rfl⟩
  | failed _ _ hrelease =>
    have hnone : r₁.activeSession = none := hrelease.activeSession
    exact Or.inl ⟨⟨_, rfl⟩, h.finished hnone, by simp [hnone]⟩
  | moved hmap hposted =>
    rename_i i x y
    have htracks : Feed.Tracks frameNumbers (.sample ⟨frame, i.posted.take 1⟩ :: w.log)
        w.receiver.highestAppliedSequence.toNat frame.sequence.toNat :=
      (h.tracks hsome).sample (UInt64.le_iff_toNat_le.mp hneeds) (UInt64.lt_iff_toNat_lt.mp hnew)
    refine Or.inr ⟨rfl, hsome, ?_, ?_⟩
    · dsimp only
      rw [hposted, List.length_cons]
    · exact
        { session := fun _ => h.session hsome
          frames := h.frames
          leads := h.leads
          lawful := htracks.lawful
          tracks := fun _ => htracks
          posted := by
            intro _
            dsimp only
            rw [List.flatMap_cons, List.append_assoc, ← h.posted hsome, hposted]
            rfl }

theorem next_steady (hc : Coherent r) {c : ReceiverCall} (hinput : ∀ frame peer nowMs, c ≠ .input frame peer nowMs)
    (hmotion : ∀ frame peer nowMs, c ≠ .motion frame peer nowMs) : Steady r (r.next c) := by
  cases c with
  | control frame peer nowMs => exact ControlStep.steady (handleControlAt_cases hc frame peer nowMs)
  | input frame peer nowMs => exact absurd rfl (hinput frame peer nowMs)
  | motion frame peer nowMs => exact absurd rfl (hmotion frame peer nowMs)
  | expire nowMs => exact LoseStep.steady (expireIfNeeded_cases hc nowMs)
  | streamClosed peer => exact LoseStep.steady (inputStreamClosed_cases hc peer)
  | layouts displayLayouts => exact LayoutStep.steady (updateDisplayLayouts_cases hc displayLayouts)
  | modifiers enabled control alt «meta» => exact .same rfl

/-- Only an activation opens a session, and its count starts at zero. -/
theorem next_opened (hc : Coherent r) {c : ReceiverCall} (hnone : r.activeSession = none)
    (hsome : (r.next c).activeSession.isSome) : (r.next c).highestAppliedSequence = 0 := by
  have hfaded : FadeStep r (r.next c) → (r.next c).highestAppliedSequence = 0 := by
    intro hfade
    cases hfade with
    | kept _ _ _ _ hactive _ _ =>
      rw [hactive, hnone] at hsome
      cases hsome
    | lost _ _ _ _ _ _ hnone₁ _ =>
      rw [hnone₁] at hsome
      cases hsome
  by_cases hcontrol : ∃ frame peer nowMs, c = .control frame peer nowMs
  · obtain ⟨frame, peer, nowMs, rfl⟩ := hcontrol
    have hsteady := next_steady hc (c := .control frame peer nowMs) (by simp) (by simp)
    cases hsteady with
    | finished hnone₁ =>
      rw [hnone₁] at hsome
      cases hsome
    | opened _ _ hzero => exact hzero
    | same heq =>
      simp only [counters, Prod.mk.injEq] at heq
      rw [heq.1, hnone] at hsome
      cases hsome
  · push Not at hcontrol
    exact hfaded (next_fades hc hcontrol)

/-- The motion behind an event. -/
theorem Logged.flush (h : Logged w) (hc : Coherent w.receiver) {r : ReceiverSessionRuntime}
    {commands : List InputCommand} (hpending : w.receiver.pendingMotion = r.pendingMotion)
    (hposted : w.receiver.injector.posted.length = r.injector.posted.length + commands.length) :
    Logged { w with
      receiver := w.receiver.flushPendingMotion.2
      log := flushed r w.receiver.flushPendingMotion.2 commands ++ w.log } := by
  have hstep := flushPendingMotion_cases hc
  generalize w.receiver.flushPendingMotion = out at hstep
  -- nothing new was posted, or the session is over
  have hquiet : ∀ r₁ : ReceiverSessionRuntime, (r₁.activeSession.isSome →
      r₁.injector.posted = w.receiver.injector.posted) → flushed r r₁ commands = [] := by
    intro r₁ hsame
    unfold flushed
    rw [if_neg]
    rintro ⟨hsome₁, hmore⟩
    rw [hsame hsome₁, hposted] at hmore
    exact lt_irrefl _ hmore
  cases hstep with
  | kept =>
    rw [hquiet _ (fun _ => rfl)]
    exact h
  | dropped =>
    rw [hquiet { w.receiver with pendingMotion := none } (fun _ => rfl)]
    have hdropped : Logged { w with receiver := { w.receiver with pendingMotion := none } } := h.congr rfl
    exact hdropped
  | applied hframe hdue hnew happly =>
    rename_i frame
    obtain ⟨answer, r₁⟩ := out
    have hactive := hc.pending frame hframe
    have h' : Logged { w with receiver := { w.receiver with pendingMotion := none } } := h.congr rfl
    rcases h'.sample hactive (UInt64.not_lt.mp hdue) hnew happly with ⟨-, hlogged, hsame⟩ |
      ⟨-, hsome₁, hlength, hlogged⟩
    · rw [hquiet _ hsame]
      exact hlogged
    · have hflushed : flushed r r₁ commands = [.sample ⟨frame, r₁.injector.posted.take 1⟩] := by
        unfold flushed
        rw [if_pos ⟨hsome₁, by dsimp only at hlength; omega⟩, ← hpending, hframe]
        rfl
      rw [hflushed]
      exact hlogged

theorem Logged.input (h : Logged w) (hc : Coherent w.receiver) (hl : Lockstep w.receiver) (frame : CriticalFrame)
    (peer : AuthenticatedPeer) (nowMs : UInt64) :
    Logged { w with
      receiver := (w.receiver.handleInputAt frame peer nowMs).2
      log := happenings w.receiver (.input frame peer nowMs) ++ w.log } := by
  have hstep := handleInputAt_taken hc frame peer nowMs
  dsimp only [happenings]
  generalize appliedCommands w.receiver frame peer = commands at hstep ⊢
  generalize w.receiver.handleInputAt frame peer nowMs = out at hstep ⊢
  cases hstep with
  | refused => exact h
  | broken hrelease => exact h.finished hrelease.activeSession
  | applied hadmitted hsubmit hnext =>
    rename_i mapped pointer i next
    have hitem : Logged { w with
        receiver := afterInput w.receiver frame (inputCommands w.receiver.pressed mapped pointer).2 i next nowMs
        log := .item ⟨frame, w.receiver.activeDisplay,
          (inputCommands w.receiver.pressed mapped pointer).1⟩ :: w.log } :=
      h.item hc hl nowMs hadmitted hsubmit
    have hafter :=
      hc.afterInput (hadmitted.active hc) (inputCommands w.receiver.pressed mapped pointer).2 i next nowMs
    have hlength : i.posted.length =
        w.receiver.injector.posted.length + (inputCommands w.receiver.pressed mapped pointer).1.length := by
      rcases submitAll_cases (inputCommands w.receiver.pressed mapped pointer).1 w.receiver.injector with
        ⟨-, hdone⟩ | ⟨e, _, _, _, herr, -, -⟩
      · rw [hsubmit] at hdone
        rw [hdone, List.length_append, List.length_reverse, Nat.add_comm]
      · rw [hsubmit] at herr
        cases herr
    have hflushed := hitem.flush hafter (r := w.receiver) rfl hlength
    dsimp only at hflushed ⊢
    rw [List.append_assoc]
    exact hflushed

theorem Logged.motion (h : Logged w) (hc : Coherent w.receiver) (frame : MotionFrame) (peer : AuthenticatedPeer)
    (nowMs : UInt64) :
    Logged { w with
      receiver := (w.receiver.handleMotionAt frame peer nowMs).2
      log := happenings w.receiver (.motion frame peer nowMs) ++ w.log } := by
  have hstep := handleMotionAt_arrival hc frame peer nowMs
  dsimp only [happenings]
  generalize w.receiver.handleMotionAt frame peer nowMs = out at hstep ⊢
  cases hstep with
  | aside hanswer =>
    dsimp only
    split
    · rename_i heq
      cases heq
      exact absurd rfl hanswer
    · exact h
  | waits _ _ _ _ _ _ => exact h.congr rfl
  | due _ _ hactive hnew hneeds happly =>
    rename_i answer r₁
    have h' : Logged { w with receiver := { w.receiver with lastActivityMs := some nowMs } } := h.congr rfl
    rcases h'.sample hactive hneeds hnew happly with ⟨⟨e, rfl⟩, hlogged, -⟩ | ⟨rfl, -, -, hlogged⟩
    · exact hlogged
    · exact hlogged

/-- **Every call keeps the log true.** -/
theorem next_kept (h : Kept w) (c : ReceiverCall) : Kept (w.next c) := by
  have hc := next_coherent w.receiver c h.coherent
  have hl := next_lockstep h.coherent h.lockstep c
  unfold next
  dsimp only
  split
  · rename_i hopen
    obtain ⟨hnone, hsome⟩ := hopen
    have hzero := next_opened h.coherent (Option.isNone_iff_eq_none.mp hnone) hsome
    refine ⟨hc, hl, ?_⟩
    exact
      { session := fun _ => rfl
        frames := by simp [applied]
        leads := by simp [applied]
        lawful := trivial
        tracks := by
          intro _
          dsimp only
          rw [hzero]
          exact Feed.tracks_nil _
        posted := fun _ => rfl }
  · rename_i hgoes
    refine ⟨hc, hl, ?_⟩
    -- a call which is neither input nor motion adds nothing
    have hquiet : happenings w.receiver c = [] → Steady w.receiver (w.receiver.next c) →
        Logged { w with receiver := w.receiver.next c, log := happenings w.receiver c ++ w.log } := by
      intro hnil hsteady
      rw [hnil, List.nil_append]
      cases hsteady with
      | finished hnone => exact h.logged.finished hnone
      | opened hnone hsome _ => exact absurd ⟨by simp [hnone], hsome⟩ hgoes
      | same heq => exact h.logged.congr heq
    cases c with
    | input frame peer nowMs => exact h.logged.input h.coherent h.lockstep frame peer nowMs
    | motion frame peer nowMs => exact h.logged.motion h.coherent frame peer nowMs
    | control _ _ _ | expire _ | streamClosed _ | layouts _ | modifiers _ _ _ _ =>
      exact hquiet rfl (next_steady h.coherent (by simp) (by simp))

end Kept

theorem start_kept (localBoot : BootId) (injector : Injector) (displayLayouts : List ReceiverDisplayLayout) :
    Kept (start (newWithDisplayLayouts localBoot injector displayLayouts)) where
  coherent := newWithDisplayLayouts_coherent localBoot injector displayLayouts
  lockstep := newWithDisplayLayouts_lockstep localBoot injector displayLayouts
  logged :=
    { session := by simp [start, newWithDisplayLayouts]
      frames := by simp [start, applied]
      leads := by simp [start, applied]
      lawful := trivial
      tracks := by simp [start, newWithDisplayLayouts]
      posted := by simp [start, newWithDisplayLayouts] }

theorem run_kept (localBoot : BootId) (injector : Injector) (displayLayouts : List ReceiverDisplayLayout)
    (calls : List ReceiverCall) :
    Kept (run next (start (newWithDisplayLayouts localBoot injector displayLayouts)) calls) :=
  run_invariant (I := Kept) (fun _ c h => next_kept h c) (start_kept localBoot injector displayLayouts) calls

theorem run_receiver (w : Chronicle) (calls : List ReceiverCall) :
    (run next w calls).receiver = run ReceiverSessionRuntime.next w.receiver calls := by
  refine run_project (fun w c => ?_) w calls
  unfold next
  dsimp only
  split <;> rfl

end Chronicle

end MyKvm.Receiver
