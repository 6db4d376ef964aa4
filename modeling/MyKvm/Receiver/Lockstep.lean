import MyKvm.Receiver.Coherence

/-!
# MyKvm.Receiver.Lockstep — the counters of an active session

`Coherent` says which session each part is in.  `Lockstep` adds the numbers: the gate expects the successor of the
highest applied sequence, and a motion which waits needs a later one.  `Arrival` lists what a motion frame meets,
with the comparisons which decide it, and `Taken` what an input frame meets.

`receiver_coherence` reads both invariants off every run.
-/

namespace MyKvm.Receiver

open MyKvm.Lib MyKvm.Protocol ReceiverSessionRuntime

/-! ### What a motion frame meets -/

section Arrival

variable {r : ReceiverSessionRuntime}

/-- **A motion frame** is set aside, waits for a reliable frame, or is due. -/
inductive Arrival (r : ReceiverSessionRuntime) (frame : MotionFrame) (peer : AuthenticatedPeer) (nowMs : UInt64) :
    Except SessionRuntimeError MotionDisposition × ReceiverSessionRuntime → Prop
  | aside {answer : Except SessionRuntimeError MotionDisposition} : answer ≠ .ok .applied →
      Arrival r frame peer nowMs (answer, r)
  | waits {pendingMotion : Option MotionFrame} : r.binding = some peer → peer.role = .controller →
      r.activeSession = some frame.sessionId → r.highestMotionSequence < frame.sequence →
      r.highestAppliedSequence < frame.requiredReliableSequence →
      (pendingMotion = some frame ∨ pendingMotion = r.pendingMotion) →
      Arrival r frame peer nowMs (.ok .buffered, { r with lastActivityMs := some nowMs, pendingMotion })
  | due {answer : Except SessionRuntimeError Unit} {r₁ : ReceiverSessionRuntime} : r.binding = some peer →
      peer.role = .controller → r.activeSession = some frame.sessionId → r.highestMotionSequence < frame.sequence →
      frame.requiredReliableSequence ≤ r.highestAppliedSequence →
      ApplyStep { r with lastActivityMs := some nowMs } frame (answer, r₁) →
      Arrival r frame peer nowMs (answer.map fun _ => .applied, r₁)

theorem handleMotionAt_arrival (hc : Coherent r) (frame : MotionFrame) (peer : AuthenticatedPeer)
    (nowMs : UInt64) :
    Arrival r frame peer nowMs (r.handleMotionAt frame peer nowMs) := by
  unfold handleMotionAt
  split
  · exact .aside (by simp)
  rename_i hbound
  push Not at hbound
  split
  · exact .aside (by simp)
  rename_i hsession
  push Not at hsession
  obtain ⟨-, hactive, -⟩ := hsession
  split
  · exact .aside (by simp)
  rename_i hnew
  have hfresh : r.highestMotionSequence < frame.sequence := UInt64.not_le.mp hnew
  split
  · exact .aside (by simp)
  split
  · exact .aside (by simp)
  split
  · exact .aside (by simp)
  dsimp only
  split
  · rename_i hwaits
    split
    · exact .waits hbound.1 hbound.2 hactive hfresh hwaits (Or.inl rfl)
    · exact .waits hbound.1 hbound.2 hactive hfresh hwaits (Or.inr rfl)
  · rename_i hdue
    have hstep := applyMotion_cases (hc.touched nowMs) hactive
    revert hstep
    cases applyMotion { r with lastActivityMs := some nowMs } frame with
    | mk answer r₁ =>
    intro hstep
    have happlied := Arrival.due hbound.1 hbound.2 hactive hfresh (UInt64.not_lt.mp hdue) hstep
    cases answer <;> exact happlied

end Arrival

/-! ### What an input frame meets -/

/-- The commands of an input frame whose event is applied: it is admitted, and all of them are submitted. -/
def appliedCommands (r : ReceiverSessionRuntime) (frame : CriticalFrame) (peer : AuthenticatedPeer) :
    Option (List InputCommand) :=
  if r.binding ≠ some peer ∨ peer.role ≠ .controller then none else
  if r.isStaleSnapshot frame.event then none else
  match r.mapEvent frame.event with
  | .error _ => none
  | .ok (mappedEvent, pointer) =>
    match (r.inputGate.accept frame).1 with
    | .error _ => none
    | .ok () =>
      match (submitAll (inputCommands r.pressed mappedEvent pointer).1 r.injector).1 with
      | .error _ => none
      | .ok () => some (inputCommands r.pressed mappedEvent pointer).1

section Taken

variable {r : ReceiverSessionRuntime}

/-- **An input frame** is refused, breaks the session, or is applied and followed by the motion which waited. -/
inductive Taken (r : ReceiverSessionRuntime) (frame : CriticalFrame) (peer : AuthenticatedPeer) (nowMs : UInt64) :
    Option (List InputCommand) → Except SessionRuntimeError Unit × ReceiverSessionRuntime → Prop
  | refused {e : SessionRuntimeError} : Taken r frame peer nowMs none (.error e, r)
  | broken {error : PortError} {i : Injector} {h : ReceiverHandshake} {answer : Except SessionRuntimeError Unit}
      {r₁ : ReceiverSessionRuntime} :
      ReleaseStep (lostIn { r with injector := i, lastFault := some (.injector error) } h frame.sessionId)
        (answer, r₁) →
      Taken r frame peer nowMs none (.error (.injector error), r₁)
  | applied {mapped : CriticalEvent} {pointer : Option (Int32 × Int32)} {i : Injector} {next : UInt64} :
      Admitted r frame peer mapped pointer →
      submitAll (inputCommands r.pressed mapped pointer).1 r.injector = (.ok (), i) →
      frame.sequence.toNat + 1 = next.toNat →
      Taken r frame peer nowMs (some (inputCommands r.pressed mapped pointer).1)
        (afterInput r frame (inputCommands r.pressed mapped pointer).2 i next nowMs).flushPendingMotion

theorem handleInputAt_taken (hc : Coherent r) (frame : CriticalFrame) (peer : AuthenticatedPeer) (nowMs : UInt64) :
    Taken r frame peer nowMs (appliedCommands r frame peer) (r.handleInputAt frame peer nowMs) := by
  unfold appliedCommands handleInputAt
  by_cases hbound : r.binding ≠ some peer ∨ peer.role ≠ .controller
  · rw [if_pos hbound, if_pos hbound]
    exact .refused
  rw [if_neg hbound, if_neg hbound]
  push Not at hbound
  by_cases hstale : r.isStaleSnapshot frame.event = true
  · rw [if_pos hstale, if_pos hstale]
    exact .refused
  rw [if_neg hstale, if_neg hstale]
  cases hmap : r.mapEvent frame.event with
  | error e => exact .refused
  | ok p =>
    obtain ⟨mapped, pointer⟩ := p
    dsimp only
    rcases r.inputGate.accept_cases frame with ⟨e, heq⟩ | ⟨next, heq, hgate, hnext, hvalid⟩
    · rw [heq]
      exact .refused
    rw [heq]
    have hadmitted : Admitted r frame peer mapped pointer :=
      ⟨hbound.1, hbound.2, by simpa using hstale, hmap, hgate, hvalid⟩
    dsimp only
    unfold applyInput
    dsimp only
    cases hsubmit : submitAll (inputCommands r.pressed mapped pointer).1 r.injector with
    | mk answer i =>
    cases answer with
    | error e =>
      have hc' : Coherent { r with inputGate := { r.inputGate with active := some (frame.sessionId, next) } } :=
        { hc with gate := (hadmitted.active hc).symm }
      obtain ⟨h, answer, r₁, -, hrelease, hfail⟩ :=
        failSubmission_cases hc' (hadmitted.active hc) i (inputCommands r.pressed mapped pointer).2 e
      dsimp only
      rw [hfail]
      exact .broken hrelease
    | ok u => exact .applied hadmitted hsubmit hnext

end Taken

/-! ### The counters -/

theorem raiseMotion_toNat (r : ReceiverSessionRuntime) (event : CriticalEvent) :
    (r.raiseMotion event).toNat =
      max r.highestMotionSequence.toNat ((criticalMotionSnapshot event).elim 0 (·.1.toNat)) := by
  unfold raiseMotion
  cases criticalMotionSnapshot event with
  | none => simp
  | some snapshot =>
    obtain ⟨sequence, x, y⟩ := snapshot
    exact max_toNat _ _

/-- The counters of the receiver go together, and its session is bound to a controller. -/
structure Lockstep (r : ReceiverSessionRuntime) : Prop where
  gate : ∀ s n, r.inputGate.active = some (s, n) → r.highestAppliedSequence.toNat + 1 = n.toNat
  bound : r.activeSession.isSome → r.binding.isSome
  role : ∀ peer, r.binding = some peer → peer.role = .controller
  waits : ∀ f, r.pendingMotion = some f → r.highestAppliedSequence < f.requiredReliableSequence

section Lockstep

variable {r r₁ : ReceiverSessionRuntime}

theorem newWithDisplayLayouts_lockstep (localBoot : BootId) (injector : Injector)
    (displayLayouts : List ReceiverDisplayLayout) :
    Lockstep (newWithDisplayLayouts localBoot injector displayLayouts) where
  gate := by simp [newWithDisplayLayouts, InputSessionGate.new]
  bound := by simp [newWithDisplayLayouts]
  role := by simp [newWithDisplayLayouts]
  waits := by simp [newWithDisplayLayouts]

theorem Lockstep.released {answer : Except SessionRuntimeError Unit} (h : Lockstep r)
    (hstep : ReleaseStep r (answer, r₁)) : Lockstep r₁ := by
  cases hstep with
  | released _ => exact { h with }
  | failed _ _ _ _ => exact { h with }

/-- A lost session takes its counters along. -/
theorem Lockstep.lost {h : ReceiverHandshake} (hl : Lockstep r) (s : SessionId) : Lockstep (lostIn r h s) where
  gate := by simp [lostIn]
  bound := by simp [lostIn]
  role := hl.role
  waits := by simp [lostIn]

theorem Lockstep.undisplayed (hl : Lockstep r) : Lockstep (undisplayed r) :=
  { hl with waits := by simp [MyKvm.Receiver.undisplayed] }

theorem ControlStep.lockstep {frame : ControlFrame} {peer : AuthenticatedPeer} {nowMs : UInt64}
    {answer : Except SessionRuntimeError (Option ControlFrame)}
    (hstep : ControlStep r frame peer nowMs (answer, r₁)) (hc : Coherent r) (hl : Lockstep r) : Lockstep r₁ := by
  cases hstep with
  | refused _ _ => exact hl
  | helloFailed _ hrelease => exact hl.released hrelease
  | helloRefused _ hrelease => exact hl.released hrelease
  | greeted hreach hrelease =>
    rename_i bootId capabilities r₂
    have hl₂ := hl.released hrelease
    have hgate₂ : r₂.inputGate.active = none := by
      have hgate : r.inputGate.session = none := hc.gate.trans hreach.2.2
      cases hrelease with
      | released _ => exact Option.map_eq_none_iff.mp hgate
    exact
      { gate := by simp [boundTo, hgate₂]
        bound := by simp [boundTo]
        role := by
          intro p heq
          cases heq
          exact hreach.1
        waits := by simp [boundTo] }
  | unready _ _ => exact { hl with }
  | unknownLayout _ _ _ => exact { hl with }
  | prepareRefused _ _ _ _ _ => exact { hl with }
  | prepared _ _ _ _ _ => exact { hl with }
  | activated hbound _ _ _ _ _ _ =>
    exact
      { gate := by
          intro s' n heq
          cases heq
          rfl
        bound := fun _ => Option.isSome_iff_exists.mpr ⟨peer, hbound⟩
        role := hl.role
        waits := by simp [activeIn] }
  | commitRefused _ _ _ _ => exact { hl with }
  | recommitted _ _ => exact { hl with }
  | ended _ _ _ hrelease =>
    refine Lockstep.released ?_ hrelease
    exact
      { gate := by simp [endedBy]
        bound := by simp [endedBy]
        role := hl.role
        waits := by simp [endedBy] }
  | endedIdle hbound hnone hh hstate hrelease =>
    rename_i s reason h answer
    exact Lockstep.released (r := withHandshake r h (.ended s)) { hl with } hrelease
  | ponged _ _ _ =>
    unfold touch
    dsimp only
    split
    · exact { hl with }
    · exact hl

theorem ApplyStep.lockstep {frame : MotionFrame} {answer : Except SessionRuntimeError Unit}
    (hstep : ApplyStep r frame (answer, r₁)) (hl : Lockstep r) : Lockstep r₁ := by
  cases hstep with
  | refused _ => exact hl
  | failed hposted hh hrelease =>
    rename_i i h error answer
    have hl' : Lockstep { r with injector := i, lastFault := some (.injector error) } := { hl with }
    exact (hl'.lost _).released hrelease
  | moved _ _ => exact { hl with }

theorem Arrival.lockstep {frame : MotionFrame} {peer : AuthenticatedPeer} {nowMs : UInt64}
    {answer : Except SessionRuntimeError MotionDisposition} (hstep : Arrival r frame peer nowMs (answer, r₁))
    (hl : Lockstep r) : Lockstep r₁ := by
  cases hstep with
  | aside _ => exact hl
  | waits _ _ _ _ hwaits hpending =>
    refine { hl with waits := ?_ }
    intro f hf
    rcases hpending with heq | heq
    · cases heq.symm.trans hf
      exact hwaits
    · exact hl.waits f (heq.symm.trans hf)
  | due _ _ _ _ _ happly =>
    have hl' : Lockstep { r with lastActivityMs := some nowMs } := { hl with }
    exact happly.lockstep hl'

/-- After a flush, what still waits has to. -/
theorem flushPendingMotion_lockstep (hc : Coherent r) (hl : Lockstep { r with pendingMotion := none }) :
    Lockstep r.flushPendingMotion.2 := by
  unfold flushPendingMotion
  cases hpending : r.pendingMotion with
  | none =>
    have hsame : { r with pendingMotion := none } = r := by rw [← hpending]
    rwa [hsame] at hl
  | some frame =>
    dsimp only
    split
    · rename_i hwaits
      refine { hl with waits := ?_ }
      intro f hf
      cases hpending.symm.trans hf
      exact hwaits
    · split
      · have hactive := hc.pending frame hpending
        exact ApplyStep.lockstep (applyMotion_cases hc.withoutPending hactive) hl
      · exact hl

theorem Taken.lockstep {frame : CriticalFrame} {peer : AuthenticatedPeer} {nowMs : UInt64}
    {commands : Option (List InputCommand)} {out : Except SessionRuntimeError Unit × ReceiverSessionRuntime}
    (hstep : Taken r frame peer nowMs commands out) (hc : Coherent r) (hl : Lockstep r) : Lockstep out.2 := by
  cases hstep with
  | refused => exact hl
  | broken hrelease =>
    rename_i error i h answer r₁
    have hl' : Lockstep { r with injector := i, lastFault := some (.injector error) } := { hl with }
    exact (hl'.lost _).released hrelease
  | applied hadmitted hsubmit hnext =>
    refine flushPendingMotion_lockstep (hc.afterInput (hadmitted.active hc) _ _ _ _) ?_
    -- the gate and the counter moved together
    exact
      { hl with
        gate := by
          intro s n heq
          cases heq
          exact hnext
        waits := by simp }

theorem LoseStep.lockstep {answer : Except SessionRuntimeError Bool} (hstep : LoseStep r (answer, r₁))
    (hl : Lockstep r) : Lockstep r₁ := by
  cases hstep with
  | kept => exact hl
  | lost hactive hh hrelease =>
    rename_i h s fault answer
    have hlost : Lockstep (lostIn r h s) := hl.lost s
    exact Lockstep.released (r := { lostIn r h s with lastFault := some fault }) { hlost with } hrelease

theorem LayoutStep.lockstep {displayLayouts : List ReceiverDisplayLayout}
    {answer : Except SessionRuntimeError Bool}
    (hstep : LayoutStep r displayLayouts (answer, r₁)) (hl : Lockstep r) : Lockstep r₁ := by
  cases hstep with
  | current _ => exact { hl with }
  | lost hprepared hactive hh hrelease =>
    rename_i preparedDisplay h s answer
    have hl' : Lockstep { r with displayLayouts, preparedDisplay } := { hl with }
    exact (hl'.lost s).undisplayed.released hrelease
  | cleared hprepared hnone hrelease =>
    rename_i preparedDisplay answer
    have hl' : Lockstep { r with displayLayouts, preparedDisplay } := { hl with }
    exact hl'.undisplayed.released hrelease

theorem next_lockstep (hc : Coherent r) (hl : Lockstep r) (c : ReceiverCall) : Lockstep (r.next c) := by
  cases c with
  | control frame peer nowMs => exact (handleControlAt_cases hc frame peer nowMs).lockstep hc hl
  | input frame peer nowMs => exact (handleInputAt_taken hc frame peer nowMs).lockstep hc hl
  | motion frame peer nowMs => exact (handleMotionAt_arrival hc frame peer nowMs).lockstep hl
  | expire nowMs => exact (expireIfNeeded_cases hc nowMs).lockstep hl
  | streamClosed peer => exact (inputStreamClosed_cases hc peer).lockstep hl
  | layouts displayLayouts => exact (updateDisplayLayouts_cases hc displayLayouts).lockstep hl
  | modifiers enabled control alt «meta» => exact { hl with }

end Lockstep

/-- The calls which open a session on the left display. -/
def Sample.opening (n : UInt8) : List ReceiverCall :=
  [control hello, control (.prepare 7 "left" 1), control (.commit 7 (session n))]

section Runs

variable (localBoot : BootId) (injector : Injector) (displayLayouts : List ReceiverDisplayLayout)

theorem run_lockstep (calls : List ReceiverCall) :
    Coherent (run next (newWithDisplayLayouts localBoot injector displayLayouts) calls) ∧
      Lockstep (run next (newWithDisplayLayouts localBoot injector displayLayouts) calls) := by
  refine run_invariant (I := fun r => Coherent r ∧ Lockstep r) ?_ ?_ calls
  · rintro r c ⟨hc, hl⟩
    exact ⟨next_coherent r c hc, next_lockstep hc hl c⟩
  · exact ⟨newWithDisplayLayouts_coherent localBoot injector displayLayouts,
      newWithDisplayLayouts_lockstep localBoot injector displayLayouts⟩

/-- **Receiver coherence.**  In every reachable state with an active session the handshake and the gate are active
in it, the gate expects the successor of the highest applied sequence, a display, a time and a bound controller are
there, and a motion which waits needs a sequence beyond the applied ones. -/
theorem receiver_coherence (calls : List ReceiverCall) (s : SessionId)
    (hactive : (run next (newWithDisplayLayouts localBoot injector displayLayouts) calls).activeSession = some s) :
    let r := run next (newWithDisplayLayouts localBoot injector displayLayouts) calls
    (∃ h, r.handshake = some h ∧ h.state = .active s) ∧
      (∃ n, r.inputGate.active = some (s, n) ∧ n.toNat = r.highestAppliedSequence.toNat + 1) ∧
      r.activeDisplay.isSome ∧ r.lastActivityMs.isSome ∧
      (∃ peer, r.binding = some peer ∧ peer.role = .controller) ∧
      ∀ f, r.pendingMotion = some f → r.highestAppliedSequence < f.requiredReliableSequence := by
  obtain ⟨hc, hl⟩ := run_lockstep localBoot injector displayLayouts calls
  intro r
  have hsome : r.activeSession.isSome := Option.isSome_iff_exists.mpr ⟨s, hactive⟩
  have hgate : ∃ n, r.inputGate.active = some (s, n) ∧ n.toNat = r.highestAppliedSequence.toNat + 1 := by
    obtain ⟨⟨s', n⟩, heq, rfl⟩ := Option.map_eq_some_iff.mp (hc.gate.trans hactive)
    exact ⟨n, heq, (hl.gate _ _ heq).symm⟩
  obtain ⟨peer, hbinding⟩ := Option.isSome_iff_exists.mp (hl.bound hsome)
  exact ⟨hc.handshake s hactive, hgate, hc.display hsome, hc.lease hsome,
    ⟨peer, hbinding, hl.role peer hbinding⟩, hl.waits⟩

/-- A session which was just opened. -/
theorem receiver_coherence_opening :
    let r := run next Sample.receiver (Sample.opening 3)
    (∃ h, r.handshake = some h ∧ h.state = .active (Sample.session 3)) ∧
      (∃ n, r.inputGate.active = some (Sample.session 3, n) ∧ n.toNat = r.highestAppliedSequence.toNat + 1) ∧
      r.activeDisplay.isSome ∧ r.lastActivityMs.isSome ∧
      (∃ peer, r.binding = some peer ∧ peer.role = .controller) ∧
      ∀ f, r.pendingMotion = some f → r.highestAppliedSequence < f.requiredReliableSequence := by
  unfold Sample.receiver
  exact receiver_coherence _ _ _ (Sample.opening 3) (Sample.session 3) (by decide +kernel)

end Runs

end MyKvm.Receiver
