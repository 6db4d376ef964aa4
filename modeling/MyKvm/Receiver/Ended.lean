import MyKvm.Receiver.Coherence

/-!
# MyKvm.Receiver.Ended — an ended session stays ended, as far as it is remembered

`Remembered` is the receiver with every session which was active and has ended.  The gate remembers only the last
of them, and the handshake forgets its own with the next `Prepare`: a `Commit` may bring back an older one.
`Forgotten` names exactly these commits, and in a run without them no ended session is active again and none of its
input is posted.
-/

namespace MyKvm.Receiver

open MyKvm.Lib MyKvm.Protocol ReceiverSessionRuntime

/-- What a call does to the active session and to the session which the gate remembers. -/
inductive SessionStep (r : ReceiverSessionRuntime) (c : ReceiverCall) (r₁ : ReceiverSessionRuntime) : Prop
  | kept : r₁.activeSession = r.activeSession → r₁.inputGate.ended = r.inputGate.ended → SessionStep r c r₁
  | lost {s : SessionId} : r.activeSession = some s → r₁.activeSession = none → r₁.inputGate.ended = some s →
      SessionStep r c r₁
  | activated {q : UInt64} {s : SessionId} {peer : AuthenticatedPeer} {nowMs : UInt64} {h : ReceiverHandshake} :
      c = .control (.commit q s) peer nowMs → peer.role = .controller → r.binding = some peer →
      r.handshake = some h → Acks h q s → r.activeSession = none → r.preparedDisplay.isSome = true →
      r.pressed.isEmpty = true → r.inputGate.ended ≠ some s →
      r₁.activeSession = some s → r₁.inputGate.ended = r.inputGate.ended → SessionStep r c r₁

section SessionStep

variable {r r₁ : ReceiverSessionRuntime}

theorem FadeStep.sessionStep (hfade : FadeStep r r₁) (c : ReceiverCall) : SessionStep r c r₁ := by
  cases hfade with
  | kept _ _ _ _ hactive hended _ => exact .kept hactive hended
  | lost _ _ _ _ hactive _ hnone hended => exact .lost hactive hnone hended

theorem ReleaseStep.ended {answer : Except SessionRuntimeError Unit} (hstep : ReleaseStep r (answer, r₁)) :
    r₁.inputGate.ended = r.inputGate.ended := by
  cases hstep <;> rfl

theorem ControlStep.sessionStep {frame : ControlFrame} {peer : AuthenticatedPeer} {nowMs : UInt64}
    {answer : Except SessionRuntimeError (Option ControlFrame)}
    (hstep : ControlStep r frame peer nowMs (answer, r₁))
    (hrole : peer.role = .controller) : SessionStep r (.control frame peer nowMs) r₁ := by
  cases hstep with
  | refused _ _ | unready _ _ | unknownLayout _ _ _ | prepareRefused _ _ _ _ _ | prepared _ _ _ _ _
  | commitRefused _ _ _ _ | recommitted _ _ => exact .kept rfl rfl
  | helloFailed _ hrelease | helloRefused _ hrelease => exact .kept hrelease.activeSession hrelease.ended
  | greeted _ hrelease => exact .kept hrelease.activeSession hrelease.ended
  | activated hbound hh hacks hnone hprepared hpressed hended =>
    exact .activated rfl hrole hbound hh hacks hnone hprepared hpressed hended rfl rfl
  | ended _ hactive _ hrelease => exact .lost hactive hrelease.activeSession hrelease.ended
  | endedIdle _ _ _ _ hrelease => exact .kept hrelease.activeSession hrelease.ended
  | ponged _ _ _ => exact (fades_of_sessionPart (touch_sessionPart _ _)).sessionStep _

theorem next_sessionStep (hc : Coherent r) (c : ReceiverCall) : SessionStep r c (r.next c) := by
  by_cases hcontrol : ∃ frame peer nowMs, c = .control frame peer nowMs
  · obtain ⟨frame, peer, nowMs, rfl⟩ := hcontrol
    by_cases hrole : peer.role = .controller
    · exact ControlStep.sessionStep (handleControlAt_cases hc frame peer nowMs) hrole
    · change SessionStep r _ (r.handleControlAt frame peer nowMs).2
      rw [handleControlAt_of_role hrole]
      exact .kept rfl rfl
  · push Not at hcontrol
    exact (next_fades hc hcontrol).sessionStep c

/-- An input frame of another session changes nothing. -/
theorem handleInputAt_other (hc : Coherent r) {frame : CriticalFrame}
    (hother : r.activeSession ≠ some frame.sessionId)
    (peer : AuthenticatedPeer) (nowMs : UInt64) : (r.handleInputAt frame peer nowMs).2 = r := by
  have hstep := handleInputAt_cases hc frame peer nowMs
  revert hstep
  generalize r.handleInputAt frame peer nowMs = out
  intro hstep
  cases hstep with
  | refused _ => rfl
  | failed hadmitted _ _ _ => exact absurd (hadmitted.active hc) hother
  | applied hadmitted _ _ _ => exact absurd (hadmitted.active hc) hother

/-- A motion frame of another session changes nothing. -/
theorem handleMotionAt_other (hc : Coherent r) {frame : MotionFrame}
    (hother : r.activeSession ≠ some frame.sessionId)
    (peer : AuthenticatedPeer) (nowMs : UInt64) : (r.handleMotionAt frame peer nowMs).2 = r := by
  have hstep := handleMotionAt_cases hc frame peer nowMs
  revert hstep
  generalize r.handleMotionAt frame peer nowMs = out
  intro hstep
  cases hstep with
  | refused _ => rfl
  | stale => rfl
  | buffered hactive _ => exact absurd hactive hother
  | applied hactive _ => exact absurd hactive hother

end SessionStep

/-! ### What has ended -/

structure Remembered where
  receiver : ReceiverSessionRuntime
  /-- The sessions which were active and have ended, newest first. -/
  ended : List SessionId

namespace Remembered

def next (w : Remembered) (c : ReceiverCall) : Remembered where
  receiver := w.receiver.next c
  ended := match w.receiver.activeSession with
    | some s => if (w.receiver.next c).activeSession = some s then w.ended else s :: w.ended
    | none => w.ended

def start (r : ReceiverSessionRuntime) : Remembered := { receiver := r, ended := [] }

/-- **An ended session stays ended**: it is not active, its input and motion post nothing, and
none of its motion is waiting. -/
def StaysEnded (w : Remembered) : Prop :=
  ∀ s ∈ w.ended, w.receiver.activeSession ≠ some s ∧
    (∀ frame peer nowMs, frame.sessionId = s →
      (w.receiver.handleInputAt frame peer nowMs).2.injector.posted = w.receiver.injector.posted) ∧
    (∀ frame peer nowMs, frame.sessionId = s →
      (w.receiver.handleMotionAt frame peer nowMs).2.injector.posted = w.receiver.injector.posted) ∧
    ∀ frame, w.receiver.pendingMotion = some frame → frame.sessionId ≠ s

/-- A `Commit` which the receiver can follow names a session which ended before the last one. -/
def Forgotten (w : Remembered) : ReceiverCall → Prop
  | .control (.commit q s) peer _ =>
    peer.role = .controller ∧ w.receiver.binding = some peer ∧ w.receiver.activeSession = none ∧
      w.receiver.preparedDisplay.isSome = true ∧ w.receiver.pressed.isEmpty = true ∧
      (∃ h, w.receiver.handshake = some h ∧ Acks h q s) ∧ s ∈ w.ended ∧ w.ended.head? ≠ some s
  | _ => False

/-- The invariant: the gate remembers the newest, and none of them is active. -/
structure Closed (w : Remembered) : Prop where
  coherent : Coherent w.receiver
  newest : w.receiver.inputGate.ended = w.ended.head?
  inactive : ∀ s ∈ w.ended, w.receiver.activeSession ≠ some s

variable {w : Remembered}

theorem Closed.staysEnded (h : Closed w) : StaysEnded w := by
  intro s hs
  have hinactive := h.inactive s hs
  refine ⟨hinactive, ?_, ?_, ?_⟩
  · rintro frame peer nowMs rfl
    rw [handleInputAt_other h.coherent hinactive peer nowMs]
  · rintro frame peer nowMs rfl
    rw [handleMotionAt_other h.coherent hinactive peer nowMs]
  · rintro frame hpending rfl
    exact hinactive (h.coherent.pending frame hpending)

/-- What ended after the call. -/
theorem next_ended_of_kept {c : ReceiverCall} (h : (w.receiver.next c).activeSession = w.receiver.activeSession) :
    (w.next c).ended = w.ended := by
  unfold next
  dsimp only
  rw [h]
  split
  · rename_i hactive
    rw [if_pos hactive]
  · rfl

theorem next_closed {c : ReceiverCall} (hremembered : ¬ Forgotten w c) (h : Closed w) : Closed (w.next c) := by
  have hc : Coherent (w.next c).receiver := next_coherent w.receiver c h.coherent
  cases next_sessionStep h.coherent c with
  | kept hactive hended =>
    have hsame := next_ended_of_kept hactive
    refine ⟨hc, ?_, ?_⟩
    · rw [hsame]
      exact hended.trans h.newest
    · rw [hsame]
      intro s hs heq
      exact h.inactive s hs (hactive.symm.trans heq)
  | lost hactive hnone hended =>
    rename_i s
    have hnow : (w.next c).ended = s :: w.ended := by
      unfold next
      simp [hactive, hnone]
    refine ⟨hc, ?_, ?_⟩
    · rw [hnow]
      exact hended
    · intro s' _ heq
      cases hnone.symm.trans heq
  | activated hcall hrole hbound hh hacks hnone hprepared hpressed hended hactive hsame =>
    rename_i q s peer nowMs hs
    subst hcall
    have hkept : (w.next (.control (.commit q s) peer nowMs)).ended = w.ended := by
      unfold next
      simp [hnone]
    refine ⟨hc, ?_, ?_⟩
    · rw [hkept]
      exact hsame.trans h.newest
    · rw [hkept]
      intro s' hs' heq
      obtain rfl : s = s' := Option.some.inj (hactive.symm.trans heq)
      -- the gate has refused the last one, and the older ones are forgotten
      rw [h.newest] at hended
      exact hremembered ⟨hrole, hbound, hnone, hprepared, hpressed, ⟨hs, hh, hacks⟩, hs', hended⟩

/-- **Ended sessions.**  In every run in which no `Commit` names a session which ended before the last one, every
session which has been active and ended stays ended. -/
theorem run_staysEnded (localBoot : BootId) (injector : Injector) (displayLayouts : List ReceiverDisplayLayout)
    (calls : List ReceiverCall)
    (hremembered : Meets next (fun w c => ¬ Forgotten w c)
      (start (newWithDisplayLayouts localBoot injector displayLayouts)) calls) :
    StaysEnded (run next (start (newWithDisplayLayouts localBoot injector displayLayouts)) calls) := by
  have hstart : Closed (start (newWithDisplayLayouts localBoot injector displayLayouts)) :=
    ⟨newWithDisplayLayouts_coherent _ _ _, rfl, fun s hs => (List.not_mem_nil hs).elim⟩
  exact (run_keeps (fun w c h hremembered => next_closed hremembered h) hstart hremembered).staysEnded

/-- One session, ended and followed by nothing but its own `Commit`: it stays ended. -/
theorem run_staysEnded_recommit :
    StaysEnded (run next (start Sample.receiver) [Sample.control Sample.hello,
      Sample.control (.prepare 1 "left" 1), Sample.control (.commit 1 (Sample.session 1)),
      Sample.control (.endSession (Sample.session 1) "local-return"),
      Sample.control (.prepare 2 "left" 1), Sample.control (.commit 2 (Sample.session 1))]) := by
  refine run_staysEnded _ _ _ _ ⟨id, id, ?_, id, id, ?_, trivial⟩
  · rintro ⟨-, -, -, -, -, -, hs, -⟩
    revert hs
    decide
  · rintro ⟨-, -, -, -, -, -, -, hnewest⟩
    revert hnewest
    decide

/-- Two sessions ended, and then a `Commit` of the older one: it is active again. -/
theorem not_staysEnded_older :
    let w := run next (start Sample.receiver) [Sample.control Sample.hello,
      Sample.control (.prepare 1 "left" 1), Sample.control (.commit 1 (Sample.session 1)),
      Sample.control (.endSession (Sample.session 1) "local-return"),
      Sample.control (.prepare 2 "left" 1), Sample.control (.commit 2 (Sample.session 2)),
      Sample.control (.endSession (Sample.session 2) "local-return"),
      Sample.control (.prepare 3 "left" 1), Sample.control (.commit 3 (Sample.session 1))]
    Sample.session 1 ∈ w.ended ∧ w.receiver.activeSession = some (Sample.session 1) ∧ ¬ StaysEnded w := by
  refine ⟨by decide, by decide, fun h => ?_⟩
  exact (h (Sample.session 1) (by decide)).1 (by decide)

end Remembered

end MyKvm.Receiver
