import MyKvm.Receiver.Ended

/-!
# MyKvm.Receiver.Late — late events of an old session

Two sessions, one after the other, on one connection.  The frames of the old one name it, and are refused.  The
closing of its input stream names the connection only: the receiver takes it for the stream of the session which is
active now.
-/

namespace MyKvm.Receiver

open MyKvm.Lib MyKvm.Protocol ReceiverSessionRuntime

/-- The events of the session `s` on the connection of `peer`: its frames, and the closing of the input stream. -/
def BelongsTo (peer : AuthenticatedPeer) (s : SessionId) : ReceiverCall → Prop
  | .control (.endSession s' _) _ _ => s' = s
  | .control (.ping s' _) _ _ => s' = s
  | .control (.commit _ s') _ _ => s' = s
  | .input frame _ _ => frame.sessionId = s
  | .motion frame _ _ => frame.sessionId = s
  | .streamClosed p => p = peer
  | _ => False

/-- The session goes on with its gate, display, ledger and binding, and nothing was injected. -/
structure Spared (r r₁ : ReceiverSessionRuntime) : Prop where
  session : r₁.activeSession = r.activeSession
  gate : r₁.inputGate = r.inputGate
  display : r₁.activeDisplay = r.activeDisplay
  ledger : r₁.pressed = r.pressed
  binding : r₁.binding = r.binding
  posted : r₁.injector.posted = r.injector.posted

theorem Spared.refl (r : ReceiverSessionRuntime) : Spared r r := ⟨rfl, rfl, rfl, rfl, rfl, rfl⟩

section Late

variable {r r₁ : ReceiverSessionRuntime} {s₁ s₂ : SessionId}

/-- A control frame of another session changes nothing. -/
theorem ControlStep.late {frame : ControlFrame} {peer : AuthenticatedPeer} {nowMs : UInt64}
    {answer : Except SessionRuntimeError (Option ControlFrame)}
    (hstep : ControlStep r frame peer nowMs (answer, r₁))
    (hc : Coherent r) (hactive : r.activeSession = some s₂) (hne : s₁ ≠ s₂)
    (hframe : (∃ reason, frame = .endSession s₁ reason) ∨ (∃ sequence, frame = .ping s₁ sequence) ∨
      ∃ q, frame = .commit q s₁) : r₁ = r := by
  rcases hframe with ⟨reason, rfl⟩ | ⟨sequence, rfl⟩ | ⟨q, rfl⟩
  · cases hstep with
    | refused _ _ => rfl
    | ended _ hactive₁ _ _ => exact absurd (Option.some.inj (hactive₁.symm.trans hactive)) hne
    | endedIdle _ hnone _ _ _ => cases hactive.symm.trans hnone
  · cases hstep with
    | refused _ _ => rfl
    | ponged _ hh hstate => exact absurd (hc.eq_of_active hh hstate hactive).symm hne
  · cases hstep with
    | refused _ _ => rfl
    | activated _ _ _ hnone _ _ _ => cases hactive.symm.trans hnone
    | commitRefused _ _ hnone _ => cases hactive.symm.trans hnone
    | recommitted _ hactive₁ => exact absurd (Option.some.inj (hactive₁.symm.trans hactive)) hne

/-- **A frame of another session changes nothing.** -/
theorem next_late (hc : Coherent r) {peer : AuthenticatedPeer} {c : ReceiverCall}
    (hactive : r.activeSession = some s₂)
    (hne : s₁ ≠ s₂) (hlate : BelongsTo peer s₁ c) (hstream : c ≠ .streamClosed peer) : r.next c = r := by
  have hother : r.activeSession ≠ some s₁ := by
    rw [hactive]
    exact fun heq => hne (Option.some.inj heq).symm
  cases c with
  | control frame p nowMs =>
    have hstep : ControlStep r frame p nowMs ((r.handleControlAt frame p nowMs).1,
      r.next (.control frame p nowMs)) :=
      handleControlAt_cases hc frame p nowMs
    refine hstep.late hc hactive hne ?_
    cases frame with
    | endSession s reason => exact Or.inl ⟨reason, by rw [show s = s₁ from hlate]⟩
    | ping s sequence => exact Or.inr (Or.inl ⟨sequence, by rw [show s = s₁ from hlate]⟩)
    | commit q s => exact Or.inr (Or.inr ⟨q, by rw [show s = s₁ from hlate]⟩)
    | _ => exact hlate.elim
  | input frame p nowMs =>
    obtain rfl : frame.sessionId = s₁ := hlate
    exact handleInputAt_other hc hother p nowMs
  | motion frame p nowMs =>
    obtain rfl : frame.sessionId = s₁ := hlate
    exact handleMotionAt_other hc hother p nowMs
  | streamClosed p => exact absurd (congrArg ReceiverCall.streamClosed hlate) hstream
  | expire _ | layouts _ | modifiers _ _ _ _ => exact hlate.elim

/-- **The closing of a stream** of the bound connection ends whatever session is active. -/
theorem next_streamClosed {peer : AuthenticatedPeer} (hactive : r.activeSession = some s₂)
    (hbound : r.binding = some peer) : (r.next (.streamClosed peer)).activeSession = none := by
  have hnext : r.next (.streamClosed peer) = (r.loseSession s₂ .inputStreamClosed).2 := by
    unfold next inputStreamClosed
    simp [hbound, hactive]
  rw [hnext]
  exact loseSession_activeSession r s₂ .inputStreamClosed

end Late

section Runs

variable (localBoot : BootId) (injector : Injector) (displayLayouts : List ReceiverDisplayLayout)

/-- **Late events.**  In every run with an active session `s₂` on the connection of `peer`: an event of another
session spares it, whenever it comes, if and only if it is not the closing of the input stream. -/
theorem late_events_spared (calls : List ReceiverCall) (s₁ s₂ : SessionId) (peer : AuthenticatedPeer)
    (c : ReceiverCall)
    (hactive : (run next (newWithDisplayLayouts localBoot injector displayLayouts) calls).activeSession = some s₂)
    (hbound : (run next (newWithDisplayLayouts localBoot injector displayLayouts) calls).binding = some peer)
    (hne : s₁ ≠ s₂) (hlate : BelongsTo peer s₁ c) :
    let r := run next (newWithDisplayLayouts localBoot injector displayLayouts) calls
    Spared r (r.next c) ↔ c ≠ .streamClosed peer := by
  intro r
  have hc : Coherent r := run_coherent localBoot injector displayLayouts calls
  constructor
  · rintro hspared rfl
    have hlost := next_streamClosed hactive hbound
    rw [hspared.session] at hlost
    cases hactive.symm.trans hlost
  · intro hstream
    rw [next_late hc hactive hne hlate hstream]
    exact Spared.refl r

end Runs

/-- Two sessions on one connection, the first one ended. -/
def Sample.twoSessions : List ReceiverCall :=
  [control hello, control (.prepare 7 "left" 1), control (.commit 7 (session 3)),
    control (.endSession (session 3) "user"), control (.prepare 8 "left" 1), control (.commit 8 (session 4))]

/-- The `EndSession` of the first one comes again. -/
theorem late_events_spared_endSession :
    let r := run next Sample.receiver Sample.twoSessions
    let late := ReceiverCall.control (.endSession (Sample.session 3) "user") Sample.peer 0
    Spared r (r.next late) ↔ late ≠ .streamClosed Sample.peer := by
  unfold Sample.receiver
  exact late_events_spared _ _ _ Sample.twoSessions (Sample.session 3) (Sample.session 4) Sample.peer _
    (by decide +kernel) (by decide +kernel) (by decide) rfl

/-- The input stream of the first one closes: the second session is lost. -/
theorem not_spared_streamClosed :
    let w := run Remembered.next (.start Sample.receiver) Sample.twoSessions
    Sample.session 3 ∈ w.ended ∧ w.receiver.activeSession = some (Sample.session 4) ∧
      BelongsTo Sample.peer (Sample.session 3) (.streamClosed Sample.peer) ∧
      (w.receiver.next (.streamClosed Sample.peer)).activeSession = none ∧
      ¬ Spared w.receiver (w.receiver.next (.streamClosed Sample.peer)) := by
  refine ⟨by decide +kernel, by decide +kernel, rfl, by decide +kernel, fun h => ?_⟩
  have hsession := h.session
  revert hsession
  decide +kernel

end MyKvm.Receiver
