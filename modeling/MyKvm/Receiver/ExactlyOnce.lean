import MyKvm.Receiver.Chronicle

/-!
# MyKvm.Receiver.ExactlyOnce — every input event once, in order

The events of an activation are numbered `1, …, n`.  A repeated `Commit` leaves the count alone, and at the end of
the sequence numbers the gate refuses.  A `Pong` reports the count, unless the handshake is ahead of its receiver
(`HandshakeAhead`): it answers for a session which the receiver refused to activate, with whatever was counted
before.
-/

namespace MyKvm.Receiver

open MyKvm.Lib MyKvm.Protocol ReceiverSessionRuntime

/-- The handshake is active, and the receiver is not: it refused the `Commit` which its handshake had taken. -/
def HandshakeAhead (r : ReceiverSessionRuntime) : Prop :=
  r.activeSession = none ∧ ∃ h s, r.handshake = some h ∧ h.state = .active s

/-- The handshake belongs to a connection, and what it is active in is well formed. -/
def Vouched (r : ReceiverSessionRuntime) : Prop :=
  ∀ h, r.handshake = some h → r.binding.isSome ∧ ∀ s, h.state = .active s → s.Valid

section Vouched

variable {r r₁ : ReceiverSessionRuntime}

theorem Vouched.congr (hv : Vouched r) (hbinding : r₁.binding = r.binding)
    (hhandshake : r₁.handshake = r.handshake) :
    Vouched r₁ := by
  unfold Vouched
  rw [hbinding, hhandshake]
  exact hv

/-- The handshake moves on. -/
theorem Vouched.withHandshake {h : ReceiverHandshake} {state : ReceiverState} (hv : Vouched r)
    (hh : r.handshake = some h) (hstate : ∀ s, state = .active s → s.Valid) (hbinding : r₁.binding = r.binding)
    (hhandshake : r₁.handshake = some { h with state }) : Vouched r₁ := by
  intro h' hh'
  cases hhandshake.symm.trans hh'
  exact ⟨hbinding ▸ (hv h hh).1, hstate⟩

theorem ReleaseStep.binding {answer : Except SessionRuntimeError Unit} (hstep : ReleaseStep r (answer, r₁)) :
    r₁.binding = r.binding := by
  cases hstep <;> rfl

theorem FadeStep.vouched (hfade : FadeStep r r₁) (hv : Vouched r) : Vouched r₁ := by
  cases hfade with
  | kept hbinding _ _ hh _ _ _ => exact hv.congr hbinding hh
  | lost hbinding _ _ hh _ hh₁ _ _ => exact hv.withHandshake hh (by simp) hbinding hh₁

theorem ControlStep.vouched {frame : ControlFrame} {peer : AuthenticatedPeer} {nowMs : UInt64}
    {answer : Except SessionRuntimeError (Option ControlFrame)}
    (hstep : ControlStep r frame peer nowMs (answer, r₁)) (hv : Vouched r) : Vouched r₁ := by
  cases hstep with
  | refused _ _ => exact hv
  | helloFailed _ hrelease => exact hv.congr hrelease.binding hrelease.handshake
  | helloRefused _ hrelease => exact hv.congr hrelease.binding hrelease.handshake
  | greeted _ _ =>
    intro h hh
    cases hh
    exact ⟨rfl, by simp⟩
  | unready _ _ | unknownLayout _ _ _ | prepareRefused _ _ _ _ _ | recommitted _ _ => exact hv.congr rfl rfl
  | prepared _ _ _ hh _ => exact hv.withHandshake hh (by simp) rfl rfl
  | activated hbound hh hacks hnone hprepared hpressed hended =>
    rename_i q s h
    refine hv.withHandshake hh ?_ rfl rfl
    rintro s' heq
    cases heq
    rcases hacks with ⟨-, -, hvalid⟩ | hstate
    · exact hvalid
    · exact (hv h hh).2 s hstate
  | commitRefused haccepts hh _ _ =>
    refine hv.withHandshake hh ?_ rfl rfl
    rintro s' heq
    cases heq
    exact haccepts.2.2.2.2.1
  | ended _ _ hh hrelease => exact hv.withHandshake hh (by simp) hrelease.binding hrelease.handshake
  | endedIdle _ _ hh _ hrelease => exact hv.withHandshake hh (by simp) hrelease.binding hrelease.handshake
  | ponged hbound hh hstate =>
    rename_i s sequence h
    have hsame := touch_sessionPart (r := r) (.ping s sequence) nowMs
    simp only [sessionPart, Prod.mk.injEq] at hsame
    exact hv.congr hsame.1 hsame.2.2.2.1

theorem next_vouched (hc : Coherent r) (c : ReceiverCall) (hv : Vouched r) : Vouched (r.next c) := by
  by_cases hcontrol : ∃ frame peer nowMs, c = .control frame peer nowMs
  · obtain ⟨frame, peer, nowMs, rfl⟩ := hcontrol
    exact ControlStep.vouched (handleControlAt_cases hc frame peer nowMs) hv
  · push Not at hcontrol
    exact (next_fades hc hcontrol).vouched hv

end Vouched

/-- A `Ping` of the bound controller for the session of an active handshake is answered. -/
theorem handleControlAt_ping {r : ReceiverSessionRuntime} {h : ReceiverHandshake} {s : SessionId}
    {peer : AuthenticatedPeer} (hbound : r.binding = some peer) (hrole : peer.role = .controller)
    (hh : r.handshake = some h) (hstate : h.state = .active s) (hvalid : s.Valid) (sequence nowMs : UInt64) :
    (r.handleControlAt (.ping s sequence) peer nowMs).1 =
      .ok (some (.pong s sequence r.highestAppliedSequence)) := by
  have hframe : validateFrame (.ping s sequence) = .ok () := validateSession_eq_ok.mpr hvalid
  have hhandle : h.handle (.ping s sequence) = (.ok (some (.pong s sequence 0)), h) := by
    simp [ReceiverHandshake.handle, hframe, ReceiverHandshake.transition, hstate]
  simp [handleControlAt, hrole, hbound, commitsUnprepared, prepareDisplay, handleBound, hh, hhandle, finishControl,
    activateSession, endSession, stampPong]

namespace Chronicle

/-- **A `Pong` is exact**: it speaks of the active session, and reports how many events were applied in it. -/
def PongExact (w : Chronicle) : Prop :=
  ∀ frame peer nowMs s sequence highest,
    (w.receiver.handleControlAt frame peer nowMs).1 = .ok (some (.pong s sequence highest)) →
      w.receiver.activeSession = some s ∧ highest.toNat = w.applied.length

section ExactlyOnce

variable {w : Chronicle}

theorem Kept.applied_length (h : Kept w) (hsome : w.receiver.activeSession.isSome) :
    w.applied.length = w.receiver.highestAppliedSequence.toNat := (h.logged.tracks hsome).count

/-- A repeated `Commit` keeps the count. -/
theorem Kept.recommit (h : Kept w) {q : UInt64} {s : SessionId} (peer : AuthenticatedPeer) (nowMs : UInt64)
    (hactive : w.receiver.activeSession = some s) :
    (w.next (.control (.commit q s) peer nowMs)).log = w.log ∧
      (w.next (.control (.commit q s) peer nowMs)).receiver.activeSession = some s ∧
      (w.next (.control (.commit q s) peer nowMs)).receiver.highestAppliedSequence =
        w.receiver.highestAppliedSequence ∧
      (w.next (.control (.commit q s) peer nowMs)).receiver.inputGate = w.receiver.inputGate := by
  have hnext : w.next (.control (.commit q s) peer nowMs) =
      { w with receiver := (w.receiver.handleControlAt (.commit q s) peer nowMs).2 } := by
    unfold next
    rw [if_neg (by simp [hactive])]
    rfl
  rw [hnext]
  have hstep := handleControlAt_cases h.coherent (.commit q s) peer nowMs
  generalize w.receiver.handleControlAt (.commit q s) peer nowMs = out at hstep ⊢
  cases hstep with
  | refused _ _ => exact ⟨rfl, hactive, rfl, rfl⟩
  | activated _ _ _ hnone _ _ _ => cases hactive.symm.trans hnone
  | commitRefused _ _ hnone _ => cases hactive.symm.trans hnone
  | recommitted _ _ => exact ⟨rfl, hactive, rfl, rfl⟩

/-- At the last sequence number the gate refuses everything. -/
theorem Kept.exhausted (h : Kept w) (hlast : w.applied.length + 2 = 2 ^ 64)
    (hsome : w.receiver.activeSession.isSome) (frame : CriticalFrame) (peer : AuthenticatedPeer) (nowMs : UInt64) :
    ∃ e, w.receiver.handleInputAt frame peer nowMs = (.error e, w.receiver) := by
  have hstep := handleInputAt_cases h.coherent frame peer nowMs
  rw [h.applied_length hsome] at hlast
  have himpossible : ∀ {mapped pointer}, Admitted w.receiver frame peer mapped pointer →
      frame.sequence.toNat + 1 = 2 ^ 64 := by
    intro mapped pointer hadmitted
    rw [← h.lockstep.gate _ _ hadmitted.gate]
    exact hlast
  generalize hout : w.receiver.handleInputAt frame peer nowMs = out at hstep ⊢
  cases hstep with
  | refused _ => exact ⟨_, rfl⟩
  | failed hadmitted _ _ _ =>
    exfalso
    -- the gate has no following sequence to offer
    have hlastFrame := himpossible hadmitted
    rcases w.receiver.inputGate.accept_cases frame with ⟨e, heq⟩ | ⟨next, -, -, hnext, -⟩
    · unfold handleInputAt at hout
      rw [if_neg (by simp [hadmitted.bound, hadmitted.role]), if_neg (by simp [hadmitted.fresh]),
        hadmitted.mapped] at hout
      dsimp only at hout
      rw [heq] at hout
      cases hout
    · have hlt := toNat_lt_size next
      omega
  | applied hadmitted hsubmit hnext hflush =>
    rename_i mapped pointer i next
    have hlastFrame := himpossible hadmitted
    have hlt := toNat_lt_size next
    omega

/-- **A `Pong` is exact unless the handshake is ahead.** -/
theorem Kept.pongExact_iff (h : Kept w) (hv : Vouched w.receiver) : PongExact w ↔ ¬ HandshakeAhead w.receiver := by
  constructor
  · rintro hexact ⟨hnone, handshake, s, hh, hstate⟩
    obtain ⟨hbinding, hvalid⟩ := hv handshake hh
    obtain ⟨peer, hbound⟩ := Option.isSome_iff_exists.mp hbinding
    have hpong := handleControlAt_ping hbound (h.lockstep.role peer hbound) hh hstate (hvalid s hstate) 1 0
    have hactive := (hexact _ _ _ _ _ _ hpong).1
    rw [hnone] at hactive
    cases hactive
  · intro hahead frame peer nowMs s sequence highest hpong
    have hstep := handleControlAt_cases h.coherent frame peer nowMs
    generalize w.receiver.handleControlAt frame peer nowMs = out at hstep hpong
    cases hstep with
    | ponged hbound hh hstate =>
      rename_i handshake
      cases hpong
      have hactive : w.receiver.activeSession = some s := by
        rcases Option.eq_none_or_eq_some w.receiver.activeSession with hnone | ⟨s', hactive⟩
        · exact absurd ⟨hnone, handshake, s, hh, hstate⟩ hahead
        · exact hactive.trans (congrArg some (h.coherent.eq_of_active hh hstate hactive))
      exact ⟨hactive, (h.applied_length (Option.isSome_iff_exists.mpr ⟨s, hactive⟩)).symm⟩
    | ended hbound hactive hh hrelease =>
      rename_i s' reason handshake answer r₁
      cases answer <;> cases hpong
    | endedIdle hbound hnone hh hstate hrelease =>
      rename_i s' reason handshake answer r₁
      cases answer <;> cases hpong
    | _ => cases hpong

end ExactlyOnce

/-- **Exactly once.**  In every run, of the newest activation: the applied events are those of its session,
numbered `1, …, n` in this order; a `Commit` of the active session leaves the log, the counter and the gate alone;
after `2 ^ 64 - 2` events every input frame is refused and changes nothing; and every `Pong` speaks of the active
session and reports `n`, if and only if the handshake is not ahead of the receiver. -/
theorem exactly_once (localBoot : BootId) (injector : Injector) (displayLayouts : List ReceiverDisplayLayout)
    (calls : List ReceiverCall) :
    let w := run next (start (newWithDisplayLayouts localBoot injector displayLayouts)) calls
    (∀ event ∈ w.applied, w.session = some event.frame.sessionId) ∧
      w.applied.reverse.map (·.frame.sequence.toNat) = List.range' 1 w.applied.length ∧
      (∀ q s peer nowMs, w.receiver.activeSession = some s →
        let w' := w.next (.control (.commit q s) peer nowMs)
        w'.log = w.log ∧ w'.receiver.activeSession = some s ∧
          w'.receiver.highestAppliedSequence = w.receiver.highestAppliedSequence ∧
          w'.receiver.inputGate = w.receiver.inputGate) ∧
      (w.receiver.activeSession.isSome → w.applied.length + 2 = 2 ^ 64 → ∀ frame peer nowMs,
        ∃ e, w.receiver.handleInputAt frame peer nowMs = (.error e, w.receiver)) ∧
      (PongExact w ↔ ¬ HandshakeAhead w.receiver) := by
  intro w
  have hkept : Kept w := run_kept localBoot injector displayLayouts calls
  have hvouched : Vouched w.receiver := by
    have hrun : w.receiver =
      run ReceiverSessionRuntime.next (newWithDisplayLayouts localBoot injector displayLayouts) calls :=
      run_receiver _ calls
    rw [hrun]
    refine (run_invariant (I := fun r => Coherent r ∧ Vouched r) ?_ ?_ calls).2
    · rintro r c ⟨hc, hv⟩
      exact ⟨next_coherent r c hc, next_vouched hc c hv⟩
    · refine ⟨newWithDisplayLayouts_coherent _ _ _, ?_⟩
      rintro h ⟨⟩
  exact ⟨hkept.logged.frames, hkept.logged.lawful.numbers, fun q s peer nowMs => hkept.recommit peer nowMs,
    fun hsome hlast => hkept.exhausted hlast hsome, hkept.pongExact_iff hvouched⟩

/-- The first session applies one event; its release fails, so the `Commit` of the second one is
refused.  The handshake took it all the same, and answers a `Ping` of the session which never was active
with the count of the first. -/
theorem not_pongExact_refused :
    let w := run next (start (.newWithDisplayLayouts (Sample.boot 2)
        { answers := [.ok (), .ok (), .ok (), .error .unavailable], posted := [] } [Sample.layout "left"]))
      (Sample.opening 3 ++ [.input ⟨Sample.session 3, 1, .key 65 30 false true⟩ Sample.peer 0,
        Sample.control (.endSession (Sample.session 3) "user"), Sample.control (.prepare 8 "left" 1),
        Sample.control (.commit 8 (Sample.session 4))])
    w.session = some (Sample.session 3) ∧ w.receiver.activeSession = none ∧
      (w.receiver.handleControlAt (.ping (Sample.session 4) 1) Sample.peer 0).1 =
        .ok (some (.pong (Sample.session 4) 1 1)) ∧ ¬ PongExact w := by
  refine ⟨by decide +kernel, by decide +kernel, by decide +kernel, fun hexact => ?_⟩
  have hactive := (hexact (.ping (Sample.session 4) 1) Sample.peer 0 (Sample.session 4) 1 1 (by decide +kernel)).1
  revert hactive
  decide +kernel

end Chronicle

end MyKvm.Receiver
