import MyKvm.Controller.Runtime

/-!
# MyKvm.Controller.Stages — the stages of a handover

The router, the handshake and the pending fields of the controller advance together, through five stages.  `Fits`
says that a controller is at a stage, and `ControllerStep` is the machine of the stages: everything a call can do,
to the stage, to the world and in its answer.

`exec_cases`: every call of a controller which is at a stage is a step of this machine, and leaves it at the next
stage.
-/

namespace MyKvm.Controller

open MyKvm.Lib MyKvm.Protocol MyKvm.Routing

inductive Stage where
  | home
  | awaitReady (request : UInt64) (display : String × UInt64)
  | ready (request : UInt64) (session : SessionId) (display : String × UInt64)
  | committed (request : UInt64) (session : SessionId) (display : String × UInt64)
  | active (session : SessionId) (display : String × UInt64)
  deriving DecidableEq

namespace Stage

/-- The session which was drawn. -/
def session : Stage → Option SessionId
  | .home | .awaitReady _ _ => none
  | .ready _ s _ | .committed _ s _ | .active s _ => some s

def activeSession : Stage → Option SessionId
  | .active s _ => some s
  | _ => none

/-- The router is preparing for the request. -/
def request : Stage → Option UInt64
  | .home | .active _ _ => none
  | .awaitReady q _ | .ready q _ _ | .committed q _ _ => some q

/-- What a return asks for: only an active session is ended. -/
def farewell (reason : String) : Stage → List ControllerAction
  | .home => []
  | .active s _ => [.sendControl (.endSession s reason), .closeInput]
  | _ => [.closeInput]

end Stage

namespace ControllerRuntime

/-- The parts of the controller are at the stage. -/
def Matches (c : ControllerRuntime) : Stage → Prop
  | .home => c.router.state.isLocal = true ∧ (c.handshake.state = .idle ∨ c.handshake.state = .ended) ∧
      c.pendingRequest = none ∧ c.pendingSession = none ∧ c.inputSequence = 0 ∧ c.motionSequence = 0
  | .awaitReady q d => ∃ p, c.router.state = .preparingRemote p ∧ p.request = q ∧ p.session = none ∧
      p.commitSent = false ∧ c.handshake.state = .awaitReady q d.1 d.2 ∧ c.pendingRequest = none ∧
      c.pendingSession = none ∧ c.display = some d
  | .ready q s d => ∃ p, c.router.state = .preparingRemote p ∧ p.request = q ∧ p.session = some (sessionToken s) ∧
      p.commitSent = false ∧ c.handshake.state = .ready q s ∧ c.pendingRequest = some q ∧
      c.pendingSession = some s ∧ c.display = some d
  | .committed q s d => ∃ p, c.router.state = .preparingRemote p ∧ p.request = q ∧
      p.session = some (sessionToken s) ∧ p.commitSent = true ∧ c.handshake.state = .awaitCommitAck s ∧
      c.pendingRequest = some q ∧ c.pendingSession = some s ∧ c.display = some d
  | .active s d => (∃ peer, c.router.state = .remoteActive peer (sessionToken s)) ∧ c.handshake.state = .active s ∧
      c.pendingRequest = none ∧ c.pendingSession = some s ∧ c.display = some d

/-- The controller with this identity. -/
structure Owned (boot : BootId) (localPeerId : String) (c : ControllerRuntime) : Prop where
  bootSet : boot.bytes ≠ zero16
  localBoot : c.handshake.localBoot = boot
  localPeerId : c.handshake.localPeerId = localPeerId

/-- The identity of a controller is its handshake's. -/
theorem Owned.carry {boot : BootId} {localPeerId : String} {c' : ControllerRuntime} (h : Owned boot localPeerId c)
    (hboot : c'.handshake.localBoot = c.handshake.localBoot)
    (hpeer : c'.handshake.localPeerId = c.handshake.localPeerId) : Owned boot localPeerId c' :=
  ⟨h.bootSet, hboot.trans h.localBoot, hpeer.trans h.localPeerId⟩

/-- The controller with this identity is at the stage, and the session is well formed. -/
structure Fits (boot : BootId) (localPeerId : String) (c : ControllerRuntime) (st : Stage) : Prop where
  owned : Owned boot localPeerId c
  session : ∀ s, st.session = some s → s.Valid ∧ s.controllerBoot = boot
  stage : c.Matches st

end ControllerRuntime

open ControllerRuntime

/-- A `CommitAck` which finds no pending request; the source answers it without returning to the local machine. -/
def Unpaired (st : Stage) (frame : ControlFrame) : Prop :=
  (∃ s, frame = .commitAck s) ∧ (st.request = none ∨ st.session = none)

section ControllerStep

variable {ν : Type}

/-- The machine of the stages. -/
inductive ControllerStep (boot : BootId) (localPeerId : String) (w : World ν) : Stage → ControllerCall →
    Except ControllerRuntimeError (List ControllerAction) × Stage × World ν → Prop
  | stays {st : Stage} {call : ControllerCall} {w' : World ν} : w.Drifts w' → (∀ reason, call ≠ .goLocal reason) →
      (∀ s nowMs, call ≠ .control (.commitAck s) nowMs) →
      ControllerStep boot localPeerId w st call (.ok [], st, w')
  | pinged {s : SessionId} {d : String × UInt64} {sequence : UInt64} :
      ControllerStep boot localPeerId w (.active s d) .ping (.ok [.sendControl (.ping s sequence)], .active s d, w)
  | refused {st : Stage} {call : ControllerCall} {e : ControllerRuntimeError} {w' : World ν} : w.Drifts w' →
      (∀ frame nowMs, call = .control frame nowMs → e = .notActive ∧ Unpaired st frame) →
      (∀ nowMs keysReleased, call ≠ .advance nowMs keysReleased) → (∀ reason, call ≠ .goLocal reason) →
      ControllerStep boot localPeerId w st call (.error e, st, w')
  | failed {peerId targetDisplay : String} {layoutRevision nowMs n : UInt64} {e : ControllerRuntimeError}
      {w₁ w' : World ν} : w.Reserves n w₁ → w₁.Drifts w' → w'.gate.isLocal = true →
      ControllerStep boot localPeerId w .home (.begin peerId targetDisplay layoutRevision nowMs)
        (.error e, .home, w')
  | begun {peerId targetDisplay : String} {layoutRevision nowMs q : UInt64} {w₁ w' : World ν} :
      w.Reserves q w₁ → w₁.Drifts w' →
      ControllerStep boot localPeerId w .home (.begin peerId targetDisplay layoutRevision nowMs)
        (.ok [.sendControl (.hello boot localPeerId .controller requiredCapabilities),
          .sendControl (.prepare q targetDisplay layoutRevision)],
            .awaitReady q (targetDisplay, layoutRevision), w')
  | readied {q nowMs : UInt64} {s : SessionId} {d : String × UInt64} {w' : World ν} : w.Draws s.nonce w' →
      ControllerStep boot localPeerId w (.awaitReady q d) (.control (.ready q s.receiverBoot true d.1 d.2) nowMs)
        (.ok [], .ready q s d, w')
  | committed {q nowMs : UInt64} {keysReleased : Bool} {s : SessionId} {d : String × UInt64} {w' : World ν} :
      w.Drifts w' → ControllerStep boot localPeerId w (.ready q s d) (.advance nowMs keysReleased)
        (.ok [.sendControl (.commit q s)], .committed q s d, w')
  | opened {q nowMs : UInt64} {s : SessionId} {d : String × UInt64} {w' : World ν} : w.Captures q w' →
      ControllerStep boot localPeerId w (.committed q s d) (.control (.commitAck s) nowMs)
        (.ok [.openInput s], .active s d, w')
  | ackFailed {q nowMs : UInt64} {s : SessionId} {d : String × UInt64} {w' : World ν} : w.Drifts w' →
      w'.gate.isLocal = true →
      ControllerStep boot localPeerId w (.committed q s d) (.control (.commitAck s) nowMs)
        (.ok [.sendControl (.endSession s "late-or-cancelled-ack"), .closeInput], .home, w')
  | rejected {st : Stage} {frame : ControlFrame} {nowMs : UInt64} {e : ControllerRuntimeError} {w' : World ν} :
      w.Drifts w' → w'.gate.isLocal = true →
      ControllerStep boot localPeerId w st (.control frame nowMs) (.error e, .home, w')
  | left {st : Stage} {call : ControllerCall} {reason : ReturnReason} {w' : World ν} : st ≠ .home →
      ((∃ nowMs keysReleased, call = .advance nowMs keysReleased) ∨ ∃ r, call = .goLocal r) →
      w.Drifts w' → w'.gate.isLocal = true →
      ControllerStep boot localPeerId w st call (.ok (st.farewell (returnReason reason)), .home, w')
  | returned {reason : ReturnReason} {w' : World ν} : w.Drifts w' → w'.gate.isLocal = true →
      ControllerStep boot localPeerId w .home (.goLocal reason) (.ok [], .home, w')

/-- The call is a step of the machine, and leaves the controller at the next stage. -/
def Steps (boot : BootId) (localPeerId : String) (st : Stage) (call : ControllerCall) (w : World ν)
    (out : Answer ν) : Prop :=
  ∃ st', ControllerStep boot localPeerId w st call (out.1, st', out.2.2) ∧ Fits boot localPeerId out.2.1 st'

variable {boot : BootId} {localPeerId : String} {c : ControllerRuntime} {st : Stage}

/-- No call of the controller writes a note. -/
theorem ControllerStep.notes {w w' : World ν} {st' : Stage} {call : ControllerCall}
    {answer : Except ControllerRuntimeError (List ControllerAction)}
    (hstep : ControllerStep boot localPeerId w st call (answer, st', w')) : w'.notes = w.notes := by
  cases hstep with
  | stays hdrift _ _ | refused hdrift _ _ _ | committed hdrift | ackFailed hdrift _ | rejected hdrift _
  | left _ _ hdrift _ | returned hdrift _ => exact hdrift.notes
  | pinged => rfl
  | failed hreserves hdrift _ | begun hreserves hdrift => exact hdrift.notes.trans hreserves.notes
  | readied hdraws => exact hdraws.drifts.notes
  | opened hcaptures => exact hcaptures.notes

/-- No call takes the gate back. -/
theorem ControllerStep.generation_le {w w' : World ν} {st' : Stage} {call : ControllerCall}
    {answer : Except ControllerRuntimeError (List ControllerAction)}
    (hstep : ControllerStep boot localPeerId w st call (answer, st', w')) :
    w.gate.generation ≤ w'.gate.generation := by
  cases hstep with
  | stays hdrift _ _ | refused hdrift _ _ _ | committed hdrift | ackFailed hdrift _ | rejected hdrift _
  | left _ _ hdrift _ | returned hdrift _ => exact hdrift.generation_le
  | pinged => exact le_refl _
  | failed hreserves hdrift _ | begun hreserves hdrift =>
    have hfresh := hreserves.fresh
    have hle := hdrift.generation_le
    omega
  | readied hdraws => exact hdraws.drifts.generation_le
  | opened hcaptures => exact hcaptures.generation_le

/-! ### The stage of a state -/

theorem ControllerRuntime.Fits.isLocal_iff (h : Fits boot localPeerId c st) :
    c.router.state.isLocal = true ↔ st = .home := by
  have hstage := h.stage
  cases st with
  | home => simpa using hstage.1
  | awaitReady q d | ready q s d | committed q s d =>
    obtain ⟨p, hstate, -⟩ := hstage
    simp [hstate]
  | active s d =>
    obtain ⟨⟨peer, hstate⟩, -⟩ := hstage
    simp [hstate]

theorem ControllerRuntime.Fits.of_awaitReady {q rev : UInt64} {display : String} (h : Fits boot localPeerId c st)
    (hstate : c.handshake.state = .awaitReady q display rev) : st = .awaitReady q (display, rev) := by
  have hstage := h.stage
  cases st with
  | home => rcases hstage.2.1 with heq | heq <;> cases hstate.symm.trans heq
  | awaitReady q' d =>
    obtain ⟨p, -, -, -, -, heq, -⟩ := hstage
    cases hstate.symm.trans heq
    rfl
  | ready q' s d | committed q' s d =>
    obtain ⟨p, -, -, -, -, heq, -⟩ := hstage
    cases hstate.symm.trans heq
  | active s d => cases hstate.symm.trans hstage.2.1

theorem ControllerRuntime.Fits.of_awaitCommitAck {s : SessionId} (h : Fits boot localPeerId c st)
    (hstate : c.handshake.state = .awaitCommitAck s) : ∃ q d, st = .committed q s d := by
  have hstage := h.stage
  cases st with
  | home => rcases hstage.2.1 with heq | heq <;> cases hstate.symm.trans heq
  | committed q' s' d =>
    obtain ⟨p, -, -, -, -, heq, -⟩ := hstage
    cases hstate.symm.trans heq
    exact ⟨q', d, rfl⟩
  | awaitReady q' d | ready q' s d =>
    obtain ⟨p, -, -, -, -, heq, -⟩ := hstage
    cases hstate.symm.trans heq
  | active s d => cases hstate.symm.trans hstage.2.1

theorem ControllerRuntime.Fits.of_active {s : SessionId} (h : Fits boot localPeerId c st)
    (hstate : c.handshake.state = .active s) : ∃ d, st = .active s d := by
  have hstage := h.stage
  cases st with
  | home => rcases hstage.2.1 with heq | heq <;> cases hstate.symm.trans heq
  | active s' d =>
    cases hstate.symm.trans hstage.2.1
    exact ⟨d, rfl⟩
  | awaitReady q' d | ready q' s d | committed q' s d =>
    obtain ⟨p, -, -, -, -, heq, -⟩ := hstage
    cases hstate.symm.trans heq

theorem ControllerRuntime.Fits.activeSession (h : Fits boot localPeerId c st) :
    c.handshake.activeSession = st.activeSession := by
  cases hactive : c.handshake.activeSession with
  | some s =>
    obtain ⟨d, rfl⟩ := h.of_active (ControllerHandshake.activeSession_eq_some.mp hactive)
    rfl
  | none =>
    cases st with
    | active s d =>
      rw [ControllerHandshake.activeSession_eq_some.mpr h.stage.2.1] at hactive
      cases hactive
    | _ => rfl

/-! ### Coming home -/

/-- A controller whose router is local, whose handshake rests and which has nothing pending. -/
theorem fits_home (howned : Owned boot localPeerId c) (hrouter : c.router.state.isLocal = true)
    (hstate : c.handshake.state = .idle ∨ c.handshake.state = .ended) (hrequest : c.pendingRequest = none)
    (hsession : c.pendingSession = none) (hinput : c.inputSequence = 0) (hmotion : c.motionSequence = 0) :
    Fits boot localPeerId c .home :=
  ⟨howned, by simp [Stage.session], hrouter, hstate, hrequest, hsession, hinput, hmotion⟩

theorem failLocal_fits (howned : Owned boot localPeerId c) (w : World ν) :
    Fits boot localPeerId (c.failLocal w).1 .home :=
  fits_home (howned.carry rfl rfl) (c.router.returned_isLocal _) (Or.inr rfl) rfl rfl rfl rfl

/-- A control frame which fails brings the controller home. -/
theorem failWith_steps {w w' : World ν} (howned : Owned boot localPeerId c) (hdrift : w.Drifts w')
    (e : ControllerRuntimeError) (frame : ControlFrame) (nowMs : UInt64) :
    Steps boot localPeerId st (.control frame nowMs) w (c.failWith e w') :=
  ⟨.home, .rejected (hdrift.trans (c.router.goLocal_drifts .networkFailed w'))
    (c.router.goLocal_gate .networkFailed w'), failLocal_fits howned w'⟩

/-! ### Control frames -/

theorem handleReady_steps (h : Fits boot localPeerId c st) (q rev nowMs : UInt64) (receiverBoot : BootId)
    (inputReady : Bool) (display : String) (w : World ν) :
    Steps boot localPeerId st (.control (.ready q receiverBoot inputReady display rev) nowMs) w
      (c.handleReady (.ready q receiverBoot inputReady display rev) w) := by
  have hstep := c.handshake.handle_cases (.ready q receiverBoot inputReady display rev) w
  unfold handleReady
  cases hout : c.handshake.handle (.ready q receiverBoot inputReady display rev) w with
  | mk answer out =>
  rw [hout] at hstep
  cases hstep with
  | refused _ e hdrift => exact failWith_steps h.owned hdrift _ _ nowMs
  | readied hstate hboot hreceiver hnonce hdraws =>
    rename_i s w₁
    obtain rfl := h.of_awaitReady hstate
    obtain ⟨p, hrouter, hq, hsession, hsent, hawait, hrequest, hpending, hdisplay⟩ := h.stage
    have howned : Owned boot localPeerId { c with
        handshake := { c.handshake with state := .ready q s }, pendingRequest := some q,
          pendingSession := some s } :=
      h.owned.carry rfl rfl
    dsimp only [ControllerHandshake.preparedSession]
    have hready := c.router.ready_cases q (sessionToken s) w₁
    cases hrout : c.router.ready q (sessionToken s) w₁ with
    | mk answer out =>
    rw [hrout] at hready
    cases hready with
    | stale hdrift =>
      have hsame : Owned boot localPeerId { c with
        router := c.router, handshake := { c.handshake with state := .ready q s }, pendingRequest := some q,
          pendingSession := some s } :=
        howned
      exact failWith_steps hsame (hdraws.drifts.trans hdrift) _ _ nowMs
    | accepted hrouter' _ _ _ hdrift _ =>
      cases hrouter.symm.trans hrouter'
      refine ⟨.ready q s (display, rev), .readied (d := (display, rev)) (hdraws.trans_drifts hdrift), ?_, ?_, ?_⟩
      · exact h.owned.carry rfl rfl
      · rintro s' ⟨⟩
        have hown : s.controllerBoot = boot := hboot.trans h.owned.localBoot
        exact ⟨⟨by rw [hown]; exact h.owned.bootSet, hreceiver, hnonce⟩, hown⟩
      · exact ⟨_, rfl, hq, rfl, hsent, rfl, rfl, rfl, hdisplay⟩

theorem endAfterFailedAck_eq {s : SessionId} (hstate : c.handshake.state = .active s) (hs : s.Valid)
    (w : World ν) :
    c.endAfterFailedAck w = ([.sendControl (.endSession s "late-or-cancelled-ack"), .closeInput],
      forget { c with
        router := c.router.returned .emergency, handshake := { c.handshake with state := .ended } },
      (c.router.goLocal .emergency w).2.2) := by
  unfold endAfterFailedAck
  rw [ControllerHandshake.activeSession_eq_some.mpr hstate, ControllerHandshake.end_eq hstate hs (by decide)]
  rfl

theorem handleCommitAck_steps (h : Fits boot localPeerId c st) (s : SessionId) (nowMs : UInt64) (w : World ν) :
    Steps boot localPeerId st (.control (.commitAck s) nowMs) w (c.handleCommitAck (.commitAck s) s nowMs w) := by
  have hunpaired : c.pendingRequest = none ∨ c.pendingSession = none → Unpaired st (.commitAck s) →
      Steps boot localPeerId st (.control (.commitAck s) nowMs) w
      (c.handleCommitAck (.commitAck s) s nowMs w) := by
    intro hnone hunpaired
    have heq : c.handleCommitAck (.commitAck s) s nowMs w = (.error .notActive, c, w) := by
      unfold handleCommitAck
      rcases hnone with hnone | hnone
      · rw [hnone]
      · rw [hnone]
        cases c.pendingRequest <;> rfl
    rw [heq]
    refine ⟨st, .refused (World.Drifts.refl w) ?_ (by simp) (by simp), h⟩
    rintro frame nowMs' ⟨⟩
    exact ⟨rfl, hunpaired⟩
  have hstage := h.stage
  cases st with
  | home => exact hunpaired (Or.inl hstage.2.2.1) ⟨⟨s, rfl⟩, Or.inl rfl⟩
  | awaitReady q d =>
    obtain ⟨p, -, -, -, -, -, hrequest, -, -⟩ := hstage
    exact hunpaired (Or.inl hrequest) ⟨⟨s, rfl⟩, Or.inr rfl⟩
  | active s' d => exact hunpaired (Or.inl hstage.2.2.1) ⟨⟨s, rfl⟩, Or.inl rfl⟩
  | ready q s' d =>
    obtain ⟨p, hrouter, hq, hsession, hsent, hstate, hrequest, hpending, hdisplay⟩ := hstage
    unfold handleCommitAck
    simp only [hrequest, hpending]
    split
    · exact failWith_steps h.owned (World.Drifts.refl w) _ _ nowMs
    have hstep := c.handshake.handle_cases (.commitAck s) w
    cases hout : c.handshake.handle (.commitAck s) w with
    | mk answer out =>
    rw [hout] at hstep
    cases hstep with
    | refused _ e hdrift => exact failWith_steps h.owned hdrift _ _ nowMs
    | acknowledged hawait => cases hstate.symm.trans hawait
  | committed q s' d =>
    obtain ⟨p, hrouter, hq, hsession, hsent, hstate, hrequest, hpending, hdisplay⟩ := hstage
    unfold handleCommitAck
    simp only [hrequest, hpending]
    split
    · exact failWith_steps h.owned (World.Drifts.refl w) _ _ nowMs
    rename_i hsame
    push Not at hsame
    subst hsame
    have hvalid := (h.session _ rfl).1
    have hstep := c.handshake.handle_cases (.commitAck s') w
    cases hout : c.handshake.handle (.commitAck s') w with
    | mk answer out =>
    rw [hout] at hstep
    cases hstep with
    | refused _ e hdrift => exact failWith_steps h.owned hdrift _ _ nowMs
    | acknowledged hawait =>
      dsimp only
      have hack := c.router.commitAck_cases q (sessionToken s') nowMs w
      cases hrout : c.router.commitAck q (sessionToken s') nowMs w with
      | mk answer out =>
      rw [hrout] at hack
      cases hack with
      | stale hmiss => exact absurd ⟨hq, hsession, hsent⟩ (hmiss p hrouter)
      | failed _ _ _ _ hdrift hgate =>
        dsimp only
        rw [endAfterFailedAck_eq rfl hvalid]
        refine ⟨.home,
          .ackFailed (hdrift.trans (Router.goLocal_drifts _ .emergency _)) (Router.goLocal_gate _ .emergency _),
          fits_home ?_ (Router.returned_isLocal _ _) (Or.inr rfl) rfl rfl rfl rfl⟩
        exact h.owned.carry rfl rfl
      | activated hrouter' _ _ _ _ hcaptures =>
        refine ⟨.active s' d, .opened hcaptures, ?_, h.session, ?_⟩
        · exact h.owned.carry rfl rfl
        · exact ⟨⟨_, rfl⟩, rfl, rfl, rfl, hdisplay⟩

theorem handleControl_steps (h : Fits boot localPeerId c st) (frame : ControlFrame) (nowMs : UInt64)
    (w : World ν) :
    Steps boot localPeerId st (.control frame nowMs) w (c.handleControl frame nowMs w) := by
  cases frame with
  | ready q receiverBoot inputReady display rev =>
      exact handleReady_steps h q rev nowMs receiverBoot inputReady display w
  | commitAck s => exact handleCommitAck_steps h s nowMs w
  | pong s sequence highest =>
    have hstep := c.handshake.handle_cases (.pong s sequence highest) w
    unfold handleControl
    cases hout : c.handshake.handle (.pong s sequence highest) w with
    | mk answer out =>
    rw [hout] at hstep
    cases hstep with
    | refused _ e hdrift => exact failWith_steps h.owned hdrift _ _ nowMs
    | ponged _ _ hstate =>
      obtain ⟨d, rfl⟩ := h.of_active hstate
      refine ⟨.active s d, .stays (World.Drifts.refl w) (by simp) (by simp), ?_, h.session, h.stage⟩
      exact h.owned.carry rfl rfl
  | reject code detail =>
    have hstep := c.handshake.handle_cases (.reject code detail) w
    unfold handleControl
    cases hout : c.handshake.handle (.reject code detail) w with
    | mk answer out =>
    rw [hout] at hstep
    cases hstep with
    | refused _ e hdrift => exact failWith_steps h.owned hdrift _ _ nowMs
    | rejected _ _ =>
      exact failWith_steps (h.owned.carry rfl rfl) (World.Drifts.refl w) _ _ nowMs
  | _ => exact failWith_steps h.owned (World.Drifts.refl w) _ _ nowMs

/-! ### Returning -/

theorem fits_returnReason (reason : ReturnReason) : fits (returnReason reason) maxDetailBytes = true := by
  cases reason <;> decide

/-- What a return leaves: the stage says goodbye, and everything is forgotten. -/
theorem routeEffects_leave (h : Fits boot localPeerId c st) (hst : st ≠ .home) (reason : ReturnReason)
    (router : Router) :
    routeEffects { c with router } [] (c.router.state.leaveEffects reason) =
      (.ok (st.farewell (returnReason reason)), forget { c with router, handshake := c.handshake.abort }) := by
  have hstage := h.stage
  have hactive := h.activeSession
  cases st with
  | home => exact absurd rfl hst
  | awaitReady q d =>
    obtain ⟨p, hrouter, -, hsession, -⟩ := hstage
    rw [hrouter]
    simp [RouteState.leaveEffects, hsession, routeEffects, routeEffect, Stage.farewell]
  | ready q s d | committed q s d =>
    obtain ⟨p, hrouter, -, hsession, -⟩ := hstage
    rw [hrouter]
    simp [RouteState.leaveEffects, hsession, routeEffects, routeEffect, Stage.farewell, hactive,
      Stage.activeSession]
  | active s d =>
    obtain ⟨⟨peer, hrouter⟩, hstate, -⟩ := hstage
    have hend := ControllerHandshake.end_eq hstate (h.session s rfl).1 (fits_returnReason reason)
    rw [hrouter]
    simp [RouteState.leaveEffects, routeEffects, routeEffect, Stage.farewell, hactive, Stage.activeSession, hend,
      ControllerHandshake.abort]

theorem left_fits (h : Fits boot localPeerId c st) (reason : ReturnReason) :
    Fits boot localPeerId (forget { c with
      router := c.router.returned reason, handshake := c.handshake.abort }) .home :=
  fits_home (h.owned.carry rfl rfl) (c.router.returned_isLocal reason) (Or.inr rfl)
    rfl rfl rfl rfl

theorem goLocal_steps (h : Fits boot localPeerId c st) (reason : ReturnReason) (w : World ν) :
    Steps boot localPeerId st (.goLocal reason) w (c.goLocal reason w) := by
  have hdrift := c.router.goLocal_drifts reason w
  have hgate := c.router.goLocal_gate reason w
  by_cases hst : st = .home
  · subst hst
    obtain ⟨hlocal, hstate, hrequest, hpending, hinput, hmotion⟩ := h.stage
    have heffects : c.router.state.leaveEffects reason = [] := by
      cases hrouter : c.router.state with
      | localDesktop | localGame => rfl
      | _ => simp [hrouter] at hlocal
    have heq : c.goLocal reason w =
        (.ok [], { c with router := c.router.returned reason }, (c.router.goLocal reason w).2.2) := by
      show ((routeEffects { c with router := c.router.returned reason } [] (c.router.state.leaveEffects reason)).1,
        (routeEffects { c with router := c.router.returned reason } [] (c.router.state.leaveEffects reason)).2,
        (c.router.goLocal reason w).2.2) = _
      rw [heffects]
      rfl
    rw [heq]
    exact ⟨.home, .returned hdrift hgate, fits_home (h.owned.carry rfl rfl)
      (c.router.returned_isLocal reason) hstate hrequest hpending hinput hmotion⟩
  · have hleave := routeEffects_leave h hst reason (c.router.returned reason)
    have heq : c.goLocal reason w = (.ok (st.farewell (returnReason reason)),
        forget { c with router := c.router.returned reason, handshake := c.handshake.abort },
        (c.router.goLocal reason w).2.2) := by
      show ((routeEffects { c with router := c.router.returned reason } [] (c.router.state.leaveEffects reason)).1,
        (routeEffects { c with router := c.router.returned reason } [] (c.router.state.leaveEffects reason)).2,
        (c.router.goLocal reason w).2.2) = _
      rw [hleave]
    rw [heq]
    exact ⟨.home, .left hst (Or.inr ⟨reason, rfl⟩) hdrift hgate, left_fits h reason⟩

theorem routeEffects_commit {q : UInt64} {s : SessionId} (hrequest : c.pendingRequest = some q)
    (hpending : c.pendingSession = some s) (hstate : c.handshake.state = .ready q s) :
    routeEffects c [] [.commit q (sessionToken s)] =
      (.ok [.sendControl (.commit q s)],
        { c with handshake := { c.handshake with state := .awaitCommitAck s } }) := by
  simp [routeEffects, routeEffect, hrequest, hpending, Option.filter, ControllerHandshake.commit_eq hstate]

theorem advance_steps (h : Fits boot localPeerId c st) (nowMs : UInt64) (keysReleased : Bool) (w : World ν) :
    Steps boot localPeerId st (.advance nowMs keysReleased) w (c.advance nowMs keysReleased w) := by
  have hstep := c.router.advance_cases nowMs keysReleased w
  unfold ControllerRuntime.advance
  cases hout : c.router.advance nowMs keysReleased w with
  | mk answer out =>
  rw [hout] at hstep
  cases hstep with
  | idle _ hdrift => exact ⟨st, .stays hdrift (by simp) (by simp), h.owned.carry rfl rfl, h.session, h.stage⟩
  | left hlocal hdrift hgate =>
    rename_i reason w₁
    have hst : st ≠ .home := by
      rintro rfl
      rw [h.isLocal_iff.mpr rfl] at hlocal
      cases hlocal
    dsimp only
    rw [routeEffects_leave h hst reason]
    exact ⟨.home, .left hst (Or.inl ⟨nowMs, keysReleased, rfl⟩) hdrift hgate, left_fits h reason⟩
  | waits hrouter _ hdrift =>
    refine ⟨st, .stays hdrift (by simp) (by simp), h.owned.carry rfl rfl, h.session, ?_⟩
    have hstage := h.stage
    cases st with
    | home => simp [Matches, hrouter] at hstage
    | active s d => simp [Matches, hrouter] at hstage
    | awaitReady q d | ready q s d | committed q s d =>
      obtain ⟨p', hrouter', hq, hrest⟩ := hstage
      cases hrouter.symm.trans hrouter'
      exact ⟨_, rfl, hq, hrest⟩
  | commits hrouter _ hsession hsent hkeys hdrift _ =>
    have hstage := h.stage
    cases st with
    | home => simp [Matches, hrouter] at hstage
    | active s d => simp [Matches, hrouter] at hstage
    | awaitReady q d =>
      obtain ⟨p', hrouter', hq, hnone, -⟩ := hstage
      cases hrouter.symm.trans hrouter'
      cases hsession.symm.trans hnone
    | committed q s d =>
      obtain ⟨p', hrouter', hq, -, hsent', -⟩ := hstage
      cases hrouter.symm.trans hrouter'
      cases hsent.symm.trans hsent'
    | ready q s d =>
      obtain ⟨p', hrouter', rfl, hsession', -, hstate, hrequest, hpending, hdisplay⟩ := hstage
      cases hrouter.symm.trans hrouter'
      cases hsession.symm.trans hsession'
      have hcommit : ∀ router, routeEffects { c with router } [] [.commit _ (sessionToken s)] = _ :=
        fun router => routeEffects_commit (c := { c with router }) hrequest hpending hstate
      dsimp only
      rw [hcommit]
      exact ⟨.committed _ s d, .committed hdrift, h.owned.carry rfl rfl, h.session,
        _, rfl, rfl, hsession, rfl, rfl, hrequest, hpending, hdisplay⟩

/-! ### Beginning and stamping -/

theorem begin_steps (h : Fits boot localPeerId c st) (peerId targetDisplay : String)
    (layoutRevision nowMs : UInt64)
    (w : World ν) : Steps boot localPeerId st (.begin peerId targetDisplay layoutRevision nowMs) w
      (c.begin peerId targetDisplay layoutRevision nowMs w) := by
  have hstep := c.router.goRemote_cases peerId nowMs w
  unfold ControllerRuntime.begin
  cases hout : c.router.goRemote peerId nowMs w with
  | mk answer out =>
  rw [hout] at hstep
  cases hstep with
  | refused hdrift =>
    exact ⟨st, .refused hdrift (by simp) (by simp) (by simp),
      h.owned.carry rfl rfl, h.session, h.stage⟩
  | again _ =>
    exact ⟨st, .stays (World.Drifts.refl w) (by simp) (by simp), h.owned.carry rfl rfl,
      h.session, h.stage⟩
  | failed hlocal hreserves hdrift hgate =>
    obtain rfl := h.isLocal_iff.mp hlocal
    obtain ⟨-, hstate, hrequest, hpending, hinput, hmotion⟩ := h.stage
    exact ⟨.home, .failed hreserves hdrift hgate,
      fits_home (h.owned.carry rfl rfl) (Router.returned_isLocal _ _) hstate hrequest
        hpending hinput hmotion⟩
  | prepared hlocal hpeer hsession hsent hdeadline hreserves hdrift hword =>
    rename_i p w₁ w₂
    obtain rfl := h.isLocal_iff.mp hlocal
    obtain ⟨-, hstate, hrequest, hpending, hinput, hmotion⟩ := h.stage
    dsimp only
    rcases ControllerHandshake.begin_cases hstate p.request targetDisplay layoutRevision with ⟨e, heq⟩ | heq
    · rw [heq]
      dsimp only
      have hgone := Router.goLocal_drifts { c.router with state := .preparingRemote p } .networkFailed w₂
      exact ⟨.home, .failed hreserves (hdrift.trans hgone) (Router.goLocal_gate _ .networkFailed w₂),
        fits_home (h.owned.carry rfl rfl) (Router.returned_isLocal _ _) hstate hrequest
          hpending hinput hmotion⟩
    · rw [heq]
      refine ⟨.awaitReady p.request (targetDisplay, layoutRevision), ?_,
        h.owned.carry rfl rfl, by simp [Stage.session], ?_⟩
      · have hbegun : ControllerStep boot localPeerId w .home (.begin peerId targetDisplay layoutRevision nowMs)
            (.ok [.sendControl (.hello boot localPeerId .controller requiredCapabilities),
              .sendControl (.prepare p.request targetDisplay layoutRevision)],
              .awaitReady p.request (targetDisplay, layoutRevision), w₂) := .begun hreserves hdrift
        rw [← h.owned.localBoot, ← h.owned.localPeerId] at hbegun ⊢
        exact hbegun
      · exact ⟨p, rfl, rfl, hsession, hsent, rfl, hrequest, hpending, rfl⟩

theorem setGameMode_fits (h : Fits boot localPeerId c st) (enabled : Bool) :
    Fits boot localPeerId (c.setGameMode enabled) st := by
  refine ⟨h.owned.carry rfl rfl, h.session, ?_⟩
  have hstage := h.stage
  rcases c.router.setGameMode_cases enabled with ⟨hlocal, hlocal'⟩ | ⟨hlocal, hsame⟩
  · obtain rfl := h.isLocal_iff.mp hlocal
    exact ⟨hlocal', hstage.2⟩
  · cases st with
    | home =>
      rw [hstage.1] at hlocal
      cases hlocal
    | awaitReady q d | ready q s d | committed q s d =>
      obtain ⟨p, hrouter, hrest⟩ := hstage
      exact ⟨p, hsame.trans hrouter, hrest⟩
    | active s d =>
      obtain ⟨⟨peer, hrouter⟩, hrest⟩ := hstage
      exact ⟨⟨peer, hsame.trans hrouter⟩, hrest⟩

/-- A stamp which fails changes nothing; one which works moves a sequence of the active session. -/
theorem nextInput_fits (h : Fits boot localPeerId c st) (event : CriticalEvent) :
    Fits boot localPeerId (c.nextInput event).2 st ∧
      (∀ e, (c.nextInput event).1 = .error e → (c.nextInput event).2 = c) := by
  unfold nextInput
  cases hactive : c.handshake.activeSession with
  | none => exact ⟨h, fun _ _ => rfl⟩
  | some s =>
    obtain ⟨d, rfl⟩ := h.of_active (ControllerHandshake.activeSession_eq_some.mp hactive)
    dsimp only
    split
    · exact ⟨h, fun _ _ => rfl⟩
    split
    · exact ⟨h, fun _ _ => rfl⟩
    · exact ⟨⟨h.owned.carry rfl rfl, h.session, h.stage⟩, by simp⟩

theorem nextMotion_fits (h : Fits boot localPeerId c st) (x y : Int32) :
    Fits boot localPeerId (c.nextMotion x y).2 st ∧
      (∀ e, (c.nextMotion x y).1 = .error e → (c.nextMotion x y).2 = c) := by
  unfold nextMotion
  cases hactive : c.handshake.activeSession with
  | none => exact ⟨h, fun _ _ => rfl⟩
  | some s =>
    obtain ⟨d, rfl⟩ := h.of_active (ControllerHandshake.activeSession_eq_some.mp hactive)
    dsimp only
    split
    · exact ⟨h, fun _ _ => rfl⟩
    split
    · exact ⟨h, fun _ _ => rfl⟩
    · exact ⟨⟨h.owned.carry rfl rfl, h.session, h.stage⟩, by simp⟩

theorem ping_steps (h : Fits boot localPeerId c st) (w : World ν) :
    Steps boot localPeerId st .ping w (c.ping.1.map fun action => [action], c.ping.2, w) := by
  have hrefused : ∀ e, Steps boot localPeerId st .ping w (.error e, c, w) :=
    fun e => ⟨st, .refused (World.Drifts.refl w) (by simp) (by simp) (by simp), h⟩
  unfold ControllerRuntime.ping ControllerHandshake.ping
  cases hactive : c.handshake.activeSession with
  | none => exact hrefused _
  | some s =>
    obtain ⟨d, rfl⟩ := h.of_active (ControllerHandshake.activeSession_eq_some.mp hactive)
    dsimp only
    cases checkedAdd c.handshake.pingSequence 1 with
    | none => exact hrefused _
    | some sequence =>
      exact ⟨.active s d, .pinged, h.owned.carry rfl rfl, h.session, h.stage⟩

/-- **Every call is a step of the machine.** -/
theorem exec_steps (h : Fits boot localPeerId c st) (call : ControllerCall) (w : World ν) :
    Steps boot localPeerId st call w (call.exec c w) := by
  have hstamp : ∀ {α : Type} (answer : Except ControllerRuntimeError α) (c' : ControllerRuntime),
      Fits boot localPeerId c' st → (∀ frame nowMs, call ≠ .control frame nowMs) →
      (∀ nowMs keysReleased, call ≠ .advance nowMs keysReleased) → (∀ reason, call ≠ .goLocal reason) →
      Steps boot localPeerId st call w (answer.map fun _ => [], c', w) := by
    intro α answer c' hfits hcontrol hadvance hlocal
    cases answer with
    | error e =>
      exact ⟨st, .refused (World.Drifts.refl w) (fun frame nowMs heq => absurd heq (hcontrol frame nowMs))
        hadvance hlocal, hfits⟩
    | ok a => exact ⟨st, .stays (World.Drifts.refl w) hlocal (fun s nowMs => hcontrol (.commitAck s) nowMs), hfits⟩
  cases call with
  | begin peerId targetDisplay layoutRevision nowMs =>
      exact begin_steps h peerId targetDisplay layoutRevision nowMs w
  | control frame nowMs => exact handleControl_steps h frame nowMs w
  | advance nowMs keysReleased => exact advance_steps h nowMs keysReleased w
  | goLocal reason => exact goLocal_steps h reason w
  | gameMode enabled => exact ⟨st, .stays (World.Drifts.refl w) (by simp) (by simp), setGameMode_fits h enabled⟩
  | nextInput event => exact hstamp _ _ (nextInput_fits h event).1 (by simp) (by simp) (by simp)
  | nextMotion x y => exact hstamp _ _ (nextMotion_fits h x y).1 (by simp) (by simp) (by simp)
  | ping => exact ping_steps h w

end ControllerStep

end MyKvm.Controller
