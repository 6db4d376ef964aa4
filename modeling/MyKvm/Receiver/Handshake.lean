import MyKvm.Lib.Word
import MyKvm.Protocol.Frames

/-!
# MyKvm.Receiver.Handshake — the receiver's side of a session

Two small machines.  `ReceiverHandshake` answers the control frames of one connection; `InputSessionGate` admits
the input frames of one session, in sequence, and remembers the last session which ended.

`handle_cases` lists everything the handshake can do; a refused frame leaves it as it was.
-/

namespace MyKvm.Receiver

open MyKvm.Lib MyKvm.Protocol

inductive ReceiverState where
  | awaitHello
  | idle (controllerBoot : BootId)
  | prepared (controllerBoot : BootId) (requestId : UInt64)
  | active (sessionId : SessionId)
  | ended (sessionId : SessionId)
  deriving DecidableEq

structure ReceiverHandshake where
  trustedPeerId : String
  localBoot : BootId
  state : ReceiverState
  deriving DecidableEq

namespace ReceiverHandshake

def new (trustedPeerId : String) (localBoot : BootId) : Except ProtocolError ReceiverHandshake := do
  validateText trustedPeerId maxPeerIdBytes "peer_id"
  return { trustedPeerId, localBoot, state := .awaitHello }

def abortActive (h : ReceiverHandshake) (sessionId : SessionId) : Except ProtocolError Unit × ReceiverHandshake :=
  match h.state with
  | .active current => if current = sessionId then (.ok (), { h with state := .ended sessionId })
      else (.error .wrongSession, h)
  | _ => (.error .wrongSession, h)

/-- The refusal of a frame for another session. -/
def foreign (h : ReceiverHandshake) (sessionId : SessionId) : ProtocolError :=
  if sessionId.receiverBoot ≠ h.localBoot then .wrongBoot else .wrongSession

/-- The answer to a `Prepare` which is accepted. -/
def readyFor (h : ReceiverHandshake) (requestId : UInt64) (targetDisplay : String) (layoutRevision : UInt64) :
    ControlFrame :=
  .ready requestId h.localBoot true targetDisplay layoutRevision

/-- The `match` of `handle`, on a frame which is well formed. -/
def transition (h : ReceiverHandshake) (frame : ControlFrame) :
    Except ProtocolError (Option ControlFrame) × ReceiverHandshake :=
  match h.state, frame with
  | .awaitHello, .hello bootId peerId role _ =>
    if role = .controller ∧ peerId = h.trustedPeerId then (.ok none, { h with state := .idle bootId })
    else (.error .wrongRole, h)
  | .idle controllerBoot, .prepare requestId targetDisplay layoutRevision =>
    (.ok (some (h.readyFor requestId targetDisplay layoutRevision)),
      { h with state := .prepared controllerBoot requestId })
  | .prepared controllerBoot requestId, .commit incomingRequest sessionId =>
    if incomingRequest ≠ requestId then (.error .invalidTransition, h)
    else if sessionId.controllerBoot ≠ controllerBoot ∨
      sessionId.receiverBoot ≠ h.localBoot then (.error .wrongBoot, h)
    else (.ok (some (.commitAck sessionId)), { h with state := .active sessionId })
  | .active sessionId, .commit _ next =>
    if sessionId = next then (.ok (some (.commitAck sessionId)), h) else (.error (h.foreign next), h)
  | .active sessionId, .endSession ending _ =>
    if sessionId = ending then (.ok none, { h with state := .ended sessionId }) else (.error (h.foreign ending), h)
  | .active sessionId, .ping ping sequence =>
    if sessionId = ping then (.ok (some (.pong sessionId sequence 0)), h) else (.error (h.foreign ping), h)
  | .ended sessionId, .endSession ending _ =>
    if sessionId = ending then (.ok none, h) else (.error (h.foreign ending), h)
  | .ended sessionId, .prepare requestId targetDisplay layoutRevision =>
    (.ok (some (h.readyFor requestId targetDisplay layoutRevision)),
      { h with state := .prepared sessionId.controllerBoot requestId })
  | .awaitHello, _ => (.error .invalidTransition, h)
  | .idle controllerBoot, .hello bootId _ _ _ =>
    (.error (if controllerBoot ≠ bootId then .wrongBoot else .invalidTransition), h)
  | .prepared controllerBoot _, .hello bootId _ _ _ =>
    (.error (if controllerBoot ≠ bootId then .wrongBoot else .invalidTransition), h)
  | _, .commit _ sessionId => (.error (h.foreign sessionId), h)
  | _, .ping sessionId _ => (.error (h.foreign sessionId), h)
  | _, .endSession sessionId _ => (.error (h.foreign sessionId), h)
  | _, _ => (.error .invalidTransition, h)

def handle (h : ReceiverHandshake) (frame : ControlFrame) :
    Except ProtocolError (Option ControlFrame) × ReceiverHandshake :=
  match validateFrame frame with
  | .error e => (.error e, h)
  | .ok () => h.transition frame

/-- What `handle` can do. -/
inductive HandleStep (h : ReceiverHandshake) :
    ControlFrame → Except ProtocolError (Option ControlFrame) × ReceiverHandshake → Prop
  | refused (frame : ControlFrame) (e : ProtocolError) : HandleStep h frame (.error e, h)
  | greeted (bootId : BootId) (capabilities : List String) : h.state = .awaitHello →
      HandleStep h (.hello bootId h.trustedPeerId .controller capabilities) (.ok none,
        { h with state := .idle bootId })
  | prepared {controllerBoot : BootId} (requestId : UInt64) (targetDisplay : String) (layoutRevision : UInt64) :
      (h.state = .idle controllerBoot ∨ ∃ s, h.state = .ended s ∧ s.controllerBoot = controllerBoot) →
      HandleStep h (.prepare requestId targetDisplay layoutRevision)
        (.ok (some (h.readyFor requestId targetDisplay layoutRevision)),
          { h with state := .prepared controllerBoot requestId })
  | committed {requestId : UInt64} {s : SessionId} : h.state = .prepared s.controllerBoot requestId →
      s.receiverBoot = h.localBoot → requestId ≠ 0 → s.Valid →
      HandleStep h (.commit requestId s) (.ok (some (.commitAck s)), { h with state := .active s })
  | recommitted (requestId : UInt64) {s : SessionId} : h.state = .active s →
      HandleStep h (.commit requestId s) (.ok (some (.commitAck s)), h)
  | ended {s : SessionId} (reason : String) : h.state = .active s →
      HandleStep h (.endSession s reason) (.ok none, { h with state := .ended s })
  | endedAgain {s : SessionId} (reason : String) : h.state = .ended s →
      HandleStep h (.endSession s reason) (.ok none, h)
  | pinged {s : SessionId} (sequence : UInt64) : h.state = .active s →
      HandleStep h (.ping s sequence) (.ok (some (.pong s sequence 0)), h)

theorem handle_cases (h : ReceiverHandshake) (frame : ControlFrame) : HandleStep h frame (h.handle frame) := by
  unfold handle
  cases hvalid : validateFrame frame with
  | error e => exact .refused frame e
  | ok u =>
    dsimp only
    unfold transition
    split
    · rename_i hstate
      split
      · rename_i hfit
        obtain ⟨rfl, rfl⟩ := hfit
        exact .greeted _ _ hstate
      · exact .refused _ _
    · rename_i hstate
      exact .prepared _ _ _ (Or.inl hstate)
    · rename_i controllerBoot requestId incomingRequest sessionId hstate
      split
      · exact .refused _ _
      rename_i hreq
      split
      · exact .refused _ _
      rename_i hboot
      push Not at hreq hboot
      obtain ⟨rfl, hlocal⟩ := hboot
      subst hreq
      obtain ⟨hnonzero, hs⟩ := validateFrame_commit.mp hvalid
      exact .committed hstate hlocal hnonzero hs
    · rename_i hstate
      split
      · rename_i heq
        subst heq
        exact .recommitted _ hstate
      · exact .refused _ _
    · rename_i hstate
      split
      · rename_i heq
        subst heq
        exact .ended _ hstate
      · exact .refused _ _
    · rename_i hstate
      split
      · rename_i heq
        subst heq
        exact .pinged _ hstate
      · exact .refused _ _
    · rename_i hstate
      split
      · rename_i heq
        subst heq
        exact .endedAgain _ hstate
      · exact .refused _ _
    · rename_i hstate
      exact .prepared _ _ _ (Or.inr ⟨_, hstate, rfl⟩)
    all_goals exact .refused _ _

/-- A `Commit` for the prepared request is acknowledged. -/
theorem handle_commit_prepared {h : ReceiverHandshake} {requestId : UInt64} {s : SessionId}
    (hstate : h.state = .prepared s.controllerBoot requestId) (hboot : s.receiverBoot = h.localBoot)
    (hnonzero : requestId ≠ 0) (hs : s.Valid) :
    h.handle (.commit requestId s) = (.ok (some (.commitAck s)), { h with state := .active s }) := by
  unfold handle
  rw [validateFrame_commit (u := ()).mpr ⟨hnonzero, hs⟩]
  simp [transition, hstate, hboot]

/-- The frames which a receiver does not expect from a controller, in any state. -/
def Unanswered : ControlFrame → Prop
  | .ready _ _ _ _ _ | .commitAck _ | .pong _ _ _ | .reject _ _ => True
  | .hello _ _ role _ => role ≠ .controller
  | _ => False

theorem handle_unanswered (h : ReceiverHandshake) {frame : ControlFrame} (hf : Unanswered frame) :
    ∃ e, h.handle frame = (.error e, h) := by
  have hstep := h.handle_cases frame
  revert hstep
  generalize h.handle frame = out
  intro hstep
  cases hstep with
  | refused _ e => exact ⟨e, rfl⟩
  | greeted _ _ _ => exact absurd rfl hf
  | prepared _ _ _ _ => exact hf.elim
  | committed _ _ _ _ => exact hf.elim
  | recommitted _ _ => exact hf.elim
  | ended _ _ => exact hf.elim
  | endedAgain _ _ => exact hf.elim
  | pinged _ _ => exact hf.elim

end ReceiverHandshake

/-! ### The gate of the input frames -/

structure InputSessionGate where
  localBoot : BootId
  active : Option (SessionId × UInt64)
  ended : Option SessionId
  deriving DecidableEq

namespace InputSessionGate

def new (localBoot : BootId) : InputSessionGate := { localBoot, active := none, ended := none }

def activate (g : InputSessionGate) (sessionId : SessionId) : Except ProtocolError Unit × InputSessionGate :=
  match validateSession sessionId with
  | .error e => (.error e, g)
  | .ok () =>
    if sessionId.receiverBoot ≠ g.localBoot then (.error .wrongBoot, g)
    else if g.ended = some sessionId then (.error .wrongSession, g)
    else (.ok (), { g with active := some (sessionId, 1) })

def accept (g : InputSessionGate) (frame : CriticalFrame) : Except ProtocolError Unit × InputSessionGate :=
  match validateCritical frame with
  | .error e => (.error e, g)
  | .ok () =>
    match g.active with
    | none => (.error .wrongSession, g)
    | some (sessionId, nextSequence) =>
      if frame.sessionId.receiverBoot ≠ g.localBoot then (.error .wrongBoot, g)
      else if frame.sessionId ≠ sessionId ∨ frame.sequence ≠ nextSequence then (.error .wrongSession, g)
      else
        match checkedAdd nextSequence 1 with
        | none => (.error (.invalidField "sequence"), g)
        | some followingSequence => (.ok (), { g with active := some (sessionId, followingSequence) })

def «end» (g : InputSessionGate) (sessionId : SessionId) : Except ProtocolError Unit × InputSessionGate :=
  match g.active with
  | none => (.error .wrongSession, g)
  | some (active, _) =>
    if active ≠ sessionId then (.error .wrongSession, g)
    else (.ok (), { g with active := none, ended := some sessionId })

/-- The session which the gate admits. -/
def session (g : InputSessionGate) : Option SessionId := g.active.map (·.1)

/-- Activation succeeds for a valid session of this machine which is not the last one ended. -/
theorem activate_eq_ok {g : InputSessionGate} {s : SessionId} {u : Unit} :
    (g.activate s).1 = .ok u ↔ s.Valid ∧ s.receiverBoot = g.localBoot ∧ g.ended ≠ some s := by
  unfold activate
  cases hvalid : validateSession s with
  | error e =>
    simp only [reduceCtorEq, false_iff]
    rintro ⟨hs, -⟩
    rw [validateSession_eq_ok (u := ()).mpr hs] at hvalid
    cases hvalid
  | ok u =>
    have hs := validateSession_eq_ok.mp hvalid
    dsimp only
    split_ifs with hboot hended
    · simp [hboot]
    · simp [hended]
    · simp only [true_iff]
      exact ⟨hs, by simpa using hboot, hended⟩

theorem activate_cases (g : InputSessionGate) (s : SessionId) :
    (∃ e, g.activate s = (.error e, g)) ∨
      (g.activate s = (.ok (), { g with active := some (s, 1) }) ∧ g.ended ≠ some s) := by
  unfold activate
  split
  · exact Or.inl ⟨_, rfl⟩
  · split_ifs with hboot hended
    · exact Or.inl ⟨_, rfl⟩
    · exact Or.inl ⟨_, rfl⟩
    · exact Or.inr ⟨rfl, hended⟩

/-- An accepted frame is well formed and the next one of the admitted session. -/
theorem accept_cases (g : InputSessionGate) (frame : CriticalFrame) :
    (∃ e, g.accept frame = (.error e, g)) ∨
      ∃ next, g.accept frame = (.ok (), { g with active := some (frame.sessionId, next) }) ∧
        g.active = some (frame.sessionId, frame.sequence) ∧ frame.sequence.toNat + 1 = next.toNat ∧
        validateCritical frame = .ok () := by
  unfold accept
  split
  · exact Or.inl ⟨_, rfl⟩
  rename_i hvalid
  split
  · exact Or.inl ⟨_, rfl⟩
  rename_i sessionId nextSequence hactive
  split_ifs with hboot hmatch
  · exact Or.inl ⟨_, rfl⟩
  · exact Or.inl ⟨_, rfl⟩
  push Not at hmatch
  obtain ⟨rfl, rfl⟩ := hmatch
  split
  · exact Or.inl ⟨_, rfl⟩
  · rename_i following hnext
    exact Or.inr ⟨following, rfl, hactive, checkedAdd_eq_some.mp hnext, hvalid⟩

theorem end_eq_of_session {g : InputSessionGate} {s : SessionId} (h : g.session = some s) :
    g.end s = (.ok (), { g with active := none, ended := some s }) := by
  unfold session at h
  unfold «end»
  cases hactive : g.active with
  | none => simp [hactive] at h
  | some a =>
    rw [hactive] at h
    obtain rfl : a.1 = s := Option.some.inj h
    simp

end InputSessionGate

end MyKvm.Receiver
