import MyKvm.Protocol.Frames
import MyKvm.Routing.World

/-!
# MyKvm.Controller.Handshake — the controller's side of a session

`begin` asks for a session, `handle` takes what the receiver answers, `commit` commits to the session which was
drawn for it.  Only an active session is pinged and ended.
-/

namespace MyKvm.Controller

open MyKvm.Lib MyKvm.Protocol MyKvm.Routing

inductive ControllerState where
  | idle
  | awaitReady (requestId : UInt64) (targetDisplay : String) (layoutRevision : UInt64)
  | ready (requestId : UInt64) (sessionId : SessionId)
  | awaitCommitAck (sessionId : SessionId)
  | active (sessionId : SessionId)
  | ended
  deriving DecidableEq

/-- `Idle | Ended` -/
def ControllerState.isResting : ControllerState → Bool
  | .idle | .ended => true
  | _ => false

structure ControllerHandshake where
  localBoot : BootId
  localPeerId : String
  state : ControllerState
  pingSequence : UInt64
  lastPongSequence : UInt64
  highestRemoteApplied : UInt64
  deriving DecidableEq

/-- `SessionId::generate` -/
def SessionId.generate {ν : Type} (controllerBoot receiverBoot : BootId) (w : World ν) :
    Except ProtocolError SessionId × World ν :=
  match w.fillRandom with
  | (none, w) => (.error .randomUnavailable, w)
  | (some nonce, w) =>
    if nonce = zero16 then (.error .randomUnavailable, w) else (.ok ⟨controllerBoot, receiverBoot, nonce⟩, w)

namespace ControllerHandshake

variable {ν : Type}

def new (localBoot : BootId) (localPeerId : String) : Except ProtocolError ControllerHandshake := do
  refuseIf (localBoot.bytes = zero16) "boot_id"
  validateText localPeerId maxPeerIdBytes "peer_id"
  return { localBoot, localPeerId, state := .idle, pingSequence := 0, lastPongSequence := 0,
           highestRemoteApplied := 0 }

def hello (h : ControllerHandshake) : ControlFrame :=
  .hello h.localBoot h.localPeerId .controller requiredCapabilities

def begin (h : ControllerHandshake) (requestId : UInt64) (targetDisplay : String) (layoutRevision : UInt64) :
    Except ProtocolError (List ControlFrame) × ControllerHandshake :=
  if !h.state.isResting then (.error .invalidTransition, h) else
  let prepare := .prepare requestId targetDisplay layoutRevision
  match validateFrame prepare with
  | .error e => (.error e, h)
  | .ok () => (.ok [h.hello, prepare], { h with state := .awaitReady requestId targetDisplay layoutRevision })

def handle (h : ControllerHandshake) (frame : ControlFrame) (w : World ν) :
    Except ProtocolError (Option ControlFrame) × ControllerHandshake × World ν :=
  match validateFrame frame with
  | .error e => (.error e, h, w)
  | .ok () =>
    match h.state, frame with
    | .awaitReady requestId targetDisplay layoutRevision,
        .ready received receiverBoot inputReady display revision =>
      if inputReady = true ∧ requestId = received ∧ targetDisplay = display ∧ layoutRevision = revision ∧
          receiverBoot.bytes ≠ zero16 then
        match SessionId.generate h.localBoot receiverBoot w with
        | (.error e, w) => (.error e, h, w)
        | (.ok sessionId, w) => (.ok none, { h with state := .ready requestId sessionId }, w)
      else (.error .wrongSession, h, w)
    | .awaitCommitAck sessionId, .commitAck received =>
      if sessionId = received then
        (.ok none, { h with
          state := .active sessionId, pingSequence := 0, lastPongSequence := 0, highestRemoteApplied := 0 }, w)
      else (.error .wrongSession, h, w)
    | .active sessionId, .pong received sequence highestAppliedSequence =>
      if sessionId = received ∧ h.lastPongSequence < sequence ∧ sequence ≤ h.pingSequence ∧
          h.highestRemoteApplied ≤ highestAppliedSequence then
        (.ok none, { h with lastPongSequence := sequence, highestRemoteApplied := highestAppliedSequence }, w)
      else (.error .wrongSession, h, w)
    | _, .reject _ _ => (.error .invalidTransition, { h with state := .ended }, w)
    | _, _ => (.error .invalidTransition, h, w)

def activeSession (h : ControllerHandshake) : Option SessionId :=
  match h.state with
  | .active sessionId => some sessionId
  | _ => none

def preparedSession (h : ControllerHandshake) : Option (UInt64 × SessionId) :=
  match h.state with
  | .ready requestId sessionId => some (requestId, sessionId)
  | _ => none

def commit (h : ControllerHandshake) (requestId : UInt64) (sessionId : SessionId) :
    Except ProtocolError ControlFrame × ControllerHandshake :=
  if h.preparedSession ≠ some (requestId, sessionId) then (.error .wrongSession, h)
  else (.ok (.commit requestId sessionId), { h with state := .awaitCommitAck sessionId })

def ping (h : ControllerHandshake) : Except ProtocolError ControlFrame × ControllerHandshake :=
  match h.activeSession with
  | none => (.error .invalidTransition, h)
  | some sessionId =>
    match checkedAdd h.pingSequence 1 with
    | none => (.error (.invalidField "sequence"), h)
    | some sequence => (.ok (.ping sessionId sequence), { h with pingSequence := sequence })

def abort (h : ControllerHandshake) : ControllerHandshake := { h with state := .ended }

def «end» (h : ControllerHandshake) (reason : String) : Except ProtocolError ControlFrame × ControllerHandshake :=
  match h.activeSession with
  | none => (.error .invalidTransition, h)
  | some sessionId =>
    match validateFrame (.endSession sessionId reason) with
    | .error e => (.error e, h)
    | .ok () => (.ok (.endSession sessionId reason), { h with state := .ended })

/-! ### What the operations do -/

theorem activeSession_eq_some {h : ControllerHandshake} {s : SessionId} :
    h.activeSession = some s ↔ h.state = .active s := by
  unfold activeSession
  cases h.state <;> simp

theorem activeSession_eq_none {h : ControllerHandshake} (hstate : ∀ s, h.state ≠ .active s) :
    h.activeSession = none := by
  unfold activeSession
  split
  · rename_i s heq
    exact absurd heq (hstate s)
  · rfl

theorem preparedSession_eq_some {h : ControllerHandshake} {q : UInt64} {s : SessionId} :
    h.preparedSession = some (q, s) ↔ h.state = .ready q s := by
  unfold preparedSession
  cases h.state <;> simp

/-- What `begin` can do, in a handshake which rests. -/
theorem begin_cases {h : ControllerHandshake} (hrest : h.state = .idle ∨ h.state = .ended) (q : UInt64)
    (display : String) (rev : UInt64) :
    (∃ e, h.begin q display rev = (.error e, h)) ∨
      h.begin q display rev =
        (.ok [h.hello, .prepare q display rev], { h with state := .awaitReady q display rev }) := by
  unfold begin
  have hresting : h.state.isResting = true := by rcases hrest with heq | heq <;> rw [heq] <;> rfl
  rw [if_neg (by simp [hresting])]
  dsimp only
  cases validateFrame (.prepare q display rev) with
  | error e => exact Or.inl ⟨e, rfl⟩
  | ok u => exact Or.inr rfl

/-- What `handle` can do. -/
inductive HandleStep (h : ControllerHandshake) (w : World ν) :
    ControlFrame → Except ProtocolError (Option ControlFrame) × ControllerHandshake × World ν → Prop
  | refused (frame : ControlFrame) (e : ProtocolError) {w' : World ν} : w.Drifts w' →
      HandleStep h w frame (.error e, h, w')
  | rejected (code detail : String) :
      HandleStep h w (.reject code detail) (.error .invalidTransition, { h with state := .ended }, w)
  | readied {requestId layoutRevision : UInt64} {targetDisplay : String} {s : SessionId} {w' : World ν} :
      h.state = .awaitReady requestId targetDisplay layoutRevision → s.controllerBoot = h.localBoot →
      s.receiverBoot.bytes ≠ zero16 → s.nonce ≠ zero16 → w.Draws s.nonce w' →
      HandleStep h w (.ready requestId s.receiverBoot true targetDisplay layoutRevision)
        (.ok none, { h with state := .ready requestId s }, w')
  | acknowledged {s : SessionId} : h.state = .awaitCommitAck s →
      HandleStep h w (.commitAck s) (.ok none, { h with
        state := .active s, pingSequence := 0, lastPongSequence := 0, highestRemoteApplied := 0 }, w)
  | ponged {s : SessionId} (sequence highest : UInt64) : h.state = .active s →
      HandleStep h w (.pong s sequence highest)
        (.ok none, { h with lastPongSequence := sequence, highestRemoteApplied := highest }, w)

theorem generate_cases (controllerBoot receiverBoot : BootId) (w : World ν) :
    (∃ e w', SessionId.generate controllerBoot receiverBoot w = (.error e, w') ∧ w.Drifts w') ∨
      ∃ nonce w', SessionId.generate controllerBoot receiverBoot w =
        (.ok ⟨controllerBoot, receiverBoot, nonce⟩, w') ∧
        nonce ≠ zero16 ∧ w.Draws nonce w' := by
  unfold SessionId.generate
  cases hw : w.fillRandom with
  | mk bytes w' =>
  have hext := World.fillRandom_draws hw
  have hharm : World.Harmless [(Event.randomFilled bytes : Event ν)] := by simp [World.Harmless, Event.IsHarmless]
  cases bytes with
  | none => exact Or.inl ⟨_, w', rfl, _, hharm, hext⟩
  | some nonce =>
    dsimp only
    split
    · exact Or.inl ⟨_, w', rfl, _, hharm, hext⟩
    · rename_i hnonce
      exact Or.inr ⟨nonce, w', rfl, hnonce, _, hharm, by simp, hext⟩

theorem handle_cases (h : ControllerHandshake) (frame : ControlFrame) (w : World ν) :
    HandleStep h w frame (h.handle frame w) := by
  have hrefused : ∀ e, HandleStep h w frame (.error e, h, w) := fun e => .refused frame e (World.Drifts.refl w)
  unfold handle
  split
  · exact hrefused _
  split
  · rename_i requestId targetDisplay layoutRevision received receiverBoot inputReady display revision hstate _
    split
    · rename_i hfit
      obtain ⟨rfl, rfl, rfl, rfl, hboot⟩ := hfit
      rcases generate_cases h.localBoot receiverBoot w with ⟨e, w', heq, hdrift⟩ | ⟨nonce, w', heq, hnonce, hdraws⟩
      · rw [heq]
        exact .refused _ _ hdrift
      · rw [heq]
        exact .readied (s := ⟨h.localBoot, receiverBoot, nonce⟩) hstate rfl hboot hnonce hdraws
    · exact hrefused _
  · rename_i sessionId received hstate _
    split
    · rename_i heq
      subst heq
      exact .acknowledged hstate
    · exact hrefused _
  · rename_i sessionId received sequence highest hstate _
    split
    · rename_i hfit
      obtain ⟨rfl, -⟩ := hfit
      exact .ponged _ _ hstate
    · exact hrefused _
  · exact .rejected _ _
  · exact hrefused _

theorem end_eq {h : ControllerHandshake} {s : SessionId} {reason : String} (hstate : h.state = .active s)
    (hs : s.Valid) (hreason : fits reason maxDetailBytes = true) :
    h.end reason = (.ok (.endSession s reason), { h with state := .ended }) := by
  unfold «end»
  rw [activeSession_eq_some.mpr hstate]
  dsimp only
  rw [validateFrame_endSession hs hreason]

theorem commit_eq {h : ControllerHandshake} {q : UInt64} {s : SessionId} (hstate : h.state = .ready q s) :
    h.commit q s = (.ok (.commit q s), { h with state := .awaitCommitAck s }) := by
  unfold commit
  rw [if_neg (by simp [preparedSession_eq_some.mpr hstate])]

end ControllerHandshake

end MyKvm.Controller
