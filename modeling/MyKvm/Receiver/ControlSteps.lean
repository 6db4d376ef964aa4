import MyKvm.Receiver.Runtime

/-!
# MyKvm.Receiver.ControlSteps — what one control frame can do

`Coherent` is what holds between the parts of the receiver after every call.  Under it, each call has one relation
which lists its outcomes with the exact state after them, and everything below argues by cases on these.  Here: the
submissions, the release (`ReleaseStep`) and the control frames (`ControlStep`).
-/

namespace MyKvm.Receiver

open MyKvm.Lib MyKvm.Protocol ReceiverSessionRuntime

/-! ### Submissions -/

theorem submitAll_cases (commands : List InputCommand) (i : Injector) :
    ((submitAll commands i).1 = .ok () ∧ (submitAll commands i).2.posted = commands.reverse ++ i.posted) ∨
      ∃ e done failed rest, (submitAll commands i).1 = .error e ∧ commands = done ++ failed :: rest ∧
        (submitAll commands i).2.posted = done.reverse ++ i.posted := by
  induction commands generalizing i with
  | nil => exact Or.inl ⟨rfl, rfl⟩
  | cons command commands ih =>
    have hsubmit := i.submitReady_cases command
    rw [submitAll]
    cases hi : i.submitReady command with
    | mk answer i₁ =>
    rw [hi] at hsubmit
    cases answer with
    | error e =>
      rcases hsubmit with ⟨hok, -⟩ | ⟨-, hposted⟩
      · cases hok
      · exact Or.inr ⟨e, [], command, commands, rfl, rfl, hposted⟩
    | ok u =>
      rcases hsubmit with ⟨-, hposted⟩ | ⟨⟨e, herr⟩, -⟩
      · dsimp only at hposted ⊢
        rcases ih i₁ with ⟨hok, hdone⟩ | ⟨e, done, failed, rest, herr, hsplit, hdone⟩
        · exact Or.inl ⟨hok, by rw [hdone, hposted]; simp⟩
        · exact Or.inr ⟨e, command :: done, failed, rest, herr, by rw [hsplit]; rfl, by rw [hdone, hposted]; simp⟩
      · cases herr

/-- The release loop posts everything and changes no fault, or fails, and leaves an error and a fault. -/
theorem releaseLoop_cases (commands : List InputCommand) (firstError : Option PortError)
    (lastFault : Option SessionFault) (i : Injector) :
    (∃ i', releaseLoop commands firstError lastFault i = (firstError, lastFault, i') ∧
        i'.posted = commands.reverse ++ i.posted) ∨
      ∃ (e fault : PortError) (i' : Injector) (done : List InputCommand),
        releaseLoop commands firstError lastFault i = (some e, some (.releaseFailed fault), i') ∧
        done.Sublist commands ∧ i'.posted = done.reverse ++ i.posted := by
  induction commands generalizing firstError lastFault i with
  | nil => exact Or.inl ⟨i, rfl, rfl⟩
  | cons command commands ih =>
    have hsubmit := i.submitReady_cases command
    rw [releaseLoop]
    cases hi : i.submitReady command with
    | mk answer i₁ =>
    rw [hi] at hsubmit
    cases answer with
    | error e =>
      obtain ⟨⟨_, herr⟩, hposted⟩ := hsubmit.resolve_left (fun h => by cases h.1)
      dsimp only at hposted ⊢
      rcases ih (some (firstError.getD e)) (some (.releaseFailed e)) i₁ with
        ⟨i', heq, hdone⟩ | ⟨e', fault, i', done, heq, hsub, hdone⟩
      · -- the failed command is missing from what was posted
        exact Or.inr ⟨_, e, i', commands, heq, (List.Sublist.refl _).cons _, by rw [hdone, hposted]⟩
      · exact Or.inr ⟨e', fault, i', done, heq, hsub.cons _, by rw [hdone, hposted]⟩
    | ok u =>
      obtain ⟨-, hposted⟩ := hsubmit.resolve_right (fun h => by obtain ⟨⟨_, h⟩, -⟩ := h; cases h)
      dsimp only at hposted ⊢
      rcases ih firstError lastFault i₁ with ⟨i', heq, hdone⟩ | ⟨e', fault, i', done, heq, hsub, hdone⟩
      · exact Or.inl ⟨i', heq, by rw [hdone, hposted]; simp⟩
      · exact Or.inr ⟨e', fault, i', command :: done, heq, hsub.cons_cons _, by rw [hdone, hposted]; simp⟩

/-- **Release**: everything is released and the ledger is empty, or the ledger stays and the fault says so. -/
inductive ReleaseStep (r : ReceiverSessionRuntime) :
    Except SessionRuntimeError Unit × ReceiverSessionRuntime → Prop
  | released {i : Injector} : i.posted = r.pressed.releaseAll.1.reverse ++ r.injector.posted →
      ReleaseStep r (.ok (), { r with injector := i, pressed := .empty })
  | failed {i : Injector} {done : List InputCommand} (e fault : PortError) : done.Sublist r.pressed.releaseAll.1 →
      i.posted = done.reverse ++ r.injector.posted →
      ReleaseStep r (.error (.injector e), { r with injector := i, lastFault := some (.releaseFailed fault) })

theorem releasePressed_cases (r : ReceiverSessionRuntime) : ReleaseStep r r.releasePressed := by
  unfold releasePressed
  dsimp only
  rcases releaseLoop_cases r.pressed.releaseAll.1 none r.lastFault r.injector with
    ⟨i, heq, hposted⟩ | ⟨e, fault, i, done, heq, hsub, hposted⟩
  · rw [heq]
    exact .released hposted
  · rw [heq]
    exact .failed e fault hsub hposted

theorem ReleaseStep.activeSession {r r₁ : ReceiverSessionRuntime} {answer : Except SessionRuntimeError Unit}
    (hstep : ReleaseStep r (answer, r₁)) : r₁.activeSession = r.activeSession := by
  cases hstep <;> rfl

theorem ReleaseStep.handshake {r r₁ : ReceiverSessionRuntime} {answer : Except SessionRuntimeError Unit}
    (hstep : ReleaseStep r (answer, r₁)) : r₁.handshake = r.handshake := by
  cases hstep <;> rfl

theorem releaseAndReport_cases (r : ReceiverSessionRuntime) :
    ∃ answer r₁, ReleaseStep r (answer, r₁) ∧ r.releaseAndReport = (answer.map fun _ => true, r₁) := by
  refine ⟨r.releasePressed.1, r.releasePressed.2, releasePressed_cases r, ?_⟩
  unfold releaseAndReport
  cases r.releasePressed with
  | mk answer r₁ => cases answer <;> rfl

theorem loseSession_activeSession (r : ReceiverSessionRuntime) (s : SessionId) (fault : SessionFault) :
    (r.loseSession s fault).2.activeSession = none := by
  obtain ⟨answer, r₁, hrelease, heq⟩ := releaseAndReport_cases { r.dropSession s with lastFault := some fault }
  unfold loseSession
  rw [heq]
  exact hrelease.activeSession

/-! ### Coherence -/

/-- What holds between the parts of the receiver after every call. -/
structure Coherent (r : ReceiverSessionRuntime) : Prop where
  gate : r.inputGate.session = r.activeSession
  handshake : ∀ s, r.activeSession = some s → ∃ h, r.handshake = some h ∧ h.state = .active s
  bound : r.binding.isSome → r.handshake.isSome
  display : r.activeSession.isSome → r.activeDisplay.isSome
  lease : r.activeSession.isSome → r.lastActivityMs.isSome
  pending : ∀ f, r.pendingMotion = some f → r.activeSession = some f.sessionId
  boot : ∀ h, r.handshake = some h → h.localBoot = r.localBoot
  gateBoot : r.inputGate.localBoot = r.localBoot

/-- Without an active handshake there is no active session. -/
theorem Coherent.activeSession_eq_none {r : ReceiverSessionRuntime} {h : ReceiverHandshake} (hc : Coherent r)
    (hh : r.handshake = some h) (hstate : ∀ s, h.state ≠ .active s) : r.activeSession = none := by
  rcases Option.eq_none_or_eq_some r.activeSession with hnone | ⟨s, hactive⟩
  · exact hnone
  · obtain ⟨h', hh', hactive'⟩ := hc.handshake s hactive
    cases hh.symm.trans hh'
    exact absurd hactive' (hstate s)

/-- An active handshake is active in the active session, if there is one. -/
theorem Coherent.eq_of_active {r : ReceiverSessionRuntime} {h : ReceiverHandshake} {s s' : SessionId}
    (hc : Coherent r)
    (hh : r.handshake = some h) (hstate : h.state = .active s) (hactive : r.activeSession = some s') : s' = s := by
  obtain ⟨h', hh', hstate'⟩ := hc.handshake s' hactive
  cases hh.symm.trans hh'
  cases hstate.symm.trans hstate'
  rfl

theorem newWithDisplayLayouts_coherent (localBoot : BootId) (injector : Injector)
    (displayLayouts : List ReceiverDisplayLayout) :
    Coherent (newWithDisplayLayouts localBoot injector displayLayouts) where
  gate := rfl
  handshake := by simp [newWithDisplayLayouts]
  bound := by simp [newWithDisplayLayouts]
  display := by simp [newWithDisplayLayouts]
  lease := by simp [newWithDisplayLayouts]
  pending := by simp [newWithDisplayLayouts]
  boot := by simp [newWithDisplayLayouts]
  gateBoot := rfl

/-! ### Control frames -/

/-- The handshake `h` acknowledges a `Commit` of `s` for the request `q`. -/
def Acks (h : ReceiverHandshake) (q : UInt64) (s : SessionId) : Prop :=
  (h.state = .prepared s.controllerBoot q ∧ s.receiverBoot = h.localBoot ∧ s.Valid) ∨ h.state = .active s

/-- The handshake may be prepared for a controller with this boot id. -/
def AwaitsPrepare (h : ReceiverHandshake) (controllerBoot : BootId) : Prop :=
  h.state = .idle controllerBoot ∨ ∃ s, h.state = .ended s ∧ s.controllerBoot = controllerBoot

theorem AwaitsPrepare.not_active {h : ReceiverHandshake} {boot : BootId} (hawaits : AwaitsPrepare h boot)
    (s : SessionId) :
    h.state ≠ .active s := by
  rcases hawaits with heq | ⟨s', heq, -⟩
  · simp [heq]
  · simp [heq]

section ControlStep

variable (r : ReceiverSessionRuntime)

def withHandshake (h : ReceiverHandshake) (state : ReceiverState) : ReceiverSessionRuntime :=
  { r with handshake := some { h with state } }

/-- The receiver bound to a connection by its `Hello`. -/
def boundTo (peer : AuthenticatedPeer) (bootId : BootId) : ReceiverSessionRuntime :=
  { r with
    binding := some peer, handshake := some ⟨peer.peerId, r.localBoot, .idle bootId⟩, highestAppliedSequence := 0,
    highestMotionSequence := 0, pendingMotion := none, preparedDisplay := none, activeDisplay := none,
    lastActivityMs := none }

/-- The receiver with the session `s` active. -/
def activeIn (s : SessionId) (nowMs : UInt64) : ReceiverSessionRuntime :=
  { r with
    inputGate := { r.inputGate with active := some (s, 1) }, activeSession := some s,
    activeDisplay := r.preparedDisplay, preparedDisplay := none, highestAppliedSequence := 0,
    highestMotionSequence := 0, pendingMotion := none, lastActivityMs := some nowMs, lastFault := none }

/-- The receiver whose session `s` was ended by its controller. -/
def endedBy (s : SessionId) : ReceiverSessionRuntime :=
  { r with
    inputGate := { r.inputGate with active := none, ended := some s }, activeSession := none,
    activeDisplay := none, lastActivityMs := none, highestMotionSequence := 0, pendingMotion := none }

/-- A controller's `Hello` which gets as far as the release. -/
def ReachesRelease (peerId : String) (peer : AuthenticatedPeer) : Prop :=
  peer.role = .controller ∧ peerId = peer.peerId ∧ r.activeSession = none

/-- A `Commit` which the prepared handshake acknowledges. -/
def AcceptsCommit (q : UInt64) (s : SessionId) (peer : AuthenticatedPeer) : Prop :=
  peer.role = .controller ∧ r.binding = some peer ∧ r.preparedDisplay.isSome = true ∧ q ≠ 0 ∧ s.Valid ∧
    ∃ h, r.handshake = some h ∧ h.state = .prepared s.controllerBoot q ∧ s.receiverBoot = h.localBoot

/-- The frame is turned away before it changes anything. -/
def TurnsAway (frame : ControlFrame) (peer : AuthenticatedPeer) : Prop :=
  match frame with
  | .hello _ peerId .controller _ => ¬ ReachesRelease r peerId peer
  | .prepare _ _ _ => peer.role ≠ .controller ∨ r.binding ≠ some peer
  | .commit q s => ¬ AcceptsCommit r q s peer
  | _ => True

/-- The outcomes of `handleControlAt`. -/
inductive ControlStep : ControlFrame → AuthenticatedPeer → UInt64 →
    Except SessionRuntimeError (Option ControlFrame) × ReceiverSessionRuntime → Prop
  | refused {frame : ControlFrame} {peer : AuthenticatedPeer} {nowMs : UInt64} {e : SessionRuntimeError} :
      (∀ error, e ≠ .injector error) → TurnsAway r frame peer → ControlStep frame peer nowMs (.error e, r)
  | helloFailed {bootId : BootId} {peerId : String} {capabilities : List String} {peer : AuthenticatedPeer}
      {nowMs : UInt64} {error : PortError} {r₁ : ReceiverSessionRuntime} :
      ReachesRelease r peerId peer → ReleaseStep r (.error (.injector error), r₁) →
      ControlStep (.hello bootId peerId .controller capabilities) peer nowMs (.error (.injector error), r₁)
  | helloRefused {bootId : BootId} {peerId : String} {capabilities : List String} {peer : AuthenticatedPeer}
      {nowMs : UInt64} {error : ProtocolError} {r₁ : ReceiverSessionRuntime} :
      ReachesRelease r peerId peer → ReleaseStep r (.ok (), r₁) →
      ControlStep (.hello bootId peerId .controller capabilities) peer nowMs (.error (.protocol error), r₁)
  | greeted {bootId : BootId} {capabilities : List String} {peer : AuthenticatedPeer} {nowMs : UInt64}
      {r₁ : ReceiverSessionRuntime} :
      ReachesRelease r peer.peerId peer → ReleaseStep r (.ok (), r₁) →
      ControlStep (.hello bootId peer.peerId .controller capabilities) peer nowMs (.ok none,
        boundTo r₁ peer bootId)
  | unready {q rev : UInt64} {display : String} {peer : AuthenticatedPeer} {nowMs : UInt64} {i : Injector}
      {error : PortError} : r.binding = some peer → r.injector.readiness = (.error error, i) →
      ControlStep (.prepare q display rev) peer nowMs (.error (.injector error), { r with injector := i })
  | unknownLayout {q rev : UInt64} {display : String} {peer : AuthenticatedPeer} {nowMs : UInt64} {i : Injector} :
      r.binding = some peer → r.injector.readiness = (.ok (), i) → r.findLayout display rev = none →
      ControlStep (.prepare q display rev) peer nowMs
        (.error (.protocol (.invalidField "layout_revision")), { r with injector := i, preparedDisplay := none })
  | prepareRefused {q rev : UInt64} {display : String} {peer : AuthenticatedPeer} {nowMs : UInt64} {i : Injector}
      {layout : ReceiverDisplayLayout} {e : ProtocolError} {h : ReceiverHandshake} :
      r.binding = some peer → r.injector.readiness = (.ok (), i) → r.findLayout display rev = some layout →
      r.handshake = some h → (h.handle (.prepare q display rev)).1 = .error e →
      ControlStep (.prepare q display rev) peer nowMs
        (.error (.protocol e), { r with injector := i, preparedDisplay := some layout })
  | prepared {q rev : UInt64} {display : String} {peer : AuthenticatedPeer} {nowMs : UInt64} {i : Injector}
      {layout : ReceiverDisplayLayout} {h : ReceiverHandshake} {boot : BootId} :
      r.binding = some peer → r.injector.readiness = (.ok (), i) → r.findLayout display rev = some layout →
      r.handshake = some h → AwaitsPrepare h boot →
      ControlStep (.prepare q display rev) peer nowMs
        (.ok (some (h.readyFor q display rev)),
          withHandshake { r with injector := i, preparedDisplay := some layout } h (.prepared boot q))
  | activated {q : UInt64} {s : SessionId} {peer : AuthenticatedPeer} {nowMs : UInt64} {h : ReceiverHandshake} :
      r.binding = some peer → r.handshake = some h → Acks h q s → r.activeSession = none →
      r.preparedDisplay.isSome = true → r.pressed.isEmpty = true → r.inputGate.ended ≠ some s →
      ControlStep (.commit q s) peer nowMs
        (.ok (some (.commitAck s)), activeIn (withHandshake r h (.active s)) s nowMs)
  | commitRefused {q : UInt64} {s : SessionId} {peer : AuthenticatedPeer} {nowMs : UInt64} {h : ReceiverHandshake}
      {e : ProtocolError} :
      AcceptsCommit r q s peer → r.handshake = some h → r.activeSession = none →
      r.pressed.isEmpty = false ∨ r.inputGate.ended = some s →
      ControlStep (.commit q s) peer nowMs (.error (.protocol e), withHandshake r h (.active s))
  | recommitted {q : UInt64} {s : SessionId} {peer : AuthenticatedPeer} {nowMs : UInt64} :
      r.binding = some peer → r.activeSession = some s →
      ControlStep (.commit q s) peer nowMs (.ok (some (.commitAck s)), { r with lastActivityMs := some nowMs })
  | ended {s : SessionId} {reason : String} {peer : AuthenticatedPeer} {nowMs : UInt64} {h : ReceiverHandshake}
      {answer : Except SessionRuntimeError Unit} {r₁ : ReceiverSessionRuntime} :
      r.binding = some peer → r.activeSession = some s → r.handshake = some h →
      ReleaseStep (endedBy (withHandshake r h (.ended s)) s) (answer, r₁) →
      ControlStep (.endSession s reason) peer nowMs (answer.map fun _ => none, r₁)
  | endedIdle {s : SessionId} {reason : String} {peer : AuthenticatedPeer} {nowMs : UInt64} {h : ReceiverHandshake}
      {answer : Except SessionRuntimeError Unit} {r₁ : ReceiverSessionRuntime} :
      r.binding = some peer → r.activeSession = none → r.handshake = some h →
      h.state = .active s ∨ h.state = .ended s →
      ReleaseStep (withHandshake r h (.ended s)) (answer, r₁) →
      ControlStep (.endSession s reason) peer nowMs (answer.map fun _ => none, r₁)
  | ponged {s : SessionId} {sequence : UInt64} {peer : AuthenticatedPeer} {nowMs : UInt64}
      {h : ReceiverHandshake} :
      r.binding = some peer → r.handshake = some h → h.state = .active s →
      ControlStep (.ping s sequence) peer nowMs
        (.ok (some (.pong s sequence r.highestAppliedSequence)), r.touch (.ping s sequence) nowMs)

variable {r}

theorem handleHello_cases {bootId : BootId} {peerId : String} {capabilities : List String}
    {peer : AuthenticatedPeer} (hrole : peer.role = .controller) (nowMs : UInt64) :
    ControlStep r (.hello bootId peerId .controller capabilities) peer nowMs
      (r.handleHello (.hello bootId peerId .controller capabilities) peerId peer) := by
  unfold handleHello
  split
  · rename_i hpeer
    exact .refused (by simp) (fun hreach => hpeer hreach.2.1)
  rename_i hpeer
  push Not at hpeer
  subst hpeer
  split
  · rename_i hactive
    refine .refused (by simp) (fun hreach => ?_)
    rw [hreach.2.2] at hactive
    cases hactive
  rename_i hactive
  have hreach : ReachesRelease r peer.peerId peer := ⟨hrole, rfl, by simpa using hactive⟩
  have hrelease := releasePressed_cases r
  revert hrelease
  cases r.releasePressed with
  | mk answer r₁ =>
  intro hrelease
  cases answer with
  | error e =>
    cases hrelease with
    | failed e fault hsub hposted => exact .helloFailed hreach (.failed e fault hsub hposted)
  | ok u =>
    dsimp only
    cases hnew : ReceiverHandshake.new peer.peerId r₁.localBoot with
    | error e => exact .helloRefused hreach hrelease
    | ok h =>
      have hh : h = ⟨peer.peerId, r₁.localBoot, .awaitHello⟩ := by
        obtain ⟨_, -, heq⟩ := bind_eq_ok.mp hnew
        exact (Except.ok.inj heq).symm
      subst hh
      have hstep := ReceiverHandshake.handle_cases ⟨peer.peerId, r₁.localBoot, .awaitHello⟩
        (.hello bootId peer.peerId .controller capabilities)
      dsimp only
      revert hstep
      cases ReceiverHandshake.handle ⟨peer.peerId, r₁.localBoot, .awaitHello⟩
        (.hello bootId peer.peerId .controller capabilities) with
      | mk answer h' =>
      intro hstep
      cases hstep with
      | refused _ e => exact .helloRefused hreach hrelease
      | greeted _ _ hstate =>
        show ControlStep r _ peer nowMs (.ok none, boundTo r₁ peer bootId)
        exact .greeted hreach hrelease

theorem turnsAway_of_role {frame : ControlFrame} {peer : AuthenticatedPeer} (h : peer.role ≠ .controller) :
    TurnsAway r frame peer := by
  unfold TurnsAway
  split
  · exact fun hreach => h hreach.1
  · exact Or.inl h
  · exact fun haccepts => h haccepts.1
  · trivial

theorem turnsAway_of_binding {frame : ControlFrame} {peer : AuthenticatedPeer} (h : r.binding ≠ some peer)
    (hframe : ∀ bootId peerId capabilities, frame ≠ .hello bootId peerId .controller capabilities) :
    TurnsAway r frame peer := by
  unfold TurnsAway
  split
  · exact absurd rfl (hframe _ _ _)
  · exact Or.inr h
  · exact fun haccepts => h haccepts.2.1
  · trivial

theorem turnsAway_of_unanswered {frame : ControlFrame} (peer : AuthenticatedPeer)
    (hframe : ReceiverHandshake.Unanswered frame) : TurnsAway r frame peer := by
  unfold TurnsAway
  split
  · exact absurd rfl hframe
  · exact hframe.elim
  · exact hframe.elim
  · trivial

theorem handleBound_unanswered {frame : ControlFrame} (peer : AuthenticatedPeer) (nowMs : UInt64)
    (hframe : ReceiverHandshake.Unanswered frame) :
    ControlStep r frame peer nowMs (r.handleBound frame nowMs) := by
  unfold handleBound
  cases hh : r.handshake with
  | none => exact .refused (by simp) (turnsAway_of_unanswered peer hframe)
  | some h =>
    obtain ⟨e, heq⟩ := h.handle_unanswered hframe
    dsimp only
    rw [heq]
    dsimp only
    rw [← hh]
    exact .refused (by simp) (turnsAway_of_unanswered peer hframe)

theorem handleBound_prepare (hc : Coherent r) {q rev : UInt64} {display : String} {peer : AuthenticatedPeer}
    {nowMs : UInt64} {i : Injector} {layout : ReceiverDisplayLayout} (hbound : r.binding = some peer)
    (hready : r.injector.readiness = (.ok (), i)) (hfind : r.findLayout display rev = some layout) :
    ControlStep r (.prepare q display rev) peer nowMs
      (handleBound { r with injector := i, preparedDisplay := some layout } (.prepare q display rev) nowMs) := by
  obtain ⟨h, hh⟩ := Option.isSome_iff_exists.mp (hc.bound (by simp [hbound]))
  have hstep := h.handle_cases (.prepare q display rev)
  unfold handleBound
  simp only [hh]
  cases hout : h.handle (.prepare q display rev) with
  | mk answer h' =>
  rw [hout] at hstep
  cases hstep with
  | refused _ e =>
    dsimp only
    rw [← hh]
    exact .prepareRefused hbound hready hfind hh (by rw [hout])
  | prepared _ _ _ hawaits => exact .prepared hbound hready hfind hh hawaits

theorem activateSession_none (s : SessionId) (nowMs : UInt64) (hnone : r.activeSession = none) :
    (∃ e, r.activateSession (some (.commitAck s)) nowMs = (.error (.protocol e), r) ∧
        (r.pressed.isEmpty = false ∨ ∀ u, (r.inputGate.activate s).1 ≠ .ok u)) ∨
      (r.activateSession (some (.commitAck s)) nowMs = (.ok (), activeIn r s nowMs) ∧
        r.pressed.isEmpty = true ∧ r.inputGate.ended ≠ some s) := by
  unfold activateSession
  dsimp only
  rw [if_pos (by rw [hnone]; rfl)]
  cases hpressed : r.pressed.isEmpty with
  | false => exact Or.inl ⟨.invalidTransition, rfl, Or.inl rfl⟩
  | true =>
    rw [if_neg (by simp)]
    rcases r.inputGate.activate_cases s with ⟨e, heq⟩ | ⟨heq, hended⟩
    · rw [heq]
      exact Or.inl ⟨e, rfl, Or.inr (by simp)⟩
    · rw [heq]
      exact Or.inr ⟨rfl, rfl, hended⟩

theorem finishControl_commit_none {q : UInt64} {s : SessionId} (nowMs : UInt64) (hnone : r.activeSession = none) :
    (∃ e, r.finishControl (.commit q s) (some (.commitAck s)) nowMs = (.error (.protocol e), r) ∧
        (r.pressed.isEmpty = false ∨ ∀ u, (r.inputGate.activate s).1 ≠ .ok u)) ∨
      (r.finishControl (.commit q s) (some (.commitAck s)) nowMs =
          (.ok (some (.commitAck s)), activeIn r s nowMs) ∧
        r.pressed.isEmpty = true ∧ r.inputGate.ended ≠ some s) := by
  unfold finishControl
  rcases activateSession_none s nowMs hnone with ⟨e, heq, hwhy⟩ | ⟨heq, hpressed, hended⟩
  · rw [heq]
    exact Or.inl ⟨e, rfl, hwhy⟩
  · rw [heq]
    exact Or.inr ⟨rfl, hpressed, hended⟩

theorem finishControl_commit_some {q : UInt64} {s : SessionId} (nowMs : UInt64)
    (hsome : r.activeSession = some s) :
    r.finishControl (.commit q s) (some (.commitAck s)) nowMs =
      (.ok (some (.commitAck s)), { r with lastActivityMs := some nowMs }) := by
  simp [finishControl, activateSession, endSession, stampPong, touch, hsome]

theorem finishControl_endSession {s : SessionId} {reason : String} (nowMs : UInt64)
    (hgate : r.inputGate.session = r.activeSession) :
    r.finishControl (.endSession s reason) none nowMs =
      let out := (if r.activeSession = some s then endedBy r s else r).releasePressed
      (out.1.map fun _ => none, out.2) := by
  have hend : r.endSession (.endSession s reason) =
      (if r.activeSession = some s then endedBy r s else r).releasePressed := by
    unfold endSession
    dsimp only
    split
    · rename_i hactive
      rw [InputSessionGate.end_eq_of_session (hgate.trans hactive)]
      rfl
    · rfl
  unfold finishControl activateSession
  dsimp only
  rw [hend]
  cases (if r.activeSession = some s then endedBy r s else r).releasePressed with
  | mk answer r₁ => cases answer <;> rfl

theorem handleBound_commit (hc : Coherent r) {q : UInt64} {s : SessionId} {peer : AuthenticatedPeer}
    {nowMs : UInt64} (hrole : peer.role = .controller) (hbound : r.binding = some peer)
    (hprepared : r.activeSession = none → r.preparedDisplay.isSome = true) :
    ControlStep r (.commit q s) peer nowMs (r.handleBound (.commit q s) nowMs) := by
  obtain ⟨h, hh⟩ := Option.isSome_iff_exists.mp (hc.bound (by simp [hbound]))
  have hstep := h.handle_cases (.commit q s)
  unfold handleBound
  simp only [hh]
  cases hout : h.handle (.commit q s) with
  | mk answer h' =>
  rw [hout] at hstep
  cases hstep with
  | refused _ e =>
    dsimp only
    rw [← hh]
    refine .refused (by simp) ?_
    rintro ⟨-, -, -, hnonzero, hs, h₂, hh₂, hstate, hboot⟩
    cases hh.symm.trans hh₂
    rw [ReceiverHandshake.handle_commit_prepared hstate hboot hnonzero hs] at hout
    cases hout
  | committed hstate hboot hnonzero hvalid =>
    have hnone := hc.activeSession_eq_none hh (by simp [hstate])
    have haccepts : AcceptsCommit r q s peer :=
      ⟨hrole, hbound, hprepared hnone, hnonzero, hvalid, h, hh, hstate, hboot⟩
    show ControlStep r (.commit q s) peer nowMs
      ((withHandshake r h (.active s)).finishControl (.commit q s) (some (.commitAck s)) nowMs)
    rcases finishControl_commit_none (r := withHandshake r h (.active s)) (q := q) (s := s) nowMs hnone with
      ⟨e, heq, hwhy⟩ | ⟨heq, hpressed, hended⟩
    · rw [heq]
      refine .commitRefused haccepts hh hnone (hwhy.imp_right fun hgate => ?_)
      by_contra hended
      exact hgate () (InputSessionGate.activate_eq_ok.mpr
        ⟨hvalid, hboot.trans ((hc.boot h hh).trans hc.gateBoot.symm), hended⟩)
    · rw [heq]
      exact .activated hbound hh (Or.inl ⟨hstate, hboot, hvalid⟩) hnone (hprepared hnone) hpressed hended
  | recommitted _ hstate =>
    have hsame : { r with handshake := some h } = r := by rw [← hh]
    dsimp only
    rw [hsame]
    rcases Option.eq_none_or_eq_some r.activeSession with hactive | ⟨s', hactive⟩
    · -- a handshake which stayed active when the receiver could not follow
      rcases finishControl_commit_none (q := q) (s := s) nowMs hactive with ⟨e, heq, -⟩ | ⟨heq, hpressed, hended⟩
      · rw [heq]
        refine .refused (by simp) ?_
        rintro ⟨-, -, -, -, -, h₂, hh₂, hstate₂, -⟩
        cases hh.symm.trans hh₂
        cases hstate.symm.trans hstate₂
      · rw [heq]
        have hwith : withHandshake r h (.active s) = r := by
          unfold withHandshake
          rw [← hstate, ← hh]
        rw [show activeIn r s nowMs = activeIn (withHandshake r h (.active s)) s nowMs by rw [hwith]]
        exact .activated hbound hh (Or.inr hstate) hactive (hprepared hactive) hpressed hended
    · obtain rfl := hc.eq_of_active hh hstate hactive
      rw [finishControl_commit_some nowMs hactive]
      exact .recommitted hbound hactive

theorem handleBound_endSession (hc : Coherent r) {s : SessionId} {reason : String} {peer : AuthenticatedPeer}
    {nowMs : UInt64} (hbound : r.binding = some peer) :
    ControlStep r (.endSession s reason) peer nowMs (r.handleBound (.endSession s reason) nowMs) := by
  obtain ⟨h, hh⟩ := Option.isSome_iff_exists.mp (hc.bound (by simp [hbound]))
  have hstep := h.handle_cases (.endSession s reason)
  -- whatever the handshake was, it has ended now
  have hdone : ∀ (hstate : h.state = .active s ∨ h.state = .ended s),
    ControlStep r (.endSession s reason) peer nowMs
      ((withHandshake r h (.ended s)).finishControl (.endSession s reason) none nowMs) := by
    intro hstate
    rw [finishControl_endSession (r := withHandshake r h (.ended s)) nowMs hc.gate]
    show ControlStep r (.endSession s reason) peer nowMs
      (let out := (if r.activeSession = some s then endedBy (withHandshake r h (.ended s)) s
        else withHandshake r h (.ended s)).releasePressed
      (out.1.map fun _ => none, out.2))
    by_cases hactive : r.activeSession = some s
    · rw [if_pos hactive]
      exact .ended hbound hactive hh (releasePressed_cases _)
    · rw [if_neg hactive]
      refine .endedIdle hbound ?_ hh hstate (releasePressed_cases _)
      rcases Option.eq_none_or_eq_some r.activeSession with hnone | ⟨s', hother⟩
      · exact hnone
      · rcases hstate with heq | heq
        · exact absurd (hc.eq_of_active hh heq hother ▸ hother) hactive
        · exact hc.activeSession_eq_none hh (by simp [heq])
  unfold handleBound
  simp only [hh]
  cases hout : h.handle (.endSession s reason) with
  | mk answer h' =>
  rw [hout] at hstep
  cases hstep with
  | refused _ e =>
    dsimp only
    rw [← hh]
    exact .refused (by simp) trivial
  | ended _ hstate => exact hdone (Or.inl hstate)
  | endedAgain _ hstate =>
    have hwith : { r with handshake := some h } = withHandshake r h (.ended s) := by
      unfold withHandshake
      rw [← hstate]
    dsimp only
    rw [hwith]
    exact hdone (Or.inr hstate)

theorem handleBound_ping (hc : Coherent r) {s : SessionId} {sequence : UInt64} {peer : AuthenticatedPeer}
    {nowMs : UInt64} (hbound : r.binding = some peer) :
    ControlStep r (.ping s sequence) peer nowMs (r.handleBound (.ping s sequence) nowMs) := by
  obtain ⟨h, hh⟩ := Option.isSome_iff_exists.mp (hc.bound (by simp [hbound]))
  have hstep := h.handle_cases (.ping s sequence)
  unfold handleBound
  simp only [hh]
  cases hout : h.handle (.ping s sequence) with
  | mk answer h' =>
  rw [hout] at hstep
  cases hstep with
  | refused _ e =>
    dsimp only
    rw [← hh]
    exact .refused (by simp) trivial
  | pinged _ hstate =>
    dsimp only
    rw [← hh]
    exact .ponged hbound hh hstate

theorem turnsAway_of_unprepared {frame : ControlFrame} {peer : AuthenticatedPeer}
    (h : r.commitsUnprepared frame = true) : TurnsAway r frame peer := by
  cases frame with
  | commit q s =>
    rintro ⟨-, -, hprepared, -⟩
    simp only [commitsUnprepared, Bool.and_eq_true, Option.isNone_iff_eq_none] at h
    rw [h.2] at hprepared
    cases hprepared
  | _ => cases h

theorem handleControlAt_of_role {peer : AuthenticatedPeer} (h : peer.role ≠ .controller) (frame : ControlFrame)
    (nowMs : UInt64) : r.handleControlAt frame peer nowMs = (.error .wrongRole, r) := if_pos h

/-- **Everything a control frame can do.** -/
theorem handleControlAt_cases (hc : Coherent r) (frame : ControlFrame) (peer : AuthenticatedPeer)
    (nowMs : UInt64) :
    ControlStep r frame peer nowMs (r.handleControlAt frame peer nowMs) := by
  unfold handleControlAt
  split
  · rename_i hrole
    exact .refused (by simp) (turnsAway_of_role hrole)
  rename_i hrole
  push Not at hrole
  split
  · exact handleHello_cases hrole nowMs
  rename_i hframe
  split
  · rename_i hbound
    exact .refused (by simp) (turnsAway_of_binding hbound hframe)
  rename_i hbound
  push Not at hbound
  split
  · rename_i hprepared
    refine .refused (by simp) (turnsAway_of_unprepared hprepared)
  rename_i hprepared
  cases frame with
  | hello bootId peerId role capabilities =>
    refine handleBound_unanswered peer nowMs ?_
    rintro rfl
    exact hframe bootId peerId capabilities rfl
  | prepare q display rev =>
    unfold prepareDisplay
    dsimp only
    cases hready : r.injector.readiness with
    | mk answer i =>
    cases answer with
    | error e => exact .unready hbound hready
    | ok u =>
      cases hfind : r.findLayout display rev with
      | none => exact .unknownLayout hbound hready hfind
      | some layout => exact handleBound_prepare hc hbound hready hfind
  | commit q s =>
    refine handleBound_commit hc hrole hbound (fun hnone => ?_)
    simpa [commitsUnprepared, hnone, Option.isSome_iff_ne_none] using hprepared
  | endSession s reason => exact handleBound_endSession hc hbound
  | ping s sequence => exact handleBound_ping hc hbound
  | ready q boot inputReady display rev => exact handleBound_unanswered peer nowMs trivial
  | commitAck s => exact handleBound_unanswered peer nowMs trivial
  | pong s sequence highest => exact handleBound_unanswered peer nowMs trivial
  | reject code detail => exact handleBound_unanswered peer nowMs trivial

end ControlStep

end MyKvm.Receiver
