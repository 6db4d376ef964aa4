import MyKvm.Controller.FailClosed

/-!
# MyKvm.Controller.Delayed — frames which answer an earlier session

The receiver answers asynchronously, so a frame which answers one session may be taken in the next.

* `request_anew`: a request which was left never comes back, so a delayed `Ready` can be told from a fresh one.
* `handleControl_delayed`: the controller fails at every delayed frame, and keeps its state only at a `CommitAck`
  which finds nothing pending.
* `delayed_unnoticed_iff`: the run goes on as if the frame had not been delivered exactly then; the client never
  does.
-/

namespace MyKvm.Controller

open MyKvm.Lib MyKvm.Protocol MyKvm.Routing ControllerRuntime Fallible ControllerClient

/-- The frame answers the request `q` or the session `s`; a `Reject` names neither. -/
inductive Answers (q : UInt64) (s : SessionId) : ControlFrame → Prop
  | ready (receiverBoot : BootId) (inputReady : Bool) (targetDisplay : String) (layoutRevision : UInt64) :
      Answers q s (.ready q receiverBoot inputReady targetDisplay layoutRevision)
  | commitAck : Answers q s (.commitAck s)
  | pong (sequence highest : UInt64) : Answers q s (.pong s sequence highest)
  | reject (code detail : String) : Answers q s (.reject code detail)

/-- On its way, but neither for the request `q` nor with the session `s`. -/
structure Elsewhere (q : UInt64) (s : SessionId) (c : ControllerRuntime) : Prop where
  away : c.router.state.isLocal = false
  request : ∀ p, c.router.state = .preparingRemote p → p.request ≠ q
  session : c.pendingSession ≠ some s

section Fits

variable {ν : Type} {boot : BootId} {localPeerId : String} {c : ControllerRuntime} {st : Stage} {q : UInt64}
    {s : SessionId}

/-! ### Requests -/

/-- A request is pending only with its session. -/
theorem ControllerRuntime.Fits.pendingSession_of_pendingRequest (h : Fits boot localPeerId c st)
    (hrequest : c.pendingRequest = some q) : ∃ t, c.pendingSession = some t := by
  have hstage := h.stage
  cases st with
  | home => cases hstage.2.2.1.symm.trans hrequest
  | active t d => cases hstage.2.2.1.symm.trans hrequest
  | awaitReady q' d =>
    obtain ⟨p, -, -, -, -, -, hnone, -⟩ := hstage
    cases hnone.symm.trans hrequest
  | ready q' t d | committed q' t d =>
    obtain ⟨p, -, -, -, -, -, -, hpending, -⟩ := hstage
    exact ⟨t, hpending⟩

theorem ControllerRuntime.Fits.request_iff (h : Fits boot localPeerId c st) :
    st.request = some q ↔ ∃ p, c.router.state = .preparingRemote p ∧ p.request = q := by
  have hstage := h.stage
  cases st with
  | home =>
    have hlocal := hstage.1
    constructor
    · intro hq
      cases hq
    · rintro ⟨p, hrouter, -⟩
      rw [hrouter] at hlocal
      cases hlocal
  | active t d =>
    obtain ⟨⟨peer, hrouter⟩, -⟩ := hstage
    simp [Stage.request, hrouter]
  | awaitReady q' d | ready q' t d | committed q' t d =>
    obtain ⟨p, hrouter, hq, -⟩ := hstage
    simp [Stage.request, hrouter, hq]

/-- **A request is fresh** when it is made, and kept until the controller comes home. -/
theorem ControllerStep.request {w w' : World ν} {st' : Stage} {call : ControllerCall}
    {answer : Except ControllerRuntimeError (List ControllerAction)}
    (hstep : ControllerStep boot localPeerId w st call (answer, st', w')) (hq : st'.request = some q) :
    st.request = some q ∨ w.gate.generation < q.toNat / 2 ∧ q.toNat / 2 ≤ w'.gate.generation := by
  cases hstep with
  | begun hreserves hdrift =>
    obtain rfl := Option.some.inj hq
    have hfresh := hreserves.fresh
    have hle := hdrift.generation_le
    exact Or.inr ⟨hfresh.1, by omega⟩
  | stays _ _ _ | refused _ _ _ _ | readied _ | committed _ => exact Or.inl hq
  | pinged | failed _ _ _ | opened _ | ackFailed _ _ | rejected _ _ | left _ _ _ _ | returned _ _ => cases hq

end Fits

/-- The gate has reached the generation `reached`, and the request of the stage, if there
is one, lies above `bound`. -/
structure RequestAbove (boot : BootId) (localPeerId : String) (bound reached : ℕ)
    (s : ControllerSetting) : Prop where
  reached : reached ≤ s.world.gate.generation
  request : ∃ st, Fits boot localPeerId s.controller st ∧
    ∀ q, st.request = some q → bound < q.toNat / 2 ∧ q.toNat / 2 ≤ s.world.gate.generation

section RequestAbove

variable {boot : BootId} {localPeerId : String} {bound reached : ℕ}

theorem next_requestAbove (hbound : bound ≤ reached) (s : ControllerSetting) (m : ControllerMove)
    (h : RequestAbove boot localPeerId bound reached s) :
    RequestAbove boot localPeerId bound reached (s.next m) := by
  obtain ⟨hreached, st, hfits, hrequest⟩ := h
  cases m with
  | requestLocal =>
    have hle : s.world.gate.generation ≤ s.world.requestLocal.gate.generation :=
      s.world.requestLocal_drifts.generation_le
    refine ⟨hreached.trans hle, st, hfits, fun q hq => ?_⟩
    obtain ⟨habove, hbelow⟩ := hrequest q hq
    exact ⟨habove, hbelow.trans hle⟩
  | call call =>
    obtain ⟨st', hstep, hfits'⟩ := exec_steps hfits call s.world
    have hle := hstep.generation_le
    refine ⟨hreached.trans hle, st', hfits', fun q hq => ?_⟩
    rcases hstep.request hq with hq | ⟨hfresh, hbelow⟩
    · obtain ⟨habove, hbelow⟩ := hrequest q hq
      exact ⟨habove, hbelow.trans hle⟩
    · exact ⟨(hbound.trans hreached).trans_lt hfresh, hbelow⟩

theorem run_requestAbove {s : ControllerSetting} (hbound : bound ≤ reached)
    (h : RequestAbove boot localPeerId bound reached s) (moves : List ControllerMove) :
    RequestAbove boot localPeerId bound reached (run ControllerSetting.next s moves) :=
  run_invariant (fun s m => next_requestAbove hbound s m) h moves

/-- The request of a router which prepares. -/
theorem RequestAbove.preparing {s : ControllerSetting} (h : RequestAbove boot localPeerId bound reached s)
    {p : Preparing} (hrouter : s.controller.router.state = .preparingRemote p) :
    bound < p.request.toNat / 2 ∧ p.request.toNat / 2 ≤ s.world.gate.generation :=
  let ⟨_, hfits, hrequest⟩ := h.request
  hrequest p.request (hfits.request_iff.mpr ⟨p, hrouter, rfl⟩)

/-- **A request which was left never comes back.** -/
theorem request_anew {c : ControllerRuntime} (hnew : newWithOverride boot localPeerId = .ok c) (g : LocalOverride)
    (moments : List Moment) (entropy : List (Option (Vector UInt8 16)))
    (earlier between later : List ControllerMove) {p p' : Preparing} :
    let start := ControllerSetting.start c g moments entropy
    (run ControllerSetting.next start earlier).controller.router.state = .preparingRemote p →
    (run ControllerSetting.next start (earlier ++ between)).controller.router.state.isLocal = true →
    (run ControllerSetting.next start (earlier ++ between ++ later)).controller.router.state =
    .preparingRemote p' →
    p'.request ≠ p.request := by
  intro start hprepared hhome hagain hsame
  have hstart : RequestAbove boot localPeerId 0 0 start :=
    ⟨Nat.zero_le _, .home, newWithOverride_fits hnew, by simp [Stage.request]⟩
  have hearlier := run_requestAbove le_rfl hstart earlier
  obtain ⟨hpos, hreached⟩ := hearlier.preparing hprepared
  -- the first request was reached before the controller came home
  have hleft : RequestAbove boot localPeerId 0 (p.request.toNat / 2)
    (run ControllerSetting.next start (earlier ++ between)) := by
    rw [run_append]
    exact run_requestAbove (Nat.zero_le _) ⟨hreached, hearlier.request⟩ between
  have hanew : RequestAbove boot localPeerId (p.request.toNat / 2) (p.request.toNat / 2)
      (run ControllerSetting.next start (earlier ++ between)) := by
    obtain ⟨st, hfits, -⟩ := hleft.request
    obtain rfl := hfits.isLocal_iff.mp hhome
    exact ⟨hleft.reached, .home, hfits, by simp [Stage.request]⟩
  rw [run_append] at hagain
  have habove := ((run_requestAbove le_rfl hanew later).preparing hagain).1
  rw [hsame] at habove
  exact lt_irrefl _ habove

end RequestAbove

/-! ### Delayed frames

A frame of an earlier session in a controller which is on its way again. -/

/-- The frame is a `CommitAck`, and no request is pending. -/
def FindsNothing (c : ControllerRuntime) (frame : ControlFrame) : Prop :=
  (∃ s, frame = .commitAck s) ∧ c.pendingRequest = none

section Delayed

variable {ν : Type} {boot : BootId} {localPeerId : String} {c : ControllerRuntime} {st : Stage} {q : UInt64}
    {s : SessionId}
variable {frame : ControlFrame}

/-- The handshake refuses a delayed frame. -/
theorem handle_delayed (h : Fits boot localPeerId c st) (helse : Elsewhere q s c) (hanswers : Answers q s frame)
    (w : World ν) : ∃ e h' w', c.handshake.handle frame w = (.error e, h', w') := by
  have hstep := c.handshake.handle_cases frame w
  cases hout : c.handshake.handle frame w with
  | mk answer out =>
  rw [hout] at hstep
  cases hstep with
  | refused _ e _ => exact ⟨e, _, _, rfl⟩
  | rejected _ _ => exact ⟨_, _, _, rfl⟩
  | readied hstate _ _ _ _ =>
    cases hanswers
    obtain rfl := h.of_awaitReady hstate
    obtain ⟨p, hrouter, hq, -⟩ := h.stage
    exact absurd hq (helse.request p hrouter)
  | acknowledged hstate =>
    cases hanswers
    obtain ⟨q', d, rfl⟩ := h.of_awaitCommitAck hstate
    obtain ⟨p, -, -, -, -, -, -, hpending, -⟩ := h.stage
    exact absurd hpending helse.session
  | ponged _ _ hstate =>
    cases hanswers
    obtain ⟨d, rfl⟩ := h.of_active hstate
    exact absurd h.stage.2.2.2.1 helse.session

/-- **A delayed frame** fails and is forgotten if it is a `CommitAck` which finds nothing pending, and otherwise it
brings the controller home. -/
theorem handleControl_delayed (h : Fits boot localPeerId c st) (helse : Elsewhere q s c)
    (hanswers : Answers q s frame) (nowMs : UInt64) (w : World ν) :
    (FindsNothing c frame ∧ c.handleControl frame nowMs w = (.error .notActive, c, w)) ∨
      (¬ FindsNothing c frame ∧ ∃ e w', ∃ c' : ControllerRuntime,
        c.handleControl frame nowMs w = c'.failWith e w') := by
  obtain ⟨e, h', w', hhandle⟩ := handle_delayed h helse hanswers w
  cases hanswers with
  | ready receiverBoot inputReady targetDisplay layoutRevision =>
    refine Or.inr ⟨fun hnothing => by simp [FindsNothing] at hnothing, ?_⟩
    simp only [handleControl, handleReady, hhandle]
    exact ⟨_, _, _, rfl⟩
  | pong sequence highest =>
    refine Or.inr ⟨fun hnothing => by simp [FindsNothing] at hnothing, ?_⟩
    simp only [handleControl, hhandle]
    exact ⟨_, _, _, rfl⟩
  | reject code detail =>
    refine Or.inr ⟨fun hnothing => by simp [FindsNothing] at hnothing, ?_⟩
    simp only [handleControl, hhandle]
    exact ⟨_, _, _, rfl⟩
  | commitAck =>
    unfold handleControl handleCommitAck
    cases hrequest : c.pendingRequest with
    | none => exact Or.inl ⟨⟨⟨s, rfl⟩, hrequest⟩, rfl⟩
    | some request =>
      refine Or.inr ⟨fun hnothing => by simp [FindsNothing, hrequest] at hnothing, ?_⟩
      obtain ⟨pending, hpending⟩ := h.pendingSession_of_pendingRequest hrequest
      have hother : pending ≠ s := by
        rintro rfl
        exact helse.session hpending
      rw [hpending]
      dsimp only
      rw [if_pos hother]
      exact ⟨_, _, _, rfl⟩

/-- A delayed frame never succeeds. -/
theorem handleControl_delayed_error (h : Fits boot localPeerId c st) (helse : Elsewhere q s c)
    (hanswers : Answers q s frame) (nowMs : UInt64) (w : World ν) :
    ∃ e, (c.handleControl frame nowMs w).1 = .error e := by
  rcases handleControl_delayed h helse hanswers nowMs w with ⟨-, heq⟩ | ⟨-, e, w', c', heq⟩
  · exact ⟨_, congrArg Prod.fst heq⟩
  · exact ⟨e, congrArg Prod.fst heq⟩

/-- The client does not go on after a delayed frame: the connection is closed. -/
theorem takeFrame_delayed {s₀ : ClientSetting} {rest : List ControlFrame}
    (h : Fits boot localPeerId s₀.client.runtime st)
    (helse : Elsewhere q s s₀.client.runtime) (hanswers : Answers q s frame)
    (hinbound : s₀.client.inbound = frame :: rest) (nowMs : UInt64) :
    ∃ e, ((takeFrame nowMs).exec s₀).1 = .error (.runtime e) ∧ ((takeFrame nowMs).exec s₀).2.world.notes =
      .called .disconnect (.ok ()) :: .took frame (.error e) :: s₀.world.notes := by
  have hfails : Ensures (takeFrame nowMs) s₀ (fun _ _ => False) fun err s' => ∃ e, err = .runtime e ∧
      s'.world.notes = .called .disconnect (.ok ()) :: .took frame (.error e) :: s₀.world.notes := by
    apply Ensures.bind_act
    unfold tryRecv
    rw [hinbound]
    apply Ensures.bind_act
    apply Ensures.bind_act
    obtain ⟨st', hstep, -⟩ := handleControl_steps h frame nowMs s₀.world
    obtain ⟨e, he⟩ := handleControl_delayed_error h helse hanswers nowMs s₀.world
    dsimp only
    rw [he]
    apply Ensures.bind_act
    refine ensures_throw ⟨e, rfl, ?_⟩
    rw [World.record_notes, (World.pass_drifts _).notes, World.record_notes]
    exact congrArg _ (congrArg _ hstep.notes)
  obtain ⟨err, herr, e, rfl, hnotes⟩ := hfails.fails
  exact ⟨e, herr, hnotes⟩

end Delayed

/-- **A delayed frame goes unnoticed** in a run of the controller which is on its way again exactly when it is a
`CommitAck` and no request is pending.  The client, which closes the connection at every error of the
controller, notices every one. -/
theorem delayed_unnoticed_iff (localBoot : BootId) (localPeerId : String) :
    (∀ c, newWithOverride localBoot localPeerId = .ok c → ∀ g moments entropy moves q s frame nowMs,
      let now := run ControllerSetting.next (ControllerSetting.start c g moments entropy) moves
      Elsewhere q s now.controller → Answers q s frame →
      ((∀ more, run ControllerSetting.next (now.next (.call (.control frame nowMs))) more =
        run ControllerSetting.next now more) ↔ FindsNothing now.controller frame)) ∧
    ∀ transport client, ControllerClient.newWithOverride transport localBoot localPeerId = .ok client →
      ∀ g moments entropy calls q s frame rest nowMs,
      let now := run ClientSetting.next (ClientSetting.start client g moments entropy) calls
      Elsewhere q s now.client.runtime → Answers q s frame → now.client.inbound = frame :: rest →
      ∃ e, ((takeFrame nowMs).exec now).1 = .error (.runtime e) ∧ ((takeFrame nowMs).exec now).2.world.notes =
        .called .disconnect (.ok ()) :: .took frame (.error e) :: now.world.notes := by
  constructor
  · intro c hnew g moments entropy moves q s frame nowMs now helse hanswers
    obtain ⟨st, hfits, -, -⟩ : Invariant localBoot localPeerId now :=
      run_invariant (fun s m => next_fits s m) ⟨.home, newWithOverride_fits hnew, trivial, trivial⟩ moves
    rcases handleControl_delayed hfits helse hanswers nowMs now.world with ⟨hnothing, heq⟩ |
      ⟨hfinds, e, w', c', heq⟩
    · have hsame : now.next (.call (.control frame nowMs)) = now := by
        simp only [ControllerSetting.next, ControllerCall.exec, heq]
        rfl
      rw [hsame]
      exact ⟨fun _ => hnothing, fun _ _ => rfl⟩
    · refine ⟨fun hall => ?_, fun hnothing => absurd hnothing hfinds⟩
      have hhome : (now.next (.call (.control frame nowMs))).controller.router.state.isLocal = true := by
        simp only [ControllerSetting.next, ControllerCall.exec, heq]
        exact c'.router.returned_isLocal .networkFailed
      have hsame : now.next (.call (.control frame nowMs)) = now := hall []
      rw [hsame, helse.away] at hhome
      cases hhome
  · intro transport client hnew g moments entropy calls q s frame rest nowMs now helse hanswers hinbound
    obtain ⟨c, hc, rfl⟩ := newWithOverride_eq_ok hnew
    obtain ⟨st, σ, hheld, -⟩ : Coherent localBoot localPeerId now :=
      run_invariant (fun s call => next_coherent s call)
        ⟨.home, .clear, ⟨newWithOverride_fits hc, False.elim, rfl⟩, trivial⟩ calls
    exact takeFrame_delayed hheld.fits helse hanswers hinbound nowMs

namespace Sample

/-- A handover, a return, and a second preparation. -/
def again : List ControllerMove := handover ++ [.call (.goLocal .user), .call (.begin "mac" "left" 1 5)]

def settingAgain : ControllerSetting := run ControllerSetting.next setting again

theorem settingAgain_elsewhere : Elsewhere 3 session settingAgain.controller := by
  have hrouter : settingAgain.controller.router.state = .preparingRemote
      { peer := "mac", request := 7, deadlineMs := 2505, keysDeadlineMs := 1505, keysReleasedSeen := false,
        session := none, commitSent := false } := by decide +kernel
  refine ⟨by rw [hrouter]; rfl, fun p hp => ?_, by decide +kernel⟩
  rw [hrouter] at hp
  cases hp
  decide

end Sample

/-- The `CommitAck` of the first session arrives in the second preparation, which goes on. -/
theorem delayed_unnoticed_commitAck :
    run ControllerSetting.next (Sample.settingAgain.next (.call (.control (.commitAck Sample.session) 6)))
        [.call (.advance 7 true)] =
      run ControllerSetting.next Sample.settingAgain [.call (.advance 7 true)] :=
  ((delayed_unnoticed_iff (Sample.boot 1) "windows").1 Sample.controller rfl ⟨1⟩ []
    [some Sample.session.nonce] Sample.again
    3 Sample.session (.commitAck Sample.session) 6 Sample.settingAgain_elsewhere .commitAck).mpr
    ⟨⟨_, rfl⟩, by decide +kernel⟩ [.call (.advance 7 true)]

/-- The `Ready` of the first request arrives in the second preparation, which is given up. -/
theorem not_delayed_unnoticed_ready :
    Elsewhere 3 Sample.session Sample.settingAgain.controller ∧
      ¬ ∀ more, run ControllerSetting.next
          (Sample.settingAgain.next (.call (.control (.ready 3 (Sample.boot 2) true "left" 1) 6))) more =
        run ControllerSetting.next Sample.settingAgain more := by
  refine ⟨Sample.settingAgain_elsewhere, fun h => ?_⟩
  have hlocal := congrArg (fun s => s.controller.router.state.isLocal) (h [])
  revert hlocal
  decide +kernel

end MyKvm.Controller
