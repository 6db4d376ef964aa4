import MyKvm.Lib.Text
import MyKvm.Routing.World

/-!
# MyKvm.Routing.Router — who owns the input

The coordinator of the controller.  Every operation takes the router and the world and returns its answer with the
router and the world after it.  Each has one lemma, `*_cases`, which says everything the operation can do; nothing
below unfolds an operation again.
-/

namespace MyKvm.Routing

open MyKvm.Lib LocalOverride

def handoffTimeoutMs : UInt64 := 2500

def keysReleaseTimeoutMs : UInt64 := 1500

inductive ReturnReason where
  | user
  | emergency
  | timeout
  | keysHeld
  | focusUnavailable
  | captureFailed
  | networkFailed
  | queueFull
  deriving DecidableEq, Repr

/-- The fields of `PreparingRemote`. -/
structure Preparing where
  peer : String
  request : UInt64
  deadlineMs : UInt64
  keysDeadlineMs : UInt64
  keysReleasedSeen : Bool
  session : Option (BitVec 128)
  commitSent : Bool
  deriving DecidableEq

inductive RouteState where
  | localDesktop
  | localGame
  | preparingRemote (p : Preparing)
  | remoteActive (peer : String) (session : BitVec 128)
  | returningLocal (reason : ReturnReason)
  deriving DecidableEq

/-- `LocalDesktop | LocalGame` -/
@[simp] def RouteState.isLocal : RouteState → Bool
  | .localDesktop | .localGame => true
  | _ => false

inductive RouteEffect where
  | prepare (peer : String) (request : UInt64)
  | commit (request : UInt64) (session : BitVec 128)
  | cancel (request : UInt64)
  | «end» (session : BitVec 128) (reason : ReturnReason)
  deriving DecidableEq

/-- What leaving a state asks for. -/
@[simp] def RouteState.leaveEffects (reason : ReturnReason) : RouteState → List RouteEffect
  | .remoteActive _ session => [.end session reason]
  | .preparingRemote p =>
    match p.session with
    | some session => [.end session reason]
    | none => [.cancel p.request]
  | _ => []

/-- The router's own fields; the shared gate is in the world. -/
structure Router where
  state : RouteState
  gameMode : Bool
  lastReturn : Option ReturnReason
  deriving DecidableEq

namespace Router

variable {ν : Type}

def withGate : Router := { state := .localDesktop, gameMode := false, lastReturn := none }

def localState (r : Router) : RouteState := if r.gameMode then .localGame else .localDesktop

@[simp] theorem localState_isLocal (r : Router) : r.localState.isLocal = true := by
  unfold localState
  split <;> rfl

def setGameMode (r : Router) (enabled : Bool) : Router :=
  let r := { r with gameMode := enabled }
  if r.state.isLocal then { r with state := r.localState } else r

/-- Local recovery happens before the effects are returned. -/
def goLocal (r : Router) (reason : ReturnReason) (w : World ν) : List RouteEffect × Router × World ν :=
  let w := w.callRequestLocal
  let old := r.state
  let r := { r with state := .returningLocal reason }
  let w := if old.isLocal then w else w.requestLocalRestore
  let r := { r with lastReturn := some reason }
  let r := { r with state := r.localState }
  (old.leaveEffects reason, r, w)

def goRemote (r : Router) (peer : String) (nowMs : UInt64) (w : World ν) :
    Except RouteError (List RouteEffect) × Router × World ν :=
  if isBlank peer || 256 < peer.utf8ByteSize then (.error .invalidPeer, r, w) else
  match r.state with
  | .preparingRemote p => (if p.peer = peer then .ok [] else .error .busy, r, w)
  | .remoteActive current _ => (if current = peer then .ok [] else .error .busy, r, w)
  | .returningLocal _ => (.error .busy, r, w)
  | .localDesktop | .localGame =>
    match checkedAdd nowMs handoffTimeoutMs with
    | none => (.error .exhausted, r, w)
    | some deadlineMs =>
    match checkedAdd nowMs keysReleaseTimeoutMs with
    | none => (.error .exhausted, r, w)
    | some keysDeadlineMs =>
    match w.reserve with
    | (.error error, w) => (.error error, r, w)
    | (.ok request, w) =>
      let r : Router := { r with
        state := .preparingRemote
          { peer, request, deadlineMs, keysDeadlineMs, keysReleasedSeen := false, session := none,
            commitSent := false } }
      match w.prepareCapture with
      | (.error error, w) => (.error (.capture error), (r.goLocal .captureFailed w).2)
      | (.ok (), w) =>
        match w.stillPreparing request with
        | (false, w) => (.error .cancelled, (r.goLocal .emergency w).2)
        | (true, w) => (.ok [.prepare peer request], r, w)

def ready (r : Router) (request : UInt64) (offeredSession : BitVec 128) (w : World ν) :
    Except RouteError Unit × Router × World ν :=
  if offeredSession = 0 then (.error .staleReply, r, w) else
  match w.stillPreparing request with
  | (false, w) => (.error .staleReply, r, w)
  | (true, w) =>
    match r.state with
    | .preparingRemote p =>
      if request ≠ p.request ∨ (p.session.any fun s => s ≠ offeredSession) then (.error .staleReply, r, w)
      else (.ok (), { r with state := .preparingRemote { p with session := some offeredSession } }, w)
    | _ => (.error .staleReply, r, w)

/-- Why `advance` gives a preparation up, if it does. -/
def giveUp (p : Preparing) (nowMs : UInt64) (keysReleased still : Bool) : Option ReturnReason :=
  if !still then some .emergency
  else if p.deadlineMs ≤ nowMs then some .timeout
  else if (!keysReleased && p.commitSent) ||
      ((!keysReleased || !p.keysReleasedSeen) && p.keysDeadlineMs ≤ nowMs) then some .keysHeld
  else none

/-- `goLocal`, as the answer of `advance`. -/
def leave (r : Router) (reason : ReturnReason) (w : World ν) :
    Except RouteError (List RouteEffect) × Router × World ν :=
  let (effects, r, w) := r.goLocal reason w
  (.ok effects, r, w)

def advance (r : Router) (nowMs : UInt64) (keysReleased : Bool) (w : World ν) :
    Except RouteError (List RouteEffect) × Router × World ν :=
  match r.state with
  | .preparingRemote p =>
    let (still, w) := w.stillPreparing p.request
    match giveUp p nowMs keysReleased still with
    | some reason => r.leave reason w
    | none =>
      let p := { p with keysReleasedSeen := keysReleased }
      let r := { r with state := .preparingRemote p }
      if p.commitSent || !keysReleased then (.ok [], r, w) else
      match p.session with
      | none => (.ok [], r, w)
      | some session =>
        match w.prepareFocus with
        | (.error _, w) => r.leave .focusUnavailable w
        | (.ok (), w) =>
          match w.stillPreparing p.request with
          | (false, w) => r.leave .emergency w
          | (true, w) =>
            (.ok [.commit p.request session],
              { r with state := .preparingRemote { p with commitSent := true } }, w)
  | .remoteActive _ _ =>
    match w.isLocal with
    | (true, w) => r.leave .emergency w
    | (false, w) => (.ok [], r, w)
  | _ => (.ok [], r, w)

/-- On error the caller must close or abort the attempted session. -/
def commitAck (r : Router) (request : UInt64) (session : BitVec 128) (nowMs : UInt64) (w : World ν) :
    Except RouteError Unit × Router × World ν :=
  match r.state with
  | .preparingRemote p =>
    if p.request ≠ request ∨ p.session ≠ some session ∨ p.commitSent = false then (.error .staleReply, r, w) else
    if p.deadlineMs ≤ nowMs then (.error .cancelled, (r.goLocal .timeout w).2) else
    match w.stillPreparing request with
    | (false, w) => (.error .cancelled, (r.goLocal .emergency w).2)
    | (true, w) =>
      -- the gate is still local while the platform prepares active capture
      match w.activateCapture with
      | (.error error, w) => (.error (.capture error), (r.goLocal .captureFailed w).2)
      | (.ok (), w) =>
        match w.activate request with
        | (false, w) => (.error .cancelled, (r.goLocal .emergency w).2)
        | (true, w) => (.ok (), { r with state := .remoteActive p.peer session }, w)
  | _ => (.error .staleReply, r, w)

/-! ### One lemma for each operation -/

/-- The router after a return. -/
def returned (r : Router) (reason : ReturnReason) : Router :=
  { r with state := r.localState, lastReturn := some reason }

@[simp] theorem returned_isLocal (r : Router) (reason : ReturnReason) : (r.returned reason).state.isLocal = true :=
  r.localState_isLocal

@[simp] theorem goLocal_router (r : Router) (reason : ReturnReason) (w : World ν) :
    (r.goLocal reason w).2.1 = r.returned reason := rfl

theorem goLocal_drifts (r : Router) (reason : ReturnReason) (w : World ν) :
    w.Drifts (r.goLocal reason w).2.2 := by
  unfold goLocal
  dsimp only
  split
  · exact w.callRequestLocal_drifts
  · exact w.callRequestLocal_drifts.trans w.callRequestLocal.requestLocalRestore_drifts

@[simp] theorem goLocal_gate (r : Router) (reason : ReturnReason) (w : World ν) :
    (r.goLocal reason w).2.2.gate.isLocal = true := by
  unfold goLocal
  dsimp only
  split
  · exact w.callRequestLocal_isLocal
  · exact w.callRequestLocal.requestLocalRestore_drifts.isLocal w.callRequestLocal_isLocal

theorem setGameMode_cases (r : Router) (enabled : Bool) :
    (r.state.isLocal = true ∧ (r.setGameMode enabled).state.isLocal = true) ∨
      (r.state.isLocal = false ∧ (r.setGameMode enabled).state = r.state) := by
  unfold setGameMode
  dsimp only
  split
  · rename_i h
    exact Or.inl ⟨h, localState_isLocal _⟩
  · rename_i h
    exact Or.inr ⟨by simpa using h, rfl⟩

/-- What `goRemote` can do. -/
inductive GoRemoteStep (r : Router) (peer : String) (nowMs : UInt64) (w : World ν) :
    Except RouteError (List RouteEffect) × Router × World ν → Prop
  | refused {error : RouteError} {w' : World ν} : w.Drifts w' → GoRemoteStep r peer nowMs w (.error error, r, w')
  | again : r.state.isLocal = false → GoRemoteStep r peer nowMs w (.ok [], r, w)
  | failed {error : RouteError} {reason : ReturnReason} {request : UInt64} {w₁ w' : World ν} :
      r.state.isLocal = true → w.Reserves request w₁ → w₁.Drifts w' → w'.gate.isLocal = true →
      GoRemoteStep r peer nowMs w (.error error, r.returned reason, w')
  | prepared {p : Preparing} {w₁ w' : World ν} :
      r.state.isLocal = true → p.peer = peer → p.session = none → p.commitSent = false →
      nowMs.toNat + 2500 = p.deadlineMs.toNat →
      w.Reserves p.request w₁ → w₁.Drifts w' → w'.gate.word = p.request →
      GoRemoteStep r peer nowMs w (.ok [.prepare peer p.request], { r with state := .preparingRemote p }, w')

theorem GoRemoteStep.gone {r r₁ : Router} {peer : String} {nowMs request : UInt64} {w w₁ w₂ : World ν}
    {reason : ReturnReason} (error : RouteError) (hlocal : r.state.isLocal = true)
    (hreserves : w.Reserves request w₁) (hdrifts : w₁.Drifts w₂) (hr : r₁.returned reason = r.returned reason) :
    GoRemoteStep r peer nowMs w (.error error, (r₁.goLocal reason w₂).2) := by
  have hstep : GoRemoteStep r peer nowMs w (.error error, r.returned reason, (r₁.goLocal reason w₂).2.2) :=
    .failed hlocal hreserves (hdrifts.trans (goLocal_drifts r₁ reason w₂)) (goLocal_gate r₁ reason w₂)
  rwa [← hr, ← goLocal_router r₁ reason w₂] at hstep

theorem goRemote_cases (r : Router) (peer : String) (nowMs : UInt64) (w : World ν) :
    GoRemoteStep r peer nowMs w (r.goRemote peer nowMs w) := by
  unfold goRemote
  split
  · exact .refused (World.Drifts.refl w)
  split
  · rename_i p hstate
    split
    · exact .again (by rw [hstate]; rfl)
    · exact .refused (World.Drifts.refl w)
  · rename_i current session hstate
    split
    · exact .again (by rw [hstate]; rfl)
    · exact .refused (World.Drifts.refl w)
  · exact .refused (World.Drifts.refl w)
  all_goals
    rename_i hstate
    have hlocal : r.state.isLocal = true := by rw [hstate]; rfl
    split
    · exact .refused (World.Drifts.refl w)
    rename_i deadlineMs hdeadline
    split
    · exact .refused (World.Drifts.refl w)
    rename_i keysDeadlineMs hkeys
    rcases w.reserve_cases with ⟨hres, hdrift⟩ | ⟨request, hres, hreserves⟩
    · cases hw : w.reserve with
      | mk answer w₁ =>
        rw [hw] at hres hdrift
        subst hres
        exact .refused hdrift
    cases hw : w.reserve with
    | mk answer w₁ =>
    rw [hw] at hres hreserves
    subst hres
    have hprep := w₁.prepareCapture_drifts
    dsimp only
    cases hp : w₁.prepareCapture with
    | mk answer w₂ =>
    rw [hp] at hprep
    cases answer with
    | error error =>
      exact .gone _ hlocal hreserves hprep rfl
    | ok u =>
      have hstill := w₂.stillPreparing_drifts request
      have heq := w₂.stillPreparing_eq request
      dsimp only
      cases hs : w₂.stillPreparing request with
      | mk still w₃ =>
      rw [hs] at hstill heq
      cases still with
      | false =>
        exact .gone _ hlocal hreserves (hprep.trans hstill) rfl
      | true =>
        exact .prepared (p := ⟨peer, request, deadlineMs, keysDeadlineMs, false, none, false⟩) hlocal rfl rfl rfl
          (checkedAdd_eq_some.mp hdeadline) hreserves (hprep.trans hstill) (of_decide_eq_true heq.symm)

/-- What `ready` can do. -/
inductive ReadyStep (r : Router) (request : UInt64) (offeredSession : BitVec 128) (w : World ν) :
    Except RouteError Unit × Router × World ν → Prop
  | stale {w' : World ν} : w.Drifts w' → ReadyStep r request offeredSession w (.error .staleReply, r, w')
  | accepted {p : Preparing} {w' : World ν} :
      r.state = .preparingRemote p → p.request = request → offeredSession ≠ 0 →
      (∀ s, p.session = some s → s = offeredSession) → w.Drifts w' → w'.gate.word = request →
      ReadyStep r request offeredSession w
        (.ok (), { r with state := .preparingRemote { p with session := some offeredSession } }, w')

theorem ready_cases (r : Router) (request : UInt64) (offeredSession : BitVec 128) (w : World ν) :
    ReadyStep r request offeredSession w (r.ready request offeredSession w) := by
  unfold ready
  split
  · exact .stale (World.Drifts.refl w)
  rename_i hoffered
  have hstill := w.stillPreparing_drifts request
  have heq := w.stillPreparing_eq request
  cases hs : w.stillPreparing request with
  | mk still w₁ =>
  rw [hs] at hstill heq
  cases still with
  | false => exact .stale hstill
  | true =>
    dsimp only
    split
    · rename_i p hstate
      split
      · exact .stale hstill
      · rename_i hfit
        push Not at hfit
        refine .accepted hstate hfit.1.symm hoffered ?_ hstill (of_decide_eq_true heq.symm)
        intro s hsome
        simpa [hsome] using hfit.2
    · exact .stale hstill

/-- What `advance` can do. -/
inductive AdvanceStep (r : Router) (nowMs : UInt64) (keysReleased : Bool) (w : World ν) :
    Except RouteError (List RouteEffect) × Router × World ν → Prop
  | idle {w' : World ν} : (∀ p, r.state ≠ .preparingRemote p) → w.Drifts w' →
      AdvanceStep r nowMs keysReleased w (.ok [], r, w')
  | left {reason : ReturnReason} {w' : World ν} : r.state.isLocal = false → w.Drifts w' → w'.gate.isLocal = true →
      AdvanceStep r nowMs keysReleased w (.ok (r.state.leaveEffects reason), r.returned reason, w')
  | waits {p : Preparing} {w' : World ν} : r.state = .preparingRemote p → nowMs < p.deadlineMs → w.Drifts w' →
      AdvanceStep r nowMs keysReleased w
        (.ok [], { r with state := .preparingRemote { p with keysReleasedSeen := keysReleased } }, w')
  | commits {p : Preparing} {session : BitVec 128} {w' : World ν} :
      r.state = .preparingRemote p → nowMs < p.deadlineMs → p.session = some session → p.commitSent = false →
      keysReleased = true → w.Drifts w' → w'.gate.word = p.request →
      AdvanceStep r nowMs keysReleased w (.ok [.commit p.request session],
        { r with state := .preparingRemote { p with keysReleasedSeen := keysReleased, commitSent := true } }, w')

theorem AdvanceStep.gone {r r₁ : Router} {nowMs : UInt64} {keysReleased : Bool} {w w₁ : World ν}
    {reason : ReturnReason} (hstate : r.state.isLocal = false) (hdrifts : w.Drifts w₁)
    (hr : r₁.returned reason = r.returned reason)
    (heffects : r₁.state.leaveEffects reason = r.state.leaveEffects reason) :
    AdvanceStep r nowMs keysReleased w (r₁.leave reason w₁) := by
  have hstep : AdvanceStep r nowMs keysReleased w
      (.ok (r.state.leaveEffects reason), r.returned reason, (r₁.goLocal reason w₁).2.2) :=
    .left hstate (hdrifts.trans (goLocal_drifts r₁ reason w₁)) (goLocal_gate r₁ reason w₁)
  rwa [← hr, ← heffects] at hstep

theorem lt_of_giveUp_eq_none {p : Preparing} {nowMs : UInt64} {keysReleased still : Bool}
    (h : giveUp p nowMs keysReleased still = none) : nowMs < p.deadlineMs := by
  unfold giveUp at h
  split at h
  · cases h
  split at h
  · cases h
  · rename_i hlt
    rw [UInt64.lt_iff_toNat_lt]
    rw [UInt64.le_iff_toNat_le] at hlt
    omega

theorem advance_cases (r : Router) (nowMs : UInt64) (keysReleased : Bool) (w : World ν) :
    AdvanceStep r nowMs keysReleased w (r.advance nowMs keysReleased w) := by
  unfold advance
  split
  · rename_i p hstate
    have hlocal : r.state.isLocal = false := by rw [hstate]; rfl
    have heffects : ∀ reason,
      (RouteState.preparingRemote { p with keysReleasedSeen := keysReleased }).leaveEffects reason =
        r.state.leaveEffects reason := by
      intro reason
      rw [hstate]
      rfl
    have hstill := w.stillPreparing_drifts p.request
    cases hs : w.stillPreparing p.request with
    | mk still w₁ =>
    rw [hs] at hstill
    dsimp only
    split
    · exact .gone hlocal hstill rfl rfl
    rename_i hgive
    have hlt := lt_of_giveUp_eq_none hgive
    split
    · exact .waits hstate hlt hstill
    rename_i hcommit
    obtain ⟨hsent, rfl⟩ : p.commitSent = false ∧ keysReleased = true := by simpa using hcommit
    split
    · exact .waits hstate hlt hstill
    rename_i session hsession
    have hfocus := w₁.prepareFocus_drifts
    cases hf : w₁.prepareFocus with
    | mk answer w₂ =>
    rw [hf] at hfocus
    cases answer with
    | error e => exact .gone hlocal (hstill.trans hfocus) rfl (heffects _)
    | ok u =>
      have hagain := w₂.stillPreparing_drifts p.request
      have heq := w₂.stillPreparing_eq p.request
      dsimp only
      cases hs₂ : w₂.stillPreparing p.request with
      | mk still₂ w₃ =>
      rw [hs₂] at hagain heq
      cases still₂ with
      | false => exact .gone hlocal ((hstill.trans hfocus).trans hagain) rfl (heffects _)
      | true =>
        exact .commits hstate hlt hsession hsent rfl ((hstill.trans hfocus).trans hagain)
          (of_decide_eq_true heq.symm)
  · rename_i peer session hstate
    have hlocal : r.state.isLocal = false := by rw [hstate]; rfl
    have hdrift := w.isLocal_drifts
    cases hl : w.isLocal with
    | mk isLocal w₁ =>
    rw [hl] at hdrift
    cases isLocal with
    | true => exact .gone hlocal hdrift rfl rfl
    | false => exact .idle (by simp [hstate]) hdrift
  · rename_i hprep _
    exact .idle hprep (World.Drifts.refl w)

/-- What `commitAck` can do. -/
inductive CommitAckStep (r : Router) (request : UInt64) (session : BitVec 128) (nowMs : UInt64) (w : World ν) :
    Except RouteError Unit × Router × World ν → Prop
  | stale :
      (∀ p, r.state = .preparingRemote p →
        ¬ (p.request = request ∧ p.session = some session ∧ p.commitSent = true)) →
      CommitAckStep r request session nowMs w (.error .staleReply, r, w)
  | failed {p : Preparing} {error : RouteError} {reason : ReturnReason} {w' : World ν} :
      r.state = .preparingRemote p → p.request = request → p.session = some session → p.commitSent = true →
      w.Drifts w' → w'.gate.isLocal = true →
      CommitAckStep r request session nowMs w (.error error, r.returned reason, w')
  | activated {p : Preparing} {w' : World ν} :
      r.state = .preparingRemote p → p.request = request → p.session = some session → p.commitSent = true →
      nowMs < p.deadlineMs → w.Captures request w' →
      CommitAckStep r request session nowMs w (.ok (), { r with state := .remoteActive p.peer session }, w')

theorem commitAck_cases (r : Router) (request : UInt64) (session : BitVec 128) (nowMs : UInt64) (w : World ν) :
    CommitAckStep r request session nowMs w (r.commitAck request session nowMs w) := by
  unfold commitAck
  split
  · rename_i p hstate
    split
    · rename_i hmiss
      refine .stale ?_
      intro p' hp'
      rw [hstate] at hp'
      cases hp'
      rintro ⟨hreq, hses, hsent⟩
      rcases hmiss with h | h | h
      · exact h hreq
      · exact h hses
      · rw [hsent] at h
        cases h
    rename_i hmatch
    push Not at hmatch
    obtain ⟨hreq, hses, hsent⟩ := hmatch
    replace hsent : p.commitSent = true := by simpa using hsent
    have hfailed : ∀ error reason w₁, w.Drifts w₁ →
        CommitAckStep r request session nowMs w (.error error, (r.goLocal reason w₁).2) := by
      intro error reason w₁ hdrift
      exact .failed hstate hreq hses hsent (hdrift.trans (goLocal_drifts r reason w₁)) (goLocal_gate r reason w₁)
    split
    · exact hfailed _ _ w (World.Drifts.refl w)
    rename_i hlate
    have hlt : nowMs < p.deadlineMs := by
      rw [UInt64.lt_iff_toNat_lt]
      rw [UInt64.le_iff_toNat_le] at hlate
      omega
    have hstill := w.stillPreparing_drifts request
    cases hs : w.stillPreparing request with
    | mk still w₁ =>
    rw [hs] at hstill
    cases still with
    | false => exact hfailed _ _ w₁ hstill
    | true =>
      have hcap := w₁.activateCapture_drifts
      dsimp only
      cases hc : w₁.activateCapture with
      | mk answer w₂ =>
      rw [hc] at hcap
      cases answer with
      | error error => exact hfailed _ _ w₂ (hstill.trans hcap)
      | ok u =>
        dsimp only
        rcases World.activate_cases hstill hc request with ⟨hact, hdrift⟩ | ⟨hact, hcaptures⟩
        · cases ha : w₂.activate request with
          | mk answer w₃ =>
          rw [ha] at hact hdrift
          subst hact
          exact hfailed _ _ w₃ hdrift
        · cases ha : w₂.activate request with
          | mk answer w₃ =>
          rw [ha] at hact hcaptures
          subst hact
          exact .activated hstate hreq hses hsent hlt hcaptures
  · rename_i hprep
    exact .stale (fun p hp => absurd hp (hprep p))

end Router

end MyKvm.Routing
