import MyKvm.Lib.Between
import MyKvm.Routing.Capture

/-!
# MyKvm.Routing.Accounting — what the router asks of the platform

The calls of the ports in a run of the router, whatever the ports answer and whatever the other threads do: every
prepared capture is given back once, the focus is asked for once in a preparation, and a `Commit` is sent once,
when the keys are up.

* `*_tally`: what each operation asks for.
* `next_accounts`: the accounts of a run.
* `router_accounting`: the result.
-/

namespace MyKvm.Routing

open MyKvm.Lib MyKvm.Lib.Between LocalOverride

/-! ### The calls of the ports -/

section Tally

variable {ν : Type}

namespace Event

def isPrepareCapture : Event ν → Bool
  | .prepareCapture _ => true
  | _ => false

def isRestore : Event ν → Bool
  | .requestLocalRestore => true
  | _ => false

def isFocus : Event ν → Bool
  | .prepareFocus _ => true
  | _ => false

end Event

/-- How often each port was called. -/
structure Tally where
  captures : ℕ
  restores : ℕ
  focuses : ℕ
  deriving DecidableEq

namespace World

def tally (w : World ν) : Tally :=
  ⟨w.log.countP Event.isPrepareCapture, w.log.countP Event.isRestore, w.log.countP Event.isFocus⟩

theorem requestLocals_tally (n : ℕ) (w : World ν) : (requestLocals n w).tally = w.tally := by
  induction n generalizing w with
  | zero => rfl
  | succ n ih =>
    rw [requestLocals, ih]
    simp [tally, requestLocal, Event.isPrepareCapture, Event.isRestore, Event.isFocus]

/-- **The outside** calls no port. -/
@[simp] theorem pass_tally (w : World ν) : w.pass.2.tally = w.tally := by
  unfold pass
  split
  · rfl
  · exact requestLocals_tally _ _

@[simp] theorem isLocal_tally (w : World ν) : w.isLocal.2.tally = w.tally := w.pass_tally

@[simp] theorem stillPreparing_tally (w : World ν) (n : UInt64) :
    (w.stillPreparing n).2.tally = w.tally := w.pass_tally

@[simp] theorem reserve_tally (w : World ν) : w.reserve.2.tally = w.tally := by
  rw [← w.pass_tally]
  unfold reserve
  dsimp only
  split <;> simp [tally, Event.isPrepareCapture, Event.isRestore, Event.isFocus]

@[simp] theorem activate_tally (w : World ν) (n : UInt64) : (w.activate n).2.tally = w.tally := by
  rw [← w.pass_tally]
  unfold activate
  dsimp only
  split <;> simp [tally, Event.isPrepareCapture, Event.isRestore, Event.isFocus]

@[simp] theorem callRequestLocal_tally (w : World ν) : w.callRequestLocal.tally = w.tally := by
  rw [← w.pass_tally]
  simp [callRequestLocal, requestLocal, tally, Event.isPrepareCapture, Event.isRestore, Event.isFocus]

@[simp] theorem activateCapture_tally (w : World ν) : w.activateCapture.2.tally = w.tally := by
  rw [← w.pass_tally]
  simp [activateCapture, record, tally, Event.isPrepareCapture, Event.isRestore, Event.isFocus]

@[simp] theorem prepareCapture_tally (w : World ν) :
    w.prepareCapture.2.tally = { w.tally with captures := w.tally.captures + 1 } := by
  rw [← w.pass_tally]
  simp [prepareCapture, record, tally, List.countP_cons, Event.isPrepareCapture, Event.isRestore, Event.isFocus]

@[simp] theorem requestLocalRestore_tally (w : World ν) :
    w.requestLocalRestore.tally = { w.tally with restores := w.tally.restores + 1 } := by
  rw [← w.pass_tally]
  simp [requestLocalRestore, record, tally, List.countP_cons, Event.isPrepareCapture, Event.isRestore,
    Event.isFocus]

@[simp] theorem prepareFocus_tally (w : World ν) :
    w.prepareFocus.2.tally = { w.tally with focuses := w.tally.focuses + 1 } := by
  rw [← w.pass_tally]
  simp [prepareFocus, record, tally, List.countP_cons, Event.isPrepareCapture, Event.isRestore, Event.isFocus]

end World

end Tally

/-! ### What each operation asks for -/

namespace Router

variable {ν : Type}

/-- `1` while a capture is prepared or active. -/
def held (r : Router) : ℕ := if r.state.isLocal then 0 else 1

@[simp] theorem returned_held (r : Router) (reason : ReturnReason) : (r.returned reason).held = 0 := by
  rw [held, if_pos (r.returned_isLocal reason)]

/-- A return gives back what is held. -/
@[simp] theorem goLocal_tally (r : Router) (reason : ReturnReason) (w : World ν) :
    (r.goLocal reason w).2.2.tally = { w.tally with restores := w.tally.restores + r.held } := by
  unfold goLocal held
  dsimp only
  split <;> simp

/-- What `goRemote` asks for, and what it writes down for a preparation which begins. -/
inductive GoRemoteBooks (r : Router) (peer : String) (nowMs : UInt64) (w : World ν) :
    Except RouteError (List RouteEffect) × Router × World ν → Prop
  | refused {error : RouteError} {w' : World ν} :
      w'.tally = w.tally → GoRemoteBooks r peer nowMs w (.error error, r, w')
  | again : GoRemoteBooks r peer nowMs w (.ok [], r, w)
  | failed {error : RouteError} {reason : ReturnReason} {w' : World ν} : r.held = 0 →
      w'.tally = { w.tally with captures := w.tally.captures + 1, restores := w.tally.restores + 1 } →
      GoRemoteBooks r peer nowMs w (.error error, r.returned reason, w')
  | prepared {p : Preparing} {w' : World ν} : r.held = 0 →
      w'.tally = { w.tally with captures := w.tally.captures + 1 } →
      p.peer = peer → p.session = none → p.commitSent = false → p.keysReleasedSeen = false →
      nowMs.toNat + 2500 = p.deadlineMs.toNat → nowMs.toNat + 1500 = p.keysDeadlineMs.toNat →
      GoRemoteBooks r peer nowMs w (.ok [.prepare peer p.request], { r with state := .preparingRemote p }, w')

theorem goRemote_books (r : Router) (peer : String) (nowMs : UInt64) (w : World ν) :
    GoRemoteBooks r peer nowMs w (r.goRemote peer nowMs w) := by
  unfold goRemote
  split
  · exact .refused rfl
  split
  · split
    · exact .again
    · exact .refused rfl
  · split
    · exact .again
    · exact .refused rfl
  · exact .refused rfl
  all_goals
    rename_i hstate
    have hheld : r.held = 0 := by rw [held, hstate]; rfl
    split
    · exact .refused rfl
    rename_i deadlineMs hdeadline
    split
    · exact .refused rfl
    rename_i keysDeadlineMs hkeys
    have hreserve := w.reserve_tally
    cases hw : w.reserve with
    | mk answer w₁ =>
    rw [hw] at hreserve
    cases answer with
    | error error => exact .refused hreserve
    | ok request =>
    have hprepare := w₁.prepareCapture_tally
    dsimp only
    cases hp : w₁.prepareCapture with
    | mk answer w₂ =>
    rw [hp, hreserve] at hprepare
    let p : Preparing := ⟨peer, request, deadlineMs, keysDeadlineMs, false, none, false⟩
    have hfailed : ∀ error reason (w₃ : World ν), w₃.tally = w₂.tally → GoRemoteBooks r peer nowMs w
        (.error error, (goLocal { r with state := .preparingRemote p } reason w₃).2) := by
      intro error reason w₃ hw₃
      have htally := goLocal_tally { r with state := .preparingRemote p } reason w₃
      rw [hw₃, hprepare] at htally
      exact .failed hheld htally
    cases answer with
    | error error => exact hfailed _ _ w₂ rfl
    | ok u =>
      have hstill := w₂.stillPreparing_tally request
      dsimp only
      cases hs : w₂.stillPreparing request with
      | mk still w₃ =>
      rw [hs] at hstill
      cases still with
      | false => exact hfailed _ _ w₃ hstill
      | true =>
        exact .prepared (p := p) hheld (hstill.trans hprepare)
          rfl rfl rfl rfl (checkedAdd_eq_some.mp hdeadline) (checkedAdd_eq_some.mp hkeys)

theorem ready_tally (r : Router) (request : UInt64) (offeredSession : BitVec 128) (w : World ν) :
    (r.ready request offeredSession w).2.2.tally = w.tally := by
  have hstill := w.stillPreparing_tally request
  unfold ready
  split
  · rfl
  split
  · rename_i heq
    rw [heq] at hstill
    exact hstill
  · rename_i heq
    rw [heq] at hstill
    split
    · split <;> exact hstill
    · exact hstill

/-- What `advance` asks for.  The focus is asked for before the `Commit` only, and the keys are up then. -/
inductive AdvanceBooks (r : Router) (nowMs : UInt64) (keysReleased : Bool) (w : World ν) :
    Except RouteError (List RouteEffect) × Router × World ν → Prop
  | idle {w' : World ν} : (∀ p, r.state ≠ .preparingRemote p) → w'.tally = w.tally →
      AdvanceBooks r nowMs keysReleased w (.ok [], r, w')
  | left {reason : ReturnReason} {n : ℕ} {w' : World ν} : r.held = 1 →
      (n = 0 ∨ n = 1 ∧ ∃ p, r.state = .preparingRemote p ∧ p.commitSent = false) →
      w'.tally = { w.tally with restores := w.tally.restores + 1, focuses := w.tally.focuses + n } →
      AdvanceBooks r nowMs keysReleased w (.ok (r.state.leaveEffects reason), r.returned reason, w')
  | waits {p : Preparing} {w' : World ν} : r.state = .preparingRemote p →
      (p.commitSent = true → keysReleased = true) →
      w'.tally = w.tally → AdvanceBooks r nowMs keysReleased w
        (.ok [], { r with state := .preparingRemote { p with keysReleasedSeen := keysReleased } }, w')
  | commits {p : Preparing} {session : BitVec 128} {w' : World ν} :
      r.state = .preparingRemote p → p.session = some session → p.commitSent = false → keysReleased = true →
      nowMs < p.deadlineMs → (nowMs < p.keysDeadlineMs ∨ p.keysReleasedSeen = true) →
      w'.tally = { w.tally with focuses := w.tally.focuses + 1 } →
      AdvanceBooks r nowMs keysReleased w (.ok [.commit p.request session],
        { r with state := .preparingRemote { p with keysReleasedSeen := keysReleased, commitSent := true } }, w')

/-- An `advance` which does not give up is in time, and the keys are up where they have to be. -/
theorem giveUp_eq_none {p : Preparing} {nowMs : UInt64} {keysReleased still : Bool}
    (h : giveUp p nowMs keysReleased still = none) :
    nowMs < p.deadlineMs ∧ (p.commitSent = true → keysReleased = true) ∧
      (nowMs < p.keysDeadlineMs ∨ keysReleased = true ∧ p.keysReleasedSeen = true) := by
  refine ⟨lt_of_giveUp_eq_none h, ?_⟩
  unfold giveUp at h
  split at h
  · cases h
  split at h
  · cases h
  split at h
  · cases h
  · rename_i hkeys
    rw [Bool.or_eq_true, not_or] at hkeys
    refine ⟨fun hsent => ?_, ?_⟩
    · simpa [hsent] using hkeys.1
    · by_cases hlate : p.keysDeadlineMs ≤ nowMs
      · right
        simpa [hlate] using hkeys.2
      · left
        rw [UInt64.lt_iff_toNat_lt]
        rw [UInt64.le_iff_toNat_le] at hlate
        omega

theorem advance_books (r : Router) (nowMs : UInt64) (keysReleased : Bool) (w : World ν) :
    AdvanceBooks r nowMs keysReleased w (r.advance nowMs keysReleased w) := by
  unfold advance
  split
  · rename_i p hstate
    have hheld : r.held = 1 := by rw [held, hstate]; rfl
    have hleave : ∀ (r₁ : Router) reason n (w₁ : World ν), r₁.returned reason = r.returned reason →
        r₁.state.leaveEffects reason = r.state.leaveEffects reason → r₁.held = 1 →
        (n = 0 ∨ n = 1 ∧ ∃ p, r.state = .preparingRemote p ∧ p.commitSent = false) →
        w₁.tally = { w.tally with focuses := w.tally.focuses + n } →
        AdvanceBooks r nowMs keysReleased w (r₁.leave reason w₁) := by
      intro r₁ reason n w₁ hr heffects hheld₁ hn hw₁
      have htally : (r₁.goLocal reason w₁).2.2.tally =
          { w.tally with restores := w.tally.restores + 1, focuses := w.tally.focuses + n } := by
        rw [goLocal_tally, hw₁, hheld₁]
      have hleft : AdvanceBooks r nowMs keysReleased w
          (.ok (r.state.leaveEffects reason), r.returned reason, (r₁.goLocal reason w₁).2.2) :=
        AdvanceBooks.left hheld hn htally
      rwa [← hr, ← heffects] at hleft
    have hstill := w.stillPreparing_tally p.request
    cases hs : w.stillPreparing p.request with
    | mk still w₁ =>
    rw [hs] at hstill
    dsimp only
    split
    · exact hleave r _ 0 w₁ rfl rfl hheld (.inl rfl) hstill
    rename_i hgive
    obtain ⟨hlt, hsampled, hkeys⟩ := giveUp_eq_none hgive
    split
    · exact .waits hstate hsampled hstill
    rename_i hcommit
    obtain ⟨hsent, rfl⟩ : p.commitSent = false ∧ keysReleased = true := by simpa using hcommit
    split
    · exact .waits hstate hsampled hstill
    rename_i session hsession
    have hfocus := w₁.prepareFocus_tally
    have heffects : ∀ reason,
      (RouteState.preparingRemote { p with keysReleasedSeen := true }).leaveEffects reason =
        r.state.leaveEffects reason := by
      intro reason
      rw [hstate]
      rfl
    cases hf : w₁.prepareFocus with
    | mk answer w₂ =>
    rw [hf, hstill] at hfocus
    cases answer with
    | error e => exact hleave _ _ 1 w₂ rfl (heffects _) rfl (.inr ⟨rfl, p, hstate, hsent⟩) hfocus
    | ok u =>
      have hagain := w₂.stillPreparing_tally p.request
      dsimp only
      cases hs₂ : w₂.stillPreparing p.request with
      | mk still₂ w₃ =>
      rw [hs₂] at hagain
      cases still₂ with
      | false => exact hleave _ _ 1 w₃ rfl (heffects _) rfl (.inr ⟨rfl, p, hstate, hsent⟩) (hagain.trans hfocus)
      | true => exact .commits hstate hsession hsent rfl hlt (hkeys.imp_right And.right) (hagain.trans hfocus)
  · rename_i peer session hstate
    have hheld : r.held = 1 := by rw [held, hstate]; rfl
    have htally := w.isLocal_tally
    cases hl : w.isLocal with
    | mk isLocal w₁ =>
    rw [hl] at htally
    cases isLocal with
    | true =>
      have hleft := goLocal_tally r .emergency w₁
      rw [htally, hheld] at hleft
      exact .left (n := 0) hheld (.inl rfl) hleft
    | false => exact .idle (by simp [hstate]) htally
  · rename_i hprep _
    exact .idle hprep rfl

/-- What `commitAck` asks for. -/
inductive CommitAckBooks (r : Router) (session : BitVec 128) (w : World ν) :
    Except RouteError Unit × Router × World ν → Prop
  | stale : CommitAckBooks r session w (.error .staleReply, r, w)
  | failed {error : RouteError} {reason : ReturnReason} {w' : World ν} : r.held = 1 →
      w'.tally = { w.tally with restores := w.tally.restores + 1 } →
      CommitAckBooks r session w (.error error, r.returned reason, w')
  | activated {p : Preparing} {w' : World ν} : r.state = .preparingRemote p → w'.tally = w.tally →
      CommitAckBooks r session w (.ok (), { r with state := .remoteActive p.peer session }, w')

theorem commitAck_books (r : Router) (request : UInt64) (session : BitVec 128) (nowMs : UInt64) (w : World ν) :
    CommitAckBooks r session w (r.commitAck request session nowMs w) := by
  unfold commitAck
  split
  · rename_i p hstate
    have hheld : r.held = 1 := by rw [held, hstate]; rfl
    have hfailed : ∀ error reason (w₁ : World ν), w₁.tally = w.tally →
        CommitAckBooks r session w (.error error, (r.goLocal reason w₁).2) := by
      intro error reason w₁ hw₁
      have htally := goLocal_tally r reason w₁
      rw [hw₁, hheld] at htally
      exact .failed hheld htally
    split
    · exact .stale
    split
    · exact hfailed _ _ w rfl
    have hstill := w.stillPreparing_tally request
    cases hs : w.stillPreparing request with
    | mk still w₁ =>
    rw [hs] at hstill
    cases still with
    | false => exact hfailed _ _ w₁ hstill
    | true =>
      have hcapture := w₁.activateCapture_tally
      dsimp only
      cases hc : w₁.activateCapture with
      | mk answer w₂ =>
      rw [hc, hstill] at hcapture
      cases answer with
      | error error => exact hfailed _ _ w₂ hcapture
      | ok u =>
        have hactivate := w₂.activate_tally request
        dsimp only
        cases ha : w₂.activate request with
        | mk active w₃ =>
        rw [ha, hcapture] at hactivate
        cases active with
        | false => exact hfailed _ _ w₃ hactivate
        | true => exact .activated hstate hactivate
  · exact .stale

end Router

/-! ### The ledger in the log -/

namespace Event

/-- A `goRemote` which was accepted. -/
def isBegun : Event RouterNote → Bool
  | .note ⟨.goRemote _ _, .ok [.prepare _ _]⟩ => true
  | _ => false

/-- A call which sent a `Commit`. -/
def isCommit : Event RouterNote → Bool
  | .note ⟨_, .ok effects⟩ => effects.any fun effect => match effect with
    | .commit _ _ => true
    | _ => false
  | _ => false

/-- The key sample of an `advance`. -/
def sample : Event RouterNote → Option Bool
  | .note ⟨.advance _ keysReleased, _⟩ => some keysReleased
  | _ => none

end Event

def lastSample (log : List (Event RouterNote)) : Option Bool := log.findSome? Event.sample

/-- A `Commit` after the log `before`: the keys are up, `ready` recorded the session, the preparation is in time,
and once the keys have run out of time they were up at the last sample as well. -/
def Justified (c : RouterCall) (effects : List RouteEffect) (request : UInt64) (session : BitVec 128)
    (before : List (Event RouterNote)) : Prop :=
  ∃ nowMs, c = .advance nowMs true ∧ effects = [.commit request session] ∧
    ∃ peer start recent old, before = recent ++ begun peer request start :: old ∧
    (∀ e ∈ recent, e.isBegun = false) ∧
      offered request session ∈ recent ∧ nowMs.toNat < start.toNat + 2500 ∧
      (nowMs.toNat < start.toNat + 1500 ∨ lastSample recent = some true)

/-- Every `Commit` of the log. -/
def AllJustified : List (Event RouterNote) → Prop
  | [] => True
  | e :: log => AllJustified log ∧ ∀ c effects request session, e = .note ⟨c, .ok effects⟩ →
      .commit request session ∈ effects → Justified c effects request session log

/-- What the router wrote down for an outstanding preparation, in the words of the log. -/
def Written (p : Preparing) (log : List (Event RouterNote)) : Prop :=
  ∃ recent old start, log = recent ++ begun p.peer p.request start :: old ∧ (∀ e ∈ recent, e.isBegun = false) ∧
    start.toNat + 2500 = p.deadlineMs.toNat ∧ start.toNat + 1500 = p.keysDeadlineMs.toNat ∧
    (∀ s, p.session = some s → offered p.request s ∈ recent) ∧
    (p.keysReleasedSeen = true → lastSample recent = some true) ∧
    (p.commitSent = false → recent.countP Event.isFocus = 0 ∧ recent.countP Event.isCommit = 0)

/-- The ledger of a router in the state `state`. -/
structure Ledger (state : RouteState) (log : List (Event RouterNote)) : Prop where
  focuses : Sparse Event.isBegun Event.isFocus log
  commits : Sparse Event.isBegun Event.isCommit log
  justified : AllJustified log
  written : ∀ p, state = .preparingRemote p → Written p log
  atRest : ∀ reason, state ≠ .returningLocal reason

/-- Events which are no notes begin nothing, send nothing and sample nothing. -/
structure Plain (recent : List (Event RouterNote)) : Prop where
  begun : ∀ e ∈ recent, e.isBegun = false
  commits : recent.countP Event.isCommit = 0
  sample : lastSample recent = none
  justified : ∀ log, AllJustified log → AllJustified (recent ++ log)

theorem plain_of_not_note {recent : List (Event RouterNote)} (h : ∀ n, .note n ∉ recent) : Plain recent := by
  induction recent with
  | nil => exact ⟨by simp, rfl, rfl, fun _ hlog => hlog⟩
  | cons e recent ih =>
    have hrest := ih fun n hn => h n (List.mem_cons_of_mem _ hn)
    have he : ∀ n, e ≠ .note n := fun n hn => h n (by rw [hn]; exact List.mem_cons_self)
    have hplain : e.isBegun = false ∧ e.isCommit = false ∧ e.sample = none := by
      cases e with
      | note n => exact absurd rfl (he n)
      | _ => exact ⟨rfl, rfl, rfl⟩
    refine ⟨?_, ?_, ?_, fun log hlog => ⟨hrest.justified log hlog, fun c effects _ _ heq => absurd heq (he _)⟩⟩
    · intro e' he'
      rcases List.mem_cons.mp he' with rfl | he'
      · exact hplain.1
      · exact hrest.begun e' he'
    · rw [List.countP_cons, hrest.commits, hplain.2.1]
      rfl
    · rw [lastSample, List.findSome?_cons, hplain.2.2]
      exact hrest.sample

/-- The stretch of an outstanding preparation. -/
theorem Written.since {p : Preparing} {log : List (Event RouterNote)} (h : Written p log)
    (hsent : p.commitSent = false) :
    (since Event.isBegun log).countP Event.isFocus = 0 ∧ (since Event.isBegun log).countP Event.isCommit = 0 := by
  obtain ⟨recent, old, start, rfl, hnone, -, -, -, -, hcounts⟩ := h
  rw [since_append_mark hnone rfl]
  exact hcounts hsent

/-- What is written stays written while nothing begins, nothing is sampled and the focus is left alone. -/
theorem Written.grow {p : Preparing} {log recent : List (Event RouterNote)} (h : Written p log)
    (hbegun : ∀ e ∈ recent, e.isBegun = false) (hsample : lastSample recent = none)
    (hfocus : p.commitSent = false → recent.countP Event.isFocus = 0 ∧ recent.countP Event.isCommit = 0) :
    Written p (recent ++ log) := by
  obtain ⟨newer, old, start, rfl, hnone, hdeadline, hkeys, hoffered, hseen, hcounts⟩ := h
  refine ⟨recent ++ newer, old, start, by rw [List.append_assoc], ?_, hdeadline, hkeys, ?_, ?_, ?_⟩
  · intro e he
    rcases List.mem_append.mp he with he | he
    · exact hbegun e he
    · exact hnone e he
  · exact fun s hs => List.mem_append_right _ (hoffered s hs)
  · intro hreleased
    rw [lastSample, List.findSome?_append]
    unfold lastSample at hsample
    rw [hsample]
    exact hseen hreleased
  · intro hsent
    obtain ⟨hfocus, hcommit⟩ := hfocus hsent
    obtain ⟨hfocus', hcommit'⟩ := hcounts hsent
    rw [List.countP_append, List.countP_append]
    omega

/-- The events of one call, before its note. -/
theorem Ledger.plain {state : RouteState} {log recent : List (Event RouterNote)} (h : Ledger state log)
    (hplain : Plain recent) (hfocus : recent.countP Event.isFocus = 0) : Ledger state (recent ++ log) where
  focuses := h.focuses.append_of_none hplain.begun hfocus
  commits := h.commits.append_of_none hplain.begun hplain.commits
  justified := hplain.justified log h.justified
  written p hp := (h.written p hp).grow hplain.begun hplain.sample fun _ => ⟨hfocus, hplain.commits⟩
  atRest := h.atRest

/-- The note of a call which begins nothing and sends nothing. -/
theorem Ledger.note {state state' : RouteState} {log : List (Event RouterNote)} (h : Ledger state log)
    {n : RouterNote} (hbegun : (Event.note n).isBegun = false) (hcommit : (Event.note n).isCommit = false)
    (hwritten : ∀ p, state' = .preparingRemote p → Written p (.note n :: log))
    (hrest : ∀ reason, state' ≠ .returningLocal reason) : Ledger state' (.note n :: log) where
  focuses := h.focuses.cons_of_none hbegun rfl
  commits := h.commits.cons_of_none hbegun hcommit
  justified := by
    refine ⟨h.justified, ?_⟩
    rintro c effects request session ⟨⟩ hmem
    have hsent : (Event.note ⟨c, .ok effects⟩).isCommit = true := List.any_eq_true.mpr ⟨_, hmem, rfl⟩
    rw [hsent] at hcommit
    cases hcommit
  written := hwritten
  atRest := hrest

/-- A call which changes nothing that is written. -/
theorem Ledger.stay {state : RouteState} {log recent : List (Event RouterNote)} (h : Ledger state log)
    (hplain : Plain recent) (hfocus : recent.countP Event.isFocus = 0) {n : RouterNote}
    (hbegun : (Event.note n).isBegun = false) (hcommit : (Event.note n).isCommit = false)
    (hsample : (Event.note n).sample = none) : Ledger state (.note n :: (recent ++ log)) := by
  have hgrown := h.plain hplain hfocus
  refine hgrown.note hbegun hcommit (fun p hp => ?_) h.atRest
  have hwritten : Written p ([.note n] ++ (recent ++ log)) :=
    (hgrown.written p hp).grow (by simpa using hbegun) (by simp [lastSample, hsample]) fun _ =>
      ⟨rfl, by simp [hcommit]⟩
  exact hwritten

/-- A call which leaves the preparation behind. -/
theorem Ledger.leave {state state' : RouteState} {log recent : List (Event RouterNote)} (h : Ledger state log)
    (hplain : Plain recent)
    (hfocus : recent.countP Event.isFocus + (since Event.isBegun log).countP Event.isFocus ≤ 1) {n : RouterNote}
    (hbegun : (Event.note n).isBegun = false) (hcommit : (Event.note n).isCommit = false)
    (hleft : ∀ p, state' ≠ .preparingRemote p) (hrest : ∀ reason, state' ≠ .returningLocal reason) :
    Ledger state' (.note n :: (recent ++ log)) where
  focuses := (h.focuses.append hplain.begun hfocus).cons_of_none hbegun rfl
  commits := (h.commits.append_of_none hplain.begun hplain.commits).cons_of_none hbegun hcommit
  justified := by
    refine ⟨hplain.justified log h.justified, ?_⟩
    rintro c effects request session ⟨⟩ hmem
    have hsent : (Event.note ⟨c, .ok effects⟩).isCommit = true := List.any_eq_true.mpr ⟨_, hmem, rfl⟩
    rw [hsent] at hcommit
    cases hcommit
  written p hp := absurd hp (hleft p)
  atRest := hrest

/-- A preparation which begins. -/
theorem Ledger.begin {state : RouteState} {log recent : List (Event RouterNote)} (h : Ledger state log)
    (hplain : Plain recent) (hfocus : recent.countP Event.isFocus = 0) {p : Preparing} {start : UInt64}
    (hdeadline : start.toNat + 2500 = p.deadlineMs.toNat) (hkeys : start.toNat + 1500 = p.keysDeadlineMs.toNat)
    (hsession : p.session = none) (hseen : p.keysReleasedSeen = false) :
    Ledger (.preparingRemote p) (begun p.peer p.request start :: (recent ++ log)) where
  focuses := (h.focuses.append_of_none hplain.begun hfocus).cons_mark rfl
  commits := (h.commits.append_of_none hplain.begun hplain.commits).cons_mark rfl
  justified := by
    refine ⟨hplain.justified log h.justified, ?_⟩
    rintro c effects request session ⟨⟩ hmem
    simp at hmem
  written p' hp' := by
    cases hp'
    refine ⟨[], recent ++ log, start, rfl, by simp, hdeadline, hkeys, ?_, ?_, fun _ => ⟨rfl, rfl⟩⟩
    · intro s hs
      rw [hsession] at hs
      cases hs
    · intro hreleased
      rw [hseen] at hreleased
      cases hreleased
  atRest reason hreason := by cases hreason

/-- The session which `ready` recorded. -/
theorem Ledger.offer {log recent : List (Event RouterNote)} {p : Preparing} (h : Ledger (.preparingRemote p) log)
    (hplain : Plain recent) (hfocus : recent.countP Event.isFocus = 0) (session : BitVec 128) :
    Ledger (.preparingRemote { p with session := some session }) (offered p.request session ::
      (recent ++ log)) := by
  have hgrown := h.plain hplain hfocus
  refine hgrown.note rfl rfl ?_ (fun _ hreason => by cases hreason)
  rintro p' ⟨⟩
  obtain ⟨newer, old, start, hlog, hnone, hdeadline, hkeys, hoffered, hseen, hcounts⟩ := hgrown.written p rfl
  refine ⟨offered p.request session :: newer, old, start, by rw [hlog]; rfl, ?_, hdeadline, hkeys, ?_, hseen, ?_⟩
  · intro e he
    rcases List.mem_cons.mp he with rfl | he
    · rfl
    · exact hnone e he
  · rintro s ⟨⟩
    exact List.mem_cons_self
  · intro hsent
    obtain ⟨hfocuses, hcommits⟩ := hcounts hsent
    exact ⟨hfocuses, hcommits⟩

/-- A sample of the keys which leads to nothing. -/
theorem Ledger.sampled {log recent : List (Event RouterNote)} {p : Preparing} (h : Ledger (.preparingRemote p) log)
    (hplain : Plain recent) (hfocus : recent.countP Event.isFocus = 0) (nowMs : UInt64) (keysReleased : Bool) :
    Ledger (.preparingRemote { p with keysReleasedSeen := keysReleased })
      (.note ⟨.advance nowMs keysReleased, .ok []⟩ :: (recent ++ log)) := by
  have hgrown := h.plain hplain hfocus
  refine hgrown.note rfl rfl ?_ (fun _ hreason => by cases hreason)
  rintro p' ⟨⟩
  obtain ⟨newer, old, start, hlog, hnone, hdeadline, hkeys, hoffered, -, hcounts⟩ := hgrown.written p rfl
  refine ⟨.note ⟨.advance nowMs keysReleased, .ok []⟩ :: newer, old, start, by rw [hlog]; rfl, ?_,
    hdeadline, hkeys, fun s hs => List.mem_cons_of_mem _ (hoffered s hs), ?_, hcounts⟩
  · intro e he
    rcases List.mem_cons.mp he with rfl | he
    · rfl
    · exact hnone e he
  · intro hreleased
    show some keysReleased = some true
    exact congrArg some hreleased

/-- The `Commit`. -/
theorem Ledger.commit {log recent : List (Event RouterNote)} {p : Preparing} (h : Ledger (.preparingRemote p) log)
    (hplain : Plain recent) (hfocus : recent.countP Event.isFocus = 1) (hsent : p.commitSent = false)
    {session : BitVec 128} (hsession : p.session = some session) {nowMs : UInt64} (hlt : nowMs < p.deadlineMs)
    (hkeys : nowMs < p.keysDeadlineMs ∨ p.keysReleasedSeen = true) :
    Ledger (.preparingRemote { p with keysReleasedSeen := true, commitSent := true })
      (committed p.request session nowMs :: (recent ++ log)) := by
  obtain ⟨hnoFocus, hnoCommit⟩ := (h.written p rfl).since hsent
  obtain ⟨newer, old, start, hlog, hnone, hdeadline, hkeysDeadline, hoffered, hseen, -⟩ := h.written p rfl
  have hbegun : ∀ e ∈ recent ++ newer, e.isBegun = false := by
    intro e he
    rcases List.mem_append.mp he with he | he
    · exact hplain.begun e he
    · exact hnone e he
  have hjustified :
      Justified (.advance nowMs true) [.commit p.request session] p.request session (recent ++ log) := by
    refine ⟨nowMs, rfl, rfl, p.peer, start, recent ++ newer, old, by rw [hlog, List.append_assoc], hbegun,
      List.mem_append_right _ (hoffered session hsession), ?_, ?_⟩
    · rw [UInt64.lt_iff_toNat_lt] at hlt
      omega
    · rcases hkeys with hkeys | hkeys
      · left
        rw [UInt64.lt_iff_toNat_lt] at hkeys
        omega
      · right
        have hsample := hplain.sample
        unfold lastSample at hsample ⊢
        rw [List.findSome?_append, hsample]
        exact hseen hkeys
  have hgrown : Sparse Event.isBegun Event.isFocus (recent ++ log) := h.focuses.append hplain.begun (by omega)
  constructor
  · exact hgrown.cons_of_none rfl rfl
  · refine (h.commits.append_of_none hplain.begun hplain.commits).cons ?_
    have hall : ∀ e ∈ committed p.request session nowMs :: recent, e.isBegun = false := by
      intro e he
      rcases List.mem_cons.mp he with rfl | he
      · rfl
      · exact hplain.begun e he
    have hcommits := hplain.commits
    rw [← List.cons_append, since_append_of_none hall, List.countP_append, List.countP_cons, hcommits, hnoCommit]
    exact Nat.le_refl 1
  · refine ⟨hplain.justified log h.justified, ?_⟩
    rintro c effects request' session' ⟨⟩ hmem
    obtain ⟨rfl, rfl⟩ : request' = p.request ∧ session' = session := by simpa using hmem
    exact hjustified
  · rintro p' ⟨⟩
    refine ⟨committed p.request session nowMs :: (recent ++ newer), old, start,
      by rw [hlog, List.cons_append, List.append_assoc], ?_, hdeadline, hkeysDeadline, ?_, fun _ => rfl,
      fun hnot => by cases hnot⟩
    · intro e he
      rcases List.mem_cons.mp he with rfl | he
      · rfl
      · exact hbegun e he
    · exact fun s hs => List.mem_cons_of_mem _ (List.mem_append_right _ (hoffered s hs))
  · intro reason hreason
    cases hreason

/-! ### Runs -/

/-- The accounts of a router and its world between the calls. -/
structure Accounts (s : Setting) : Prop where
  balance : s.world.tally.captures = s.world.tally.restores + s.router.held
  ledger : Ledger s.router.state s.world.log

theorem start_accounts (g : LocalOverride) (moments : List Moment) (entropy : List (Option (Vector UInt8 16))) :
    Accounts (Setting.start g moments entropy) where
  balance := rfl
  ledger :=
    { focuses := sparse_nil
      commits := sparse_nil
      justified := trivial
      written := fun _ hp => by cases hp
      atRest := fun _ hreason => by cases hreason }

/-- The focus calls of the events which a call appends. -/
theorem countP_focus {w w' : World RouterNote} {recent : List (Event RouterNote)}
    (hlog : w'.log = recent ++ w.log) :
    w'.tally.focuses = recent.countP Event.isFocus + w.tally.focuses := by
  show w'.log.countP Event.isFocus = _
  rw [hlog, List.countP_append]
  rfl

theorem record_note_tally (w : World RouterNote) (n : RouterNote) : (w.record (.note n)).tally = w.tally := by
  simp [World.record, World.tally, Event.isPrepareCapture, Event.isRestore, Event.isFocus]

theorem requestLocal_tally (w : World RouterNote) : w.requestLocal.tally = w.tally := World.requestLocals_tally 1 w

theorem not_preparing_of_isLocal {state : RouteState} (h : state.isLocal = true) (p : Preparing) :
    state ≠ .preparingRemote p := by
  rintro rfl
  cases h

theorem not_returning_of_isLocal {state : RouteState} (h : state.isLocal = true) (reason : ReturnReason) :
    state ≠ .returningLocal reason := by
  rintro rfl
  cases h

theorem leaveEffects_not_commit (state : RouteState) (reason : ReturnReason) (c : RouterCall) :
    (Event.note ⟨c, .ok (state.leaveEffects reason)⟩).isCommit = false := by
  unfold RouteState.leaveEffects
  split
  · rfl
  · split <;> rfl
  · rfl

theorem leaveEffects_not_begun (state : RouteState) (reason : ReturnReason) {c : RouterCall}
    (hc : ∀ peer nowMs, c ≠ .goRemote peer nowMs) :
    (Event.note ⟨c, .ok (state.leaveEffects reason)⟩).isBegun = false := by
  cases c with
  | goRemote peer nowMs => exact absurd rfl (hc peer nowMs)
  | _ => rfl

/-- The accounts after a call: the balance, and the ledger with the note of the call. -/
structure Booked (r : Router) (w : World RouterNote) (n : RouterNote) (log : List (Event RouterNote)) : Prop where
  balance : w.tally.captures = w.tally.restores + r.held
  ledger : Ledger r.state (.note n :: log)

section Calls

variable {r r' : Router} {w w' : World RouterNote} {result : Except RouteError (List RouteEffect)}
  {recent : List (Event RouterNote)}

theorem booked_stay (hbalance : w.tally.captures = w.tally.restores + r.held) (h : Ledger r.state w.log)
    (hlog : w'.log = recent ++ w.log) (hplain : Plain recent) (htally : w'.tally = w.tally) {n : RouterNote}
    (hbegun : (Event.note n).isBegun = false) (hcommit : (Event.note n).isCommit = false)
    (hsample : (Event.note n).sample = none) : Booked r w' n (recent ++ w.log) := by
  have hcount := countP_focus hlog
  rw [htally] at hcount
  exact ⟨by rw [htally, hbalance], h.stay hplain (by omega) hbegun hcommit hsample⟩

/-- A call which returns to local gives one capture back. -/
theorem booked_leave (h : Ledger r.state w.log) (hplain : Plain recent)
    (hbalance : w'.tally.captures = w'.tally.restores)
    (hfocus : recent.countP Event.isFocus + (since Event.isBegun w.log).countP Event.isFocus ≤ 1) {n : RouterNote}
    (hbegun : (Event.note n).isBegun = false) (hcommit : (Event.note n).isCommit = false) (reason : ReturnReason) :
    Booked (r.returned reason) w' n (recent ++ w.log) := by
  have hlocal := r.returned_isLocal reason
  refine ⟨by rw [Router.returned_held, hbalance, Nat.add_zero], ?_⟩
  exact h.leave hplain hfocus hbegun hcommit (not_preparing_of_isLocal hlocal) (not_returning_of_isLocal hlocal)

theorem booked_goRemote (hbalance : w.tally.captures = w.tally.restores + r.held) (h : Ledger r.state w.log)
    {peer : String} {nowMs : UInt64} (hstep : Router.GoRemoteBooks r peer nowMs w (result, r', w'))
    (hlog : w'.log = recent ++ w.log) (hplain : Plain recent) :
    Booked r' w' ⟨.goRemote peer nowMs, result⟩ (recent ++ w.log) := by
  have hcount := countP_focus hlog
  have hsince := h.focuses.since_le
  cases hstep with
  | refused htally => exact booked_stay hbalance h hlog hplain htally rfl rfl rfl
  | again => exact booked_stay hbalance h hlog hplain rfl rfl rfl rfl
  | failed hheld htally =>
    rw [htally] at hcount
    refine booked_leave h hplain ?_ (by dsimp only at hcount; omega) rfl rfl _
    rw [htally]
    dsimp only
    omega
  | prepared hheld htally hpeer hsession hsent hseen hdeadline hkeys =>
    rename_i p
    subst hpeer
    rw [htally] at hcount
    refine ⟨?_, h.begin hplain (by dsimp only at hcount; omega) hdeadline hkeys hsession hseen⟩
    rw [htally, hbalance, hheld]
    rfl

theorem booked_ready {answer : Except RouteError Unit} {request : UInt64} {offeredSession : BitVec 128}
    (hbalance : w.tally.captures = w.tally.restores + r.held) (h : Ledger r.state w.log)
    (hstep : Router.ReadyStep r request offeredSession w (answer, r', w')) (htally : w'.tally = w.tally)
    (hlog : w'.log = recent ++ w.log) (hplain : Plain recent) :
    Booked r' w' ⟨.ready request offeredSession, answer.map fun _ => []⟩ (recent ++ w.log) := by
  cases hstep with
  | stale _ => exact booked_stay hbalance h hlog hplain htally rfl rfl rfl
  | accepted hstate hreq _ _ _ _ =>
    rename_i p
    subst hreq
    have hcount := countP_focus hlog
    rw [htally] at hcount
    rw [hstate] at h
    refine ⟨?_, h.offer hplain (by omega) offeredSession⟩
    rw [htally, hbalance, Router.held, hstate]
    rfl

theorem booked_advance {nowMs : UInt64} {keysReleased : Bool}
    (hbalance : w.tally.captures = w.tally.restores + r.held) (h : Ledger r.state w.log)
    (hstep : Router.AdvanceBooks r nowMs keysReleased w (result, r', w')) (hlog : w'.log = recent ++ w.log)
    (hplain : Plain recent) : Booked r' w' ⟨.advance nowMs keysReleased, result⟩ (recent ++ w.log) := by
  have hcount := countP_focus hlog
  have hsince := h.focuses.since_le
  cases hstep with
  | idle hprep htally =>
    rw [htally] at hcount
    refine ⟨by rw [htally, hbalance], ?_⟩
    exact (h.plain hplain (by omega)).note rfl rfl (fun p hp => absurd hp (hprep p)) h.atRest
  | left hheld hn htally =>
    rename_i reason n
    rw [htally] at hcount
    dsimp only at hcount
    refine booked_leave h hplain ?_ ?_ (leaveEffects_not_begun _ _ (by simp))
      (leaveEffects_not_commit _ _ _) reason
    · rw [htally]
      dsimp only
      omega
    · rcases hn with hn | ⟨hn, p, hstate, hsent⟩
      · omega
      · have hnone := ((h.written p hstate).since hsent).1
        omega
  | waits hstate _ htally =>
    rename_i p
    rw [htally] at hcount
    rw [hstate] at h
    refine ⟨?_, h.sampled hplain (by omega) nowMs keysReleased⟩
    rw [htally, hbalance, Router.held, hstate]
    rfl
  | commits hstate hsession hsent hkeys hlt hreleased htally =>
    rename_i p session
    subst hkeys
    rw [htally] at hcount
    rw [hstate] at h
    refine ⟨?_, h.commit hplain (by dsimp only at hcount; omega) hsent hsession hlt hreleased⟩
    rw [htally, hbalance, Router.held, hstate]
    rfl

theorem booked_commitAck {answer : Except RouteError Unit} {request nowMs : UInt64} {session : BitVec 128}
    (hbalance : w.tally.captures = w.tally.restores + r.held) (h : Ledger r.state w.log)
    (hstep : Router.CommitAckBooks r session w (answer, r', w')) (hlog : w'.log = recent ++ w.log)
    (hplain : Plain recent) :
    Booked r' w' ⟨.commitAck request session nowMs, answer.map fun _ => []⟩ (recent ++ w.log) := by
  have hcount := countP_focus hlog
  have hsince := h.focuses.since_le
  cases hstep with
  | stale => exact booked_stay hbalance h hlog hplain rfl rfl rfl rfl
  | failed hheld htally =>
    rw [htally] at hcount
    refine booked_leave h hplain ?_ (by dsimp only at hcount; omega) rfl rfl _
    rw [htally]
    dsimp only
    omega
  | activated hstate htally =>
    rw [htally] at hcount
    refine ⟨?_, h.leave hplain (by omega) rfl rfl (by simp) (by simp)⟩
    rw [htally, hbalance, Router.held, hstate]
    rfl

theorem booked_setGameMode (hbalance : w.tally.captures = w.tally.restores + r.held) (h : Ledger r.state w.log)
    (enabled : Bool) : Booked (r.setGameMode enabled) w ⟨.setGameMode enabled, .ok []⟩ w.log := by
  have hsame := booked_stay (n := ⟨.setGameMode enabled, .ok []⟩) hbalance h (List.nil_append _).symm
    (plain_of_not_note (by simp)) rfl rfl rfl rfl
  rcases r.setGameMode_cases enabled with ⟨hlocal, hlocal'⟩ | ⟨-, hstate⟩
  · refine ⟨?_, hsame.ledger.1, hsame.ledger.2, hsame.ledger.3, ?_, not_returning_of_isLocal hlocal'⟩
    · rw [hbalance, Router.held, Router.held, hlocal, hlocal']
    · exact fun p hp => absurd hp (not_preparing_of_isLocal hlocal' p)
  · refine ⟨?_, by rw [hstate]; exact hsame.ledger⟩
    rw [hbalance, Router.held, Router.held, hstate]

theorem booked_goLocal (hbalance : w.tally.captures = w.tally.restores + r.held) (h : Ledger r.state w.log)
    (reason : ReturnReason) (hlog : (r.goLocal reason w).2.2.log = recent ++ w.log) (hplain : Plain recent) :
    Booked (r.goLocal reason w).2.1 (r.goLocal reason w).2.2 ⟨.goLocal reason, .ok (r.goLocal reason w).1⟩
      (recent ++ w.log) := by
  have hcount := countP_focus hlog
  have hsince := h.focuses.since_le
  have htally := r.goLocal_tally reason w
  rw [htally] at hcount
  refine booked_leave h hplain ?_ (by dsimp only at hcount; omega) (leaveEffects_not_begun _ _ (by simp))
    (leaveEffects_not_commit _ _ _) reason
  rw [htally, hbalance]

end Calls

/-- **Every call keeps the accounts.** -/
theorem next_accounts (s : Setting) (m : RouterMove) (h : Accounts s) : Accounts (s.next m) := by
  obtain ⟨hbalance, hledger⟩ := h
  cases m with
  | requestLocal =>
    have hplain : Plain [(.requestLocal : Event RouterNote)] := plain_of_not_note (by simp)
    refine ⟨?_, hledger.plain hplain rfl⟩
    show s.world.requestLocal.tally.captures = s.world.requestLocal.tally.restores + s.router.held
    rw [requestLocal_tally, hbalance]
  | call c =>
    obtain ⟨recent, hext, hquiet⟩ := exec_extends c s.router s.world
    have hplain := plain_of_not_note hquiet
    have hlog := hext.log
    have hbooked : Booked (c.exec s.router s.world).2.1 (c.exec s.router s.world).2.2
        ⟨c, (c.exec s.router s.world).1⟩ (recent ++ s.world.log) := by
      cases c with
      | goRemote peer nowMs =>
        exact booked_goRemote hbalance hledger (s.router.goRemote_books peer nowMs s.world) hlog hplain
      | ready request session =>
        exact booked_ready hbalance hledger (s.router.ready_cases request session s.world)
          (s.router.ready_tally request session s.world) hlog hplain
      | advance nowMs keys =>
        exact booked_advance hbalance hledger (s.router.advance_books nowMs keys s.world) hlog hplain
      | commitAck request session nowMs =>
        exact booked_commitAck hbalance hledger
          (s.router.commitAck_books request session nowMs s.world) hlog hplain
      | setGameMode enabled =>
        have hnil : recent = [] := List.append_left_eq_self.mp hlog.symm
        rw [hnil]
        exact booked_setGameMode hbalance hledger enabled
      | goLocal reason => exact booked_goLocal hbalance hledger reason hlog hplain
    rw [← hlog] at hbooked
    refine ⟨?_, hbooked.ledger⟩
    show ((c.exec s.router s.world).2.2.record _).tally.captures =
      ((c.exec s.router s.world).2.2.record _).tally.restores + (c.exec s.router s.world).2.1.held
    rw [record_note_tally]
    exact hbooked.balance

/-! ### A preparation which is over -/

theorem next_generation_le (s : Setting) (m : RouterMove) :
    s.world.gate.generation ≤ (s.next m).world.gate.generation := by
  cases m with
  | requestLocal => exact s.world.requestLocal_extends.generation_le
  | call c =>
    obtain ⟨recent, hext, -⟩ := exec_extends c s.router s.world
    exact hext.generation_le

/-- A preparation after a call is the one from before the call, or its request is a fresh one. -/
theorem next_preparing {s : Setting} {m : RouterMove} {p : Preparing}
    (h : (s.next m).router.state = .preparingRemote p) :
    (∃ p', s.router.state = .preparingRemote p' ∧ p'.request = p.request) ∨
      s.world.gate.generation < p.request.toNat / 2 ∧ p.request.toNat / 2 ≤ (s.next m).world.gate.generation := by
  have hreturned : ∀ (r : Router) reason, (r.returned reason).state ≠ .preparingRemote p :=
    fun r reason => not_preparing_of_isLocal (r.returned_isLocal reason) p
  cases m with
  | requestLocal => exact .inl ⟨p, h, rfl⟩
  | call c =>
    cases c with
    | goRemote peer nowMs =>
      have hstep := s.router.goRemote_cases peer nowMs s.world
      simp only [Setting.next, RouterCall.exec] at h ⊢
      revert h hstep
      generalize s.router.goRemote peer nowMs s.world = out
      rintro h (- | - | - | ⟨-, -, -, -, -, hreserves, hdrift, -⟩)
      · exact .inl ⟨p, h, rfl⟩
      · exact .inl ⟨p, h, rfl⟩
      · exact absurd h (hreturned _ _)
      · cases h
        exact .inr ⟨hreserves.fresh.1, Nat.le_trans hreserves.fresh.2 hdrift.generation_le⟩
    | ready request session =>
      have hstep := s.router.ready_cases request session s.world
      simp only [Setting.next, RouterCall.exec] at h ⊢
      revert h hstep
      generalize s.router.ready request session s.world = out
      rintro h (- | ⟨hstate, -⟩)
      · exact .inl ⟨p, h, rfl⟩
      · cases h
        exact .inl ⟨_, hstate, rfl⟩
    | advance nowMs keys =>
      have hstep := s.router.advance_cases nowMs keys s.world
      simp only [Setting.next, RouterCall.exec] at h ⊢
      revert h hstep
      generalize s.router.advance nowMs keys s.world = out
      rintro h (- | - | ⟨hstate, -⟩ | ⟨hstate, -⟩)
      · exact .inl ⟨p, h, rfl⟩
      · exact absurd h (hreturned _ _)
      · cases h
        exact .inl ⟨_, hstate, rfl⟩
      · cases h
        exact .inl ⟨_, hstate, rfl⟩
    | commitAck request session nowMs =>
      have hstep := s.router.commitAck_cases request session nowMs s.world
      simp only [Setting.next, RouterCall.exec] at h ⊢
      revert h hstep
      generalize s.router.commitAck request session nowMs s.world = out
      rintro h (- | - | -)
      · exact .inl ⟨p, h, rfl⟩
      · exact absurd h (hreturned _ _)
      · cases h
    | setGameMode enabled =>
      rcases s.router.setGameMode_cases enabled with ⟨-, hlocal⟩ | ⟨-, hsame⟩
      · exact absurd h (not_preparing_of_isLocal hlocal p)
      · exact .inl ⟨p, hsame.symm.trans h, rfl⟩
    | goLocal reason => exact absurd h (hreturned _ _)

/-- The gate has reached the request of an outstanding preparation. -/
def Reached (s : Setting) : Prop :=
  ∀ p, s.router.state = .preparingRemote p → p.request.toNat / 2 ≤ s.world.gate.generation

theorem next_reached (s : Setting) (m : RouterMove) (h : Reached s) : Reached (s.next m) := by
  intro p hp
  rcases next_preparing hp with ⟨p', hstate, hrequest⟩ | ⟨-, hreached⟩
  · rw [← hrequest]
    exact Nat.le_trans (h p' hstate) (next_generation_le s m)
  · exact hreached

/-- The preparation of `request` is over, and its number is used up. -/
structure Retired (request : UInt64) (s : Setting) : Prop where
  reached : request.toNat / 2 ≤ s.world.gate.generation
  ended : ∀ p, s.router.state = .preparingRemote p → p.request ≠ request

theorem next_retired {request : UInt64} (s : Setting) (m : RouterMove) (h : Retired request s) :
    Retired request (s.next m) := by
  refine ⟨Nat.le_trans h.reached (next_generation_le s m), fun p hp => ?_⟩
  rcases next_preparing hp with ⟨p', hstate, hrequest⟩ | ⟨hfresh, -⟩
  · rw [← hrequest]
    exact h.ended p' hstate
  · rintro rfl
    have hreached := h.reached
    omega

/-- An acknowledgement of a preparation which is over changes nothing. -/
theorem Retired.commitAck {request : UInt64} {s : Setting} (h : Retired request s) (session : BitVec 128)
    (nowMs : UInt64) :
    s.router.commitAck request session nowMs s.world = (.error .staleReply, s.router, s.world) := by
  have hstep := s.router.commitAck_cases request session nowMs s.world
  revert hstep
  generalize s.router.commitAck request session nowMs s.world = out
  rintro (- | ⟨hstate, hrequest, -⟩ | ⟨hstate, hrequest, -⟩)
  · rfl
  · exact absurd hrequest (h.ended _ hstate)
  · exact absurd hrequest (h.ended _ hstate)

/-- A key which is pressed after the `Commit` brings the input back. -/
theorem advance_pressed {r : Router} {p : Preparing} (hstate : r.state = .preparingRemote p)
    (hsent : p.commitSent = true)
    (nowMs : UInt64) (w : World RouterNote) : (r.advance nowMs false w).2.1.state.isLocal = true := by
  have hbooks := r.advance_books nowMs false w
  revert hbooks
  generalize r.advance nowMs false w = out
  rintro (⟨hidle, -⟩ | - | ⟨hstate', hkeys, -⟩ | ⟨-, -, -, hkeys, -⟩)
  · exact absurd hstate (hidle p)
  · exact r.returned_isLocal _
  · rw [hstate] at hstate'
    cases hstate'
    cases hkeys hsent
  · cases hkeys

theorem allJustified_split {log : List (Event RouterNote)} (h : AllJustified log)
    {after before : List (Event RouterNote)} {c : RouterCall} {effects : List RouteEffect} {request : UInt64}
    {session : BitVec 128} (hlog : log = after ++ .note ⟨c, .ok effects⟩ :: before)
    (hmem : .commit request session ∈ effects) : Justified c effects request session before := by
  subst hlog
  induction after with
  | nil => exact h.2 c effects request session rfl hmem
  | cons e after ih => exact ih h.1

/-- **Router accounting.**  In every run: captures which are prepared and captures which are given back balance up
to the one which is held; between two accepted `goRemote`s the focus is asked for once at most, and a `Commit` is
sent once at most; every `Commit` is justified by the log before it; and a key which is pressed after the `Commit`
brings the input back for good. -/
theorem router_accounting (g : LocalOverride) (moments : List Moment) (entropy : List (Option (Vector UInt8 16)))
    (moves : List RouterMove) :
    let s := run Setting.next (Setting.start g moments entropy) moves
    s.world.log.countP Event.isPrepareCapture = s.world.log.countP Event.isRestore +
      (match s.router.state with
        | .preparingRemote _ | .remoteActive _ _ => 1
        | _ => 0) ∧
    (∀ recent mid old, s.world.log = recent ++ mid ++ old → (∀ e ∈ mid, e.isBegun = false) →
      mid.countP Event.isFocus ≤ 1 ∧ mid.countP Event.isCommit ≤ 1) ∧
    (∀ after before c effects request session, s.world.log = after ++ .note ⟨c, .ok effects⟩ :: before →
      .commit request session ∈ effects → Justified c effects request session before) ∧
    ∀ p nowMs, s.router.state = .preparingRemote p → p.commitSent = true →
      (s.next (.call (.advance nowMs false))).router.state.isLocal = true ∧
      ∀ later session ackMs,
        let s' := run Setting.next (s.next (.call (.advance nowMs false))) later
        s'.router.commitAck p.request session ackMs s'.world = (.error .staleReply, s'.router, s'.world) := by
  intro s
  have haccounts : Accounts s := run_invariant next_accounts (start_accounts g moments entropy) moves
  have hreached : Reached s := run_invariant next_reached (fun _ hp => by cases hp) moves
  obtain ⟨hbalance, hledger⟩ := haccounts
  refine ⟨?_, ?_, ?_, ?_⟩
  · refine hbalance.trans (congrArg (s.world.tally.restores + ·) ?_)
    have hrest := hledger.atRest
    unfold Router.held
    cases hstate : s.router.state with
    | returningLocal reason => exact absurd hstate (hrest reason)
    | _ => rfl
  · exact fun recent mid old hlog hmid =>
      ⟨hledger.focuses recent mid old hlog hmid, hledger.commits recent mid old hlog hmid⟩
  · exact fun after before c effects request session hlog hmem => allJustified_split hledger.justified hlog hmem
  · intro p nowMs hstate hsent
    have hlocal : (s.next (.call (.advance nowMs false))).router.state.isLocal = true :=
      advance_pressed hstate hsent nowMs s.world
    have hretired : Retired p.request (s.next (.call (.advance nowMs false))) :=
      ⟨Nat.le_trans (hreached p hstate) (next_generation_le _ _),
        fun p' hp' => absurd hp' (not_preparing_of_isLocal hlocal p')⟩
    exact ⟨hlocal, fun later session ackMs => (run_invariant next_retired hretired later).commitAck session ackMs⟩

/-- A key is pressed after the `Commit` of the first preparation. -/
theorem router_accounting_pressed :
    (run Setting.next (Setting.start ⟨1⟩ [] []) [.call (.goRemote "mac" 0), .call (.ready 3 7),
      .call (.advance 1 true),
      .call (.advance 2 false)]).router.state.isLocal = true :=
  ((router_accounting ⟨1⟩ [] [] [.call (.goRemote "mac" 0), .call (.ready 3 7), .call (.advance 1 true)]).2.2.2
    ⟨"mac", 3, 2500, 1500, true, some 7, true⟩ 2 (by decide) rfl).1

end MyKvm.Routing
