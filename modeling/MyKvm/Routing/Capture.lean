import MyKvm.Lib.Machine
import MyKvm.Routing.Router

/-!
# MyKvm.Routing.Capture — when the keyboard is not local

Runs of the router in a world whose gate starts local: any calls, any times, any port answers, and `request_local`
anywhere, between the calls and inside them.  Each call leaves a note of its answer in the log.

* `Shape`: what the state of the router says about the gate and the log.
* `shape_call`: every call keeps it; `shape_drifts`, `shape_note`: so do the outside and the note.
* `capture_invariant`: a gate which is not local belongs to a session with its whole story in the log.
-/

namespace MyKvm.Routing

open MyKvm.Lib LocalOverride

/-- The operations of the router. -/
inductive RouterCall where
  | goRemote (peer : String) (nowMs : UInt64)
  | ready (request : UInt64) (offeredSession : BitVec 128)
  | advance (nowMs : UInt64) (keysReleased : Bool)
  | commitAck (request : UInt64) (session : BitVec 128) (nowMs : UInt64)
  | setGameMode (enabled : Bool)
  | goLocal (reason : ReturnReason)
  deriving DecidableEq

/-- A call and its answer; an answer without effects is an empty list. -/
structure RouterNote where
  call : RouterCall
  result : Except RouteError (List RouteEffect)
  deriving DecidableEq

def RouterCall.exec {ν : Type} (r : Router) (w : World ν) :
    RouterCall → Except RouteError (List RouteEffect) × Router × World ν
  | .goRemote peer nowMs => r.goRemote peer nowMs w
  | .ready request offeredSession =>
    let (result, r, w) := r.ready request offeredSession w
    (result.map fun _ => [], r, w)
  | .advance nowMs keysReleased => r.advance nowMs keysReleased w
  | .commitAck request session nowMs =>
    let (result, r, w) := r.commitAck request session nowMs w
    (result.map fun _ => [], r, w)
  | .setGameMode enabled => (.ok [], r.setGameMode enabled, w)
  | .goLocal reason =>
    let (effects, r, w) := r.goLocal reason w
    (.ok effects, r, w)

/-- A call, or an emergency between the calls. -/
inductive RouterMove where
  | call (c : RouterCall)
  | requestLocal
  deriving DecidableEq

/-- The router in its world. -/
structure Setting where
  router : Router
  world : World RouterNote
  deriving DecidableEq

def Setting.next (s : Setting) : RouterMove → Setting
  | .call c =>
    let (result, router, world) := c.exec s.router s.world
    { router, world := world.record (.note ⟨c, result⟩) }
  | .requestLocal => { s with world := s.world.requestLocal }

def Setting.start (g : LocalOverride) (moments : List Moment) (entropy : List (Option (Vector UInt8 16))) :
    Setting :=
  { router := Router.withGate, world := World.start g moments entropy }

/-! ### Milestones -/

def begun (peer : String) (request nowMs : UInt64) : Event RouterNote :=
  .note ⟨.goRemote peer nowMs, .ok [.prepare peer request]⟩

def offered (request : UInt64) (session : BitVec 128) : Event RouterNote := .note ⟨.ready request session, .ok []⟩

def committed (request : UInt64) (session : BitVec 128) (nowMs : UInt64) : Event RouterNote :=
  .note ⟨.advance nowMs true, .ok [.commit request session]⟩

def acknowledged (request : UInt64) (session : BitVec 128) (nowMs : UInt64) : Event RouterNote :=
  .note ⟨.commitAck request session nowMs, .ok []⟩

/-- The log since the reservation of an outstanding preparation. -/
def Outstanding (p : Preparing) (log : List (Event RouterNote)) : Prop :=
  ∃ recent old start, log = recent ++ .reserved p.request :: old ∧ start.toNat + 2500 = p.deadlineMs.toNat ∧
    (∀ s, offered p.request s ∈ recent → p.session = some s) ∧
    match p.session, p.commitSent with
    | none, false => [begun p.peer p.request start].Sublist recent
    | none, true => False
    | some s, false => [offered p.request s, begun p.peer p.request start].Sublist recent
    | some s, true =>
        ∃ sent, [committed p.request s sent, offered p.request s, begun p.peer p.request start].Sublist recent

/-- The log of a captured session: reserved, begun, offered, committed, captured, activated and acknowledged in
time, and no `request_local` since the reservation. -/
def Captured (peer : String) (session : BitVec 128) (log : List (Event RouterNote)) : Prop :=
  ∃ request start sent acked recent old, log = recent ++ .reserved request :: old ∧
    Event.requestLocal ∉ recent ∧ acked.toNat < start.toNat + 2500 ∧
    (∀ s, offered request s ∈ recent → s = session) ∧
    [acknowledged request session acked, .activated request, .activateCapture (.ok ()),
      committed request session sent, offered request session, begun peer request start].Sublist recent

/-- What the state of the router says about the gate and the log. -/
def Shape (w : World RouterNote) : RouteState → Prop
  | .localDesktop | .localGame => w.gate.isLocal = true
  | .preparingRemote p => w.gate.isLocal = true ∧ Outstanding p w.log
  | .remoteActive peer session => w.gate.isLocal = true ∨ Captured peer session w.log
  | .returningLocal _ => False

/-! ### The log grows -/

/-- No session is offered in these events. -/
def OffersNone (recent : List (Event RouterNote)) : Prop := ∀ request s, offered request s ∉ recent

theorem offersNone_of_harmless {recent : List (Event RouterNote)} (h : World.Harmless recent) :
    OffersNone recent :=
  fun _ _ hmem => h _ hmem

theorem Outstanding.grow {p : Preparing} {log recent : List (Event RouterNote)} (h : Outstanding p log)
    (hnone : OffersNone recent) : Outstanding p (recent ++ log) := by
  obtain ⟨newer, old, start, rfl, hstart, hoffered, hstory⟩ := h
  refine ⟨recent ++ newer, old, start, by rw [List.append_assoc], hstart, ?_, ?_⟩
  · intro s hs
    rcases List.mem_append.mp hs with hs | hs
    · exact absurd hs (hnone _ _)
    · exact hoffered s hs
  · have hsub : newer.Sublist (recent ++ newer) := List.sublist_append_right _ _
    split at hstory
    · exact hstory.trans hsub
    · exact hstory
    · exact hstory.trans hsub
    · obtain ⟨sent, hstory⟩ := hstory
      exact ⟨sent, hstory.trans hsub⟩

theorem Captured.grow {peer : String} {session : BitVec 128} {log recent : List (Event RouterNote)}
    (h : Captured peer session log) (hnone : OffersNone recent) (hreq : Event.requestLocal ∉ recent) :
    Captured peer session (recent ++ log) := by
  obtain ⟨request, start, sent, acked, newer, old, rfl, hlocal, hacked, hoffered, hstory⟩ := h
  refine ⟨request, start, sent, acked, recent ++ newer, old, by rw [List.append_assoc], ?_, hacked, ?_,
    hstory.trans (List.sublist_append_right _ _)⟩
  · exact fun hmem => (List.mem_append.mp hmem).elim hreq hlocal
  · intro s hs
    rcases List.mem_append.mp hs with hs | hs
    · exact absurd hs (hnone _ _)
    · exact hoffered s hs

theorem shape_of_isLocal {w : World RouterNote} {state : RouteState} (hstate : state.isLocal = true)
    (hgate : w.gate.isLocal = true) : Shape w state := by
  cases state with
  | localDesktop => exact hgate
  | localGame => exact hgate
  | _ => cases hstate

/-- A local router has a local gate. -/
theorem Shape.gate {w : World RouterNote} {state : RouteState} (h : Shape w state)
    (hstate : state.isLocal = true) :
    w.gate.isLocal = true := by
  cases state with
  | localDesktop => exact h
  | localGame => exact h
  | _ => cases hstate

theorem shape_drifts {w w' : World RouterNote} {state : RouteState} (h : Shape w state) (hdrift : w.Drifts w') :
    Shape w' state := by
  cases state with
  | localDesktop => exact hdrift.isLocal h
  | localGame => exact hdrift.isLocal h
  | preparingRemote p =>
    obtain ⟨recent, hharm, hext⟩ := hdrift
    exact ⟨World.Drifts.isLocal ⟨recent, hharm, hext⟩ h.1, by
      rw [hext.log]; exact h.2.grow (offersNone_of_harmless hharm)⟩
  | remoteActive peer session =>
    rcases h with h | h
    · exact Or.inl (hdrift.isLocal h)
    · obtain ⟨recent, hharm, hext⟩ := hdrift
      by_cases hreq : Event.requestLocal ∈ recent
      · left
        rw [hext.gate]
        exact isLocal_run_of_mem hreq hharm.not_activated
      · right
        rw [hext.log]
        exact h.grow (offersNone_of_harmless hharm) hreq
  | returningLocal reason => exact h

theorem shape_note {w : World RouterNote} {state : RouteState} (h : Shape w state) {n : RouterNote}
    (hnone : OffersNone [.note n]) : Shape (w.record (.note n)) state := by
  cases state with
  | localDesktop => exact h
  | localGame => exact h
  | preparingRemote p => exact ⟨h.1, h.2.grow hnone⟩
  | remoteActive peer session => exact h.imp_right fun h => h.grow hnone (by simp)
  | returningLocal reason => exact h

/-- Only a `ready` which was accepted offers a session. -/
theorem offersNone_note {n : RouterNote} (h : ∀ request s, n ≠ ⟨.ready request s, .ok []⟩) :
    OffersNone [.note n] := by
  intro request s hmem
  have heq : Event.note n = offered request s := (List.mem_singleton.mp hmem).symm
  cases heq
  exact h request s rfl

/-! ### One call -/

section Calls

variable {r r' : Router} {w w' : World RouterNote} {result : Except RouteError (List RouteEffect)}

theorem shape_goRemote {peer : String} {nowMs : UInt64} (h : Shape w r.state)
    (hstep : Router.GoRemoteStep r peer nowMs w (result, r', w')) :
    Shape (w'.record (.note ⟨.goRemote peer nowMs, result⟩)) r'.state := by
  have hnone : OffersNone [.note ⟨.goRemote peer nowMs, result⟩] := offersNone_note (by simp)
  cases hstep with
  | refused hdrift => exact shape_note (shape_drifts h hdrift) hnone
  | again _ => exact shape_note h hnone
  | failed _ _ _ hgate => exact shape_note (shape_of_isLocal (r.returned_isLocal _) hgate) hnone
  | prepared hstate hpeer hsession hsent hdeadline hreserves hdrift hword =>
    rename_i p w₁
    refine ⟨hdrift.isLocal (hreserves.isLocal (h.gate hstate)), ?_⟩
    obtain ⟨a, ha, hext⟩ := hreserves
    obtain ⟨b, hb, hext'⟩ := hdrift
    have hlog := (hext.trans hext').log
    refine ⟨.note ⟨.goRemote peer nowMs, .ok [.prepare peer p.request]⟩ :: b, a ++ w.log, nowMs, ?_,
      hdeadline, ?_, ?_⟩
    · simp [World.record, hlog]
    · intro s hs
      rcases List.mem_cons.mp hs with hs | hs
      · cases hs
      · exact absurd hs (offersNone_of_harmless hb _ _)
    · rw [hsession, hsent, hpeer]
      exact List.singleton_sublist.mpr List.mem_cons_self

theorem shape_ready {answer : Except RouteError Unit} {request : UInt64} {offeredSession : BitVec 128}
    (h : Shape w r.state) (hstep : Router.ReadyStep r request offeredSession w (answer, r', w')) :
    Shape (w'.record (.note ⟨.ready request offeredSession, answer.map fun _ => []⟩)) r'.state := by
  cases hstep with
  | stale hdrift =>
    refine shape_note (shape_drifts h hdrift) (offersNone_note ?_)
    rintro request s heq
    cases heq
  | accepted hstate hreq hne hsame hdrift hword =>
    rename_i p
    have hshape := shape_drifts h hdrift
    rw [hstate] at hshape
    obtain ⟨hgate, recent, old, start, hlog, hdeadline, hoffered, hstory⟩ := hshape
    refine ⟨hgate, offered p.request offeredSession :: recent, old, start, ?_, hdeadline, ?_, ?_⟩
    · simp only [World.record, hlog, hreq, offered, List.cons_append]
      rfl
    · intro s hs
      rcases List.mem_cons.mp hs with hs | hs
      · cases hs
        rfl
      · exact congrArg some (hsame s (hoffered s hs)).symm
    · cases hsession : p.session with
      | none =>
        cases hsent : p.commitSent with
        | false =>
          rw [hsession, hsent] at hstory
          exact hstory.cons_cons _
        | true =>
          rw [hsession, hsent] at hstory
          exact hstory.elim
      | some s =>
        -- the same session was offered again
        obtain rfl := hsame s hsession
        cases hsent : p.commitSent with
        | false =>
          rw [hsession, hsent] at hstory
          exact hstory.cons _
        | true =>
          rw [hsession, hsent] at hstory
          obtain ⟨sent, hstory⟩ := hstory
          exact ⟨sent, hstory.cons _⟩

theorem shape_advance {nowMs : UInt64} {keysReleased : Bool} (h : Shape w r.state)
    (hstep : Router.AdvanceStep r nowMs keysReleased w (result, r', w')) :
    Shape (w'.record (.note ⟨.advance nowMs keysReleased, result⟩)) r'.state := by
  have hnone : OffersNone [.note ⟨.advance nowMs keysReleased, result⟩] := offersNone_note (by simp)
  cases hstep with
  | idle _ hdrift => exact shape_note (shape_drifts h hdrift) hnone
  | left _ _ hgate => exact shape_note (shape_of_isLocal (r.returned_isLocal _) hgate) hnone
  | waits hstate _ hdrift =>
    have hshape := shape_note (shape_drifts h hdrift) hnone
    rw [hstate] at hshape
    exact hshape
  | commits hstate hlt hsession hsent hkeys hdrift hword =>
    rename_i p session
    have hshape := shape_drifts h hdrift
    rw [hstate] at hshape
    obtain ⟨hgate, recent, old, start, hlog, hdeadline, hoffered, hstory⟩ := hshape
    refine ⟨hgate, committed p.request session nowMs :: recent, old, start, ?_, hdeadline, ?_, ?_⟩
    · simp [World.record, hlog, committed, hkeys]
    · intro s hs
      rcases List.mem_cons.mp hs with hs | hs
      · cases hs
      · exact hoffered s hs
    · rw [hsession, hsent] at hstory
      rw [hsession]
      exact ⟨nowMs, hstory.cons_cons _⟩

theorem shape_commitAck {g : LocalOverride} {answer : Except RouteError Unit} {request nowMs : UInt64}
    {session : BitVec 128} (htells : World.Tells g w) (h : Shape w r.state)
    (hstep : Router.CommitAckStep r request session nowMs w (answer, r', w')) :
    Shape (w'.record (.note ⟨.commitAck request session nowMs, answer.map fun _ => []⟩)) r'.state := by
  have hnone : OffersNone [.note ⟨.commitAck request session nowMs, answer.map fun _ => []⟩] :=
    offersNone_note (by simp)
  cases hstep with
  | stale _ => exact shape_note h hnone
  | failed _ _ _ _ _ hgate => exact shape_note (shape_of_isLocal (r.returned_isLocal _) hgate) hnone
  | activated hstate hreq hsession hsent hlt hcaptures =>
    rename_i p
    rw [hstate] at h
    obtain ⟨hgate, recent, old, start, hlog, hdeadline, hoffered, hstory⟩ := h
    obtain ⟨b, hb, hcapture, hext, hword⟩ := hcaptures
    subst hreq
    have htruthful := (htells.extends hext).truthful
    rw [hext.log, hlog] at htruthful
    rw [htells.gate, ← run_append, ← calls_append, hlog, ← List.append_assoc] at hword
    have hreserved : Truthful g ((b ++ recent) ++ .reserved p.request :: old) := by
      rw [List.append_assoc]
      exact htruthful.1
    have hquiet : Event.requestLocal ∉ b ++ recent := not_mem_requestLocal_of_current hreserved hword
    rw [hsession, hsent] at hstory
    obtain ⟨sent, hstory⟩ := hstory
    refine Or.inr ⟨p.request, start, sent, nowMs,
      acknowledged p.request session nowMs :: .activated p.request :: (b ++ recent), old, ?_, ?_, ?_, ?_, ?_⟩
    · simp [World.record, hext.log, hlog, acknowledged, Except.map]
    · simpa [acknowledged] using hquiet
    · rw [UInt64.lt_iff_toNat_lt] at hlt
      omega
    · intro s hs
      simp only [List.mem_cons, List.mem_append] at hs
      rcases hs with hs | hs | hs | hs
      · cases hs
      · cases hs
      · exact absurd hs (offersNone_of_harmless hb _ _)
      · exact Option.some.inj ((hoffered s hs).symm.trans hsession)
    · exact ((List.singleton_sublist.mpr hcapture).append hstory).cons_cons _ |>.cons_cons _

theorem shape_setGameMode {enabled : Bool} (h : Shape w r.state) :
    Shape (w.record (.note ⟨.setGameMode enabled, .ok []⟩)) (r.setGameMode enabled).state := by
  refine shape_note ?_ (offersNone_note (by simp))
  rcases r.setGameMode_cases enabled with ⟨hstate, hstate'⟩ | ⟨-, hsame⟩
  · exact shape_of_isLocal hstate' (h.gate hstate)
  · rw [hsame]
    exact h

theorem shape_goLocal {reason : ReturnReason} :
    Shape ((r.goLocal reason w).2.2.record (.note ⟨.goLocal reason, .ok (r.goLocal reason w).1⟩))
      (r.goLocal reason w).2.1.state :=
  shape_note (shape_of_isLocal (r.returned_isLocal _) (r.goLocal_gate _ w)) (offersNone_note (by simp))

end Calls

/-- Every call extends the log, and leaves the notes to the layer above. -/
theorem exec_extends (c : RouterCall) (r : Router) (w : World RouterNote) :
    ∃ recent, w.Extends (c.exec r w).2.2 recent ∧ ∀ n, .note n ∉ recent := by
  have hdrifts : ∀ {w' : World RouterNote}, w.Drifts w' → ∃ recent, w.Extends w' recent ∧ ∀ n, .note n ∉ recent :=
    fun ⟨recent, hharm, hext⟩ => ⟨recent, hext, hharm.not_note⟩
  have hreserves : ∀ {n : UInt64} {w₁ w' : World RouterNote}, w.Reserves n w₁ → w₁.Drifts w' →
      ∃ recent, w.Extends w' recent ∧ ∀ n, .note n ∉ recent := by
    rintro n w₁ w' ⟨a, ha, hext⟩ ⟨b, hb, hext'⟩
    refine ⟨_, hext.trans hext', fun m hm => ?_⟩
    rcases List.mem_append.mp hm with hm | hm
    · exact hb.not_note m hm
    · exact ha.not_note m (List.mem_of_ne_of_mem (by simp) hm)
  cases c with
  | goRemote peer nowMs =>
    have hstep := r.goRemote_cases peer nowMs w
    simp only [RouterCall.exec]
    revert hstep
    generalize r.goRemote peer nowMs w = out
    rintro (hdrift | - | ⟨-, hres, hdrift, -⟩ | ⟨-, -, -, -, -, hres, hdrift, -⟩)
    · exact hdrifts hdrift
    · exact hdrifts (World.Drifts.refl w)
    · exact hreserves hres hdrift
    · exact hreserves hres hdrift
  | ready request offeredSession =>
    have hstep := r.ready_cases request offeredSession w
    simp only [RouterCall.exec]
    revert hstep
    generalize r.ready request offeredSession w = out
    rintro (hdrift | ⟨-, -, -, -, hdrift, -⟩) <;> exact hdrifts hdrift
  | advance nowMs keysReleased =>
    have hstep := r.advance_cases nowMs keysReleased w
    simp only [RouterCall.exec]
    revert hstep
    generalize r.advance nowMs keysReleased w = out
    rintro (⟨-, hdrift⟩ | ⟨-, hdrift, -⟩ | ⟨-, -, hdrift⟩ | ⟨-, -, -, -, -, hdrift, -⟩) <;> exact hdrifts hdrift
  | commitAck request session nowMs =>
    have hstep := r.commitAck_cases request session nowMs w
    simp only [RouterCall.exec]
    revert hstep
    generalize r.commitAck request session nowMs w = out
    rintro (- | ⟨-, -, -, -, hdrift, -⟩ | ⟨-, -, -, -, -, a, ha, -, hext, -⟩)
    · exact hdrifts (World.Drifts.refl w)
    · exact hdrifts hdrift
    · exact ⟨_, hext, fun m hm => ha.not_note m (List.mem_of_ne_of_mem (by simp) hm)⟩
  | setGameMode enabled => exact hdrifts (World.Drifts.refl w)
  | goLocal reason => exact hdrifts (r.goLocal_drifts reason w)

/-! ### Runs -/

/-- What holds of a router and its world between the calls. -/
structure Invariant (g : LocalOverride) (s : Setting) : Prop where
  tells : World.Tells g s.world
  shape : Shape s.world s.router.state

theorem start_invariant {g : LocalOverride} (hg : g.isLocal = true) (moments : List Moment)
    (entropy : List (Option (Vector UInt8 16))) : Invariant g (Setting.start g moments entropy) :=
  ⟨World.start_tells g moments entropy, hg⟩

theorem next_invariant {g : LocalOverride} (s : Setting) (m : RouterMove) (h : Invariant g s) :
    Invariant g (s.next m) := by
  obtain ⟨htells, hshape⟩ := h
  cases m with
  | requestLocal =>
      exact ⟨htells.extends s.world.requestLocal_extends, shape_drifts hshape s.world.requestLocal_drifts⟩
  | call c =>
    obtain ⟨recent, hext, -⟩ := exec_extends c s.router s.world
    refine ⟨(htells.extends hext).extends (World.record_extends _ rfl), ?_⟩
    cases c with
    | goRemote peer nowMs => exact shape_goRemote hshape (s.router.goRemote_cases peer nowMs s.world)
    | ready request session => exact shape_ready hshape (s.router.ready_cases request session s.world)
    | advance nowMs keys => exact shape_advance hshape (s.router.advance_cases nowMs keys s.world)
    | commitAck request session nowMs =>
      exact shape_commitAck htells hshape (s.router.commitAck_cases request session nowMs s.world)
    | setGameMode enabled => exact shape_setGameMode hshape
    | goLocal reason => exact shape_goLocal

/-- An `advance` at or after the deadline does not stay. -/
theorem advance_late {r : Router} {p : Preparing} {nowMs : UInt64} {keysReleased : Bool} {w : World RouterNote}
    (hstate : r.state = .preparingRemote p) (hlate : p.deadlineMs ≤ nowMs) (p' : Preparing) :
    (r.advance nowMs keysReleased w).2.1.state ≠ .preparingRemote p' := by
  have hnot : ¬ nowMs < p.deadlineMs := by
    rw [UInt64.lt_iff_toNat_lt]
    rw [UInt64.le_iff_toNat_le] at hlate
    omega
  have hstep := r.advance_cases nowMs keysReleased w
  revert hstep
  generalize r.advance nowMs keysReleased w = out
  rintro (⟨hidle, -⟩ | - | ⟨hstate', hlt, -⟩ | ⟨hstate', hlt, -⟩)
  · exact absurd hstate (hidle p)
  · intro heq
    have hlocal := congrArg RouteState.isLocal heq
    rw [Router.returned_isLocal] at hlocal
    cases hlocal
  · rw [hstate] at hstate'
    cases hstate'
    exact absurd hlt hnot
  · rw [hstate] at hstate'
    cases hstate'
    exact absurd hlt hnot

/-- **Capture invariant.**  In every run from a local gate, after every call: a gate which is not local belongs to
a `RemoteActive` session which `ready` recorded for the outstanding request, with its `Commit`, its active capture
and its acknowledgement before the deadline in the log since the reservation, and no `request_local` there;
`ReturningLocal` is never at rest; and an `advance` at or after the deadline does not stay in `PreparingRemote`. -/
theorem capture_invariant (g : LocalOverride) (hg : g.isLocal = true) (moments : List Moment)
    (entropy : List (Option (Vector UInt8 16))) (moves : List RouterMove) :
    let s := run Setting.next (Setting.start g moments entropy) moves
    (s.world.gate.isLocal = false →
      ∃ peer session, s.router.state = .remoteActive peer session ∧ Captured peer session s.world.log) ∧
    (∀ reason, s.router.state ≠ .returningLocal reason) ∧
    ∀ p nowMs keysReleased, s.router.state = .preparingRemote p → p.deadlineMs ≤ nowMs →
      ∀ p', (s.next (.call (.advance nowMs keysReleased))).router.state ≠ .preparingRemote p' := by
  intro s
  have hshape : Shape s.world s.router.state :=
    (run_invariant (fun s m => next_invariant s m) (start_invariant hg moments entropy) moves).shape
  refine ⟨?_, ?_, ?_⟩
  · intro hremote
    cases hstate : s.router.state with
    | remoteActive peer session =>
      rw [hstate] at hshape
      exact ⟨peer, session, rfl, hshape.resolve_left (by simp [hremote])⟩
    | preparingRemote p =>
      rw [hstate] at hshape
      exact absurd hshape.1 (by simp [hremote])
    | returningLocal reason =>
      rw [hstate] at hshape
      exact hshape.elim
    | localDesktop | localGame =>
      exact absurd (hshape.gate (by rw [hstate]; rfl)) (by simp [hremote])
  · intro reason hstate
    rw [hstate] at hshape
    exact hshape
  · intro p nowMs keysReleased hstate hlate p'
    exact advance_late hstate hlate p'

/-- A whole handover from the default gate: its story is in the log. -/
theorem capture_invariant_handover :
    ∃ peer session, Captured peer session (run Setting.next (Setting.start ⟨1⟩ [] [])
      [.call (.goRemote "mac" 0), .call (.ready 3 7), .call (.advance 1 true),
        .call (.commitAck 3 7 2)]).world.log := by
  obtain ⟨peer, session, -, hcaptured⟩ := (capture_invariant ⟨1⟩ (by decide) [] []
    [.call (.goRemote "mac" 0), .call (.ready 3 7), .call (.advance 1 true),
      .call (.commitAck 3 7 2)]).1 (by decide)
  exact ⟨peer, session, hcaptured⟩

end MyKvm.Routing
