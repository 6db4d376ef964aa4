import MyKvm.Receiver.Atomic

/-!
# MyKvm.Receiver.Lease — how long a session may be silent

`Clocked` is the receiver with a clock beside it: the time of the last activity which was accepted from its
session, read off the calls and their answers.  The lease of the receiver runs from there, to the millisecond.

* `lease_exact`: when `expire_if_needed` ends the session, over every run.
-/

namespace MyKvm.Receiver

open MyKvm.Lib MyKvm.Protocol ReceiverSessionRuntime

/-- A call which is accepted as a sign of life, with the session which it names: a `Commit` or a `Ping` which is
answered, an input frame which is taken, a motion frame which is taken or kept. -/
def activity (r : ReceiverSessionRuntime) : ReceiverCall → Option (SessionId × UInt64)
  | .control frame peer nowMs =>
    match frame, (r.handleControlAt frame peer nowMs).1 with
    | .commit _ sessionId, .ok _ => some (sessionId, nowMs)
    | .ping sessionId _, .ok _ => some (sessionId, nowMs)
    | _, _ => none
  | .input frame peer nowMs =>
    match (r.handleInputAt frame peer nowMs).1 with
    | .ok () => some (frame.sessionId, nowMs)
    | .error _ => none
  | .motion frame peer nowMs =>
    match (r.handleMotionAt frame peer nowMs).1 with
    | .ok .buffered | .ok .applied => some (frame.sessionId, nowMs)
    | _ => none
  | _ => none

/-- The receiver, with the time of the last activity of its session. -/
structure Clocked where
  receiver : ReceiverSessionRuntime
  since : Option UInt64
  deriving DecidableEq

namespace Clocked

def start (r : ReceiverSessionRuntime) : Clocked := { receiver := r, since := none }

/-- Only an activity of the session itself moves its clock, and the clock goes with the session. -/
def next (w : Clocked) (c : ReceiverCall) : Clocked :=
  let r₁ := w.receiver.next c
  match r₁.activeSession, activity w.receiver c with
  | none, _ => { receiver := r₁, since := none }
  | some s, some (s', nowMs) => { receiver := r₁, since := if s' = s then some nowMs else w.since }
  | some _, none => { receiver := r₁, since := w.since }

/-- The receiver's own note is the clock. -/
structure Timed (w : Clocked) : Prop where
  coherent : Coherent w.receiver
  placed : Placed w.receiver
  clock : w.receiver.activeSession.isSome → w.receiver.lastActivityMs = w.since

end Clocked

section Steps

variable {r r₁ : ReceiverSessionRuntime}

/-- What a call does to the note: the session is over, an activity of it was noted, or nothing was. -/
inductive Notes (r : ReceiverSessionRuntime) (c : ReceiverCall) (r₁ : ReceiverSessionRuntime) : Prop
  | finished : r₁.activeSession = none → Notes r c r₁
  | noted {s : SessionId} {nowMs : UInt64} : r₁.activeSession = some s → activity r c = some (s, nowMs) →
      r₁.lastActivityMs = some nowMs → Notes r c r₁
  | quiet : r₁.activeSession = r.activeSession → activity r c = none →
      r₁.lastActivityMs = r.lastActivityMs → Notes r c r₁

theorem ControlStep.notes {frame : ControlFrame} {peer : AuthenticatedPeer} {nowMs : UInt64}
    {answer : Except SessionRuntimeError (Option ControlFrame)}
    (hstep : ControlStep r frame peer nowMs (answer, r₁))
    (hc : Coherent r) (hanswer : (r.handleControlAt frame peer nowMs).1 = answer) :
    Notes r (.control frame peer nowMs) r₁ := by
  have hrejected : ∀ e, answer = .error e → activity r (.control frame peer nowMs) = none := by
    rintro e rfl
    unfold activity
    dsimp only
    rw [hanswer]
    split
    · rename_i heq
      cases heq
    · rename_i heq
      cases heq
    · rfl
  cases hstep with
  | refused _ _ | unready _ _ | unknownLayout _ _ _ | prepareRefused _ _ _ _ _ =>
      exact .quiet rfl (hrejected _ rfl) rfl
  | helloFailed hreach hrelease | helloRefused hreach hrelease | greeted hreach hrelease =>
    exact .finished (hrelease.activeSession.trans hreach.2.2)
  | prepared _ _ _ _ _ => exact .quiet rfl rfl rfl
  | activated _ _ _ _ _ _ _ | recommitted _ _ =>
    refine .noted (by first | rfl | assumption) ?_ rfl
    unfold activity
    dsimp only
    rw [hanswer]
  | commitRefused _ _ hnone _ => exact .finished hnone
  | ended _ _ _ hrelease => exact .finished hrelease.activeSession
  | endedIdle _ hnone _ _ hrelease => exact .finished (hrelease.activeSession.trans hnone)
  | ponged hbound hh hstate =>
    rename_i s sequence h
    rcases Option.eq_none_or_eq_some r.activeSession with hnone | ⟨s', hactive⟩
    · exact .finished ((touch_activeSession _ _).trans hnone)
    · obtain rfl : s' = s := hc.eq_of_active hh hstate hactive
      have hnoted : (r.touch (.ping s' sequence) nowMs).lastActivityMs = some nowMs := by
        unfold touch
        rw [hactive]
        rfl
      refine .noted ((touch_activeSession _ _).trans hactive) ?_ hnoted
      unfold activity
      dsimp only
      rw [hanswer]

/-- A call which is not a frame leaves the note or ends the session. -/
theorem LoseStep.notes {answer : Except SessionRuntimeError Bool} {c : ReceiverCall}
    (hstep : LoseStep r (answer, r₁)) (hquiet : activity r c = none) : Notes r c r₁ := by
  cases hstep with
  | kept => exact .quiet rfl hquiet rfl
  | lost _ _ hrelease => exact .finished hrelease.activeSession

theorem LayoutStep.notes {displayLayouts : List ReceiverDisplayLayout} {answer : Except SessionRuntimeError Bool}
    {c : ReceiverCall} (hstep : LayoutStep r displayLayouts (answer, r₁)) (hquiet : activity r c = none) :
    Notes r c r₁ := by
  cases hstep with
  | current _ => exact .quiet rfl hquiet rfl
  | lost _ _ _ hrelease => exact .finished hrelease.activeSession
  | cleared _ hnone hrelease => exact .finished (hrelease.activeSession.trans hnone)

/-- What a motion which was submitted leaves. -/
theorem ApplyStep.ok_notes {frame : MotionFrame} (hstep : ApplyStep r frame (.ok (), r₁)) :
    r₁.activeSession = r.activeSession ∧ r₁.lastActivityMs = r.lastActivityMs := by
  cases hstep with
  | moved _ _ => exact ⟨rfl, rfl⟩

theorem FlushStep.ok_notes (hstep : FlushStep r (.ok (), r₁)) :
    r₁.activeSession = r.activeSession ∧ r₁.lastActivityMs = r.lastActivityMs := by
  cases hstep with
  | kept | dropped => exact ⟨rfl, rfl⟩
  | applied _ _ _ happly => exact happly.ok_notes

theorem InputStep.ok_notes {frame : CriticalFrame} {peer : AuthenticatedPeer} {nowMs : UInt64}
    (hstep : InputStep r frame peer nowMs (.ok (), r₁)) (hc : Coherent r) :
    r₁.activeSession = some frame.sessionId ∧ r₁.lastActivityMs = some nowMs := by
  cases hstep with
  | applied hadmitted _ _ hflush =>
    obtain ⟨hactive, hnoted⟩ := hflush.ok_notes
    exact ⟨hactive.trans (hadmitted.active hc), hnoted⟩

theorem MotionStep.ok_notes {frame : MotionFrame} {nowMs : UInt64} {disposition : MotionDisposition}
    (hstep : MotionStep r frame nowMs (.ok disposition, r₁)) :
    disposition = .stale ∧ r₁ = r ∨
      disposition ≠ .stale ∧ r₁.activeSession = some frame.sessionId ∧ r₁.lastActivityMs = some nowMs := by
  generalize hanswer : (.ok disposition : Except SessionRuntimeError MotionDisposition) = answer at hstep
  cases hstep with
  | refused _ => cases hanswer
  | stale =>
    cases hanswer
    exact .inl ⟨rfl, rfl⟩
  | buffered hactive _ =>
    cases hanswer
    exact .inr ⟨by simp, hactive, rfl⟩
  | applied hactive happly =>
    rename_i answer
    cases answer with
    | error e => cases hanswer
    | ok u =>
      cases hanswer
      obtain ⟨hsame, hnoted⟩ := happly.ok_notes
      exact .inr ⟨by simp, hsame.trans hactive, hnoted⟩

theorem handleInputAt_notes (hc : Coherent r) (hplaced : Placed r) (frame : CriticalFrame)
    (peer : AuthenticatedPeer)
    (nowMs : UInt64) : Notes r (.input frame peer nowMs) (r.handleInputAt frame peer nowMs).2 := by
  have hatomic := handleInputAt_atomic hc hplaced frame peer nowMs
  have hstep := handleInputAt_cases hc frame peer nowMs
  cases hout : r.handleInputAt frame peer nowMs with
  | mk answer r₁ =>
  rw [hout] at hatomic hstep
  cases answer with
  | ok u =>
    obtain ⟨hactive, hnoted⟩ := hstep.ok_notes hc
    exact .noted hactive (by simp only [activity, hout]) hnoted
  | error e =>
    by_cases hkind : ∃ error, e = .injector error
    · obtain ⟨error, rfl⟩ := hkind
      exact .finished (hatomic.failed error rfl)
    · push Not at hkind
      have hsame : r₁ = r := hatomic.refused e rfl hkind
      rw [hsame]
      exact .quiet rfl (by simp only [activity, hout]) rfl

theorem handleMotionAt_notes (hc : Coherent r) (frame : MotionFrame) (peer : AuthenticatedPeer) (nowMs : UInt64) :
    Notes r (.motion frame peer nowMs) (r.handleMotionAt frame peer nowMs).2 := by
  have hatomic := handleMotionAt_atomic hc frame peer nowMs
  have hstep := handleMotionAt_cases hc frame peer nowMs
  cases hout : r.handleMotionAt frame peer nowMs with
  | mk answer r₁ =>
  rw [hout] at hatomic hstep
  cases answer with
  | ok disposition =>
    rcases hstep.ok_notes with ⟨rfl, rfl⟩ | ⟨hkind, hactive, hnoted⟩
    · exact .quiet rfl (by simp only [activity, hout]) rfl
    · refine .noted hactive ?_ hnoted
      cases disposition with
      | stale => exact absurd rfl hkind
      | applied | buffered => simp only [activity, hout]
  | error e =>
    by_cases hkind : ∃ error, e = .injector error
    · obtain ⟨error, rfl⟩ := hkind
      exact .finished (hatomic.failed error rfl)
    · push Not at hkind
      have hsame : r₁ = r := hatomic.refused e rfl hkind
      rw [hsame]
      exact .quiet rfl (by simp only [activity, hout]) rfl

/-- **Every call** ends the session, notes an activity of it, or leaves the note. -/
theorem next_notes (hc : Coherent r) (hplaced : Placed r) (c : ReceiverCall) : Notes r c (r.next c) := by
  cases c with
  | control frame peer nowMs => exact (handleControlAt_cases hc frame peer nowMs).notes hc rfl
  | input frame peer nowMs => exact handleInputAt_notes hc hplaced frame peer nowMs
  | motion frame peer nowMs => exact handleMotionAt_notes hc frame peer nowMs
  | expire nowMs => exact (expireIfNeeded_cases hc nowMs).notes rfl
  | streamClosed peer => exact (inputStreamClosed_cases hc peer).notes rfl
  | layouts displayLayouts => exact (updateDisplayLayouts_cases hc displayLayouts).notes rfl
  | modifiers enabled control alt «meta» => exact .quiet rfl rfl rfl

end Steps

namespace Clocked

variable {w : Clocked}

@[simp] theorem next_receiver (w : Clocked) (c : ReceiverCall) : (w.next c).receiver = w.receiver.next c := by
  unfold next
  dsimp only
  split <;> rfl

theorem Timed.next (h : Timed w) (c : ReceiverCall) : Timed (w.next c) := by
  refine ⟨?_, ?_, fun hsome => ?_⟩
  · rw [next_receiver]
    exact next_coherent w.receiver c h.coherent
  · rw [next_receiver]
    exact next_placed h.coherent h.placed c
  · rw [next_receiver] at hsome ⊢
    cases next_notes h.coherent h.placed c with
    | finished hnone =>
      rw [hnone] at hsome
      cases hsome
    | noted hactive hactivity hnoted =>
      unfold Clocked.next
      dsimp only
      rw [hactive, hactivity, hnoted]
      simp
    | quiet hactive hactivity hnoted =>
      obtain ⟨s, hs⟩ := Option.isSome_iff_exists.mp hsome
      unfold Clocked.next
      dsimp only
      rw [hs, hactivity, hnoted]
      exact h.clock (by rw [← hactive, hs]; rfl)

theorem run_timed (localBoot : BootId) (injector : Injector) (displayLayouts : List ReceiverDisplayLayout)
    (calls : List ReceiverCall) :
    Timed (run Clocked.next (start (newWithDisplayLayouts localBoot injector displayLayouts)) calls) := by
  refine run_invariant (fun w c h => h.next c) ⟨?_, placed_of_none rfl, ?_⟩ calls
  · exact newWithDisplayLayouts_coherent localBoot injector displayLayouts
  · exact fun h => nomatch h

end Clocked

/-! ### The end of the lease -/

/-- **When the lease ends**: at the call in question the session has been silent for the whole of it. -/
structure LeaseExact (r : ReceiverSessionRuntime) (since : Option UInt64) (t : UInt64) : Prop where
  ends : ∀ s, r.activeSession = some s → ∃ last, since = some last ∧
    ((r.expireIfNeeded t).2.activeSession = none ↔ last.toNat + inputLeaseTimeoutMs.toNat ≤ t.toNat)
  stays : ∀ last, since = some last → t.toNat < last.toNat + inputLeaseTimeoutMs.toNat →
    r.expireIfNeeded t = (.ok false, r)

theorem Clocked.Timed.leaseExact {w : Clocked} (h : w.Timed) (t : UInt64) : LeaseExact w.receiver w.since t := by
  constructor
  · intro s hactive
    have hsome : w.receiver.activeSession.isSome := by rw [hactive]; rfl
    obtain ⟨last, hlast⟩ := Option.isSome_iff_exists.mp (h.coherent.lease hsome)
    refine ⟨last, (h.clock hsome).symm.trans hlast, ?_⟩
    have hsub := saturatingSub_toNat t last
    have hlease : 0 < inputLeaseTimeoutMs.toNat := by decide
    unfold expireIfNeeded
    rw [hactive, hlast]
    dsimp only
    by_cases hearly : saturatingSub t last < inputLeaseTimeoutMs
    · have hlt := UInt64.lt_iff_toNat_lt.mp hearly
      rw [if_pos hearly, hactive]
      constructor
      · intro hnone
        cases hnone
      · omega
    · have hle := UInt64.le_iff_toNat_le.mp (UInt64.not_lt.mp hearly)
      rw [if_neg hearly, loseSession_activeSession]
      refine ⟨fun _ => ?_, fun _ => rfl⟩
      omega
  · intro last hsince hearly
    unfold expireIfNeeded
    split
    · rename_i s last' hactive hlast
      have hsame : some last' = some last :=
        hlast.symm.trans ((h.clock (by rw [hactive]; rfl)).trans hsince)
      obtain rfl : last' = last := Option.some.inj hsame
      have hsub := saturatingSub_toNat t last'
      have hlt : saturatingSub t last' < inputLeaseTimeoutMs := by
        rw [UInt64.lt_iff_toNat_lt]
        have hlease : 0 < inputLeaseTimeoutMs.toNat := by decide
        omega
      rw [if_pos hlt]
    · rfl

/-- **The lease is exact**, over every run. -/
theorem lease_exact (localBoot : BootId) (injector : Injector) (displayLayouts : List ReceiverDisplayLayout)
    (calls : List ReceiverCall) (t : UInt64) :
    let w := run Clocked.next (.start (newWithDisplayLayouts localBoot injector displayLayouts)) calls
    w.receiver = run next (newWithDisplayLayouts localBoot injector displayLayouts) calls ∧
      LeaseExact w.receiver w.since t := by
  refine ⟨?_, (Clocked.run_timed localBoot injector displayLayouts calls).leaseExact t⟩
  exact run_project Clocked.next_receiver _ calls

end MyKvm.Receiver
