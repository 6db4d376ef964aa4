import Mathlib.Data.List.Basic
import MyKvm.Lib.Machine

/-!
# MyKvm.Transport.Motion — the slot of the pointer's newest position

Whoever sends a motion frame puts it into the slot, over the one which is there, and asks the transport for a flush
unless one is asked for already.  The transport takes the frame out and lets the flag go; if a newer frame came in
between, it asks itself for the next flush.  Every access to the slot is a step of its own, and the steps of the
senders, of the transport and of the drop come in any order.

* `Balanced`: the flag is up while one flush is asked for, under way, or about to be asked for.
* `Ordered`: what was handed over, what is in hand and what is in the slot, in the order in which it was stored.
* `Watched`: a frame which is in the slot will be seen.
* `motion_slot`: the result.
-/

namespace MyKvm.Transport.Motion

open MyKvm.Lib

/-- The slot, and the channel of the transport as far as it concerns the slot. -/
structure MotionSlot (P : Type) where
  latest : Option P
  scheduled : Bool
  closed : Bool
  /-- How many flush commands for the slot are in the channel. -/
  queued : ℕ
  /-- The channel has its receiver. -/
  running : Bool
  deriving DecidableEq

/-- How far `schedule_motion` is: just called, behind the look at `closed`, behind the swap, or behind a send which
failed. -/
inductive Schedule where
  | entered
  | opened
  | claimed
  | failed
  deriving DecidableEq

variable {P : Type}

/-- The next step of `schedule_motion`, and how far it is then, or what it returns. -/
def scheduleMotion (slot : MotionSlot P) : Schedule → MotionSlot P × (Schedule ⊕ Except String Unit)
  | .entered => if slot.closed then (slot, .inr (.error "motion handle is closed")) else (slot, .inl .opened)
  | .opened => ({ slot with scheduled := true }, if slot.scheduled then .inr (.ok ()) else .inl .claimed)
  | .claimed =>
    if slot.running then ({ slot with queued := slot.queued + 1 }, .inr (.ok ())) else (slot, .inl .failed)
  | .failed => ({ slot with scheduled := false }, .inr (.error "QUIC transport is stopped"))

/-- How far a sender is with `try_send`.  The frame has a number from when it is stored. -/
inductive Sender (P : Type) where
  | idle
  | opened (payload : P)
  | scheduling (number : ℕ) (schedule : Schedule)
  deriving DecidableEq

/-- How far the transport is with `flush_motion_nonblocking`. -/
inductive Flush (P : Type) where
  | idle
  | started
  | closing
  | opened
  | taken (payload : Option P)
  | handing (payload : P)
  | clearing
  | cleared
  | newer
  | scheduling (schedule : Schedule)
  deriving DecidableEq

/-- The slot, everybody who uses it, and what happened: the frames which were stored, those which were handed to
the datagram sender, and the numbers of those whose `try_send` returned `Ok`. -/
structure State (P : Type) where
  slot : MotionSlot P
  senders : List (Sender P)
  flush : Flush P
  stored : List P
  handed : List P
  accepted : List ℕ
  deriving DecidableEq

def start (senders : ℕ) : State P :=
  { slot := ⟨none, false, false, 0, true⟩, senders := List.replicate senders .idle, flush := .idle,
    stored := [], handed := [], accepted := [] }

inductive Step (P : Type) where
  /-- The sender begins `try_send`, with a frame which is encoded to a payload, or cannot be encoded. -/
  | trySend (sender : ℕ) (payload : Option P)
  /-- The next step of a sender. -/
  | advance (sender : ℕ)
  /-- The transport receives a flush command. -/
  | receive
  /-- The next step of the flush. -/
  | flush
  /-- The handle is dropped, in two steps. -/
  | close
  | clear
  /-- The transport ends, and its channel with it. -/
  | stop

namespace State

def trySend (s : State P) (sender : ℕ) (payload : Option P) : State P :=
  match s.senders[sender]? with
  | some .idle =>
    if s.slot.closed then s
    else match payload with
      | none => s
      | some payload => { s with senders := s.senders.set sender (.opened payload) }
  | _ => s

def advance (s : State P) (sender : ℕ) : State P :=
  match s.senders[sender]? with
  | some (.opened payload) =>
    { s with
      slot := { s.slot with latest := some payload }
      stored := s.stored ++ [payload]
      senders := s.senders.set sender (.scheduling (s.stored.length + 1) .entered) }
  | some (.scheduling number schedule) =>
    match scheduleMotion s.slot schedule with
    | (slot, .inl schedule) => { s with slot, senders := s.senders.set sender (.scheduling number schedule) }
    | (slot, .inr (.ok ())) =>
      { s with slot, senders := s.senders.set sender .idle, accepted := number :: s.accepted }
    | (slot, .inr (.error _)) => { s with slot, senders := s.senders.set sender .idle }
  | _ => s

def receive (s : State P) : State P :=
  match s.flush, s.slot.queued, s.slot.running with
  | .idle, queued + 1, true => { s with slot := { s.slot with queued }, flush := .started }
  | _, _, _ => s

def flushMotion (s : State P) : State P :=
  match s.flush with
  | .idle => s
  | .started => { s with flush := if s.slot.closed then .closing else .opened }
  | .closing => { s with slot := { s.slot with scheduled := false }, flush := .idle }
  | .opened => { s with slot := { s.slot with latest := none }, flush := .taken s.slot.latest }
  | .taken payload =>
    match payload.filter fun _ => !s.slot.closed with
    | some payload => { s with flush := .handing payload }
    | none => { s with flush := .clearing }
  | .handing payload => { s with handed := s.handed ++ [payload], flush := .clearing }
  | .clearing => { s with slot := { s.slot with scheduled := false }, flush := .cleared }
  | .cleared => { s with flush := if s.slot.latest.isSome then .newer else .idle }
  | .newer => { s with flush := if s.slot.closed then .idle else .scheduling .entered }
  | .scheduling schedule =>
    match scheduleMotion s.slot schedule with
    | (slot, .inl schedule) => { s with slot, flush := .scheduling schedule }
    | (slot, .inr _) => { s with slot, flush := .idle }

/-- The first step of the drop. -/
def close (s : State P) : State P := { s with slot := { s.slot with closed := true } }

/-- The second step of the drop. -/
def clear (s : State P) : State P :=
  if s.slot.closed then { s with slot := { s.slot with latest := none } } else s

def stop (s : State P) : State P :=
  match s.flush with
  | .idle => { s with slot := { s.slot with running := false, queued := 0 } }
  | _ => s

def next (s : State P) : Step P → State P
  | .trySend sender payload => s.trySend sender payload
  | .advance sender => s.advance sender
  | .receive => s.receive
  | .flush => s.flushMotion
  | .close => s.close
  | .clear => s.clear
  | .stop => s.stop

end State

variable {s : State P}

/-! ### The flag -/

/-- The flag is up on behalf of this call. -/
def Schedule.holds : Schedule → Bool
  | .claimed | .failed => true
  | .entered | .opened => false

def Sender.holds : Sender P → Bool
  | .scheduling _ schedule => schedule.holds
  | .idle | .opened _ => false

/-- A flush lets the flag go on its way. -/
def Flush.holds : Flush P → Bool
  | .started | .closing | .opened | .taken _ | .handing _ | .clearing => true
  | .scheduling schedule => schedule.holds
  | .idle | .cleared | .newer => false

/-- As long as the transport runs, the flag is up for exactly one: a flush command, the flush, or a sender. -/
structure Balanced (s : State P) : Prop where
  flag : s.slot.running = true →
    s.senders.countP Sender.holds + s.slot.queued + s.flush.holds.toNat = s.slot.scheduled.toNat
  drained : s.slot.running = false → s.slot.queued = 0

/-- A sender takes a step. -/
theorem countP_set_sender {senders : List (Sender P)} {i : ℕ} {sender : Sender P} (h : senders[i]? = some sender)
    (sender' : Sender P) :
    (senders.set i sender').countP Sender.holds + sender.holds.toNat =
      senders.countP Sender.holds + sender'.holds.toNat := by
  obtain ⟨hi, rfl⟩ := List.getElem?_eq_some_iff.mp h
  have hpos : senders[i].holds = true → 0 < senders.countP Sender.holds := fun hholds =>
    List.countP_pos_iff.mpr ⟨_, List.getElem_mem hi, hholds⟩
  rw [List.countP_set hi]
  by_cases hold : senders[i].holds = true
  · have hpos := hpos hold
    by_cases hnew : sender'.holds = true
    · simp only [hold, hnew, if_true, Bool.toNat_true]
      omega
    · simp only [hold, hnew, if_true, if_false, Bool.false_eq_true, Bool.toNat_true, Bool.toNat_false]
      omega
  · by_cases hnew : sender'.holds = true <;> simp [hold, hnew]

/-- **One step of `schedule_motion`** takes the flag for somebody, or lets it go. -/
theorem scheduleMotion_flag (slot : MotionSlot P) (schedule : Schedule)
    (hholds : schedule.holds = true → slot.scheduled = true) :
    slot.scheduled.toNat + ((scheduleMotion slot schedule).2.elim (·.holds.toNat) fun _ => 0) +
        (scheduleMotion slot schedule).1.queued =
      (scheduleMotion slot schedule).1.scheduled.toNat + schedule.holds.toNat + slot.queued := by
  cases schedule with
  | entered =>
    unfold scheduleMotion
    by_cases hclosed : slot.closed = true <;> simp [hclosed, Schedule.holds]
  | opened =>
    unfold scheduleMotion
    by_cases hscheduled : slot.scheduled = true <;> simp [hscheduled, Schedule.holds]
  | claimed =>
    unfold scheduleMotion
    by_cases hrunning : slot.running = true
    · simp [hrunning, Schedule.holds]
      omega
    · simp [hrunning, Schedule.holds]
  | failed =>
    unfold scheduleMotion
    simp [hholds rfl, Schedule.holds]

/-- What `schedule_motion` leaves alone. -/
theorem scheduleMotion_frame (slot : MotionSlot P) (schedule : Schedule) :
    let slot' := (scheduleMotion slot schedule).1
    slot'.latest = slot.latest ∧ slot'.closed = slot.closed ∧ slot'.running = slot.running ∧
      (slot.running = false → slot'.queued = slot.queued) := by
  cases schedule with
  | entered =>
    unfold scheduleMotion
    by_cases hclosed : slot.closed = true <;> simp [hclosed]
  | opened => simp [scheduleMotion]
  | claimed =>
    unfold scheduleMotion
    by_cases hrunning : slot.running = true <;> simp [hrunning]
  | failed => simp [scheduleMotion]

theorem Balanced.trySend (h : Balanced s) (i : ℕ) (payload : Option P) : Balanced (s.trySend i payload) := by
  unfold State.trySend
  split
  · rename_i hsender
    split
    · exact h
    · cases payload with
      | none => exact h
      | some payload =>
        refine ⟨fun hrunning => ?_, h.drained⟩
        have hcount := countP_set_sender hsender (.opened payload)
        have hflag := h.flag hrunning
        simp only [Sender.holds] at hcount ⊢
        omega
  · exact h

/-- Whoever holds the flag has it up. -/
theorem Balanced.scheduled_of_sender (h : Balanced s) (hrunning : s.slot.running = true) {i number : ℕ}
    {schedule : Schedule} (hsender : s.senders[i]? = some (.scheduling number schedule))
    (hholds : schedule.holds = true) : s.slot.scheduled = true := by
  have hflag := h.flag hrunning
  have hmem := List.mem_of_getElem? hsender
  have hpos : 0 < s.senders.countP Sender.holds := List.countP_pos_iff.mpr ⟨_, hmem, hholds⟩
  by_contra hup
  have hdown : s.slot.scheduled.toNat = 0 := by simpa using hup
  omega

theorem Balanced.scheduled_of_flush (h : Balanced s) (hrunning : s.slot.running = true)
    (hholds : s.flush.holds = true) : s.slot.scheduled = true := by
  have hflag := h.flag hrunning
  by_contra hup
  have hdown : s.slot.scheduled.toNat = 0 := by simpa using hup
  rw [hholds, Bool.toNat_true] at hflag
  omega

/-- A step of `scheduleMotion` leaves an empty channel empty. -/
theorem Balanced.drained_scheduleMotion (h : Balanced s) (schedule : Schedule)
    (hstopped : (scheduleMotion s.slot schedule).1.running = false) :
    (scheduleMotion s.slot schedule).1.queued = 0 := by
  obtain ⟨-, -, hrunning, hqueued⟩ := scheduleMotion_frame s.slot schedule
  rw [hrunning] at hstopped
  rw [hqueued hstopped, h.drained hstopped]

theorem Balanced.advance (h : Balanced s) (i : ℕ) : Balanced (s.advance i) := by
  unfold State.advance
  split
  · rename_i payload hsender
    refine ⟨fun hrunning => ?_, h.drained⟩
    have hcount := countP_set_sender hsender (.scheduling (s.stored.length + 1) .entered)
    have hflag := h.flag hrunning
    simp only [Sender.holds, Schedule.holds] at hcount ⊢
    omega
  · rename_i number schedule hsender
    obtain ⟨-, -, hrunning', -⟩ := scheduleMotion_frame s.slot schedule
    have hstep := fun hrunning : s.slot.running = true =>
      scheduleMotion_flag s.slot schedule (h.scheduled_of_sender hrunning hsender)
    have hdrained := h.drained_scheduleMotion schedule
    rcases hmoved : scheduleMotion s.slot schedule with ⟨slot, schedule' | answer⟩
    · rw [hmoved] at hrunning' hstep hdrained
      refine ⟨fun hrunning => ?_, hdrained⟩
      have hstep := hstep (hrunning'.symm.trans hrunning)
      have hflag := h.flag (hrunning'.symm.trans hrunning)
      have hcount := countP_set_sender hsender (.scheduling number schedule')
      simp only [Sender.holds, Sum.elim_inl] at hcount hstep ⊢
      omega
    · rw [hmoved] at hrunning' hstep hdrained
      have hcount := countP_set_sender hsender .idle
      have hback : slot.running = true →
          (s.senders.set i .idle).countP Sender.holds + slot.queued + s.flush.holds.toNat =
            slot.scheduled.toNat := by
        intro hrunning
        have hstep := hstep (hrunning'.symm.trans hrunning)
        have hflag := h.flag (hrunning'.symm.trans hrunning)
        simp only [Sender.holds, Sum.elim_inr, Bool.toNat_false] at hcount hstep ⊢
        omega
      cases answer with
      | error error => exact ⟨hback, hdrained⟩
      | ok => exact ⟨hback, hdrained⟩
  · exact h

theorem Balanced.receive (h : Balanced s) : Balanced s.receive := by
  unfold State.receive
  split
  · rename_i queued hflush hqueued hrunning
    refine ⟨fun _ => ?_, fun hstopped => ?_⟩
    · have hflag := h.flag hrunning
      rw [hflush, hqueued] at hflag
      simp only [Flush.holds, Bool.toNat_false, Bool.toNat_true] at hflag ⊢
      omega
    · cases hrunning.symm.trans hstopped
  · exact h

theorem Balanced.flushMotion (h : Balanced s) : Balanced s.flushMotion := by
  have hdown : s.slot.running = true → s.flush.holds = true →
      s.senders.countP Sender.holds + s.slot.queued = 0 := by
    intro hrunning hholds
    have hflag := h.flag hrunning
    have hup := h.scheduled_of_flush hrunning hholds
    rw [hholds, hup, Bool.toNat_true] at hflag
    omega
  -- the steps which only move on
  have hmoves : ∀ flush' : Flush P, flush'.holds = s.flush.holds → Balanced { s with flush := flush' } := by
    intro flush' hsame
    refine ⟨fun hrunning => ?_, h.drained⟩
    rw [hsame]
    exact h.flag hrunning
  unfold State.flushMotion
  split
  · exact h
  · rename_i hflush
    refine hmoves _ ?_
    rw [hflush]
    split_ifs <;> rfl
  · rename_i hflush
    rw [hflush] at hdown
    refine ⟨fun hrunning => ?_, h.drained⟩
    have hdown := hdown hrunning rfl
    simp only [Flush.holds, Bool.toNat_false] at hdown ⊢
    omega
  · rename_i hflush
    refine ⟨fun hrunning => ?_, h.drained⟩
    have hflag := h.flag hrunning
    rw [hflush] at hflag
    exact hflag
  · rename_i payload hflush
    split
    · exact hmoves _ (by rw [hflush]; rfl)
    · exact hmoves _ (by rw [hflush]; rfl)
  · rename_i payload hflush
    refine ⟨fun hrunning => ?_, h.drained⟩
    have hflag := h.flag hrunning
    rw [hflush] at hflag
    exact hflag
  · rename_i hflush
    rw [hflush] at hdown
    refine ⟨fun hrunning => ?_, h.drained⟩
    have hdown := hdown hrunning rfl
    simp only [Flush.holds, Bool.toNat_false] at hdown ⊢
    omega
  · rename_i hflush
    refine hmoves _ ?_
    rw [hflush]
    split_ifs <;> rfl
  · rename_i hflush
    refine hmoves _ ?_
    rw [hflush]
    split_ifs <;> rfl
  · rename_i schedule hflush
    obtain ⟨-, -, hrunning', -⟩ := scheduleMotion_frame s.slot schedule
    have hstep := fun hrunning : s.slot.running = true =>
      scheduleMotion_flag s.slot schedule fun hholds =>
        h.scheduled_of_flush hrunning (by rw [hflush]; exact hholds)
    have hdrained := h.drained_scheduleMotion schedule
    rcases hmoved : scheduleMotion s.slot schedule with ⟨slot, schedule' | answer⟩
    all_goals
      rw [hmoved] at hrunning' hstep hdrained
      refine ⟨fun hrunning => ?_, hdrained⟩
      have hstep := hstep (hrunning'.symm.trans hrunning)
      have hflag := h.flag (hrunning'.symm.trans hrunning)
      rw [hflush] at hflag
    · simp only [Flush.holds, Sum.elim_inl] at hflag hstep ⊢
      omega
    · simp only [Flush.holds, Sum.elim_inr, Bool.toNat_false] at hflag hstep ⊢
      omega

theorem Balanced.next (h : Balanced s) (step : Step P) : Balanced (s.next step) := by
  cases step with
  | trySend i payload => exact h.trySend i payload
  | advance i => exact h.advance i
  | receive => exact h.receive
  | flush => exact h.flushMotion
  | close => exact ⟨h.flag, h.drained⟩
  | clear =>
    show Balanced s.clear
    unfold State.clear
    split
    · exact ⟨h.flag, h.drained⟩
    · exact h
  | stop =>
    show Balanced s.stop
    unfold State.stop
    split
    · exact ⟨fun hrunning => (by cases hrunning), fun _ => rfl⟩
    · exact h

theorem start_balanced (senders : ℕ) : Balanced (start senders : State P) := by
  refine ⟨fun _ => ?_, fun _ => rfl⟩
  have hnone : (List.replicate senders (Sender.idle : Sender P)).countP Sender.holds = 0 := by
    rw [List.countP_replicate]
    rfl
  unfold start
  rw [hnone]
  rfl

/-! ### The frames -/

/-- The frame which the flush has taken out and not yet handed over. -/
def Flush.inHand : Flush P → List P
  | .taken payload => payload.toList
  | .handing payload => [payload]
  | _ => []

/-- The frames which were not overwritten, in order: handed over, in hand, in the slot. -/
def State.passed (s : State P) : List P := s.handed ++ s.flush.inHand ++ s.slot.latest.toList

/-- What is there was stored in this order; the slot has the newest frame; and until the drop the newest frame is
the last which is there. -/
structure Ordered (s : State P) : Prop where
  sublist : s.passed.Sublist s.stored
  newest : ∀ payload, s.slot.latest = some payload → s.stored.getLast? = some payload
  last : s.slot.closed = false → s.passed.getLast? = s.stored.getLast?

theorem Ordered.of_eq {s' : State P} (h : Ordered s) (hpassed : s'.passed = s.passed)
    (hstored : s'.stored = s.stored)
    (hlatest : s'.slot.latest = s.slot.latest ∨ s'.slot.latest = none) (hclosed : s'.slot.closed = s.slot.closed) :
    Ordered s' := by
  refine ⟨?_, fun payload hsome => ?_, fun hopen => ?_⟩
  · rw [hpassed, hstored]
    exact h.sublist
  · rw [hstored]
    rcases hlatest with hsame | hnone
    · exact h.newest payload (hsame ▸ hsome)
    · cases hnone.symm.trans hsome
  · rw [hpassed, hstored]
    exact h.last (hclosed ▸ hopen)

theorem Ordered.trySend (h : Ordered s) (i : ℕ) (payload : Option P) : Ordered (s.trySend i payload) := by
  unfold State.trySend
  split
  · split
    · exact h
    · cases payload with
      | none => exact h
      | some payload => exact h.of_eq rfl rfl (.inl rfl) rfl
  · exact h

theorem Ordered.advance (h : Ordered s) (i : ℕ) : Ordered (s.advance i) := by
  unfold State.advance
  split
  · rename_i payload hsender
    have hbefore : (s.handed ++ s.flush.inHand).Sublist s.stored := (List.sublist_append_left _ _).trans h.sublist
    refine ⟨hbefore.append_right [payload], fun payload' hsome => ?_, fun _ => ?_⟩
    · rw [← Option.some.inj hsome]
      exact List.getLast?_concat
    · show (s.handed ++ s.flush.inHand ++ [payload]).getLast? = (s.stored ++ [payload]).getLast?
      rw [List.getLast?_concat, List.getLast?_concat]
  · rename_i number schedule hsender
    obtain ⟨hlatest, hclosed, -, -⟩ := scheduleMotion_frame s.slot schedule
    rcases hmoved : scheduleMotion s.slot schedule with ⟨slot, schedule' | answer⟩
    · rw [hmoved] at hlatest hclosed
      dsimp only at hlatest hclosed
      exact h.of_eq (by simp [State.passed, hlatest]) rfl (.inl hlatest) hclosed
    · rw [hmoved] at hlatest hclosed
      dsimp only at hlatest hclosed
      cases answer with
      | error error => exact h.of_eq (by simp [State.passed, hlatest]) rfl (.inl hlatest) hclosed
      | ok => exact h.of_eq (by simp [State.passed, hlatest]) rfl (.inl hlatest) hclosed
  · exact h

theorem Ordered.flushMotion (h : Ordered s) : Ordered s.flushMotion := by
  -- the steps which take nothing and hand nothing over
  have hmoves : ∀ flush' : Flush P, flush'.inHand = s.flush.inHand → Ordered { s with flush := flush' } :=
    fun flush' hsame => h.of_eq (by simp [State.passed, hsame]) rfl (.inl rfl) rfl
  unfold State.flushMotion
  split
  · exact h
  · rename_i hflush
    refine hmoves _ ?_
    rw [hflush]
    split_ifs <;> rfl
  · rename_i hflush
    exact h.of_eq (by simp [State.passed, hflush, Flush.inHand]) rfl (.inl rfl) rfl
  · rename_i hflush
    exact h.of_eq (by simp [State.passed, hflush, Flush.inHand]) rfl (.inr rfl) rfl
  · rename_i payload hflush
    split
    · rename_i payload' hfilter
      have hsome : payload = some payload' := (Option.filter_eq_some_iff.mp hfilter).1
      refine hmoves _ ?_
      rw [hflush, hsome]
      rfl
    · rename_i hfilter
      cases payload with
      | none =>
        refine hmoves _ ?_
        rw [hflush]
        rfl
      | some payload =>
        have hclosed : s.slot.closed = true := by simpa using hfilter
        refine ⟨?_, h.newest, fun hopen => ?_⟩
        · refine List.Sublist.trans ?_ h.sublist
          unfold State.passed
          rw [hflush]
          simp [Flush.inHand]
        · cases hclosed.symm.trans hopen
  · rename_i payload hflush
    exact h.of_eq (by simp [State.passed, hflush, Flush.inHand]) rfl (.inl rfl) rfl
  · rename_i hflush
    exact h.of_eq (by simp [State.passed, hflush, Flush.inHand]) rfl (.inl rfl) rfl
  · rename_i hflush
    refine hmoves _ ?_
    rw [hflush]
    split_ifs <;> rfl
  · rename_i hflush
    refine hmoves _ ?_
    rw [hflush]
    split_ifs <;> rfl
  · rename_i schedule hflush
    obtain ⟨hlatest, hclosed, -, -⟩ := scheduleMotion_frame s.slot schedule
    rcases hmoved : scheduleMotion s.slot schedule with ⟨slot, schedule' | answer⟩
    all_goals
      rw [hmoved] at hlatest hclosed
      dsimp only at hlatest hclosed
      exact h.of_eq (by simp [State.passed, hlatest, hflush, Flush.inHand]) rfl (.inl hlatest) hclosed

theorem Ordered.next (h : Ordered s) (step : Step P) : Ordered (s.next step) := by
  cases step with
  | trySend i payload => exact h.trySend i payload
  | advance i => exact h.advance i
  | receive =>
    show Ordered s.receive
    unfold State.receive
    split
    · rename_i queued hflush hqueued hrunning
      exact h.of_eq (by simp [State.passed, hflush, Flush.inHand]) rfl (.inl rfl) rfl
    · exact h
  | flush => exact h.flushMotion
  | close => exact ⟨h.sublist, h.newest, fun hopen => (by cases hopen)⟩
  | clear =>
    show Ordered s.clear
    unfold State.clear
    split
    · rename_i hclosed
      refine ⟨?_, fun payload hsome => (by cases hsome), fun hopen => ?_⟩
      · refine List.Sublist.trans ?_ h.sublist
        simp [State.passed]
      · cases hclosed.symm.trans hopen
    · exact h
  | stop =>
    show Ordered s.stop
    unfold State.stop
    split
    · exact h.of_eq rfl rfl (.inl rfl) rfl
    · exact h

/-! ### Who will see the newest frame -/

/-- The flush has let the flag go and will look at the slot once more. -/
def Flush.rechecks : Flush P → Bool
  | .cleared | .newer | .scheduling .entered | .scheduling .opened => true
  | _ => false

/-- What the numbers and the results say. -/
structure Tracked (s : State P) : Prop where
  numbers : ∀ number schedule, .scheduling number schedule ∈ s.senders → number ≤ s.stored.length
  returned : ∀ number ∈ s.accepted, number ≤ s.stored.length
  failing : ∀ number, .scheduling number .failed ∈ s.senders → s.slot.running = false
  refused : s.flush = .scheduling .failed → s.slot.running = false
  closing : s.flush = .closing → s.slot.closed = true

/-- The `try_send` of the newest frame is under way or has returned `Ok`; and after that somebody will see the
frame, if it is in the slot. -/
structure Watched (s : State P) : Prop where
  owned : s.slot.running = true → s.slot.closed = false → s.stored ≠ [] →
    s.stored.length ∈ s.accepted ∨ ∃ schedule, .scheduling s.stored.length schedule ∈ s.senders
  watched : s.slot.running = true → s.slot.closed = false → s.slot.latest ≠ none → s.stored.length ∈ s.accepted →
    s.slot.scheduled = true ∨ s.flush.rechecks = true

/-- Another sender stays where it is. -/
theorem mem_set_of_ne {senders : List (Sender P)} {i : ℕ} {old new sender : Sender P}
    (hold : senders[i]? = some old)
    (hmem : sender ∈ senders) (hne : sender ≠ old) : sender ∈ senders.set i new := by
  obtain ⟨j, hj, rfl⟩ := List.mem_iff_getElem.mp hmem
  have hother : i ≠ j := by
    rintro rfl
    exact hne (Option.some.inj ((List.getElem?_eq_getElem hj).symm.trans hold))
  rw [← List.getElem_set_ne hother (by simpa using hj)]
  exact List.getElem_mem _

theorem mem_set_self {senders : List (Sender P)} {i : ℕ} {old : Sender P} (hold : senders[i]? = some old)
    (new : Sender P) : new ∈ senders.set i new := by
  obtain ⟨hi, -⟩ := List.getElem?_eq_some_iff.mp hold
  exact List.mem_set hi new

/-- How far `schedule_motion` gets with one step, and what it returns. -/
theorem scheduleMotion_cases (slot : MotionSlot P) (schedule : Schedule) :
    (schedule = .entered ∧ slot.closed = true ∧ ∃ error,
      scheduleMotion slot schedule = (slot, .inr (.error error))) ∨
    (schedule = .entered ∧ slot.closed = false ∧ scheduleMotion slot schedule = (slot, .inl .opened)) ∨
    (schedule = .opened ∧ slot.scheduled = true ∧ scheduleMotion slot schedule = (slot, .inr (.ok ()))) ∨
    (schedule = .opened ∧ scheduleMotion slot schedule = ({ slot with scheduled := true }, .inl .claimed)) ∨
    (schedule = .claimed ∧
      scheduleMotion slot schedule = ({ slot with queued := slot.queued + 1 }, .inr (.ok ()))) ∨
    (schedule = .claimed ∧ slot.running = false ∧ scheduleMotion slot schedule = (slot, .inl .failed)) ∨
    (schedule = .failed ∧
      ∃ error, scheduleMotion slot schedule = ({ slot with scheduled := false }, .inr (.error error))) := by
  cases schedule with
  | entered =>
    by_cases hclosed : slot.closed = true
    · exact .inl ⟨rfl, hclosed, _, by rw [scheduleMotion, if_pos hclosed]⟩
    · exact .inr (.inl ⟨rfl, by simpa using hclosed, by rw [scheduleMotion, if_neg hclosed]⟩)
  | opened =>
    by_cases hscheduled : slot.scheduled = true
    · refine .inr (.inr (.inl ⟨rfl, hscheduled, ?_⟩))
      rw [scheduleMotion, if_pos hscheduled, ← hscheduled]
    · exact .inr (.inr (.inr (.inl ⟨rfl, by rw [scheduleMotion, if_neg hscheduled]⟩)))
  | claimed =>
    by_cases hrunning : slot.running = true
    · exact .inr (.inr (.inr (.inr (.inl ⟨rfl, by rw [scheduleMotion, if_pos hrunning]⟩))))
    · exact .inr (.inr (.inr (.inr (.inr (.inl
        ⟨rfl, by simpa using hrunning, by rw [scheduleMotion, if_neg hrunning]⟩)))))
  | failed => exact .inr (.inr (.inr (.inr (.inr (.inr ⟨rfl, _, rfl⟩)))))

/-- Only a transport which has ended makes a send fail. -/
theorem running_of_failed {slot : MotionSlot P} {schedule : Schedule}
    (h : (scheduleMotion slot schedule).2 = .inl .failed) : slot.running = false := by
  rcases scheduleMotion_cases slot schedule with ⟨-, -, error, hmoved⟩ | ⟨-, -, hmoved⟩ |
    ⟨-, -, hmoved⟩ | ⟨-, hmoved⟩ |
    ⟨-, hmoved⟩ | ⟨-, hstopped, -⟩ | ⟨-, error, hmoved⟩
  all_goals first | exact hstopped | (rw [hmoved] at h; cases h)

/-- While the slot is open and the transport runs, `schedule_motion` does not fail. -/
theorem closed_of_error {slot : MotionSlot P} {schedule : Schedule} {error : String}
    (h : (scheduleMotion slot schedule).2 = .inr (.error error)) : slot.closed = true ∨ schedule = .failed := by
  rcases scheduleMotion_cases slot schedule with ⟨-, hclosed, -⟩ | ⟨-, -, hmoved⟩ | ⟨-, -, hmoved⟩ | ⟨-, hmoved⟩ |
    ⟨-, hmoved⟩ | ⟨-, -, hmoved⟩ | ⟨hfailed, -⟩
  all_goals first | exact .inl hclosed | exact .inr hfailed | (rw [hmoved] at h; cases h)

/-- When `schedule_motion` returns `Ok`, the flag is up. -/
theorem scheduled_of_ok {slot : MotionSlot P} {schedule : Schedule}
    (h : (scheduleMotion slot schedule).2 = .inr (.ok ()))
    (hholds : schedule.holds = true → slot.scheduled = true) :
    (scheduleMotion slot schedule).1.scheduled = true := by
  rcases scheduleMotion_cases slot schedule with ⟨-, -, error, hmoved⟩ | ⟨-, -, hmoved⟩ |
    ⟨-, hup, hmoved⟩ | ⟨-, hmoved⟩ |
    ⟨rfl, hmoved⟩ | ⟨-, -, hmoved⟩ | ⟨-, error, hmoved⟩
  all_goals rw [hmoved] at h ⊢
  · cases h
  · cases h
  · exact hup
  · exact hholds rfl
  · cases h
  · cases h

/-- A call which goes on leaves the flag up, has put it up, or has yet to look at it. -/
theorem scheduled_of_moved {slot : MotionSlot P} {schedule schedule' : Schedule}
    (h : (scheduleMotion slot schedule).2 = .inl schedule') (hrunning : slot.running = true) :
    (schedule' = .opened ∧ (scheduleMotion slot schedule).1.scheduled = slot.scheduled) ∨
      (scheduleMotion slot schedule).1.scheduled = true := by
  rcases scheduleMotion_cases slot schedule with ⟨-, -, error, hmoved⟩ | ⟨-, -, hmoved⟩ |
    ⟨-, -, hmoved⟩ | ⟨-, hmoved⟩ |
    ⟨-, hmoved⟩ | ⟨-, hstopped, -⟩ | ⟨-, error, hmoved⟩
  · rw [hmoved] at h
    cases h
  · rw [hmoved] at h ⊢
    exact .inl ⟨(Sum.inl.inj h).symm, rfl⟩
  · rw [hmoved] at h
    cases h
  · rw [hmoved]
    exact .inr rfl
  · rw [hmoved] at h
    cases h
  · cases hrunning.symm.trans hstopped
  · rw [hmoved] at h
    cases h

theorem Tracked.advance (h : Tracked s) (i : ℕ) : Tracked (s.advance i) := by
  -- a sender which stays has its number, and the new one brings its own
  have hset : ∀ {sender sender' : Sender P},
      sender' ∈ s.senders.set i sender → sender' ∈ s.senders ∨ sender' = sender :=
    List.mem_or_eq_of_mem_set
  unfold State.advance
  split
  · rename_i payload hsender
    have hlength : (s.stored ++ [payload]).length = s.stored.length + 1 := by simp
    refine ⟨fun number schedule hmem => ?_, fun number hmem => ?_, fun number hmem => ?_, h.refused, h.closing⟩
    · rw [hlength]
      rcases hset hmem with hold | hnew
      · have hnumber := h.numbers number schedule hold
        omega
      · cases hnew
        omega
    · rw [hlength]
      have hnumber := h.returned number hmem
      omega
    · rcases hset hmem with hold | hnew
      · exact h.failing number hold
      · cases hnew
  · rename_i number schedule hsender
    have hnumber := h.numbers number schedule (List.mem_of_getElem? hsender)
    obtain ⟨-, hclosed, hrunning, -⟩ := scheduleMotion_frame s.slot schedule
    have hfailed := @running_of_failed P s.slot schedule
    rcases hmoved : scheduleMotion s.slot schedule with ⟨slot, schedule' | answer⟩
    · rw [hmoved] at hclosed hrunning hfailed
      dsimp only at hclosed hrunning hfailed
      refine ⟨fun number' schedule hmem => ?_, h.returned, fun number' hmem => ?_, fun hrefused => ?_,
        fun hclosing => ?_⟩
      · rcases hset hmem with hold | hnew
        · exact h.numbers number' schedule hold
        · cases hnew
          exact hnumber
      · rcases hset hmem with hold | hnew
        · exact hrunning.trans (h.failing number' hold)
        · cases hnew
          exact hrunning.trans (hfailed rfl)
      · exact hrunning.trans (h.refused hrefused)
      · exact hclosed.trans (h.closing hclosing)
    · rw [hmoved] at hclosed hrunning
      have hnumbers : ∀ number' schedule, .scheduling number' schedule ∈ s.senders.set i .idle →
          number' ≤ s.stored.length := by
        intro number' schedule hmem
        rcases hset hmem with hold | hnew
        · exact h.numbers number' schedule hold
        · cases hnew
      have hfailing : ∀ number', .scheduling number' .failed ∈ s.senders.set i .idle → slot.running = false := by
        intro number' hmem
        rcases hset hmem with hold | hnew
        · exact hrunning.trans (h.failing number' hold)
        · cases hnew
      cases answer with
      | error error =>
        exact ⟨hnumbers, h.returned, hfailing, fun hrefused => hrunning.trans (h.refused hrefused),
          fun hclosing => hclosed.trans (h.closing hclosing)⟩
      | ok =>
        refine ⟨hnumbers, fun number' hmem => ?_, hfailing, fun hrefused => hrunning.trans (h.refused hrefused),
          fun hclosing => hclosed.trans (h.closing hclosing)⟩
        rcases List.mem_cons.mp hmem with rfl | hold
        · exact hnumber
        · exact h.returned number' hold
  · exact h

theorem Tracked.trySend (h : Tracked s) (i : ℕ) (payload : Option P) : Tracked (s.trySend i payload) := by
  unfold State.trySend
  split
  · split
    · exact h
    · cases payload with
      | none => exact h
      | some payload =>
        refine ⟨fun number schedule hmem => ?_, h.returned, fun number hmem => ?_, h.refused, h.closing⟩
        · rcases List.mem_or_eq_of_mem_set hmem with hold | hnew
          · exact h.numbers number schedule hold
          · cases hnew
        · rcases List.mem_or_eq_of_mem_set hmem with hold | hnew
          · exact h.failing number hold
          · cases hnew
  · exact h

/-- The flush goes on. -/
theorem Tracked.moves (h : Tracked s) {slot : MotionSlot P} {flush : Flush P} {handed : List P}
    (hrunning : slot.running = s.slot.running) (hrefused : flush = .scheduling .failed → slot.running = false)
    (hclosing : flush = .closing → slot.closed = true) : Tracked { s with slot, flush, handed } :=
  ⟨h.numbers, h.returned, fun number hmem => hrunning.trans (h.failing number hmem), hrefused, hclosing⟩

theorem Tracked.flushMotion (h : Tracked s) : Tracked s.flushMotion := by
  unfold State.flushMotion
  split
  · exact h
  · refine h.moves rfl (fun hrefused => ?_) fun hclosing => ?_
    · split_ifs at hrefused
    · by_cases hclosed : s.slot.closed = true
      · exact hclosed
      · rw [if_neg hclosed] at hclosing
        cases hclosing
  · exact h.moves rfl nofun nofun
  · exact h.moves rfl nofun nofun
  · split
    · exact h.moves rfl nofun nofun
    · exact h.moves rfl nofun nofun
  · exact h.moves rfl nofun nofun
  · exact h.moves rfl nofun nofun
  · refine h.moves rfl (fun hrefused => ?_) fun hclosing => ?_
    · split_ifs at hrefused
    · split_ifs at hclosing
  · refine h.moves rfl (fun hrefused => ?_) fun hclosing => ?_
    · split_ifs at hrefused
      cases hrefused
    · split_ifs at hclosing
  · rename_i schedule hflush
    obtain ⟨-, -, hrunning, -⟩ := scheduleMotion_frame s.slot schedule
    have hfailed := @running_of_failed P s.slot schedule
    rcases hmoved : scheduleMotion s.slot schedule with ⟨slot, schedule' | answer⟩
    · rw [hmoved] at hrunning hfailed
      refine h.moves hrunning (fun hrefused => ?_) nofun
      cases hrefused
      exact hrunning.trans (hfailed rfl)
    · rw [hmoved] at hrunning
      exact h.moves hrunning nofun nofun

theorem Tracked.next (h : Tracked s) (step : Step P) : Tracked (s.next step) := by
  cases step with
  | trySend i payload => exact h.trySend i payload
  | advance i => exact h.advance i
  | receive =>
    show Tracked s.receive
    unfold State.receive
    split
    · exact h.moves rfl nofun nofun
    · exact h
  | flush => exact h.flushMotion
  | close => exact h.moves rfl h.refused fun _ => rfl
  | clear =>
    show Tracked s.clear
    unfold State.clear
    split
    · exact h.moves rfl h.refused h.closing
    · exact h
  | stop =>
    show Tracked s.stop
    unfold State.stop
    split
    · exact ⟨h.numbers, h.returned, fun _ _ => rfl, fun _ => rfl, h.closing⟩
    · exact h

/-! ### Each frame has one sender -/

/-- No two senders have the same frame, and none has a frame whose `try_send` returned. -/
structure Numbered (s : State P) : Prop where
  unique : ∀ (i j number : ℕ) (schedule schedule' : Schedule),
    s.senders[i]? = some (Sender.scheduling number schedule) →
    s.senders[j]? = some (Sender.scheduling number schedule') → i = j
  gone : ∀ number ∈ s.accepted, ∀ (i : ℕ) (schedule : Schedule),
    s.senders[i]? ≠ some (Sender.scheduling number schedule)

/-- A sender which is there after a step was there before, or is the one which took the step. -/
theorem getElem?_set_cases {senders : List (Sender P)} {i j : ℕ} {new sender : Sender P}
    (h : (senders.set i new)[j]? = some sender) :
    (j ≠ i ∧ senders[j]? = some sender) ∨ (j = i ∧ sender = new) := by
  rw [List.getElem?_set] at h
  by_cases hsame : i = j
  · rw [if_pos hsame] at h
    split_ifs at h
    exact .inr ⟨hsame.symm, (Option.some.inj h).symm⟩
  · rw [if_neg hsame] at h
    exact .inl ⟨fun heq => hsame heq.symm, h⟩

/-- A sender which goes on without a frame, or lets its frame go. -/
theorem Numbered.leave (h : Numbered s) {i : ℕ} {new : Sender P}
    (hnew : ∀ number schedule, new ≠ .scheduling number schedule) :
    Numbered { s with senders := s.senders.set i new } := by
  refine ⟨fun j k number schedule schedule' hj hk => ?_, fun number hmem j schedule hj => ?_⟩
  · rcases getElem?_set_cases hj with ⟨-, hj⟩ | ⟨-, heq⟩
    · rcases getElem?_set_cases hk with ⟨-, hk⟩ | ⟨-, heq⟩
      · exact h.unique j k number schedule schedule' hj hk
      · exact absurd heq.symm (hnew _ _)
    · exact absurd heq.symm (hnew _ _)
  · rcases getElem?_set_cases hj with ⟨-, hj⟩ | ⟨-, heq⟩
    · exact h.gone number hmem j schedule hj
    · exact hnew _ _ heq.symm

theorem Numbered.trySend (h : Numbered s) (i : ℕ) (payload : Option P) : Numbered (s.trySend i payload) := by
  unfold State.trySend
  split
  · split
    · exact h
    · cases payload with
      | none => exact h
      | some payload => exact h.leave nofun
  · exact h

theorem Numbered.advance (h : Numbered s) (htracked : Tracked s) (i : ℕ) : Numbered (s.advance i) := by
  unfold State.advance
  split
  · rename_i payload hsender
    -- the number is new
    have hnew : ∀ (j : ℕ) (schedule : Schedule),
      s.senders[j]? ≠ some (Sender.scheduling (s.stored.length + 1) schedule) := by
      intro j schedule hj
      have hnumber := htracked.numbers _ schedule (List.mem_of_getElem? hj)
      omega
    refine ⟨fun j k number schedule schedule' hj hk => ?_, fun number hmem j schedule hj => ?_⟩
    · rcases getElem?_set_cases hj with ⟨-, hj⟩ | ⟨rfl, heq⟩
      · rcases getElem?_set_cases hk with ⟨-, hk⟩ | ⟨-, heq⟩
        · exact h.unique j k number schedule schedule' hj hk
        · cases heq
          exact absurd hj (hnew j schedule)
      · cases heq
        rcases getElem?_set_cases hk with ⟨-, hk⟩ | ⟨rfl, -⟩
        · exact absurd hk (hnew k schedule')
        · rfl
    · rcases getElem?_set_cases hj with ⟨-, hj⟩ | ⟨-, heq⟩
      · exact h.gone number hmem j schedule hj
      · cases heq
        have hnumber := htracked.returned _ hmem
        omega
  · rename_i number schedule hsender
    rcases hmoved : scheduleMotion s.slot schedule with ⟨slot, schedule' | answer⟩
    · have hown : ∀ {j number' : ℕ} {schedule'' : Schedule},
          (s.senders.set i (Sender.scheduling number schedule'))[j]? =
          some (Sender.scheduling number' schedule'') →
            ∃ old : Schedule, s.senders[j]? = some (Sender.scheduling number' old) := by
        intro j number' schedule'' hj
        rcases getElem?_set_cases hj with ⟨-, hj⟩ | ⟨rfl, heq⟩
        · exact ⟨_, hj⟩
        · cases heq
          exact ⟨_, hsender⟩
      refine ⟨fun j k number' old old' hj hk => ?_, fun number' hmem j old hj => ?_⟩
      · obtain ⟨_, hj⟩ := hown hj
        obtain ⟨_, hk⟩ := hown hk
        exact h.unique j k number' _ _ hj hk
      · obtain ⟨_, hj⟩ := hown hj
        exact h.gone number' hmem j _ hj
    · have hleft : Numbered { s with senders := s.senders.set i .idle } := h.leave nofun
      cases answer with
      | error error => exact ⟨hleft.unique, hleft.gone⟩
      | ok =>
        refine ⟨hleft.unique, fun number' hmem j old hj => ?_⟩
        rcases List.mem_cons.mp hmem with rfl | hold
        · rcases getElem?_set_cases hj with ⟨hne, hj⟩ | ⟨-, heq⟩
          · exact hne (h.unique j i _ _ _ hj hsender)
          · cases heq
        · exact hleft.gone number' hold j old hj
  · exact h

theorem Numbered.next (h : Numbered s) (htracked : Tracked s) (step : Step P) : Numbered (s.next step) := by
  cases step with
  | trySend i payload => exact h.trySend i payload
  | advance i => exact h.advance htracked i
  | receive =>
    show Numbered s.receive
    unfold State.receive
    split
    · exact ⟨h.unique, h.gone⟩
    · exact h
  | flush =>
    show Numbered s.flushMotion
    unfold State.flushMotion
    split
    all_goals try split
    all_goals exact ⟨h.unique, h.gone⟩
  | close => exact ⟨h.unique, h.gone⟩
  | clear =>
    show Numbered s.clear
    unfold State.clear
    split
    · exact ⟨h.unique, h.gone⟩
    · exact h
  | stop =>
    show Numbered s.stop
    unfold State.stop
    split
    · exact ⟨h.unique, h.gone⟩
    · exact h

/-! ### A frame is not left behind -/

theorem Watched.trySend (h : Watched s) (i : ℕ) (payload : Option P) : Watched (s.trySend i payload) := by
  unfold State.trySend
  split
  · rename_i hsender
    split
    · exact h
    · cases payload with
      | none => exact h
      | some payload =>
        refine ⟨fun hrunning hopen hstored => ?_, h.watched⟩
        rcases h.owned hrunning hopen hstored with haccepted | ⟨schedule, hmem⟩
        · exact .inl haccepted
        · exact .inr ⟨schedule, mem_set_of_ne hsender hmem nofun⟩
  · exact h

theorem Watched.advance (h : Watched s) (hbalanced : Balanced s) (htracked : Tracked s) (i : ℕ) :
    Watched (s.advance i) := by
  unfold State.advance
  split
  · rename_i payload hsender
    have hlength : (s.stored ++ [payload]).length = s.stored.length + 1 := by simp
    refine ⟨fun _ _ _ => .inr ⟨.entered, ?_⟩, fun _ _ _ haccepted => ?_⟩
    · rw [hlength]
      exact mem_set_self hsender _
    · -- the new frame is not accepted yet
      have hnumber := htracked.returned _ haccepted
      rw [hlength] at hnumber
      omega
  · rename_i number schedule hsender
    have hmem := List.mem_of_getElem? hsender
    obtain ⟨hlatest, hclosed, hrunning', -⟩ := scheduleMotion_frame s.slot schedule
    have hup := fun hrunning : s.slot.running = true => hbalanced.scheduled_of_sender hrunning hsender
    rcases hmoved : scheduleMotion s.slot schedule with ⟨slot, schedule' | answer⟩
    · have hnext := @scheduled_of_moved P s.slot schedule schedule'
      rw [hmoved] at hlatest hclosed hrunning' hnext
      dsimp only at hlatest hclosed hrunning' hnext
      refine ⟨fun hrunning hopen hstored => ?_, fun hrunning hopen hsome haccepted => ?_⟩
      · rcases h.owned (hrunning' ▸ hrunning) (hclosed ▸ hopen) hstored with haccepted | ⟨other, hother⟩
        · exact .inl haccepted
        · by_cases hsame : (.scheduling s.stored.length other : Sender P) = .scheduling number schedule
          · obtain ⟨rfl, -⟩ := Sender.scheduling.inj hsame
            exact .inr ⟨schedule', mem_set_self hsender _⟩
          · exact .inr ⟨other, mem_set_of_ne hsender hother hsame⟩
      · rcases hnext rfl (hrunning' ▸ hrunning) with ⟨-, hsame⟩ | hscheduled
        · show slot.scheduled = true ∨ _
          rw [hsame]
          exact h.watched (hrunning' ▸ hrunning) (hclosed ▸ hopen) (hlatest ▸ hsome) haccepted
        · exact .inl hscheduled
    · have hok := @scheduled_of_ok P s.slot schedule
      have herror := @closed_of_error P s.slot schedule
      rw [hmoved] at hlatest hclosed hrunning' hok herror
      dsimp only at hlatest hclosed hrunning' hok herror
      cases answer with
      | error error =>
        -- the slot is closed, or the transport has ended
        have hover : slot.running = true → slot.closed = false → False := by
          intro hrunning hopen
          rcases herror rfl with hshut | rfl
          · cases (hclosed.trans hshut).symm.trans hopen
          · cases (hrunning'.trans (htracked.failing number hmem)).symm.trans hrunning
        exact ⟨fun hrunning hopen _ => (hover hrunning hopen).elim,
          fun hrunning hopen _ _ => (hover hrunning hopen).elim⟩
      | ok =>
        refine ⟨fun hrunning hopen hstored => ?_, fun hrunning hopen hsome haccepted => ?_⟩
        · rcases h.owned (hrunning' ▸ hrunning) (hclosed ▸ hopen) hstored with haccepted | ⟨other, hother⟩
          · exact .inl (List.mem_cons_of_mem _ haccepted)
          · by_cases hsame : (.scheduling s.stored.length other : Sender P) = .scheduling number schedule
            · obtain ⟨rfl, -⟩ := Sender.scheduling.inj hsame
              exact .inl List.mem_cons_self
            · exact .inr ⟨other, mem_set_of_ne hsender hother hsame⟩
        · exact .inl (hok rfl (hup (hrunning' ▸ hrunning)))
  · exact h

/-- The flush goes on, and whoever was to see the frame still is. -/
theorem Watched.moves (h : Watched s) {slot : MotionSlot P} {flush : Flush P} {handed : List P}
    (hrunning : slot.running = s.slot.running) (hclosed : slot.closed = s.slot.closed)
    (hlatest : slot.latest = s.slot.latest ∨ slot.latest = none)
    (hwatched : s.slot.running = true → s.slot.closed = false → slot.latest ≠ none →
      (s.slot.scheduled = true ∨ s.flush.rechecks = true) → slot.scheduled = true ∨ flush.rechecks = true) :
    Watched { s with slot, flush, handed } := by
  refine ⟨fun hrun hopen => h.owned (hrunning ▸ hrun) (hclosed ▸ hopen), fun hrun hopen hsome haccepted => ?_⟩
  rcases hlatest with hsame | hnone
  · exact hwatched (hrunning ▸ hrun) (hclosed ▸ hopen) hsome
      (h.watched (hrunning ▸ hrun) (hclosed ▸ hopen) (hsame ▸ hsome) haccepted)
  · exact absurd hnone hsome

theorem Watched.flushMotion (h : Watched s) (hbalanced : Balanced s) (htracked : Tracked s) :
    Watched s.flushMotion := by
  -- before the flag is let go, it is up
  have hkeeps : ∀ {flush' : Flush P}, s.flush.rechecks = false →
      (s.slot.scheduled = true ∨ s.flush.rechecks = true) → s.slot.scheduled = true ∨ flush'.rechecks = true := by
    intro flush' hbefore hseen
    rcases hseen with hup | hrechecks
    · exact .inl hup
    · cases hbefore.symm.trans hrechecks
  unfold State.flushMotion
  split
  · exact h
  · rename_i hflush
    exact h.moves rfl rfl (.inl rfl) fun _ _ _ => hkeeps (by rw [hflush]; rfl)
  · rename_i hflush
    -- the slot is closed
    refine h.moves rfl rfl (.inl rfl) fun _ hopen _ _ => ?_
    cases (htracked.closing hflush).symm.trans hopen
  · exact h.moves rfl rfl (.inr rfl) fun _ _ hsome => absurd rfl hsome
  · rename_i payload hflush
    split
    · exact h.moves rfl rfl (.inl rfl) fun _ _ _ => hkeeps (by rw [hflush]; rfl)
    · exact h.moves rfl rfl (.inl rfl) fun _ _ _ => hkeeps (by rw [hflush]; rfl)
  · rename_i payload hflush
    exact h.moves rfl rfl (.inl rfl) fun _ _ _ => hkeeps (by rw [hflush]; rfl)
  · exact h.moves rfl rfl (.inl rfl) fun _ _ _ _ => .inr rfl
  · -- the second look finds the frame
    refine h.moves rfl rfl (.inl rfl) fun _ _ hsome _ => .inr ?_
    rw [if_pos (Option.isSome_iff_ne_none.mpr hsome)]
    rfl
  · refine h.moves rfl rfl (.inl rfl) fun _ hopen _ _ => .inr ?_
    rw [if_neg (by rw [hopen]; exact Bool.false_ne_true)]
    rfl
  · rename_i schedule hflush
    obtain ⟨hlatest, hclosed, hrunning, -⟩ := scheduleMotion_frame s.slot schedule
    rcases hmoved : scheduleMotion s.slot schedule with ⟨slot, schedule' | answer⟩
    · have hnext := @scheduled_of_moved P s.slot schedule schedule'
      rw [hmoved] at hlatest hclosed hrunning hnext
      refine h.moves hrunning hclosed (.inl hlatest) fun hrun _ _ _ => ?_
      rcases hnext rfl hrun with ⟨rfl, -⟩ | hscheduled
      · exact .inr rfl
      · exact .inl hscheduled
    · have hok := @scheduled_of_ok P s.slot schedule
      have herror := @closed_of_error P s.slot schedule
      rw [hmoved] at hlatest hclosed hrunning hok herror
      refine h.moves hrunning hclosed (.inl hlatest) fun hrun hopen _ _ => ?_
      cases answer with
      | error error =>
        rcases herror rfl with hshut | rfl
        · cases hshut.symm.trans hopen
        · cases (htracked.refused hflush).symm.trans hrun
      | ok => exact .inl (hok rfl fun hholds => hbalanced.scheduled_of_flush hrun (by rw [hflush]; exact hholds))

theorem Watched.next (h : Watched s) (hbalanced : Balanced s) (htracked : Tracked s) (step : Step P) :
    Watched (s.next step) := by
  cases step with
  | trySend i payload => exact h.trySend i payload
  | advance i => exact h.advance hbalanced htracked i
  | receive =>
    show Watched s.receive
    unfold State.receive
    split
    · rename_i queued hflush hqueued hrunning
      refine h.moves rfl rfl (.inl rfl) fun _ _ _ hseen => ?_
      rcases hseen with hup | hrechecks
      · exact .inl hup
      · rw [hflush] at hrechecks
        cases hrechecks
    · exact h
  | flush => exact h.flushMotion hbalanced htracked
  | close => exact ⟨fun _ hopen => (by cases hopen), fun _ hopen => (by cases hopen)⟩
  | clear =>
    show Watched s.clear
    unfold State.clear
    split
    · exact h.moves rfl rfl (.inr rfl) fun _ _ hsome => absurd rfl hsome
    · exact h
  | stop =>
    show Watched s.stop
    unfold State.stop
    split
    · exact ⟨fun hrunning => (by cases hrunning), fun hrunning => (by cases hrunning)⟩
    · exact h

/-! ### After the drop -/

/-- The slot is closed, and no flush is under way which started before. -/
structure Late (s : State P) : Prop where
  closed : s.slot.closed = true
  flush : s.flush = .idle ∨ s.flush = .started ∨ s.flush = .closing

/-- **A flush which starts after the drop** hands nothing over. -/
theorem Late.next (h : Late s) (step : Step P) : Late (s.next step) ∧ (s.next step).handed = s.handed := by
  cases step with
  | trySend i payload =>
    show Late (s.trySend i payload) ∧ (s.trySend i payload).handed = s.handed
    unfold State.trySend
    split
    · rw [if_pos h.closed]
      exact ⟨h, rfl⟩
    · exact ⟨h, rfl⟩
  | advance i =>
    show Late (s.advance i) ∧ (s.advance i).handed = s.handed
    unfold State.advance
    split
    · exact ⟨⟨h.closed, h.flush⟩, rfl⟩
    · rename_i number schedule hsender
      obtain ⟨-, hclosed, -, -⟩ := scheduleMotion_frame s.slot schedule
      have hclosed := hclosed.trans h.closed
      rcases hmoved : scheduleMotion s.slot schedule with ⟨slot, schedule' | answer⟩
      · rw [hmoved] at hclosed
        exact ⟨⟨hclosed, h.flush⟩, rfl⟩
      · rw [hmoved] at hclosed
        cases answer with
        | error error => exact ⟨⟨hclosed, h.flush⟩, rfl⟩
        | ok => exact ⟨⟨hclosed, h.flush⟩, rfl⟩
    · exact ⟨h, rfl⟩
  | receive =>
    show Late s.receive ∧ s.receive.handed = s.handed
    unfold State.receive
    split
    · exact ⟨⟨h.closed, .inr (.inl rfl)⟩, rfl⟩
    · exact ⟨h, rfl⟩
  | flush =>
    show Late s.flushMotion ∧ s.flushMotion.handed = s.handed
    unfold State.flushMotion
    rcases h.flush with hflush | hflush | hflush
    · rw [hflush]
      exact ⟨h, rfl⟩
    · rw [hflush]
      exact ⟨⟨h.closed, .inr (.inr (if_pos h.closed))⟩, rfl⟩
    · rw [hflush]
      exact ⟨⟨h.closed, .inl rfl⟩, rfl⟩
  | close => exact ⟨⟨rfl, h.flush⟩, rfl⟩
  | clear =>
    show Late s.clear ∧ s.clear.handed = s.handed
    unfold State.clear
    rw [if_pos h.closed]
    exact ⟨⟨h.closed, h.flush⟩, rfl⟩
  | stop =>
    show Late s.stop ∧ s.stop.handed = s.handed
    unfold State.stop
    split
    · exact ⟨⟨h.closed, h.flush⟩, rfl⟩
    · exact ⟨h, rfl⟩

/-! ### The slot -/

/-- What holds in every state. -/
structure Sound (s : State P) : Prop where
  balanced : Balanced s
  ordered : Ordered s
  tracked : Tracked s
  numbered : Numbered s
  watched : Watched s

theorem Sound.next (h : Sound s) (step : Step P) : Sound (s.next step) :=
  ⟨h.balanced.next step, h.ordered.next step, h.tracked.next step, h.numbered.next h.tracked step,
    h.watched.next h.balanced h.tracked step⟩

theorem start_sound (senders : ℕ) : Sound (start senders : State P) := by
  have hidle : ∀ {number schedule}, (.scheduling number schedule : Sender P) ∉
    (start senders : State P).senders := by
    intro number schedule hmem
    cases List.eq_of_mem_replicate hmem
  refine ⟨start_balanced senders, ⟨List.Sublist.refl _, nofun, fun _ => rfl⟩, ?_, ?_, ?_⟩
  · exact ⟨fun _ _ hmem => absurd hmem hidle, nofun, fun _ hmem => absurd hmem hidle, nofun, nofun⟩
  · exact ⟨fun _ _ _ _ _ hi => absurd (List.mem_of_getElem? hi) hidle, nofun⟩
  · exact ⟨fun _ _ hstored => absurd rfl hstored, fun _ _ hsome => absurd rfl hsome⟩

/-- While the flag is up, somebody holds it. -/
theorem Sound.holder (h : Sound s) (hrunning : s.slot.running = true) (hup : s.slot.scheduled = true) :
    s.slot.queued = 1 ∨ s.flush ≠ .idle ∨ ∃ number, .scheduling number .claimed ∈ s.senders := by
  have hflag := h.balanced.flag hrunning
  rw [hup, Bool.toNat_true] at hflag
  by_cases hqueued : s.slot.queued = 1
  · exact .inl hqueued
  by_cases hflush : s.flush = .idle
  · have hidle : s.flush.holds.toNat = 0 := by rw [hflush]; rfl
    have hpos : 0 < s.senders.countP Sender.holds := by omega
    obtain ⟨sender, hmem, hholds⟩ := List.countP_pos_iff.mp hpos
    cases sender with
    | idle => cases hholds
    | opened payload => cases hholds
    | scheduling number schedule =>
      cases schedule with
      | entered => cases hholds
      | opened => cases hholds
      | claimed => exact .inr (.inr ⟨number, hmem⟩)
      | failed => cases (h.tracked.failing number hmem).symm.trans hrunning
  · exact .inr (.inl hflush)

/-- When everybody is done, nothing is left in the slot. -/
theorem Sound.settled (h : Sound s) (hrunning : s.slot.running = true) (hopen : s.slot.closed = false)
    (hqueued : s.slot.queued = 0) (hflush : s.flush = .idle) (hidle : ∀ sender ∈ s.senders, sender = .idle) :
    s.slot.latest = none := by
  by_contra hsome
  obtain ⟨payload, hlatest⟩ := Option.ne_none_iff_exists'.mp hsome
  have hstored : s.stored ≠ [] := by
    intro hnil
    have hnewest := h.ordered.newest payload hlatest
    simp [hnil] at hnewest
  have haccepted : s.stored.length ∈ s.accepted := by
    rcases h.watched.owned hrunning hopen hstored with haccepted | ⟨schedule, hmem⟩
    · exact haccepted
    · cases hidle _ hmem
  rcases h.watched.watched hrunning hopen hsome haccepted with hup | hrechecks
  · rcases h.holder hrunning hup with hone | hflushing | ⟨number, hmem⟩
    · omega
    · exact hflushing hflush
    · cases hidle _ hmem
  · rw [hflush] at hrechecks
    cases hrechecks

/-- **The motion slot.**  After any steps of any number of senders, of the transport and of the drop: at most one
flush is asked for.  While the transport runs and before the drop, a newest frame whose `try_send` returned `Ok`,
and which is still in the slot, has a flush asked for or under way, or the `try_send` of an older frame has put the
flag up and is about to ask for one.  What is in the slot is what was stored last; what was handed over was stored,
in this order; and when everybody is done, what was handed over last is what was stored last.  A flush which starts
after the drop hands nothing over. -/
theorem motion_slot (senders : ℕ) (steps : List (Step P)) :
    let s := run State.next (start senders) steps
    s.slot.queued ≤ 1 ∧
      (s.slot.running = true → s.slot.closed = false → s.slot.latest ≠ none → s.stored.length ∈ s.accepted →
        s.slot.queued = 1 ∨ s.flush ≠ .idle ∨ ∃ number < s.stored.length,
        .scheduling number .claimed ∈ s.senders) ∧
      (∀ payload, s.slot.latest = some payload → s.stored.getLast? = some payload) ∧
      s.handed.Sublist s.stored ∧
      (s.slot.running = true → s.slot.closed = false → s.slot.queued = 0 → s.flush = .idle →
        (∀ sender ∈ s.senders, sender = .idle) → s.slot.latest = none ∧ s.handed.getLast? = s.stored.getLast?) ∧
      (s.slot.closed = true → s.flush = .idle → ∀ more, (run State.next s more).handed = s.handed) := by
  intro s
  have h : Sound s := run_invariant (fun _ step hsound => hsound.next step) (start_sound senders) steps
  refine ⟨?_, fun hrunning hopen hsome haccepted => ?_, h.ordered.newest, ?_, ?_, fun hclosed hflush more => ?_⟩
  · by_cases hrunning : s.slot.running = true
    · have hflag := h.balanced.flag hrunning
      have hbit := Bool.toNat_le s.slot.scheduled
      omega
    · rw [h.balanced.drained (by simpa using hrunning)]
      omega
  · rcases h.watched.watched hrunning hopen hsome haccepted with hup | hrechecks
    · rcases h.holder hrunning hup with hqueued | hflush | ⟨number, hmem⟩
      · exact .inl hqueued
      · exact .inr (.inl hflush)
      · refine .inr (.inr ⟨number, Nat.lt_of_le_of_ne (h.tracked.numbers _ _ hmem) ?_, hmem⟩)
        rintro rfl
        obtain ⟨i, hi⟩ := List.mem_iff_getElem?.mp hmem
        exact h.numbered.gone _ haccepted i _ hi
    · refine .inr (.inl fun hflush => ?_)
      rw [hflush] at hrechecks
      cases hrechecks
  · refine List.Sublist.trans ?_ h.ordered.sublist
    unfold State.passed
    rw [List.append_assoc]
    exact List.sublist_append_left _ _
  · intro hrunning hopen hqueued hflush hidle
    have hnone := h.settled hrunning hopen hqueued hflush hidle
    refine ⟨hnone, ?_⟩
    have hlast := h.ordered.last hopen
    unfold State.passed at hlast
    rw [hflush, hnone] at hlast
    simpa [Flush.inHand] using hlast
  · have hlate : Late s ∧ s.handed = s.handed := ⟨⟨hclosed, .inl hflush⟩, rfl⟩
    exact (run_invariant (I := fun t : State P => Late t ∧ t.handed = s.handed)
      (fun t step ht => ⟨(ht.1.next step).1, (ht.1.next step).2.trans ht.2⟩) hlate more).2

section Examples

/-- A sender sends two frames before the first flush. -/
def sampleSteps : List (Step ℕ) :=
  [.trySend 0 (some 7), .advance 0, .advance 0, .advance 0, .advance 0, .trySend 0 (some 8),
    .advance 0, .advance 0, .advance 0, .receive, .flush, .flush, .flush, .flush, .flush, .flush]

theorem motion_slot_settled : (run State.next (start 1) sampleSteps).handed.getLast? = some 8 :=
  ((motion_slot 1 sampleSteps).2.2.2.2.1 (by decide) (by decide) (by decide) (by decide) (by decide)).2

/-- A sender puts the flag up and is not yet at the channel; another one stores its frame and returns. -/
theorem not_flush_asked_for :
    let s :=
      run State.next (start 2) [.trySend 0 (some 7), .advance 0, .advance 0, .advance 0, .trySend 1 (some 8),
      .advance 1, .advance 1, .advance 1]
    s.slot.running = true ∧ s.slot.closed = false ∧ s.slot.latest = some 8 ∧ s.stored = [7, 8] ∧ s.accepted = [2] ∧
      s.slot.queued = 0 ∧ s.flush = .idle := by
  decide

end Examples

end MyKvm.Transport.Motion
