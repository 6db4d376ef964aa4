import MyKvm.Lib.Budget
import MyKvm.Lib.Machine

/-!
# MyKvm.Transport.Budgets — the bytes which the transport holds

Two counters: the memory of bulk payloads, and the bytes in the queue of an input stream.  A reservation lives with
the value which owns it, and its destructor gives it back, on every path: in the scope which reserved, in a command
of the channel, in a task, in the queue, with the writer.  Each step below is one access to shared memory or one
move of a value, so a list of steps is an interleaving of any number of senders.

* `budgets_balanced`: over every interleaving.
-/

namespace MyKvm.Transport

open MyKvm.Lib

/-- The claim on a counter, at one moment. -/
structure Accounted (limit used : UInt64) (live : List UInt64) : Prop where
  sum : used.toNat = (live.map UInt64.toNat).sum
  bounded : used ≤ limit
  /-- Whichever reservation is released next, the subtraction does not wrap around. -/
  covers : ∀ bytes ∈ live, bytes ≤ used
  idle : live = [] → used = 0

theorem accounted {limit used : UInt64} {live : List UInt64} (h : Budget.Balanced limit used live) :
    Accounted limit used live where
  sum := h.sum
  bounded := h.bounded
  covers := fun _ hmem => h.le_used hmem
  idle := by
    rintro rfl
    exact h.used_eq_zero

/-! ### Bulk memory -/

def maxStreamBytes : UInt64 := 48 * 1024 * 1024

def inboundBulkReservationBytes : UInt64 := 124 * 1024 * 1024

/-- Who calls `BulkMemoryBudget::reserve`: `with_bulk_memory_budget`, `send_stream_expect_ack` for a
payload, or an inbound stream. -/
inductive BulkUse where
  | work
  | sendStream
  | inbound
  deriving DecidableEq

structure BulkMemory where
  budget : Budget BulkUse
  /-- The reservations in the `SendStream` commands of the channel, oldest first. -/
  commands : List UInt64
  /-- The reservations in the tasks which send a stream. -/
  tasks : List UInt64
  /-- The channel has its receiver. -/
  running : Bool
  deriving DecidableEq

namespace BulkMemory

def new : BulkMemory := { budget := ⟨0, []⟩, commands := [], tasks := [], running := true }

/-- The reservations which are alive. -/
def live (m : BulkMemory) : List UInt64 := m.budget.held ++ (m.commands ++ m.tasks)

inductive Step where
  | withBulkMemoryBudget (bytes : UInt64)
  | sendStreamExpectAck (payload : UInt64)
  | acceptStream
  /-- The next turn in `reserve` of the holder `i`; its `compare_exchange_weak` may fail for no reason. -/
  | reserve (i : ℕ) (spurious : Bool)
  /-- The scope of `with_bulk_memory_budget`, or of an inbound stream, is left. -/
  | leave (i : ℕ)
  /-- `commands.send`, which drops the command when the transport is stopped. -/
  | send (i : ℕ)
  /-- The command loop takes the next command; without a permit it is dropped. -/
  | receive (permit : Bool)
  /-- The task `i` is over, whatever came of it. -/
  | finish (i : ℕ)
  | stop
  /-- The channel drops a command which nobody will receive. -/
  | discard

/-- The scope of the holder `i` is left, unless its reservation went on to the channel. -/
def leave (m : BulkMemory) (i : ℕ) : BulkMemory :=
  match m.budget.inHand i with
  | some (.work, bytes) | some (.inbound, bytes) => { m with budget := (m.budget.leave i).release bytes }
  | _ => m

def send (m : BulkMemory) (i : ℕ) : BulkMemory :=
  match m.budget.inHand i with
  | some (.sendStream, bytes) =>
    if m.running then { m with budget := m.budget.leave i, commands := m.commands ++ [bytes] }
    else { m with budget := (m.budget.leave i).release bytes }
  | _ => m

def receive (m : BulkMemory) (permit : Bool) : BulkMemory :=
  match m.running, m.commands with
  | true, bytes :: commands =>
    if permit then { m with commands, tasks := m.tasks ++ [bytes] }
    else { m with commands, budget := m.budget.release bytes }
  | _, _ => m

def finish (m : BulkMemory) (i : ℕ) : BulkMemory :=
  match m.tasks[i]? with
  | some bytes => { m with tasks := m.tasks.eraseIdx i, budget := m.budget.release bytes }
  | none => m

def discard (m : BulkMemory) : BulkMemory :=
  match m.running, m.commands with
  | false, bytes :: commands => { m with commands, budget := m.budget.release bytes }
  | _, _ => m

def next (limit : UInt64) (m : BulkMemory) : Step → BulkMemory
  | .withBulkMemoryBudget bytes => { m with budget := m.budget.load .work bytes }
  | .sendStreamExpectAck payload =>
    if maxStreamBytes < payload then m else { m with budget := m.budget.load .sendStream payload }
  | .acceptStream => { m with budget := m.budget.load .inbound inboundBulkReservationBytes }
  | .reserve i spurious => { m with budget := m.budget.attempt limit i spurious }
  | .leave i => m.leave i
  | .send i => m.send i
  | .receive permit => m.receive permit
  | .finish i => m.finish i
  | .stop => { m with running := false }
  | .discard => m.discard

/-- The counter is the sum of the reservations, wherever they are. -/
def Balanced (limit : UInt64) (m : BulkMemory) : Prop := Budget.Balanced limit m.budget.used m.live

variable {limit : UInt64} {m : BulkMemory}

/-- What the holder `i` has in hand, before the rest. -/
theorem live_leave {i : ℕ} {purpose : BulkUse} {bytes : UInt64} (h : m.budget.inHand i = some (purpose, bytes)) :
    (bytes :: ((m.budget.leave i).held ++ (m.commands ++ m.tasks))).Perm m.live :=
  ((Budget.held_leave h).append_right _).symm

theorem live_commands {bytes : UInt64} {commands : List UInt64} (h : m.commands = bytes :: commands) :
    (bytes :: (m.budget.held ++ (commands ++ m.tasks))).Perm m.live := by
  unfold live
  rw [h]
  exact List.perm_middle.symm

theorem Balanced.leave (h : Balanced limit m) (i : ℕ) : Balanced limit (m.leave i) := by
  unfold BulkMemory.leave
  split
  · rename_i bytes hhand
    exact (Budget.Balanced.perm h (live_leave hhand)).release
  · rename_i bytes hhand
    exact (Budget.Balanced.perm h (live_leave hhand)).release
  · exact h

theorem Balanced.send (h : Balanced limit m) (i : ℕ) : Balanced limit (m.send i) := by
  unfold BulkMemory.send
  split
  · rename_i bytes hhand
    split
    · exact Budget.Balanced.perm h ((Budget.perm_pushed _ m.commands m.tasks bytes).trans (live_leave hhand))
    · exact (Budget.Balanced.perm h (live_leave hhand)).release
  · exact h

theorem Balanced.receive (h : Balanced limit m) (permit : Bool) : Balanced limit (m.receive permit) := by
  unfold BulkMemory.receive
  split
  · rename_i bytes commands hrunning hcommands
    split
    · have hmoved : (m.budget.held ++ (commands ++ (m.tasks ++ [bytes]))).Perm
          (bytes :: (m.budget.held ++ (commands ++ m.tasks))) := by
        rw [← List.append_assoc, ← List.append_assoc, ← List.append_assoc]
        exact List.perm_append_singleton bytes _
      exact Budget.Balanced.perm h (hmoved.trans (live_commands hcommands))
    · exact (Budget.Balanced.perm h (live_commands hcommands)).release
  · exact h

theorem Balanced.finish (h : Balanced limit m) (i : ℕ) : Balanced limit (m.finish i) := by
  unfold BulkMemory.finish
  split
  · rename_i bytes htask
    obtain ⟨hlt, rfl⟩ := List.getElem?_eq_some_iff.mp htask
    have hperm : (m.tasks[i] :: (m.budget.held ++ (m.commands ++ m.tasks.eraseIdx i))).Perm m.live := by
      unfold live
      rw [← List.append_assoc, ← List.append_assoc]
      exact List.perm_middle.symm.trans ((List.getElem_cons_eraseIdx_perm hlt).append_left _)
    exact (Budget.Balanced.perm h hperm).release
  · exact h

theorem Balanced.discard (h : Balanced limit m) : Balanced limit m.discard := by
  unfold BulkMemory.discard
  split
  · rename_i bytes commands hrunning hcommands
    exact (Budget.Balanced.perm h (live_commands hcommands)).release
  · exact h

/-- **Every step** keeps the balance. -/
theorem Balanced.next (h : Balanced limit m) (s : Step) : Balanced limit (m.next limit s) := by
  cases s with
  | withBulkMemoryBudget bytes => exact Budget.Balanced.load h .work bytes
  | sendStreamExpectAck payload =>
    show Balanced limit (if maxStreamBytes < payload then m else _)
    split
    · exact h
    · exact Budget.Balanced.load h .sendStream payload
  | acceptStream => exact Budget.Balanced.load h .inbound inboundBulkReservationBytes
  | reserve i spurious => exact Budget.Balanced.attempt h i spurious
  | leave i => exact h.leave i
  | send i => exact h.send i
  | receive permit => exact h.receive permit
  | finish i => exact h.finish i
  | stop => exact h
  | discard => exact h.discard

theorem new_balanced (limit : UInt64) : Balanced limit new := Budget.balanced_nil limit

end BulkMemory

/-! ### The queue of an input stream -/

def inputQueueFrames : ℕ := 256

def inputQueueBytes : UInt64 := 256 * 1024

/-- The queue of one `InputHandle` and its copies; a `QueuedInput` is given by the number of its bytes. -/
structure InputQueue where
  budget : Budget Unit
  /-- The frames in the channel, oldest first. -/
  outgoing : List UInt64
  /-- The frame which is being written to the stream. -/
  queued : Option UInt64
  /-- The channel has lost its receiver. -/
  closed : Bool
  deriving DecidableEq

namespace InputQueue

def new : InputQueue := { budget := ⟨0, []⟩, outgoing := [], queued := none, closed := false }

def live (q : InputQueue) : List UInt64 := q.budget.held ++ (q.outgoing ++ q.queued.toList)

inductive Step where
  /-- `try_send` of a frame, which is encoded to so many bytes, or cannot be encoded. -/
  | trySend (bytes : Option UInt64)
  /-- The next turn in `reserve_input_bytes` of the sender `i`. -/
  | reserve (i : ℕ) (spurious : Bool)
  /-- `outgoing.try_send`: a full or a closed channel drops the frame. -/
  | post (i : ℕ)
  | recv
  /-- The frame was written, or its write failed and ends the task. -/
  | written (ok : Bool)
  /-- The task is gone, or never came to be. -/
  | close
  /-- The channel drops a frame which nobody will receive. -/
  | discard

def post (q : InputQueue) (i : ℕ) : InputQueue :=
  match q.budget.inHand i with
  | some ((), bytes) =>
    if q.closed ∨ inputQueueFrames ≤ q.outgoing.length then { q with budget := (q.budget.leave i).release bytes }
    else { q with budget := q.budget.leave i, outgoing := q.outgoing ++ [bytes] }
  | none => q

def recv (q : InputQueue) : InputQueue :=
  match q.closed, q.queued, q.outgoing with
  | false, none, bytes :: outgoing => { q with outgoing, queued := some bytes }
  | _, _, _ => q

def written (q : InputQueue) (ok : Bool) : InputQueue :=
  match q.queued with
  | some bytes => { q with queued := none, budget := q.budget.release bytes, closed := q.closed || !ok }
  | none => q

def discard (q : InputQueue) : InputQueue :=
  match q.closed, q.outgoing with
  | true, bytes :: outgoing => { q with outgoing, budget := q.budget.release bytes }
  | _, _ => q

def next (q : InputQueue) : Step → InputQueue
  | .trySend none => q
  | .trySend (some bytes) => { q with budget := q.budget.load () bytes }
  | .reserve i spurious => { q with budget := q.budget.attempt inputQueueBytes i spurious }
  | .post i => q.post i
  | .recv => q.recv
  | .written ok => q.written ok
  | .close => { q with closed := true }
  | .discard => q.discard

def Balanced (q : InputQueue) : Prop := Budget.Balanced inputQueueBytes q.budget.used q.live

variable {q : InputQueue}

theorem live_leave {i : ℕ} {bytes : UInt64} (h : q.budget.inHand i = some ((), bytes)) :
    (bytes :: ((q.budget.leave i).held ++ (q.outgoing ++ q.queued.toList))).Perm q.live :=
  ((Budget.held_leave h).append_right _).symm

theorem Balanced.post (h : Balanced q) (i : ℕ) : Balanced (q.post i) := by
  unfold InputQueue.post
  split
  · rename_i bytes hhand
    split
    · exact (Budget.Balanced.perm h (live_leave hhand)).release
    · exact Budget.Balanced.perm h
        ((Budget.perm_pushed _ q.outgoing q.queued.toList bytes).trans (live_leave hhand))
  · exact h

theorem Balanced.recv (h : Balanced q) : Balanced q.recv := by
  unfold InputQueue.recv
  split
  · rename_i bytes outgoing hclosed hqueued houtgoing
    have hmoved : (q.budget.held ++ (outgoing ++ [bytes])).Perm q.live := by
      unfold live
      rw [houtgoing, hqueued, Option.toList_none, List.append_nil]
      exact (List.perm_append_singleton bytes outgoing).append_left _
    exact Budget.Balanced.perm h hmoved
  · exact h

theorem Balanced.written (h : Balanced q) (ok : Bool) : Balanced (q.written ok) := by
  unfold InputQueue.written
  split
  · rename_i bytes hqueued
    have hperm : (bytes :: (q.budget.held ++ (q.outgoing ++ []))).Perm q.live := by
      unfold live
      rw [hqueued, Option.toList_some, List.append_nil, ← List.append_assoc]
      exact (List.perm_append_singleton bytes _).symm
    exact (Budget.Balanced.perm h hperm).release
  · exact h

theorem Balanced.discard (h : Balanced q) : Balanced q.discard := by
  unfold InputQueue.discard
  split
  · rename_i bytes outgoing hclosed houtgoing
    have hperm : (bytes :: (q.budget.held ++ (outgoing ++ q.queued.toList))).Perm q.live := by
      unfold live
      rw [houtgoing]
      exact List.perm_middle.symm
    exact (Budget.Balanced.perm h hperm).release
  · exact h

theorem Balanced.next (h : Balanced q) (s : Step) : Balanced (q.next s) := by
  cases s with
  | trySend bytes =>
    cases bytes with
    | none => exact h
    | some bytes => exact Budget.Balanced.load h () bytes
  | reserve i spurious => exact Budget.Balanced.attempt h i spurious
  | post i => exact h.post i
  | recv => exact h.recv
  | written ok => exact h.written ok
  | close => exact h
  | discard => exact h.discard

theorem new_balanced : Balanced new := Budget.balanced_nil inputQueueBytes

end InputQueue

/-- **Both budgets balance**, over every interleaving. -/
theorem budgets_balanced (limit : UInt64) (bulk : List BulkMemory.Step) (input : List InputQueue.Step) :
    let m := run (BulkMemory.next limit) .new bulk
    let q := run InputQueue.next .new input
    Accounted limit m.budget.used m.live ∧ Accounted inputQueueBytes q.budget.used q.live := by
  have hbulk : BulkMemory.Balanced limit (run (BulkMemory.next limit) .new bulk) :=
    run_invariant (I := BulkMemory.Balanced limit) (fun _ s h => h.next s) (BulkMemory.new_balanced limit) bulk
  have hinput : InputQueue.Balanced (run InputQueue.next .new input) :=
    run_invariant (I := InputQueue.Balanced) (fun _ s h => h.next s) InputQueue.new_balanced input
  exact ⟨accounted hbulk, accounted hinput⟩

end MyKvm.Transport
