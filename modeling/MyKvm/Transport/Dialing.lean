import Mathlib.Data.List.MinMax
import Mathlib.Logic.Function.Basic
import MyKvm.Lib.Crew
import MyKvm.Lib.Machine

/-!
# MyKvm.Transport.Dialing — the connections of the transport

The command loop sends a datagram on a connection which it has, or leaves a marker and starts a task which dials
the peer.  Streams, control streams and input streams run in tasks of their own, which dial for themselves.  The
loop and the tasks take their steps in any order, one access to the map of the connections or to the health of the
peers at a time; a connection may be lost at any moment, and time passes.

* `Marked`: a marker belongs to a dial which is under way.
* `Permitted`: who holds the permits.
* `transport_dials`: the result.
-/

namespace MyKvm.Transport.Dialing

open MyKvm.Lib

def maxConcurrentStreams : ℕ := 8

def maxControlConnections : ℕ := 8

def maxInputConnections : ℕ := 8

def datagramFailThreshold : ℕ := 3

/-- In milliseconds. -/
def datagramRetryWindow : ℕ := 3000

def maxHealthPeers : ℕ := 64

structure PeerHealth where
  consecutiveFailures : ℕ
  lastFailure : ℕ
  deriving DecidableEq

/-- A connection, by its number, or the marker of a dial. -/
inductive ConnectionSlot where
  | connecting
  | ready (connection : ℕ)
  deriving DecidableEq

/-- A peer, and what its address resolves to when it is looked at. -/
structure PeerEndpoint (K A : Type) where
  addr : A
  key : Option K

/-- `send_stream_task`, `run_outbound_control`, `run_outbound_input` -/
inductive Kind where
  | stream
  | control
  | input
  deriving DecidableEq

/-- How many tasks of a kind may run. -/
def Kind.limit : Kind → ℕ
  | .stream => maxConcurrentStreams
  | .control => maxControlConnections
  | .input => maxInputConnections

/-- How far a dial for datagrams is. -/
inductive DialStage where
  | connecting
  | connected (connection : ℕ)
  /-- Its marker is taken away next. -/
  | failed
  | failing
  | succeeding
  | finished
  deriving DecidableEq

/-- How far a stream is. -/
inductive StreamStage where
  | looking
  | connecting
  | connected (connection : ℕ)
  | failing
  | succeeding (connection : ℕ)
  /-- The stream is opened next, and its preface is written. -/
  | opening (connection : ℕ)
  | carrying (connection : ℕ)
  /-- The connection is taken out of the map next, and is closed if it was not well behaved. -/
  | dropping (connection : ℕ) (closes : Bool)
  | finished
  deriving DecidableEq

inductive Task (K A : Type) where
  | dial (addr : A) (key : K) (stage : DialStage)
  | stream (kind : Kind) (peer : PeerEndpoint K A) (stage : StreamStage)

/-- How far the command loop is with a datagram. -/
inductive Loop (K A : Type) where
  | idle
  | looked (addr : A) (key : K) (ready : Option ℕ)
  | dropping (addr : A) (key : K)
  | failing (addr : A)
  | succeeding (addr : A)
  | dialing (addr : A) (key : K)
  | spawning (addr : A) (key : K)

/-- A dial which the loop has decided on, when, and whether every earlier one to the peer was recorded by then. -/
structure Dial (K : Type) where
  key : K
  time : ℕ
  unraced : Bool

section Model

variable {K A : Type} [DecidableEq K] [DecidableEq A]

structure State (K A : Type) where
  now : ℕ
  connections : K → Option ConnectionSlot
  health : List (A × PeerHealth)
  loop : Loop K A
  tasks : List (Task K A)
  permits : Kind → ℕ
  /-- How many connections were established, and which of them were lost. -/
  issued : ℕ
  closed : List ℕ
  /-- The peers whose entry was changed by a stream, and the dials, newest first. -/
  touched : List K
  dials : List (Dial K)

inductive Step (K A : Type) where
  | tick (ms : ℕ)
  | close (connection : ℕ)
  /-- The loop receives a datagram, or another command. -/
  | datagram (peer : PeerEndpoint K A)
  | openStream (kind : Kind) (peer : PeerEndpoint K A)
  /-- The next step of the loop, or of a task, and what it meets. -/
  | loop (ok : Bool)
  | task (i : ℕ) (ok : Bool)

def start : State K A :=
  { now := 0, connections := fun _ => none, health := [], loop := .idle, tasks := [],
    permits := Kind.limit, issued := 0, closed := [], touched := [], dials := [] }

/-- A dial which has not changed the map yet. -/
def DialStage.underWay : DialStage → Bool
  | .connecting | .connected _ | .failed => true
  | .failing | .succeeding | .finished => false

def Task.dials (key : K) : Task K A → Bool
  | .dial _ key' stage => key' = key && stage.underWay
  | .stream _ _ _ => false

/-- A dial which has not recorded yet what came of it. -/
def Task.unrecorded (key : K) : Task K A → Bool
  | .dial _ key' stage => key' = key && stage != .finished
  | .stream _ _ _ => false

namespace State

def put (s : State K A) (key : K) (slot : Option ConnectionSlot) : State K A :=
  { s with connections := Function.update s.connections key slot }

def peerFastFailActive (s : State K A) (addr : A) : Bool :=
  (s.health.lookup addr).any fun entry =>
    datagramFailThreshold ≤ entry.consecutiveFailures && s.now - entry.lastFailure < datagramRetryWindow

/-- The entries without the one whose failure is the oldest. -/
def evictStale (health : List (A × PeerHealth)) : List (A × PeerHealth) :=
  match health.argmin fun entry => entry.2.lastFailure with
  | none => health
  | some stale => health.filter (·.1 ≠ stale.1)

def recordPeerFailure (s : State K A) (addr : A) : State K A :=
  let health := if maxHealthPeers ≤ s.health.length ∧ s.health.lookup addr = none then
    evictStale s.health else s.health
  let failures := ((health.lookup addr).map PeerHealth.consecutiveFailures).getD 0
  { s with health := (addr, ⟨min (failures + 1) 4294967295, s.now⟩) :: health.filter (·.1 ≠ addr) }

def recordPeerSuccess (s : State K A) (addr : A) : State K A :=
  { s with health := s.health.filter (·.1 ≠ addr) }

/-- `send_datagram_nonblocking`, up to the end of its first access to the map. -/
def datagram (s : State K A) (peer : PeerEndpoint K A) : State K A :=
  match s.loop with
  | .idle =>
    match peer.key with
    | none => s.recordPeerFailure peer.addr
    | some key =>
      match s.connections key with
      | some .connecting => s
      | some (.ready connection) =>
        if connection ∈ s.closed then { s.put key none with loop := .looked peer.addr key none }
        else { s with loop := .looked peer.addr key (some connection) }
      | none => { s with loop := .looked peer.addr key none }
  | _ => s

/-- The rest of `send_datagram_nonblocking`. -/
def advance (s : State K A) (ok : Bool) : State K A :=
  match s.loop with
  | .idle => s
  | .looked addr key (some _) => { s with loop := if ok then .succeeding addr else .dropping addr key }
  | .dropping addr key => { s.put key none with loop := .failing addr }
  | .failing addr => { s.recordPeerFailure addr with loop := .idle }
  | .succeeding addr => { s.recordPeerSuccess addr with loop := .idle }
  | .looked addr key none =>
    if s.peerFastFailActive addr then { s with loop := .idle }
    else { s with
      loop := .dialing addr key
      dials := ⟨key, s.now, s.tasks.countP (Task.unrecorded key) = 0⟩ :: s.dials }
  | .dialing addr key => { s.put key (some .connecting) with loop := .spawning addr key }
  | .spawning addr key => { s with loop := .idle, tasks := s.tasks ++ [.dial addr key .connecting] }

/-- A command for a stream is taken if there is a permit. -/
def openStream (s : State K A) (kind : Kind) (peer : PeerEndpoint K A) : State K A :=
  match s.loop with
  | .idle =>
    if s.permits kind = 0 then s
    else { s with
      permits := Function.update s.permits kind (s.permits kind - 1)
      tasks := s.tasks ++ [.stream kind peer .looking] }
  | _ => s

def setTask (s : State K A) (i : ℕ) (t : Task K A) : State K A := { s with tasks := s.tasks.set i t }

/-- The next step of a dial for datagrams. -/
def dialStep (s : State K A) (i : ℕ) (addr : A) (key : K) (ok : Bool) : DialStage → State K A
  | .connecting =>
    if ok then { s with issued := s.issued + 1 }.setTask i (.dial addr key (.connected s.issued))
    else s.setTask i (.dial addr key .failed)
  | .connected connection => (s.put key (some (.ready connection))).setTask i (.dial addr key .succeeding)
  | .failed => (s.put key none).setTask i (.dial addr key .failing)
  | .failing => (s.recordPeerFailure addr).setTask i (.dial addr key .finished)
  | .succeeding => (s.recordPeerSuccess addr).setTask i (.dial addr key .finished)
  | .finished => s

/-- The stream ends, and its permit is free again. -/
def finish (s : State K A) (i : ℕ) (kind : Kind) (peer : PeerEndpoint K A) : State K A :=
  { s with permits := Function.update s.permits kind (s.permits kind + 1) }.setTask i (.stream kind peer .finished)

/-- The next step of a stream whose peer has the key. -/
def streamStep (s : State K A) (i : ℕ) (kind : Kind) (peer : PeerEndpoint K A) (key : K) (ok : Bool) :
    StreamStage → State K A
  | .looking =>
    match s.connections key with
    | some (.ready connection) =>
      s.setTask i (.stream kind peer (if connection ∈ s.closed then .connecting else .opening connection))
    | _ => s.setTask i (.stream kind peer .connecting)
  | .connecting =>
    if ok then { s with issued := s.issued + 1 }.setTask i (.stream kind peer (.connected s.issued))
    else if kind = .stream then s.setTask i (.stream kind peer .failing)
    else s.finish i kind peer
  | .connected connection =>
    { s.put key (some (.ready connection)) with touched := key :: s.touched }.setTask i
      (.stream kind peer (.succeeding connection))
  | .failing => (s.recordPeerFailure peer.addr).finish i kind peer
  | .succeeding connection => (s.recordPeerSuccess peer.addr).setTask i (.stream kind peer (.opening connection))
  | .opening connection =>
    if ok then s.setTask i (.stream kind peer (.carrying connection))
    -- only `send_stream_task` looks at the result; the others leave the entry where it is
    else if kind = .stream then s.setTask i (.stream kind peer (.dropping connection false))
    else s.finish i kind peer
  | .carrying connection =>
    match kind with
    | .stream => if ok then s.finish i kind peer else s.setTask i (.stream kind peer (.dropping connection false))
    | .control => s.setTask i (.stream kind peer (.dropping connection !ok))
    | .input => s.finish i kind peer
  | .dropping connection closes =>
    { s.put key none with
      touched := key :: s.touched
      closed := if closes then connection :: s.closed else s.closed }.finish i kind peer
  | .finished => s

def task (s : State K A) (i : ℕ) (ok : Bool) : State K A :=
  match s.tasks[i]? with
  | none => s
  | some (.dial addr key stage) => s.dialStep i addr key ok stage
  | some (.stream _ _ .finished) => s
  | some (.stream kind peer stage) =>
    match peer.key with
    | none => s.finish i kind peer
    | some key => s.streamStep i kind peer key ok stage

def next (s : State K A) : Step K A → State K A
  | .tick ms => { s with now := s.now + ms }
  | .close connection => { s with closed := connection :: s.closed }
  | .datagram peer => s.datagram peer
  | .openStream kind peer => s.openStream kind peer
  | .loop ok => s.advance ok
  | .task i ok => s.task i ok

end State

end Model

/-! ### The markers -/

section Markers

variable {K A : Type} [DecidableEq K] [DecidableEq A] {s : State K A} {key : K}

/-- The loop has looked at the entry of the peer, and will use what it saw. -/
def Loop.handles (key : K) : Loop K A → Bool
  | .looked _ key' _ | .dropping _ key' | .dialing _ key' => key' = key
  | _ => false

/-- The loop has left its marker and starts the dial next. -/
def Loop.spawns (key : K) : Loop K A → Bool
  | .spawning _ key' => key' = key
  | _ => false

namespace State

/-- How many dials to the peer have not changed the map yet. -/
def dialing (s : State K A) (key : K) : ℕ := s.tasks.countP (Task.dials key) + (s.loop.spawns key).toNat

def marked (s : State K A) (key : K) : Bool := s.connections key = some .connecting

end State

/-- **The marker of a peer**: a dial is under way, as many dials as streams have changed its entry and one more,
and the loop does not go on with an entry which is marked. -/
structure Marked (s : State K A) (key : K) : Prop where
  underWay : s.marked key = true → 0 < s.dialing key
  bound : s.dialing key ≤ s.touched.count key + (s.marked key).toNat
  clear : s.loop.handles key = true → s.marked key = false

omit [DecidableEq A] in
theorem marked_put (s : State K A) (key key' : K) (slot : Option ConnectionSlot) :
    (s.put key' slot).marked key = if key' = key then slot == some .connecting else s.marked key := by
  unfold State.put State.marked
  by_cases h : key' = key
  · subst h
    simp [beq_eq_decide]
  · have hne : key ≠ key' := fun heq => h heq.symm
    simp [h, hne]

/-- What a step of a task does to the entry of a peer: nothing, a dial of the peer
lands, or a stream changes it. -/
inductive Shift (key : K) (s s' : State K A) : Prop
  | quiet : s'.marked key = s.marked key → s'.dialing key = s.dialing key →
      s'.touched.count key = s.touched.count key → Shift key s s'
  | landed : s'.marked key = false → s'.dialing key + 1 = s.dialing key →
      s'.touched.count key = s.touched.count key → Shift key s s'
  | touched : s'.marked key = false → s'.dialing key = s.dialing key →
      s'.touched.count key = s.touched.count key + 1 → Shift key s s'

omit [DecidableEq A] in
/-- A task which dials no more, or as before, takes a step which leaves the entry alone. -/
theorem shift_setTask {s' : State K A} {i : ℕ} {t t' : Task K A} (h : s.tasks[i]? = some t)
    (hdials : t'.dials key = t.dials key) (htasks : s'.tasks = s.tasks) (hloop : s'.loop = s.loop)
    (hmarked : s'.marked key = s.marked key) (htouched : s'.touched = s.touched) :
    Shift key s (s'.setTask i t') := by
  refine .quiet hmarked ?_ (congrArg (List.count key) htouched)
  unfold State.dialing State.setTask
  dsimp only
  rw [htasks, hloop, Crew.countP_set_of_eq h hdials]

omit [DecidableEq A] in
/-- A dial changes the map: its marker is gone. -/
theorem shift_landed {i : ℕ} {addr : A} {key' : K} {stage stage' : DialStage}
    (h : s.tasks[i]? = some (.dial addr key' stage)) (hbefore : stage.underWay = true)
    (hafter : stage'.underWay = false) {slot : Option ConnectionSlot} (hslot : slot ≠ some .connecting) :
    Shift key s ((s.put key' slot).setTask i (.dial addr key' stage')) := by
  have hmarked := marked_put s key key' slot
  have hcount := Crew.countP_set (p := Task.dials key) h (.dial addr key' stage')
  by_cases hkey : key' = key
  · subst hkey
    rw [if_pos rfl] at hmarked
    refine .landed (hmarked.trans ?_) ?_ rfl
    · simpa using hslot
    · simp only [Task.dials, hbefore, hafter, decide_true, Bool.and_true, Bool.and_false, Bool.toNat_true,
        Bool.toNat_false] at hcount
      unfold State.dialing State.setTask State.put
      dsimp only
      omega
  · rw [if_neg hkey] at hmarked
    refine .quiet hmarked ?_ rfl
    simp only [Task.dials, hkey, decide_false, Bool.false_and, Bool.toNat_false, Nat.add_zero] at hcount
    unfold State.dialing State.setTask State.put
    dsimp only
    rw [hcount]

omit [DecidableEq A] in
/-- A stream changes the map. -/
theorem shift_touched {s' : State K A} {i : ℕ} {kind : Kind} {peer : PeerEndpoint K A} {key' : K}
    {stage stage' : StreamStage} (h : s.tasks[i]? = some (.stream kind peer stage)) {slot : Option ConnectionSlot}
    (hslot : slot ≠ some .connecting) (htasks : s'.tasks = s.tasks) (hloop : s'.loop = s.loop)
    (hconnections : s'.connections = (s.put key' slot).connections) (htouched : s'.touched = key' :: s.touched) :
    Shift key s (s'.setTask i (.stream kind peer stage')) := by
  have hmarked : (s'.setTask i (.stream kind peer stage')).marked key =
      if key' = key then slot == some .connecting else s.marked key := by
    rw [← marked_put]
    unfold State.marked State.setTask
    dsimp only
    rw [hconnections]
  have hdialing : (s'.setTask i (.stream kind peer stage')).dialing key = s.dialing key := by
    unfold State.dialing State.setTask
    dsimp only
    rw [htasks, hloop, Crew.countP_set_of_eq (p := Task.dials key) (b := .stream kind peer stage') h rfl]
  have hcount : (s'.setTask i (.stream kind peer stage')).touched.count key = (key' :: s.touched).count key :=
    congrArg (List.count key) htouched
  rw [List.count_cons] at hcount
  by_cases hkey : key' = key
  · rw [if_pos hkey] at hmarked
    refine .touched (hmarked.trans ?_) hdialing ?_
    · simpa using hslot
    · simpa [hkey] using hcount
  · rw [if_neg hkey] at hmarked
    exact .quiet hmarked hdialing (by simpa [hkey] using hcount)

theorem task_loop (s : State K A) (i : ℕ) (ok : Bool) : (s.task i ok).loop = s.loop := by
  unfold State.task
  split
  · rfl
  · rename_i addr key stage _
    unfold State.dialStep
    cases stage with
    | connecting => cases ok <;> rfl
    | _ => rfl
  · rfl
  · rename_i kind peer stage _ _
    split
    · rfl
    · unfold State.streamStep
      cases stage with
      | looking => dsimp only; split <;> rfl
      | connecting =>
        dsimp only
        split
        · rfl
        · split <;> rfl
      | opening connection =>
        dsimp only
        split
        · rfl
        · split <;> rfl
      | carrying connection => cases kind with
        | stream => cases ok <;> rfl
        | _ => rfl
      | _ => rfl

/-- **A step of a task.** -/
theorem task_shift (s : State K A) (i : ℕ) (ok : Bool) (key : K) : Shift key s (s.task i ok) := by
  unfold State.task
  split
  · exact .quiet rfl rfl rfl
  · rename_i addr key' stage htask
    unfold State.dialStep
    cases stage with
    | connecting =>
      cases ok with
      | true => exact shift_setTask htask rfl rfl rfl rfl rfl
      | false => exact shift_setTask htask rfl rfl rfl rfl rfl
    | connected connection => exact shift_landed htask rfl rfl (by simp)
    | failed => exact shift_landed htask rfl rfl (by simp)
    | failing => exact shift_setTask htask (by simp [Task.dials, DialStage.underWay]) rfl rfl rfl rfl
    | succeeding => exact shift_setTask htask (by simp [Task.dials, DialStage.underWay]) rfl rfl rfl rfl
    | finished => exact .quiet rfl rfl rfl
  · exact .quiet rfl rfl rfl
  · rename_i kind peer stage _ htask
    split
    · exact shift_setTask htask rfl rfl rfl rfl rfl
    rename_i key' _
    unfold State.streamStep
    cases stage with
    | looking =>
      dsimp only
      split <;> exact shift_setTask htask rfl rfl rfl rfl rfl
    | connecting =>
      dsimp only
      split
      · exact shift_setTask htask rfl rfl rfl rfl rfl
      · split
        · exact shift_setTask htask rfl rfl rfl rfl rfl
        · exact shift_setTask htask rfl rfl rfl rfl rfl
    | connected connection => exact shift_touched htask (by simp) rfl rfl rfl rfl
    | failing => exact shift_setTask htask rfl rfl rfl rfl rfl
    | succeeding connection => exact shift_setTask htask rfl rfl rfl rfl rfl
    | opening connection =>
      dsimp only
      split
      · exact shift_setTask htask rfl rfl rfl rfl rfl
      · split
        · exact shift_setTask htask rfl rfl rfl rfl rfl
        · exact shift_setTask htask rfl rfl rfl rfl rfl
    | carrying connection =>
      cases kind with
      | stream => cases ok <;> exact shift_setTask htask rfl rfl rfl rfl rfl
      | control => exact shift_setTask htask rfl rfl rfl rfl rfl
      | input => exact shift_setTask htask rfl rfl rfl rfl rfl
    | dropping connection closes => exact shift_touched htask (by simp) rfl rfl rfl rfl
    | finished => exact .quiet rfl rfl rfl

theorem Marked.task (h : Marked s key) (i : ℕ) (ok : Bool) : Marked (s.task i ok) key := by
  have hloop := task_loop s i ok
  obtain ⟨hway, hbound, hclear⟩ := h
  cases task_shift s i ok key with
  | quiet hmarked hdialing htouched =>
    rw [← hmarked, ← hdialing] at hway
    rw [← hmarked, ← hdialing, ← htouched] at hbound
    rw [← hmarked, ← hloop] at hclear
    exact ⟨hway, hbound, hclear⟩
  | landed hmarked hdialing htouched =>
    have hle := (s.marked key).toNat_le
    refine ⟨?_, ?_, fun _ => hmarked⟩
    · intro htrue
      rw [hmarked] at htrue
      cases htrue
    · rw [hmarked, htouched, Bool.toNat_false]
      omega
  | touched hmarked hdialing htouched =>
    have hle := (s.marked key).toNat_le
    refine ⟨?_, ?_, fun _ => hmarked⟩
    · intro htrue
      rw [hmarked] at htrue
      cases htrue
    · rw [hmarked, htouched, hdialing, Bool.toNat_false]
      omega

omit [DecidableEq A] in
/-- The loop takes a step which leaves the map alone, and neither leaves nor finds a marker. -/
theorem Marked.loop (h : Marked s key) {s' : State K A} (hconnections : s'.connections = s.connections)
    (htasks : s'.tasks = s.tasks) (htouched : s'.touched = s.touched)
    (hspawns : s'.loop.spawns key = s.loop.spawns key)
    (hhandles : s'.loop.handles key = true → s.marked key = false) : Marked s' key := by
  have hmarked : s'.marked key = s.marked key := by
    unfold State.marked
    rw [hconnections]
  have hdialing : s'.dialing key = s.dialing key := by
    unfold State.dialing
    rw [htasks, hspawns]
  obtain ⟨hway, hbound, -⟩ := h
  refine ⟨?_, ?_, ?_⟩
  · rwa [hmarked, hdialing]
  · rwa [hmarked, hdialing, htouched]
  · rwa [hmarked]

omit [DecidableEq A] in
/-- The loop takes the entry of a peer away, which is not marked. -/
theorem Marked.remove (h : Marked s key) {key' : K} (hclear : s.marked key' = false) {loop : Loop K A}
    (hspawns : loop.spawns key = s.loop.spawns key)
    (hhandles : loop.handles key = true → key' = key ∨ s.marked key = false) :
    Marked { s.put key' none with loop } key := by
  have hmarked : State.marked { s.put key' none with loop } key = s.marked key := by
    refine (marked_put s key key' none).trans ?_
    split
    · rename_i heq
      rw [← heq, hclear]
      rfl
    · rfl
  have hdialing : State.dialing { s.put key' none with loop } key = s.dialing key := by
    unfold State.dialing
    dsimp only
    rw [hspawns]
    rfl
  obtain ⟨hway, hbound, -⟩ := h
  refine ⟨?_, ?_, ?_⟩
  · rwa [hmarked, hdialing]
  · rw [hmarked, hdialing]
    exact hbound
  · intro hloop
    rw [hmarked]
    rcases hhandles hloop with rfl | hfalse
    · exact hclear
    · exact hfalse

theorem Marked.datagram (h : Marked s key) (peer : PeerEndpoint K A) : Marked (s.datagram peer) key := by
  unfold State.datagram
  split
  · rename_i hidle
    split
    · exact h.loop rfl rfl rfl rfl h.clear
    · rename_i key' _
      split
      · exact h
      · rename_i connection hready
        have hclear : s.marked key' = false := by simp [State.marked, hready]
        split
        · exact h.remove hclear (by rw [hidle]; rfl) fun hhandles => .inl (by simpa [Loop.handles] using hhandles)
        · refine h.loop rfl rfl rfl (by rw [hidle]; rfl) fun hhandles => ?_
          obtain rfl : key' = key := by simpa [Loop.handles] using hhandles
          exact hclear
      · rename_i hnone
        have hclear : s.marked key' = false := by simp [State.marked, hnone]
        refine h.loop rfl rfl rfl (by rw [hidle]; rfl) fun hhandles => ?_
        obtain rfl : key' = key := by simpa [Loop.handles] using hhandles
        exact hclear
  · exact h

theorem Marked.advance (h : Marked s key) (ok : Bool) : Marked (s.advance ok) key := by
  unfold State.advance
  split
  · exact h
  · rename_i addr key' connection hloop
    refine h.loop rfl rfl rfl ?_ ?_
    · rw [hloop]
      cases ok <;> rfl
    · intro hhandles
      refine h.clear ?_
      rw [hloop]
      cases ok with
      | true => cases hhandles
      | false => exact hhandles
  · rename_i addr key' hloop
    by_cases hkey : key' = key
    · subst hkey
      exact h.remove (h.clear (by simp [hloop, Loop.handles])) (by rw [hloop]; rfl) nofun
    · have hdropped := marked_put s key key' none
      rw [if_neg hkey] at hdropped
      obtain ⟨hway, hbound, -⟩ := h
      have hdialing : State.dialing { s.put key' none with loop := .failing addr } key = s.dialing key := by
        unfold State.dialing
        rw [hloop]
        rfl
      refine ⟨?_, ?_, nofun⟩
      · intro hmarked
        rw [hdialing]
        exact hway (hdropped.symm.trans hmarked)
      · rw [hdialing]
        exact hbound.trans (by rw [← hdropped]; exact le_refl _)
  · rename_i addr hloop
    exact h.loop rfl rfl rfl (by rw [hloop]; rfl) nofun
  · rename_i addr hloop
    exact h.loop rfl rfl rfl (by rw [hloop]; rfl) nofun
  · rename_i addr key' hloop
    split
    · exact h.loop rfl rfl rfl (by rw [hloop]; rfl) nofun
    · refine h.loop rfl rfl rfl (by rw [hloop]; rfl) fun hhandles => h.clear ?_
      rw [hloop]
      exact hhandles
  · rename_i addr key' hloop
    have hmarked := marked_put s key key' (some .connecting)
    have hdialing : State.dialing { s.put key' (some .connecting) with loop := .spawning addr key' } key =
        s.dialing key + (decide (key' = key)).toNat := by
      unfold State.dialing
      rw [hloop]
      rfl
    obtain ⟨hway, hbound, hclear⟩ := h
    refine ⟨?_, ?_, nofun⟩
    · intro htrue
      rw [hdialing]
      by_cases hkey : key' = key
      · simp [hkey]
      · rw [if_neg hkey] at hmarked
        have hpos := hway (hmarked.symm.trans htrue)
        omega
    · rw [hdialing]
      show _ ≤ s.touched.count key + (State.marked (s.put key' (some .connecting)) key).toNat
      rw [hmarked]
      by_cases hkey : key' = key
      · have hfree := hclear (by simp [hloop, Loop.handles, hkey])
        rw [hfree] at hbound
        simpa [hkey] using hbound
      · simpa [hkey] using hbound
  · rename_i addr key' hloop
    have hdialing : State.dialing { s with loop := .idle, tasks := s.tasks ++ [.dial addr key' .connecting] } key =
        s.dialing key := by
      unfold State.dialing
      rw [hloop, List.countP_append, List.countP_singleton]
      by_cases hkey : key' = key <;> simp [Loop.spawns, Task.dials, DialStage.underWay, hkey]
    obtain ⟨hway, hbound, -⟩ := h
    exact ⟨fun hmarked => hdialing ▸ hway hmarked, hdialing ▸ hbound, nofun⟩

theorem next_marked (s : State K A) (step : Step K A) (h : Marked s key) : Marked (s.next step) key := by
  cases step with
  | tick ms => exact ⟨h.underWay, h.bound, h.clear⟩
  | close connection => exact ⟨h.underWay, h.bound, h.clear⟩
  | datagram peer => exact h.datagram peer
  | openStream kind peer =>
    show Marked (s.openStream kind peer) key
    unfold State.openStream
    split
    · split
      · exact h
      · have hdialing : State.dialing { s with
            permits := Function.update s.permits kind (s.permits kind - 1)
            tasks := s.tasks ++ [.stream kind peer .looking] } key = s.dialing key := by
          unfold State.dialing
          simp [Task.dials]
        exact ⟨fun hmarked => hdialing ▸ h.underWay hmarked, hdialing ▸ h.bound, h.clear⟩
    · exact h
  | loop ok => exact h.advance ok
  | task i ok => exact h.task i ok

end Markers

/-! ### The permits -/

section Permits

variable {K A : Type} [DecidableEq K] [DecidableEq A] {s : State K A}

/-- The task holds a permit of its kind. -/
def Task.holds (kind : Kind) : Task K A → Bool
  | .dial _ _ _ => false
  | .stream kind' _ stage => kind' = kind && stage != .finished

/-- A permit is free, or a stream which has not ended holds it. -/
def Permitted (s : State K A) : Prop := ∀ kind, s.permits kind + s.tasks.countP (Task.holds kind) = kind.limit

omit [DecidableEq K] [DecidableEq A] in
/-- A task goes on, and holds what it held. -/
theorem Permitted.setTask (h : Permitted s) {s' : State K A} {i : ℕ} {t t' : Task K A}
    (htask : s.tasks[i]? = some t) (htasks : s'.tasks = s.tasks) (hpermits : s'.permits = s.permits)
    (hholds : ∀ kind, t'.holds kind = t.holds kind) :
    Permitted (s'.setTask i t') := by
  intro kind
  show s'.permits kind + (s'.tasks.set i t').countP (Task.holds kind) = kind.limit
  rw [htasks, hpermits, Crew.countP_set_of_eq htask (hholds kind)]
  exact h kind

omit [DecidableEq K] [DecidableEq A] in
/-- A stream ends, and gives its permit back. -/
theorem Permitted.finish (h : Permitted s) {s' : State K A} {i : ℕ} {kind : Kind} {peer : PeerEndpoint K A}
    {stage : StreamStage} (htask : s.tasks[i]? = some (.stream kind peer stage)) (hrunning : stage ≠ .finished)
    (htasks : s'.tasks = s.tasks) (hpermits : s'.permits = s.permits) : Permitted (s'.finish i kind peer) := by
  intro kind'
  have hcount := Crew.countP_set (p := Task.holds kind') htask (.stream kind peer .finished)
  have hlimit := h kind'
  show Function.update s'.permits kind (s'.permits kind + 1) kind' +
    (s'.tasks.set i (.stream kind peer .finished)).countP (Task.holds kind') = kind'.limit
  rw [htasks, hpermits]
  by_cases hkind : kind = kind'
  · subst hkind
    have hheld : (stage != .finished) = true := by simpa using hrunning
    simp only [Task.holds, hheld, decide_true, Bool.and_self, Bool.toNat_true, bne_self_eq_false, Bool.and_false,
      Bool.toNat_false] at hcount
    rw [Function.update_self]
    omega
  · have hne : kind' ≠ kind := fun heq => hkind heq.symm
    simp [Task.holds, hkind] at hcount
    rw [Function.update_of_ne hne, hcount]
    exact hlimit

theorem Permitted.task (h : Permitted s) (i : ℕ) (ok : Bool) : Permitted (s.task i ok) := by
  unfold State.task
  split
  · exact h
  · rename_i addr key stage htask
    unfold State.dialStep
    cases stage with
    | connecting => cases ok <;> exact h.setTask htask rfl rfl fun _ => rfl
    | finished => exact h
    | _ => exact h.setTask htask rfl rfl fun _ => rfl
  · exact h
  · rename_i kind peer stage hrunning htask
    split
    · exact h.finish htask hrunning rfl rfl
    unfold State.streamStep
    cases stage with
    | looking =>
      dsimp only
      split
      · refine h.setTask htask rfl rfl fun kind' => ?_
        split <;> rfl
      · exact h.setTask htask rfl rfl fun _ => rfl
    | connecting =>
      dsimp only
      split
      · exact h.setTask htask rfl rfl fun _ => rfl
      · split
        · exact h.setTask htask rfl rfl fun _ => rfl
        · exact h.finish htask hrunning rfl rfl
    | connected connection => exact h.setTask htask rfl rfl fun _ => rfl
    | failing => exact h.finish htask hrunning rfl rfl
    | succeeding connection => exact h.setTask htask rfl rfl fun _ => rfl
    | opening connection =>
      dsimp only
      split
      · exact h.setTask htask rfl rfl fun _ => rfl
      · split
        · exact h.setTask htask rfl rfl fun _ => rfl
        · exact h.finish htask hrunning rfl rfl
    | carrying connection =>
      cases kind with
      | stream =>
        cases ok with
        | true => exact h.finish htask hrunning rfl rfl
        | false => exact h.setTask htask rfl rfl fun _ => rfl
      | control => exact h.setTask htask rfl rfl fun _ => rfl
      | input => exact h.finish htask hrunning rfl rfl
    | dropping connection closes => exact h.finish htask hrunning rfl rfl
    | finished => exact h

/-- The loop neither takes nor gives a permit while it is at a datagram. -/
theorem advance_permits (s : State K A) (ok : Bool) (kind : Kind) :
    (s.advance ok).permits = s.permits ∧
    (s.advance ok).tasks.countP (Task.holds kind) = s.tasks.countP (Task.holds kind) := by
  unfold State.advance
  split
  · exact ⟨rfl, rfl⟩
  · exact ⟨rfl, rfl⟩
  · exact ⟨rfl, rfl⟩
  · exact ⟨rfl, rfl⟩
  · exact ⟨rfl, rfl⟩
  · split <;> exact ⟨rfl, rfl⟩
  · exact ⟨rfl, rfl⟩
  · exact ⟨rfl, by simp [Task.holds]⟩

theorem datagram_permits (s : State K A) (peer : PeerEndpoint K A) :
    (s.datagram peer).permits = s.permits ∧ (s.datagram peer).tasks = s.tasks := by
  unfold State.datagram
  split
  · split
    · exact ⟨rfl, rfl⟩
    · split
      · exact ⟨rfl, rfl⟩
      · split <;> exact ⟨rfl, rfl⟩
      · exact ⟨rfl, rfl⟩
  · exact ⟨rfl, rfl⟩

theorem next_permitted (s : State K A) (step : Step K A) (h : Permitted s) : Permitted (s.next step) := by
  cases step with
  | tick ms => exact h
  | close connection => exact h
  | datagram peer =>
    obtain ⟨hpermits, htasks⟩ := datagram_permits s peer
    intro kind
    show (s.datagram peer).permits kind + (s.datagram peer).tasks.countP (Task.holds kind) = kind.limit
    rw [hpermits, htasks]
    exact h kind
  | openStream kind peer =>
    show Permitted (s.openStream kind peer)
    unfold State.openStream
    split
    · split
      · exact h
      · rename_i hfree
        intro kind'
        have hlimit := h kind'
        show Function.update s.permits kind (s.permits kind - 1) kind' +
          (s.tasks ++ [Task.stream kind peer .looking]).countP (Task.holds kind') = kind'.limit
        rw [List.countP_append, List.countP_singleton]
        by_cases hkind : kind = kind'
        · subst hkind
          rw [Function.update_self]
          simp [Task.holds]
          omega
        · have hne : kind' ≠ kind := fun heq => hkind heq.symm
          rw [Function.update_of_ne hne]
          simpa [Task.holds, hkind] using hlimit
    · exact h
  | loop ok =>
    intro kind
    obtain ⟨hpermits, hcount⟩ := advance_permits s ok kind
    show (s.advance ok).permits kind + (s.advance ok).tasks.countP (Task.holds kind) = kind.limit
    rw [hpermits, hcount]
    exact h kind
  | task i ok => exact h.task i ok

end Permits

/-- **No peer is stuck behind its marker.**  In every run, in any order of steps: a marker means that a dial to the
peer is under way; of the dials of the loop to the peer at most as many are under way as streams have changed its
entry, and one more, however many datagrams come; and of the streams of each kind at most eight run at once. -/
theorem transport_dials {K A : Type} [DecidableEq K] [DecidableEq A] (steps : List (Step K A)) :
    let s : State K A := run State.next start steps
    (∀ key, s.connections key = some .connecting → 0 < s.dialing key) ∧
      (∀ key, s.dialing key ≤ s.touched.count key + 1) ∧
      ∀ kind, s.permits kind + s.tasks.countP (Task.holds kind) = kind.limit := by
  intro s
  have hmarked : ∀ key, Marked s key := by
    intro key
    have hstart : Marked (start : State K A) key := ⟨nofun, Nat.zero_le _, nofun⟩
    exact run_invariant (fun s step => next_marked s step) hstart steps
  have hpermitted : Permitted s := run_invariant next_permitted (fun _ => rfl) steps
  refine ⟨?_, ?_, hpermitted⟩
  · intro key hslot
    exact (hmarked key).underWay (decide_eq_true hslot)
  · intro key
    have hle := (s.marked key).toNat_le
    have hbound := (hmarked key).bound
    omega

end MyKvm.Transport.Dialing
