import MyKvm.Lib.Crew
import MyKvm.Transport.Endpoint

/-!
# MyKvm.Transport.Lanes — one control stream and one input stream for each connection

A stream says by its preface what it carries.  The first one which opens the control lane of a connection has it,
and likewise the input lane, until it ends; others are stopped.

* `Exclusive`: what holds of the streams and the lanes.
* `Exclusive.claim`, `Exclusive.release`: a lane is taken, and left.
* `next_exclusive`: every step.
* `lanes_exclusive`: what follows for every run.
-/

namespace MyKvm.Transport

open MyKvm.Lib MyKvm.Receiver

inductive Lane where
  | control
  | input
  deriving DecidableEq

def Lane.stage : Lane → StreamStage
  | .control => .control
  | .input => .input

theorem Lane.stage_injective {lane lane' : Lane} (h : lane.stage = lane'.stage) : lane = lane' := by
  cases lane <;> cases lane' <;> first | rfl | cases h

def Connection.active (entry : Connection) : Lane → Bool
  | .control => entry.controlActive
  | .input => entry.inputActive

def Connection.setActive (entry : Connection) (active : Bool) : Lane → Connection
  | .control => { entry with controlActive := active }
  | .input => { entry with inputActive := active }

theorem Connection.active_setActive (entry : Connection) (active : Bool) (lane lane' : Lane) :
    (entry.setActive active lane).active lane' = if lane = lane' then active else entry.active lane' := by
  cases lane <;> cases lane' <;> rfl

namespace Endpoint

/-- How many streams use the lane of the connection. -/
def carrying (s : Endpoint) (lane : Lane) (connection : ℕ) : ℕ :=
  s.streams.countP fun stream => stream.connection = connection && stream.stage = lane.stage

/-- The connection has its lane in use. -/
def taken (s : Endpoint) (lane : Lane) (connection : ℕ) : Bool :=
  match s.connections[connection]? with
  | some entry => entry.active lane
  | none => false

def running (s : Endpoint) : ℕ := s.streams.countP fun stream => stream.stage ≠ .finished

/-- The streams of the lanes are those for which the lanes are taken, and their peers may use them. -/
structure Exclusive (s : Endpoint) : Prop where
  carried : ∀ lane connection, s.carrying lane connection = (s.taken lane connection).toNat
  known : ∀ stream ∈ s.streams, stream.connection < s.connections.length
  authenticated : ∀ stream ∈ s.streams, ∀ lane, stream.stage = Lane.stage lane →
    ∃ peer, s.peerOf stream.connection = some (.authenticated peer) ∧ (lane = .input → peer.role = .controller)
  running : s.running ≤ maxInboundStreams

section Parts

variable {s : Endpoint} {i connection : ℕ} {stream : Stream} {stage : StreamStage}

theorem taken_withConnection (s : Endpoint) (connection other : ℕ) (change : Connection → Connection) (lane : Lane)
    (hkeeps : ∀ entry, (change entry).active lane = entry.active lane) :
    (s.withConnection connection change).taken lane other = s.taken lane other := by
  unfold taken withConnection
  rw [List.getElem?_modify]
  cases s.connections[other]? with
  | none => rfl
  | some entry => by_cases h : connection = other <;> simp [h, hkeeps]

theorem taken_setActive {entry : Connection} (hentry : s.connections[connection]? = some entry) (active : Bool)
    (lane lane' : Lane) (other : ℕ) :
    (s.withConnection connection fun entry => entry.setActive active lane).taken lane' other =
      if connection = other ∧ lane = lane' then active else s.taken lane' other := by
  unfold taken withConnection
  rw [List.getElem?_modify]
  by_cases h : connection = other
  · subst h
    rw [hentry]
    by_cases hlane : lane = lane' <;> simp [hlane, Connection.active_setActive]
  · cases s.connections[other]? <;> simp [h]

/-- One stream comes to a stage. -/
theorem carrying_withStage (h : s.streams[i]? = some stream) (stage : StreamStage) (lane : Lane) (other : ℕ) :
    (s.withStage i stage).carrying lane other + (stream.connection = other && stream.stage = lane.stage).toNat =
      s.carrying lane other + (stream.connection = other && stage = lane.stage).toNat := by
  unfold carrying withStage
  dsimp only
  rw [List.modify_eq_set_getElem?, h]
  exact Crew.countP_set h _

theorem running_withStage (h : s.streams[i]? = some stream) (hgoes : stream.stage ≠ .finished)
    (stage : StreamStage) :
    (s.withStage i stage).running ≤ s.running := by
  have hset :=
    Crew.countP_set (p := fun stream : Stream => decide (stream.stage ≠ .finished)) h { stream with stage }
  unfold running withStage
  dsimp only
  rw [List.modify_eq_set_getElem?, h]
  have hold : (decide (stream.stage ≠ .finished)).toNat = 1 := by simp [hgoes]
  have hnew := Bool.toNat_le (decide (stage ≠ .finished))
  dsimp only [Option.map_some, Option.getD_some] at hset ⊢
  show List.countP _ (s.streams.set i { stream with stage }) ≤ _
  omega

theorem mem_withStage (h : s.streams[i]? = some stream) (stage : StreamStage) {P : Stream → Prop}
    (hall : ∀ stream ∈ s.streams, P stream)
    (hnew : P { stream with stage }) : ∀ stream ∈ (s.withStage i stage).streams, P stream := by
  unfold withStage
  dsimp only
  rw [List.modify_eq_set_getElem?, h]
  exact Crew.forall_set hall hnew

/-! ### What a step does to the lanes -/

/-- The streams and the lanes are as before, and no connection has got another peer. -/
theorem Exclusive.congr {s' : Endpoint} (h : Exclusive s) (hstreams : s'.streams = s.streams)
    (htaken : ∀ lane connection, s'.taken lane connection = s.taken lane connection)
    (hlength : s.connections.length ≤ s'.connections.length)
    (hpeer : ∀ connection peer, s.peerOf connection = some (.authenticated peer) →
      s'.peerOf connection = some (.authenticated peer)) : Exclusive s' := by
  refine ⟨fun lane connection => ?_, fun stream hstream => ?_, fun stream hstream lane hlane => ?_, ?_⟩
  · rw [htaken, ← h.carried, carrying, carrying, hstreams]
  · rw [hstreams] at hstream
    exact Nat.lt_of_lt_of_le (h.known stream hstream) hlength
  · rw [hstreams] at hstream
    obtain ⟨peer, hknown, hrole⟩ := h.authenticated stream hstream lane hlane
    exact ⟨peer, hpeer _ _ hknown, hrole⟩
  · rw [Endpoint.running, hstreams]
    exact h.running

theorem Exclusive.withConnection (h : Exclusive s) (connection : ℕ) {change : Connection → Connection}
    (hpeer : ∀ entry, (change entry).peer = entry.peer)
    (hkeeps : ∀ entry lane, (change entry).active lane = entry.active lane) :
    Exclusive (s.withConnection connection change) :=
  h.congr rfl (fun lane other => taken_withConnection s connection other change lane fun entry =>
    hkeeps entry lane)
    (by simp [Endpoint.withConnection]) fun other peer hknown => by rwa [peerOf_withConnection hpeer]

/-- A stream which uses no lane goes on without one. -/
theorem Exclusive.withStage (h : Exclusive s) (hstream : s.streams[i]? = some stream)
    (hgoes : stream.stage ≠ .finished)
    (hfrom : ∀ lane, stream.stage ≠ Lane.stage lane) (hto : ∀ lane, stage ≠ Lane.stage lane) :
    Exclusive (s.withStage i stage) := by
  refine ⟨fun lane connection => ?_, ?_, ?_, ?_⟩
  · have hcount := carrying_withStage hstream stage lane connection
    rw [decide_eq_false (hfrom lane), decide_eq_false (hto lane)] at hcount
    have hsame : (s.withStage i stage).taken lane connection = s.taken lane connection := rfl
    rw [hsame, ← h.carried]
    simpa using hcount
  · exact mem_withStage hstream stage h.known (h.known stream (List.mem_of_getElem? hstream))
  · exact mem_withStage hstream stage h.authenticated fun lane hlane => absurd hlane (hto lane)
  · exact Nat.le_trans (running_withStage hstream hgoes stage) h.running

/-- A stream comes to another stage, and the lane of its connection is set: the two have to go together. -/
theorem Exclusive.shift (h : Exclusive s) (hstream : s.streams[i]? = some stream)
    (hgoes : stream.stage ≠ .finished) {lane : Lane} {active : Bool}
    (hlane : (decide (stream.stage = lane.stage)).toNat + active.toNat =
      (decide (stage = lane.stage)).toNat + (s.taken lane stream.connection).toNat)
    (hothers : ∀ lane' : Lane, lane ≠ lane' → stream.stage ≠ lane'.stage ∧ stage ≠ lane'.stage)
    (hmay : ∀ lane' : Lane, stage = lane'.stage → ∃ peer, s.peerOf stream.connection = some (.authenticated peer) ∧
      (lane' = .input → peer.role = .controller)) :
    Exclusive ((s.withConnection stream.connection fun entry => entry.setActive active lane).withStage
      i stage) := by
  have hstays : ∀ entry : Connection, (entry.setActive active lane).peer = entry.peer :=
    fun _ => by cases lane <;> rfl
  have hlength : stream.connection < s.connections.length := h.known _ (List.mem_of_getElem? hstream)
  have hpeers : ∀ other, ((s.withConnection stream.connection fun entry => entry.setActive active lane).withStage i
      stage).peerOf other = s.peerOf other := fun other => peerOf_withConnection hstays other
  refine ⟨fun lane' other => ?_, ?_, ?_, ?_⟩
  · have hcount : (s.withStage i stage).carrying lane' other + _ = _ :=
      carrying_withStage hstream stage lane' other
    have htaken := taken_setActive (List.getElem?_eq_getElem hlength) active lane lane' other
    rw [h.carried] at hcount
    show (s.withStage i stage).carrying lane' other =
      ((s.withConnection stream.connection fun entry => entry.setActive active lane).taken lane' other).toNat
    rw [htaken]
    by_cases hconnection : stream.connection = other
    · subst hconnection
      simp only [decide_true, Bool.true_and, true_and] at hcount ⊢
      by_cases hsame : lane = lane'
      · subst hsame
        rw [if_pos rfl]
        omega
      · obtain ⟨hold, hnew⟩ := hothers lane' hsame
        rw [decide_eq_false hold, decide_eq_false hnew] at hcount
        rw [if_neg hsame]
        exact hcount
    · rw [decide_eq_false hconnection] at hcount
      rw [if_neg fun hboth => hconnection hboth.1]
      simpa using hcount
  · intro stream' hmem
    have hlt := mem_withStage hstream stage h.known hlength stream' hmem
    simpa [Endpoint.withConnection, Endpoint.withStage] using hlt
  · intro stream' hmem lane' hlane'
    rw [hpeers]
    exact mem_withStage hstream stage h.authenticated hmay stream' hmem lane' hlane'
  · exact Nat.le_trans (running_withStage (s := s) hstream hgoes stage) h.running

/-- **A lane is taken** by a stream whose peer may use it. -/
theorem Exclusive.claim (h : Exclusive s) (hstream : s.streams[i]? = some ⟨connection, .preface⟩)
    {entry : Connection} (hentry : s.connections[connection]? = some entry) {peer : AuthenticatedPeer}
    (hpeer : entry.peer = some (.authenticated peer)) (lane : Lane) (hfree : entry.active lane = false)
    (hrole : lane = .input → peer.role = .controller) :
    Exclusive ((s.withConnection connection fun entry => entry.setActive true lane).withStage i lane.stage) := by
  have hwas : s.taken lane connection = false := by
    unfold taken
    rw [hentry]
    exact hfree
  have hpreface : ∀ lane : Lane, StreamStage.preface ≠ lane.stage := by rintro (_ | _) <;> decide
  refine h.shift hstream (by simp) ?_ (fun lane' hother => ⟨hpreface lane', fun hsame => ?_⟩) fun lane' hsame => ?_
  · rw [hwas, decide_eq_false (hpreface lane)]
    simp
  · exact hother (Lane.stage_injective hsame)
  · obtain rfl := Lane.stage_injective hsame
    exact ⟨peer, by simp [peerOf, hentry, hpeer], hrole⟩

/-- **A lane is left** by the stream which has it. -/
theorem Exclusive.release (h : Exclusive s) (lane : Lane)
    (hstream : s.streams[i]? = some ⟨connection, lane.stage⟩) :
    Exclusive ((s.withConnection connection fun entry => entry.setActive false lane).withStage i .finished) := by
  have hfinished : ∀ lane : Lane, StreamStage.finished ≠ lane.stage := by rintro (_ | _) <;> decide
  have hone : 0 < s.carrying lane connection := Crew.countP_pos hstream (by simp)
  have hmost := Bool.toNat_le (s.taken lane connection)
  rw [h.carried] at hone
  refine h.shift hstream (hfinished lane).symm ?_ (fun lane' hother => ⟨fun hsame => ?_, hfinished lane'⟩)
    fun lane' hsame => absurd hsame (hfinished lane')
  · rw [decide_eq_false (hfinished lane)]
    simp only [decide_true, Bool.toNat_true, Bool.toNat_false]
    omega
  · exact hother (Lane.stage_injective hsame)

/-! ### Step by step -/

theorem Exclusive.openStream (h : Exclusive s) (connection : ℕ) : Exclusive (s.openStream connection) := by
  unfold Endpoint.openStream
  split
  · rename_i hentry
    split
    · rename_i hroom
      have hlength : connection < s.connections.length := (List.getElem?_eq_some_iff.mp hentry).1
      refine ⟨fun lane other => ?_, fun stream hmem => ?_, fun stream hmem lane hlane => ?_, ?_⟩
      · have hnot : StreamStage.preface ≠ lane.stage := by cases lane <;> decide
        have hsame : s.carrying lane other + 0 = (s.taken lane other).toNat := h.carried lane other
        show List.countP _ (s.streams ++ [⟨connection, .preface⟩]) = (s.taken lane other).toNat
        rw [List.countP_append, ← hsame]
        simp [hnot, carrying]
      · rcases List.mem_append.mp hmem with hold | hnew
        · exact h.known stream hold
        · obtain rfl := List.mem_singleton.mp hnew
          exact hlength
      · rcases List.mem_append.mp hmem with hold | hnew
        · exact h.authenticated stream hold lane hlane
        · obtain rfl := List.mem_singleton.mp hnew
          cases lane <;> cases hlane
      · unfold Endpoint.running
        rw [List.countP_append, List.countP_eq_length_filter]
        exact hroom
    · exact h
  · exact h

theorem Exclusive.preface (h : Exclusive s) (bytes : List UInt8) (reserved : Bool) :
    Exclusive (s.preface i bytes reserved) := by
  unfold Endpoint.preface
  split
  · rename_i connection hstream
    have hpreface : ∀ lane : Lane, StreamStage.preface ≠ lane.stage := by rintro (_ | _) <;> decide
    have hstops : Exclusive (s.withStage i .finished) :=
      h.withStage hstream (by simp) hpreface (by rintro (_ | _) <;> decide)
    split
    · exact h
    rename_i entry hentry
    split
    · split
      · rename_i peer hpeer
        split
        · exact hstops
        · rename_i hfree
          exact h.claim hstream hentry hpeer .control (Bool.eq_false_iff.mpr hfree) (by simp)
      · exact hstops
    split
    · split
      · rename_i peer hpeer
        split
        · exact hstops
        · rename_i hmay
          rw [Bool.or_eq_true, not_or, decide_eq_true_iff, not_not] at hmay
          exact h.claim hstream hentry hpeer .input (Bool.eq_false_iff.mpr hmay.2) fun _ => hmay.1
      · exact hstops
    split
    · exact h.withStage hstream (by simp) hpreface (by rintro (_ | _) <;> decide)
    · exact hstops
  · exact h

theorem Exclusive.payload (h : Exclusive s) (base64 : Base64) (bytes : List UInt8) (machineRole : String)
    (paired : Option (List TrustedPeer)) : Exclusive (s.payload base64 i bytes machineRole paired) := by
  unfold Endpoint.payload
  split
  · rename_i connection hstream
    have hstops : Exclusive (s.withStage i .finished) :=
      h.withStage hstream (by simp) (by rintro (_ | _) <;> simp [Lane.stage]) (by rintro (_ | _) <;> decide)
    dsimp only
    split
    · split
      · rename_i registry _ _
        have hreplaced : Exclusive { s.withStage i .finished with registry } :=
          hstops.congr rfl (fun _ _ => rfl) (Nat.le_refl _) fun _ _ hknown => hknown
        exact hreplaced.withConnection connection (fun _ => rfl) fun _ lane => by cases lane <;> rfl
      · exact hstops
    · split
      · exact hstops.congr rfl (fun _ _ => rfl) (Nat.le_refl _) fun _ _ hknown => hknown
      · exact hstops
    · exact hstops
  · exact h

theorem Exclusive.finish (h : Exclusive s) : Exclusive (s.finish i) := by
  unfold Endpoint.finish
  split
  · rename_i hstream
    exact h.release .control hstream
  · rename_i hstream
    exact h.release .input hstream
  · rename_i stream hcontrol hinput hstream
    by_cases hdone : stream.stage = .finished
    · -- a stream which has ended stays so
      have hsame : s.withStage i .finished = s := by
        unfold Endpoint.withStage
        rw [List.modify_eq_set_getElem?, hstream]
        obtain ⟨hi, hget⟩ := List.getElem?_eq_some_iff.mp hstream
        have hold : ({ stream with stage := .finished } : Stream) = s.streams[i] := by rw [hget, ← hdone]
        simp only [Option.map_eq_map, Option.map_some, Option.getD_some, hold, List.set_getElem_self]
      rw [hsame]
      exact h
    · refine h.withStage hstream hdone (fun lane hlane => ?_) (by rintro (_ | _) <;> decide)
      obtain ⟨connection, stage⟩ := stream
      obtain rfl : stage = lane.stage := hlane
      cases lane with
      | control => exact hcontrol connection rfl
      | input => exact hinput connection rfl
  · exact h

theorem Exclusive.handshake (h : Exclusive s) (base64 : Base64) (connection : ℕ)
    (certificate : Option (List UInt8)) :
    Exclusive (s.handshake base64 connection certificate) := by
  have hlanes : (s.handshake base64 connection certificate).streams = s.streams ∧
      s.connections.length ≤ (s.handshake base64 connection certificate).connections.length ∧
      ∀ lane other, (s.handshake base64 connection certificate).taken lane other = s.taken lane other := by
    unfold Endpoint.handshake
    split
    · split
      · exact ⟨rfl, Nat.le_refl _, fun _ _ => rfl⟩
      · refine ⟨rfl, by simp [Endpoint.withConnection], fun lane other => ?_⟩
        exact taken_withConnection s connection other _ lane fun entry => by cases lane <;> rfl
    · exact ⟨rfl, Nat.le_refl _, fun _ _ => rfl⟩
  exact h.congr hlanes.1 hlanes.2.2 hlanes.2.1 fun other peer hknown =>
    peerOf_next hknown (.handshake connection certificate)

end Parts

theorem next_exclusive (s : Endpoint) (base64 : Base64) (step : Step) (h : Exclusive s) :
    Exclusive (s.next base64 step) := by
  cases step with
  | accept remoteAddr =>
    refine h.congr rfl (fun lane other => ?_) (by simp [Endpoint.next, Endpoint.accept])
      fun other peer hknown => ?_
    · -- nothing is in use on a new connection
      show (s.accept remoteAddr).taken lane other = s.taken lane other
      unfold taken accept
      dsimp only
      rcases Nat.lt_trichotomy other s.connections.length with hlt | rfl | hgt
      · rw [List.getElem?_append_left hlt]
      · rw [List.getElem?_concat_length, List.getElem?_eq_none (Nat.le_refl _)]
        cases lane <;> rfl
      · rw [List.getElem?_eq_none (by simp; omega), List.getElem?_eq_none (by omega)]
    · show (s.accept remoteAddr).peerOf other = _
      rw [peerOf_accept, hknown]
  | handshake connection certificate => exact h.handshake base64 connection certificate
  | datagram connection payload machineRole =>
    show Exclusive (s.datagram connection payload machineRole)
    unfold Endpoint.datagram
    split
    · split
      · exact h.congr rfl (fun _ _ => rfl) (Nat.le_refl _) fun _ _ hknown => hknown
      · exact h
    · exact h
  | openStream connection => exact h.openStream connection
  | preface stream bytes reserved => exact h.preface bytes reserved
  | control stream frame | input stream frame =>
    show Exclusive (s.frame stream _ _)
    unfold Endpoint.frame
    split
    · split
      · split
        · exact h.congr rfl (fun _ _ => rfl) (Nat.le_refl _) fun _ _ hknown => hknown
        · exact h
      · exact h
    · exact h
  | payload stream bytes machineRole paired => exact h.payload base64 bytes machineRole paired
  | finish stream => exact h.finish
  | close connection => exact h.withConnection connection (fun _ => rfl) fun _ lane => by cases lane <;> rfl
  | replaceTrustedPeers peers => exact h.congr rfl (fun _ _ => rfl) (Nat.le_refl _) fun _ _ hknown => hknown

theorem start_exclusive (registry : TrustedPeerRegistry) : Exclusive (start registry) :=
  ⟨fun lane connection => rfl, fun _ hmem => (by cases hmem), fun _ hmem => (by cases hmem), Nat.zero_le _⟩

end Endpoint

/-- **One control stream and one input stream for each connection.**  In every run of the endpoint,
whatever peers send and in whatever order the tasks take their turns, a connection has at most one control
stream and at most one input stream; its lane is in use exactly as long as there is one, so that it is free
again when the stream has ended; both belong to a peer who was authenticated, and input to a controller;
and of all streams at most eight run. -/
theorem lanes_exclusive (base64 : Endpoint.Base64) (registry : TrustedPeerRegistry) (steps : List Endpoint.Step) :
    let s := Endpoint.reached base64 registry steps
    (∀ lane connection, s.carrying lane connection ≤ 1 ∧
      (s.taken lane connection = true ↔ 0 < s.carrying lane connection)) ∧
      (∀ stream ∈ s.streams, ∀ lane, stream.stage = Lane.stage lane →
        ∃ peer, s.peerOf stream.connection = some (.authenticated peer) ∧
        (lane = .input → peer.role = .controller)) ∧
      s.running ≤ maxInboundStreams := by
  intro s
  have hexclusive : s.Exclusive :=
    run_invariant (fun s step h => Endpoint.next_exclusive s base64 step h)
      (Endpoint.start_exclusive registry) steps
  refine ⟨fun lane connection => ?_, hexclusive.authenticated, hexclusive.running⟩
  rw [hexclusive.carried lane connection]
  cases s.taken lane connection <;> simp

end MyKvm.Transport
