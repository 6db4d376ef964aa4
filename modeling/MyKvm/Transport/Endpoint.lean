import MyKvm.Lib.Machine
import MyKvm.Pairing.Trust
import MyKvm.Protocol.Frames

/-!
# MyKvm.Transport.Endpoint — inbound connections and their frames

The endpoint accepts connections, looks each one's certificate up in the registry after the handshake, and hands
the frames of its datagrams and streams to the application.  The registry is replaced at any moment.  A step is
what one task does between two points where another may get its turn, so a list of steps is an interleaving of all
of them.

* `dispatched_from_authenticated`: whose frames the application gets.
-/

namespace MyKvm.Transport

open MyKvm.Lib MyKvm.Protocol MyKvm.Receiver

def maxInboundStreams : ℕ := 8

def controlPreface : List UInt8 := [0x4D, 0x4B, 0x43, 0x32]

def inputPreface : List UInt8 := [0x4D, 0x4B, 0x49, 0x32]

inductive ConnectionPeer where
  | authenticated (peer : AuthenticatedPeer)
  | unauthenticated (remoteAddr : SocketAddr) (connectionGeneration : UInt64)
      (presentedCertificate : Option String)
  deriving DecidableEq

structure Connection where
  remoteAddr : SocketAddr
  generation : UInt64
  /-- The certificate of the handshake. -/
  certificate : Option (List UInt8)
  /-- Known after the handshake. -/
  peer : Option ConnectionPeer
  controlActive : Bool
  inputActive : Bool
  closed : Bool
  deriving DecidableEq

/-- Where the task of a stream is. -/
inductive StreamStage where
  | preface
  | control
  | input
  | bulk
  | finished
  deriving DecidableEq

structure Stream where
  connection : ℕ
  stage : StreamStage
  deriving DecidableEq

inductive Frame where
  | motion (payload : List UInt8)
  | control (frame : ControlFrame)
  | input (frame : CriticalFrame)
  | bulk (payload : List UInt8)
  deriving DecidableEq

/-- A frame which the application has got, and the registry at that moment. -/
structure Dispatch where
  connection : ℕ
  peer : AuthenticatedPeer
  frame : Frame
  registry : TrustedPeerRegistry

structure Endpoint where
  registry : TrustedPeerRegistry
  generations : UInt64
  connections : List Connection
  streams : List Stream
  /-- Newest first. -/
  dispatched : List Dispatch

namespace Endpoint

def start (registry : TrustedPeerRegistry) : Endpoint :=
  { registry, generations := 1, connections := [], streams := [], dispatched := [] }

/-- The codec of the certificates. -/
structure Base64 where
  encode : List UInt8 → String
  decode : String → Except String (List UInt8)

inductive Step where
  | accept (remoteAddr : SocketAddr)
  /-- The handshake is over; the peer may have shown no certificate. -/
  | handshake (connection : ℕ) (certificate : Option (List UInt8))
  | datagram (connection : ℕ) (payload : List UInt8) (machineRole : String)
  | openStream (connection : ℕ)
  /-- `reserved`: there is memory for a payload. -/
  | preface (stream : ℕ) (bytes : List UInt8) (reserved : Bool)
  | control (stream : ℕ) (frame : ControlFrame)
  | input (stream : ℕ) (frame : CriticalFrame)
  /-- The payload is complete; `paired`: it was a confirmation, and the layout has these peers since. -/
  | payload (stream : ℕ) (bytes : List UInt8) (machineRole : String) (paired : Option (List TrustedPeer))
  | finish (stream : ℕ)
  | close (connection : ℕ)
  | replaceTrustedPeers (peers : List TrustedPeer)

def connectionPeer (base64 : Base64) (registry : TrustedPeerRegistry) (certificate : Option (List UInt8))
    (remoteAddr : SocketAddr) (connectionGeneration : UInt64) : ConnectionPeer :=
  match certificate.bind (registry.authenticate · remoteAddr connectionGeneration) with
  | some peer => .authenticated peer
  | none => .unauthenticated remoteAddr connectionGeneration (certificate.map base64.encode)

/-- `authenticated_peer_role_allowed` -/
def authenticatedPeerRoleAllowed (machineRole : String) : PeerRole → Bool
  | .controller => machineRole = "client"
  | .receiver => machineRole = "server"

variable (s : Endpoint)

def peerOf (connection : ℕ) : Option ConnectionPeer := s.connections[connection]?.bind (·.peer)

def withConnection (connection : ℕ) (change : Connection → Connection) : Endpoint :=
  { s with connections := s.connections.modify connection change }

def withStage (stream : ℕ) (stage : StreamStage) : Endpoint :=
  { s with streams := s.streams.modify stream fun entry => { entry with stage } }

def dispatch (connection : ℕ) (peer : AuthenticatedPeer) (frame : Frame) : Endpoint :=
  { s with dispatched := { connection, peer, frame, registry := s.registry } :: s.dispatched }

def accept (remoteAddr : SocketAddr) : Endpoint :=
  { s with
    generations := s.generations + 1
    connections := s.connections ++
      [{ remoteAddr, generation := s.generations, certificate := none, peer := none, controlActive := false,
         inputActive := false, closed := false }] }

def handshake (base64 : Base64) (connection : ℕ) (certificate : Option (List UInt8)) : Endpoint :=
  match s.connections[connection]? with
  | some entry =>
    if entry.peer.isSome || entry.closed then s else
    s.withConnection connection fun entry =>
      { entry with certificate,
                   peer := some (connectionPeer base64 s.registry certificate entry.remoteAddr entry.generation) }
  | none => s

/-- Only an authenticated connection has a reader for its datagrams. -/
def datagram (connection : ℕ) (payload : List UInt8) (machineRole : String) : Endpoint :=
  match s.connections[connection]? with
  | some { peer := some (.authenticated peer), closed := false, .. } =>
    if authenticatedPeerRoleAllowed machineRole peer.role then s.dispatch connection peer (.motion payload) else s
  | _ => s

/-- A stream without a permit is stopped. -/
def openStream (connection : ℕ) : Endpoint :=
  match s.connections[connection]? with
  | some { peer := some _, closed := false, .. } =>
    if (s.streams.filter (·.stage ≠ .finished)).length < maxInboundStreams then
      { s with streams := s.streams ++ [{ connection, stage := .preface }] }
    else s
  | _ => s

def preface (stream : ℕ) (bytes : List UInt8) (reserved : Bool) : Endpoint :=
  match s.streams[stream]? with
  | some { connection, stage := .preface } =>
    match s.connections[connection]? with
    | none => s
    | some entry =>
      if bytes = controlPreface then
        match entry.peer with
        | some (.authenticated _) =>
          if entry.controlActive then s.withStage stream .finished
          else (s.withConnection connection fun entry => { entry with controlActive := true }).withStage
            stream .control
        | _ => s.withStage stream .finished
      else if bytes = inputPreface then
        match entry.peer with
        | some (.authenticated peer) =>
          if peer.role ≠ .controller || entry.inputActive then s.withStage stream .finished
          else (s.withConnection connection fun entry =>
            { entry with inputActive := true }).withStage stream .input
        | _ => s.withStage stream .finished
      else if reserved then s.withStage stream .bulk
      else s.withStage stream .finished
  | _ => s

/-- The next frame of a control stream, or of an input stream. -/
def frame (stream : ℕ) (stage : StreamStage) (frame : Frame) : Endpoint :=
  match s.streams[stream]? with
  | some entry =>
    if entry.stage = stage then
      match s.peerOf entry.connection with
      | some (.authenticated peer) => s.dispatch entry.connection peer frame
      | _ => s
    else s
  | none => s

/-- `on_stream`, with what follows a pairing. -/
def payload (base64 : Base64) (stream : ℕ) (bytes : List UInt8) (machineRole : String)
    (paired : Option (List TrustedPeer)) : Endpoint :=
  match s.streams[stream]? with
  | some { connection, stage := .bulk } =>
    let s := s.withStage stream .finished
    match s.peerOf connection, paired with
    | some (.unauthenticated _ _ _), some peers =>
      match s.registry.replace base64.decode peers with
      | (registry, .ok _) => { s with registry }.withConnection connection fun entry =>
          { entry with closed := true }
      | (_, .error _) => s
    | some (.authenticated peer), _ =>
      if authenticatedPeerRoleAllowed machineRole peer.role then s.dispatch connection peer (.bulk bytes) else s
    | _, _ => s
  | _ => s

def finish (stream : ℕ) : Endpoint :=
  match s.streams[stream]? with
  | some { connection, stage := .control } =>
    (s.withConnection connection fun entry => { entry with controlActive := false }).withStage stream .finished
  | some { connection, stage := .input } =>
    (s.withConnection connection fun entry => { entry with inputActive := false }).withStage stream .finished
  | some _ => s.withStage stream .finished
  | none => s

def next (base64 : Base64) : Step → Endpoint
  | .accept remoteAddr => s.accept remoteAddr
  | .handshake connection certificate => s.handshake base64 connection certificate
  | .datagram connection payload machineRole => s.datagram connection payload machineRole
  | .openStream connection => s.openStream connection
  | .preface stream bytes reserved => s.preface stream bytes reserved
  | .control stream frame => s.frame stream .control (.control frame)
  | .input stream frame => s.frame stream .input (.input frame)
  | .payload stream bytes machineRole paired => s.payload base64 stream bytes machineRole paired
  | .finish stream => s.finish stream
  | .close connection => s.withConnection connection fun entry => { entry with closed := true }
  | .replaceTrustedPeers peers => { s with registry := (s.registry.replace base64.decode peers).1 }

/-! ### What a step can do -/

section Steps

variable {s : Endpoint} {base64 : Base64} {connection : ℕ}

theorem peerOf_withConnection {change : Connection → Connection}
    (h : ∀ entry, (change entry).peer = entry.peer) (i : ℕ) :
    (s.withConnection connection change).peerOf i = s.peerOf i := by
  unfold peerOf withConnection
  rw [List.getElem?_modify]
  cases s.connections[i]? with
  | none => rfl
  | some entry => by_cases hi : connection = i <;> simp [hi, h]

/-- A new connection has no peer. -/
theorem peerOf_accept (remoteAddr : SocketAddr) (i : ℕ) : (s.accept remoteAddr).peerOf i = s.peerOf i := by
  unfold peerOf accept
  rcases Nat.lt_trichotomy i s.connections.length with hlt | rfl | hgt
  · simp [List.getElem?_append_left hlt]
  · simp
  · rw [List.getElem?_eq_none (by simp; omega), List.getElem?_eq_none (by omega)]

/-- No peer has become known, and whatever has been dispatched came from one who was. -/
structure Calm (s s' : Endpoint) : Prop where
  peers : ∀ i, s'.peerOf i = s.peerOf i
  dispatched : s'.dispatched = s.dispatched ∨ ∃ connection peer frame,
    s.peerOf connection = some (.authenticated peer) ∧
      s'.dispatched = { connection, peer, frame, registry := s.registry } :: s.dispatched

theorem calm_refl (s : Endpoint) : Calm s s := ⟨fun _ => rfl, .inl rfl⟩

theorem calm_withStage (s : Endpoint) (stream : ℕ) (stage : StreamStage) : Calm s (s.withStage stream stage) :=
  ⟨fun _ => rfl, .inl rfl⟩

theorem calm_withConnection (s : Endpoint) (connection : ℕ) {change : Connection → Connection}
    (h : ∀ entry, (change entry).peer = entry.peer) : Calm s (s.withConnection connection change) :=
  ⟨peerOf_withConnection h, .inl rfl⟩

theorem calm_dispatch {peer : AuthenticatedPeer} (h : s.peerOf connection = some (.authenticated peer))
    (frame : Frame) :
    Calm s (s.dispatch connection peer frame) :=
  ⟨fun _ => rfl, .inr ⟨connection, peer, frame, h, rfl⟩⟩

/-- The stage of a stream and the registry make no difference. -/
theorem Calm.withStage {s' : Endpoint} (h : Calm s s') (stream : ℕ) (stage : StreamStage) :
    Calm s (s'.withStage stream stage) :=
  ⟨h.peers, h.dispatched⟩

theorem calm_datagram (payload : List UInt8) (machineRole : String) :
    Calm s (s.datagram connection payload machineRole) := by
  unfold datagram
  split
  · rename_i hentry
    split
    · exact calm_dispatch (by simp [peerOf, hentry]) _
    · exact calm_refl s
  · exact calm_refl s

theorem calm_openStream : Calm s (s.openStream connection) := by
  unfold openStream
  split
  · split
    · exact ⟨fun _ => rfl, .inl rfl⟩
    · exact calm_refl s
  · exact calm_refl s

theorem calm_preface (stream : ℕ) (bytes : List UInt8) (reserved : Bool) :
    Calm s (s.preface stream bytes reserved) := by
  have hfinished : Calm s (s.withStage stream .finished) := calm_withStage s stream .finished
  unfold preface
  split
  · split
    · exact calm_refl s
    · by_cases hcontrol : bytes = controlPreface
      · rw [if_pos hcontrol]
        split
        · split
          · exact hfinished
          · exact (calm_withConnection s _ fun _ => by rfl).withStage stream .control
        · exact hfinished
      · rw [if_neg hcontrol]
        by_cases hinput : bytes = inputPreface
        · rw [if_pos hinput]
          split
          · split
            · exact hfinished
            · exact (calm_withConnection s _ fun _ => by rfl).withStage stream .input
          · exact hfinished
        · rw [if_neg hinput]
          split
          · exact calm_withStage s stream .bulk
          · exact hfinished
  · exact calm_refl s

theorem calm_frame (stream : ℕ) (stage : StreamStage) (frame : Frame) : Calm s (s.frame stream stage frame) := by
  unfold Endpoint.frame
  split
  · split
    · split
      · rename_i hpeer
        exact calm_dispatch hpeer frame
      · exact calm_refl s
    · exact calm_refl s
  · exact calm_refl s

theorem calm_payload (stream : ℕ) (bytes : List UInt8) (machineRole : String)
    (paired : Option (List TrustedPeer)) :
    Calm s (s.payload base64 stream bytes machineRole paired) := by
  unfold Endpoint.payload
  split
  · dsimp only
    split
    · split
      · exact ⟨peerOf_withConnection fun _ => rfl, .inl rfl⟩
      · exact calm_withStage s stream .finished
    · split
      · rename_i hpeer _
        exact ⟨fun _ => rfl, .inr ⟨_, _, _, hpeer, rfl⟩⟩
      · exact calm_withStage s stream .finished
    · exact calm_withStage s stream .finished
  · exact calm_refl s

theorem calm_finish (stream : ℕ) : Calm s (s.finish stream) := by
  unfold finish
  split
  · exact (calm_withConnection s _ fun _ => by rfl).withStage stream .finished
  · exact (calm_withConnection s _ fun _ => by rfl).withStage stream .finished
  · exact calm_withStage s stream .finished
  · exact calm_refl s

/-- The handshake authenticates the connection, or leaves it without a trusted peer, by
the registry of this moment. -/
structure Authenticates (base64 : Base64) (s : Endpoint) (connection : ℕ) (certificate : Option (List UInt8))
    (s' : Endpoint) : Prop where
  peer : ∃ entry, s.connections[connection]? = some entry ∧ s'.peerOf connection =
    some (connectionPeer base64 s.registry certificate entry.remoteAddr entry.generation)
  pending : s.peerOf connection = none
  others : ∀ i, connection ≠ i → s'.peerOf i = s.peerOf i
  dispatched : s'.dispatched = s.dispatched

theorem handshake_cases (s : Endpoint) (base64 : Base64) (connection : ℕ) (certificate : Option (List UInt8)) :
    Calm s (s.handshake base64 connection certificate) ∨
      Authenticates base64 s connection certificate (s.handshake base64 connection certificate) := by
  unfold handshake
  cases hentry : s.connections[connection]? with
  | none => exact .inl (calm_refl s)
  | some entry =>
    dsimp only
    by_cases hidle : (entry.peer.isSome || entry.closed) = true
    · rw [if_pos hidle]
      exact .inl (calm_refl s)
    · rw [if_neg hidle]
      have hopen : entry.peer = none ∧ entry.closed = false := by simpa using hidle
      refine .inr ⟨⟨entry, hentry, ?_⟩, ?_, ?_, rfl⟩
      · simp [peerOf, withConnection, hentry]
      · simp [peerOf, hentry, hopen.1]
      · intro i hi
        simp [peerOf, withConnection, hi]

theorem handshake_refused (base64 : Base64) {entry : Connection} (hentry : s.connections[connection]? = some entry)
    (hnone : entry.peer = none) (hopen : entry.closed = false) {certificate : List UInt8}
    (hheld : ¬ s.registry.Holds certificate) :
    (s.handshake base64 connection (some certificate)).peerOf connection =
      some (.unauthenticated entry.remoteAddr entry.generation (some (base64.encode certificate))) := by
  have hrefused : s.registry.authenticate certificate entry.remoteAddr entry.generation = none :=
    TrustedPeerRegistry.authenticate_eq_none hheld
  simp [handshake, hentry, hnone, hopen, peerOf, withConnection, connectionPeer, hrefused]

/-- Peers become known by the handshake, and by nothing else. -/
theorem next_cases (s : Endpoint) (base64 : Base64) (step : Step) : Calm s (s.next base64 step) ∨
    ∃ connection certificate, step = .handshake connection certificate ∧
      Authenticates base64 s connection certificate (s.next base64 step) := by
  cases step with
  | accept remoteAddr => exact .inl ⟨peerOf_accept remoteAddr, .inl rfl⟩
  | handshake connection certificate =>
    rcases handshake_cases s base64 connection certificate with hcalm | hauthenticates
    · exact .inl hcalm
    · exact .inr ⟨connection, certificate, rfl, hauthenticates⟩
  | datagram connection payload machineRole => exact .inl (calm_datagram payload machineRole)
  | openStream connection => exact .inl calm_openStream
  | preface stream bytes reserved => exact .inl (calm_preface stream bytes reserved)
  | control stream frame => exact .inl (calm_frame stream .control (.control frame))
  | input stream frame => exact .inl (calm_frame stream .input (.input frame))
  | payload stream bytes machineRole paired => exact .inl (calm_payload stream bytes machineRole paired)
  | finish stream => exact .inl (calm_finish stream)
  | close connection => exact .inl (calm_withConnection s connection fun _ => by rfl)
  | replaceTrustedPeers peers => exact .inl ⟨fun _ => rfl, .inl rfl⟩

/-- A peer who is known stays. -/
theorem peerOf_next {peer : ConnectionPeer} (h : s.peerOf connection = some peer) (step : Step) :
    (s.next base64 step).peerOf connection = some peer := by
  rcases next_cases s base64 step with hcalm | ⟨known, certificate, _, hauthenticates⟩
  · rw [hcalm.peers connection, h]
  · have hother : known ≠ connection := by
      rintro rfl
      exact absurd (h.symm.trans hauthenticates.pending) (by simp)
    rw [hauthenticates.others connection hother, h]

/-- Whatever has been dispatched came from a connection which is authenticated. -/
def Attributed (s : Endpoint) : Prop := ∀ d ∈ s.dispatched, s.peerOf d.connection = some (.authenticated d.peer)

theorem Attributed.next (h : s.Attributed) (step : Step) : (s.next base64 step).Attributed := by
  intro d hd
  have hnext : d ∈ s.dispatched ∨ s.peerOf d.connection = some (.authenticated d.peer) := by
    rcases next_cases s base64 step with hcalm | ⟨_, _, _, hauthenticates⟩
    · rcases hcalm.dispatched with hsame | ⟨known, peer, frame, hpeer, hmore⟩
      · exact .inl (hsame ▸ hd)
      · rw [hmore] at hd
        rcases List.mem_cons.mp hd with rfl | hold
        · exact .inr hpeer
        · exact .inl hold
    · exact .inl (hauthenticates.dispatched ▸ hd)
  rcases hnext with hold | hpeer
  · exact peerOf_next (h d hold) step
  · exact peerOf_next hpeer step

end Steps

/-! ### Runs -/

/-- The endpoint after the steps. -/
def reached (base64 : Base64) (registry : TrustedPeerRegistry) (steps : List Step) : Endpoint :=
  run (next · base64 ·) (start registry) steps

section Runs

variable {base64 : Base64} {registry : TrustedPeerRegistry} {steps : List Step}

theorem attributed_run (base64 : Base64) (registry : TrustedPeerRegistry) (steps : List Step) :
    (reached base64 registry steps).Attributed :=
  run_invariant (fun _ step h => h.next step) (by simp [Attributed, start]) steps

theorem peerOf_run (base64 : Base64) {s : Endpoint} {connection : ℕ} {peer : ConnectionPeer}
    (h : s.peerOf connection = some peer) (steps : List Step) :
    (run (next · base64 ·) s steps).peerOf connection = some peer :=
  run_invariant (I := fun s : Endpoint => s.peerOf connection = some peer)
    (fun _ step h => peerOf_next h step) h steps

/-- An authenticated connection had its handshake, and its certificate was in the registry then. -/
theorem authenticated_run {connection : ℕ} {peer : AuthenticatedPeer}
    (h : (reached base64 registry steps).peerOf connection = some (.authenticated peer)) :
    ∃ before certificate after trusted, steps = before ++ .handshake connection (some certificate) :: after ∧
      trusted ∈ (reached base64 registry before).registry.peers ∧ trusted.certificate = certificate ∧
      peer.peerId = trusted.peerId ∧ peer.role = trusted.role ∧ peer.trustRevision = trusted.trustRevision := by
  obtain ⟨before, step, after, hsteps, hbefore, hafter⟩ :=
    run_origin (P := fun s : Endpoint => s.peerOf connection = some (.authenticated peer))
      (by simp [start, peerOf]) h
  rcases next_cases _ base64 step with hcalm | ⟨known, certificate, rfl, hauthenticates⟩
  · exact absurd ((hcalm.peers connection).symm.trans hafter) hbefore
  · obtain rfl : known = connection := by
      by_contra hother
      exact hbefore ((hauthenticates.others connection hother).symm.trans hafter)
    obtain ⟨entry, _, hpeer⟩ := hauthenticates.peer
    have hknown := Option.some.inj (hpeer.symm.trans hafter)
    unfold connectionPeer at hknown
    split at hknown
    · rename_i answer hanswer
      obtain rfl : answer = peer := by simpa using hknown
      obtain ⟨shown, rfl, hauthenticate⟩ := Option.bind_eq_some_iff.mp hanswer
      obtain ⟨trusted, hmem, hcertificate, rfl⟩ := TrustedPeerRegistry.authenticate_eq_some hauthenticate
      exact ⟨before, shown, after, trusted, hsteps, hmem, hcertificate, rfl, rfl, rfl⟩
    · cases hknown

/-- A connection whose certificate is not in the registry at its handshake stays without a trusted peer. -/
theorem unauthenticated_run {before after : List Step} {connection : ℕ} {certificate : List UInt8}
    {entry : Connection} (hentry : (reached base64 registry before).connections[connection]? = some entry)
    (hnone : entry.peer = none) (hopen : entry.closed = false)
    (hheld : ¬ (reached base64 registry before).registry.Holds certificate) (peer : AuthenticatedPeer) :
    (reached base64 registry (before ++ .handshake connection (some certificate) :: after)).peerOf connection ≠
      some (.authenticated peer) := by
  have hnext := handshake_refused base64 hentry hnone hopen hheld
  have hlast := peerOf_run base64 hnext after
  unfold reached at hlast ⊢
  rw [run_append, run_cons]
  intro hauthenticated
  exact absurd (hlast.symm.trans hauthenticated) (by simp)

end Runs

end Endpoint

open Endpoint in
/-- Whom the application hears. -/
structure Vouched (base64 : Base64) (registry : TrustedPeerRegistry) (steps : List Step) : Prop where
  /-- A frame comes from a connection whose certificate was in the registry at the
  handshake, as the peer it had there. -/
  authenticated : ∀ d ∈ (reached base64 registry steps).dispatched,
    ∃ before certificate after trusted, steps = before ++ .handshake d.connection (some certificate) :: after ∧
      trusted ∈ (reached base64 registry before).registry.peers ∧ trusted.certificate = certificate ∧
      d.peer.peerId = trusted.peerId ∧ d.peer.role = trusted.role ∧ d.peer.trustRevision = trusted.trustRevision
  /-- A connection whose certificate is not in the registry at its handshake has no frame dispatched. -/
  refused : ∀ before connection certificate after entry,
    steps = before ++ .handshake connection (some certificate) :: after →
    (reached base64 registry before).connections[connection]? = some entry → entry.peer = none →
    entry.closed = false → ¬ (reached base64 registry before).registry.Holds certificate →
    ∀ d ∈ (reached base64 registry steps).dispatched, d.connection ≠ connection

/-- **Frames come from connections which were authenticated.**  In every run, with the
registry replaced at any moment. -/
theorem dispatched_from_authenticated (base64 : Endpoint.Base64) (registry : TrustedPeerRegistry)
    (steps : List Endpoint.Step) : Vouched base64 registry steps where
  authenticated := fun d hd => Endpoint.authenticated_run (Endpoint.attributed_run base64 registry steps d hd)
  refused := by
    rintro before connection certificate after entry rfl hentry hnone hopen hheld d hd rfl
    exact Endpoint.unauthenticated_run hentry hnone hopen hheld d.peer
      (Endpoint.attributed_run base64 registry _ d hd)

/-- The law as one would wish it: the certificate is in the registry when the frame is dispatched. -/
def PromptlyRevoked (base64 : Endpoint.Base64) (registry : TrustedPeerRegistry)
    (steps : List Endpoint.Step) : Prop :=
  ∀ d ∈ (Endpoint.reached base64 registry steps).dispatched, ∃ entry certificate,
    (Endpoint.reached base64 registry steps).connections[d.connection]? = some entry ∧
      entry.certificate = some certificate ∧ d.registry.Holds certificate

/-! A client which is paired with a desk, whose connection outlives the reset. -/

namespace Sample

def base64 : Endpoint.Base64 where
  encode := fun _ => "AAAA"
  decode
    | "AAAA" => .ok [0, 0, 0]
    | _ => .error "Invalid padding"

def layout : Discovery.LayoutState where
  devices := []
  inputMode := "receive"
  machineRole := "client"
  clusterId := "group"
  pairSecret := "secret"
  pairedControllers := []
  trustedPeers := [⟨"peer-desk", "AAAA", "controller", 1, 0⟩]
  transportPort := 47833
  quicPort := 47834

def steps : List Endpoint.Step :=
  [.replaceTrustedPeers (Pairing.quicTrustedPeers layout), .accept (.v4 0x0A000001 47834),
    .handshake 0 (some [0, 0, 0]),
    .replaceTrustedPeers (Pairing.quicTrustedPeers (Pairing.withoutControllers layout)), .datagram 0 [1] "client"]

end Sample

theorem not_promptlyRevoked : ¬ ∀ base64 registry steps, PromptlyRevoked base64 registry steps := by
  intro h
  have hdispatched : (Endpoint.reached Sample.base64 .empty Sample.steps).dispatched.map (·.connection) = [0] := by
    decide +kernel
  have hcertificate : (Endpoint.reached Sample.base64 .empty Sample.steps).connections[0]?.bind (·.certificate) =
      some [0, 0, 0] := by decide +kernel
  have hgone : ∀ d ∈ (Endpoint.reached Sample.base64 .empty Sample.steps).dispatched,
    ¬ d.registry.Holds [0, 0, 0] := by
    decide +kernel
  obtain ⟨d, hd, hzero⟩ := List.mem_map.mp (hdispatched.symm ▸ List.mem_singleton_self 0 :
    0 ∈ (Endpoint.reached Sample.base64 .empty Sample.steps).dispatched.map (·.connection))
  obtain ⟨entry, certificate, hentry, hshown, hheld⟩ := h Sample.base64 .empty Sample.steps d hd
  rw [hzero] at hentry
  rw [hentry] at hcertificate
  obtain rfl : certificate = [0, 0, 0] := Option.some.inj (hshown.symm.trans hcertificate)
  exact hgone d hd hheld

end MyKvm.Transport
