import Mathlib.Data.List.Pairwise
import MyKvm.Pairing.Completion
import MyKvm.Pairing.Confirm
import MyKvm.Settings.Normal

/-!
# MyKvm.Pairing.BothSides — the server's pairing and the client's

The server takes a pairing for made when its confirmation has been acknowledged and the probe has been answered.
The client acknowledges a confirmation when it has recorded the pairing.  Between the two are the datagrams, which
anybody may send, and the connection, which is pinned to a certificate.

* `Serves`: the other end of the connections to the client's certificate is the client.
* `joined_of_accepted`: what the client has recorded when it acknowledges.
* `pairing_both_sides`: when the server is done, the client is.
-/

namespace MyKvm.Pairing

open MyKvm.Lib MyKvm.Lib.Fallible MyKvm.Discovery MyKvm.Transport MyKvm.Receiver

/-! ### The client -/

/-- What the client is asked at: what it says about itself, the answer of its disk and its clocks. -/
structure Moment where
  machine : LocalMachine
  written : Except String Unit
  now : ℕ
  nowMs : UInt64

def handlePairingStreamPacket (moment : Moment) (wire : Option DiscoveryPacket) (sourceIp : String) (s : Machine) :
    Bool × Machine :=
  match decodeDiscoveryPacket wire with
  | none => (false, s)
  | some packet =>
    if packet.kind ≠ "pair-confirm" then (false, s) else
    let localPeerId := (localPeerFromLayout moment.machine s.layout moment.nowMs).id
    match peerFromDiscoveryPacket packet sourceIp localPeerId moment.nowMs with
    | none => (false, s)
    | some incoming =>
      match (completePairingFromConfirm moment.written
          ⟨incoming.peer, incoming.pairingCode, incoming.pairClusterId, incoming.pairSecret⟩ moment.now
          moment.nowMs).exec s with
      | (.ok (), s) => (true, syncLayoutPeerPresence (mergePeer s incoming.peer moment.nowMs) moment.nowMs)
      | (.error _, s) => (false, s)

/-- `on_stream`, on a connection whose certificate the registry does not know: there is nothing but pairing. -/
def onStreamUnauthenticated (decode : String → Except String (List UInt8)) (moment : Moment)
    (wire : Option DiscoveryPacket) (sourceIp : String) (presentedCertificate : Option String) (s : Machine) :
    Bool × Machine :=
  if !pairingConfirmationMatchesPresentedCertificate wire presentedCertificate then (false, s) else
  match handlePairingStreamPacket moment wire sourceIp s with
  | (false, s) => (false, s)
  | (true, s) =>
    let (registry, answer) := s.registry.replace decode (quicTrustedPeers s.layout)
    (answer.isOk, { s with registry })

/-- What goes back over the stream: `ok`, or `reject`. -/
def streamAck (accepted : Bool) : List UInt8 :=
  if accepted then [0x6F, 0x6B] else [0x72, 0x65, 0x6A, 0x65, 0x63, 0x74]

/-! ### The record in the registry -/

section Registry

variable {decode : String → Except String (List UInt8)}

theorem authenticate_of_mem {registry : TrustedPeerRegistry} {peer : DecodedTrustedPeer}
    (h : peer ∈ registry.peers)
    (addr : SocketAddr) (generation : UInt64) : registry.authenticate peer.certificate addr generation =
      some ⟨peer.peerId, peer.role, peer.trustRevision, generation, addr⟩ := by
  cases hanswer : registry.authenticate peer.certificate addr generation with
  | none =>
    obtain hnone := Option.map_eq_none_iff.mp hanswer
    exact absurd (List.find?_eq_none.mp hnone peer h) (by simp)
  | some answer =>
    obtain ⟨found, hfound, hcertificate, rfl⟩ := TrustedPeerRegistry.authenticate_eq_some hanswer
    -- no certificate occurs twice
    obtain rfl : found = peer := by
      by_contra hne
      have : Std.Symm fun p q : DecodedTrustedPeer => p.peerId ≠ q.peerId ∧ p.certificate ≠ q.certificate :=
        ⟨fun _ _ h => ⟨h.1.symm, h.2.symm⟩⟩
      exact (registry.admissible.distinct.forall hfound h hne).2 hcertificate
    rfl

/-- The registry tells whoever shows this certificate by the identity and the role. -/
def Knows (decode : String → Except String (List UInt8)) (registry : TrustedPeerRegistry)
    (id certificate : String) (role : PeerRole) : Prop :=
  ∃ bytes, decode certificate = .ok bytes ∧ ∀ addr generation, ∃ answer,
    registry.authenticate bytes addr generation = some answer ∧ answer.peerId = id ∧ answer.role = role

/-- Once the registry has taken the list, it knows the peer of every record. -/
theorem knows_of_record {registry replaced : TrustedPeerRegistry} {layout : LayoutState}
    {record : TrustedPeerRecord} (h : registry.replace decode (quicTrustedPeers layout) = (replaced, .ok ()))
    (hrecord : record ∈ layout.trustedPeers) {role : PeerRole}
    (hrole : (record.role = "controller" ∧ role = .controller) ∨ (record.role = "receiver" ∧ role = .receiver)) :
    Knows decode replaced record.id record.transportPublicKey role := by
  have hentry : (⟨record.id, record.transportPublicKey, role, record.trustRevision⟩ : TrustedPeer) ∈
      quicTrustedPeers layout := by
    refine List.mem_filterMap.mpr ⟨record, hrecord, ?_⟩
    rcases hrole with ⟨hname, rfl⟩ | ⟨hname, rfl⟩ <;> simp [hname]
  obtain ⟨heq, hall⟩ := TrustedPeerRegistry.decoded_eq (TrustedPeerRegistry.replace_eq_ok.mp h)
  obtain ⟨bytes, hbytes⟩ := hall _ hentry
  have hmem := List.mem_map_of_mem (f := TrustedPeerRegistry.decodedOf decode) hentry
  rw [← heq] at hmem
  have hdecodes := TrustedPeerRegistry.decodes_of_eq_ok hbytes
  obtain hcertificate := Except.ok.inj (hbytes.symm.trans hdecodes.certificate)
  refine ⟨bytes, hbytes, fun addr generation => ?_⟩
  rw [hcertificate]
  exact ⟨_, authenticate_of_mem hmem addr generation, rfl, rfl⟩

end Registry

/-! ### What the client has recorded -/

/-- What a server says of itself in a confirmation. -/
structure Offer where
  id : String
  certificate : String
  clusterId : String
  pairSecret : String
  code : String

def Confirm.offer (confirm : Confirm) : Offer :=
  { id := confirm.requester.id, certificate := confirm.requester.transportPublicKey
    clusterId := confirm.clusterId.getD "", pairSecret := confirm.pairSecret.getD "",
      code := confirm.code.getD "" }

def offerOf (packet : DiscoveryPacket) : Offer :=
  { id := packet.peer.id, certificate := packet.peer.transportPublicKey
    clusterId := packet.pairClusterId.getD "", pairSecret := packet.pairSecret.getD ""
    code := packet.pairingCode.getD "" }

/-- The client has shown this code for this server, and the challenge is spent. -/
structure Answered (offer : Offer) (now : ℕ) (before after : Machine) : Prop where
  shown : ∃ existing, before.challenge = some existing ∧ now < existing.expiresAt ∧
    existing.requesterId = offer.id ∧
    existing.code = trimmed offer.code
  spent : after.challenge = none

/-- The machine is in the group of the server, and takes its input. -/
structure Grouped (offer : Offer) (after : Machine) : Prop where
  clusterId : after.layout.clusterId = trimmed offer.clusterId
  pairSecret : after.layout.pairSecret = trimmed offer.pairSecret
  inputMode : after.layout.inputMode = "receive"

/-- One of the trusted peers is this one. -/
def Lists (s : Machine) (id certificate role : String) : Prop :=
  ∃ record ∈ s.layout.trustedPeers, record.id = id ∧ record.transportPublicKey = certificate ∧ record.role = role

theorem complete_records {written : Except String Unit} {confirm : Confirm} {now : ℕ} {nowMs : UInt64}
    {s : Machine} :
    Ensures (completePairingFromConfirm written confirm now nowMs) s
      (fun _ s' => Answered confirm.offer now s s' ∧ Grouped confirm.offer s' ∧
        Lists s' (trimmed confirm.offer.id) (trimmed confirm.offer.certificate) "controller")
          (fun _ _ => True) := by
  unfold completePairingFromConfirm
  refine Ensures.bind_act (Ensures.bind_lift (fun _ hchecked => ?_) (fun _ _ => trivial))
  obtain ⟨hcode, hcluster, hsecret, existing, hexisting, hopen, hid, hkey, hright⟩ :=
    checkConfirmation_ok_iff.mp hchecked
  refine Ensures.bind_act (Ensures.bind_lift (fun _ hrecorded => ?_) (fun _ _ => trivial))
  refine ensures_lift (fun _ _ => ?_) (fun _ _ => trivial)
  dsimp only at hrecorded ⊢
  have hspent : (checkConfirmation s.challenge confirm.requester (confirm.code.getD "") (confirm.clusterId.getD "")
      (confirm.pairSecret.getD "") now).1 = none := by
    have hsame : ¬ (existing.requesterId ≠ confirm.requester.id ∨ (isBlank existing.requesterPublicKey = false ∧
        existing.requesterPublicKey ≠ confirm.requester.transportPublicKey)) := by
      rintro (hne | ⟨hnamed, hne⟩)
      · exact hne hid
      · exact hne (hkey hnamed)
    unfold checkConfirmation
    rw [if_neg (by simp [hcode, hcluster, hsecret]), hexisting]
    dsimp only
    rw [if_neg (by omega), if_neg hsame, if_neg (not_not.mpr hright)]
  unfold recordPairing at hrecorded ⊢
  split at hrecorded
  · cases hrecorded
  rename_i hclient
  rw [if_neg hclient]
  dsimp only at hrecorded ⊢
  cases hupsert : upsertTrustedPeer s.layout.trustedPeers confirm.requester.id confirm.requester.transportPublicKey
      "controller" nowMs with
  | error error =>
    rw [hupsert] at hrecorded
    cases hrecorded
  | ok records =>
    obtain ⟨-, -, others, rfl, -⟩ := upsertTrustedPeer_ok hupsert
    exact ⟨⟨⟨existing, hexisting, hopen, hid, hright⟩, hspent⟩, ⟨rfl, rfl, rfl⟩, _,
      List.mem_append_right _ (List.mem_singleton_self _), rfl, rfl, rfl⟩

/-- The client records whomever an accepted packet names. -/
theorem handlePairing_records {moment : Moment} {packet : DiscoveryPacket} {sourceIp : String} {s s' : Machine}
    (h : handlePairingStreamPacket moment (some packet) sourceIp s = (true, s')) :
    Answered (offerOf packet) moment.now s s' ∧ Grouped (offerOf packet) s' ∧
      Lists s' (trimmed (offerOf packet).id) (trimmed (offerOf packet).certificate) "controller" := by
  unfold handlePairingStreamPacket at h
  cases hpacket : decodeDiscoveryPacket (some packet) with
  | none => simp [hpacket] at h
  | some decoded =>
    obtain rfl := Option.some.inj (Option.filter_eq_some_iff.mp hpacket).1
    simp only [hpacket] at h
    split at h
    · simp at h
    split at h
    · simp at h
    rename_i incoming hincoming
    unfold peerFromDiscoveryPacket at hincoming
    split at hincoming
    · cases hincoming
    obtain rfl := Option.some.inj hincoming
    split at h
    · rename_i recorded hexec
      obtain ⟨-, rfl⟩ := Prod.mk.inj h
      -- the presence of the peers touches nothing of the pairing
      obtain ⟨hanswered, hgrouped, hlists⟩ := complete_records.ok hexec
      exact ⟨⟨hanswered.shown, hanswered.spent⟩,
        ⟨hgrouped.clusterId, hgrouped.pairSecret, hgrouped.inputMode⟩, hlists⟩
    · simp at h

/-- **What an acknowledgment means**: the client has joined the group of whomever the packet names, and
knows it by its certificate. -/
theorem joined_of_accepted {decode : String → Except String (List UInt8)} {moment : Moment}
    {packet : DiscoveryPacket} {sourceIp : String} {presentedCertificate : Option String} {s s' : Machine}
    (h : onStreamUnauthenticated decode moment (some packet) sourceIp presentedCertificate s = (true, s')) :
    Answered (offerOf packet) moment.now s s' ∧ Grouped (offerOf packet) s' ∧
      Knows decode s'.registry (trimmed (offerOf packet).id) (trimmed (offerOf packet).certificate) .controller ∧
      presentedCertificate = some (offerOf packet).certificate := by
  unfold onStreamUnauthenticated at h
  split at h
  · simp at h
  rename_i hmatches
  split at h
  · simp at h
  rename_i recorded hhandled
  obtain ⟨hanswered, hgrouped, record, hrecord, hid, hcertificate, hrole⟩ := handlePairing_records hhandled
  have hpresented : presentedCertificate = some (offerOf packet).certificate := by
    unfold pairingConfirmationMatchesPresentedCertificate at hmatches
    split at hmatches
    · rename_i certificate decoded hpacket
      obtain rfl := Option.some.inj (Option.filter_eq_some_iff.mp hpacket).1
      have hmatch : packet.peer.transportPublicKey = certificate := by
        simp only [Bool.not_eq_true', Bool.not_eq_false, Bool.and_eq_true, decide_eq_true_eq] at hmatches
        exact hmatches.2
      rw [← hmatch]
      rfl
    · simp at hmatches
  cases hreplace : recorded.registry.replace decode (quicTrustedPeers recorded.layout) with
  | mk registry answer =>
    rw [hreplace] at h
    obtain ⟨hanswer, rfl⟩ := Prod.mk.inj h
    cases answer with
    | error error => cases hanswer
    | ok _ =>
      have hknows := knows_of_record hreplace hrecord (.inl ⟨hrole, rfl⟩)
      rw [hid, hcertificate] at hknows
      exact ⟨⟨hanswered.shown, hanswered.spent⟩,
        ⟨hgrouped.clusterId, hgrouped.pairSecret, hgrouped.inputMode⟩, hknows, hpresented⟩

/-! ### Both sides -/

section Both

variable {decode : String → Except String (List UInt8)}

/-- The other end of the connections to this certificate answers for what the client
does, and reads what is sent. -/
structure Serves (network : Network decode) (read : List UInt8 → Option DiscoveryPacket) (certificate : List UInt8)
    (client : Option DiscoveryPacket → Bool) : Prop where
  reads : ∀ packet payload, network.encode packet = .ok payload → read payload = some packet
  acks : ∀ connection payload bytes, connection.certificate = certificate →
    network.readAck connection payload = .ok bytes → bytes = streamAck (client (read payload))

/-- What the server offers when it confirms. -/
def Turn.offer (turn : Turn) (code : String) : Offer :=
  { id := turn.localPeer.id, certificate := turn.localPeer.transportPublicKey, clusterId := turn.layout.clusterId
    pairSecret := turn.layout.pairSecret, code }

theorem streamAck_eq_ok {accepted : Bool} (h : streamAck accepted = [0x6F, 0x6B]) : accepted = true := by
  cases accepted
  · exact absurd h (by decide)
  · rfl

theorem sendStreamExpectAck_ok {network : Network decode} {endpoint : PeerEndpoint} {payload : List UInt8}
    {used : { connection : Connection decode // connection.publicKey = endpoint.publicKey }}
    (h : sendStreamExpectAck network endpoint payload = .ok used) :
    network.readAck used.val payload = .ok [0x6F, 0x6B] := by
  unfold sendStreamExpectAck at h
  obtain ⟨_, _, h⟩ := Protocol.bind_eq_ok.mp h
  obtain ⟨addr, _, h⟩ := Protocol.bind_eq_ok.mp h
  -- over whichever connection the stream goes
  have hrest : ∀ connection,
    (do verifyStreamAck network (← network.readAck connection.val payload); return connection) =
      Except.ok used → network.readAck used.val payload = .ok [0x6F, 0x6B] := by
    intro connection h
    obtain ⟨bytes, hbytes, h⟩ := Protocol.bind_eq_ok.mp h
    obtain ⟨_, hverified, h⟩ := Protocol.bind_eq_ok.mp h
    obtain rfl : connection = used := Except.ok.inj h
    unfold verifyStreamAck at hverified
    split at hverified
    · rename_i hok
      rw [hbytes, hok]
    · cases hverified
  dsimp only at h
  split at h
  · obtain ⟨connection, _, h⟩ := Protocol.bind_eq_ok.mp h
    exact hrest connection h
  · obtain ⟨connection, _, h⟩ := Protocol.bind_eq_ok.mp h
    exact hrest connection h

/-- The server goes on only after the confirmation has been acknowledged. -/
theorem confirmPairingForPeer_acknowledged {network : Network decode} {localPeer : LanPeer} {pairSecret : String}
    {input : Confirmation} {nowMs : UInt64} {peer : LanPeer} {connection : Connection decode}
    (h : confirmPairingForPeer network localPeer pairSecret input nowMs = .ok (peer, connection)) :
    ∃ payload, network.encode (pairConfirmPacket localPeer pairSecret input.code nowMs) = .ok payload ∧
      network.readAck connection payload = .ok [0x6F, 0x6B] := by
  unfold confirmPairingForPeer at h
  obtain ⟨challengePeer, _, h⟩ := Protocol.bind_eq_ok.mp h
  obtain ⟨_, _, h⟩ := Protocol.bind_eq_ok.mp h
  obtain ⟨payload, hpayload, h⟩ := Protocol.bind_eq_ok.mp h
  obtain ⟨used, hsent, h⟩ := Protocol.bind_eq_ok.mp h
  obtain ⟨paired, _, h⟩ := Protocol.bind_eq_ok.mp h
  obtain ⟨_, _, h⟩ := Protocol.bind_eq_ok.mp h
  obtain ⟨-, rfl⟩ : paired = peer ∧ used.val = connection := by simpa [pure, Except.pure] using h
  refine ⟨payload, hpayload, ?_⟩
  unfold sendPairConfirm at hsent
  split at hsent
  · rename_i acknowledged hacknowledged
    obtain rfl := Except.ok.inj hsent
    exact sendStreamExpectAck_ok hacknowledged
  · cases hsent

/-- A peer which is stored is known to the registry. -/
theorem storeTrustedPeer_knows {written : Except String Unit} {peer : LanPeer} {nowMs : UInt64} {s : Machine} :
    Ensures (storeTrustedPeer decode written peer nowMs) s
      (fun _ s' => Knows decode s'.registry (trimmed peer.id) (trimmed peer.transportPublicKey) .receiver)
      (fun _ _ => True) := by
  unfold storeTrustedPeer
  refine Ensures.bind_act (Ensures.bind_lift (fun trustedPeers hupsert => ?_) (fun _ _ => trivial))
  obtain ⟨-, -, others, rfl, -⟩ := upsertTrustedPeer_ok hupsert
  refine Ensures.bind_act (Ensures.bind_lift (fun _ _ => ?_) (fun _ _ => trivial))
  refine Ensures.bind_act (ensures_lift (fun _ haccepted => ?_) (fun _ _ => trivial))
  exact knows_of_record (Prod.ext rfl haccepted) (List.mem_append_right _ (List.mem_singleton_self _))
    (.inr ⟨rfl, rfl⟩)

theorem confirmLanPairing_knows {network : Network decode} {started written : Except String Unit} {turn : Turn}
    {input : Confirmation} {s : Machine} :
    Ensures (confirmLanPairing network started written turn input) s
      (fun answer s' => turn.layout.machineRole = "server" ∧
        confirmPairingForPeer network turn.localPeer turn.layout.pairSecret input turn.nowMs = .ok answer ∧
        Knows decode s'.registry (trimmed answer.1.id) (trimmed answer.1.transportPublicKey) .receiver)
      (fun _ _ => True) := by
  unfold confirmLanPairing
  iterate 3 refine Ensures.bind_lift (fun _ _ => ?_) (fun _ _ => trivial)
  refine Ensures.bind_lift (fun _ hallowed => ?_) (fun _ _ => trivial)
  have hrole : turn.layout.machineRole = "server" := by
    by_contra hne
    simp [refuse, hne] at hallowed
  refine Ensures.bind_lift (fun _ _ => ?_) (fun _ _ => trivial)
  refine Ensures.bind_lift (fun confirmed hconfirm => ?_) (fun _ _ => trivial)
  refine storeTrustedPeer_knows.bind fun _ s' hknows => Ensures.bind_act ?_
  exact ensures_pure ⟨hrole, hconfirm, hknows⟩

/-- A server advertises its group. -/
theorem localPeer_clusterId {turn : Turn} (h : turn.layout.machineRole = "server") :
    turn.localPeer.clusterId = turn.layout.clusterId := by
  have hadvertised : advertisedClusterId turn.layout = turn.layout.clusterId := by
    simp [advertisedClusterId, pairingRequired, h]
  unfold Turn.localPeer
  split <;> exact hadvertised

/-- **A pairing has two sides.**  When the server is done, over a connection which is pinned to the client's
certificate, the client is: it has shown the code for this server, it is in the server's group, and its registry
knows the certificate the server has presented as that of its controller.  If the probe was answered with the
certificate of the challenge, the server's registry knows the client's certificate as that of a receiver. -/
theorem pairing_both_sides {network : Network decode} {read : List UInt8 → Option DiscoveryPacket}
    {clientCertificate : List UInt8} {moment : Moment} {sourceIp : String} {presentedCertificate : Option String}
    {client : Machine}
    (hserves : Serves network read clientCertificate fun wire =>
      (onStreamUnauthenticated decode moment wire sourceIp presentedCertificate client).1)
    {started written : Except String Unit} {turn : Turn} {input : Confirmation} {server server' : Machine}
    {peer : LanPeer} {connection : Connection decode}
    (h : (confirmLanPairing network started written turn input).exec server = (.ok (peer, connection), server'))
    (hpinned : connection.certificate = clientCertificate) :
    ∃ payload client', onStreamUnauthenticated decode moment (read payload) sourceIp presentedCertificate client =
        (true, client') ∧
      Answered (Turn.offer turn input.code) moment.now client client' ∧
      Grouped (Turn.offer turn input.code) client' ∧
      Knows decode client'.registry (trimmed turn.localPeer.id)
        (trimmed turn.localPeer.transportPublicKey) .controller ∧
      presentedCertificate = some turn.localPeer.transportPublicKey ∧
      (SameCertificate decode turn.localPeer input → ∃ certificate, decode certificate = .ok clientCertificate ∧
        Knows decode server'.registry (trimmed peer.id) certificate .receiver) := by
  obtain ⟨hrole, hconfirm, hknows⟩ := confirmLanPairing_knows.ok h
  obtain ⟨payload, hpayload, hack⟩ := confirmPairingForPeer_acknowledged hconfirm
  have haccepted := streamAck_eq_ok (hserves.acks connection payload _ hpinned hack).symm
  have hread := hserves.reads _ _ hpayload
  have hclient := Prod.ext (y := (true, _)) haccepted rfl
  rw [hread] at hclient
  obtain ⟨⟨⟨existing, hexisting, hopen, hid, hcode⟩, hspent⟩, ⟨hcluster, hsecret, hmode⟩, hcontroller,
    hpresented⟩ :=
    joined_of_accepted hclient
  refine ⟨payload, _, hread ▸ hclient, ⟨⟨existing, hexisting, hopen, hid, ?_⟩, hspent⟩,
    ⟨?_, ?_, hmode⟩, hcontroller, hpresented, fun hsame => ⟨_, ?_, hknows⟩⟩
  · rw [hcode]
    exact Settings.trimmed_trimmed _
  · rw [hcluster]
    exact congrArg trimmed (localPeer_clusterId hrole)
  · rw [hsecret]
    exact Settings.trimmed_trimmed _
  · obtain ⟨challengePeer, hchallenge, hdecoded, hprobe⟩ := confirmPairingForPeer_ok hconfirm
    obtain ⟨challenge, hfirst, rfl⟩ := requestPairingForPeer_eq_ok.mp hchallenge
    obtain ⟨reply, hreply, rfl⟩ := probeForPeer_eq_ok.mp hprobe
    rw [hsame challenge reply hfirst hreply, hdecoded, hpinned]

end Both

/-! The server and the client of the small network, both at work. -/

namespace BothSample

def decode : String → Except String (List UInt8)
  | "AAAA" => .ok [0, 0, 0]
  | "AAEC" => .ok [0, 1, 2]
  | _ => .error "Invalid padding"

def confirmation : DiscoveryPacket :=
  pairConfirmPacket Sample.turn.localPeer Sample.turn.layout.pairSecret Sample.honest.code Sample.turn.nowMs

def moment : Moment where
  machine := { deviceName := "mac", hostname := some "mac", ipAddress := some "10.0.0.2", platform := "macos",
               appVersion := "1.0.0" }
  written := .ok ()
  now := 1000
  nowMs := 2000

/-- The client shows the code to the server. -/
def client : Machine where
  layout := { Sample.layout with machineRole := "client", clusterId := "own", pairSecret := "own-secret" }
  peers := []
  challenge := some
    { code := "012345", requesterId := Sample.turn.localPeer.id, requesterName := "desk",
      requesterIp := "10.0.0.1",
      requesterHost := "desk", requesterPublicKey := "AAEC", requesterProtocolVersion := 1, expiresAt := 60000,
      expiresAtMs := 61000, attempts := 0 }
  drawn := 1
  registry := .empty

def answer (wire : Option DiscoveryPacket) : Bool × Machine :=
  onStreamUnauthenticated decode moment wire "10.0.0.1" (some "AAEC") client

def network : Network decode where
  encode := fun packet => if packet = confirmation then .ok [] else .error "not sent here"
  admits := fun _ _ => .ok ()
  resolvePeerAddr := fun _ => .ok (.v4 0x0A000002 47834)
  connections := fun _ _ => none
  handshake := fun _ => .ok [0, 0, 0]
  readAck := fun _ _ => .ok (streamAck (answer (some confirmation)).1)
  utf8Lossy := fun _ => ""

theorem serves : Serves network (fun _ => some confirmation) [0, 0, 0] fun wire => (answer wire).1 where
  reads := by
    intro packet payload hencode
    by_cases hpacket : packet = confirmation
    · rw [hpacket]
    · simp [network, hpacket] at hencode
  acks := fun _ _ _ _ hack => (Except.ok.inj hack).symm

def run : Except String (LanPeer × Connection decode) × Machine :=
  (confirmLanPairing network (.ok ()) (.ok ()) Sample.turn Sample.honest).exec Sample.machine

end BothSample

theorem pairing_both_sides_honest : ∃ peer connection server' client',
    BothSample.run = (.ok (peer, connection), server') ∧
      BothSample.answer (some BothSample.confirmation) = (true, client') ∧
      Grouped (Turn.offer Sample.turn "012345") client' := by
  have hcertificate : BothSample.run.1.toOption.map (·.2.certificate) = some [0, 0, 0] := by decide +kernel
  cases hrun : BothSample.run with
  | mk outcome server' =>
    rw [hrun] at hcertificate
    cases outcome with
    | error error => cases hcertificate
    | ok outcome =>
      obtain ⟨payload, client', hclient, -, hgrouped, -⟩ :=
        pairing_both_sides BothSample.serves hrun (Option.some.inj hcertificate)
      exact ⟨outcome.1, outcome.2, server', client', rfl, hclient, hgrouped⟩

end MyKvm.Pairing
