import MyKvm.Discovery.Loop
import MyKvm.Lib.Fallible

/-!
# MyKvm.Pairing.Confirm — the server confirms a pairing

The user of the server has read the code on the client's screen.  The server asks for the challenge once more,
sends the code over QUIC to whoever has answered, on a connection which is pinned to the certificate of that
answer, and probes the client again; the peer of this second answer is the one which it trusts from then on.  The
answers come as unauthenticated datagrams.

* `confirmLanPairing_records_pinned`: when the certificate which is stored is the one which was pinned.
-/

namespace MyKvm.Pairing

open MyKvm.Lib MyKvm.Lib.Fallible MyKvm.Discovery MyKvm.Transport MyKvm.Receiver

structure PeerEndpoint where
  addr : String
  publicKey : String
  protocolVersion : UInt16
  deriving DecidableEq

section

variable {decode : String → Except String (List UInt8)}

/-- A connection of the transport, in the map under its address and its key; the certificate is the one to which
`PinnedCertVerifier` has held the handshake. -/
structure Connection (decode : String → Except String (List UInt8)) where
  addr : SocketAddr
  publicKey : String
  certificate : List UInt8
  pinned : decode publicKey = .ok certificate

/-- What the transport finds outside, and its libraries. -/
structure Network (decode : String → Except String (List UInt8)) where
  encode : DiscoveryPacket → Except String (List UInt8)
  /-- The limits on size, memory, time and failures which a stream has to pass. -/
  admits : PeerEndpoint → List UInt8 → Except String Unit
  resolvePeerAddr : String → Except String SocketAddr
  /-- The connections which are open. -/
  connections : SocketAddr → (publicKey : String) →
    Option { connection : Connection decode // connection.publicKey = publicKey }
  /-- The certificate of which a server proves possession in the handshake. -/
  handshake : SocketAddr → Except String (List UInt8)
  /-- The bytes which come back on the stream. -/
  readAck : Connection decode → List UInt8 → Except String (List UInt8)
  utf8Lossy : List UInt8 → String

/-! ### The transport -/

def establishConnection (network : Network decode) (peer : PeerEndpoint) (addr : SocketAddr) :
    Except String { connection : Connection decode // connection.publicKey = peer.publicKey } :=
  if peer.protocolVersion ≠ protocolVersion then
    .error ("unsupported peer transport protocol version " ++ Nat.repr peer.protocolVersion.toNat)
  else match hpinned : decode peer.publicKey with
    | .error error => .error ("invalid peer transport public key: " ++ error)
    | .ok pinned => match network.handshake addr with
      | .error error => .error error
      | .ok certificate =>
        if certificate = pinned then .ok ⟨⟨addr, peer.publicKey, pinned, hpinned⟩, rfl⟩
        else .error "peer certificate does not match the pinned transport certificate"

def verifyStreamAck (network : Network decode) (bytes : List UInt8) : Except String Unit :=
  if bytes = [0x6F, 0x6B] then .ok ()
  else .error ("QUIC stream receiver rejected payload: " ++ network.utf8Lossy bytes)

/-- The connection over which the payload was acknowledged; the source does not return it. -/
def sendStreamExpectAck (network : Network decode) (peer : PeerEndpoint) (payload : List UInt8) :
    Except String { connection : Connection decode // connection.publicKey = peer.publicKey } := do
  network.admits peer payload
  let addr ← network.resolvePeerAddr peer.addr
  let connection ← match network.connections addr peer.publicKey with
    | some connection => .ok connection
    | none => establishConnection network peer addr
  verifyStreamAck network (← network.readAck connection payload)
  return connection

/-! ### The pairing -/

def maxIpcHostBytes : ℕ := 253

/-- `char::is_control` -/
def isControl (c : Char) : Bool := c.toNat < 0x20 || (0x7F ≤ c.toNat && c.toNat < 0xA0)

def validatePeerHostInput (host : String) : Except String Unit :=
  if isBlank host || maxIpcHostBytes < (trimmed host).utf8ByteSize || (trimmed host).toList.any isControl then
    .error "设备地址为空、过长或包含控制字符。"
  else .ok ()

def validatePairingCodeInput (code : String) : Except String Unit :=
  if code.utf8ByteSize ≠ 6 || !code.toList.all Char.isDigit then .error "配对验证码必须是 6 位数字。" else .ok ()

/-- The user's input, and what arrives at the two sockets; `target` and `hint` are how the errors name the host. -/
structure Confirmation where
  host : String
  code : String
  target : String
  hint : String
  challengeAnswers : List Answer
  probeAnswers : List Answer
  deriving DecidableEq

def pairConfirmPacket (localPeer : LanPeer) (pairSecret code : String) (nowMs : UInt64) : DiscoveryPacket where
  protocol := discoveryProtocol
  kind := "pair-confirm"
  peer := { localPeer with lastSeenMs := nowMs }
  pairingCode := some (trimmed code)
  pairClusterId := some localPeer.clusterId
  pairSecret := some (trimmed pairSecret)
  pairingError := none

def refuse (bad : Bool) (error : String) : Except String Unit := if bad then .error error else .ok ()

/-- The confirmation on its way, with what the error says about it. -/
def sendPairConfirm (network : Network decode) (endpoint : PeerEndpoint) (payload : List UInt8) :
    Except String { connection : Connection decode // connection.publicKey = endpoint.publicKey } :=
  match sendStreamExpectAck network endpoint payload with
  | .ok connection => .ok connection
  | .error error => .error ("failed to send encrypted pairing confirmation: " ++ error)

/-- The peer to trust, with the connection over which the code was accepted. -/
def confirmPairingForPeer (network : Network decode) (localPeer : LanPeer) (pairSecret : String)
    (input : Confirmation) (nowMs : UInt64) : Except String (LanPeer × Connection decode) := do
  let challengePeer ← requestPairingForPeer localPeer input.target input.challengeAnswers
  refuse (isBlank challengePeer.transportPublicKey || challengePeer.protocolVersion ≠ protocolVersion ||
    challengePeer.quicPort = 0) "客户端暂不支持安全配对确认，请升级客户端后重试。"
  let payload ← network.encode (pairConfirmPacket localPeer pairSecret input.code nowMs)
  let connection ← sendPairConfirm network
    { addr := challengePeer.ip ++ ":" ++ Nat.repr challengePeer.quicPort.toNat
      publicKey := challengePeer.transportPublicKey
      protocolVersion := challengePeer.protocolVersion } payload
  let pairedPeer ← probeForPeer localPeer input.hint input.probeAnswers
  refuse pairedPeer.pairingRequired "配对未被客户端接受，请检查验证码后重试。"
  return (pairedPeer, connection.val)

/-- The trusted peer is recorded, on the disk and in the registry too. -/
def storeTrustedPeer (decode : String → Except String (List UInt8)) (written : Except String Unit) (peer : LanPeer)
    (nowMs : UInt64) : Fallible Machine String Unit := do
  let trustedPeers ← lift (← act fun s =>
    (upsertTrustedPeer s.layout.trustedPeers peer.id peer.transportPublicKey "receiver" nowMs, s))
  act fun s => ((), { s with layout := { s.layout with trustedPeers } })
  lift written
  lift (← act fun s =>
    let (registry, answer) := s.registry.replace decode (quicTrustedPeers s.layout)
    (answer, { s with registry }))

/-- `started` and `written` are the answers of the discovery and of the disk. -/
def confirmLanPairing (network : Network decode) (started written : Except String Unit) (turn : Turn)
    (input : Confirmation) : Fallible Machine String (LanPeer × Connection decode) := do
  lift (validatePeerHostInput input.host)
  lift (validatePairingCodeInput input.code)
  lift started
  lift (refuse (turn.layout.machineRole ≠ "server") "只有服务端可以确认配对。")
  lift (refuse turn.transport.isNone "QUIC 传输未启动，无法安全确认配对。")
  let confirmed ← lift (confirmPairingForPeer network turn.localPeer turn.layout.pairSecret input turn.nowMs)
  storeTrustedPeer decode written confirmed.1 turn.nowMs
  act fun s => ((), syncLayoutPeerPresence (mergePeer s confirmed.1 turn.nowMs) turn.nowMs)
  return confirmed

/-! ### Which certificate is stored -/

/-- The first visible packet which arrives for the probe shows the certificate of the first usable challenge. -/
def SameCertificate (decode : String → Except String (List UInt8)) (localPeer : LanPeer)
    (input : Confirmation) : Prop :=
  ∀ challenge reply,
    First (fun incoming => incoming.kind = "pair-challenge" &&
      pairChallengeUsableForLocalPeer localPeer incoming.peer) (heard localPeer input.challengeAnswers) challenge →
    First (fun incoming => peerVisibleToLocalPeer localPeer incoming.peer)
    (heard localPeer input.probeAnswers) reply →
    decode (trimmed reply.peer.transportPublicKey) = decode challenge.peer.transportPublicKey

/-- The last trusted peer is this one, under the certificate to which the connection is pinned. -/
def RecordsPinned (s : Machine) (peer : LanPeer) (connection : Connection decode) : Prop :=
  ∃ record, s.layout.trustedPeers.getLast? = some record ∧ record.id = trimmed peer.id ∧ record.role = "receiver" ∧
    decode record.transportPublicKey = .ok connection.certificate

theorem confirmPairingForPeer_ok {network : Network decode} {localPeer : LanPeer} {pairSecret : String}
    {input : Confirmation} {nowMs : UInt64} {peer : LanPeer} {connection : Connection decode}
    (h : confirmPairingForPeer network localPeer pairSecret input nowMs = .ok (peer, connection)) :
    ∃ challengePeer, requestPairingForPeer localPeer input.target input.challengeAnswers = .ok challengePeer ∧
      decode challengePeer.transportPublicKey = .ok connection.certificate ∧
      probeForPeer localPeer input.hint input.probeAnswers = .ok peer := by
  unfold confirmPairingForPeer at h
  obtain ⟨challengePeer, hchallenge, h⟩ := Protocol.bind_eq_ok.mp h
  obtain ⟨_, _, h⟩ := Protocol.bind_eq_ok.mp h
  obtain ⟨payload, _, h⟩ := Protocol.bind_eq_ok.mp h
  obtain ⟨used, _, h⟩ := Protocol.bind_eq_ok.mp h
  obtain ⟨paired, hpaired, h⟩ := Protocol.bind_eq_ok.mp h
  obtain ⟨_, _, h⟩ := Protocol.bind_eq_ok.mp h
  obtain ⟨rfl, rfl⟩ : paired = peer ∧ used.val = connection := by simpa [pure, Except.pure] using h
  have hkey : used.val.publicKey = challengePeer.transportPublicKey := used.property
  exact ⟨challengePeer, hchallenge, (congrArg decode hkey).symm.trans used.val.pinned, hpaired⟩

/-- The record of the peer, wherever the flow stops after it. -/
def Stored (peer : LanPeer) (s : Machine) : Prop :=
  ∃ record, s.layout.trustedPeers.getLast? = some record ∧ record.id = trimmed peer.id ∧ record.role = "receiver" ∧
    record.transportPublicKey = trimmed peer.transportPublicKey

theorem storeTrustedPeer_stores {written : Except String Unit} {peer : LanPeer} {nowMs : UInt64} {s : Machine} :
    Ensures (storeTrustedPeer decode written peer nowMs) s (fun _ s' => Stored peer s') (fun _ _ => True) := by
  unfold storeTrustedPeer
  refine Ensures.bind_act (Ensures.bind_lift (fun trustedPeers hupsert => ?_) (fun _ _ => trivial))
  obtain ⟨_, _, others, rfl, _⟩ := upsertTrustedPeer_ok hupsert
  refine Ensures.bind_act (Ensures.bind_lift (fun _ _ => ?_) (fun _ _ => trivial))
  refine Ensures.bind_act (ensures_lift (fun _ _ => ?_) (fun _ _ => trivial))
  exact ⟨_, List.getLast?_concat, rfl, rfl, rfl⟩

theorem stored_sync {peer : LanPeer} {s : Machine} (h : Stored peer s) (merged : LanPeer) (nowMs : UInt64) :
    Stored peer (syncLayoutPeerPresence (mergePeer s merged nowMs) nowMs) := by
  have htrust : (syncLayoutPeerPresence (mergePeer s merged nowMs) nowMs).trust = s.trust := by simp
  have hrecords := congrArg Trust.trustedPeers htrust
  unfold Stored
  rw [show (syncLayoutPeerPresence (mergePeer s merged nowMs) nowMs).layout.trustedPeers = s.layout.trustedPeers
    from hrecords]
  exact h

theorem confirmLanPairing_stores {network : Network decode} {started written : Except String Unit} {turn : Turn}
    {input : Confirmation} {s : Machine} :
    Ensures (confirmLanPairing network started written turn input) s
      (fun answer s' => confirmPairingForPeer network turn.localPeer turn.layout.pairSecret input
        turn.nowMs = .ok answer ∧
        Stored answer.1 s') (fun _ _ => True) := by
  unfold confirmLanPairing
  iterate 5 refine Ensures.bind_lift (fun _ _ => ?_) (fun _ _ => trivial)
  refine Ensures.bind_lift (fun confirmed hconfirm => ?_) (fun _ _ => trivial)
  refine storeTrustedPeer_stores.bind ?_
  intro _ s' hstored
  refine Ensures.bind_act ?_
  exact ensures_pure ⟨hconfirm, stored_sync hstored confirmed.1 turn.nowMs⟩

/-- **The pairing records the certificate it has verified exactly when the probe is answered with it.**  Whatever
answers arrive, and whatever the network does: when the pairing succeeds, the record of the new peer has the
certificate to which the connection was pinned which took the code, if and only if the first visible answer to the
probe shows the certificate of the first usable challenge. -/
theorem confirmLanPairing_records_pinned {network : Network decode}
    {started written : Except String Unit} {turn : Turn}
    {input : Confirmation} {s s' : Machine} {peer : LanPeer} {connection : Connection decode}
    (h : (confirmLanPairing network started written turn input).exec s = (.ok (peer, connection), s')) :
    RecordsPinned s' peer connection ↔ SameCertificate decode turn.localPeer input := by
  obtain ⟨hconfirm, record, hlast, hid, hrole, hkey⟩ := confirmLanPairing_stores.ok h
  obtain ⟨challengePeer, hchallenge, hpinned, hprobe⟩ := confirmPairingForPeer_ok hconfirm
  constructor
  · rintro ⟨record', hlast', _, _, hcertificate⟩ challenge reply hfirst hreply
    obtain rfl : record = record' := Option.some.inj (hlast.symm.trans hlast')
    obtain rfl : challengePeer = challenge.peer :=
      Except.ok.inj (hchallenge.symm.trans (requestPairingForPeer_eq_ok.mpr ⟨challenge, hfirst, rfl⟩))
    obtain rfl : peer = reply.peer :=
      Except.ok.inj (hprobe.symm.trans (probeForPeer_eq_ok.mpr ⟨reply, hreply, rfl⟩))
    rw [← hkey, hcertificate, hpinned]
  · intro hsame
    obtain ⟨challenge, hfirst, rfl⟩ := requestPairingForPeer_eq_ok.mp hchallenge
    obtain ⟨reply, hreply, rfl⟩ := probeForPeer_eq_ok.mp hprobe
    refine ⟨record, hlast, hid, hrole, ?_⟩
    rw [hkey, hsame challenge reply hfirst hreply, hpinned]

end

/-! A pairing on a small network; the second answer is the client's, or somebody else's. -/

namespace Sample

def decode : String → Except String (List UInt8)
  | "AAAA" => .ok [0, 0, 0]
  | "AQID" => .ok [1, 2, 3]
  | _ => .error "Invalid padding"

def network : Network decode where
  encode := fun _ => .ok []
  admits := fun _ _ => .ok ()
  resolvePeerAddr := fun _ => .ok (.v4 0x0A000002 47834)
  connections := fun _ _ => none
  handshake := fun _ => .ok [0, 0, 0]
  readAck := fun _ _ => .ok [0x6F, 0x6B]
  utf8Lossy := fun _ => ""

def layout : LayoutState where
  devices := []
  inputMode := "control"
  machineRole := "server"
  clusterId := "group"
  pairSecret := "secret"
  pairedControllers := []
  trustedPeers := []
  transportPort := 47833
  quicPort := 47834

def turn : Turn where
  machine := { deviceName := "desk", hostname := some "desk", ipAddress := some "10.0.0.1", platform := "windows",
               appVersion := "1.0.0" }
  transport := some { port := 47834, publicKey := "AAEC" }
  layout := layout
  inputReceiveEnabled := false
  upgrading := false
  now := 0
  nowMs := 1000

def machine : Machine := { layout := layout, peers := [], challenge := none, drawn := 0, registry := .empty }

def packet (kind id publicKey clusterId : String) (pairingRequired : Bool) : DiscoveryPacket where
  protocol := discoveryProtocol
  kind := kind
  peer := { id, name := id, platform := "macos", machineRole := "client", clusterId, pairingRequired, host := id,
            ip := "", transportPort := 47833, quicPort := 47834, transportPublicKey := publicKey,
            protocolVersion := 1, screenCount := 0, inputReady := true, upgrading := false, screens := [],
            appVersion := "1.0.0", lastSeenMs := 0 }
  pairingCode := none
  pairClusterId := none
  pairSecret := none
  pairingError := none

def input (probe : DiscoveryPacket) : Confirmation where
  host := "10.0.0.2"
  code := "012345"
  target := "10.0.0.2"
  hint := "10.0.0.2 (UDP 47833)"
  challengeAnswers := [⟨some (packet "pair-challenge" "peer-client" "AAAA" "" true), "10.0.0.2", 1000⟩]
  probeAnswers := [⟨some probe, "10.0.0.2", 1000⟩]

def honest : Confirmation := input (packet "reply" "peer-client" "AAAA" "group" false)

/-- Somebody who has heard the cluster id in an announcement answers the probe first. -/
def spoofed : Confirmation := input (packet "announce" "peer-mallory" "AQID" "group" false)

def run (input : Confirmation) : Except String (LanPeer × Connection decode) × Machine :=
  (confirmLanPairing network (.ok ()) (.ok ()) turn input).exec machine

theorem run_ok (input : Confirmation) (h : (run input).1.isOk = true) :
    ∃ peer connection s', run input = (.ok (peer, connection), s') := by
  cases hrun : run input with
  | mk answer s' =>
    rw [hrun] at h
    cases answer with
    | ok answer => exact ⟨answer.1, answer.2, s', rfl⟩
    | error error => cases h

end Sample

theorem confirmLanPairing_records_pinned_honest : ∃ peer connection s',
    Sample.run Sample.honest = (.ok (peer, connection), s') ∧ RecordsPinned s' peer connection := by
  obtain ⟨peer, connection, s', h⟩ := Sample.run_ok Sample.honest (by decide +kernel)
  refine ⟨peer, connection, s', h, (confirmLanPairing_records_pinned h).mpr ?_⟩
  intro challenge reply hchallenge hreply
  have hchallenger :
      requestPairingForPeer Sample.turn.localPeer Sample.honest.target Sample.honest.challengeAnswers =
      .ok challenge.peer := requestPairingForPeer_eq_ok.mpr ⟨challenge, hchallenge, rfl⟩
  have hreplier : probeForPeer Sample.turn.localPeer Sample.honest.hint Sample.honest.probeAnswers =
    .ok reply.peer :=
    probeForPeer_eq_ok.mpr ⟨reply, hreply, rfl⟩
  have hfirst : (requestPairingForPeer Sample.turn.localPeer Sample.honest.target
      Sample.honest.challengeAnswers).toOption.map (·.transportPublicKey) = some "AAAA" := by decide +kernel
  have hsecond : (probeForPeer Sample.turn.localPeer Sample.honest.hint
      Sample.honest.probeAnswers).toOption.map (·.transportPublicKey) = some "AAAA" := by decide +kernel
  have htrim : trimmed "AAAA" = "AAAA" := by decide
  rw [hchallenger] at hfirst
  rw [hreplier] at hsecond
  rw [show reply.peer.transportPublicKey = "AAAA" from Option.some.inj hsecond, htrim,
    show challenge.peer.transportPublicKey = "AAAA" from Option.some.inj hfirst]

/-- The certificate of somebody else is stored, and the pairing succeeds. -/
theorem confirmLanPairing_records_spoofed : ∃ peer connection s',
    Sample.run Sample.spoofed = (.ok (peer, connection), s') ∧ ¬ RecordsPinned s' peer connection := by
  obtain ⟨peer, connection, s', h⟩ := Sample.run_ok Sample.spoofed (by decide +kernel)
  refine ⟨peer, connection, s', h, ?_⟩
  rintro ⟨record, hlast, _, _, hcertificate⟩
  have hpinned : (Sample.run Sample.spoofed).1.toOption.map (·.2.certificate) = some [0, 0, 0] := by decide +kernel
  have hstored : (Sample.run Sample.spoofed).2.layout.trustedPeers.getLast?.map (·.transportPublicKey) =
    some "AQID" := by
    decide +kernel
  rw [h] at hpinned hstored
  rw [hlast] at hstored
  have hkey : record.transportPublicKey = "AQID" := Option.some.inj hstored
  have hcert : connection.certificate = [0, 0, 0] := Option.some.inj hpinned
  rw [hkey, hcert] at hcertificate
  exact absurd hcertificate (by decide)

end MyKvm.Pairing
