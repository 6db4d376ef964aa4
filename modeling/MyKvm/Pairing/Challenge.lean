import MyKvm.Discovery.Packets
import MyKvm.Pairing.Trust

/-!
# MyKvm.Pairing.Challenge — the pairing code of the client

A server which asks for a pairing gets a challenge: a code, shown on the client's screen, which its user types in
on the server.  The confirmation with the code comes over QUIC; the client compares it under the lock of the
challenge, and then takes the server's group over under the lock of the layout.

The codes come from a random source, which is read on demand: `random n` is what it gives when it is read for the
`n`-th time.
-/

namespace MyKvm.Pairing

open MyKvm.Lib MyKvm.Discovery

def pairingCodeTtlMs : ℕ := 60000

def pairingMaxAttempts : UInt8 := 5

/-- An `Instant` is a number of milliseconds. -/
structure PairingChallenge where
  code : String
  requesterId : String
  requesterName : String
  requesterIp : String
  requesterHost : String
  requesterPublicKey : String
  requesterProtocolVersion : UInt16
  expiresAt : ℕ
  expiresAtMs : UInt64
  attempts : UInt8
  deriving DecidableEq

/-- `saturating_add(1)` -/
def countAttempt (attempts : UInt8) : UInt8 := if attempts = 255 then 255 else attempts + 1

/-- The answer of the handshake, with the challenge and the number of codes drawn as it leaves them. -/
def beginPairingChallenge (random : ℕ → String) (challenge : Option PairingChallenge) (drawn : ℕ)
    (layout : LayoutState)
    (requester : LanPeer) (requesterIp : String) (now : ℕ) (nowMs : UInt64) : Option PairingChallenge × ℕ × Bool :=
  let expiresAt := now + pairingCodeTtlMs
  let expiresAtMs := saturatingAdd nowMs (UInt64.ofNat pairingCodeTtlMs)
  let requesterAlreadyKnown := layout.pairedControllers.any (pairedControllerCanRepairWithPeer · requester)
  let started : PairingChallenge :=
    { code := random drawn, requesterId := requester.id, requesterName := requester.name, requesterIp,
      requesterHost := requester.host, requesterPublicKey := requester.transportPublicKey,
      requesterProtocolVersion := requester.protocolVersion, expiresAt, expiresAtMs, attempts := 0 }
  if layout.machineRole ≠ "client" then (challenge, drawn, false)
  else if requester.machineRole ≠ "server" then (challenge, drawn, false)
  else if !pairingRequired layout && !requesterAlreadyKnown then (challenge, drawn, false)
  else match challenge with
    | none => (some started, drawn + 1, true)
    | some existing =>
      if now < existing.expiresAt then
        if existing.requesterId = requester.id then
          let refreshed := { existing with
            requesterIp
            requesterHost := requester.host
            requesterPublicKey := requester.transportPublicKey
            requesterProtocolVersion := requester.protocolVersion }
          -- A code which has been guessed at is not offered again.
          if 0 < existing.attempts then
            (some { refreshed with code := random drawn, expiresAt, expiresAtMs, attempts := 0 }, drawn + 1, true)
          else (some refreshed, drawn, true)
        else (challenge, drawn, false)
      else (some started, drawn + 1, true)

/-- The confirmation is about the certificate which the connection has shown. -/
def pairingConfirmationMatchesPresentedCertificate (wire : Option DiscoveryPacket)
    (presentedCertificate : Option String) : Bool :=
  match presentedCertificate, decodeDiscoveryPacket wire with
  | some certificate, some packet =>
    packet.kind = "pair-confirm" && !isBlank packet.peer.transportPublicKey &&
      packet.peer.transportPublicKey = certificate
  | _, _ => false

/-- What a confirmation ends in, under the lock of the challenge. -/
inductive Verdict where
  /-- The code has been compared, and it is wrong or right. -/
  | compared (right : Bool)
  /-- The challenge had expired, and was dropped. -/
  | expired
  | refused
  deriving DecidableEq

/-- `complete_pairing_from_confirm`, up to the lock of the layout. -/
def checkConfirmation (challenge : Option PairingChallenge) (requester : LanPeer)
    (code clusterId pairSecret : String) (now : ℕ) : Option PairingChallenge × Verdict × Except String Unit :=
  if isBlank code || isBlank clusterId || isBlank pairSecret then
    (challenge, .refused, .error "配对请求缺少验证码或组信息。")
  else match challenge with
    | none => (none, .refused, .error "验证码已过期，请重新发起配对。")
    | some existing =>
      if existing.expiresAt ≤ now then (none, .expired, .error "验证码已过期，请重新发起配对。")
      else if existing.requesterId ≠ requester.id ∨ (isBlank existing.requesterPublicKey = false ∧
          existing.requesterPublicKey ≠ requester.transportPublicKey) then
        (some existing, .refused, .error "配对请求来源不一致，请重新发起配对。")
      else if existing.code ≠ trimmed code then
        let attempts := countAttempt existing.attempts
        (if pairingMaxAttempts ≤ attempts then none else some { existing with attempts }, .compared false,
          .error "验证码不正确。")
      else (none, .compared true, .ok ())

/-- `complete_pairing_from_confirm`, under the lock of the layout.  A record which cannot be made leaves the group
behind. -/
def recordPairing (layout : LayoutState) (requester : LanPeer) (clusterId pairSecret : String) (nowMs : UInt64) :
    LayoutState × Except String Unit :=
  if layout.machineRole ≠ "client" then (layout, .error "只有客户端可以接受服务端配对。") else
  let layout := { layout with
    clusterId := trimmed clusterId
    pairSecret := trimmed pairSecret
    inputMode := "receive"
    pairedControllers :=
      [{ id := requester.id, name := requester.name, host := requester.host, ip := requester.ip,
         transportPublicKey := requester.transportPublicKey, protocolVersion := requester.protocolVersion,
         clusterId := trimmed clusterId, pairedAtMs := nowMs }] }
  match upsertTrustedPeer layout.trustedPeers requester.id requester.transportPublicKey "controller" nowMs with
  | .ok trustedPeers => ({ layout with trustedPeers }, .ok ())
  | .error error => (layout, .error error)

/-- The challenge, after the client's user interface has asked how the pairing stands. -/
def challengeAfterStatus (layout : LayoutState) (challenge : Option PairingChallenge) (now : ℕ) :
    Option PairingChallenge :=
  if layout.machineRole ≠ "client" ∨ layout.pairedControllers ≠ [] then challenge
  else challenge.filter fun challenge => now < challenge.expiresAt

end MyKvm.Pairing
