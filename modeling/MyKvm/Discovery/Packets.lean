import MyKvm.Discovery.Peers

/-!
# MyKvm.Discovery.Packets — discovery packets

A packet carries its kind, the advertisement of its sender and the fields of the pairing.  `decode_wire_packet`
makes an optional packet out of a payload; what this module takes is that packet.
-/

namespace MyKvm.Discovery

open MyKvm.Lib

structure DiscoveryPacket where
  protocol : String
  kind : String
  peer : LanPeer
  pairingCode : Option String
  pairClusterId : Option String
  pairSecret : Option String
  pairingError : Option String
  deriving DecidableEq

structure IncomingDiscovery where
  kind : String
  peer : LanPeer
  pairingCode : Option String
  pairClusterId : Option String
  pairSecret : Option String
  deriving DecidableEq

def decodeDiscoveryPacket (wire : Option DiscoveryPacket) : Option DiscoveryPacket :=
  wire.filter (·.protocol = discoveryProtocol)

/-- Own packets are dropped; the address is that of the sender. -/
def peerFromDiscoveryPacket (packet : DiscoveryPacket) (sourceIp localPeerId : String) (now : UInt64) :
    Option IncomingDiscovery :=
  if packet.peer.id = localPeerId then none else
  let peer := packet.peer
  let version := if peer.protocolVersion = 0 then protocolVersion else peer.protocolVersion
  some
    { kind := packet.kind
      peer := { peer with
        ip := sourceIp
        quicPort := if peer.quicPort = 0 then peer.transportPort else peer.quicPort
        protocolVersion := version
        inputReady := peer.inputReady && !(isBlank peer.transportPublicKey || version ≠ protocolVersion)
        lastSeenMs := now }
      pairingCode := packet.pairingCode
      pairClusterId := packet.pairClusterId
      pairSecret := packet.pairSecret }

/-- The packet from this source, as the receive loops read it. -/
def incomingDiscovery (wire : Option DiscoveryPacket) (sourceIp localPeerId : String) (now : UInt64) :
    Option IncomingDiscovery :=
  (decodeDiscoveryPacket wire).bind fun packet => peerFromDiscoveryPacket packet sourceIp localPeerId now

theorem incomingDiscovery_eq_some {wire : Option DiscoveryPacket} {sourceIp localPeerId : String} {now : UInt64}
    {incoming : IncomingDiscovery} (h : incomingDiscovery wire sourceIp localPeerId now = some incoming) :
    ∃ packet, wire = some packet ∧ packet.peer.id ≠ localPeerId ∧ incoming.kind = packet.kind ∧
      incoming.peer.id = packet.peer.id ∧ incoming.peer.transportPublicKey = packet.peer.transportPublicKey := by
  obtain ⟨packet, hdecode, hpeer⟩ := Option.bind_eq_some_iff.mp h
  obtain ⟨hwire, _⟩ := Option.filter_eq_some_iff.mp hdecode
  unfold peerFromDiscoveryPacket at hpeer
  by_cases hown : packet.peer.id = localPeerId
  · simp [hown] at hpeer
  · rw [if_neg hown, Option.some.injEq] at hpeer
    subst hpeer
    exact ⟨packet, hwire, hown, rfl, rfl, rfl⟩

end MyKvm.Discovery
