import MyKvm.Discovery.Probing
import MyKvm.Lib.Machine
import MyKvm.Pairing.Challenge

/-!
# MyKvm.Discovery.Loop — discovery and trust

The discovery loop announces the machine, receives packets and keeps the presence of the devices up to date; the
user may scan, probe or ask for a pairing.  All of it works on unauthenticated datagrams, and shares the layout
with the pairing and with the rest of the program, which runs in other threads.

* `discovery_keeps_trust`: what is trusted does not depend on the datagrams.
-/

namespace MyKvm.Discovery

open MyKvm.Lib MyKvm.Pairing MyKvm.Transport

structure Machine where
  layout : LayoutState
  peers : List LanPeer
  challenge : Option PairingChallenge
  /-- How many pairing codes have been drawn. -/
  drawn : ℕ
  registry : TrustedPeerRegistry

structure Trust where
  trustedPeers : List TrustedPeerRecord
  registry : TrustedPeerRegistry
  clusterId : String
  pairSecret : String

def Machine.trust (s : Machine) : Trust :=
  { trustedPeers := s.layout.trustedPeers, registry := s.registry, clusterId := s.layout.clusterId,
    pairSecret := s.layout.pairSecret }

/-- What one turn works with: the copy of the layout, taken under its lock, the state of
the machine and the clocks. -/
structure Turn where
  machine : LocalMachine
  /-- The loop has a transport; for a command it may be missing. -/
  transport : Option TransportHandle
  layout : LayoutState
  inputReceiveEnabled : Bool
  upgrading : Bool
  now : ℕ
  nowMs : UInt64

def Turn.localPeer (turn : Turn) : LanPeer :=
  let peer := localPeerFromLayout turn.machine turn.layout turn.nowMs
  match turn.transport with
  | some transport => applyTransportToPeer peer transport
  | none => peer

/-- The advertisement of this machine, in the loop. -/
def Turn.currentPeer (turn : Turn) : LanPeer :=
  { turn.localPeer with
    inputReady := advertisedInputReady turn.layout turn.inputReceiveEnabled
    upgrading := turn.upgrading }

/-- What a turn sends: a discovery packet, or the empty datagram which opens a connection. -/
inductive Sent where
  | discovery (kind : String) (peer : LanPeer) (target : String)
  | warm (host : String) (quicPort : UInt16) (publicKey : String) (protocolVersion : UInt16)

def warmQuicPeer (peer : LanPeer) : List Sent :=
  if !peer.inputReady || isBlank peer.transportPublicKey || peer.quicPort = 0 then []
  else [.warm peer.ip peer.quicPort peer.transportPublicKey peer.protocolVersion]

/-! ### The steps -/

def mergePeer (s : Machine) (peer : LanPeer) (nowMs : UInt64) : Machine :=
  { s with peers := mergePeerEntry s.peers peer nowMs }

def pruneStalePeers (s : Machine) (nowMs : UInt64) : Machine :=
  { s with peers := pruneStalePeerEntries s.peers nowMs }

/-- The list is pruned and copied under its lock, and shown in the layout under the other one. -/
def syncLayoutPeerPresence (s : Machine) (nowMs : UInt64) : Machine :=
  let peers := pruneStalePeerEntries s.peers nowMs
  { s with peers, layout := applyPeerPresence s.layout peers nowMs }

/-- The announcement, with the answers of the machines which are known. -/
def announce (turn : Turn) (broadcastTargets directTargets : List String) (answers : List Answer) (s : Machine) :
    Machine × List Sent :=
  let probedPeers := probeKnownPeerTargets turn.currentPeer directTargets answers
  let sent := broadcastTargets.map (.discovery "announce" turn.currentPeer) ++
    directTargets.map (.discovery "probe" turn.currentPeer) ++ probedPeers.flatMap warmQuicPeer
  if probedPeers.isEmpty then (s, sent)
  else (syncLayoutPeerPresence (probedPeers.foldl (mergePeer · · turn.nowMs) s) turn.nowMs, sent)

/-- A packet has arrived. -/
def receive (random : ℕ → String) (turn : Turn) (wire : Option DiscoveryPacket) (sourceIp : String) (s : Machine) :
    Machine × List Sent :=
  match incomingDiscovery wire sourceIp turn.currentPeer.id turn.nowMs with
  | none => (s, [])
  | some incoming =>
    if incoming.kind = "pair-request" then
      match beginPairingChallenge random s.challenge s.drawn turn.layout incoming.peer sourceIp turn.now
        turn.nowMs with
      | (challenge, drawn, begun) =>
        ({ s with challenge, drawn },
          if begun then [.discovery "pair-challenge" turn.currentPeer sourceIp] else [])
    else if incoming.kind = "pair-confirm" then (s, [])
    else
      let visible := peerVisibleToLayout turn.layout incoming.peer
      let reply := (incoming.kind = "announce" || incoming.kind = "probe") &&
        shouldReplyToDiscovery turn.layout incoming.peer
      (if visible then syncLayoutPeerPresence (mergePeer s incoming.peer turn.nowMs) turn.nowMs else s,
        (if visible then warmQuicPeer incoming.peer else []) ++
          if reply then [.discovery "reply" turn.currentPeer sourceIp] else [])

/-- The end of a turn, unless the packet was about a pairing. -/
def sweep (nowMs : UInt64) (s : Machine) : Machine := syncLayoutPeerPresence (pruneStalePeers s nowMs) nowMs

def scanLanPeers (turn : Turn) (answers : List Answer) (s : Machine) : Machine :=
  sweep turn.nowMs ((scanForPeers turn.localPeer answers).foldl (mergePeer · · turn.nowMs) s)

def probeLanPeer (turn : Turn) (hint : String) (answers : List Answer) (s : Machine) :
    Machine × Except String LanPeer :=
  match probeForPeer turn.localPeer hint answers with
  | .ok peer => (syncLayoutPeerPresence (mergePeer s peer turn.nowMs) turn.nowMs, .ok peer)
  | .error error => (s, .error error)

def requestLanPairing (turn : Turn) (host : String) (answers : List Answer) (s : Machine) :
    Machine × Except String LanPeer :=
  if turn.layout.machineRole ≠ "server" then (s, .error "只有服务端可以发起配对。")
  else match requestPairingForPeer turn.localPeer host answers with
    | .ok peer => (mergePeer s peer turn.nowMs, .ok peer)
    | .error error => (s, .error error)

/-- Something which the rest of the program does, and for which only what was trusted before decides what
is trusted afterwards, as for a save of the layout and a reset of the pairing
(`MyKvm.Pairing.besideSave`, `besideReset`).  Completing a pairing is none of these, since it looks at
the challenge, which the discovery draws. -/
structure Elsewhere where
  apply : Machine → Machine
  blind : ∀ s t, s.trust = t.trust → (apply s).trust = (apply t).trust

inductive Event where
  | announce (turn : Turn) (broadcastTargets directTargets : List String) (answers : List Answer)
  | receive (turn : Turn) (wire : Option DiscoveryPacket) (sourceIp : String)
  | sweep (nowMs : UInt64)
  | scanLanPeers (turn : Turn) (answers : List Answer)
  | probeLanPeer (turn : Turn) (hint : String) (answers : List Answer)
  | requestLanPairing (turn : Turn) (host : String) (answers : List Answer)
  | elsewhere (change : Elsewhere)

def Event.isElsewhere : Event → Bool
  | .elsewhere _ => true
  | _ => false

def next (random : ℕ → String) (s : Machine) : Event → Machine
  | .announce turn broadcastTargets directTargets answers =>
      (announce turn broadcastTargets directTargets answers s).1
  | .receive turn wire sourceIp => (receive random turn wire sourceIp s).1
  | .sweep nowMs => sweep nowMs s
  | .scanLanPeers turn answers => scanLanPeers turn answers s
  | .probeLanPeer turn hint answers => (probeLanPeer turn hint answers s).1
  | .requestLanPairing turn host answers => (requestLanPairing turn host answers s).1
  | .elsewhere change => change.apply s

/-! ### Trust -/

/-- Presence changes the devices and the paired controllers, and nothing else of the layout. -/
theorem applyPeerPresence_eq (layout : LayoutState) (peers : List LanPeer) (nowMs : UInt64) :
    ∃ devices pairedControllers, applyPeerPresence layout peers nowMs =
      { layout with devices, pairedControllers } :=
  ⟨_, _, rfl⟩

variable {s : Machine} {nowMs : UInt64}

@[simp] theorem mergePeer_trust (peer : LanPeer) : (mergePeer s peer nowMs).trust = s.trust := rfl

@[simp] theorem pruneStalePeers_trust : (pruneStalePeers s nowMs).trust = s.trust := rfl

@[simp] theorem syncLayoutPeerPresence_trust : (syncLayoutPeerPresence s nowMs).trust = s.trust := by
  obtain ⟨devices, pairedControllers, heq⟩ :=
    applyPeerPresence_eq s.layout (pruneStalePeerEntries s.peers nowMs) nowMs
  simp only [syncLayoutPeerPresence, Machine.trust, heq]

theorem mergePeers_trust (peers : List LanPeer) (s : Machine) :
    (peers.foldl (mergePeer · · nowMs) s).trust = s.trust := by
  induction peers generalizing s with
  | nil => rfl
  | cons peer peers ih => rw [List.foldl_cons, ih, mergePeer_trust]

theorem receive_trust (random : ℕ → String) (turn : Turn) (wire : Option DiscoveryPacket) (sourceIp : String) :
    (receive random turn wire sourceIp s).1.trust = s.trust := by
  unfold receive
  cases incomingDiscovery wire sourceIp turn.currentPeer.id turn.nowMs with
  | none => rfl
  | some incoming =>
    dsimp only
    by_cases hrequest : incoming.kind = "pair-request"
    · rw [if_pos hrequest]
      -- The challenge is no part of the trust.
      rfl
    · rw [if_neg hrequest]
      by_cases hconfirm : incoming.kind = "pair-confirm"
      · rw [if_pos hconfirm]
      · rw [if_neg hconfirm]
        by_cases hvisible : peerVisibleToLayout turn.layout incoming.peer = true
        · simp [hvisible]
        · simp [hvisible]

theorem announce_trust (turn : Turn) (broadcastTargets directTargets : List String) (answers : List Answer) :
    (announce turn broadcastTargets directTargets answers s).1.trust = s.trust := by
  unfold announce
  dsimp only
  by_cases hnone : (probeKnownPeerTargets turn.currentPeer directTargets answers).isEmpty = true
  · rw [if_pos hnone]
  · rw [if_neg hnone, syncLayoutPeerPresence_trust, mergePeers_trust]

theorem probeLanPeer_trust (turn : Turn) (hint : String) (answers : List Answer) :
    (probeLanPeer turn hint answers s).1.trust = s.trust := by
  unfold probeLanPeer
  cases probeForPeer turn.localPeer hint answers with
  | ok peer => simp
  | error error => rfl

theorem requestLanPairing_trust (turn : Turn) (host : String) (answers : List Answer) :
    (requestLanPairing turn host answers s).1.trust = s.trust := by
  unfold requestLanPairing
  by_cases hrole : turn.layout.machineRole ≠ "server"
  · rw [if_pos hrole]
  · rw [if_neg hrole]
    cases requestPairingForPeer turn.localPeer host answers with
    | ok peer => rfl
    | error error => rfl

/-- No step of the discovery changes what is trusted. -/
theorem next_trust (random : ℕ → String) (s : Machine) {event : Event} (h : event.isElsewhere = false) :
    (next random s event).trust = s.trust := by
  cases event with
  | announce turn broadcastTargets directTargets answers =>
      exact announce_trust turn broadcastTargets directTargets answers
  | receive turn wire sourceIp => exact receive_trust random turn wire sourceIp
  | sweep nowMs => simp [next, sweep]
  | scanLanPeers turn answers =>
    simp only [next, scanLanPeers, sweep, syncLayoutPeerPresence_trust, pruneStalePeers_trust]
    exact mergePeers_trust _ s
  | probeLanPeer turn hint answers => exact probeLanPeer_trust turn hint answers
  | requestLanPairing turn host answers => exact requestLanPairing_trust turn host answers
  | elsewhere change => simp [Event.isElsewhere] at h

/-- **Discovery does not touch trust.**  In every run of the discovery, with packets of any contents from anywhere
and with whatever else goes on between that looks at the trust alone, the trusted peers, the registry, the cluster
id and the pair secret are what they are in the run without the discovery; without anything between, they stay. -/
theorem discovery_keeps_trust (random : ℕ → String) (s : Machine) (events : List Event) :
    (run (next random) s events).trust = (run (next random) s (events.filter Event.isElsewhere)).trust := by
  refine run_erase (fun s event => next_trust random s) ?_ s events
  intro s t event hseen htrust
  cases event with
  | elsewhere change => exact change.blind s t htrust
  | _ => simp [Event.isElsewhere] at hseen

end MyKvm.Discovery
