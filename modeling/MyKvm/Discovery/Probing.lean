import MyKvm.Discovery.Packets

/-!
# MyKvm.Discovery.Probing — asking for peers and taking the answers

A scan, a probe or a request for a pairing sends its packets and then receives until its time is up.  Anybody may
answer: the answers are a list of whatever has arrived at the socket, in its order.
-/

namespace MyKvm.Discovery

open MyKvm.Lib

structure Answer where
  wire : Option DiscoveryPacket
  sourceIp : String
  nowMs : UInt64
  deriving DecidableEq

def Answer.incoming (answer : Answer) (localPeer : LanPeer) : Option IncomingDiscovery :=
  incomingDiscovery answer.wire answer.sourceIp localPeer.id answer.nowMs

/-- The receive loop of a scan: every visible peer. -/
def collectPeers (localPeer : LanPeer) (answers : List Answer) : List LanPeer :=
  answers.foldl
    (fun peers answer => match answer.incoming localPeer with
      | some incoming =>
        if peerVisibleToLocalPeer localPeer incoming.peer then
          mergePeerEntry peers incoming.peer answer.nowMs else peers
      | none => peers) []

def scanForPeers (localPeer : LanPeer) (answers : List Answer) : List LanPeer := collectPeers localPeer answers

def probeKnownPeerTargets (localPeer : LanPeer) (targets : List String) (answers : List Answer) : List LanPeer :=
  if targets.isEmpty then [] else collectPeers localPeer answers

/-- The receive loop of a request: the first answer which is wanted. -/
def firstPeer (localPeer : LanPeer) (wanted : IncomingDiscovery → Bool) (answers : List Answer) : Option LanPeer :=
  ((answers.filterMap (·.incoming localPeer)).find? wanted).map (·.peer)

/-- `hint` is the text about host and ports. -/
def probeForPeer (localPeer : LanPeer) (hint : String) (answers : List Answer) : Except String LanPeer :=
  match firstPeer localPeer (fun incoming => peerVisibleToLocalPeer localPeer incoming.peer) answers with
  | some peer => .ok peer
  | none => .error ("no mykvm peer answered at " ++ hint ++
      "; make sure mykvm is running on that device and UDP is allowed")

def pairChallengeUsableForLocalPeer (localPeer peer : LanPeer) : Bool :=
  if !isBlank peer.machineRole && peer.machineRole ≠ "client" then false
  else if peer.pairingRequired then true
  else peerVisibleToLocalPeer localPeer peer || !isBlank peer.transportPublicKey

def requestPairingForPeer (localPeer : LanPeer) (host : String) (answers : List Answer) : Except String LanPeer :=
  match firstPeer localPeer (fun incoming =>
      incoming.kind = "pair-challenge" && pairChallengeUsableForLocalPeer localPeer incoming.peer) answers with
  | some peer => .ok peer
  | none => .error ("no pairing challenge received from " ++ host ++
      "; make sure the client is running and reachable")

/-! ### Whose answer is taken -/

/-- The packets among the answers, in their order. -/
def heard (localPeer : LanPeer) (answers : List Answer) : List IncomingDiscovery :=
  answers.filterMap (·.incoming localPeer)

/-- The packet is wanted, and none before it is. -/
def First (wanted : IncomingDiscovery → Bool) (packets : List IncomingDiscovery)
    (incoming : IncomingDiscovery) : Prop :=
  ∃ before after, packets = before ++ incoming :: after ∧ wanted incoming = true ∧ ∀ other ∈ before,
    wanted other = false

section

variable {localPeer peer : LanPeer} {answers : List Answer}

theorem firstPeer_eq_some {wanted : IncomingDiscovery → Bool} : firstPeer localPeer wanted answers = some peer ↔
    ∃ incoming, First wanted (heard localPeer answers) incoming ∧ incoming.peer = peer := by
  unfold firstPeer First heard
  rw [Option.map_eq_some_iff]
  constructor
  · rintro ⟨incoming, hfind, hpeer⟩
    obtain ⟨hwanted, before, after, hsplit, hbefore⟩ := List.find?_eq_some_iff_append.mp hfind
    exact ⟨incoming,
      ⟨before, after, hsplit, hwanted, fun other hother => by simpa using hbefore other hother⟩, hpeer⟩
  · rintro ⟨incoming, ⟨before, after, hsplit, hwanted, hbefore⟩, hpeer⟩
    refine ⟨incoming, List.find?_eq_some_iff_append.mpr ⟨hwanted, before, after, hsplit, ?_⟩, hpeer⟩
    intro other hother
    simp [hbefore other hother]

theorem probeForPeer_eq_ok {hint : String} : probeForPeer localPeer hint answers = .ok peer ↔
    ∃ incoming,
      First (fun incoming => peerVisibleToLocalPeer localPeer incoming.peer) (heard localPeer answers) incoming ∧
      incoming.peer = peer := by
  rw [← firstPeer_eq_some]
  unfold probeForPeer
  cases firstPeer localPeer (fun incoming => peerVisibleToLocalPeer localPeer incoming.peer) answers <;> simp

theorem requestPairingForPeer_eq_ok {host : String} : requestPairingForPeer localPeer host answers = .ok peer ↔
    ∃ incoming, First (fun incoming => incoming.kind = "pair-challenge" &&
      pairChallengeUsableForLocalPeer localPeer incoming.peer) (heard localPeer answers) incoming ∧
        incoming.peer = peer := by
  rw [← firstPeer_eq_some]
  unfold requestPairingForPeer
  cases firstPeer localPeer (fun incoming => incoming.kind = "pair-challenge" &&
    pairChallengeUsableForLocalPeer localPeer incoming.peer) answers <;> simp

end

end MyKvm.Discovery
