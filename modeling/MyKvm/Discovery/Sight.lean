import MyKvm.Discovery.Listing
import MyKvm.Discovery.Loop
import MyKvm.Discovery.Targets

/-!
# MyKvm.Discovery.Sight — two machines which see each other

Two machines of one group, with nobody else on the network, announce themselves, answer each other's datagrams and
show each other in their layouts.  The network may lose datagrams, bring them late, more than once and in any
order.  What the user does to the layouts meanwhile is left out.

* `receive_said`, `announce_said`: what a machine does with the packets of the other one.
* `next_does`: what one step of the two loops does.
* `found_and_kept`: whoever was heard is shown online for ninety seconds, and is asked directly from then on.
-/

namespace MyKvm.Discovery

open MyKvm.Lib

/-! ### The machines -/

/-- What a machine is while it runs: what it says of itself, its transport, its address, and the
port where the machines meet. -/
structure Station where
  machine : LocalMachine
  transport : TransportHandle
  ip : Ipv4Addr
  basePort : UInt16
  localIps : List Ipv4Addr

namespace Station

def id (station : Station) : String :=
  localPeerId (station.machine.hostname.getD "localhost") (station.machine.ipAddress.getD "127.0.0.1")

end Station

/-- When a step is taken, and what is advertised then. -/
structure Moment where
  inputReceiveEnabled : Bool
  upgrading : Bool
  now : ℕ
  nowMs : UInt64

def Station.turn (station : Station) (moment : Moment) (s : Machine) : Turn :=
  { machine := station.machine, transport := some station.transport, layout := s.layout
    inputReceiveEnabled := moment.inputReceiveEnabled, upgrading := moment.upgrading, now := moment.now
    nowMs := moment.nowMs }

/-- `encode_discovery_payload`, without the fields of a pairing, as the packet is read at the other end.  The time
of sending is that of the turn, which `currentPeer` has. -/
def discoveryPacket (kind : String) (peer : LanPeer) : DiscoveryPacket :=
  { protocol := discoveryProtocol, kind, peer, pairingCode := none, pairClusterId := none, pairSecret := none
    pairingError := none }

/-- Packets of the station, as they come to the socket of a probing. -/
def Station.answers (station : Station) (nowMs : UInt64) (packets : List DiscoveryPacket) : List Answer :=
  packets.map fun packet => ⟨some packet, station.ip.text, nowMs⟩

/-- Where a datagram goes: to an address, or back to where the packet came from, which is the socket of the
loop or that of the probing. -/
inductive Destination where
  | address (text : String)
  | back (toProbing : Bool)
  deriving DecidableEq

structure Datagram where
  packet : DiscoveryPacket
  destination : Destination
  deriving DecidableEq

/-- The socket of the loop, at this port, gets it: from a broadcast, by its address, or as an answer. -/
def Destination.reaches (station : Station) (port : UInt16) : Destination → Prop
  | .address text =>
    text = target limitedBroadcast.text port ∨ text = target station.ip.broadcast.text port ∨
      text = target station.ip.text port
  | .back toProbing => toProbing = false

/-- What was sent on a packet of this kind. -/
def Sent.answering (kind : String) : Sent → Option Datagram
  | .discovery answer peer _ => some ⟨discoveryPacket answer peer, .back (kind = "probe")⟩
  | .warm .. => none

/-- The machines, and all that they have sent. -/
structure Lan where
  machine : Bool → Machine
  sent : Bool → List Datagram

/-- A turn of a loop is taken apart where it waits: for the answers to its probes, and for a packet. -/
inductive LanStep where
  | announces (side : Bool) (moment : Moment)
  | collects (side : Bool) (moment : Moment) (answers : List DiscoveryPacket)
  | receives (side : Bool) (moment : Moment) (datagram : Datagram)
  | sweeps (side : Bool) (nowMs : UInt64)

namespace LanStep

def side : LanStep → Bool
  | announces side _ | collects side _ _ | receives side _ _ | sweeps side _ => side

def nowMs : LanStep → UInt64
  | announces _ moment | collects _ moment _ | receives _ moment _ => moment.nowMs
  | sweeps _ nowMs => nowMs

end LanStep

section Next

variable (random : ℕ → String) (station : Bool → Station) (port : Bool → UInt16)

/-- The datagrams of an announcement. -/
def Lan.announced (lan : Lan) (side : Bool) (moment : Moment) : List Datagram :=
  (broadcastAddrsForIps (station side).basePort (station side).localIps).map
      (fun text => ⟨discoveryPacket "announce" ((station side).turn moment (lan.machine side)).currentPeer,
        .address text⟩) ++
    (knownPeerDiscoveryTargets (lan.machine side).layout (station side).basePort).map
      fun text => ⟨discoveryPacket "probe" ((station side).turn moment (lan.machine side)).currentPeer,
        .address text⟩

def Lan.put (lan : Lan) (side : Bool) (s : Machine) (sent : List Datagram) : Lan :=
  { machine := Function.update lan.machine side s, sent := Function.update lan.sent side (lan.sent side ++ sent) }

def nextLan (lan : Lan) : LanStep → Lan
  | .announces side moment => lan.put side (lan.machine side) (lan.announced station side moment)
  | .collects side moment answers =>
    lan.put side (announce ((station side).turn moment (lan.machine side))
      (broadcastAddrsForIps (station side).basePort (station side).localIps)
      (knownPeerDiscoveryTargets (lan.machine side).layout (station side).basePort)
      ((station !side).answers moment.nowMs answers) (lan.machine side)).1 []
  | .receives side moment datagram =>
    match receive random ((station side).turn moment (lan.machine side)) (some datagram.packet)
        (station !side).ip.text (lan.machine side) with
    | (s, sent) => lan.put side s (sent.filterMap (Sent.answering datagram.packet.kind))
  | .sweeps side nowMs => lan.put side (sweep nowMs (lan.machine side)) []

/-- What arrives has been sent, to a socket which gets it. -/
def Possible (lan : Lan) : LanStep → Prop
  | .collects side _ answers => ∀ packet ∈ answers, ⟨packet, .back true⟩ ∈ lan.sent !side
  | .receives side _ datagram => datagram ∈ lan.sent !side ∧
      datagram.destination.reaches (station side) (port side)
  | _ => True

end Next

/-! ### What is seen of the other machine -/

/-- The entry is that of the machine, in the group, at its address and at this port. -/
structure Shows (b : Station) (clusterId : String) (port : UInt16) (peer : LanPeer) : Prop where
  id : peer.id = b.id
  ip : peer.ip = b.ip.text
  transportPort : peer.transportPort = port
  transportPublicKey : peer.transportPublicKey = b.transport.publicKey
  clusterId : peer.clusterId = clusterId
  pairingRequired : peer.pairingRequired = false

/-- The machine is in the group, and its socket is bound to this port. -/
structure Kin (clusterId : String) (port : UInt16) (s : Machine) : Prop where
  clusterId : s.layout.clusterId = clusterId
  paired : pairingRequired s.layout = false
  transportPort : s.layout.transportPort = port

/-- The name of a group, as it is stored. -/
structure GroupName (clusterId : String) : Prop where
  trimmed : trimmed clusterId = clusterId
  notBlank : isBlank clusterId = false

/-- The device is known by the address of the machine. -/
structure Known (b : Station) (port : UInt16) (device : Device) : Prop where
  role : device.role ≠ "local"
  host : device.host = b.ip.text
  transportPort : device.transportPort = port
  transportPublicKey : device.transportPublicKey = b.transport.publicKey

/-- One of the devices in the layout is for the machine, as on a server which has imported its client. -/
def Imported (b : Station) (clusterId : String) (port : UInt16) (s : Machine) : Prop :=
  ∃ device ∈ s.layout.devices, device.role ≠ "local" ∧
    ∀ peer, Shows b clusterId port peer → deviceMatchesPeer device peer clusterId = true

/-- One of the paired controllers is the machine, as on a client which has been paired with its server. -/
def PairedWith (b : Station) (clusterId : String) (port : UInt16) (s : Machine) : Prop :=
  ∃ controller ∈ s.layout.pairedControllers,
    ∀ peer, Shows b clusterId port peer → pairedControllerCanRepairWithPeer controller peer = true

/-- The machine shows the other one, or is paired with it. -/
def Knows (b : Station) (clusterId : String) (port : UInt16) (s : Machine) : Prop :=
  Imported b clusterId port s ∨ PairedWith b clusterId port s

/-- A device is for the machine, at its address, and online. -/
def Online (b : Station) (port : UInt16) (s : Machine) : Prop :=
  ∃ device ∈ s.layout.devices, Known b port device ∧ device.online = true

/-- A device or a paired controller has the address of the machine. -/
def Acquainted (b : Station) (port : UInt16) (s : Machine) : Prop :=
  (∃ device ∈ s.layout.devices, Known b port device) ∨
    ∃ controller ∈ s.layout.pairedControllers, controller.ip = b.ip.text

/-- Nobody but the machine is on the list. -/
def Lists (b : Station) (clusterId : String) (port : UInt16) (peers : List LanPeer) : Prop :=
  ∀ peer ∈ peers, Shows b clusterId port peer

/-- It is on the list, and has been heard at this time or later. -/
structure Heard (b : Station) (clusterId : String) (port : UInt16) (heardAt : UInt64)
    (peers : List LanPeer) : Prop where
  listed : Lists b clusterId port peers
  fresh : ∃ peer ∈ peers, heardAt ≤ peer.lastSeenMs

/-- The machine has been heard at this time or later, and is online if a device is for it. -/
structure Sight (b : Station) (clusterId : String) (port : UInt16) (heardAt : UInt64) (s : Machine) : Prop where
  heard : Heard b clusterId port heardAt s.peers
  online : Imported b clusterId port s → Online b port s

variable {a b : Station} {clusterId : String} {port own : UInt16} {heardAt nowMs : UInt64} {s : Machine}
  {peers : List LanPeer}

theorem Kin.of_layout {s' : Machine} {devices : List Device} {f : PairedController → PairedController}
    (h : Kin clusterId port s)
    (heq : s'.layout = { s.layout with devices, pairedControllers := s.layout.pairedControllers.map f }) :
    Kin clusterId port s' := by
  obtain ⟨hcluster, hpaired, hport⟩ := h
  refine ⟨?_, ?_, ?_⟩
  · rw [heq]
    exact hcluster
  · rw [heq]
    unfold Discovery.pairingRequired at hpaired ⊢
    simpa using hpaired
  · rw [heq]
    exact hport

theorem Kin.sync (h : Kin clusterId port s) : Kin clusterId port (syncLayoutPeerPresence s nowMs) :=
  h.of_layout (f := refreshPairedController (pruneStalePeerEntries s.peers nowMs)) rfl

theorem Kin.withPeers (h : Kin clusterId port s) (peers : List LanPeer) : Kin clusterId port { s with peers } :=
  ⟨h.clusterId, h.paired, h.transportPort⟩

theorem Known.matches (hkey : isBlank b.transport.publicKey = false) {device : Device} (h : Known b port device)
    {peer : LanPeer} (hpeer : Shows b clusterId own peer) : deviceMatchesPeer device peer clusterId = true := by
  unfold deviceMatchesPeer
  simp [h.transportPublicKey, hpeer.transportPublicKey, hkey]

theorem Heard.earlier {sooner : UInt64} (h : Heard b clusterId port heardAt peers) (hle : sooner ≤ heardAt) :
    Heard b clusterId port sooner peers := by
  obtain ⟨peer, hpeer, hseen⟩ := h.fresh
  exact ⟨h.listed, peer, hpeer, UInt64.le_trans hle hseen⟩

/-! ### The list -/

theorem mem_mergePeerEntry (peers : List LanPeer) (next : LanPeer) (nowMs : UInt64) :
    next ∈ mergePeerEntry peers next nowMs := by
  unfold mergePeerEntry
  dsimp only
  split
  · rename_i index hindex
    obtain ⟨hlt, -, -⟩ := List.findIdx?_eq_some_iff_getElem.mp hindex
    exact List.mem_set hlt next
  · exact List.mem_append_right _ (List.mem_singleton_self _)

theorem of_mem_swapRemove {α : Type*} {entries : List α} {index : ℕ} {entry : α}
    (h : entry ∈ swapRemove entries index) : entry ∈ entries := by
  unfold swapRemove at h
  split at h
  · rename_i last hlast
    rcases List.mem_or_eq_of_mem_set (List.dropLast_subset _ h) with hmem | rfl
    · exact hmem
    · exact List.mem_of_getLast? hlast
  · cases h

theorem of_mem_mergePeerEntry {next peer : LanPeer} (h : peer ∈ mergePeerEntry peers next nowMs) :
    peer = next ∨ peer ∈ peers := by
  have hpruned : ∀ {peer}, peer ∈ pruneStalePeerEntries peers nowMs → peer ∈ peers :=
    fun hmem => (List.mem_filter.mp hmem).1
  unfold mergePeerEntry at h
  dsimp only at h
  split at h
  · rcases List.mem_or_eq_of_mem_set h with hmem | rfl
    · exact .inr (hpruned hmem)
    · exact .inl rfl
  · rcases List.mem_append.mp h with hmem | hmem
    · refine .inr (hpruned ?_)
      split at hmem
      · exact of_mem_swapRemove hmem
      · exact hmem
    · exact .inl (List.mem_singleton.mp hmem)

theorem Lists.pruned (h : Lists b clusterId port peers) (nowMs : UInt64) :
    Lists b clusterId port (pruneStalePeerEntries peers nowMs) :=
  fun peer hpeer => h peer (List.mem_filter.mp hpeer).1

/-- An entry of the machine which is merged has been heard. -/
theorem Lists.merge (h : Lists b clusterId port peers) {peer : LanPeer} (hpeer : Shows b clusterId port peer)
    (hseen : peer.lastSeenMs = nowMs) : Heard b clusterId port nowMs (mergePeerEntry peers peer nowMs) := by
  refine ⟨fun other hother => ?_, peer, mem_mergePeerEntry _ _ _, hseen ▸ UInt64.le_refl _⟩
  rcases of_mem_mergePeerEntry hother with rfl | hmem
  · exact hpeer
  · exact h other hmem

/-- Whoever was heard lately stays on the list. -/
theorem Heard.pruned (h : Heard b clusterId port heardAt peers)
    (hnow : nowMs.toNat ≤ heardAt.toNat + peerTtlMs.toNat) :
    Heard b clusterId port heardAt (pruneStalePeerEntries peers nowMs) := by
  obtain ⟨peer, hpeer, hseen⟩ := h.fresh
  refine ⟨h.listed.pruned nowMs, peer, mem_pruneStalePeerEntries.mpr ⟨hpeer, UInt64.le_iff_toNat_le.mpr ?_⟩, hseen⟩
  have hle := UInt64.le_iff_toNat_le.mp hseen
  rw [saturatingSub_toNat]
  omega

/-! ### The layout -/

/-- The device is brought up to date from any entry of the machine. -/
theorem Shows.updates {peer : LanPeer} (h : Shows b clusterId port peer) {device : Device}
    (hrole : device.role ≠ "local") (nowMs : UInt64) :
    Known b port (updateDeviceFromPeer device peer nowMs) ∧
    (updateDeviceFromPeer device peer nowMs).online = true := by
  refine ⟨⟨hrole, ?_, h.transportPort, h.transportPublicKey⟩, rfl⟩
  show (if isBlank peer.ip then peer.host else peer.ip) = _
  rw [h.ip, b.ip.dotted.isBlank]
  rfl

/-- A device of another machine, shown beside entries of the machine: it is put offline if none is for it. -/
theorem present_cases {layout : LayoutState} (hpeers : Lists b clusterId port peers) {device : Device}
    (hrole : device.role ≠ "local") (nowMs : UInt64) :
    (peers.find? (deviceMatchesPeer device · layout.clusterId) = none ∧ ∃ upgrading,
        presentDevice layout peers nowMs device =
          { device with online := false, inputReady := false, upgrading }) ∨
      Known b port (presentDevice layout peers nowMs device) ∧
      (presentDevice layout peers nowMs device).online = true := by
  unfold presentDevice
  rw [if_neg hrole]
  cases hfind : peers.find? (deviceMatchesPeer device · layout.clusterId) with
  | none => exact .inl ⟨rfl, _, rfl⟩
  | some found => exact .inr ((hpeers found (List.mem_of_find?_eq_some hfind)).updates hrole nowMs)

theorem presentDevice_role (layout : LayoutState) (peers : List LanPeer) (nowMs : UInt64) (device : Device) :
    (presentDevice layout peers nowMs device).role = device.role := by
  unfold presentDevice
  split
  · rfl
  · split <;> rfl

/-- A paired controller is as it was, or has the address of the machine. -/
theorem refresh_cases (hpeers : Lists b clusterId port peers) (controller : PairedController) :
    (peers.find? (pairedControllerCanRepairWithPeer controller ·) = none ∧
        refreshPairedController peers controller = controller) ∨
      (refreshPairedController peers controller).ip = b.ip.text := by
  unfold refreshPairedController
  cases hfind : peers.find? (pairedControllerCanRepairWithPeer controller ·) with
  | none => exact .inl ⟨rfl, rfl⟩
  | some found =>
    refine .inr ?_
    show (if isBlank found.ip then controller.ip else found.ip) = _
    rw [(hpeers found (List.mem_of_find?_eq_some hfind)).ip, b.ip.dotted.isBlank]
    rfl

/-- Whoever has its address is the machine. -/
theorem canRepair_of_ip {controller : PairedController} (hip : controller.ip = b.ip.text) {peer : LanPeer}
    (hpeer : Shows b clusterId port peer) : pairedControllerCanRepairWithPeer controller peer = true := by
  have hne : b.ip.text ≠ "" := fun hnil => b.ip.dotted.ne_nil (by simp [hnil])
  have hmatches : textMatches controller.ip peer.ip = true := by
    rw [hip, hpeer.ip]
    unfold textMatches
    simp [b.ip.dotted.trimmed, hne]
  unfold pairedControllerCanRepairWithPeer
  rw [hmatches, Bool.or_true]

section Sync

variable (hpeers : Lists b clusterId port s.peers)

include hpeers

theorem Imported.sync (hkey : isBlank b.transport.publicKey = false) (h : Imported b clusterId port s) :
    Imported b clusterId port (syncLayoutPeerPresence s nowMs) := by
  obtain ⟨device, hdevice, hrole, hmatches⟩ := h
  refine ⟨_, List.mem_map_of_mem hdevice, ?_⟩
  rcases present_cases (hpeers.pruned nowMs) hrole nowMs with ⟨-, upgrading, heq⟩ | ⟨hknown, -⟩
  · rw [heq]
    exact ⟨hrole, hmatches⟩
  · exact ⟨hknown.role, fun peer hpeer => hknown.matches hkey hpeer⟩

theorem PairedWith.sync (h : PairedWith b clusterId port s) :
    PairedWith b clusterId port (syncLayoutPeerPresence s nowMs) := by
  obtain ⟨controller, hcontroller, hmatches⟩ := h
  refine ⟨_, List.mem_map_of_mem hcontroller, ?_⟩
  rcases refresh_cases (hpeers.pruned nowMs) controller with ⟨-, heq⟩ | hip
  · rw [heq]
    exact hmatches
  · exact fun peer hpeer => canRepair_of_ip hip hpeer

theorem Acquainted.sync (h : Acquainted b port s) : Acquainted b port (syncLayoutPeerPresence s nowMs) := by
  rcases h with ⟨device, hdevice, hknown⟩ | ⟨controller, hcontroller, hip⟩
  · refine .inl ⟨_, List.mem_map_of_mem hdevice, ?_⟩
    rcases present_cases (hpeers.pruned nowMs) hknown.role nowMs with ⟨-, upgrading, heq⟩ | ⟨hpresent, -⟩
    · rw [heq]
      exact ⟨hknown.role, hknown.host, hknown.transportPort, hknown.transportPublicKey⟩
    · exact hpresent
  · refine .inr ⟨_, List.mem_map_of_mem hcontroller, ?_⟩
    rcases refresh_cases (hpeers.pruned nowMs) controller with ⟨-, heq⟩ | hnow
    · rw [heq, hip]
    · exact hnow

end Sync

/-- **The presence is shown**: as long as the machine was heard lately, a device which is for it is online. -/
theorem Heard.sync (h : Heard b clusterId port heardAt s.peers) (hkin : Kin clusterId own s)
    (hnow : nowMs.toNat ≤ heardAt.toNat + peerTtlMs.toNat) :
    Sight b clusterId port heardAt (syncLayoutPeerPresence s nowMs) := by
  have hpruned := h.pruned hnow
  refine ⟨hpruned, ?_⟩
  rintro ⟨device, hdevice, hrole, hmatches⟩
  obtain ⟨before, hbefore, rfl⟩ := List.mem_map.mp hdevice
  rw [presentDevice_role] at hrole
  rcases present_cases hpruned.listed hrole nowMs with ⟨hnone, upgrading, heq⟩ | honline
  · -- the fresh entry is for the device, also as it was before
    obtain ⟨peer, hpeer, -⟩ := hpruned.fresh
    have hmatch := hmatches peer (hpruned.listed peer hpeer)
    rw [heq] at hmatch
    have hsame : deviceMatchesPeer before peer s.layout.clusterId = true := by
      rw [hkin.clusterId]
      exact hmatch
    exact absurd hsame (List.find?_eq_none.mp hnone peer hpeer)
  · exact ⟨_, hdevice, honline⟩

/-- A machine which shows the other one, or is paired with it, gets its address. -/
theorem Heard.acquaints (hkey : isBlank b.transport.publicKey = false) (h : Heard b clusterId port heardAt s.peers)
    (hkin : Kin clusterId own s) (hknows : Knows b clusterId port s)
    (hnow : nowMs.toNat ≤ heardAt.toNat + peerTtlMs.toNat) :
    Acquainted b port (syncLayoutPeerPresence s nowMs) := by
  rcases hknows with himported | ⟨controller, hcontroller, hmatches⟩
  · obtain ⟨device, hdevice, hknown, -⟩ := (h.sync hkin hnow).online (Imported.sync h.listed hkey himported)
    exact .inl ⟨device, hdevice, hknown⟩
  · have hpruned := h.pruned hnow
    refine .inr ⟨_, List.mem_map_of_mem hcontroller, ?_⟩
    rcases refresh_cases hpruned.listed controller with ⟨hnone, -⟩ | hip
    · obtain ⟨peer, hpeer, -⟩ := hpruned.fresh
      exact absurd (hmatches peer (hpruned.listed peer hpeer)) (List.find?_eq_none.mp hnone peer hpeer)
    · exact hip

/-- A machine which is known is asked at its address. -/
theorem Acquainted.asked (h : Acquainted b port s) {base : UInt16} (hport : port ∈ discoveryTargetPorts base)
    (hnormal : normalizeTransportPort port = port) :
    target b.ip.text port ∈ knownPeerDiscoveryTargets s.layout base := by
  rcases h with ⟨device, hmem, hknown⟩ | ⟨controller, hmem, hip⟩
  · have hasked : target device.host (normalizeTransportPort device.transportPort) ∈
        knownPeerDiscoveryTargets s.layout base := known_mem_targets hmem hknown.role (hknown.host ▸ b.ip.dotted)
    rwa [hknown.host, hknown.transportPort, hnormal] at hasked
  · have hasked := controller_mem_targets hmem (hip ▸ b.ip.dotted) hport
    rwa [hip] at hasked

/-! ### What a step makes of a machine -/

/-- Nothing, or it takes in what the other machine says and shows it, or it sweeps. -/
inductive Does (b : Station) (clusterId : String) (port : UInt16) (nowMs : UInt64) (s : Machine) : Machine → Prop
  | nothing : Does b clusterId port nowMs s s
  | hears {peers : List LanPeer} (h : Heard b clusterId port nowMs peers) :
    Does b clusterId port nowMs s (syncLayoutPeerPresence { s with peers } nowMs)
  | sweeps : Does b clusterId port nowMs s (sweep nowMs s)

section Does

variable {s' : Machine} (hdoes : Does b clusterId port nowMs s s')

include hdoes

theorem Does.kin (h : Kin clusterId own s) : Kin clusterId own s' := by
  cases hdoes with
  | nothing => exact h
  | hears => exact (h.withPeers _).sync
  | sweeps => exact (h.withPeers _).sync

theorem Does.lists (h : Lists b clusterId port s.peers) : Lists b clusterId port s'.peers := by
  cases hdoes with
  | nothing => exact h
  | hears hheard => exact hheard.listed.pruned nowMs
  | sweeps => exact (h.pruned nowMs).pruned nowMs

theorem Does.imported (hkey : isBlank b.transport.publicKey = false) (hlists : Lists b clusterId port s.peers)
    (h : Imported b clusterId port s) : Imported b clusterId port s' := by
  cases hdoes with
  | nothing => exact h
  | hears hheard => exact Imported.sync hheard.listed hkey h
  | sweeps => exact Imported.sync (hlists.pruned nowMs) hkey h

theorem Does.knows (hkey : isBlank b.transport.publicKey = false) (hlists : Lists b clusterId port s.peers)
    (h : Knows b clusterId port s) : Knows b clusterId port s' := by
  refine h.imp (hdoes.imported hkey hlists) fun hpaired => ?_
  cases hdoes with
  | nothing => exact hpaired
  | hears hheard => exact PairedWith.sync hheard.listed hpaired
  | sweeps => exact PairedWith.sync (hlists.pruned nowMs) hpaired

theorem Does.acquainted (hlists : Lists b clusterId port s.peers) (h : Acquainted b port s) :
    Acquainted b port s' := by
  cases hdoes with
  | nothing => exact h
  | hears hheard => exact Acquainted.sync hheard.listed h
  | sweeps => exact Acquainted.sync (hlists.pruned nowMs) h

theorem Does.sight (hkin : Kin clusterId own s) (h : Sight b clusterId port heardAt s) (hle : heardAt ≤ nowMs)
    (hnow : nowMs.toNat ≤ heardAt.toNat + peerTtlMs.toNat) : Sight b clusterId port heardAt s' := by
  cases hdoes with
  | nothing => exact h
  | hears hheard => exact (hheard.earlier hle).sync (hkin.withPeers _) hnow
  | sweeps => exact (h.heard.pruned hnow).sync (hkin.withPeers _) hnow

end Does

/-! ### A packet -/

/-- What a machine of the group sends to the others. -/
structure Tells (b : Station) (clusterId : String) (port : UInt16) (packet : DiscoveryPacket) : Prop where
  protocol : packet.protocol = discoveryProtocol
  kind : packet.kind = "announce" ∨ packet.kind = "probe" ∨ packet.kind = "reply"
  id : packet.peer.id = b.id
  transportPort : packet.peer.transportPort = port
  transportPublicKey : packet.peer.transportPublicKey = b.transport.publicKey
  clusterId : packet.peer.clusterId = clusterId
  pairingRequired : packet.peer.pairingRequired = false

theorem turn_id (station : Station) (moment : Moment) (s : Machine) :
    (station.turn moment s).currentPeer.id = station.id := by
  simp only [Station.turn, Turn.currentPeer, Turn.localPeer, applyTransportToPeer, localPeerFromLayout, Station.id]

theorem turn_clusterId (station : Station) (moment : Moment) (h : Kin clusterId port s) :
    (station.turn moment s).currentPeer.clusterId = clusterId := by
  show advertisedClusterId s.layout = clusterId
  rw [advertisedClusterId, h.paired]
  exact h.clusterId

theorem Kin.tells (h : Kin clusterId port s) (moment : Moment) {kind : String}
    (hkind : kind = "announce" ∨ kind = "probe" ∨ kind = "reply") :
    Tells b clusterId port (discoveryPacket kind (b.turn moment s).currentPeer) :=
  ⟨rfl, hkind, turn_id b moment s, h.transportPort, rfl, turn_clusterId b moment h, h.paired⟩

/-- The packet, as it is read. -/
theorem Tells.incoming {packet : DiscoveryPacket} (h : Tells b clusterId port packet) {localPeerId : String}
    (hid : b.id ≠ localPeerId) (nowMs : UInt64) :
    ∃ incoming, incomingDiscovery (some packet) b.ip.text localPeerId nowMs = some incoming ∧
      incoming.kind = packet.kind ∧ Shows b clusterId port incoming.peer ∧ incoming.peer.lastSeenMs = nowMs := by
  have hdecode : decodeDiscoveryPacket (some packet) = some packet := by
    rw [decodeDiscoveryPacket, Option.filter_some, if_pos (decide_eq_true h.protocol)]
  have hother : packet.peer.id ≠ localPeerId := by
    rw [h.id]
    exact hid
  rw [incomingDiscovery, hdecode, Option.bind_some, peerFromDiscoveryPacket, if_neg hother]
  exact ⟨_, rfl, rfl, ⟨h.id, rfl, h.transportPort, h.transportPublicKey, h.clusterId, h.pairingRequired⟩, rfl⟩

variable (random : ℕ → String) {packet : DiscoveryPacket}

/-- **A packet is taken**: the machine is listed and shown, and nothing is sent but a reply. -/
theorem receive_said (hids : b.id ≠ a.id) (hgroup : GroupName clusterId) (hown : Kin clusterId own s)
    (htells : Tells b clusterId port packet) (ma : Moment) :
    ∃ peer, Shows b clusterId port peer ∧ peer.lastSeenMs = ma.nowMs ∧
      (receive random (a.turn ma s) (some packet) b.ip.text s).1 =
        syncLayoutPeerPresence (mergePeer s peer ma.nowMs) ma.nowMs ∧
      ∀ datagram ∈ (receive random (a.turn ma s) (some packet) b.ip.text s).2.filterMap
        (Sent.answering packet.kind),
        datagram.packet = discoveryPacket "reply" (a.turn ma s).currentPeer := by
  have hid : b.id ≠ (a.turn ma s).currentPeer.id := by
    rw [turn_id]
    exact hids
  obtain ⟨incoming, hincoming, hkind, hshows, hseen⟩ := htells.incoming hid ma.nowMs
  have hvisible : peerVisibleToLayout (a.turn ma s).layout incoming.peer = true := by
    have hcluster : (a.turn ma s).layout.clusterId = clusterId := hown.clusterId
    rw [peerVisibleToLayout, hshows.pairingRequired, hcluster, hgroup.notBlank, hgroup.trimmed]
    simpa using hshows.clusterId
  have hwarm : (warmQuicPeer incoming.peer).filterMap (Sent.answering packet.kind) = [] := by
    unfold warmQuicPeer
    split <;> rfl
  have hpair : ¬ incoming.kind = "pair-request" ∧ ¬ incoming.kind = "pair-confirm" := by
    rw [hkind]
    rcases htells.kind with h | h | h <;> rw [h] <;> decide
  have hnow : (a.turn ma s).nowMs = ma.nowMs := rfl
  unfold receive
  rw [hnow, hincoming]
  dsimp only
  rw [if_neg hpair.1, if_neg hpair.2, hvisible]
  refine ⟨incoming.peer, hshows, hseen, rfl, fun datagram hdatagram => ?_⟩
  simp only [if_true, List.filterMap_append, hwarm, List.nil_append] at hdatagram
  split at hdatagram
  · rw [List.mem_singleton.mp hdatagram]
  · cases hdatagram

/-! ### The answers to a probe -/

theorem answers_concat (b : Station) (nowMs : UInt64) (packets : List DiscoveryPacket) (packet : DiscoveryPacket) :
    b.answers nowMs (packets ++ [packet]) = b.answers nowMs packets ++ [⟨some packet, b.ip.text, nowMs⟩] :=
  List.map_append

/-- The receive loop, one more answer at the end. -/
theorem collectPeers_concat (localPeer : LanPeer) (answers : List Answer) {answer : Answer}
    {incoming : IncomingDiscovery} (hincoming : answer.incoming localPeer = some incoming)
    (hvisible : peerVisibleToLocalPeer localPeer incoming.peer = true) :
    collectPeers localPeer (answers ++ [answer]) =
      mergePeerEntry (collectPeers localPeer answers) incoming.peer answer.nowMs := by
  rw [collectPeers, collectPeers, List.foldl_append, List.foldl_cons, List.foldl_nil, hincoming]
  dsimp only
  rw [if_pos hvisible]

section Answers

variable (hids : b.id ≠ a.id) (hgroup : GroupName clusterId) (hown : Kin clusterId own s) (ma : Moment)

include hids hgroup hown

theorem collectPeers_said {packets : List DiscoveryPacket}
    (htells : ∀ packet ∈ packets, Tells b clusterId port packet) :
    ∀ peer ∈ collectPeers (a.turn ma s).currentPeer (b.answers ma.nowMs packets),
      Shows b clusterId port peer ∧ peer.lastSeenMs = ma.nowMs := by
  have hid : b.id ≠ (a.turn ma s).currentPeer.id := by
    rw [turn_id]
    exact hids
  induction packets using List.reverseRecOn with
  | nil => exact List.forall_mem_nil _
  | append_singleton packets packet ih =>
    have hcollected := ih fun other hother => htells other (List.mem_append_left _ hother)
    obtain ⟨incoming, hincoming, -, hshows, hseen⟩ :=
      (htells packet (List.mem_append_right _ List.mem_cons_self)).incoming hid ma.nowMs
    have hvisible : peerVisibleToLocalPeer (a.turn ma s).currentPeer incoming.peer = true := by
      rw [peerVisibleToLocalPeer, hshows.pairingRequired, turn_clusterId a ma hown, hgroup.notBlank,
        hgroup.trimmed]
      simpa using hshows.clusterId
    have hanswer : Answer.incoming ⟨some packet, b.ip.text, ma.nowMs⟩ (a.turn ma s).currentPeer = some incoming :=
      hincoming
    rw [answers_concat, collectPeers_concat _ _ hanswer hvisible]
    intro peer hpeer
    rcases of_mem_mergePeerEntry hpeer with rfl | hmem
    · exact ⟨hshows, hseen⟩
    · exact hcollected peer hmem

omit hids hgroup hown in
/-- The collected peers are put on the list one by one. -/
theorem mergePeers_said {collected : List LanPeer} (hlists : Lists b clusterId port s.peers)
    (hcollected : ∀ peer ∈ collected, Shows b clusterId port peer ∧ peer.lastSeenMs = nowMs)
    (hne : collected ≠ []) :
    ∃ peers, collected.foldl (mergePeer · · nowMs) s = { s with peers } ∧ Heard b clusterId port nowMs peers := by
  obtain ⟨front, last, rfl⟩ := (List.eq_nil_or_concat' collected).resolve_left hne
  obtain ⟨hshows, hseen⟩ := hcollected last (List.mem_append_right _ List.mem_cons_self)
  have hfront : ∃ peers, front.foldl (mergePeer · · nowMs) s = { s with peers } ∧
    Lists b clusterId port peers := by
    have hall : ∀ peer ∈ front, Shows b clusterId port peer ∧ peer.lastSeenMs = nowMs :=
      fun peer hpeer => hcollected peer (List.mem_append_left _ hpeer)
    clear hcollected
    induction front using List.reverseRecOn with
    | nil => exact ⟨s.peers, rfl, hlists⟩
    | append_singleton front peer ih =>
      obtain ⟨peers, heq, hpeers⟩ := ih (by simp) fun other hother => hall other (List.mem_append_left _ hother)
      obtain ⟨hpeer, hpeerSeen⟩ := hall peer (List.mem_append_right _ List.mem_cons_self)
      exact ⟨mergePeerEntry peers peer nowMs, by rw [List.foldl_append, heq]; rfl,
        (hpeers.merge hpeer hpeerSeen).listed⟩
  obtain ⟨peers, heq, hpeers⟩ := hfront
  exact ⟨mergePeerEntry peers last nowMs, by rw [List.foldl_append, heq]; rfl, hpeers.merge hshows hseen⟩

/-- The machine takes the answers to its probes. -/
theorem announce_said (hlists : Lists b clusterId port s.peers) {packets : List DiscoveryPacket}
    (htells : ∀ packet ∈ packets, Tells b clusterId port packet) (broadcastTargets directTargets : List String) :
    Does b clusterId port ma.nowMs s
      (announce (a.turn ma s) broadcastTargets directTargets (b.answers ma.nowMs packets) s).1 := by
  have hcollected := collectPeers_said hids hgroup hown ma htells
  obtain ⟨collected, hprobed⟩ : ∃ collected, probeKnownPeerTargets (a.turn ma s).currentPeer directTargets
      (b.answers ma.nowMs packets) = collected := ⟨_, rfl⟩
  have hsaid : ∀ peer ∈ collected, Shows b clusterId port peer ∧ peer.lastSeenMs = ma.nowMs := by
    rw [← hprobed, probeKnownPeerTargets]
    split
    · exact nofun
    · exact hcollected
  unfold announce
  rw [hprobed]
  dsimp only
  split
  · exact .nothing
  · rename_i hsome
    obtain ⟨peers, heq, hheard⟩ := mergePeers_said hlists hsaid (by simpa using hsome)
    rw [show (a.turn ma s).nowMs = ma.nowMs from rfl, heq]
    exact .hears hheard

end Answers

/-! ### Steps -/

section Steps

variable {station : Bool → Station} {ports : Bool → UInt16} {lan : Lan} {step : LanStep} {side : Bool}

@[simp] theorem put_machine_self (s : Machine) (sent : List Datagram) : (lan.put side s sent).machine side = s :=
  Function.update_self ..

@[simp] theorem put_machine_not (s : Machine) (sent : List Datagram) :
    (lan.put side s sent).machine (!side) = lan.machine !side := Function.update_of_ne (by simp) ..

@[simp] theorem put_sent_self (s : Machine) (sent : List Datagram) :
    (lan.put side s sent).sent side = lan.sent side ++ sent := Function.update_self ..

@[simp] theorem put_sent_not (s : Machine) (sent : List Datagram) :
    (lan.put side s sent).sent (!side) = lan.sent !side := Function.update_of_ne (by simp) ..

/-- One side of the network: the machine is in the group and has heard of nobody but the other one, and
what it has sent is its own. -/
structure Side (station : Bool → Station) (ports : Bool → UInt16) (clusterId : String) (lan : Lan) (side : Bool) :
    Prop where
  kin : Kin clusterId (ports side) (lan.machine side)
  listed : Lists (station !side) clusterId (ports !side) (lan.machine side).peers
  sent : ∀ datagram ∈ lan.sent side, Tells (station side) clusterId (ports side) datagram.packet

/-- What is shared by the group: its name, and keys and ids by which the machines can be told apart. -/
structure Group (station : Bool → Station) (clusterId : String) : Prop where
  name : GroupName clusterId
  key : ∀ side, isBlank (station side).transport.publicKey = false
  ids : ∀ side, (station !side).id ≠ (station side).id

theorem tells_announced (hside : Side station ports clusterId lan side) (moment : Moment) :
    ∀ datagram ∈ lan.announced station side moment,
      Tells (station side) clusterId (ports side) datagram.packet := by
  intro datagram hdatagram
  rcases List.mem_append.mp hdatagram with h | h
  · obtain ⟨_, _, rfl⟩ := List.mem_map.mp h
    exact hside.kin.tells moment (.inl rfl)
  · obtain ⟨_, _, rfl⟩ := List.mem_map.mp h
    exact hside.kin.tells moment (.inr (.inl rfl))

variable (hgroup : Group station clusterId)

include hgroup

/-- A packet of the other machine is taken. -/
theorem receives_does (hside : Side station ports clusterId lan side) {datagram : Datagram} (moment : Moment)
    (htells : Tells (station !side) clusterId (ports !side) datagram.packet) :
    ∃ peers sent, Heard (station !side) clusterId (ports !side) moment.nowMs peers ∧
      nextLan random station lan (.receives side moment datagram) =
        lan.put side (syncLayoutPeerPresence { lan.machine side with peers } moment.nowMs) sent ∧
      ∀ answer ∈ sent, Tells (station side) clusterId (ports side) answer.packet := by
  obtain ⟨peer, hpeer, hseen, hstate, hanswers⟩ :=
    receive_said random (hgroup.ids side) hgroup.name hside.kin htells moment
  refine ⟨_, _, hside.listed.merge hpeer hseen, congrArg (lan.put side · _) hstate, fun answer hanswer => ?_⟩
  rw [hanswers answer hanswer]
  exact hside.kin.tells moment (.inr (.inr rfl))

/-- **One step**: a machine takes in what the other one has sent or sweeps, and sends what is its own. -/
theorem next_does (h : ∀ side, Side station ports clusterId lan side)
    (hpossible : Possible station ports lan step) :
    ∃ s sent, nextLan random station lan step = lan.put step.side s sent ∧
      Does (station !step.side) clusterId (ports !step.side) step.nowMs (lan.machine step.side) s ∧
      ∀ datagram ∈ sent, Tells (station step.side) clusterId (ports step.side) datagram.packet := by
  cases step with
  | announces side moment =>
    exact ⟨lan.machine side, lan.announced station side moment, rfl, .nothing, tells_announced (h side) moment⟩
  | collects side moment answers =>
    have htells : ∀ packet ∈ answers, Tells (station !side) clusterId (ports !side) packet :=
      fun packet hpacket => (h !side).sent _ (hpossible packet hpacket)
    exact ⟨_, [], rfl, announce_said (hgroup.ids side) hgroup.name (h side).kin moment (h side).listed htells
      (broadcastAddrsForIps (station side).basePort (station side).localIps)
      (knownPeerDiscoveryTargets (lan.machine side).layout (station side).basePort), List.forall_mem_nil _⟩
  | receives side moment datagram =>
    obtain ⟨peers, sent, hheard, hnext, hsent⟩ :=
      receives_does random hgroup (h side) moment ((h !side).sent _ hpossible.1)
    exact ⟨_, sent, hnext, .hears hheard, hsent⟩
  | sweeps side nowMs => exact ⟨sweep nowMs (lan.machine side), [], rfl, .sweeps, List.forall_mem_nil _⟩

/-- What every step of a machine keeps, a step of the network keeps. -/
theorem next_keeps {I : Machine → Prop} (h : ∀ side, Side station ports clusterId lan side)
    (hpossible : Possible station ports lan step)
    (hkeeps : ∀ s', step.side = side →
      Does (station !side) clusterId (ports !side) step.nowMs (lan.machine side) s' → I (lan.machine side) → I s')
    (hold : I (lan.machine side)) : I ((nextLan random station lan step).machine side) := by
  obtain ⟨s', sent, hnext, hdoes, -⟩ := next_does random hgroup h hpossible
  rw [hnext]
  by_cases hown : step.side = side
  · subst hown
    rw [put_machine_self]
    exact hkeeps s' rfl hdoes hold
  · obtain rfl : side = !step.side := by simpa [Bool.eq_not, eq_comm] using hown
    rwa [put_machine_not]

/-- Both sides stay as they are. -/
theorem next_sides (h : ∀ side, Side station ports clusterId lan side)
    (hpossible : Possible station ports lan step)
    (side : Bool) : Side station ports clusterId (nextLan random station lan step) side := by
  refine ⟨next_keeps random hgroup h hpossible (fun s' _ hdoes hkin => hdoes.kin hkin) (h side).kin,
    next_keeps (I := fun s => Lists (station !side) clusterId (ports !side) s.peers) random hgroup h hpossible
      (fun s' _ hdoes hlists => hdoes.lists hlists) (h side).listed, ?_⟩
  obtain ⟨s, sent, hnext, -, hsent⟩ := next_does random hgroup h hpossible
  rw [hnext]
  intro datagram hdatagram
  by_cases hown : side = step.side
  · subst hown
    rw [put_sent_self] at hdatagram
    rcases List.mem_append.mp hdatagram with hbefore | hnew
    · exact (h _).sent datagram hbefore
    · exact hsent datagram hnew
  · obtain rfl : side = !step.side := by simpa [Bool.eq_not] using hown
    rw [put_sent_not] at hdatagram
    exact (h _).sent datagram hdatagram

end Steps

/-! ### Runs -/

theorem normalizeTransportPort_of_le (hlow : transportPortMin ≤ port) : normalizeTransportPort port = port := by
  have hhigh : port ≤ transportPortMax := UInt16.le_iff_toNat_le.mpr (Nat.le_of_lt_succ port.toNat_lt)
  have hmin : min port transportPortMax = port := if_pos hhigh
  rw [normalizeTransportPort, hmin]
  exact if_pos hlow

/-- A machine is bound to a port which the others write to, if one of these is free. -/
structure Bound (binds : UInt16 → Bool) (ephemeral : Except String UInt16) (base port : UInt16) : Prop where
  bound : bindAvailableUdpPort binds ephemeral base = .ok port
  free : ∃ port ∈ discoveryTargetPorts base, binds port = true

theorem Bound.mem {binds : UInt16 → Bool} {ephemeral : Except String UInt16} {base : UInt16}
    (h : Bound binds ephemeral base port) :
    port ∈ discoveryTargetPorts base := bound_mem_targetPorts h.bound h.free

theorem Bound.normal {binds : UInt16 → Bool} {ephemeral : Except String UInt16} {base : UInt16}
    (h : Bound binds ephemeral base port) : normalizeTransportPort port = port := by
  have hlow := (mem_discoveryTargetPorts.mp h.mem).1
  have hbase : transportPortMin ≤ normalizeTransportPort base := by
    show transportPortMin ≤ if transportPortMin ≤ min base transportPortMax then _ else transportPortMin
    split
    · assumption
    · exact UInt16.le_refl _
  exact normalizeTransportPort_of_le (UInt16.le_trans hbase (UInt16.le_iff_toNat_le.mpr hlow))

section Runs

variable {station : Bool → Station} {ports : Bool → UInt16} {lan : Lan} {steps : List LanStep} {side : Bool}
  {binds : Bool → UInt16 → Bool} {ephemeral : Bool → Except String UInt16}

theorem broadcast_mem_announced {text : String} (moment : Moment)
    (h : text ∈ broadcastAddrsForIps (station side).basePort (station side).localIps) :
    (⟨discoveryPacket "announce" ((station side).turn moment (lan.machine side)).currentPeer,
      .address text⟩ : Datagram) ∈ lan.announced station side moment :=
  List.mem_append_left _ (List.mem_map.mpr ⟨text, h, rfl⟩)

theorem probe_mem_announced {text : String} (moment : Moment)
    (h : text ∈ knownPeerDiscoveryTargets (lan.machine side).layout (station side).basePort) :
    (⟨discoveryPacket "probe" ((station side).turn moment (lan.machine side)).currentPeer,
      .address text⟩ : Datagram) ∈ lan.announced station side moment :=
  List.mem_append_right _ (List.mem_map.mpr ⟨text, h, rfl⟩)

/-- An announcement is sent to where the other machine hears it. -/
theorem announced_reaches (hbase : (station side).basePort = (station !side).basePort)
    (hbound : Bound (binds !side) (ephemeral !side) (station !side).basePort (ports !side)) (moment : Moment) :
    ∃ datagram ∈ lan.announced station side moment,
      datagram.destination.reaches (station !side) (ports !side) := by
  have hport : ports (!side) ∈ discoveryTargetPorts (station side).basePort := by
    rw [hbase]
    exact hbound.mem
  exact ⟨_, broadcast_mem_announced moment (broadcast_mem_targets (station side).localIps hport), .inl rfl⟩

/-- A machine with the address of the other one writes to it there. -/
theorem announced_direct (hbase : (station side).basePort = (station !side).basePort)
    (hbound : Bound (binds !side) (ephemeral !side) (station !side).basePort (ports !side))
    (hknown : Acquainted (station !side) (ports !side) (lan.machine side)) (moment : Moment) :
    ∃ datagram ∈ lan.announced station side moment,
      datagram.destination = .address (target (station !side).ip.text (ports !side)) := by
  have hport : ports (!side) ∈ discoveryTargetPorts (station side).basePort := by
    rw [hbase]
    exact hbound.mem
  exact ⟨_, probe_mem_announced moment (hknown.asked hport hbound.normal), rfl⟩

variable (hgroup : Group station clusterId)

include hgroup

theorem run_sides (h : ∀ side, Side station ports clusterId lan side)
    (hpossible : Meets (nextLan random station) (Possible station ports) lan steps) :
    ∀ side, Side station ports clusterId (run (nextLan random station) lan steps) side :=
  run_keeps (I := fun lan => ∀ side, Side station ports clusterId lan side)
    (fun _ _ hsides hstep => next_sides random hgroup hsides hstep) h hpossible

/-- What every step of a machine keeps, a run keeps. -/
theorem run_machine {I : Machine → Prop} (side : Bool) (h : ∀ side, Side station ports clusterId lan side)
    (hpossible : Meets (nextLan random station) (Possible station ports) lan steps)
    (hkeeps : ∀ nowMs s s', Lists (station !side) clusterId (ports !side) s.peers →
      Does (station !side) clusterId (ports !side) nowMs s s' → I s → I s') (hold : I (lan.machine side)) :
    I ((run (nextLan random station) lan steps).machine side) := by
  have hboth := run_keeps (I := fun lan => (∀ side, Side station ports clusterId lan side) ∧ I (lan.machine side))
    (fun _ _ hbefore hstep => ⟨next_sides random hgroup hbefore.1 hstep, next_keeps random hgroup hbefore.1 hstep
      (fun s' _ hdoes => hkeeps _ _ s' (hbefore.1 side).listed hdoes) hbefore.2⟩) ⟨h, hold⟩ hpossible
  exact hboth.2

/-- What the machine sees, it sees to the end of a run in which it does not sweep too late. -/
theorem run_sight (h : ∀ side, Side station ports clusterId lan side)
    (hpossible : Meets (nextLan random station) (Possible station ports) lan steps)
    (hsight : Sight (station !side) clusterId (ports !side) heardAt (lan.machine side))
    (htimes : ∀ step ∈ steps, step.side = side →
      heardAt ≤ step.nowMs ∧ step.nowMs.toNat ≤ heardAt.toNat + peerTtlMs.toNat) :
    Sight (station !side) clusterId (ports !side) heardAt
      ((run (nextLan random station) lan steps).machine side) := by
  induction steps generalizing lan with
  | nil => exact hsight
  | cons step steps ih =>
    obtain ⟨hstep, hrest⟩ := hpossible
    rw [run_cons]
    have hkeeps : ∀ s', step.side = side →
        Does (station !side) clusterId (ports !side) step.nowMs (lan.machine side) s' →
        Sight (station !side) clusterId (ports !side) heardAt (lan.machine side) →
        Sight (station !side) clusterId (ports !side) heardAt s' := by
      intro s' hown hdoes hbefore
      obtain ⟨hlow, hhigh⟩ := htimes step List.mem_cons_self hown
      exact hdoes.sight (h side).kin hbefore hlow hhigh
    exact ih (next_sides random hgroup h hstep) hrest (next_keeps random hgroup h hstep hkeeps hsight)
      fun later hlater => htimes later (List.mem_cons_of_mem _ hlater)

/-- **Found and kept.**  Two machines of one group, neither of which waits to be paired, with nobody else on the
network, meet at one base port and have each found one of the ports there free.  In every run, with whatever is
lost, late, doubled or out of order on the way, each announcement is also sent to where the other machine hears it.
Once a machine has received a packet of the other one it lists it, at its address and with its key, until it sweeps
more than ninety seconds later, or its clock goes back behind that moment, and if one of its devices is for the
other machine, as on a server which has imported it, that device is online.  If this is so, or the other machine is
one of its paired controllers, as on a client, it writes to that address in all its announcements, however long it
hears nothing. -/
theorem found_and_kept (hbase : ∀ side, (station side).basePort = (station !side).basePort)
    (hbound : ∀ side, Bound (binds side) (ephemeral side) (station side).basePort (ports side))
    (h : ∀ side, Side station ports clusterId lan side) {before after : List LanStep} {moment : Moment}
    {datagram : Datagram} (hpossible : Meets (nextLan random station) (Possible station ports) lan
      (before ++ .receives side moment datagram :: after)) :
    let reached := run (nextLan random station) lan (before ++ .receives side moment datagram :: after)
    (∀ sender announcing, ∃ sent ∈ reached.announced station sender announcing,
        sent.destination.reaches (station !sender) (ports !sender)) ∧
      ((∀ step ∈ after, step.side = side →
          moment.nowMs ≤ step.nowMs ∧ step.nowMs.toNat ≤ moment.nowMs.toNat + peerTtlMs.toNat) →
        (∃ peer ∈ (reached.machine side).peers, Shows (station !side) clusterId (ports !side) peer) ∧
          (Imported (station !side) clusterId (ports !side) (lan.machine side) →
            Online (station !side) (ports !side) (reached.machine side))) ∧
      (Knows (station !side) clusterId (ports !side) (lan.machine side) →
        ∀ announcing, ∃ sent ∈ reached.announced station side announcing,
          sent.destination = .address (target (station !side).ip.text (ports !side))) := by
  intro reached
  obtain ⟨hbefore, hreceives, hafter⟩ := (meets_append _ _ _ _ _).mp hpossible
  have hsides := run_sides random hgroup h hbefore
  have hsides' := next_sides random hgroup hsides hreceives
  obtain ⟨peers, sent, hheard, hnext, -⟩ :=
    receives_does random hgroup (hsides side) moment ((hsides !side).sent _ hreceives.1)
  have hkin := (hsides side).kin.withPeers peers
  have hreached : reached = run (nextLan random station)
      (nextLan random station (run (nextLan random station) lan before)
        (.receives side moment datagram)) after := by
    show run _ _ _ = _
    rw [run_append, run_cons]
  refine ⟨fun sender announcing => announced_reaches (hbase sender) (hbound !sender) announcing, fun htimes => ?_,
    fun hknows announcing => ?_⟩
  · have hlast : Sight (station !side) clusterId (ports !side) moment.nowMs (reached.machine side) := by
      rw [hreached]
      refine run_sight random hgroup hsides' hafter ?_ htimes
      rw [hnext, put_machine_self]
      exact hheard.sync hkin (Nat.le_add_right _ _)
    obtain ⟨peer, hpeer, -⟩ := hlast.heard.fresh
    refine ⟨⟨peer, hpeer, hlast.heard.listed peer hpeer⟩, fun himported => hlast.online ?_⟩
    exact run_machine random hgroup side h hpossible
      (fun _ _ _ hlists hdoes => hdoes.imported (hgroup.key _) hlists) himported
  · have hknown := run_machine random hgroup side h hbefore
      (fun _ _ _ hlists hdoes => hdoes.knows (hgroup.key _) hlists) hknows
    have hlast : Acquainted (station !side) (ports !side) (reached.machine side) := by
      rw [hreached]
      refine run_machine random hgroup side hsides' hafter (fun _ _ _ hlists hdoes => hdoes.acquainted hlists) ?_
      rw [hnext, put_machine_self]
      exact hheard.acquaints (hgroup.key _) hkin hknown (Nat.le_add_right _ _)
    exact announced_direct (hbase side) (hbound !side) hlast announcing

end Runs

/-! ### Two machines -/

def sampleStation (host key : String) (d : UInt8) : Station :=
  { machine :=
      { deviceName := host, hostname := some host, ipAddress := some "1", platform := "windows",
        appVersion := "1" }
    transport := { port := 47834, publicKey := key }
    ip := ⟨10, 0, 0, d⟩, basePort := 47833, localIps := [⟨10, 0, 0, d⟩] }

def sampleStations : Bool → Station
  | true => sampleStation "a" "ka" 1
  | false => sampleStation "b" "kb" 2

/-- A machine without devices for others, or with the one given. -/
def sampleMachine (role : String) (devices : List Device) (pairedControllers : List PairedController) : Machine :=
  { layout :=
      { devices, inputMode := "", machineRole := role, clusterId := "g", pairSecret := "s", pairedControllers
        trustedPeers := [], transportPort := 47833, quicPort := 47834 }
    peers := [], challenge := none, drawn := 0, registry := .empty }

/-- A server has imported the other machine, whose address it does not know yet. -/
def sampleServer : Machine :=
  sampleMachine "server"
    [{ id := "peer", role := "remote", screens := [], name := "", platform := "", host := "", transportPort := 0,
       quicPort := 0, transportPublicKey := "kb", protocolVersion := 1, online := false, inputReady := false,
       upgrading := false, upgradingUntilMs := 0, source := "manual" }] []

/-- A client has been paired with the server. -/
def sampleClient : Machine := sampleMachine "client" [] [⟨"c", "", "", "", "ka", 1, "g", 0⟩]

def sampleLan : Lan := { machine := fun side => if side then sampleServer else sampleClient, sent := fun _ => [] }

def sampleMoment (nowMs : UInt64) : Moment := { inputReceiveEnabled := true, upgrading := false, now := 0, nowMs }

/-- The broadcast of a machine. -/
def sampleDatagram (side : Bool) : Datagram :=
  ⟨discoveryPacket "announce" ((sampleStations side).turn (sampleMoment 0) (sampleLan.machine side)).currentPeer,
    .address (target limitedBroadcast.text 47833)⟩

/-- One machine hears the broadcast of the other, late; then it announces itself and sweeps in time. -/
def sampleRun (side : Bool) : Lan :=
  run (nextLan (fun _ => "") sampleStations) sampleLan
    ([.announces (!side) (sampleMoment 0)] ++ .receives side (sampleMoment 2000) (sampleDatagram !side) ::
      [.announces side (sampleMoment 3000), .sweeps side 92000])

/-- The server shows its client, and the client writes to its server. -/
theorem found_and_kept_sample :
    Online (sampleStations false) 47833 ((sampleRun true).machine true) ∧
      ∃ sent ∈ (sampleRun false).announced sampleStations false (sampleMoment 200000),
        sent.destination = .address (target (sampleStations true).ip.text 47833) := by
  have hgroup : Group sampleStations "g" :=
    ⟨⟨by decide, by decide⟩, fun side => by cases side <;> decide, fun side => by cases side <;> decide⟩
  have hbase : ∀ side, (sampleStations side).basePort = (sampleStations !side).basePort := fun side => by
    cases side <;> rfl
  have hbound : ∀ side, Bound (fun _ => true) (.error "") (sampleStations side).basePort 47833 := fun side => by
    cases side <;> exact ⟨rfl, 47833, mem_discoveryTargetPorts.mpr (by decide), rfl⟩
  have hsides : ∀ side, Side sampleStations (fun _ => 47833) "g" sampleLan side := fun side => by
    cases side <;> exact ⟨⟨rfl, by decide, rfl⟩, List.forall_mem_nil _, List.forall_mem_nil _⟩
  have himported : Imported (sampleStations false) "g" 47833 sampleServer := by
    refine ⟨_, List.mem_singleton_self _, show "remote" ≠ "local" by decide, fun peer hpeer => ?_⟩
    unfold deviceMatchesPeer
    simp [hpeer.transportPublicKey, sampleStations, sampleStation, show isBlank "kb" = false by decide]
  have hpaired : PairedWith (sampleStations true) "g" 47833 sampleClient := by
    refine ⟨_, List.mem_singleton_self _, fun peer hpeer => ?_⟩
    unfold pairedControllerCanRepairWithPeer pairedControllerIdentityMatchesPeer
    simp [hpeer.transportPublicKey, sampleStations, sampleStation, show isBlank "ka" = false by decide]
  have hpossible : ∀ side, Meets (nextLan (fun _ => "") sampleStations) (Possible sampleStations fun _ => 47833)
      sampleLan ([.announces (!side) (sampleMoment 0)] ++
        .receives side (sampleMoment 2000) (sampleDatagram !side) ::
        [.announces side (sampleMoment 3000), .sweeps side 92000]) := by
    intro side
    refine ⟨trivial, ⟨?_, .inl rfl⟩, trivial, trivial, trivial⟩
    show sampleDatagram (!side) ∈ (sampleLan.put (!side) _ _).sent (!side)
    rw [put_sent_self]
    have hport : 47833 ∈ discoveryTargetPorts (sampleStations !side).basePort := by
      rw [mem_discoveryTargetPorts]
      cases side <;> decide
    exact List.mem_append_right _ (broadcast_mem_announced _ (broadcast_mem_targets _ hport))
  refine ⟨((found_and_kept _ hgroup hbase hbound hsides (hpossible true)).2.1 (by decide)).2 himported, ?_⟩
  exact (found_and_kept _ hgroup hbase hbound hsides (hpossible false)).2.2 (.inr hpaired) (sampleMoment 200000)

end MyKvm.Discovery
