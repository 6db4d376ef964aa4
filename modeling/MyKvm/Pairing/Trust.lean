import MyKvm.Discovery.Peers

/-!
# MyKvm.Pairing.Trust — the trusted peers of the layout

Pairing appends a record with a fresh trust revision and removes whatever had the same identity or the same
certificate. The transport gets the records as the list for its registry.
-/

namespace MyKvm.Pairing

open MyKvm.Lib MyKvm.Discovery MyKvm.Transport MyKvm.Receiver

/-- One more than any record has, as far as it goes. -/
def nextTrustRevision (peers : List TrustedPeerRecord) : UInt64 :=
  max (saturatingAdd ((peers.map (·.trustRevision)).max?.getD 0) 1) 1

theorem nextTrustRevision_ne_zero (peers : List TrustedPeerRecord) : nextTrustRevision peers ≠ 0 := by
  intro hzero
  have hvalue := congrArg UInt64.toNat hzero
  have hone : (1 : UInt64).toNat = 1 := rfl
  unfold nextTrustRevision at hvalue
  rw [max_toNat, hone, UInt64.toNat_zero] at hvalue
  omega

/-- **What the next revision is above**: whatever a record of the list is not below,
short of the end of the range. -/
theorem lt_nextTrustRevision_iff {peers : List TrustedPeerRecord} {revision : UInt64} (hrevision : revision ≠ 0) :
    revision < nextTrustRevision peers ↔ revision ≠ u64Max ∧ ∃ peer ∈ peers, revision ≤ peer.trustRevision := by
  have hone : (1 : UInt64).toNat = 1 := rfl
  have hpositive : revision.toNat ≠ 0 := fun h => hrevision (UInt64.toNat_inj.mp h)
  have hend : revision ≠ u64Max ↔ revision.toNat ≠ 2 ^ 64 - 1 := by
    rw [← u64Max_toNat, ne_eq, ne_eq, UInt64.toNat_inj]
  have hbound := toNat_lt_size revision
  unfold nextTrustRevision
  rw [UInt64.lt_iff_toNat_lt, max_toNat, saturatingAdd_toNat, hone, hend]
  constructor
  · intro hlt
    rcases max?_getD_mem (peers.map (·.trustRevision)) 0 with hmem | hnone
    · obtain ⟨peer, hpeer, hgreatest⟩ := List.mem_map.mp hmem
      refine ⟨by omega, peer, hpeer, ?_⟩
      rw [UInt64.le_iff_toNat_le, hgreatest]
      omega
    · rw [hnone, UInt64.toNat_zero] at hlt
      omega
  · rintro ⟨hlast, peer, hpeer, hle⟩
    have hgreatest := le_max?_getD (List.mem_map_of_mem (f := (·.trustRevision)) hpeer) 0
    have hle := UInt64.le_iff_toNat_le.mp hle
    omega

def upsertTrustedPeer (peers : List TrustedPeerRecord) (id certificate role : String) (pairedAtMs : UInt64) :
    Except String (List TrustedPeerRecord) :=
  if isBlank id || isBlank certificate then .error "配对设备缺少固定身份或证书。"
  else if ¬(role = "controller" ∨ role = "receiver") then .error "配对设备角色无效。"
  else .ok ((peers.filter fun peer => peer.id ≠ id && peer.transportPublicKey ≠ certificate) ++
    [{ id := trimmed id, transportPublicKey := trimmed certificate, role, trustRevision := nextTrustRevision peers,
       pairedAtMs }])

def quicTrustedPeers (layout : LayoutState) : List TrustedPeer :=
  layout.trustedPeers.filterMap fun peer =>
    let trusted (role : PeerRole) : TrustedPeer :=
      { peerId := peer.id, certificate := peer.transportPublicKey, role, trustRevision := peer.trustRevision }
    if peer.role = "controller" then some (trusted .controller)
    else if peer.role = "receiver" then some (trusted .receiver)
    else none

/-- The layout after `reset_pairing`. -/
def withoutControllers (layout : LayoutState) : LayoutState :=
  { layout with
    pairedControllers := []
    trustedPeers := layout.trustedPeers.filter (·.role ≠ "controller") }

/-- **A pairing**: the records with this identity or this certificate go, and one comes. -/
theorem upsertTrustedPeer_eq_ok {peers records : List TrustedPeerRecord} {id certificate role : String}
    {pairedAtMs : UInt64} :
    upsertTrustedPeer peers id certificate role pairedAtMs = .ok records ↔
      isBlank id = false ∧ isBlank certificate = false ∧ (role = "controller" ∨ role = "receiver") ∧
        records = (peers.filter fun peer => peer.id ≠ id && peer.transportPublicKey ≠ certificate) ++
          [⟨trimmed id, trimmed certificate, role, nextTrustRevision peers, pairedAtMs⟩] := by
  unfold upsertTrustedPeer
  by_cases hblank : (isBlank id || isBlank certificate) = true
  · rw [if_pos hblank]
    refine ⟨fun h => (by cases h), fun h => ?_⟩
    simp [h.1, h.2.1] at hblank
  · rw [if_neg hblank]
    have hboth : isBlank id = false ∧ isBlank certificate = false := by simpa using hblank
    by_cases hrole : role = "controller" ∨ role = "receiver"
    · rw [if_neg (not_not.mpr hrole), Except.ok.injEq]
      exact ⟨fun h => ⟨hboth.1, hboth.2, hrole, h.symm⟩, fun h => h.2.2.2.symm⟩
    · rw [if_pos hrole]
      exact ⟨fun h => (by cases h), fun h => absurd h.2.2.1 hrole⟩

/-- The last record is the one which the pairing made. -/
theorem upsertTrustedPeer_ok {peers records : List TrustedPeerRecord} {id certificate role : String}
    {pairedAtMs : UInt64} (h : upsertTrustedPeer peers id certificate role pairedAtMs = .ok records) :
    isBlank id = false ∧ isBlank certificate = false ∧
      ∃ others,
        records = others ++ [⟨trimmed id, trimmed certificate, role, nextTrustRevision peers, pairedAtMs⟩] ∧
        ∀ peer ∈ others, peer ∈ peers ∧ peer.id ≠ id ∧ peer.transportPublicKey ≠ certificate := by
  obtain ⟨hid, hcertificate, -, rfl⟩ := upsertTrustedPeer_eq_ok.mp h
  refine ⟨hid, hcertificate, _, rfl, fun peer hpeer => ?_⟩
  simpa using hpeer

/-- After a reset the transport trusts no controller. -/
theorem resetPairing_registry {decode : String → Except String (List UInt8)}
    {registry replaced : TrustedPeerRegistry}
    {layout : LayoutState}
    (h : registry.replace decode (quicTrustedPeers (withoutControllers layout)) = (replaced, .ok ())) :
    ∀ p ∈ replaced.peers, p.role = .receiver := by
  intro p hp
  obtain ⟨peer, hpeer, _, hrole, _⟩ := TrustedPeerRegistry.mem_of_replace h p hp
  obtain ⟨record, hrecord, hsome⟩ := List.mem_filterMap.mp hpeer
  have hkept : record.role ≠ "controller" := by simpa using (List.mem_filter.mp hrecord).2
  by_cases hreceiver : record.role = "receiver"
  · rw [if_neg hkept, if_pos hreceiver] at hsome
    rw [← hrole, ← Option.some.inj hsome]
  · simp [hkept, hreceiver] at hsome

end MyKvm.Pairing
