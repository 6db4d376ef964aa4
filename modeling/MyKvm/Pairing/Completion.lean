import MyKvm.Discovery.Loop
import MyKvm.Lib.Fallible

/-!
# MyKvm.Pairing.Completion — what a failed pairing leaves behind

The client changes its layout in place, and writes it to the disk afterwards.  An error which comes after the first
of the changes leaves them there.

* `failed_pairing_unchanged_iff`: the errors after which everything is as it was.
-/

namespace MyKvm.Pairing

open MyKvm.Lib MyKvm.Lib.Fallible MyKvm.Discovery

/-- What a `pair-confirm` brings. -/
structure Confirm where
  requester : LanPeer
  code : Option String
  clusterId : Option String
  pairSecret : Option String
  deriving DecidableEq

/-- `written` is the answer of the disk. -/
def completePairingFromConfirm (written : Except String Unit) (confirm : Confirm) (now : ℕ) (nowMs : UInt64) :
    Fallible Machine String Unit := do
  let code := confirm.code.getD ""
  let clusterId := confirm.clusterId.getD ""
  let pairSecret := confirm.pairSecret.getD ""
  lift (← act fun s =>
    let checked := checkConfirmation s.challenge confirm.requester code clusterId pairSecret now
    (checked.2.2, { s with challenge := checked.1 }))
  lift (← act fun s =>
    let recorded := recordPairing s.layout confirm.requester clusterId pairSecret nowMs
    (recorded.2, { s with layout := recorded.1 }))
  lift written

/-- The confirmation is complete, and has the code of a challenge which is open for its requester. -/
def Accepted (challenge : Option PairingChallenge) (confirm : Confirm) (now : ℕ) : Prop :=
  isBlank (confirm.code.getD "") = false ∧ isBlank (confirm.clusterId.getD "") = false ∧
    isBlank (confirm.pairSecret.getD "") = false ∧
    ∃ existing, challenge = some existing ∧ now < existing.expiresAt ∧
      existing.requesterId = confirm.requester.id ∧
      (isBlank existing.requesterPublicKey = false →
        existing.requesterPublicKey = confirm.requester.transportPublicKey) ∧
      existing.code = trimmed (confirm.code.getD "")

/-- No record can be made of the requester. -/
def Nameless (requester : LanPeer) : Prop :=
  isBlank requester.id = true ∨ isBlank requester.transportPublicKey = true

/-- An error comes after the layout has been changed: there is no record, or it is not written. -/
def FailsLate (written : Except String Unit) (confirm : Confirm) (now : ℕ) (s : Machine) : Prop :=
  Accepted s.challenge confirm now ∧ s.layout.machineRole = "client" ∧
    (Nameless confirm.requester ∨ ∃ error, written = .error error)

/-- The layout is already what the pairing makes of it. -/
structure Repeated (layout : LayoutState) (confirm : Confirm) (nowMs : UInt64) : Prop where
  clusterId : layout.clusterId = trimmed (confirm.clusterId.getD "")
  pairSecret : layout.pairSecret = trimmed (confirm.pairSecret.getD "")
  inputMode : layout.inputMode = "receive"
  pairedControllers : layout.pairedControllers =
    [{ id := confirm.requester.id, name := confirm.requester.name, host := confirm.requester.host,
       ip := confirm.requester.ip, transportPublicKey := confirm.requester.transportPublicKey,
       protocolVersion := confirm.requester.protocolVersion, clusterId := trimmed (confirm.clusterId.getD ""),
       pairedAtMs := nowMs }]
  /-- The record has the last revision of the range. -/
  trustedPeers : Nameless confirm.requester ∨ ∃ others,
    layout.trustedPeers = others ++ [⟨trimmed confirm.requester.id, trimmed confirm.requester.transportPublicKey,
      "controller", u64Max, nowMs⟩] ∧
    (∀ peer ∈ others, peer.id ≠ confirm.requester.id ∧
      peer.transportPublicKey ≠ confirm.requester.transportPublicKey) ∧
    (trimmed confirm.requester.id = confirm.requester.id ∨
      trimmed confirm.requester.transportPublicKey = confirm.requester.transportPublicKey)

section Checking

variable {challenge : Option PairingChallenge} {confirm : Confirm} {now : ℕ}

theorem checkConfirmation_ok_iff :
    (checkConfirmation challenge confirm.requester (confirm.code.getD "") (confirm.clusterId.getD "")
        (confirm.pairSecret.getD "") now).2.2 = .ok () ↔ Accepted challenge confirm now := by
  unfold checkConfirmation Accepted
  by_cases hblank : (isBlank (confirm.code.getD "") || isBlank (confirm.clusterId.getD "") ||
      isBlank (confirm.pairSecret.getD "")) = true
  · rw [if_pos hblank]
    refine ⟨fun h => (by cases h), fun h => ?_⟩
    simp [h.1, h.2.1, h.2.2.1] at hblank
  rw [if_neg hblank]
  obtain ⟨⟨hcode, hcluster⟩, hsecret⟩ : (isBlank (confirm.code.getD "") = false ∧
      isBlank (confirm.clusterId.getD "") = false) ∧ isBlank (confirm.pairSecret.getD "") = false := by
    simpa using hblank
  cases challenge with
  | none => simp
  | some existing =>
    dsimp only
    by_cases hexpired : existing.expiresAt ≤ now
    · simp only [if_pos hexpired]
      refine ⟨fun h => (by cases h), ?_⟩
      rintro ⟨-, -, -, _, heq, hopen, -⟩
      cases heq
      omega
    by_cases hother : existing.requesterId ≠ confirm.requester.id ∨ (isBlank existing.requesterPublicKey = false ∧
        existing.requesterPublicKey ≠ confirm.requester.transportPublicKey)
    · simp only [if_neg hexpired, if_pos hother]
      refine ⟨fun h => (by cases h), ?_⟩
      rintro ⟨-, -, -, _, heq, -, hid, hkey, -⟩
      cases heq
      rcases hother with hid' | ⟨hnamed, hkey'⟩
      · exact absurd hid hid'
      · exact absurd (hkey hnamed) hkey'
    by_cases hwrong : existing.code ≠ trimmed (confirm.code.getD "")
    · simp only [if_neg hexpired, if_neg hother, if_pos hwrong]
      refine ⟨fun h => (by cases h), ?_⟩
      rintro ⟨-, -, -, _, heq, -, -, -, hcode⟩
      cases heq
      exact absurd hcode hwrong
    · simp only [if_neg hexpired, if_neg hother, if_neg hwrong]
      obtain ⟨hid, hkey⟩ := not_or.mp hother
      refine ⟨fun _ => ⟨hcode, hcluster, hsecret, existing, rfl, not_le.mp hexpired, not_not.mp hid, ?_,
        not_not.mp hwrong⟩, fun _ => trivial⟩
      exact fun hnamed => not_not.mp fun hne => hkey ⟨hnamed, hne⟩

end Checking

/-! ### The record -/

theorem upsert_fails_iff (peers : List TrustedPeerRecord) (requester : LanPeer) (nowMs : UInt64) :
    (∃ error,
      upsertTrustedPeer peers requester.id requester.transportPublicKey "controller" nowMs = .error error) ↔
      Nameless requester := by
  unfold upsertTrustedPeer Nameless
  rw [← Bool.or_eq_true]
  by_cases hblank : (isBlank requester.id || isBlank requester.transportPublicKey) = true
  · rw [if_pos hblank]
    exact ⟨fun _ => hblank, fun _ => ⟨_, rfl⟩⟩
  · rw [if_neg hblank, if_neg (by simp)]
    exact ⟨fun ⟨_, h⟩ => (by cases h), fun h => absurd h hblank⟩

theorem nextTrustRevision_concat_last (others : List TrustedPeerRecord) {record : TrustedPeerRecord}
    (hlast : record.trustRevision = u64Max) : nextTrustRevision (others ++ [record]) = u64Max := by
  have hgreatest := le_max?_getD
    (List.mem_map_of_mem (f := (·.trustRevision))
      (List.mem_append_right others (List.mem_singleton_self record))) 0
  have hone : (1 : UInt64).toNat = 1 := rfl
  have hend := u64Max_toNat
  have hbound := toNat_lt_size (((others ++ [record]).map (·.trustRevision)).max?.getD 0)
  refine UInt64.toNat_inj.mp ?_
  unfold nextTrustRevision
  rw [max_toNat, saturatingAdd_toNat, hone, hend]
  rw [hlast, hend] at hgreatest
  omega

/-- **A record which changes nothing** is there already, and has the last revision of the range. -/
theorem filter_append_eq_self {peers : List TrustedPeerRecord} {id certificate : String} {nowMs : UInt64} :
    (peers.filter fun peer => peer.id ≠ id && peer.transportPublicKey ≠ certificate) ++
        [⟨trimmed id, trimmed certificate, "controller", nextTrustRevision peers, nowMs⟩] = peers ↔
      ∃ others, peers = others ++ [⟨trimmed id, trimmed certificate, "controller", u64Max, nowMs⟩] ∧
        (∀ peer ∈ others, peer.id ≠ id ∧ peer.transportPublicKey ≠ certificate) ∧
        (trimmed id = id ∨ trimmed certificate = certificate) := by
  constructor
  · intro hsame
    obtain ⟨record, hrecord⟩ : ∃ record : TrustedPeerRecord,
        ⟨trimmed id, trimmed certificate, "controller", nextTrustRevision peers, nowMs⟩ = record := ⟨_, rfl⟩
    have hrevision : record.trustRevision = nextTrustRevision peers := hrecord ▸ rfl
    rw [hrecord] at hsame
    have hmem : record ∈ peers := hsame ▸ List.mem_append_right _ (List.mem_singleton_self record)
    have hlast : nextTrustRevision peers = u64Max := by
      by_contra hne
      have hgreater := (lt_nextTrustRevision_iff (nextTrustRevision_ne_zero peers)).mpr
        ⟨hne, record, hmem, hrevision ▸ UInt64.le_refl _⟩
      exact UInt64.lt_irrefl _ hgreater
    refine ⟨peers.filter fun peer => peer.id ≠ id && peer.transportPublicKey ≠ certificate, ?_,
      fun peer hpeer => ?_, ?_⟩
    · rw [← hlast, hrecord]
      exact hsame.symm
    · simpa using (List.mem_filter.mp hpeer).2
    · -- the record which was there had to go
      by_contra hboth
      obtain ⟨hid, hcertificate⟩ := not_or.mp hboth
      have hstays : (record.id ≠ id && record.transportPublicKey ≠ certificate) = true := by
        rw [← hrecord]
        simp [hid, hcertificate]
      have hall : (peers.filter fun peer => peer.id ≠ id && peer.transportPublicKey ≠ certificate).count record =
          peers.count record := List.count_filter hstays
      have hcount := congrArg (List.count record) hsame
      rw [List.count_append, hall, List.count_singleton_self] at hcount
      omega
  · rintro ⟨others, rfl, hothers, hnamed⟩
    rw [nextTrustRevision_concat_last others rfl, List.filter_append]
    have hkept : (others.filter fun peer => peer.id ≠ id && peer.transportPublicKey ≠ certificate) = others :=
      List.filter_eq_self.mpr fun peer hpeer => by simpa using hothers peer hpeer
    rw [hkept, List.filter_cons_of_neg (by simpa using fun hid => hnamed.resolve_left hid), List.filter_nil,
      List.append_nil]

/-- **A pairing which changes nothing**: it was made before. -/
theorem recordPairing_eq_self_iff {layout : LayoutState} {confirm : Confirm} {nowMs : UInt64}
    (hclient : layout.machineRole = "client") :
    (recordPairing layout confirm.requester (confirm.clusterId.getD "") (confirm.pairSecret.getD "") nowMs).1 =
      layout ↔
      Repeated layout confirm nowMs := by
  unfold recordPairing
  rw [if_neg (not_not.mpr hclient)]
  dsimp only
  cases hupsert : upsertTrustedPeer layout.trustedPeers confirm.requester.id confirm.requester.transportPublicKey
      "controller" nowMs with
  | error error =>
    have hnameless : Nameless confirm.requester := (upsert_fails_iff _ _ _).mp ⟨error, hupsert⟩
    constructor
    · intro hsame
      have hfields := LayoutState.mk.inj hsame
      exact ⟨hfields.2.2.2.1.symm, hfields.2.2.2.2.1.symm, hfields.2.1.symm, hfields.2.2.2.2.2.1.symm,
        .inl hnameless⟩
    · intro h
      have hclusterId := h.clusterId
      have hpairSecret := h.pairSecret
      have hinputMode := h.inputMode
      have hcontrollers := h.pairedControllers
      rw [← hcontrollers, ← hclusterId, ← hpairSecret, ← hinputMode]
  | ok records =>
    obtain ⟨hid, hcertificate, -, hrecords⟩ := upsertTrustedPeer_eq_ok.mp hupsert
    have hnamed : ¬ Nameless confirm.requester := by
      rintro (hblank | hblank)
      · cases hid.symm.trans hblank
      · cases hcertificate.symm.trans hblank
    constructor
    · intro hsame
      have hfields := LayoutState.mk.inj hsame
      refine ⟨hfields.2.2.2.1.symm, hfields.2.2.2.2.1.symm, hfields.2.1.symm, hfields.2.2.2.2.2.1.symm, .inr ?_⟩
      exact filter_append_eq_self.mp (hrecords.symm.trans hfields.2.2.2.2.2.2.1)
    · intro h
      have hpeers : records = layout.trustedPeers :=
        hrecords.trans (filter_append_eq_self.mpr (h.trustedPeers.resolve_left hnamed))
      have hclusterId := h.clusterId
      have hpairSecret := h.pairSecret
      have hinputMode := h.inputMode
      have hcontrollers := h.pairedControllers
      rw [hpeers, ← hcontrollers, ← hclusterId, ← hpairSecret, ← hinputMode]

/-- A record is made exactly if the requester has a name. -/
theorem recordPairing_ok_iff {layout : LayoutState} {requester : LanPeer} {clusterId pairSecret : String}
    {nowMs : UInt64} (hclient : layout.machineRole = "client") :
    (recordPairing layout requester clusterId pairSecret nowMs).2 = .ok () ↔ ¬ Nameless requester := by
  unfold recordPairing
  rw [if_neg (not_not.mpr hclient), ← upsert_fails_iff layout.trustedPeers requester nowMs]
  dsimp only
  cases upsertTrustedPeer layout.trustedPeers requester.id requester.transportPublicKey "controller" nowMs with
  | error error => exact ⟨fun h => (by cases h), fun h => absurd ⟨error, rfl⟩ h⟩
  | ok records => exact ⟨fun _ ⟨_, h⟩ => (by cases h), fun _ => rfl⟩

/-! ### The whole call -/

section Completing

variable (written : Except String Unit) (nowMs : UInt64) {confirm : Confirm} {now : ℕ} {s : Machine}

/-- **Before**: the layout stays as it is until a client has accepted the code. -/
theorem complete_early (h : Accepted s.challenge confirm now → s.layout.machineRole ≠ "client") :
    Ensures (completePairingFromConfirm written confirm now nowMs) s (fun _ _ => False)
      (fun _ s' => s'.layout = s.layout ∧ s'.registry = s.registry) := by
  unfold completePairingFromConfirm
  refine Ensures.bind_act (Ensures.bind_lift (fun _ hchecked => ?_) (fun _ _ => ⟨rfl, rfl⟩))
  have hserver := h (checkConfirmation_ok_iff.mp hchecked)
  have hrefused : recordPairing s.layout confirm.requester (confirm.clusterId.getD "") (confirm.pairSecret.getD "")
      nowMs = (s.layout, .error "只有客户端可以接受服务端配对。") := if_pos hserver
  refine Ensures.bind_act (Ensures.bind_lift (fun _ hrecorded => ?_) (fun _ _ => ?_))
  · dsimp only at hrecorded
    rw [hrefused] at hrecorded
    cases hrecorded
  · dsimp only
    rw [hrefused]
    exact ⟨rfl, rfl⟩

/-- **Afterwards**: the layout is changed, and then it fails if there is no record or it is not written. -/
theorem complete_late (haccepted : Accepted s.challenge confirm now) (hclient : s.layout.machineRole = "client") :
    Ensures (completePairingFromConfirm written confirm now nowMs) s
      (fun _ _ => ¬ (Nameless confirm.requester ∨ ∃ error, written = .error error))
      (fun _ s' => (Nameless confirm.requester ∨ ∃ error, written = .error error) ∧
        s'.layout = (recordPairing s.layout confirm.requester (confirm.clusterId.getD "")
          (confirm.pairSecret.getD "") nowMs).1 ∧ s'.registry = s.registry) := by
  unfold completePairingFromConfirm
  refine Ensures.bind_act (Ensures.bind_lift (fun _ _ => ?_) (fun error hrefused => ?_))
  · refine Ensures.bind_act (Ensures.bind_lift (fun _ hrecorded => ?_) (fun error hfailed => ?_))
    · have hnamed := (recordPairing_ok_iff hclient).mp hrecorded
      refine ensures_lift (fun _ hwritten => ?_) (fun error herror => ⟨.inr ⟨error, herror⟩, rfl, rfl⟩)
      rintro (hnameless | ⟨error, herror⟩)
      · exact hnamed hnameless
      · cases hwritten.symm.trans herror
    · refine ⟨.inl (by_contra fun hnamed => ?_), rfl, rfl⟩
      cases ((recordPairing_ok_iff hclient).mpr hnamed).symm.trans hfailed
  · have hchecked := checkConfirmation_ok_iff.mpr haccepted
    cases hchecked.symm.trans hrefused

/-- **What a failed pairing leaves behind.**  When the call fails the layout and the registry are as before, if and
only if the error does not come after the layout has been changed, or the changes make no difference. -/
theorem failed_pairing_unchanged_iff (written : Except String Unit) (confirm : Confirm) (now : ℕ) (nowMs : UInt64)
    (s : Machine) :
    (∀ error s', (completePairingFromConfirm written confirm now nowMs).exec s = (.error error, s') →
      s'.layout = s.layout ∧ s'.registry = s.registry) ↔
    (FailsLate written confirm now s → Repeated s.layout confirm nowMs) := by
  constructor
  · rintro hunchanged ⟨haccepted, hclient, hfails⟩
    have hlate := complete_late written nowMs haccepted hclient
    cases hexec : (completePairingFromConfirm written confirm now nowMs).exec s with
    | mk answer s' =>
      cases answer with
      | ok => exact absurd hfails (hlate.ok hexec)
      | error error =>
        have hchanged := (hlate.error (congrArg Prod.fst hexec)).2.1
        rw [hexec, (hunchanged error s' hexec).1] at hchanged
        exact (recordPairing_eq_self_iff hclient).mp hchanged.symm
  · intro hlate error s' hexec
    by_cases hreaches : Accepted s.challenge confirm now ∧ s.layout.machineRole = "client"
    · obtain ⟨haccepted, hclient⟩ := hreaches
      obtain ⟨hfails, hlayout, hregistry⟩ :=
        (complete_late written nowMs haccepted hclient).error (congrArg Prod.fst hexec)
      rw [hexec] at hlayout hregistry
      refine ⟨hlayout.trans ?_, hregistry⟩
      exact (recordPairing_eq_self_iff hclient).mpr (hlate ⟨haccepted, hclient, hfails⟩)
    · have hearly := complete_early written nowMs
        fun haccepted hclient => hreaches ⟨haccepted, hclient⟩
      have hsame := hearly.error (congrArg Prod.fst hexec)
      rw [hexec] at hsame
      exact hsame

end Completing

section Examples

def askingServer : LanPeer where
  id := "peer-desk"
  name := "Desk"
  platform := "windows"
  machineRole := "server"
  clusterId := "group"
  pairingRequired := false
  host := "desk"
  ip := "10.0.0.1"
  transportPort := 47833
  quicPort := 47834
  transportPublicKey := "AQID"
  protocolVersion := 1
  screenCount := 0
  inputReady := false
  upgrading := false
  screens := []
  appVersion := "1.0.0"
  lastSeenMs := 1000

/-- A client which shows the code to the server. -/
def askedClient : Machine where
  layout :=
    { devices := [], inputMode := "control", machineRole := "client", clusterId := "own",
      pairSecret := "own-secret",
      pairedControllers := [], trustedPeers := [], transportPort := 47833, quicPort := 47834 }
  peers := []
  challenge := some
    { code := "012345", requesterId := "peer-desk", requesterName := "Desk", requesterIp := "10.0.0.1",
      requesterHost := "desk", requesterPublicKey := "AQID", requesterProtocolVersion := 1, expiresAt := 60000,
      expiresAtMs := 61000, attempts := 0 }
  drawn := 1
  registry := .empty

/-- The layout cannot be written, and the client is in the group of the server all the same. -/
theorem not_failed_pairing_unchanged :
    ¬ ∀ (written : Except String Unit) (confirm : Confirm) (now : ℕ) (nowMs : UInt64) (s : Machine)
      (error : String)
      (s' : Machine), (completePairingFromConfirm written confirm now nowMs).exec s = (.error error, s') →
      s'.layout = s.layout ∧ s'.registry = s.registry := by
  intro hunchanged
  have hsame :=
    hunchanged (.error "failed to write layout file") ⟨askingServer, some "012345", some "group", some "secret"⟩
    1000 2000 askedClient _ _ rfl
  have hgroup := congrArg LayoutState.clusterId hsame.1
  revert hgroup
  decide +kernel

end Examples

end MyKvm.Pairing
