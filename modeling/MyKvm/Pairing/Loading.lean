import MyKvm.Lib.Machine
import MyKvm.Pairing.Challenge

/-!
# MyKvm.Pairing.Loading — whether the transport takes the trusted peers

The records are kept by the text of their identity and of their certificate, and what is stored is trimmed; the
registry compares what is stored, and the certificates as bytes.  `Fits` is the gap between the two: a pairing may
leave a list behind which the registry refuses as a whole.

* `upsert_loadable_iff`: one pairing.
* `trusted_peers_loadable`: histories of pairings and resets.
-/

namespace MyKvm.Pairing

open MyKvm.Lib MyKvm.Discovery MyKvm.Transport MyKvm.Receiver TrustedPeerRegistry

/-- What changes the trusted peers of a machine: it accepts a controller, trusts a receiver, or is reset. -/
inductive TrustCall where
  | acceptController (requester : LanPeer) (clusterId pairSecret : String) (nowMs : UInt64)
  | trustReceiver (peer : LanPeer) (nowMs : UInt64)
  | resetPairing
  deriving DecidableEq

/-- The peer who is paired with, and in which role. -/
def TrustCall.paired : TrustCall → Option (LanPeer × String)
  | .acceptController requester _ _ _ => some (requester, "controller")
  | .trustReceiver peer _ => some (peer, "receiver")
  | .resetPairing => none

/-- The layout after the call; one which fails leaves the records. -/
def nextTrust (layout : LayoutState) : TrustCall → LayoutState
  | .acceptController requester clusterId pairSecret nowMs =>
    (recordPairing layout requester clusterId pairSecret nowMs).1
  | .trustReceiver peer nowMs =>
    match upsertTrustedPeer layout.trustedPeers peer.id peer.transportPublicKey "receiver" nowMs with
    | .ok trustedPeers => { layout with trustedPeers }
    | .error _ => layout
  | .resetPairing => withoutControllers layout

/-- The peer is recorded. -/
def Succeeds (layout : LayoutState) : TrustCall → Prop
  | .acceptController requester clusterId pairSecret nowMs =>
    (recordPairing layout requester clusterId pairSecret nowMs).2 = .ok ()
  | .trustReceiver peer nowMs =>
    ∃ records, upsertTrustedPeer layout.trustedPeers peer.id peer.transportPublicKey "receiver" nowMs = .ok records
  | .resetPairing => True

/-- A record as an entry of the registry's list. -/
def entry? (record : TrustedPeerRecord) : Option TrustedPeer :=
  if record.role = "controller" then
    some ⟨record.id, record.transportPublicKey, .controller, record.trustRevision⟩
  else if record.role = "receiver" then
    some ⟨record.id, record.transportPublicKey, .receiver, record.trustRevision⟩
  else none

theorem quicTrustedPeers_eq (layout : LayoutState) :
    quicTrustedPeers layout = layout.trustedPeers.filterMap entry? := rfl

section Loading

variable (decode : String → Except String (List UInt8))

/-- No name and no certificate of the trusted peers occurs twice for the registry, and it takes the list. -/
structure Loadable (layout : LayoutState) : Prop where
  distinct : (quicTrustedPeers layout).Pairwise fun p q => p.peerId ≠ q.peerId ∧
    decode p.certificate ≠ decode q.certificate
  loads : ∀ registry : TrustedPeerRegistry, (registry.replace decode (quicTrustedPeers layout)).2 = .ok ()

/-- The certificate decodes once it is trimmed, and no record which stays has the trimmed name or the same
certificate. -/
structure Fits (records : List TrustedPeerRecord) (id certificate : String) : Prop where
  decodes : ∃ bytes, decode (trimmed certificate) = .ok bytes ∧ bytes ≠ []
  apart : ∀ record ∈ records, record.id ≠ id → record.transportPublicKey ≠ certificate →
    (record.role = "controller" ∨ record.role = "receiver") →
      record.id ≠ trimmed id ∧ decode record.transportPublicKey ≠ decode (trimmed certificate)

/-- A pairing fits. -/
def Fitting (layout : LayoutState) (call : TrustCall) : Prop :=
  ∀ peer role, call.paired = some (peer, role) → Fits decode layout.trustedPeers peer.id peer.transportPublicKey

end Loading

variable {decode : String → Except String (List UInt8)} {layout : LayoutState}

theorem loadable_iff : Loadable decode layout ↔ Acceptable decode (quicTrustedPeers layout) := by
  constructor
  · intro h
    exact replace_ok_iff.mp (h.loads .empty)
  · intro h
    exact ⟨h.distinct, fun registry => replace_ok_iff.mpr h⟩

/-- A record is an entry, if its role is one. -/
theorem entry?_cases (record : TrustedPeerRecord) :
    ((record.role = "controller" ∨ record.role = "receiver") ∧
      ∃ role, entry? record = some ⟨record.id, record.transportPublicKey, role, record.trustRevision⟩) ∨
    (¬ (record.role = "controller" ∨ record.role = "receiver") ∧ entry? record = none) := by
  unfold entry?
  by_cases hcontroller : record.role = "controller"
  · exact .inl ⟨.inl hcontroller, .controller, by rw [if_pos hcontroller]⟩
  · by_cases hreceiver : record.role = "receiver"
    · exact .inl ⟨.inr hreceiver, .receiver, by rw [if_neg hcontroller, if_pos hreceiver]⟩
    · exact .inr ⟨not_or.mpr ⟨hcontroller, hreceiver⟩, by rw [if_neg hcontroller, if_neg hreceiver]⟩

theorem mem_entries {records : List TrustedPeerRecord} {p : TrustedPeer} (h : p ∈ records.filterMap entry?) :
    ∃ record ∈ records, (record.role = "controller" ∨ record.role = "receiver") ∧ p.peerId = record.id ∧
      p.certificate = record.transportPublicKey := by
  obtain ⟨record, hrecord, hentry⟩ := List.mem_filterMap.mp h
  rcases entry?_cases record with ⟨hrole, role, hsome⟩ | ⟨-, hnone⟩
  · obtain rfl := Option.some.inj (hsome.symm.trans hentry)
    exact ⟨record, hrecord, hrole, rfl, rfl⟩
  · cases hnone.symm.trans hentry

/-- **One pairing**: the registry takes the new list exactly if the pairing fits. -/
theorem upsert_loadable_iff (hloads : Loadable decode layout) {records : List TrustedPeerRecord}
    {id certificate role : String} {pairedAtMs : UInt64}
    (hupsert : upsertTrustedPeer layout.trustedPeers id certificate role pairedAtMs = .ok records) :
    Acceptable decode (records.filterMap entry?) ↔ Fits decode layout.trustedPeers id certificate := by
  obtain ⟨hid, -, hrole, rfl⟩ := upsertTrustedPeer_eq_ok.mp hupsert
  have hkept : Acceptable decode ((layout.trustedPeers.filter fun peer =>
      peer.id ≠ id && peer.transportPublicKey ≠ certificate).filterMap entry?) :=
    (loadable_iff.mp hloads).sublist (List.filter_sublist.filterMap entry?)
  rcases entry?_cases ⟨trimmed id, trimmed certificate, role, nextTrustRevision layout.trustedPeers,
    pairedAtMs⟩ with
    ⟨-, newRole, hentry⟩ | ⟨hother, -⟩
  swap
  · exact absurd hrole hother
  rw [List.filterMap_append, List.filterMap_cons_some hentry, List.filterMap_nil, acceptable_concat_iff hkept]
  constructor
  · rintro ⟨⟨-, -, hdecodes⟩, hapart⟩
    refine ⟨hdecodes, fun record hrecord hname hkey hknown => ?_⟩
    rcases entry?_cases record with ⟨-, knownRole, hsome⟩ | ⟨hunknown, -⟩
    · exact hapart _ (List.mem_filterMap.mpr ⟨record, List.mem_filter.mpr ⟨hrecord, by simp [hname, hkey]⟩, hsome⟩)
    · exact absurd hknown hunknown
  · rintro ⟨hdecodes, hapart⟩
    refine ⟨⟨by simpa using hid, nextTrustRevision_ne_zero _, hdecodes⟩, fun p hp => ?_⟩
    obtain ⟨record, hrecord, hknown, hname, hkey⟩ := mem_entries hp
    obtain ⟨hrecord, hstays⟩ := List.mem_filter.mp hrecord
    have hstays : record.id ≠ id ∧ record.transportPublicKey ≠ certificate := by simpa using hstays
    rw [hname, hkey]
    exact hapart record hrecord hstays.1 hstays.2 hknown

/-- A call records its peer, or leaves the records alone. -/
theorem nextTrust_cases (layout : LayoutState) {call : TrustCall} {peer : LanPeer} {role : String}
    (hpaired : call.paired = some (peer, role)) :
    (¬ Succeeds layout call ∧ (nextTrust layout call).trustedPeers = layout.trustedPeers) ∨
      (Succeeds layout call ∧ ∃ pairedAtMs,
        upsertTrustedPeer layout.trustedPeers peer.id peer.transportPublicKey role
        pairedAtMs = .ok (nextTrust layout call).trustedPeers) := by
  cases call with
  | acceptController requester clusterId pairSecret nowMs =>
    obtain ⟨rfl, rfl⟩ := Prod.mk.inj (Option.some.inj hpaired)
    unfold Succeeds nextTrust recordPairing
    dsimp only
    by_cases hclient : layout.machineRole ≠ "client"
    · rw [if_pos hclient]
      exact .inl ⟨by simp, rfl⟩
    · rw [if_neg hclient]
      cases hupsert :
          upsertTrustedPeer layout.trustedPeers requester.id requester.transportPublicKey "controller" nowMs with
      | error error => exact .inl ⟨by simp, rfl⟩
      | ok records => exact .inr ⟨rfl, nowMs, hupsert⟩
  | trustReceiver receiver nowMs =>
    obtain ⟨rfl, rfl⟩ := Prod.mk.inj (Option.some.inj hpaired)
    unfold Succeeds nextTrust
    dsimp only
    cases hupsert :
        upsertTrustedPeer layout.trustedPeers receiver.id receiver.transportPublicKey "receiver" nowMs with
    | error error => exact .inl ⟨by simp, rfl⟩
    | ok records => exact .inr ⟨⟨records, rfl⟩, nowMs, hupsert⟩
  | resetPairing => cases hpaired

/-- A reset takes entries away. -/
theorem reset_loadable (h : Loadable decode layout) : Loadable decode (withoutControllers layout) := by
  have hsub : (quicTrustedPeers (withoutControllers layout)).Sublist (quicTrustedPeers layout) :=
    List.filter_sublist.filterMap entry?
  exact loadable_iff.mpr ((loadable_iff.mp h).sublist hsub)

/-- **One call.** -/
theorem nextTrust_loadable_iff (hloads : Loadable decode layout) {call : TrustCall}
    (hsucceeds : Succeeds layout call) :
    Loadable decode (nextTrust layout call) ↔ Fitting decode layout call := by
  rw [loadable_iff, quicTrustedPeers_eq]
  cases hpaired : call.paired with
  | none =>
    have hreset : call = .resetPairing := by cases call <;> first | rfl | cases hpaired
    subst hreset
    refine ⟨fun _ peer role hsome => (by cases hsome), fun _ => loadable_iff.mp (reset_loadable hloads)⟩
  | some pair =>
    obtain ⟨peer, role⟩ := pair
    rcases nextTrust_cases layout hpaired with ⟨hfails, -⟩ | ⟨-, pairedAtMs, hupsert⟩
    · exact absurd hsucceeds hfails
    · rw [upsert_loadable_iff hloads hupsert]
      refine ⟨fun hfits peer' role' hsome => ?_, fun hfitting => hfitting peer role hpaired⟩
      obtain ⟨rfl, rfl⟩ := Prod.mk.inj (Option.some.inj (hpaired.symm.trans hsome))
      exact hfits

/-- A call keeps the list loadable if it fits, or if it fails. -/
theorem nextTrust_loadable (hloads : Loadable decode layout) {call : TrustCall}
    (hfits : Succeeds layout call → Fitting decode layout call) : Loadable decode (nextTrust layout call) := by
  by_cases hsucceeds : Succeeds layout call
  · exact (nextTrust_loadable_iff hloads hsucceeds).mpr (hfits hsucceeds)
  · cases hpaired : call.paired with
    | none => cases call <;> first | exact absurd trivial hsucceeds | cases hpaired
    | some pair =>
      obtain ⟨peer, role⟩ := pair
      rcases nextTrust_cases layout hpaired with ⟨-, hsame⟩ | ⟨hdone, -⟩
      · rw [loadable_iff, quicTrustedPeers_eq, hsame]
        exact loadable_iff.mp hloads
      · exact absurd hdone hsucceeds

theorem loadable_nil (hnone : layout.trustedPeers = []) : Loadable decode layout := by
  rw [loadable_iff, quicTrustedPeers_eq, hnone]
  exact ⟨by simp, .nil⟩

/-- **Whether the trusted peers load.**  From a list which the registry takes (as the empty one of a new layout),
after any pairings, of which those which succeed fit, and any resets, the registry takes the list; and the next
pairing which succeeds keeps that exactly if it fits. -/
theorem trusted_peers_loadable (hstart : Loadable decode layout) (calls : List TrustCall)
    (hmeets : Meets nextTrust (fun layout call => Succeeds layout call →
      Fitting decode layout call) layout calls) :
    let layout' := run nextTrust layout calls
    Loadable decode layout' ∧
      ∀ call, Succeeds layout' call →
      (Loadable decode (nextTrust layout' call) ↔ Fitting decode layout' call) := by
  intro layout'
  have hloads : Loadable decode layout' :=
    run_keeps (I := Loadable decode) (fun _ _ h hfits => nextTrust_loadable h hfits) hstart hmeets
  exact ⟨hloads, fun call hsucceeds => nextTrust_loadable_iff hloads hsucceeds⟩

section Examples

def sampleClient : LayoutState := ⟨[], "receive", "client", "", "", [], [], 47832, 47833⟩

/-- A controller, as it names itself. -/
def sampleRequester (id transportPublicKey : String) : LanPeer :=
  ⟨id, "desk", "windows", "server", "group", false, "desk.local", "10.0.0.2", 47832, 47833,
    transportPublicKey, 1, 0, true, false, [], "0.1.3", 0⟩

def samplePairing (id transportPublicKey : String) : TrustCall :=
  .acceptController (sampleRequester id transportPublicKey) "group" "secret" 10

/-- Base64 of two certificates. -/
def sampleCertificates (text : String) : Except String (List UInt8) :=
  if text = "AQID" then .ok [1, 2, 3] else if text = "BAUG" then .ok [4, 5, 6] else .error "Invalid symbol"

/-- A controller comes back with another certificate. -/
theorem trusted_peers_loadable_rotated :
    Loadable sampleCertificates
      (run nextTrust sampleClient [samplePairing "desk-a" "AQID", samplePairing "desk-a" "BAUG"]) := by
  have hfirst : Fitting sampleCertificates sampleClient (samplePairing "desk-a" "AQID") := by
    intro peer role hpaired
    obtain ⟨rfl, rfl⟩ := Prod.mk.inj (Option.some.inj hpaired)
    exact ⟨⟨[1, 2, 3], by decide +kernel, by decide⟩, fun record hrecord => by cases hrecord⟩
  have hrecords : (nextTrust sampleClient (samplePairing "desk-a" "AQID")).trustedPeers =
      [⟨"desk-a", "AQID", "controller", 1, 10⟩] := by decide +kernel
  have hsecond : Fitting sampleCertificates (nextTrust sampleClient (samplePairing "desk-a" "AQID"))
      (samplePairing "desk-a" "BAUG") := by
    intro peer role hpaired
    obtain ⟨rfl, rfl⟩ := Prod.mk.inj (Option.some.inj hpaired)
    refine ⟨⟨[4, 5, 6], by decide +kernel, by decide⟩, fun record hrecord hname => ?_⟩
    rw [hrecords] at hrecord
    obtain rfl := List.mem_singleton.mp hrecord
    exact absurd rfl hname
  have hmeets : Meets nextTrust (fun layout call => Succeeds layout call → Fitting sampleCertificates layout call)
      sampleClient [samplePairing "desk-a" "AQID", samplePairing "desk-a" "BAUG"] :=
    ⟨fun _ => hfirst, fun _ => hsecond, trivial⟩
  exact (trusted_peers_loadable (loadable_nil rfl) _ hmeets).1

/-- A controller comes back with another certificate and a blank behind its name. -/
theorem not_trusted_peers_loadable :
    let layout := run nextTrust sampleClient [samplePairing "desk-a" "AQID", samplePairing "desk-a " "BAUG"]
    (layout.trustedPeers.map (·.id) = ["desk-a", "desk-a"]) ∧
      (TrustedPeerRegistry.empty.replace sampleCertificates (quicTrustedPeers layout)).2 =
        .error "trusted peer ids and certificates must be unique" := by
  exact ⟨by decide +kernel, rfl⟩

end Examples

end MyKvm.Pairing
