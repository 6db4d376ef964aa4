import Mathlib.Data.List.Nodup
import MyKvm.Pairing.Loading

/-!
# MyKvm.Pairing.Revisions — which trust revisions are given out

The next revision is computed from the records which are there, not from those which were.  `Book` adds the ones
which were: it keeps every record a pairing ever made.

* `lt_revision_iff`: one pairing.
* `revisions_never_reused`: histories of pairings and resets.
-/

namespace MyKvm.Pairing

open MyKvm.Lib MyKvm.Discovery MyKvm.Transport MyKvm.Receiver TrustedPeerRegistry

/-- The record which the call makes. -/
def recorded (layout : LayoutState) : TrustCall → Option TrustedPeerRecord
  | .acceptController requester clusterId pairSecret nowMs =>
    match recordPairing layout requester clusterId pairSecret nowMs with
    | (layout, .ok ()) => layout.trustedPeers.getLast?
    | (_, .error _) => none
  | .trustReceiver peer nowMs =>
    match upsertTrustedPeer layout.trustedPeers peer.id peer.transportPublicKey "receiver" nowMs with
    | .ok trustedPeers => trustedPeers.getLast?
    | .error _ => none
  | .resetPairing => none

/-- The layout, and every record which a pairing made so far, the newest first. -/
structure Book where
  layout : LayoutState
  issued : List TrustedPeerRecord
  deriving DecidableEq

def Book.next (book : Book) (call : TrustCall) : Book :=
  { layout := nextTrust book.layout call, issued := (recorded book.layout call).toList ++ book.issued }

/-- For every revision given out, the list still has one which is as great; and the range does not end there. -/
def Remembers (book : Book) : Prop :=
  ∀ record ∈ book.issued, record.trustRevision ≠ u64Max ∧
    ∃ peer ∈ book.layout.trustedPeers, record.trustRevision ≤ peer.trustRevision

/-- Every revision is above those given out before it. -/
def Rising (issued : List TrustedPeerRecord) : Prop :=
  issued.Pairwise fun newer older => older.trustRevision < newer.trustRevision

/-- The list has only records which were made, and none of those has the revision zero. -/
structure Kept (book : Book) : Prop where
  made : ∀ peer ∈ book.layout.trustedPeers, peer ∈ book.issued
  nonzero : ∀ record ∈ book.issued, record.trustRevision ≠ 0

instance (book : Book) : Decidable (Remembers book) :=
  inferInstanceAs (Decidable (∀ record ∈ book.issued, _ ∧ ∃ peer ∈ book.layout.trustedPeers, _))

/-- The transport takes the records of the layout, and the certificate then authenticates as this peer. -/
def Authenticates (decode : String → Except String (List UInt8)) (layout : LayoutState) (certificate : List UInt8)
    (answer : AuthenticatedPeer) : Prop :=
  ∃ registry replaced : TrustedPeerRegistry,
    registry.replace decode (quicTrustedPeers layout) = (replaced, .ok ()) ∧
    replaced.authenticate certificate answer.remoteAddr answer.connectionGeneration = some answer

/-- The identity is that of the record. -/
structure Names (decode : String → Except String (List UInt8)) (record : TrustedPeerRecord)
    (certificate : List UInt8) (answer : AuthenticatedPeer) : Prop where
  peerId : answer.peerId = record.id
  trustRevision : answer.trustRevision = record.trustRevision
  certificate : decode record.transportPublicKey = .ok certificate

/-- **A call** makes a record with the next revision and adds it to what stays, or it adds nothing. -/
theorem recorded_cases (layout : LayoutState) (call : TrustCall) :
    (recorded layout call = none ∧ ∀ peer ∈ (nextTrust layout call).trustedPeers, peer ∈ layout.trustedPeers) ∨
      ∃ record, recorded layout call = some record ∧ record.trustRevision = nextTrustRevision layout.trustedPeers ∧
        ∀ peer ∈ (nextTrust layout call).trustedPeers, peer ∈ layout.trustedPeers ∨ peer = record := by
  have hmade : ∀ {records id certificate role pairedAtMs},
      upsertTrustedPeer layout.trustedPeers id certificate role pairedAtMs = .ok records →
      ∃ record, records.getLast? = some record ∧ record.trustRevision = nextTrustRevision layout.trustedPeers ∧
        ∀ peer ∈ records, peer ∈ layout.trustedPeers ∨ peer = record := by
    intro records id certificate role pairedAtMs hupsert
    obtain ⟨-, -, others, rfl, hothers⟩ := upsertTrustedPeer_ok hupsert
    refine ⟨_, List.getLast?_concat, rfl, fun peer hpeer => ?_⟩
    rcases List.mem_append.mp hpeer with hold | hlast
    · exact .inl (hothers peer hold).1
    · exact .inr (List.mem_singleton.mp hlast)
  cases call with
  | acceptController requester clusterId pairSecret nowMs =>
    unfold recorded nextTrust recordPairing
    by_cases hclient : layout.machineRole ≠ "client"
    · exact .inl (by simp [hclient])
    · cases hupsert :
          upsertTrustedPeer layout.trustedPeers requester.id requester.transportPublicKey "controller" nowMs with
      | error error => exact .inl (by simp [hclient, hupsert])
      | ok records => exact .inr (by simpa [hclient, hupsert] using hmade hupsert)
  | trustReceiver receiver nowMs =>
    unfold recorded nextTrust
    dsimp only
    cases hupsert :
        upsertTrustedPeer layout.trustedPeers receiver.id receiver.transportPublicKey "receiver" nowMs with
    | error error => exact .inl (by simp)
    | ok records => exact .inr (hmade hupsert)
  | resetPairing => exact .inl ⟨rfl, fun peer hpeer => List.mem_of_mem_filter hpeer⟩

/-- **One pairing**: its revision is above all those given out exactly if the list remembers them. -/
theorem lt_revision_iff {book : Book} (hkept : Kept book) {call : TrustCall} {record : TrustedPeerRecord}
    (hrecorded : recorded book.layout call = some record) :
    (∀ older ∈ book.issued, older.trustRevision < record.trustRevision) ↔ Remembers book := by
  have hrevision : record.trustRevision = nextTrustRevision book.layout.trustedPeers := by
    rcases recorded_cases book.layout call with ⟨hnone, -⟩ | ⟨record', hsome, hrevision, -⟩
    · cases hnone.symm.trans hrecorded
    · obtain rfl := Option.some.inj (hsome.symm.trans hrecorded)
      exact hrevision
  unfold Remembers
  rw [hrevision]
  exact forall₂_congr fun older holder => lt_nextTrustRevision_iff (hkept.nonzero older holder)

theorem kept_next {book : Book} (hkept : Kept book) (call : TrustCall) : Kept (book.next call) := by
  unfold Book.next
  rcases recorded_cases book.layout call with ⟨hnone, hstays⟩ | ⟨record, hsome, hrevision, hstays⟩
  · rw [hnone]
    exact ⟨fun peer hpeer => hkept.made peer (hstays peer hpeer), hkept.nonzero⟩
  · rw [hsome]
    refine ⟨fun peer hpeer => ?_, fun older holder => ?_⟩
    · rcases hstays peer hpeer with hold | rfl
      · exact List.mem_cons_of_mem _ (hkept.made peer hold)
      · exact List.mem_cons_self
    · rcases List.mem_cons.mp holder with rfl | hold
      · rw [hrevision]
        exact nextTrustRevision_ne_zero _
      · exact hkept.nonzero older hold

/-- A pairing which remembers keeps the revisions in their order. -/
theorem rising_next {book : Book} {call : TrustCall} (h : Kept book ∧ Rising book.issued)
    (hmeets : (recorded book.layout call).isSome → Remembers book) :
    Kept (book.next call) ∧ Rising (book.next call).issued := by
  refine ⟨kept_next h.1 call, ?_⟩
  unfold Book.next
  cases hrecorded : recorded book.layout call with
  | none => exact h.2
  | some record =>
    refine List.pairwise_cons.mpr ⟨?_, h.2⟩
    exact (lt_revision_iff h.1 hrecorded).mpr (hmeets (by rw [hrecorded]; rfl))

/-- What was made stays made. -/
theorem issued_subset (book : Book) (calls : List TrustCall) : ∀ record ∈ book.issued,
    record ∈ (run Book.next book calls).issued := by
  intro record hrecord
  refine run_invariant (I := fun later : Book => record ∈ later.issued) (fun later call hlater => ?_) hrecord calls
  exact List.mem_append_right _ hlater

/-- Whoever authenticates is named by a record of the list. -/
theorem authenticates_record {decode : String → Except String (List UInt8)} {layout : LayoutState}
    {certificate : List UInt8} {answer : AuthenticatedPeer} (h : Authenticates decode layout certificate answer) :
    ∃ record ∈ layout.trustedPeers, Names decode record certificate answer := by
  obtain ⟨registry, replaced, hreplace, hanswer⟩ := h
  obtain ⟨p, hp, hcertificate, hfields⟩ := authenticate_eq_some hanswer
  obtain ⟨hpeers, hall⟩ := decoded_eq (replace_eq_ok.mp hreplace)
  rw [hpeers] at hp
  obtain ⟨peer, hpeer, rfl⟩ := List.mem_map.mp hp
  obtain ⟨bytes, hbytes⟩ := hall peer hpeer
  have hsame : bytes = certificate := by
    rw [← hcertificate, decodedOf, hbytes]
    rfl
  obtain ⟨record, hrecord, hentry⟩ := List.mem_filterMap.mp hpeer
  refine ⟨record, hrecord, ?_⟩
  rcases entry?_cases record with ⟨-, role, hsome⟩ | ⟨-, hnone⟩
  · obtain rfl := Option.some.inj (hsome.symm.trans hentry)
    rw [hfields]
    exact ⟨rfl, rfl, hsame ▸ hbytes⟩
  · cases hnone.symm.trans hentry

/-- A revision names one of the pairings. -/
theorem Rising.eq_of_revision {issued : List TrustedPeerRecord} (hrising : Rising issued)
    {record record' : TrustedPeerRecord} (hrecord : record ∈ issued) (hrecord' : record' ∈ issued)
    (hsame : record.trustRevision = record'.trustRevision) : record = record' := by
  have hnodup : (issued.map (·.trustRevision)).Nodup := by
    refine List.pairwise_map.mpr (hrising.imp fun hlt heq => ?_)
    rw [heq] at hlt
    exact UInt64.lt_irrefl _ hlt
  exact List.inj_on_of_nodup_map hnodup hrecord hrecord' hsame

/-- **Trust revisions.**  After any pairings, re-pairings and resets of a new machine, the next pairing gets a
revision above all those given out exactly if the list remembers them.  In a history in which every pairing finds
this so, the revisions rise; and identities which authenticate at any two moments under one revision are those of
one pairing, with one certificate. -/
theorem revisions_never_reused {start : LayoutState} (hstart : start.trustedPeers = []) (calls : List TrustCall) :
    let book := run Book.next ⟨start, []⟩ calls
    (∀ call record, recorded book.layout call = some record →
      ((∀ older ∈ book.issued, older.trustRevision < record.trustRevision) ↔ Remembers book)) ∧
    (Meets Book.next (fun book call => (recorded book.layout call).isSome → Remembers book) ⟨start, []⟩ calls →
      Rising book.issued ∧
      ∀ decode before before' certificate certificate' answer answer', before <+: calls → before' <+: calls →
        Authenticates decode (run Book.next ⟨start, []⟩ before).layout certificate answer →
        Authenticates decode (run Book.next ⟨start, []⟩ before').layout certificate' answer' →
        answer.trustRevision = answer'.trustRevision →
          certificate = certificate' ∧ answer.peerId = answer'.peerId ∧
            ∃ record ∈ book.issued, Names decode record certificate answer ∧
            Names decode record certificate' answer') := by
  intro book
  have hkept₀ : Kept ⟨start, []⟩ := ⟨by simp [hstart], by simp⟩
  have hkept : ∀ before, Kept (run Book.next ⟨start, []⟩ before) := fun before =>
    run_invariant (I := Kept) (fun _ call h => kept_next h call) hkept₀ before
  refine ⟨fun call record hrecorded => lt_revision_iff (hkept calls) hrecorded, fun hmeets => ?_⟩
  have hrising : Rising book.issued :=
    (run_keeps (I := fun book => Kept book ∧ Rising book.issued) (fun _ _ h hremembers => rising_next h hremembers)
      ⟨hkept₀, .nil⟩ hmeets).2
  refine ⟨hrising, ?_⟩
  intro decode before before' certificate certificate' answer answer' hbefore hbefore' hanswer hanswer' hsame
  have hissued : ∀ {before certificate answer}, before <+: calls →
      Authenticates decode (run Book.next ⟨start, []⟩ before).layout certificate answer →
      ∃ record ∈ book.issued, Names decode record certificate answer := by
    rintro before certificate answer ⟨after, rfl⟩ hanswer
    obtain ⟨record, hrecord, hnames⟩ := authenticates_record hanswer
    refine ⟨record, ?_, hnames⟩
    show record ∈ (run Book.next ⟨start, []⟩ (before ++ after)).issued
    rw [run_append]
    exact issued_subset _ after record ((hkept before).made record hrecord)
  obtain ⟨record, hrecord, hnames⟩ := hissued hbefore hanswer
  obtain ⟨record', hrecord', hnames'⟩ := hissued hbefore' hanswer'
  obtain rfl : record = record' := hrising.eq_of_revision hrecord hrecord'
    (hnames.trustRevision.symm.trans (hsame.trans hnames'.trustRevision))
  have hcertificate := hnames.certificate.symm.trans hnames'.certificate
  exact ⟨Except.ok.inj hcertificate, hnames.peerId.trans hnames'.peerId.symm, record, hrecord, hnames, hnames'⟩

section Examples

/-- A controller comes back with another certificate, and a reset follows. -/
theorem revisions_never_reused_rotated :
    Rising (run Book.next ⟨sampleClient, []⟩
      [samplePairing "desk-a" "AQID", samplePairing "desk-a" "BAUG", .resetPairing]).issued := by
  have hmeets : Meets Book.next (fun book call => (recorded book.layout call).isSome → Remembers book)
    ⟨sampleClient, []⟩ [samplePairing "desk-a" "AQID", samplePairing "desk-a" "BAUG", .resetPairing] := by
    decide +kernel
  have hstart : sampleClient.trustedPeers = [] := rfl
  exact ((revisions_never_reused hstart _).2 hmeets).1

/-- A controller is paired with, and after a reset again, with another certificate: both pairings have the revision
1, and both certificates authenticate as the same peer. -/
theorem not_revisions_never_reused :
    let first := run Book.next ⟨sampleClient, []⟩ [samplePairing "desk-a" "AQID"]
    let second := run Book.next first [.resetPairing, samplePairing "desk-a" "BAUG"]
    second.issued.map (·.trustRevision) = [1, 1] ∧
      Authenticates sampleCertificates first.layout [1, 2, 3] ⟨"desk-a", .controller, 1, 19,
        .v4 0x0A000002 47834⟩ ∧
      Authenticates sampleCertificates second.layout [4, 5, 6] ⟨"desk-a", .controller, 1, 19,
        .v4 0x0A000002 47834⟩ := by
  refine ⟨by decide +kernel, ?_, ?_⟩
  · exact ⟨.empty, _, Prod.ext rfl rfl, rfl⟩
  · exact ⟨.empty, _, Prod.ext rfl rfl, rfl⟩

end Examples

end MyKvm.Pairing
