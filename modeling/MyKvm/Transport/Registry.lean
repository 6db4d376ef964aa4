import Mathlib.Data.List.Forall2
import MyKvm.Lib.Text
import MyKvm.Receiver.Runtime

/-!
# MyKvm.Transport.Registry — whom the transport trusts

The registry holds the certificate of every trusted peer, decoded, with its identity, its role and its trust
revision.  It is replaced as a whole, and only by a list in which every identity and every certificate occurs once
(`replace_eq_ok`).
-/

namespace MyKvm.Transport

open MyKvm.Lib MyKvm.Receiver

structure TrustedPeer where
  peerId : String
  certificate : String
  role : PeerRole
  trustRevision : UInt64
  deriving DecidableEq

structure DecodedTrustedPeer where
  peerId : String
  certificate : List UInt8
  role : PeerRole
  trustRevision : UInt64
  deriving DecidableEq

/-- What the loop of `replace` has let through. -/
structure Admissible (peers : List DecodedTrustedPeer) : Prop where
  named : ∀ peer ∈ peers, isBlank peer.peerId = false ∧ peer.trustRevision ≠ 0 ∧ peer.certificate ≠ []
  distinct : peers.Pairwise fun p q => p.peerId ≠ q.peerId ∧ p.certificate ≠ q.certificate

/-- Part of an admissible list is admissible. -/
theorem Admissible.of_append {peers others : List DecodedTrustedPeer} (h : Admissible (peers ++ others)) :
    Admissible peers :=
  ⟨fun p hp => h.named p (List.mem_append_left _ hp), (List.pairwise_append.mp h.distinct).1⟩

structure TrustedPeerRegistry where
  peers : List DecodedTrustedPeer
  admissible : Admissible peers

namespace TrustedPeerRegistry

def empty : TrustedPeerRegistry := ⟨[], ⟨by simp, .nil⟩⟩

/-- One turn of the loop of `replace`. -/
def push (decode : String → Except String (List UInt8)) (decoded : TrustedPeerRegistry) (peer : TrustedPeer) :
    Except String TrustedPeerRegistry :=
  if hname : isBlank peer.peerId = true ∨ peer.trustRevision = 0 then
    .error "trusted peer requires a non-empty id and revision"
  else match decode peer.certificate with
    | .error error => .error ("invalid trusted certificate for " ++ peer.peerId ++ ": " ++ error)
    | .ok certificate =>
      if hempty : certificate = [] then .error ("trusted certificate for " ++ peer.peerId ++ " is empty") else
      if hnew : ∃ p ∈ decoded.peers, p.peerId = peer.peerId ∨ p.certificate = certificate then
        .error "trusted peer ids and certificates must be unique"
      else .ok
        { peers := decoded.peers ++ [{ peerId := peer.peerId, certificate, role := peer.role,
                                       trustRevision := peer.trustRevision }]
          admissible := by
            rw [not_or] at hname
            push Not at hnew
            refine ⟨?_, ?_⟩
            · intro p hp
              rcases List.mem_append.mp hp with hold | hlast
              · exact decoded.admissible.named p hold
              · obtain rfl := List.mem_singleton.mp hlast
                exact ⟨by simpa using hname.1, hname.2, hempty⟩
            · refine List.pairwise_append.mpr ⟨decoded.admissible.distinct, by simp, ?_⟩
              intro p hp q hq
              obtain rfl := List.mem_singleton.mp hq
              exact hnew p hp }

/-- The registry as the call leaves it is the first component; a list which is refused changes nothing. -/
def replace (decode : String → Except String (List UInt8)) (registry : TrustedPeerRegistry)
    (peers : List TrustedPeer) :
    TrustedPeerRegistry × Except String Unit :=
  match peers.foldlM (push decode) empty with
  | .ok decoded => (decoded, .ok ())
  | .error error => (registry, .error error)

def authenticate (registry : TrustedPeerRegistry) (certificate : List UInt8) (remoteAddr : SocketAddr)
    (connectionGeneration : UInt64) : Option AuthenticatedPeer :=
  (registry.peers.find? (·.certificate = certificate)).map fun peer =>
    { peerId := peer.peerId, role := peer.role, trustRevision := peer.trustRevision,
      connectionGeneration, remoteAddr }

/-- The registry names the certificate. -/
def Holds (registry : TrustedPeerRegistry) (certificate : List UInt8) : Prop :=
  ∃ peer ∈ registry.peers, peer.certificate = certificate

instance (registry : TrustedPeerRegistry) (certificate : List UInt8) : Decidable (registry.Holds certificate) :=
  inferInstanceAs (Decidable (∃ _ ∈ _, _))

theorem authenticate_eq_some {registry : TrustedPeerRegistry} {certificate : List UInt8} {remoteAddr : SocketAddr}
    {generation : UInt64} {answer : AuthenticatedPeer}
    (h : registry.authenticate certificate remoteAddr generation = some answer) :
    ∃ peer ∈ registry.peers, peer.certificate = certificate ∧
      answer = ⟨peer.peerId, peer.role, peer.trustRevision, generation, remoteAddr⟩ := by
  unfold authenticate at h
  obtain ⟨peer, hfind, hanswer⟩ := Option.map_eq_some_iff.mp h
  have hcert : peer.certificate = certificate := by simpa using List.find?_some hfind
  exact ⟨peer, List.mem_of_find?_eq_some hfind, hcert, hanswer.symm⟩

theorem authenticate_eq_none {registry : TrustedPeerRegistry} {certificate : List UInt8} {remoteAddr : SocketAddr}
    {generation : UInt64} (h : ¬ registry.Holds certificate) :
    registry.authenticate certificate remoteAddr generation = none := by
  unfold authenticate
  rw [Option.map_eq_none_iff, List.find?_eq_none]
  intro peer hpeer hcert
  exact h ⟨peer, hpeer, by simpa using hcert⟩

theorem push_peers {decode : String → Except String (List UInt8)} {decoded pushed : TrustedPeerRegistry}
    {peer : TrustedPeer}
    (h : push decode decoded peer = .ok pushed) : ∃ certificate, decode peer.certificate = .ok certificate ∧
      pushed.peers = decoded.peers ++ [⟨peer.peerId, certificate, peer.role, peer.trustRevision⟩] := by
  unfold push at h
  split_ifs at h with hname
  split at h
  · cases h
  · rename_i certificate hdecode
    split_ifs at h with hempty hknown
    obtain rfl := Except.ok.inj h
    exact ⟨certificate, hdecode, rfl⟩

/-- Whoever is in the registry after the loop was in it before, or is in the list. -/
theorem mem_of_pushes {decode : String → Except String (List UInt8)} {peers : List TrustedPeer}
    {decoded pushed : TrustedPeerRegistry} (h : peers.foldlM (push decode) decoded = .ok pushed) :
    ∀ p ∈ pushed.peers, p ∈ decoded.peers ∨ ∃ peer ∈ peers, peer.peerId = p.peerId ∧ peer.role = p.role ∧
      decode peer.certificate = .ok p.certificate := by
  induction peers generalizing decoded with
  | nil =>
    obtain rfl := Except.ok.inj h
    exact fun p hp => .inl hp
  | cons peer peers ih =>
    rw [List.foldlM_cons] at h
    obtain ⟨next, hpush, hrest⟩ := Protocol.bind_eq_ok.mp h
    obtain ⟨certificate, hdecode, hpeers⟩ := push_peers hpush
    intro p hp
    rcases ih hrest p hp with hnext | ⟨other, hother, hsame⟩
    · rw [hpeers] at hnext
      rcases List.mem_append.mp hnext with hold | hnew
      · exact .inl hold
      · obtain rfl := List.mem_singleton.mp hnew
        exact .inr ⟨peer, List.mem_cons_self, rfl, rfl, hdecode⟩
    · exact .inr ⟨other, List.mem_cons_of_mem _ hother, hsame⟩

theorem mem_of_replace {decode : String → Except String (List UInt8)} {registry replaced : TrustedPeerRegistry}
    {peers : List TrustedPeer} (h : registry.replace decode peers = (replaced, .ok ())) :
    ∀ p ∈ replaced.peers, ∃ peer ∈ peers, peer.peerId = p.peerId ∧ peer.role = p.role ∧
      decode peer.certificate = .ok p.certificate := by
  unfold replace at h
  cases hloop : peers.foldlM (push decode) empty with
  | error error => simp [hloop] at h
  | ok decoded =>
    obtain rfl : decoded = replaced := by simpa [hloop] using h
    intro p hp
    rcases mem_of_pushes hloop p hp with hempty | hlist
    · simp [empty] at hempty
    · exact hlist

/-! ### Which lists are accepted -/

/-- What an entry becomes. -/
structure Decodes (decode : String → Except String (List UInt8)) (peer : TrustedPeer) (p : DecodedTrustedPeer) :
    Prop where
  certificate : decode peer.certificate = .ok p.certificate
  peerId : p.peerId = peer.peerId
  role : p.role = peer.role
  trustRevision : p.trustRevision = peer.trustRevision

theorem ext {registry registry' : TrustedPeerRegistry} (h : registry.peers = registry'.peers) :
    registry = registry' := by
  cases registry
  cases registry'
  cases h
  rfl

/-- One turn of the loop lets an entry through exactly if the list stays admissible. -/
theorem push_eq_ok {decode : String → Except String (List UInt8)} {decoded pushed : TrustedPeerRegistry}
    {peer : TrustedPeer} :
    push decode decoded peer = .ok pushed ↔ ∃ p, Decodes decode peer p ∧ pushed.peers = decoded.peers ++ [p] := by
  constructor
  · intro h
    obtain ⟨certificate, hdecode, hpeers⟩ := push_peers h
    exact ⟨_, ⟨hdecode, rfl, rfl, rfl⟩, hpeers⟩
  · rintro ⟨p, ⟨hdecode, hid, hrole, hrevision⟩, hpeers⟩
    have hadmissible := pushed.admissible
    rw [hpeers] at hadmissible
    obtain ⟨hname, hnonzero, hsome⟩ := hadmissible.named p (by simp)
    have hnew : ∀ q ∈ decoded.peers, q.peerId ≠ p.peerId ∧ q.certificate ≠ p.certificate := fun q hq =>
      (List.pairwise_append.mp hadmissible.distinct).2.2 q hq p (by simp)
    obtain ⟨peerId, certificate, role, trustRevision⟩ := p
    dsimp only at hdecode hid hrole hrevision hname hnonzero hsome hnew
    subst hid hrole hrevision
    have hunknown : ¬ ∃ q ∈ decoded.peers, q.peerId = peer.peerId ∨ q.certificate = certificate := by
      rintro ⟨q, hq, hsame | hsame⟩
      · exact (hnew q hq).1 hsame
      · exact (hnew q hq).2 hsame
    unfold push
    rw [dif_neg (by simp [hname, hnonzero])]
    split
    · rename_i error herror
      cases hdecode.symm.trans herror
    · rename_i certificate' hdecode'
      obtain rfl : certificate = certificate' := Except.ok.inj (hdecode.symm.trans hdecode')
      rw [dif_neg hsome, dif_neg hunknown]
      exact congrArg Except.ok (ext hpeers.symm)

/-- **The loop** lets a list through exactly if it decodes to what keeps the registry admissible. -/
theorem pushes_eq_ok {decode : String → Except String (List UInt8)} {peers : List TrustedPeer}
    {decoded pushed : TrustedPeerRegistry} :
    peers.foldlM (push decode) decoded = .ok pushed ↔
      ∃ added, List.Forall₂ (Decodes decode) peers added ∧ pushed.peers = decoded.peers ++ added := by
  induction peers generalizing decoded with
  | nil =>
    constructor
    · intro h
      obtain rfl : decoded = pushed := Except.ok.inj h
      exact ⟨[], .nil, by simp⟩
    · rintro ⟨added, hadded, hpeers⟩
      cases hadded
      exact congrArg Except.ok (ext (by simpa using hpeers.symm))
  | cons peer peers ih =>
    rw [List.foldlM_cons, Protocol.bind_eq_ok]
    constructor
    · rintro ⟨next, hpush, hrest⟩
      obtain ⟨p, hdecodes, hnext⟩ := push_eq_ok.mp hpush
      obtain ⟨added, hadded, hpeers⟩ := ih.mp hrest
      exact ⟨p :: added, .cons hdecodes hadded, by rw [hpeers, hnext, List.append_assoc, List.singleton_append]⟩
    · rintro ⟨added, hadded, hpeers⟩
      cases hadded with
      | cons hdecodes hrest =>
        rename_i p added
        have hadmissible := pushed.admissible
        rw [hpeers, ← List.singleton_append, ← List.append_assoc] at hadmissible
        refine ⟨⟨decoded.peers ++ [p], hadmissible.of_append⟩, push_eq_ok.mpr ⟨p, hdecodes, rfl⟩, ih.mpr ?_⟩
        exact ⟨added, hrest, by rw [hpeers, List.append_assoc, List.singleton_append]⟩

/-- **A list is accepted** exactly if its entries decode to an admissible registry, which is then the registry. -/
theorem replace_eq_ok {decode : String → Except String (List UInt8)} {registry replaced : TrustedPeerRegistry}
    {peers : List TrustedPeer} :
    registry.replace decode peers = (replaced, .ok ()) ↔ List.Forall₂ (Decodes decode) peers replaced.peers := by
  have hloop : peers.foldlM (push decode) empty = .ok replaced ↔
      List.Forall₂ (Decodes decode) peers replaced.peers := by
    rw [pushes_eq_ok]
    simp [empty]
  rw [← hloop]
  unfold replace
  cases peers.foldlM (push decode) empty with
  | error error => simp
  | ok decoded => simp

/-- A list which is rejected changes nothing. -/
theorem replace_error {decode : String → Except String (List UInt8)} {registry : TrustedPeerRegistry}
    {peers : List TrustedPeer} {error : String} (h : (registry.replace decode peers).2 = .error error) :
    (registry.replace decode peers).1 = registry := by
  unfold replace at h ⊢
  cases hloop : peers.foldlM (push decode) empty with
  | error error' => rfl
  | ok decoded =>
    rw [hloop] at h
    cases h

/-- The list as the loop sees it: every entry is named, has a revision and decodes to a certificate, and no name
and no certificate occurs twice. -/
structure Acceptable (decode : String → Except String (List UInt8)) (peers : List TrustedPeer) : Prop where
  named : ∀ peer ∈ peers, isBlank peer.peerId = false ∧ peer.trustRevision ≠ 0 ∧
    ∃ bytes, decode peer.certificate = .ok bytes ∧ bytes ≠ []
  distinct : peers.Pairwise fun p q => p.peerId ≠ q.peerId ∧ decode p.certificate ≠ decode q.certificate

theorem Acceptable.sublist {decode : String → Except String (List UInt8)} {peers others : List TrustedPeer}
    (h : Acceptable decode peers) (hsub : others.Sublist peers) : Acceptable decode others :=
  ⟨fun peer hpeer => h.named peer (hsub.subset hpeer), h.distinct.sublist hsub⟩

/-- One entry more. -/
theorem acceptable_concat_iff {decode : String → Except String (List UInt8)} {peers : List TrustedPeer}
    {peer : TrustedPeer} (h : Acceptable decode peers) :
    Acceptable decode (peers ++ [peer]) ↔
      (isBlank peer.peerId = false ∧ peer.trustRevision ≠ 0 ∧
        ∃ bytes, decode peer.certificate = .ok bytes ∧ bytes ≠ []) ∧
      ∀ p ∈ peers, p.peerId ≠ peer.peerId ∧ decode p.certificate ≠ decode peer.certificate := by
  constructor
  · rintro ⟨hnamed, hdistinct⟩
    exact ⟨hnamed peer (by simp), fun p hp => (List.pairwise_append.mp hdistinct).2.2 p hp peer (by simp)⟩
  · rintro ⟨hnamed, hdistinct⟩
    refine ⟨fun p hp => ?_, List.pairwise_append.mpr ⟨h.distinct, by simp, fun p hp q hq => ?_⟩⟩
    · rcases List.mem_append.mp hp with hold | hlast
      · exact h.named p hold
      · obtain rfl := List.mem_singleton.mp hlast
        exact hnamed
    · obtain rfl := List.mem_singleton.mp hq
      exact hdistinct p hp

/-- What an acceptable entry decodes to. -/
def decodedOf (decode : String → Except String (List UInt8)) (peer : TrustedPeer) : DecodedTrustedPeer :=
  ⟨peer.peerId, (decode peer.certificate).toOption.getD [], peer.role, peer.trustRevision⟩

theorem Decodes.eq {decode : String → Except String (List UInt8)} {peer : TrustedPeer} {p : DecodedTrustedPeer}
    (h : Decodes decode peer p) : decodedOf decode peer = p := by
  obtain ⟨hdecode, hid, hrole, hrevision⟩ := h
  obtain ⟨peerId, certificate, role, trustRevision⟩ := p
  dsimp only at hdecode hid hrole hrevision
  subst hid hrole hrevision
  unfold decodedOf
  rw [hdecode]
  rfl

theorem decodes_of_eq_ok {decode : String → Except String (List UInt8)} {peer : TrustedPeer} {bytes : List UInt8}
    (h : decode peer.certificate = .ok bytes) : Decodes decode peer (decodedOf decode peer) := by
  refine ⟨?_, rfl, rfl, rfl⟩
  unfold decodedOf
  rw [h]
  rfl

/-- What decodes entry by entry is what the entries decode to. -/
theorem decoded_eq {decode : String → Except String (List UInt8)} {peers : List TrustedPeer}
    {decoded : List DecodedTrustedPeer} (h : List.Forall₂ (Decodes decode) peers decoded) :
    decoded = peers.map (decodedOf decode) ∧ ∀ peer ∈ peers, ∃ bytes, decode peer.certificate = .ok bytes := by
  induction h with
  | nil => simp
  | cons hdecodes _ ih =>
    refine ⟨by rw [List.map_cons, ← ih.1, hdecodes.eq], fun peer hpeer => ?_⟩
    rcases List.mem_cons.mp hpeer with rfl | hpeer
    · exact ⟨_, hdecodes.certificate⟩
    · exact ih.2 peer hpeer

/-- The two ways to say that a list is good: before and after it is decoded. -/
theorem admissible_map_iff {decode : String → Except String (List UInt8)} {peers : List TrustedPeer}
    (h : ∀ peer ∈ peers, ∃ bytes, decode peer.certificate = .ok bytes) :
    Admissible (peers.map (decodedOf decode)) ↔ Acceptable decode peers := by
  have hcertificate : ∀ peer ∈ peers, decode peer.certificate = .ok (decodedOf decode peer).certificate := by
    intro peer hpeer
    obtain ⟨bytes, hbytes⟩ := h peer hpeer
    exact (decodes_of_eq_ok hbytes).certificate
  have hpair :
      (peers.map (decodedOf decode)).Pairwise (fun p q => p.peerId ≠ q.peerId ∧ p.certificate ≠ q.certificate) ↔
      peers.Pairwise fun p q => p.peerId ≠ q.peerId ∧ decode p.certificate ≠ decode q.certificate := by
    rw [List.pairwise_map]
    refine List.Pairwise.iff_of_mem fun {p q} hp hq => ?_
    rw [hcertificate p hp, hcertificate q hq]
    simp [decodedOf]
  constructor
  · rintro ⟨hnamed, hdistinct⟩
    refine ⟨fun peer hpeer => ?_, hpair.mp hdistinct⟩
    obtain ⟨hname, hrevision, hsome⟩ := hnamed _ (List.mem_map_of_mem hpeer)
    exact ⟨hname, hrevision, _, hcertificate peer hpeer, hsome⟩
  · rintro ⟨hnamed, hdistinct⟩
    refine ⟨fun p hp => ?_, hpair.mpr hdistinct⟩
    obtain ⟨peer, hpeer, rfl⟩ := List.mem_map.mp hp
    obtain ⟨hname, hrevision, bytes, hbytes, hsome⟩ := hnamed peer hpeer
    obtain rfl : bytes = (decodedOf decode peer).certificate :=
      Except.ok.inj (hbytes.symm.trans (hcertificate peer hpeer))
    exact ⟨hname, hrevision, hsome⟩

/-- **Which lists are accepted**, whatever the registry holds. -/
theorem replace_ok_iff {decode : String → Except String (List UInt8)} {registry : TrustedPeerRegistry}
    {peers : List TrustedPeer} : (registry.replace decode peers).2 = .ok () ↔ Acceptable decode peers := by
  constructor
  · intro h
    have hdecoded : List.Forall₂ (Decodes decode) peers (registry.replace decode peers).1.peers :=
      replace_eq_ok.mp (Prod.ext rfl h)
    obtain ⟨heq, hall⟩ := decoded_eq hdecoded
    refine (admissible_map_iff hall).mp ?_
    rw [← heq]
    exact (registry.replace decode peers).1.admissible
  · intro h
    have hall : ∀ peer ∈ peers, ∃ bytes, decode peer.certificate = .ok bytes := by
      intro peer hpeer
      obtain ⟨-, -, bytes, hbytes, -⟩ := h.named peer hpeer
      exact ⟨bytes, hbytes⟩
    have hdecoded : List.Forall₂ (Decodes decode) peers (peers.map (decodedOf decode)) := by
      rw [List.forall₂_map_right_iff, List.forall₂_same]
      intro peer hpeer
      obtain ⟨bytes, hbytes⟩ := hall peer hpeer
      exact decodes_of_eq_ok hbytes
    have haccepted : registry.replace decode peers = (⟨_, (admissible_map_iff hall).mpr h⟩, .ok ()) :=
      replace_eq_ok.mpr hdecoded
    rw [haccepted]

end TrustedPeerRegistry

end MyKvm.Transport
