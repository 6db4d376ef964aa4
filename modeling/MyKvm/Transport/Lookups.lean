import Mathlib.Data.List.Nodup
import MyKvm.Lib.Machine
import MyKvm.Pairing.Confirm

/-!
# MyKvm.Transport.Lookups — the registry is asked in two directions

A connection which comes in is asked for by its certificate, a connection which goes out by the name and the role
of the peer.  Whatever lists the registry was replaced by, the two answers are about one entry.

* `authenticate_iff`, `controlPeer_iff`: each lookup finds the entry, which is the only one.
* `registry_integrity`: the result.
-/

namespace MyKvm.Transport

open MyKvm.Lib MyKvm.Receiver MyKvm.Pairing

/-- Where at most one element fits, a search finds it. -/
theorem find?_eq_some_iff_of_unique {α : Type*} {l : List α} {p : α → Bool} {a : α}
    (h : ∀ b ∈ l, ∀ c ∈ l, p b = true → p c = true → b = c) : l.find? p = some a ↔ a ∈ l ∧ p a = true := by
  constructor
  · intro hfind
    exact ⟨List.mem_of_find?_eq_some hfind, List.find?_some hfind⟩
  · rintro ⟨hmem, hfits⟩
    cases hfind : l.find? p with
    | none => exact absurd hfits (by simpa using List.find?_eq_none.mp hfind a hmem)
    | some b =>
      rw [h b (List.mem_of_find?_eq_some hfind) a hmem (List.find?_some hfind) hfits]

structure ControlPeer where
  peerId : String
  role : PeerRole
  trustRevision : UInt64
  endpoint : PeerEndpoint
  deriving DecidableEq

/-- `{role:?}` -/
def roleName : PeerRole → String
  | .controller => "Controller"
  | .receiver => "Receiver"

namespace Admissible

variable {peers : List DecodedTrustedPeer}

theorem nodup_peerId (h : Admissible peers) : (peers.map (·.peerId)).Nodup :=
  List.pairwise_map.mpr (h.distinct.imp fun hpq => hpq.1)

theorem nodup_certificate (h : Admissible peers) : (peers.map (·.certificate)).Nodup :=
  List.pairwise_map.mpr (h.distinct.imp fun hpq => hpq.2)

end Admissible

namespace TrustedPeerRegistry

variable (encode : List UInt8 → String) (registry : TrustedPeerRegistry)

/-- The peer to dial; its certificate is encoded once more. -/
def controlPeer (peerId : String) (role : PeerRole) (addr : String) (protocolVersion : UInt16) :
    Except String ControlPeer :=
  match registry.peers.find? fun peer => peer.peerId = peerId ∧ peer.role = role with
  | none => .error ("peer " ++ peerId ++ " is not trusted for role " ++ roleName role)
  | some peer => .ok ⟨peer.peerId, peer.role, peer.trustRevision, ⟨addr, encode peer.certificate, protocolVersion⟩⟩

variable {encode registry}

/-- **The lookup by certificate.** -/
theorem authenticate_iff {certificate : List UInt8} {remoteAddr : SocketAddr} {generation : UInt64}
    {answer : AuthenticatedPeer} :
    registry.authenticate certificate remoteAddr generation = some answer ↔
      ∃ peer ∈ registry.peers, peer.certificate = certificate ∧
        answer = ⟨peer.peerId, peer.role, peer.trustRevision, generation, remoteAddr⟩ := by
  refine ⟨authenticate_eq_some, ?_⟩
  rintro ⟨peer, hpeer, rfl, rfl⟩
  have hfind : registry.peers.find? (·.certificate = peer.certificate) = some peer := by
    refine (find?_eq_some_iff_of_unique fun b hb c hc hfits hfits' => ?_).mpr ⟨hpeer, by simp⟩
    exact List.inj_on_of_nodup_map registry.admissible.nodup_certificate hb hc
      ((of_decide_eq_true hfits).trans (of_decide_eq_true hfits').symm)
  unfold authenticate
  rw [hfind]
  rfl

/-- **The lookup by name and role.** -/
theorem controlPeer_iff {peerId : String} {role : PeerRole} {addr : String} {protocolVersion : UInt16}
    {answer : ControlPeer} :
    registry.controlPeer encode peerId role addr protocolVersion = .ok answer ↔
      ∃ peer ∈ registry.peers, (peer.peerId = peerId ∧ peer.role = role) ∧
        answer = ⟨peerId, role, peer.trustRevision, ⟨addr, encode peer.certificate, protocolVersion⟩⟩ := by
  have hfind : ∀ peer, (registry.peers.find? fun peer => peer.peerId = peerId ∧ peer.role = role) = some peer ↔
      peer ∈ registry.peers ∧ decide (peer.peerId = peerId ∧ peer.role = role) = true := by
    intro peer
    refine find?_eq_some_iff_of_unique fun b hb c hc hfits hfits' => ?_
    exact List.inj_on_of_nodup_map registry.admissible.nodup_peerId hb hc
      ((of_decide_eq_true hfits).1.trans (of_decide_eq_true hfits').1.symm)
  unfold controlPeer
  constructor
  · intro h
    split at h
    · cases h
    · rename_i peer hsome
      obtain ⟨hpeer, hfits⟩ := (hfind peer).mp hsome
      obtain ⟨rfl, rfl⟩ := of_decide_eq_true hfits
      exact ⟨peer, hpeer, ⟨rfl, rfl⟩, (Except.ok.inj h).symm⟩
  · rintro ⟨peer, hpeer, hfits, rfl⟩
    rw [(hfind peer).mpr ⟨hpeer, decide_eq_true hfits⟩]
    obtain ⟨rfl, rfl⟩ := hfits
    rfl

/-- **The registry is one book.**  After any replacements: a list which is rejected changes nothing; a list which
is accepted is decoded entry by entry, and each name and each certificate occurs once.  The two lookups answer with
one entry: a peer is dialled under a certificate exactly if that certificate authenticates as this peer.  Nobody
else authenticates, and nobody else is dialled.  The encoder is one which the decoder undoes. -/
theorem registry_integrity {decode : String → Except String (List UInt8)} {encode : List UInt8 → String}
    (hround : ∀ bytes, decode (encode bytes) = .ok bytes) (lists : List (List TrustedPeer)) :
    let registry := run (fun registry peers => (replace decode registry peers).1) empty lists
    (∀ peers error, (registry.replace decode peers).2 = .error error →
      (registry.replace decode peers).1 = registry) ∧
      (∀ peers, (registry.replace decode peers).2 = .ok () →
        let replaced := (registry.replace decode peers).1
        List.Forall₂ (Decodes decode) peers replaced.peers ∧
          (∀ p ∈ replaced.peers, isBlank p.peerId = false ∧ p.trustRevision ≠ 0 ∧ p.certificate ≠ []) ∧
          (replaced.peers.map (·.peerId)).Nodup ∧ (replaced.peers.map (·.certificate)).Nodup) ∧
      (∀ peerId role certificate trustRevision addr protocolVersion remoteAddr generation,
        (∃ peer, registry.controlPeer encode peerId role addr protocolVersion = .ok peer ∧
            peer.endpoint.publicKey = encode certificate ∧ peer.trustRevision = trustRevision) ↔
          registry.authenticate certificate remoteAddr generation =
            some ⟨peerId, role, trustRevision, generation, remoteAddr⟩) ∧
      (∀ certificate remoteAddr generation,
        (∀ peerId role addr protocolVersion peer,
          registry.controlPeer encode peerId role addr protocolVersion = .ok peer →
            peer.endpoint.publicKey ≠ encode certificate) →
          registry.authenticate certificate remoteAddr generation = none) ∧
      (∀ peerId role addr protocolVersion, (∀ p ∈ registry.peers, p.peerId = peerId → p.role ≠ role) →
        registry.controlPeer encode peerId role addr protocolVersion =
          .error ("peer " ++ peerId ++ " is not trusted for role " ++ roleName role)) := by
  intro registry
  have hinjective : ∀ {bytes bytes'}, encode bytes = encode bytes' → bytes = bytes' := by
    intro bytes bytes' h
    exact Except.ok.inj ((hround bytes).symm.trans (h ▸ hround bytes'))
  refine ⟨fun peers error h => replace_error h, fun peers h => ?_, ?_, ?_, ?_⟩
  · intro replaced
    have haccepted : registry.replace decode peers = (replaced, .ok ()) := Prod.ext rfl h
    exact ⟨replace_eq_ok.mp haccepted, replaced.admissible.named, replaced.admissible.nodup_peerId,
      replaced.admissible.nodup_certificate⟩
  · intro peerId role certificate trustRevision addr protocolVersion remoteAddr generation
    rw [authenticate_iff]
    constructor
    · rintro ⟨answer, hdialled, hkey, rfl⟩
      obtain ⟨peer, hpeer, ⟨rfl, rfl⟩, rfl⟩ := controlPeer_iff.mp hdialled
      exact ⟨peer, hpeer, hinjective hkey, rfl⟩
    · rintro ⟨peer, hpeer, rfl, hanswer⟩
      obtain ⟨rfl, rfl, rfl, -, -⟩ := AuthenticatedPeer.mk.inj hanswer
      exact ⟨_, controlPeer_iff.mpr ⟨peer, hpeer, ⟨rfl, rfl⟩, rfl⟩, rfl, rfl⟩
  · intro certificate remoteAddr generation hother
    refine authenticate_eq_none ?_
    rintro ⟨peer, hpeer, rfl⟩
    exact hother peer.peerId peer.role "" 0 _ (controlPeer_iff.mpr ⟨peer, hpeer, ⟨rfl, rfl⟩, rfl⟩) rfl
  · intro peerId role addr protocolVersion hother
    have hnone : (registry.peers.find? fun peer => peer.peerId = peerId ∧ peer.role = role) = none := by
      refine List.find?_eq_none.mpr fun peer hpeer hfits => ?_
      obtain ⟨hid, hrole⟩ := of_decide_eq_true hfits
      exact hother peer hpeer hid hrole
    unfold controlPeer
    rw [hnone]

section Examples

/-- Base64 of two certificates; other bytes are only marked. -/
def sampleEncode (bytes : List UInt8) : String :=
  if bytes = [1, 2, 3] then "AQID" else if bytes = [4, 5, 6] then "BAUG"
  else String.ofList ('~' :: bytes.map Char.ofUInt8)

def sampleDecode (text : String) : Except String (List UInt8) :=
  if text = "AQID" then .ok [1, 2, 3] else if text = "BAUG" then .ok [4, 5, 6]
  else match text.toList with
    | '~' :: symbols => .ok (symbols.map Char.toUInt8)
    | _ => .error "Invalid input length"

theorem sampleDecode_encode (bytes : List UInt8) : sampleDecode (sampleEncode bytes) = .ok bytes := by
  unfold sampleEncode
  split_ifs with hfirst hsecond
  · rw [hfirst]
    rfl
  · rw [hsecond]
    rfl
  · have hmarked : ∀ text : String, text.toList.head? ≠ some '~' →
        String.ofList ('~' :: bytes.map Char.ofUInt8) ≠ text := by
      rintro text htext rfl
      exact htext (by simp)
    have hback : ∀ b : UInt8, (Char.ofUInt8 b).toUInt8 = b := fun b => UInt8.toUInt8_toUInt32 b
    unfold sampleDecode
    rw [if_neg (hmarked _ (by decide)), if_neg (hmarked _ (by decide))]
    simp [Function.comp_def, hback]

def samplePeers : List TrustedPeer :=
  [⟨"controller-a", "AQID", .controller, 7⟩, ⟨"receiver-b", "BAUG", .receiver, 8⟩]

/-- The second list names a certificate twice, and is rejected. -/
theorem registry_integrity_two :
    let registry := run (fun registry peers => (replace sampleDecode registry peers).1) empty
      [samplePeers, [⟨"x", "AQID", .controller, 1⟩, ⟨"y", "AQID", .receiver, 2⟩]]
    (∃ peer, registry.controlPeer sampleEncode "controller-a" .controller "10.0.0.2:47834" 2 = .ok peer ∧
        peer.endpoint.publicKey = sampleEncode [1, 2, 3] ∧ peer.trustRevision = 7) ↔
      registry.authenticate [1, 2, 3] (.v4 0x0A000002 47834) 19 =
        some ⟨"controller-a", .controller, 7, 19, .v4 0x0A000002 47834⟩ :=
  (registry_integrity sampleDecode_encode _).2.2.1 ..

end Examples

end TrustedPeerRegistry

end MyKvm.Transport
