import Mathlib.Data.Finset.Card
import Mathlib.Data.Finset.Option
import Mathlib.Data.Finset.Range
import Mathlib.Data.List.MinMax
import Mathlib.Data.List.Nodup
import Mathlib.Data.List.Perm.Basic
import MyKvm.Discovery.Peers

/-!
# MyKvm.Discovery.Listing — who is in the list of peers

The list only ever changes in two ways: a peer is heard, or the list is pruned.  What is listed never lies: each id
is listed once, with the latest packet of its peer.  What is missing is stale or was crowded out, and a peer can
only be crowded out of a full list by peers which were heard no earlier.
-/

namespace MyKvm.Discovery

open MyKvm.Lib

/-- What happens to the list: a packet which is stamped with the time of its arrival, or a look at the clock. -/
inductive Touch where
  | heard (peer : LanPeer)
  | pruned (nowMs : UInt64)

def Touch.nowMs : Touch → UInt64
  | .heard peer => peer.lastSeenMs
  | .pruned nowMs => nowMs

def touch (peers : List LanPeer) : Touch → List LanPeer
  | .heard peer => mergePeerEntry peers peer peer.lastSeenMs
  | .pruned nowMs => pruneStalePeerEntries peers nowMs

/-- The list after all of this, from the empty one. -/
def listed (touches : List Touch) : List LanPeer := touches.foldl touch []

/-- The clock never goes back. -/
def Ordered (touches : List Touch) : Prop := (touches.map Touch.nowMs).Pairwise (· ≤ ·)

def FreshAt (nowMs : UInt64) (peer : LanPeer) : Prop := saturatingSub nowMs peer.lastSeenMs ≤ peerTtlMs

def Touch.from? (id : String) : Touch → Option LanPeer
  | .heard peer => if peer.id = id then some peer else none
  | .pruned _ => none

/-- The last packet of this id. -/
def latest (touches : List Touch) (id : String) : Option LanPeer := touches.reverse.findSome? (Touch.from? id)

@[simp] theorem latest_nil (id : String) : latest [] id = none := rfl

@[simp] theorem latest_heard (touches : List Touch) (peer : LanPeer) (id : String) :
    latest (touches ++ [.heard peer]) id = if peer.id = id then some peer else latest touches id := by
  unfold latest
  rw [List.reverse_append, List.reverse_singleton, List.singleton_append, List.findSome?_cons]
  by_cases h : peer.id = id <;> simp [Touch.from?, h]

@[simp] theorem latest_pruned (touches : List Touch) (nowMs : UInt64) (id : String) :
    latest (touches ++ [.pruned nowMs]) id = latest touches id := by
  unfold latest
  rw [List.reverse_append, List.reverse_singleton, List.singleton_append, List.findSome?_cons]
  rfl

@[simp] theorem listed_concat (touches : List Touch) (next : Touch) :
    listed (touches ++ [next]) = touch (listed touches) next := by
  simp [listed, List.foldl_append]

theorem ordered_concat {touches : List Touch} {next : Touch} :
    Ordered (touches ++ [next]) ↔ Ordered touches ∧ ∀ earlier ∈ touches, earlier.nowMs ≤ next.nowMs := by
  simp [Ordered, List.map_append, List.pairwise_append]

theorem latest_id {touches : List Touch} {id : String} {peer : LanPeer} (h : latest touches id = some peer) :
    .heard peer ∈ touches ∧ peer.id = id := by
  obtain ⟨touch, hmem, hfrom⟩ := List.exists_of_findSome?_eq_some h
  cases touch with
  | heard heard =>
    simp only [Touch.from?] at hfrom
    split_ifs at hfrom with hid
    obtain rfl := Option.some.inj hfrom
    exact ⟨List.mem_reverse.mp hmem, hid⟩
  | pruned nowMs => simp [Touch.from?] at hfrom

/-! ### Lists with keys -/

section Keyed

variable {α κ : Type*} {key : α → κ} {entries : List α} {index : ℕ}

/-- Where every key occurs once, one entry is taken out with its key. -/
theorem mem_eraseIdx_iff_of_nodup (hkeys : (entries.map key).Nodup) (hindex : index < entries.length) (entry : α) :
    entry ∈ entries.eraseIdx index ↔ entry ∈ entries ∧ key entry ≠ key entries[index] := by
  have hperm := List.getElem_cons_eraseIdx_perm hindex
  have hnodup := (hperm.map key).nodup_iff.mpr hkeys
  rw [List.map_cons, List.nodup_cons] at hnodup
  rw [← hperm.mem_iff, List.mem_cons]
  constructor
  · intro hmem
    exact ⟨.inr hmem, fun heq => hnodup.1 (heq ▸ List.mem_map_of_mem hmem)⟩
  · rintro ⟨rfl | hmem, hne⟩
    · exact absurd rfl hne
    · exact hmem

theorem swapRemove_perm (hindex : index < entries.length) :
    (swapRemove entries index).Perm (entries.eraseIdx index) := by
  obtain ⟨front, last, rfl⟩ :=
    List.eq_nil_or_concat' entries |>.resolve_left (List.ne_nil_of_length_pos (by omega))
  have hlast : (front ++ [last]).getLast? = some last := List.getLast?_concat
  simp only [swapRemove, hlast]
  simp only [List.length_append, List.length_singleton] at hindex
  by_cases hfront : index < front.length
  · rw [List.set_append_left _ _ hfront, List.dropLast_concat, List.eraseIdx_append_of_lt_length hfront]
    exact (List.set_perm_cons_eraseIdx hfront last).trans (List.perm_append_singleton _ _).symm
  · obtain rfl : index = front.length := by omega
    rw [List.set_append_right _ _ le_rfl, List.eraseIdx_append_of_length_le le_rfl]
    simp

end Keyed

/-! ### One step -/

@[simp] theorem mem_pruneStalePeerEntries {peers : List LanPeer} {nowMs : UInt64} {peer : LanPeer} :
    peer ∈ pruneStalePeerEntries peers nowMs ↔ peer ∈ peers ∧ FreshAt nowMs peer := by
  simp [pruneStalePeerEntries, FreshAt]

theorem pruneStalePeerEntries_sublist (peers : List LanPeer) (nowMs : UInt64) :
    (pruneStalePeerEntries peers nowMs).Sublist peers := List.filter_sublist

theorem oldestIndex_spec {peers : List LanPeer} (h : peers ≠ []) :
    ∃ hindex : oldestIndex peers < peers.length, ∀ peer ∈ peers, peers[oldestIndex peers].lastSeenMs ≤
      peer.lastSeenMs := by
  have hexists : ∃ oldest ∈ peers,
    peers.all (fun other => decide (oldest.lastSeenMs ≤ other.lastSeenMs)) = true := by
    obtain ⟨oldest, holdest⟩ := Option.ne_none_iff_exists'.mp
      (mt List.argmin_eq_none.mp h : List.argmin (fun peer : LanPeer => peer.lastSeenMs.toNat) peers ≠ none)
    refine ⟨oldest, List.argmin_mem holdest, List.all_eq_true.mpr fun other hother => ?_⟩
    refine decide_eq_true (UInt64.le_iff_toNat_le.mpr ?_)
    exact List.le_of_mem_argmin (f := fun peer : LanPeer => peer.lastSeenMs.toNat) hother holdest
  refine ⟨List.findIdx_lt_length_of_exists hexists, fun peer hpeer => ?_⟩
  have hfound := List.findIdx_getElem (w := List.findIdx_lt_length_of_exists hexists)
  exact of_decide_eq_true (List.all_eq_true.mp hfound peer hpeer)

/-- The peer which the packet of `next` crowds out of these peers: the list is full, `next` is not in it,
and none was heard earlier. -/
def CrowdsOut (peers : List LanPeer) (next gone : LanPeer) : Prop :=
  gone ∈ peers ∧ maxDiscoveryPeers ≤ peers.length ∧ (∀ peer ∈ peers, peer.id ≠ next.id) ∧
    ∀ peer ∈ peers, gone.lastSeenMs ≤ peer.lastSeenMs

/-- The new entry, in front of what is left of the fresh ones. -/
theorem mergePeerEntry_spec (peers : List LanPeer) (next : LanPeer) (nowMs : UInt64)
    (hids : (peers.map (·.id)).Nodup) :
    ∃ rest gone, (mergePeerEntry peers next nowMs).Perm (next :: rest) ∧
      rest.Sublist (pruneStalePeerEntries peers nowMs) ∧
      (∀ peer, peer ∈ rest ↔
        (peer ∈ peers ∧ FreshAt nowMs peer) ∧ peer.id ≠ next.id ∧ gone ≠ some peer) ∧
      (∀ peer, gone = some peer → CrowdsOut (pruneStalePeerEntries peers nowMs) next peer) ∧
      (rest.length + 1 = (pruneStalePeerEntries peers nowMs).length ∨
        rest.length = (pruneStalePeerEntries peers nowMs).length ∧
          (pruneStalePeerEntries peers nowMs).length < maxDiscoveryPeers) := by
  have hfresh : ∀ peer, peer ∈ pruneStalePeerEntries peers nowMs ↔ peer ∈ peers ∧ FreshAt nowMs peer :=
    fun _ => mem_pruneStalePeerEntries
  have hnodup := hids.sublist ((pruneStalePeerEntries_sublist peers nowMs).map (·.id))
  unfold mergePeerEntry
  generalize pruneStalePeerEntries peers nowMs = fresh at *
  simp only
  cases hfind : fresh.findIdx? (fun peer => decide (peer.id = next.id)) with
  | some index =>
    obtain ⟨hindex, hid, -⟩ := List.findIdx?_eq_some_iff_getElem.mp hfind
    refine ⟨fresh.eraseIdx index, none, List.set_perm_cons_eraseIdx hindex next,
      List.eraseIdx_sublist _ _, ?_, by simp, .inl ?_⟩
    · intro peer
      rw [mem_eraseIdx_iff_of_nodup hnodup hindex, of_decide_eq_true hid, hfresh peer]
      simp
    · rw [List.length_eraseIdx_of_lt hindex]
      omega
  | none =>
    have hnew : ∀ peer ∈ fresh, peer.id ≠ next.id := by simpa using List.findIdx?_eq_none_iff.mp hfind
    simp only
    by_cases hfull : maxDiscoveryPeers ≤ fresh.length
    · have hne : fresh ≠ [] := by
        rintro rfl
        exact absurd hfull (by decide)
      obtain ⟨hindex, holdest⟩ := oldestIndex_spec hne
      rw [if_pos hfull]
      refine ⟨fresh.eraseIdx (oldestIndex fresh), some fresh[oldestIndex fresh], ?_,
        List.eraseIdx_sublist _ _, ?_, ?_, .inl ?_⟩
      · exact (List.perm_append_singleton _ _).trans ((swapRemove_perm hindex).cons next)
      · intro peer
        rw [mem_eraseIdx_iff_of_nodup hnodup hindex, ← hfresh peer]
        constructor
        · rintro ⟨hmem, hne⟩
          exact ⟨hmem, hnew peer hmem, fun heq => hne (by rw [Option.some.inj heq])⟩
        · rintro ⟨hmem, -, hne⟩
          refine ⟨hmem, fun heq => hne (congrArg some ?_)⟩
          exact (List.inj_on_of_nodup_map hnodup hmem (List.getElem_mem hindex) heq).symm
      · rintro peer heq
        obtain rfl := Option.some.inj heq
        exact ⟨List.getElem_mem hindex, hfull, hnew, holdest⟩
      · rw [List.length_eraseIdx_of_lt hindex]
        omega
    · rw [if_neg hfull]
      refine ⟨fresh, none, List.perm_append_singleton _ _, List.Sublist.refl _, ?_, by simp, .inr ⟨rfl, by omega⟩⟩
      intro peer
      rw [← hfresh peer]
      exact ⟨fun hmem => ⟨hmem, hnew peer hmem, by simp⟩, fun h => h.1⟩

/-! ### Every run -/

/-- What is listed is true, and what is not listed is stale or was crowded out. -/
structure Faithful (touches : List Touch) (peers : List LanPeer) : Prop where
  distinct : (peers.map (·.id)).Nodup
  bounded : peers.length ≤ maxDiscoveryPeers
  latest : ∀ peer ∈ peers, latest touches peer.id = some peer
  missing : ∀ peer, Discovery.latest touches peer.id = some peer → peer ∉ peers →
    (∃ earlier ∈ touches, ¬ FreshAt earlier.nowMs peer) ∨
      (peers.length = maxDiscoveryPeers ∧ ∀ kept ∈ peers, peer.lastSeenMs ≤ kept.lastSeenMs)

theorem Faithful.nil : Faithful [] [] where
  distinct := List.nodup_nil
  bounded := Nat.zero_le _
  latest := by simp
  missing := by simp

/-- Whoever was heard after a fresh peer is fresh too. -/
theorem FreshAt.of_le {nowMs : UInt64} {peer kept : LanPeer} (h : FreshAt nowMs peer)
    (hle : peer.lastSeenMs ≤ kept.lastSeenMs) : FreshAt nowMs kept := by
  simp only [FreshAt, UInt64.le_iff_toNat_le, saturatingSub_toNat] at *
  omega

section Step

variable {touches : List Touch} {peers : List LanPeer} (h : Faithful touches peers)
include h

/-- Looking at the clock only removes who is stale then. -/
theorem Faithful.prune (nowMs : UInt64) :
    Faithful (touches ++ [.pruned nowMs]) (pruneStalePeerEntries peers nowMs) where
  distinct := h.distinct.sublist ((pruneStalePeerEntries_sublist peers nowMs).map (·.id))
  bounded := (pruneStalePeerEntries_sublist peers nowMs).length_le.trans h.bounded
  latest peer hmem := by
    rw [latest_pruned]
    exact h.latest peer (mem_pruneStalePeerEntries.mp hmem).1
  missing peer hlatest habsent := by
    rw [latest_pruned] at hlatest
    by_cases hfresh : FreshAt nowMs peer
    · have hout : peer ∉ peers := fun hmem => habsent (mem_pruneStalePeerEntries.mpr ⟨hmem, hfresh⟩)
      rcases h.missing peer hlatest hout with ⟨earlier, hearlier, hstale⟩ | ⟨hfull, hold⟩
      · exact .inl ⟨earlier, List.mem_append_left _ hearlier, hstale⟩
      · have hall : pruneStalePeerEntries peers nowMs = peers := by
          refine List.filter_eq_self.mpr fun kept hkept => decide_eq_true ?_
          exact hfresh.of_le (hold kept hkept)
        rw [hall]
        exact .inr ⟨hfull, hold⟩
    · exact .inl ⟨.pruned nowMs, by simp, hfresh⟩

/-- Hearing a peer looks at the clock, and then writes the packet down. -/
theorem Faithful.heard (next : LanPeer) (hordered : ∀ earlier ∈ touches, earlier.nowMs ≤ next.lastSeenMs) :
    Faithful (touches ++ [.heard next]) (mergePeerEntry peers next next.lastSeenMs) := by
  obtain ⟨rest, gone, hperm, hsub, hrest, hgone, hlength⟩ :=
    mergePeerEntry_spec peers next next.lastSeenMs h.distinct
  have hpruned := h.prune next.lastSeenMs
  have hcount := hperm.length_eq
  rw [List.length_cons] at hcount
  have hbound := hpruned.bounded
  refine ⟨?_, by omega, fun peer hmem => ?_, fun peer hlatest habsent => ?_⟩
  · rw [(hperm.map (·.id)).nodup_iff, List.map_cons, List.nodup_cons]
    refine ⟨?_, hpruned.distinct.sublist (hsub.map (·.id))⟩
    intro hmem
    obtain ⟨peer, hpeer, hid⟩ := List.mem_map.mp hmem
    exact ((hrest peer).mp hpeer).2.1 hid
  · rw [hperm.mem_iff, List.mem_cons] at hmem
    rcases hmem with rfl | hmem
    · simp
    · obtain ⟨⟨hlisted, -⟩, hid, -⟩ := (hrest peer).mp hmem
      rw [latest_heard, if_neg (Ne.symm hid)]
      exact h.latest peer hlisted
  · rw [hperm.mem_iff, List.mem_cons, not_or] at habsent
    obtain ⟨hne, hout⟩ := habsent
    have hid : peer.id ≠ next.id := by
      intro heq
      rw [latest_heard, if_pos heq.symm] at hlatest
      exact hne (Option.some.inj hlatest).symm
    rw [latest_heard, if_neg (Ne.symm hid)] at hlatest
    have hbefore : peer.lastSeenMs ≤ next.lastSeenMs := hordered _ (latest_id hlatest).1
    -- A full list stays full, and the new entry is no older than the missing one.
    have hkeep : ∀ full : (pruneStalePeerEntries peers next.lastSeenMs).length = maxDiscoveryPeers,
        (∀ kept ∈ pruneStalePeerEntries peers next.lastSeenMs, peer.lastSeenMs ≤ kept.lastSeenMs) →
        (mergePeerEntry peers next next.lastSeenMs).length = maxDiscoveryPeers ∧
          ∀ kept ∈ mergePeerEntry peers next next.lastSeenMs, peer.lastSeenMs ≤ kept.lastSeenMs := by
      intro hfull hold
      refine ⟨by omega, fun kept hkept => ?_⟩
      rcases List.mem_cons.mp (hperm.mem_iff.mp hkept) with rfl | hkept
      · exact hbefore
      · exact hold kept (hsub.subset hkept)
    by_cases hlisted : peer ∈ pruneStalePeerEntries peers next.lastSeenMs
    · have hcrowded : gone = some peer := by
        by_contra hother
        exact hout ((hrest peer).mpr ⟨mem_pruneStalePeerEntries.mp hlisted, hid, hother⟩)
      obtain ⟨-, hfull, -, hold⟩ := hgone peer hcrowded
      exact .inr (hkeep (by omega) hold)
    · rcases hpruned.missing peer (by rwa [latest_pruned]) hlisted with ⟨earlier, hearlier, hstale⟩ | ⟨hfull, hold⟩
      · refine .inl ?_
        rcases List.mem_append.mp hearlier with hearlier | hearlier
        · exact ⟨earlier, List.mem_append_left _ hearlier, hstale⟩
        · obtain rfl := List.mem_singleton.mp hearlier
          exact ⟨.heard next, by simp, hstale⟩
      · exact .inr (hkeep hfull hold)

end Step

theorem faithful_listed {touches : List Touch} (hordered : Ordered touches) :
    Faithful touches (listed touches) := by
  induction touches using List.reverseRecOn with
  | nil => exact Faithful.nil
  | append_singleton touches next ih =>
    obtain ⟨hbefore, hnext⟩ := ordered_concat.mp hordered
    rw [listed_concat]
    cases next with
    | heard peer => exact (ih hbefore).heard peer hnext
    | pruned nowMs => exact (ih hbefore).prune nowMs

theorem FreshAt.earlier {nowMs earlierMs : UInt64} {peer : LanPeer} (h : FreshAt nowMs peer)
    (hle : earlierMs ≤ nowMs) :
    FreshAt earlierMs peer := by
  simp only [FreshAt, UInt64.le_iff_toNat_le, saturatingSub_toNat] at *
  omega

/-- **The list of peers**, whatever was heard and whenever the list was pruned.  A packet comes in beside the
fresh peers which were listed, of which it crowds out one at most; and whoever was crowded out before is still
older than all who are listed. -/
theorem listed_exactly {touches : List Touch} (hordered : Ordered touches) :
    ((listed touches).map (·.id)).Nodup ∧ (listed touches).length ≤ maxDiscoveryPeers ∧
      (∀ peer ∈ listed touches, latest touches peer.id = some peer) ∧
      ∀ before next, touches = before ++ [.heard next] →
        (∃ gone, (∀ peer, peer ∈ listed touches ↔ peer = next ∨
            (peer ∈ listed before ∧ FreshAt next.lastSeenMs peer) ∧ peer.id ≠ next.id ∧ gone ≠ some peer) ∧
          ∀ peer, gone = some peer →
            CrowdsOut (pruneStalePeerEntries (listed before) next.lastSeenMs) next peer) ∧
        ∀ peer, latest touches peer.id = some peer → FreshAt next.lastSeenMs peer → peer ∉ listed touches →
          (listed touches).length = maxDiscoveryPeers ∧ ∀ kept ∈ listed touches,
            peer.lastSeenMs ≤ kept.lastSeenMs := by
  have hfaithful := faithful_listed hordered
  refine ⟨hfaithful.distinct, hfaithful.bounded, hfaithful.latest, ?_⟩
  rintro before next rfl
  obtain ⟨hbefore, hnext⟩ := ordered_concat.mp hordered
  refine ⟨?_, fun peer hlatest hfresh habsent => ?_⟩
  · obtain ⟨rest, gone, hperm, -, hrest, hgone, -⟩ :=
      mergePeerEntry_spec (listed before) next next.lastSeenMs (faithful_listed hbefore).distinct
    refine ⟨gone, fun peer => ?_, hgone⟩
    rw [listed_concat, touch, hperm.mem_iff, List.mem_cons, hrest peer]
  · rcases hfaithful.missing peer hlatest habsent with ⟨earlier, hearlier, hstale⟩ | hcrowded
    · refine absurd (hfresh.earlier ?_) hstale
      rcases List.mem_append.mp hearlier with hearlier | hearlier
      · exact hnext earlier hearlier
      · obtain rfl := List.mem_singleton.mp hearlier
        exact UInt64.le_refl _
    · exact hcrowded

/-- One machine of many: the same time, and an id of its own. -/
def visitor (n : ℕ) : LanPeer where
  id := String.ofList (List.replicate n 'v')
  name := "visitor"
  platform := "linux"
  machineRole := "client"
  clusterId := ""
  pairingRequired := true
  host := "visitor"
  ip := "192.168.31.90"
  transportPort := 47833
  quicPort := 47834
  transportPublicKey := ""
  protocolVersion := 1
  screenCount := 0
  inputReady := false
  upgrading := false
  screens := []
  appVersion := ""
  lastSeenMs := 1000

def crowd (n : ℕ) : List Touch := (List.range n).map fun i => .heard (visitor i)

theorem visitor_id_inj {m n : ℕ} : (visitor m).id = (visitor n).id ↔ m = n := by
  constructor
  · intro h
    simpa [visitor] using congrArg (fun id : String => id.toList.length) h
  · rintro rfl
    rfl

theorem crowd_succ (n : ℕ) : crowd (n + 1) = crowd n ++ [.heard (visitor n)] := by
  simp [crowd, List.range_succ]

theorem latest_crowd {n i : ℕ} (h : i < n) : latest (crowd n) (visitor i).id = some (visitor i) := by
  induction n with
  | zero => omega
  | succ n ih =>
    rw [crowd_succ, latest_heard]
    by_cases hi : n = i
    · rw [if_pos (visitor_id_inj.mpr hi), hi]
    · rw [if_neg (mt visitor_id_inj.mp hi)]
      exact ih (by omega)

theorem ordered_crowd (n : ℕ) : Ordered (crowd n) := by
  have htimes : (crowd n).map Touch.nowMs = List.replicate n 1000 := by
    simp [crowd, Touch.nowMs, visitor, Function.comp_def]
  rw [Ordered, htimes]
  exact List.pairwise_replicate.mpr (.inr (UInt64.le_refl _))

theorem listed_exactly_crowd : (listed (crowd 130)).length ≤ maxDiscoveryPeers :=
  (listed_exactly (ordered_crowd 130)).2.1

/-- Of 130 machines which are heard at once, two are missing: more than one of those which were merged before. -/
theorem not_only_one_crowded_out :
    ¬ ∃ gone, ∀ peer, peer ∈ listed (crowd 129 ++ [.heard (visitor 129)]) ↔ peer = visitor 129 ∨
      (latest (crowd 129) peer.id = some peer ∧ FreshAt (visitor 129).lastSeenMs peer) ∧
        peer.id ≠ (visitor 129).id ∧ gone ≠ some peer := by
  rintro ⟨gone, hexact⟩
  have hbound := (faithful_listed (ordered_crowd 130)).bounded
  rw [crowd_succ] at hbound
  have hall : (Finset.range 130).image visitor ⊆
      (listed (crowd 129 ++ [.heard (visitor 129)])).toFinset ∪ gone.toFinset := by
    intro peer hpeer
    obtain ⟨i, hi, rfl⟩ := Finset.mem_image.mp hpeer
    have hlt := Finset.mem_range.mp hi
    rw [Finset.mem_union, List.mem_toFinset, Option.mem_toFinset, hexact]
    by_cases hgone : gone = some (visitor i)
    · exact .inr hgone
    · refine .inl ?_
      by_cases hlast : i = 129
      · exact .inl (by rw [hlast])
      · refine .inr ⟨⟨latest_crowd (by omega), ?_⟩, mt visitor_id_inj.mp hlast, hgone⟩
        exact (by decide : saturatingSub 1000 1000 ≤ peerTtlMs)
  have hcard : ((Finset.range 130).image visitor).card = 130 := by
    rw [Finset.card_image_of_injective _ fun m n h => visitor_id_inj.mp (congrArg LanPeer.id h), Finset.card_range]
  have hle := (Finset.card_le_card hall).trans (Finset.card_union_le _ _)
  have hlisted := List.toFinset_card_le (listed (crowd 129 ++ [.heard (visitor 129)]))
  have hgone : gone.toFinset.card ≤ 1 := by
    cases gone <;> simp
  simp only [maxDiscoveryPeers] at hbound
  omega

end MyKvm.Discovery
