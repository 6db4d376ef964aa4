import Mathlib.Logic.Function.Basic
import MyKvm.Lib.LastWriter
import MyKvm.Lib.Machine
import MyKvm.Clipboard.Steps

/-!
# MyKvm.Clipboard.Pair — two machines which share a clipboard

Each machine observes its clipboard and is delivered what the other one sent, in any order and any number of
times.  An engine can be made anew, with a new boot id, while the other one goes on.

A site keeps the books of a last-writer register (`MyKvm.Lib.LastWriter`): its current order and digest are the
newest of all operations which it sent or acknowledged (`Site.Sound.newest`), as long as its engine is the first
one and its clock has not reached the end.
-/

namespace MyKvm.Clipboard

open MyKvm.Lib MyKvm.Protocol LastWriter

inductive Side where
  | left
  | right
  deriving DecidableEq

def Side.other : Side → Side
  | .left => .right
  | .right => .left

@[simp] theorem Side.other_other (side : Side) : side.other.other = side := by cases side <;> rfl

theorem Side.other_ne (side : Side) : side.other ≠ side := by cases side <;> decide

theorem Side.forall_iff {P : Side → Prop} : (∀ side, P side) ↔ P .left ∧ P .right := by
  refine ⟨fun h => ⟨h .left, h .right⟩, fun h side => ?_⟩
  cases side with
  | left => exact h.1
  | right => exact h.2

instance decidableForallSide (P : Side → Prop) [∀ side, Decidable (P side)] : Decidable (∀ side, P side) :=
  decidable_of_iff _ Side.forall_iff.symm

/-- One machine.  The lists are newest first: what its observer sent, what its handler was called with, what the
handler acknowledged, and what it wrote to the clipboard. -/
structure Site where
  engine : ClipboardSyncEngine
  sent : List ClipboardBulkOperation
  delivered : List ClipboardBulkOperation
  acknowledged : List ClipboardBulkOperation
  written : List ClipboardContent

/-- What may happen next.  `observe` is a turn of the observer which read a content, and `deliver` a
call of the handler; `written` says whether the clipboard takes the content, and `appliedRevision`
is its revision afterwards. -/
inductive PairCall where
  | observe (side : Side) (imageAllowed manualResend : Bool) (systemRevision : UInt64) (content : ClipboardContent)
  | deliver (side : Side) (operation : ClipboardBulkOperation) (imageAllowed written : Bool)
      (appliedRevision : UInt64)
  | recreate (side : Side) (bootId : BootId) (baselineRevision : UInt64) (textLimit : ℕ)

section Model

variable (clipboardTextDigest : String → Digest)

namespace Site

def start (engine : ClipboardSyncEngine) : Site := ⟨engine, [], [], [], []⟩

def observe (site : Site) (imageAllowed manualResend : Bool) (systemRevision : UInt64)
    (content : ClipboardContent) :
    Site :=
  let (operation, engine) :=
    site.engine.offer clipboardTextDigest imageAllowed manualResend systemRevision content
  { site with engine := engine, sent := operation.toList ++ site.sent }

/-- The handler is called over the connection of `peer`. -/
def deliver (site : Site) (peer : String) (operation : ClipboardBulkOperation) (imageAllowed written : Bool)
    (appliedRevision : UInt64) : Site :=
  let site := { site with delivered := operation :: site.delivered }
  if ClipboardSyncEngine.isFrom operation peer site.engine.localPeer = false then site
  else
    let (acknowledged, engine) :=
      site.engine.receive clipboardTextDigest imageAllowed (fun _ => written) appliedRevision operation
    let applied := (site.engine.decideRemote clipboardTextDigest imageAllowed operation).1 = some .apply ∧
      written = true
    { site with
      engine := engine,
      acknowledged := if acknowledged then operation :: site.acknowledged else site.acknowledged,
      written := if applied then Operation.content operation :: site.written else site.written }

/-- The clipboard synchronisation is stopped and started. -/
def recreate (site : Site) (bootId : BootId) (baselineRevision : UInt64) (textLimit : ℕ) : Site :=
  match ClipboardSyncEngine.new site.engine.localPeer bootId baselineRevision textLimit with
  | .ok engine => { site with engine := engine }
  | .error _ => site

end Site

/-- The two machines. -/
abbrev Pair := Side → Site

namespace Pair

def start (engines : Side → ClipboardSyncEngine) : Pair := fun side => Site.start (engines side)

def next (pair : Pair) : PairCall → Pair
  | .observe side imageAllowed manualResend systemRevision content =>
    Function.update pair side
      ((pair side).observe clipboardTextDigest imageAllowed manualResend systemRevision content)
  | .deliver side operation imageAllowed written appliedRevision =>
    if operation ∈ (pair side.other).sent then
      Function.update pair side
        ((pair side).deliver clipboardTextDigest (pair side.other).engine.localPeer operation imageAllowed written
          appliedRevision)
    else pair
  | .recreate side bootId baselineRevision textLimit =>
    Function.update pair side ((pair side).recreate bootId baselineRevision textLimit)

end Pair

end Model

/-! ### One site -/

/-- What a register learns of an operation. -/
def entry (operation : ClipboardBulkOperation) : OperationOrder × Digest :=
  (Operation.order operation, Operation.digest operation)

namespace Site

variable {clipboardTextDigest : String → Digest} {site : Site} {operation : ClipboardBulkOperation}

/-- The operations which the site knows of. -/
def known (site : Site) : List ClipboardBulkOperation := site.sent ++ site.acknowledged

/-- The books of a site: the register, the clock, and the numbers of the own operations. -/
structure Sound (site : Site) : Prop where
  peer : fits site.engine.localPeer maxPeerIdBytes = true
  newest : ∃ r, site.engine.currentOrder = r.map Prod.fst ∧ site.engine.currentDigest = r.map Prod.snd ∧
    Newest r (site.known.map entry)
  clock : ∀ o ∈ site.known, (Operation.order o).lamport.toNat ≤ site.engine.lamport.toNat
  counted : site.engine.localSequence.toNat ≤ site.engine.lamport.toNat
  own : ∀ o ∈ site.sent, (Operation.order o).originPeer = site.engine.localPeer
  numbered : ∀ o ∈ site.sent,
    (Operation.order o).operationId.localSequence.toNat ≤ site.engine.localSequence.toNat
  rising : site.sent.Pairwise fun o o' =>
    (Operation.order o').operationId.localSequence.toNat < (Operation.order o).operationId.localSequence.toNat

theorem start_sound {engine : ClipboardSyncEngine} (h : Made engine) : (start engine).Sound := by
  obtain ⟨localPeer, bootId, baselineRevision, textLimit, hnew⟩ := h
  obtain ⟨⟨hpeer, -⟩, rfl⟩ := ClipboardSyncEngine.new_eq_ok.mp hnew
  exact ⟨hpeer, ⟨none, rfl, rfl, newest_nil⟩, fun o ho => (by cases ho), le_rfl, fun o ho => (by cases ho),
    fun o ho => (by cases ho), List.Pairwise.nil⟩

/-- The rank of a site is the stamp of its register. -/
theorem rank_eq {r : Register OperationOrder Digest} (h : site.engine.currentOrder = r.map Prod.fst) :
    site.engine.rank = stamp r := h

/-- The clock is ahead of the register. -/
theorem Sound.rank_lt_nextOrder (h : site.Sound) (hclock : site.engine.lamport ≠ u64Max) :
    site.engine.rank < site.engine.nextOrder := by
  obtain ⟨r, horder, -, hnewest⟩ := h.newest
  rw [rank_eq horder]
  cases r with
  | none => exact WithBot.bot_lt_coe _
  | some e =>
    obtain ⟨o, ho, rfl⟩ := List.mem_map.mp (hnewest.mem e rfl)
    refine WithBot.coe_lt_coe.mpr (OperationOrder.lt_of_lamport ?_)
    have hle := h.clock o ho
    have hnext : (site.engine.nextOrder).lamport.toNat = site.engine.lamport.toNat + 1 :=
      saturatingAdd_one_toNat hclock
    show (Operation.order o).lamport.toNat < _
    omega

/-- Only the marks of the observer change. -/
theorem Sound.observed (h : site.Sound) (systemRevision : UInt64) :
    ({ site with engine := site.engine.observed systemRevision } : Site).Sound :=
  ⟨h.peer, h.newest, h.clock, h.counted, h.own, h.numbered, h.rising⟩

/-- **An observation.** -/
theorem Sound.observe (h : site.Sound) (hclock : site.engine.lamport ≠ u64Max) (imageAllowed manualResend : Bool)
    (systemRevision : UInt64) (content : ClipboardContent) :
    (site.observe clipboardTextDigest imageAllowed manualResend systemRevision content).Sound := by
  unfold Site.observe
  rcases ClipboardSyncEngine.offer_cases clipboardTextDigest imageAllowed manualResend systemRevision content
    site.engine with ⟨engine, hoffer, rfl | rfl⟩ | hoffer
  · rw [hoffer]
    exact h
  · rw [hoffer]
    exact h.observed systemRevision
  · rw [hoffer]
    have hlt := h.rank_lt_nextOrder hclock
    have hlamport := saturatingAdd_one_toNat hclock
    have hsequence : (saturatingAdd site.engine.localSequence 1).toNat = site.engine.localSequence.toNat + 1 := by
      refine saturatingAdd_one_toNat fun hmax => hclock (UInt64.toNat_inj.mp ?_)
      have hcounted := h.counted
      have hbound := toNat_lt_size site.engine.lamport
      rw [hmax] at hcounted
      rw [u64Max_toNat] at hcounted ⊢
      omega
    obtain ⟨r, horder, hdigest, hnewest⟩ := h.newest
    rw [rank_eq horder] at hlt
    refine ⟨h.peer, ⟨some (site.engine.nextOrder, clipboardTextDigest content.bytes), rfl, rfl, ?_⟩, ?_,
      ?_, ?_, ?_, ?_⟩
    · have hheard := hnewest.hear (site.engine.nextOrder, clipboardTextDigest content.bytes)
      rw [hear_newer hlt] at hheard
      simpa [known, entry] using hheard
    · intro o ho
      show _ ≤ (saturatingAdd site.engine.lamport 1).toNat
      rcases List.mem_cons.mp ho with rfl | ho
      · rw [Operation.order_make]
        exact le_rfl
      · have hle := h.clock o ho
        omega
    · show (saturatingAdd site.engine.localSequence 1).toNat ≤ (saturatingAdd site.engine.lamport 1).toNat
      have hcounted := h.counted
      omega
    · intro o ho
      rcases List.mem_cons.mp ho with rfl | ho
      · rw [Operation.order_make]
        rfl
      · exact h.own o ho
    · intro o ho
      show _ ≤ (saturatingAdd site.engine.localSequence 1).toNat
      rcases List.mem_cons.mp ho with rfl | ho
      · rw [Operation.order_make]
        exact le_rfl
      · have hle := h.numbered o ho
        omega
    · refine List.pairwise_cons.mpr ⟨fun o ho => ?_, h.rising⟩
      have hle := h.numbered o ho
      rw [Operation.order_make]
      show _ < (saturatingAdd site.engine.localSequence 1).toNat
      omega

/-- **A call of the handler**: the operation is refused, or it is old, or it is applied,
or the clipboard refuses it. -/
theorem deliver_cases (clipboardTextDigest : String → Digest) (site : Site) (peer : String)
    (operation : ClipboardBulkOperation) (imageAllowed written : Bool) (appliedRevision : UInt64) :
    let site' := site.deliver clipboardTextDigest peer operation imageAllowed written appliedRevision
    let delivered : Site := { site with delivered := operation :: site.delivered }
    site' = delivered ∨
      (Operation.order operation ≤ site.engine.rank ∧
        site' = { delivered with
          engine := site.engine.heard operation, acknowledged := operation :: site.acknowledged }) ∨
      (site.engine.rank < Operation.order operation ∧ written = true ∧
        site' = { delivered with
          engine := (site.engine.heard operation).commitRemote operation appliedRevision,
          acknowledged :=
          operation :: site.acknowledged, written := Operation.content operation :: site.written }) ∨
      (written = false ∧ site' = { delivered with engine := site.engine.heard operation }) := by
  intro site' delivered
  by_cases hfrom : ClipboardSyncEngine.isFrom operation peer site.engine.localPeer = false
  · exact .inl (if_pos hfrom)
  have hsite' : site' =
      let answer :=
        site.engine.receive clipboardTextDigest imageAllowed (fun _ => written) appliedRevision operation
      { delivered with
        engine := answer.2,
        acknowledged := if answer.1 then operation :: site.acknowledged else site.acknowledged,
        written :=
          if (site.engine.decideRemote clipboardTextDigest imageAllowed operation).1 = some .apply ∧
            written = true then
            Operation.content operation :: site.written
          else site.written } := if_neg hfrom
  rw [hsite']
  dsimp only
  have hkept : (site.engine.decideRemote clipboardTextDigest imageAllowed operation).1 ≠ some .apply →
      ¬ ((site.engine.decideRemote clipboardTextDigest imageAllowed operation).1 = some .apply ∧ written = true) :=
    fun hdecide h => hdecide h.1
  rcases ClipboardSyncEngine.receive_cases clipboardTextDigest imageAllowed
    (fun _ => written) appliedRevision operation
    site.engine with ⟨hdecide, hreceive | ⟨hle, hreceive⟩⟩ | ⟨hdecide, hlt, hreceive⟩
  · rw [hreceive, if_neg (hkept hdecide)]
    exact .inl rfl
  · rw [hreceive, if_neg (hkept hdecide)]
    exact .inr (.inl ⟨hle, rfl⟩)
  · rw [hreceive]
    cases written with
    | true =>
      have happlied : (site.engine.decideRemote clipboardTextDigest imageAllowed operation).1 = some .apply ∧
        true = true := ⟨hdecide, rfl⟩
      rw [if_pos happlied]
      exact .inr (.inr (.inl ⟨hlt, rfl, rfl⟩))
    | false =>
      have hfailed : ¬ ((site.engine.decideRemote clipboardTextDigest imageAllowed operation).1 = some .apply ∧
        false = true) := fun h => absurd h.2 (by decide)
      rw [if_neg hfailed]
      exact .inr (.inr (.inr ⟨rfl, rfl⟩))

/-- What both sides can read is acknowledged, and applied if it is newer. -/
theorem deliver_valid {peer : String}
    (hfrom : ClipboardSyncEngine.isFrom operation peer site.engine.localPeer = true)
    (hvalid : validateClipboardBulk clipboardTextDigest operation = .ok ())
    (hlimit : (Operation.content operation).bytes.utf8ByteSize ≤ site.engine.limit (Operation.content operation))
    (appliedRevision : UInt64) :
    site.deliver clipboardTextDigest peer operation true true appliedRevision =
      if site.engine.rank < Operation.order operation then
        ⟨(site.engine.heard operation).commitRemote operation appliedRevision, site.sent,
          operation :: site.delivered,
          operation :: site.acknowledged, Operation.content operation :: site.written⟩
      else
        ⟨site.engine.heard operation, site.sent, operation :: site.delivered, operation :: site.acknowledged,
          site.written⟩ := by
  have hreceive : site.engine.receive clipboardTextDigest true (fun _ => true) appliedRevision operation = _ :=
    ClipboardSyncEngine.receive_valid hvalid hlimit rfl
  have hdecide := ClipboardSyncEngine.decideRemote_valid hvalid hlimit
  have hdeliver : site.deliver clipboardTextDigest peer operation true true appliedRevision =
      let answer := site.engine.receive clipboardTextDigest true (fun _ => true) appliedRevision operation
      ⟨answer.2, site.sent, operation :: site.delivered,
        if answer.1 then operation :: site.acknowledged else site.acknowledged,
        if (site.engine.decideRemote clipboardTextDigest true operation).1 = some .apply ∧ true = true then
          Operation.content operation :: site.written
        else site.written⟩ := if_neg (ne_false_of_eq_true hfrom)
  rw [hdeliver, hreceive, hdecide]
  rcases site.engine.compareRemote_eq (Operation.order operation) with ⟨happly, hlt⟩ | ⟨hold | hold, hle⟩
  · rw [if_pos hlt, if_pos hlt, happly]
    rfl
  · rw [if_neg (not_lt.mpr hle), if_neg (not_lt.mpr hle), hold]
    rfl
  · rw [if_neg (not_lt.mpr hle), if_neg (not_lt.mpr hle), hold]
    rfl

theorem heard_clock (site : Site) (operation : ClipboardBulkOperation) :
    site.engine.lamport.toNat ≤ (site.engine.heard operation).lamport.toNat ∧
      (Operation.order operation).lamport.toNat ≤ (site.engine.heard operation).lamport.toNat := by
  have hmax := max_toNat site.engine.lamport (Operation.order operation).lamport
  constructor
  · exact (Nat.le_max_left _ _).trans_eq hmax.symm
  · exact (Nat.le_max_right _ _).trans_eq hmax.symm

/-- The clock is set forward. -/
theorem Sound.heard (h : site.Sound) (operation : ClipboardBulkOperation) :
    ({ site with engine := site.engine.heard operation } : Site).Sound := by
  obtain ⟨hclock, -⟩ := heard_clock site operation
  exact ⟨h.peer, h.newest, fun o ho => (h.clock o ho).trans hclock, h.counted.trans hclock, h.own,
    h.numbered, h.rising⟩

/-- An operation of the peer is acknowledged: the register hears of it. -/
theorem Sound.acknowledge (h : site.Sound) (operation : ClipboardBulkOperation) (engine : ClipboardSyncEngine)
    {r : Register OperationOrder Digest} (hnewest : Newest r (site.known.map entry))
    (horder' : engine.currentOrder = (hear r (entry operation)).map Prod.fst)
    (hdigest' : engine.currentDigest = (hear r (entry operation)).map Prod.snd)
    (hpeer : engine.localPeer = site.engine.localPeer)
    (hsequence : engine.localSequence = site.engine.localSequence)
    (hlamport : engine.lamport = (site.engine.heard operation).lamport) (delivered : List ClipboardBulkOperation)
    (written : List ClipboardContent) :
    (⟨engine, site.sent, delivered, operation :: site.acknowledged, written⟩ : Site).Sound := by
  obtain ⟨hclock, hincoming⟩ := heard_clock site operation
  have hknown : ∀ o, o ∈ site.sent ++ operation :: site.acknowledged ↔ o ∈ operation :: site.known := by
    intro o
    simp only [known, List.mem_append, List.mem_cons]
    tauto
  refine ⟨?_, ⟨hear r (entry operation), horder', hdigest', ?_⟩, ?_, ?_, ?_, ?_, h.rising⟩
  · show fits engine.localPeer maxPeerIdBytes = true
    rw [hpeer]
    exact h.peer
  · refine (hnewest.hear (entry operation)).congr fun e => ?_
    show e ∈ (operation :: site.known).map entry ↔ e ∈ (site.sent ++ operation :: site.acknowledged).map entry
    simp only [List.mem_map, hknown]
  · intro o ho
    show _ ≤ engine.lamport.toNat
    rw [hlamport]
    rcases List.mem_cons.mp ((hknown o).mp ho) with rfl | ho
    · exact hincoming
    · exact (h.clock o ho).trans hclock
  · show engine.localSequence.toNat ≤ engine.lamport.toNat
    rw [hsequence, hlamport]
    exact h.counted.trans hclock
  · intro o ho
    show _ = engine.localPeer
    rw [hpeer]
    exact h.own o ho
  · intro o ho
    show _ ≤ engine.localSequence.toNat
    rw [hsequence]
    exact h.numbered o ho

/-- **A call of the handler.** -/
theorem Sound.deliver (h : site.Sound) (peer : String) (operation : ClipboardBulkOperation)
    (imageAllowed written : Bool) (appliedRevision : UInt64) :
    (site.deliver clipboardTextDigest peer operation imageAllowed written appliedRevision).Sound := by
  obtain ⟨r, horder, hdigest, hnewest⟩ := h.newest
  rcases deliver_cases clipboardTextDigest site peer operation imageAllowed written appliedRevision with
    heq | ⟨hle, heq⟩ | ⟨hlt, -, heq⟩ | ⟨-, heq⟩
  · rw [heq]
    exact ⟨h.peer, h.newest, h.clock, h.counted, h.own, h.numbered, h.rising⟩
  · rw [heq]
    rw [rank_eq horder] at hle
    have hsame : hear r (entry operation) = r := hear_older hle
    exact h.acknowledge operation (site.engine.heard operation) hnewest (horder.trans (by rw [hsame]))
      (hdigest.trans (by rw [hsame])) rfl rfl rfl _ _
  · rw [heq]
    rw [rank_eq horder] at hlt
    have hnew : hear r (entry operation) = some (entry operation) := hear_newer hlt
    exact h.acknowledge operation ((site.engine.heard operation).commitRemote operation appliedRevision) hnewest
      (by rw [hnew]; rfl) (by rw [hnew]; rfl) rfl rfl rfl _ _
  · rw [heq]
    have hheard := h.heard operation
    exact ⟨hheard.peer, hheard.newest, hheard.clock, hheard.counted, hheard.own, hheard.numbered, hheard.rising⟩

end Site

end MyKvm.Clipboard
