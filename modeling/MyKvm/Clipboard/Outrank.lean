import MyKvm.Lib.Machine
import MyKvm.Clipboard.Handler

/-!
# MyKvm.Clipboard.Outrank — a new copy against what is known

The clock of an engine stops at the end of its range, and a peer may set it there with one operation.  From then on
the name decides: a copy of the engine whose name is the smaller one is made the current one although it is the
older one.  `Leads` says of an engine when its next copy is above the current one.

* `Clocked`: the clock is not behind the current order, and the own operations are numbered.
* `Clocked.rank_lt_nextOrder_iff`: when the next order is above the current one.
* `new_copy_outranks`: the result.
-/

namespace MyKvm.Clipboard

open MyKvm.Lib MyKvm.Protocol

/-- A call of the engine: the observer's, or one of the handler over the connection of a peer. -/
inductive EngineCall where
  | offer (imageAllowed manualResend : Bool) (systemRevision : UInt64) (content : ClipboardContent)
  | receive (authenticatedPeer : String) (imageAllowed written : Bool) (appliedRevision : UInt64)
      (operation : ClipboardBulkOperation)
  deriving DecidableEq

/-- Where the clocks are equal the names decide, and of two operations of one engine the numbers. -/
theorem OperationOrder.lt_iff {o o' : OperationOrder} (hlamport : o.lamport = o'.lamport)
    (hboot : o.originPeer = o'.originPeer → o.operationId.bootId = o'.operationId.bootId) :
    o < o' ↔ o.originPeer < o'.originPeer ∨ o.originPeer = o'.originPeer ∧
      o.operationId.localSequence.toNat < o'.operationId.localSequence.toNat := by
  show o.key < o'.key ↔ _
  simp only [OperationOrder.key, Prod.Lex.toLex_lt_toLex, hlamport, lt_irrefl, false_or, true_and]
  refine or_congr_right (and_congr_right fun hpeer => ?_)
  rw [hboot hpeer]
  simp

namespace ClipboardSyncEngine

variable {clipboardTextDigest : String → Digest} {engine : ClipboardSyncEngine} {call : EngineCall}

/-- What the wire does not admit never reaches the engine, and neither does what a
peer sends under another name. -/
def next (clipboardTextDigest : String → Digest) (engine : ClipboardSyncEngine) : EngineCall → ClipboardSyncEngine
  | .offer imageAllowed manualResend systemRevision content =>
    (engine.offer clipboardTextDigest imageAllowed manualResend systemRevision content).2
  | .receive authenticatedPeer imageAllowed written appliedRevision operation =>
    match validateClipboardBulk clipboardTextDigest operation with
    | .error _ => engine
    | .ok _ =>
      if isFrom operation authenticatedPeer engine.localPeer = false then engine
      else (engine.receive clipboardTextDigest imageAllowed (fun _ => written) appliedRevision operation).2

/-- The clock has room, or what is current leaves room above it. -/
def Leads (engine : ClipboardSyncEngine) : Prop :=
  engine.lamport ≠ u64Max ∨ ∀ current, engine.currentOrder = some current →
    current.lamport ≠ u64Max ∨ current.originPeer < engine.localPeer ∨
      current.originPeer = engine.localPeer ∧ engine.localSequence ≠ u64Max

instance (engine : ClipboardSyncEngine) : Decidable engine.Leads :=
  inferInstanceAs (Decidable (_ ∨ ∀ current ∈ engine.currentOrder, _))

/-- Copies are made where the engine leads. -/
def Leading (engine : ClipboardSyncEngine) : EngineCall → Prop
  | .offer .. => engine.Leads
  | .receive .. => True

instance (engine : ClipboardSyncEngine) : ∀ call, Decidable (engine.Leading call)
  | .offer .. => inferInstanceAs (Decidable engine.Leads)
  | .receive .. => .isTrue trivial

/-- The clock is not behind the current order, and an own operation which is current is the last one. -/
structure Clocked (engine : ClipboardSyncEngine) : Prop where
  clock : ∀ current, engine.currentOrder = some current → current.lamport.toNat ≤ engine.lamport.toNat
  own : ∀ current, engine.currentOrder = some current → current.originPeer = engine.localPeer →
    current.operationId = ⟨engine.bootId, engine.localSequence⟩

theorem new_clocked (hmade : Made engine) : engine.Clocked := by
  obtain ⟨localPeer, bootId, baselineRevision, textLimit, hnew⟩ := hmade
  obtain ⟨-, rfl⟩ := new_eq_ok.mp hnew
  exact ⟨fun current h => (by cases h), fun current h => (by cases h)⟩

/-- A call of the observer. -/
theorem Clocked.offer (h : engine.Clocked) (imageAllowed manualResend : Bool) (systemRevision : UInt64)
    (content : ClipboardContent) :
    (engine.offer clipboardTextDigest imageAllowed manualResend systemRevision content).2.Clocked := by
  rcases offer_cases clipboardTextDigest imageAllowed manualResend systemRevision content engine with
    ⟨engine', hoffer, rfl | rfl⟩ | hoffer
  · rw [hoffer]
    exact h
  · rw [hoffer]
    exact ⟨h.clock, h.own⟩
  · rw [hoffer]
    refine ⟨fun current hcurrent => ?_, fun current hcurrent _ => ?_⟩
    · obtain rfl : engine.nextOrder = current := Option.some.inj hcurrent
      exact le_rfl
    · obtain rfl : engine.nextOrder = current := Option.some.inj hcurrent
      rfl

/-- An operation which the engine heard of sets the clock forward only. -/
theorem Clocked.heard (h : engine.Clocked) (operation : ClipboardBulkOperation) :
    (engine.heard operation).Clocked := by
  refine ⟨fun current hcurrent => ?_, h.own⟩
  have hle := h.clock current hcurrent
  show _ ≤ (max engine.lamport (Operation.order operation).lamport).toNat
  rw [max_toNat]
  omega

/-- A call of the handler. -/
theorem Clocked.receive (h : engine.Clocked) {authenticatedPeer : String} {operation : ClipboardBulkOperation}
    (hfrom : isFrom operation authenticatedPeer engine.localPeer = true) (imageAllowed : Bool)
    (writeContent : ClipboardContent → Bool) (appliedRevision : UInt64) :
    (engine.receive clipboardTextDigest imageAllowed writeContent appliedRevision operation).2.Clocked := by
  rcases receive_cases clipboardTextDigest imageAllowed writeContent appliedRevision operation engine with
    ⟨-, hrefused | ⟨-, hold⟩⟩ | ⟨-, -, happlied⟩
  · rw [hrefused]
    exact h
  · rw [hold]
    exact h.heard operation
  · rw [happlied]
    by_cases hwrite : writeContent (Operation.content operation) = true
    · rw [if_pos hwrite]
      refine ⟨fun current hcurrent => ?_, fun current hcurrent hown => ?_⟩
      · obtain rfl : Operation.order operation = current := Option.some.inj hcurrent
        show _ ≤ (max engine.lamport (Operation.order operation).lamport).toNat
        rw [max_toNat]
        omega
      · -- the handler refuses what bears the name of the engine
        obtain rfl : Operation.order operation = current := Option.some.inj hcurrent
        have hother := (Bool.and_eq_true_iff.mp hfrom).2
        exact absurd hown (bne_iff_ne.mp hother)
    · rw [if_neg hwrite]
      exact h.heard operation

theorem next_clocked (h : engine.Clocked) : (engine.next clipboardTextDigest call).Clocked := by
  cases call with
  | offer imageAllowed manualResend systemRevision content =>
    exact h.offer imageAllowed manualResend systemRevision content
  | receive authenticatedPeer imageAllowed written appliedRevision operation =>
    unfold next
    dsimp only
    split
    · exact h
    · by_cases hfrom : isFrom operation authenticatedPeer engine.localPeer = false
      · rw [if_pos hfrom]
        exact h
      · rw [if_neg hfrom]
        exact h.receive (Bool.eq_true_of_not_eq_false hfrom) imageAllowed _ appliedRevision

/-- The next order against the current one. -/
theorem Clocked.lt_nextOrder_iff (h : engine.Clocked) {current : OperationOrder}
    (hcurrent : engine.currentOrder = some current) :
    current < engine.nextOrder ↔ engine.lamport ≠ u64Max ∨ current.lamport ≠ u64Max ∨
      current.originPeer < engine.localPeer ∨
        current.originPeer = engine.localPeer ∧ engine.localSequence ≠ u64Max := by
  have hclock := h.clock current hcurrent
  by_cases hroom : engine.lamport = u64Max
  · have hnext : engine.nextOrder.lamport = u64Max := by
      show saturatingAdd engine.lamport 1 = u64Max
      rw [hroom]
      rfl
    by_cases hlamport : current.lamport = u64Max
    · -- both clocks are at their end: the names decide, and then the numbers
      have hown : current.originPeer = engine.nextOrder.originPeer →
          current.operationId = ⟨engine.bootId, engine.localSequence⟩ := h.own current hcurrent
      have hboot : current.originPeer = engine.nextOrder.originPeer →
          current.operationId.bootId = engine.nextOrder.operationId.bootId := by
        intro hpeer
        rw [hown hpeer]
        rfl
      rw [OperationOrder.lt_iff (hlamport.trans hnext.symm) hboot]
      simp only [hroom, hlamport, ne_eq, not_true_eq_false, false_or]
      refine or_congr_right (and_congr_right fun hpeer => ?_)
      rw [hown hpeer]
      show engine.localSequence.toNat < (saturatingAdd engine.localSequence 1).toNat ↔ _
      by_cases hsequence : engine.localSequence = u64Max
      · rw [hsequence]
        simp [saturatingAdd_toNat]
      · rw [saturatingAdd_one_toNat hsequence]
        simp [hsequence]
    · refine ⟨fun _ => .inr (.inl hlamport), fun _ => OperationOrder.lt_of_lamport ?_⟩
      have hne : current.lamport.toNat ≠ u64Max.toNat := fun heq => hlamport (UInt64.toNat_inj.mp heq)
      have hbound := toNat_lt_size current.lamport
      rw [u64Max_toNat] at hne
      rw [hnext, u64Max_toNat]
      omega
  · refine ⟨fun _ => .inl hroom, fun _ => OperationOrder.lt_of_lamport ?_⟩
    have hnext : engine.nextOrder.lamport.toNat = engine.lamport.toNat + 1 := saturatingAdd_one_toNat hroom
    omega

/-- **When the next copy is above the current one.** -/
theorem Clocked.rank_lt_nextOrder_iff (h : engine.Clocked) : engine.rank < engine.nextOrder ↔ engine.Leads := by
  cases hcurrent : engine.currentOrder with
  | none =>
    have hrank : engine.rank = ⊥ := hcurrent
    rw [hrank]
    refine ⟨fun _ => .inr fun current hsome => ?_, fun _ => WithBot.bot_lt_coe _⟩
    rw [hcurrent] at hsome
    cases hsome
  | some current =>
    have hrank : engine.rank = (current : WithBot OperationOrder) := hcurrent
    rw [hrank, WithBot.coe_lt_coe, h.lt_nextOrder_iff hcurrent]
    unfold Leads
    simp [hcurrent]

/-- What the observer sends bears the next order. -/
theorem offer_order {imageAllowed manualResend : Bool} {systemRevision : UInt64} {content : ClipboardContent}
    {operation : ClipboardBulkOperation}
    (hsent : (engine.offer clipboardTextDigest imageAllowed manualResend systemRevision content).1 =
      some operation) :
    Operation.order operation = engine.nextOrder := by
  rcases offer_cases clipboardTextDigest imageAllowed manualResend systemRevision content engine with
    ⟨engine', hoffer, -⟩ | hoffer
  · rw [hoffer] at hsent
    cases hsent
  · rw [hoffer] at hsent
    obtain rfl := Option.some.inj hsent
    exact Operation.order_make ..

/-- **A step never goes back**, where a copy leads. -/
theorem Clocked.rank_le_next (h : engine.Clocked) (hleading : engine.Leading call) :
    engine.rank ≤ (engine.next clipboardTextDigest call).rank := by
  cases call with
  | offer imageAllowed manualResend systemRevision content =>
    unfold next
    dsimp only
    rcases offer_cases clipboardTextDigest imageAllowed manualResend systemRevision content engine with
      ⟨engine', hoffer, rfl | rfl⟩ | hoffer
    · rw [hoffer]
    · rw [hoffer]
      exact le_rfl
    · rw [hoffer]
      exact (h.rank_lt_nextOrder_iff.mpr hleading).le
  | receive authenticatedPeer imageAllowed written appliedRevision operation =>
    unfold next
    dsimp only
    split
    · exact le_rfl
    split_ifs
    · exact le_rfl
    rcases receive_cases clipboardTextDigest imageAllowed (fun _ => written) appliedRevision operation engine with
      ⟨-, hrefused | ⟨-, hold⟩⟩ | ⟨-, hlt, happlied⟩
    · rw [hrefused]
    · rw [hold]
      exact le_rfl
    · rw [happlied]
      split_ifs
      · exact hlt.le
      · exact le_rfl

end ClipboardSyncEngine

open ClipboardSyncEngine

/-- **New copies outrank what is known.**  In every state which calls of the observer and of the handler lead to,
with any clocks which peers send, a copy which is sent is above the current order exactly if the engine leads.  In
a run whose copies are made where the engine leads the current order never goes back. -/
theorem new_copy_outranks (clipboardTextDigest : String → Digest) {engine : ClipboardSyncEngine}
    (hmade : Made engine) (calls : List EngineCall) :
    let engine' := run (ClipboardSyncEngine.next clipboardTextDigest) engine calls
    (∀ imageAllowed manualResend systemRevision content operation,
        (engine'.offer clipboardTextDigest imageAllowed manualResend systemRevision content).1 = some operation →
          (engine'.rank < Operation.order operation ↔ engine'.Leads)) ∧
      (Meets (ClipboardSyncEngine.next clipboardTextDigest) Leading engine calls →
        Meets (ClipboardSyncEngine.next clipboardTextDigest)
          (fun before call => before.rank ≤ (before.next clipboardTextDigest call).rank) engine calls) := by
  intro engine'
  have hclocked : engine'.Clocked := run_invariant (fun _ _ h => next_clocked h) (new_clocked hmade) calls
  refine ⟨fun imageAllowed manualResend systemRevision content operation hsent => ?_, fun hmeets => ?_⟩
  · rw [offer_order hsent]
    exact hclocked.rank_lt_nextOrder_iff
  · exact meets_keeps (I := Clocked) (fun _ _ h hleading => ⟨next_clocked h, h.rank_le_next hleading⟩)
      (new_clocked hmade) hmeets

section Examples

/-- The peer's operation carries the greatest clock. -/
def sampleLate : EngineCall :=
  .receive "z-peer" true true 2 (sampleOperation u64Max "z-peer" (sampleBoot 2) 1 2 "Z")

/-- A copy after two operations of the peer. -/
theorem new_copy_outranks_alternating :
    let engine := sampleEngine "a-peer" (sampleBoot 1) 1
    let calls := [.receive "z-peer" true true 2 (sampleOperation 7 "z-peer" (sampleBoot 2) 1 2 "Z"),
      .offer true false 3 (.text "A")]
    Meets (ClipboardSyncEngine.next sampleDigest)
      (fun before call => before.rank ≤ (before.next sampleDigest call).rank) engine calls :=
  (new_copy_outranks sampleDigest (sampleEngine_made (by decide)) _).2 (by decide +kernel)

/-- After the greatest clock the copy of the engine with the smaller name is below what it replaces. -/
theorem not_new_copy_outranks :
    let engine := run (ClipboardSyncEngine.next sampleDigest) (sampleEngine "a-peer" (sampleBoot 1) 1) [sampleLate]
    let operation := sampleOperation u64Max "a-peer" (sampleBoot 1) 1 3 "A"
    (engine.offer sampleDigest true false 3 (.text "A")).1 = some operation ∧
      ¬ engine.rank < Operation.order operation ∧
      ¬ engine.rank ≤ (engine.next sampleDigest (.offer true false 3 (.text "A"))).rank := by
  decide +kernel

end Examples

end MyKvm.Clipboard
