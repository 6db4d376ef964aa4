import Mathlib.Data.List.Nodup
import MyKvm.Clipboard.Pair

/-!
# MyKvm.Clipboard.Convergence — both machines end with the same copy

As long as no engine is made anew and no clock reaches its end, the two sites keep the books of two replicas which
hear of each other's operations.  Once each has heard of all of them, they agree (`LastWriter.Newest.agree`).

* `Pair.next_sound`: one step keeps the books.
* `Pair.next_complete`: what is delivered is acknowledged.
* `clipboard_convergence`: the result.
-/

namespace MyKvm.Clipboard

open MyKvm.Lib MyKvm.Protocol LastWriter

def PairCall.isRecreate : PairCall → Bool
  | .recreate .. => true
  | _ => false

namespace Site

variable {clipboardTextDigest : String → Digest} {site : Site}

theorem observe_cases (clipboardTextDigest : String → Digest) (site : Site) (imageAllowed manualResend : Bool)
    (systemRevision : UInt64) (content : ClipboardContent) :
    let site' := site.observe clipboardTextDigest imageAllowed manualResend systemRevision content
    (site' = site ∨ site' = { site with engine := site.engine.observed systemRevision }) ∨
      site' = { site with
        engine := (site.engine.observed systemRevision).advance (clipboardTextDigest content.bytes),
        sent := Operation.make clipboardTextDigest site.engine.nextOrder systemRevision content ::
          site.sent } := by
  intro site'
  rcases ClipboardSyncEngine.offer_cases clipboardTextDigest imageAllowed manualResend systemRevision content
    site.engine with ⟨engine, hoffer, rfl | rfl⟩ | hoffer
  all_goals
    have hsite' : site' =
        let answer := site.engine.offer clipboardTextDigest imageAllowed manualResend systemRevision content
        { site with engine := answer.2, sent := answer.1.toList ++ site.sent } := rfl
    rw [hsite', hoffer]
  · exact .inl (.inl rfl)
  · exact .inl (.inr rfl)
  · exact .inr rfl

/-- What a site says of itself. -/
def identity (site : Site) : String × ℕ := (site.engine.localPeer, site.engine.textLimit)

theorem observe_identity (imageAllowed manualResend : Bool) (systemRevision : UInt64)
    (content : ClipboardContent) :
    (site.observe clipboardTextDigest imageAllowed manualResend systemRevision content).identity =
      site.identity := by
  rcases observe_cases clipboardTextDigest site imageAllowed manualResend systemRevision content with
    (heq | heq) | heq <;> rw [heq] <;> rfl

theorem deliver_identity (peer : String) (operation : ClipboardBulkOperation) (imageAllowed written : Bool)
    (appliedRevision : UInt64) :
    (site.deliver clipboardTextDigest peer operation imageAllowed written appliedRevision).identity =
      site.identity := by
  rcases deliver_cases clipboardTextDigest site peer operation imageAllowed written appliedRevision with
    heq | ⟨-, heq⟩ | ⟨-, -, heq⟩ | ⟨-, heq⟩ <;> rw [heq] <;> rfl

theorem deliver_sent (peer : String) (operation : ClipboardBulkOperation) (imageAllowed written : Bool)
    (appliedRevision : UInt64) :
    (site.deliver clipboardTextDigest peer operation imageAllowed written appliedRevision).sent = site.sent := by
  rcases deliver_cases clipboardTextDigest site peer operation imageAllowed written appliedRevision with
    heq | ⟨-, heq⟩ | ⟨-, -, heq⟩ | ⟨-, heq⟩ <;> rw [heq]

theorem deliver_delivered (peer : String) (operation : ClipboardBulkOperation) (imageAllowed written : Bool)
    (appliedRevision : UInt64) :
    (site.deliver clipboardTextDigest peer operation imageAllowed written appliedRevision).delivered =
      operation :: site.delivered := by
  rcases deliver_cases clipboardTextDigest site peer operation imageAllowed written appliedRevision with
    heq | ⟨-, heq⟩ | ⟨-, -, heq⟩ | ⟨-, heq⟩ <;> rw [heq]

theorem deliver_acknowledged {peer : String} {operation : ClipboardBulkOperation} {imageAllowed written : Bool}
    {appliedRevision : UInt64} {o : ClipboardBulkOperation} :
    (o ∈ site.acknowledged →
      o ∈ (site.deliver clipboardTextDigest peer operation imageAllowed written appliedRevision).acknowledged) ∧
    (o ∈ (site.deliver clipboardTextDigest peer operation imageAllowed written appliedRevision).acknowledged →
      o = operation ∨ o ∈ site.acknowledged) := by
  rcases deliver_cases clipboardTextDigest site peer operation imageAllowed written appliedRevision with
    heq | ⟨-, heq⟩ | ⟨-, -, heq⟩ | ⟨-, heq⟩
  · rw [heq]
    exact ⟨id, .inr⟩
  · rw [heq]
    exact ⟨List.mem_cons_of_mem operation, List.mem_cons.mp⟩
  · rw [heq]
    exact ⟨List.mem_cons_of_mem operation, List.mem_cons.mp⟩
  · rw [heq]
    exact ⟨id, .inr⟩

end Site

namespace Pair

variable {clipboardTextDigest : String → Digest} {pair : Pair} {call : PairCall}

/-- No engine is made anew, and no clock is at its end. -/
def Steady (pair : Pair) (call : PairCall) : Prop :=
  call.isRecreate = false ∧ ∀ side, (pair side).engine.lamport ≠ u64Max

/-- The content can be sent, and is within the limits of both sides. -/
def Sendable (pair : Pair) (content : ClipboardContent) : Prop :=
  content.isValid = true ∧ ∀ side, content.bytes.utf8ByteSize ≤ (pair side).engine.limit content

/-- A steady step in which contents can be sent, and the clipboard takes what it is given. -/
def Settles (pair : Pair) (call : PairCall) : Prop :=
  pair.Steady call ∧
    match call with
    | .observe _ _ _ _ content => pair.Sendable content
    | .deliver _ _ imageAllowed written _ => imageAllowed = true ∧ written = true
    | .recreate .. => True

instance : Decidable (pair.Steady call) := inferInstanceAs (Decidable (_ ∧ _))

instance (content : ClipboardContent) : Decidable (pair.Sendable content) := inferInstanceAs (Decidable (_ ∧ _))

instance : Decidable (pair.Settles call) :=
  match call with
  | .observe _ _ _ _ content => inferInstanceAs (Decidable (_ ∧ pair.Sendable content))
  | .deliver _ _ imageAllowed written _ => inferInstanceAs (Decidable (_ ∧ imageAllowed = true ∧ written = true))
  | .recreate .. => inferInstanceAs (Decidable (_ ∧ True))

/-- The books of both sites, and between them: they have different names, and
acknowledge what the other one sent. -/
structure Sound (pair : Pair) : Prop where
  site : ∀ side, (pair side).Sound
  distinct : ∀ side, (pair side).engine.localPeer ≠ (pair side.other).engine.localPeer
  known : ∀ side, ∀ o ∈ (pair side).acknowledged, o ∈ (pair side.other).sent

theorem start_sound {engines : Side → ClipboardSyncEngine} (hmade : ∀ side, Made (engines side))
    (hdistinct : (engines .left).localPeer ≠ (engines .right).localPeer) : (start engines).Sound where
  site side := Site.start_sound (hmade side)
  distinct side := by
    cases side with
    | left => exact hdistinct
    | right => exact hdistinct.symm
  known side o ho := by cases ho

/-- **What a step does to one side.** -/
theorem next_cases (clipboardTextDigest : String → Digest) (pair : Pair) (h : call.isRecreate = false)
    (side : Side) :
    next clipboardTextDigest pair call side = pair side ∨
      (∃ imageAllowed manualResend systemRevision content,
        call = .observe side imageAllowed manualResend systemRevision content ∧
        next clipboardTextDigest pair call side =
          (pair side).observe clipboardTextDigest imageAllowed manualResend systemRevision content) ∨
      (∃ operation imageAllowed written appliedRevision,
        call = .deliver side operation imageAllowed written appliedRevision ∧
        operation ∈ (pair side.other).sent ∧
        next clipboardTextDigest pair call side =
          (pair side).deliver clipboardTextDigest (pair side.other).engine.localPeer operation imageAllowed written
            appliedRevision) := by
  cases call with
  | observe acting imageAllowed manualResend systemRevision content =>
    by_cases hside : side = acting
    · subst hside
      exact .inr (.inl ⟨imageAllowed, manualResend, systemRevision, content, rfl, Function.update_self ..⟩)
    · exact .inl (Function.update_of_ne hside ..)
  | deliver acting operation imageAllowed written appliedRevision =>
    by_cases hsent : operation ∈ (pair acting.other).sent
    · have hnext : next clipboardTextDigest pair (.deliver acting operation imageAllowed written appliedRevision) =
          Function.update pair acting
          ((pair acting).deliver clipboardTextDigest (pair acting.other).engine.localPeer
            operation imageAllowed written appliedRevision) := if_pos hsent
      rw [hnext]
      by_cases hside : side = acting
      · subst hside
        exact .inr (.inr ⟨operation, imageAllowed, written, appliedRevision, rfl, hsent, Function.update_self ..⟩)
      · exact .inl (Function.update_of_ne hside ..)
    · have hnext : next clipboardTextDigest pair (.deliver acting operation imageAllowed written appliedRevision) =
          pair := if_neg hsent
      rw [hnext]
      exact .inl rfl
  | recreate acting bootId baselineRevision textLimit => cases h

/-- Nobody changes its name or its limit. -/
theorem next_identity (h : call.isRecreate = false) (side : Side) :
    (next clipboardTextDigest pair call side).identity = (pair side).identity := by
  rcases next_cases clipboardTextDigest pair h side with
    heq | ⟨imageAllowed, manualResend, systemRevision, content, -, heq⟩ |
      ⟨operation, imageAllowed, written, appliedRevision, -, -, heq⟩
  · rw [heq]
  · rw [heq, Site.observe_identity]
  · rw [heq, Site.deliver_identity]

/-- A new engine has the old name, and nothing else changes. -/
theorem next_recreate (h : call.isRecreate = true) (side : Side) :
    (next clipboardTextDigest pair call side).engine.localPeer = (pair side).engine.localPeer ∧
      (next clipboardTextDigest pair call side).sent = (pair side).sent := by
  cases call with
  | observe acting imageAllowed manualResend systemRevision content => cases h
  | deliver acting operation imageAllowed written appliedRevision => cases h
  | recreate acting bootId baselineRevision textLimit =>
    by_cases hside : side = acting
    · subst hside
      have hnext : next clipboardTextDigest pair (.recreate side bootId baselineRevision textLimit) side =
          (pair side).recreate bootId baselineRevision textLimit := Function.update_self ..
      rw [hnext]
      unfold Site.recreate
      split
      · rename_i engine hnew
        obtain ⟨-, rfl⟩ := ClipboardSyncEngine.new_eq_ok.mp hnew
        exact ⟨rfl, rfl⟩
      · exact ⟨rfl, rfl⟩
    · have hnext :
          next clipboardTextDigest pair (.recreate acting bootId baselineRevision textLimit) side = pair side :=
        Function.update_of_ne hside ..
      rw [hnext]
      exact ⟨rfl, rfl⟩

theorem next_localPeer (side : Side) :
    (next clipboardTextDigest pair call side).engine.localPeer = (pair side).engine.localPeer := by
  cases h : call.isRecreate with
  | false => exact congrArg Prod.fst (next_identity h side)
  | true => exact (next_recreate h side).1

theorem next_limit (h : call.isRecreate = false) (side : Side) (content : ClipboardContent) :
    (next clipboardTextDigest pair call side).engine.limit content = (pair side).engine.limit content := by
  cases content with
  | text value => exact congrArg Prod.snd (next_identity h side)
  | image value => rfl

/-- What was sent once stays sent. -/
theorem mem_next_sent {side : Side} {o : ClipboardBulkOperation} (ho : o ∈ (pair side).sent) :
    o ∈ (next clipboardTextDigest pair call side).sent := by
  cases h : call.isRecreate with
  | true => rwa [(next_recreate h side).2]
  | false =>
    rcases next_cases clipboardTextDigest pair h side with
      heq | ⟨imageAllowed, manualResend, systemRevision, content, -, heq⟩ |
        ⟨operation, imageAllowed, written, appliedRevision, -, -, heq⟩
    · rwa [heq]
    · rw [heq]
      exact List.mem_append_right _ ho
    · rwa [heq, Site.deliver_sent]

/-- **One step keeps the books.** -/
theorem next_sound (h : pair.Sound) (hsteady : pair.Steady call) : (next clipboardTextDigest pair call).Sound where
  site side := by
    rcases next_cases clipboardTextDigest pair hsteady.1 side with
      heq | ⟨imageAllowed, manualResend, systemRevision, content, -, heq⟩ |
        ⟨operation, imageAllowed, written, appliedRevision, -, -, heq⟩
    · rw [heq]
      exact h.site side
    · rw [heq]
      exact (h.site side).observe (hsteady.2 side) imageAllowed manualResend systemRevision content
    · rw [heq]
      exact (h.site side).deliver _ operation imageAllowed written appliedRevision
  distinct side := by
    rw [next_localPeer, next_localPeer]
    exact h.distinct side
  known side o ho := by
    apply mem_next_sent
    rcases next_cases clipboardTextDigest pair hsteady.1 side with
      heq | ⟨imageAllowed, manualResend, systemRevision, content, -, heq⟩ |
        ⟨operation, imageAllowed, written, appliedRevision, -, hsent, heq⟩
    · rw [heq] at ho
      exact h.known side o ho
    · rw [heq] at ho
      exact h.known side o ho
    · rw [heq] at ho
      rcases Site.deliver_acknowledged.2 ho with rfl | ho
      · exact hsent
      · exact h.known side o ho

/-- **What is sent or applied is newer than everything before.** -/
theorem next_rank (h : pair.Sound) (hsteady : pair.Steady call) (side : Side)
    (happlied : (next clipboardTextDigest pair call side).sent ≠ (pair side).sent ∨
      (next clipboardTextDigest pair call side).written ≠ (pair side).written) :
    (pair side).engine.rank < (next clipboardTextDigest pair call side).engine.rank := by
  rcases next_cases clipboardTextDigest pair hsteady.1 side with
    heq | ⟨imageAllowed, manualResend, systemRevision, content, -, heq⟩ |
      ⟨operation, imageAllowed, written, appliedRevision, -, -, heq⟩
  · rw [heq] at happlied
    exact absurd happlied (by simp)
  · rw [heq] at happlied ⊢
    rcases Site.observe_cases clipboardTextDigest (pair side) imageAllowed manualResend systemRevision content with
      (hsite | hsite) | hsite
    · rw [hsite] at happlied
      exact absurd happlied (by simp)
    · rw [hsite] at happlied
      exact absurd happlied (by simp)
    · rw [hsite]
      exact (h.site side).rank_lt_nextOrder (hsteady.2 side)
  · rw [heq] at happlied ⊢
    rcases Site.deliver_cases clipboardTextDigest (pair side) (pair side.other).engine.localPeer operation
      imageAllowed written appliedRevision with hsite | ⟨-, hsite⟩ | ⟨hlt, -, hsite⟩ | ⟨-, hsite⟩
    · rw [hsite] at happlied
      exact absurd happlied (by simp)
    · rw [hsite] at happlied
      exact absurd happlied (by simp)
    · rw [hsite]
      exact hlt
    · rw [hsite] at happlied
      exact absurd happlied (by simp)

/-! ### What is delivered is acknowledged -/

/-- Every operation can be read by both sides, and every delivery was acknowledged. -/
structure Complete (clipboardTextDigest : String → Digest) (pair : Pair) : Prop where
  valid : ∀ side, ∀ o ∈ (pair side).sent, validateClipboardBulk clipboardTextDigest o = .ok ()
  limit : ∀ side side', ∀ o ∈ (pair side).sent,
    (Operation.content o).bytes.utf8ByteSize ≤ (pair side').engine.limit (Operation.content o)
  acknowledged : ∀ side, ∀ o ∈ (pair side).delivered, o ∈ (pair side).acknowledged

theorem start_complete (engines : Side → ClipboardSyncEngine) : Complete clipboardTextDigest (start engines) where
  valid side o ho := by cases ho
  limit side side' o ho := by cases ho
  acknowledged side o ho := by cases ho

/-- What is new on a side comes from its observer. -/
theorem next_sent_cases (h : call.isRecreate = false) {side : Side} {o : ClipboardBulkOperation}
    (ho : o ∈ (next clipboardTextDigest pair call side).sent) :
    o ∈ (pair side).sent ∨ ∃ imageAllowed manualResend systemRevision content,
      call = .observe side imageAllowed manualResend systemRevision content ∧
      o = Operation.make clipboardTextDigest (pair side).engine.nextOrder systemRevision content := by
  rcases next_cases clipboardTextDigest pair h side with
    heq | ⟨imageAllowed, manualResend, systemRevision, content, hcall, heq⟩ |
      ⟨operation, imageAllowed, written, appliedRevision, -, -, heq⟩
  · rw [heq] at ho
    exact .inl ho
  · rw [heq] at ho
    rcases Site.observe_cases clipboardTextDigest (pair side) imageAllowed manualResend systemRevision content with
      (hsite | hsite) | hsite
    · rw [hsite] at ho
      exact .inl ho
    · rw [hsite] at ho
      exact .inl ho
    · rw [hsite] at ho
      rcases List.mem_cons.mp ho with ho | ho
      · exact .inr ⟨imageAllowed, manualResend, systemRevision, content, hcall, ho⟩
      · exact .inl ho
  · rw [heq, Site.deliver_sent] at ho
    exact .inl ho

/-- A site makes operations which the wire takes. -/
theorem Sound.validate_make (h : pair.Sound) (side : Side) {systemRevision : UInt64} {content : ClipboardContent}
    (hvalid : content.isValid = true) :
    validateClipboardBulk clipboardTextDigest
      (Operation.make clipboardTextDigest (pair side).engine.nextOrder systemRevision content) = .ok () :=
  validateClipboardBulk_make (h.site side).peer (saturatingAdd_one_ne_zero _) (saturatingAdd_one_ne_zero _) hvalid

/-- What a side sent comes from it, as the other side sees it. -/
theorem Sound.isFrom (h : pair.Sound) {side : Side} {o : ClipboardBulkOperation}
    (ho : o ∈ (pair side.other).sent) :
    ClipboardSyncEngine.isFrom o (pair side.other).engine.localPeer (pair side).engine.localPeer = true := by
  have howner : (Operation.order o).originPeer = (pair side.other).engine.localPeer := (h.site side.other).own o ho
  unfold ClipboardSyncEngine.isFrom
  simp [howner, (h.distinct side).symm]

/-- **What is delivered is acknowledged**, when the contents can be sent and written. -/
theorem next_complete (h : pair.Sound) (hcomplete : Complete clipboardTextDigest pair)
    (hsettles : pair.Settles call) :
    Complete clipboardTextDigest (next clipboardTextDigest pair call) where
  valid side o ho := by
    rcases next_sent_cases hsettles.1.1 ho with ho |
      ⟨imageAllowed, manualResend, systemRevision, content, rfl, rfl⟩
    · exact hcomplete.valid side o ho
    · exact h.validate_make side hsettles.2.1
  limit side side' o ho := by
    rw [next_limit hsettles.1.1]
    rcases next_sent_cases hsettles.1.1 ho with ho |
      ⟨imageAllowed, manualResend, systemRevision, content, rfl, rfl⟩
    · exact hcomplete.limit side side' o ho
    · rw [Operation.content_make]
      exact hsettles.2.2 side'
  acknowledged side o ho := by
    rcases next_cases clipboardTextDigest pair hsettles.1.1 side with
      heq | ⟨imageAllowed, manualResend, systemRevision, content, -, heq⟩ |
        ⟨operation, imageAllowed, written, appliedRevision, rfl, hsent, heq⟩
    · rw [heq] at ho ⊢
      exact hcomplete.acknowledged side o ho
    · rw [heq] at ho ⊢
      exact hcomplete.acknowledged side o ho
    · obtain ⟨rfl, rfl⟩ : imageAllowed = true ∧ written = true := hsettles.2
      rw [heq] at ho ⊢
      rw [Site.deliver_delivered] at ho
      rcases List.mem_cons.mp ho with rfl | ho
      · rw [Site.deliver_valid (h.isFrom hsent) (hcomplete.valid side.other o hsent)
          (hcomplete.limit side.other side o hsent)]
        split_ifs
        · exact List.mem_cons_self
        · exact List.mem_cons_self
      · exact Site.deliver_acknowledged.1 (hcomplete.acknowledged side o ho)

/-! ### Agreement -/

/-- The operations of both sides. -/
def operations (pair : Pair) : List ClipboardBulkOperation := (pair .left).sent ++ (pair .right).sent

theorem mem_operations (side : Side) {o : ClipboardBulkOperation} :
    o ∈ pair.operations ↔ o ∈ (pair side).sent ∨ o ∈ (pair side.other).sent := by
  cases side with
  | left => exact List.mem_append
  | right => exact List.mem_append.trans or_comm

/-- The order of an operation says which one it is. -/
theorem Sound.operations_injective (h : pair.Sound) {o o' : ClipboardBulkOperation} (ho : o ∈ pair.operations)
    (ho' : o' ∈ pair.operations) (hsame : Operation.order o = Operation.order o') : o = o' := by
  have hinj : ∀ side, o ∈ (pair side).sent → o' ∈ (pair side).sent → o = o' := by
    intro side hmem hmem'
    have hnodup : ((pair side).sent.map fun o => (Operation.order o).operationId.localSequence.toNat).Nodup := by
      refine List.pairwise_map.mpr ((h.site side).rising.imp fun hlt => ?_)
      exact (Nat.ne_of_lt hlt).symm
    exact List.inj_on_of_nodup_map hnodup hmem hmem' (by rw [hsame])
  have hapart : ∀ side, o ∈ (pair side).sent → o' ∈ (pair side.other).sent → False := by
    intro side hmem hmem'
    apply h.distinct side
    rw [← (h.site side).own o hmem, hsame]
    exact (h.site side.other).own o' hmem'
  rcases (mem_operations .left).mp ho with ho | ho
  · rcases (mem_operations .left).mp ho' with ho' | ho'
    · exact hinj .left ho ho'
    · exact (hapart .left ho ho').elim
  · rcases (mem_operations .left).mp ho' with ho' | ho'
    · exact (hapart .right ho ho').elim
    · exact hinj .right ho ho'

theorem Sound.singleValued (h : pair.Sound) : SingleValued (pair.operations.map entry) := by
  intro e he e' he' hsame
  obtain ⟨o, ho, rfl⟩ := List.mem_map.mp he
  obtain ⟨o', ho', rfl⟩ := List.mem_map.mp he'
  rw [h.operations_injective ho ho' hsame]

/-- **The register of a side** which acknowledged all that the other one sent. -/
theorem Sound.newest (h : pair.Sound) {side : Side}
    (hall : ∀ o ∈ (pair side.other).sent, o ∈ (pair side).acknowledged) :
    ∃ r, (pair side).engine.currentOrder = r.map Prod.fst ∧ (pair side).engine.currentDigest = r.map Prod.snd ∧
      Newest r (pair.operations.map entry) := by
  obtain ⟨r, horder, hdigest, hnewest⟩ := (h.site side).newest
  refine ⟨r, horder, hdigest, hnewest.congr fun e => ?_⟩
  have hsame : ∀ o, o ∈ (pair side).known ↔ o ∈ pair.operations := by
    intro o
    refine List.mem_append.trans (Iff.trans (or_congr_right ?_) (mem_operations _).symm)
    exact ⟨h.known side o, hall o⟩
  simp only [List.mem_map, hsame]

end Pair

/-- **Convergence.**  Two engines with different names start anew; contents are copied which both sides can read,
and delivered in any order, again and again, and the clipboards take what they are given.  Whatever is sent or
applied is newer than what the engine held before.  Once all operations are delivered, both engines hold the same
order, the greatest of all, and the same digest. -/
theorem clipboard_convergence (clipboardTextDigest : String → Digest) (engines : Side → ClipboardSyncEngine)
    (hmade : ∀ side, Made (engines side)) (hdistinct : (engines .left).localPeer ≠ (engines .right).localPeer)
    (calls : List PairCall)
    (hsettles : Meets (Pair.next clipboardTextDigest) Pair.Settles (Pair.start engines) calls) :
    let pair := run (Pair.next clipboardTextDigest) (Pair.start engines) calls
    (Meets (Pair.next clipboardTextDigest) (fun pair call => ∀ side,
        ((pair.next clipboardTextDigest call side).sent ≠ (pair side).sent ∨
          (pair.next clipboardTextDigest call side).written ≠ (pair side).written) →
        (pair side).engine.rank < (pair.next clipboardTextDigest call side).engine.rank)
          (Pair.start engines) calls) ∧
      ((∀ side, ∀ o ∈ (pair side).sent, o ∈ (pair side.other).delivered) →
        (∀ side, (pair side).engine.rank = (pair.operations.map Operation.order).maximum) ∧
        (pair .left).engine.currentOrder = (pair .right).engine.currentOrder ∧
        (pair .left).engine.currentDigest = (pair .right).engine.currentDigest) := by
  intro pair
  have hstart : (Pair.start engines).Sound ∧ Pair.Complete clipboardTextDigest (Pair.start engines) :=
    ⟨Pair.start_sound hmade hdistinct, Pair.start_complete engines⟩
  have hstep : ∀ (pair : Pair) call, pair.Sound ∧ Pair.Complete clipboardTextDigest pair → pair.Settles call →
      (pair.next clipboardTextDigest call).Sound ∧
        Pair.Complete clipboardTextDigest (pair.next clipboardTextDigest call) :=
    fun pair call h hsettles => ⟨Pair.next_sound h.1 hsettles.1, Pair.next_complete h.1 h.2 hsettles⟩
  constructor
  · exact meets_keeps (fun pair call h hsettles =>
      ⟨hstep pair call h hsettles, fun side => Pair.next_rank h.1 hsettles.1 side⟩) hstart hsettles
  · intro hdelivered
    have hpair : pair.Sound ∧ Pair.Complete clipboardTextDigest pair :=
      run_keeps (I := fun pair => pair.Sound ∧ Pair.Complete clipboardTextDigest pair) hstep hstart hsettles
    have hall : ∀ side, ∀ o ∈ (pair side.other).sent, o ∈ (pair side).acknowledged := by
      intro side o ho
      have hmem := hdelivered side.other o ho
      rw [Side.other_other] at hmem
      exact hpair.2.acknowledged side o hmem
    obtain ⟨r, horder, hdigest, hnewest⟩ := hpair.1.newest (hall .left)
    obtain ⟨r', horder', hdigest', hnewest'⟩ := hpair.1.newest (hall .right)
    obtain rfl : r = r' := hnewest.agree hnewest' (fun _ => Iff.rfl) hpair.1.singleValued
    have hmaximum : stamp r = (pair.operations.map Operation.order).maximum := by
      rw [hnewest.stamp_eq, List.map_map]
      rfl
    refine ⟨fun side => ?_, horder.trans horder'.symm, hdigest.trans hdigest'.symm⟩
    cases side with
    | left => exact (Site.rank_eq horder).trans hmaximum
    | right => exact (Site.rank_eq horder').trans hmaximum

section Examples

def sampleEngines : Side → ClipboardSyncEngine
  | .left => sampleEngine "a-peer" (sampleBoot 1) 1
  | .right => sampleEngine "z-peer" (sampleBoot 2) 1

theorem sampleEngines_made (side : Side) : Made (sampleEngines side) := by
  cases side with
  | left => exact sampleEngine_made (by decide +kernel)
  | right => exact sampleEngine_made (by decide +kernel)

/-- Both sides copy at the same time; the copy of the right side is delivered twice. -/
def sampleCalls : List PairCall :=
  [.observe .left false false 2 (.text "A"), .observe .right false false 2 (.text "Z"),
    .deliver .left (sampleOperation 1 "z-peer" (sampleBoot 2) 1 2 "Z") true true 3,
    .deliver .right (sampleOperation 1 "a-peer" (sampleBoot 1) 1 2 "A") true true 3,
    .deliver .left (sampleOperation 1 "z-peer" (sampleBoot 2) 1 2 "Z") true true 4]

def sampleRun (calls : List PairCall) : Pair := run (Pair.next sampleDigest) (Pair.start sampleEngines) calls

/-- The later name wins. -/
theorem clipboard_convergence_concurrent :
    (sampleRun sampleCalls .left).engine.currentDigest = (sampleRun sampleCalls .right).engine.currentDigest :=
  ((clipboard_convergence sampleDigest sampleEngines sampleEngines_made (by decide) sampleCalls
    (by decide +kernel)).2 (by decide +kernel)).2.2

end Examples

end MyKvm.Clipboard
