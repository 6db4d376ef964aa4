import MyKvm.Clipboard.Desk

/-!
# MyKvm.Clipboard.Overwrite — what the peer may write over

The handler decides by the order of the engine, and a copy of the user has an order only once it was observed.
Nothing in the handler compares the revision of the clipboard with the one which was observed last, so it writes
over a copy which was not.  `Settled` is that comparison.

* `Ordered`: what was sent is ordered before what the handler is about to write.
* `Accounted`: if nothing is written over a copy which was not observed, every copy was sent, or is on the
  clipboard.
* `remote_write_after_copies`: the result.
-/

namespace MyKvm.Clipboard

open MyKvm.Lib MyKvm.Protocol

/-- An order which the engine gave is not above the one which it gives next. -/
theorem le_nextOrder {engine : ClipboardSyncEngine} {o : OperationOrder} (hpeer : o.originPeer = engine.localPeer)
    (hboot : o.operationId.bootId = engine.bootId) (hlamport : o.lamport.toNat ≤ engine.lamport.toNat)
    (hsequence : o.operationId.localSequence.toNat ≤ engine.localSequence.toNat) : o ≤ engine.nextOrder := by
  have hclock : o.lamport.toNat ≤ engine.nextOrder.lamport.toNat :=
    hlamport.trans (le_saturatingAdd_one engine.lamport)
  rcases Nat.lt_or_eq_of_le hclock with hlt | heq
  · exact (OperationOrder.lt_of_lamport hlt).le
  · refine Prod.Lex.toLex_le_toLex.mpr (.inr ⟨heq, Prod.Lex.toLex_le_toLex.mpr (.inr ⟨hpeer, ?_⟩)⟩)
    refine Prod.Lex.toLex_le_toLex.mpr (.inr ⟨?_, hsequence.trans (le_saturatingAdd_one engine.localSequence)⟩)
    rw [hboot]
    rfl

/-- The clipboard holds what the handler wrote, or something with another digest. -/
def HandlerStage.Distinguished (clipboardTextDigest : String → Digest) (clipboard : Entry) : HandlerStage → Prop
  | .written operation revision =>
    clipboard.revision = revision ∨ clipboardTextDigest clipboard.content.bytes ≠ Operation.digest operation
  | _ => True

instance (clipboardTextDigest : String → Digest) (clipboard : Entry) :
    ∀ stage, Decidable (HandlerStage.Distinguished clipboardTextDigest clipboard stage)
  | .written _ _ => inferInstanceAs (Decidable (_ ∨ _))
  | .free | .applying _ => .isTrue trivial

namespace Desk

variable {clipboardTextDigest : String → Digest} {s : Desk} {call : DeskCall}

/-! ### What was sent is ordered -/

/-- What was sent carries what was read, and has an order of this engine, which the current order is not below;
what the handler is about to commit is above it. -/
structure Ordered (s : Desk) : Prop where
  content : ∀ e ∈ s.emitted, Operation.content e.operation = e.source.content
  peer : ∀ e ∈ s.emitted, (Operation.order e.operation).originPeer = s.engine.localPeer
  boot : ∀ e ∈ s.emitted, (Operation.order e.operation).operationId.bootId = s.engine.bootId
  lamport : ∀ e ∈ s.emitted, (Operation.order e.operation).lamport.toNat ≤ s.engine.lamport.toNat
  sequence : ∀ e ∈ s.emitted,
    (Operation.order e.operation).operationId.localSequence.toNat ≤ s.engine.localSequence.toNat
  rank : ∀ e ∈ s.emitted, Operation.order e.operation ≤ s.engine.rank
  newer : ∀ operation, s.handler.operation? = some operation → s.engine.rank < Operation.order operation

theorem start_ordered (platform : Platform) (engine : ClipboardSyncEngine) (content : ClipboardContent) :
    (start platform engine content).Ordered where
  content e h := by cases h
  peer e h := by cases h
  boot e h := by cases h
  lamport e h := by cases h
  sequence e h := by cases h
  rank e h := by cases h
  newer operation h := by cases h

theorem Ordered.look {s' : Desk} (h : s.Ordered) (hlook : s.Looks s') : s'.Ordered := by
  obtain ⟨changes, lastSequence, observer, rfl⟩ := hlook
  exact ⟨h.content, h.peer, h.boot, h.lamport, h.sequence, h.rank, h.newer⟩

/-- What is sent is the newest. -/
theorem Ordered.observe (h : s.Ordered) (imageAllowed : Bool) :
    (s.observe clipboardTextDigest imageAllowed).Ordered := by
  rcases observe_cases clipboardTextDigest s imageAllowed with
    heq | ⟨manualResend, revision, entry, -, hfree, heq⟩
  · rw [heq]
    exact h
  rw [heq]
  have hnewer : ∀ {engine : ClipboardSyncEngine} operation, s.handler.operation? = some operation →
      engine.rank < Operation.order operation := by
    intro engine operation hoperation
    rw [hfree] at hoperation
    cases hoperation
  rcases ClipboardSyncEngine.offer_cases clipboardTextDigest imageAllowed manualResend revision entry.content
    s.engine with ⟨engine, hoffer, rfl | rfl⟩ | hoffer
  · rw [hoffer]
    exact ⟨h.content, h.peer, h.boot, h.lamport, h.sequence, h.rank, hnewer⟩
  · rw [hoffer]
    exact ⟨h.content, h.peer, h.boot, h.lamport, h.sequence, h.rank, hnewer⟩
  · rw [hoffer]
    have horder : Operation.order (Operation.make clipboardTextDigest s.engine.nextOrder revision entry.content) =
        s.engine.nextOrder := Operation.order_make ..
    refine ⟨?_, ?_, ?_, ?_, ?_, ?_, hnewer⟩
    · intro e he
      rcases List.mem_cons.mp he with rfl | he
      · exact Operation.content_make ..
      · exact h.content e he
    · intro e he
      rcases List.mem_cons.mp he with rfl | he
      · exact congrArg OperationOrder.originPeer horder
      · exact h.peer e he
    · intro e he
      rcases List.mem_cons.mp he with rfl | he
      · exact congrArg (fun o => o.operationId.bootId) horder
      · exact h.boot e he
    · intro e he
      rcases List.mem_cons.mp he with rfl | he
      · exact (congrArg (fun o => o.lamport.toNat) horder).le
      · exact (h.lamport e he).trans (le_saturatingAdd_one s.engine.lamport)
    · intro e he
      rcases List.mem_cons.mp he with rfl | he
      · exact (congrArg (fun o => o.operationId.localSequence.toNat) horder).le
      · exact (h.sequence e he).trans (le_saturatingAdd_one s.engine.localSequence)
    · intro e he
      rcases List.mem_cons.mp he with rfl | he
      · exact WithBot.coe_le_coe.mpr horder.le
      · exact WithBot.coe_le_coe.mpr (le_nextOrder (h.peer e he) (h.boot e he) (h.lamport e he) (h.sequence e he))

/-- The engine hears of an operation of the peer: only its clock is set forward. -/
theorem Ordered.heard (h : s.Ordered) (operation : ClipboardBulkOperation) {handler : HandlerStage}
    (hnewer : ∀ o, handler.operation? = some o → s.engine.rank < Operation.order o) :
    ({ s with engine := s.engine.heard operation, handler := handler } : Desk).Ordered := by
  refine ⟨h.content, h.peer, h.boot, fun e he => (h.lamport e he).trans ?_, h.sequence, h.rank, hnewer⟩
  exact (Nat.le_max_left _ _).trans_eq (max_toNat s.engine.lamport (Operation.order operation).lamport).symm

theorem Ordered.copy (h : s.Ordered) (revision : UInt64) (content : ClipboardContent) :
    (s.copy revision content).Ordered := by
  unfold Desk.copy
  split_ifs
  · exact ⟨h.content, h.peer, h.boot, h.lamport, h.sequence, h.rank, h.newer⟩
  · exact h

/-- What is about to be written has been compared with the newest. -/
theorem Ordered.receive (h : s.Ordered) (peer : String) (imageAllowed : Bool)
    (operation : ClipboardBulkOperation) :
    (s.receive clipboardTextDigest peer imageAllowed operation).Ordered := by
  rcases receive_cases clipboardTextDigest s peer imageAllowed operation with
    heq | ⟨-, heq⟩ | ⟨-, hlt, -, heq⟩
  · rw [heq]
    exact h
  · rw [heq]
    exact h.heard operation h.newer
  · rw [heq]
    refine h.heard operation fun o ho => ?_
    obtain rfl : operation = o := Option.some.inj ho
    exact hlt

theorem Ordered.write (h : s.Ordered) (revision : UInt64) : (s.write revision).Ordered := by
  unfold Desk.write
  split
  · rename_i operation happlying
    split_ifs
    · refine ⟨h.content, h.peer, h.boot, h.lamport, h.sequence, h.rank, fun o ho => h.newer o ?_⟩
      rw [happlying]
      exact ho
    · exact h
  · exact h

theorem Ordered.failWrite (h : s.Ordered) : s.failWrite.Ordered := by
  unfold Desk.failWrite
  split
  · exact ⟨h.content, h.peer, h.boot, h.lamport, h.sequence, h.rank, fun o ho => by cases ho⟩
  · exact h

/-- What was written becomes the newest. -/
theorem Ordered.commit (h : s.Ordered) : s.commit.Ordered := by
  unfold Desk.commit
  split
  · rename_i operation revision hwritten
    refine ⟨h.content, h.peer, h.boot, h.lamport, h.sequence, fun e he => ?_, fun o ho => by cases ho⟩
    have hlt : s.engine.rank < Operation.order operation := h.newer operation (by rw [hwritten]; rfl)
    exact (h.rank e he).trans hlt.le
  · exact h

/-- **Every run is ordered.** -/
theorem next_ordered (h : s.Ordered) : (s.next clipboardTextDigest call).Ordered := by
  cases call with
  | copy revision content => exact h.copy revision content
  | report => exact h.look looks_report
  | listen => exact h.look looks_listen
  | takeTurn manualResend => exact h.look (looks_takeTurn manualResend)
  | read => exact h.look looks_read
  | skip => exact h.look looks_skip
  | observe imageAllowed => exact h.observe imageAllowed
  | receive peer imageAllowed operation => exact h.receive peer imageAllowed operation
  | write revision => exact h.write revision
  | failWrite => exact h.failWrite
  | commit => exact h.commit

/-! ### Every copy is sent, or is still there -/

/-- The copy of the user which the clipboard holds was observed: its revision is the
one which was observed last. -/
def Settled (s : Desk) : Prop :=
  s.clipboard.author = .user → s.engine.lastLocalRevision = s.clipboard.revision

/-- The engine sends such a content. -/
def Sends (s : Desk) (content : ClipboardContent) : Prop :=
  content.isValid = true ∧ content.bytes.utf8ByteSize ≤ s.engine.limit content

/-- Nothing replaces a copy which was not observed; the copies can be sent; and no copy with the same digest comes
between a write and its commit. -/
def Guarded (clipboardTextDigest : String → Digest) (s : Desk) : DeskCall → Prop
  | .copy _ content => s.Settled ∧ s.Sends (terminated s.platform content)
  | .write _ => s.Settled
  | .commit => s.handler.Distinguished clipboardTextDigest s.clipboard
  | _ => True

instance : Decidable s.Settled := inferInstanceAs (Decidable (_ → _))

instance (content : ClipboardContent) : Decidable (s.Sends content) := inferInstanceAs (Decidable (_ ∧ _))

instance : Decidable (s.Guarded clipboardTextDigest call) :=
  match call with
  | .copy _ content => inferInstanceAs (Decidable (s.Settled ∧ s.Sends (terminated s.platform content)))
  | .write _ => inferInstanceAs (Decidable s.Settled)
  | .commit => inferInstanceAs (Decidable (s.handler.Distinguished clipboardTextDigest s.clipboard))
  | .report | .listen | .takeTurn _ | .read | .skip | .observe _ | .receive .. | .failWrite => .isTrue trivial

/-- The books of the copies. -/
structure Accounted (clipboardTextDigest : String → Digest) (s : Desk) : Prop where
  bounded : s.Bounded
  echo : s.clipboard.author = .user → ∀ digest operationId,
    s.engine.appliedRemoteEcho = some (s.clipboard.revision, digest, operationId) →
    digest ≠ clipboardTextDigest s.clipboard.content.bytes
  sends : ∀ copy ∈ s.copies, s.Sends copy.content
  sent : ∀ copy ∈ s.copies, (∃ e ∈ s.emitted, e.source = copy) ∨
    (copy = s.clipboard ∧ s.engine.lastLocalRevision ≠ copy.revision)

theorem start_accounted {engine : ClipboardSyncEngine} (hmade : Made engine) (platform : Platform)
    (content : ClipboardContent) : (start platform engine content).Accounted clipboardTextDigest := by
  obtain ⟨localPeer, bootId, baselineRevision, textLimit, hnew⟩ := hmade
  obtain ⟨-, rfl⟩ := ClipboardSyncEngine.new_eq_ok.mp hnew
  exact ⟨start_bounded rfl platform content, fun h => (by cases h), fun copy h => (by cases h),
    fun copy h => (by cases h)⟩

/-- If the clipboard is settled, every copy was sent. -/
theorem Accounted.all_sent (h : s.Accounted clipboardTextDigest) (hsettled : s.Settled) {copy : Entry}
    (hcopy : copy ∈ s.copies) : ∃ e ∈ s.emitted, e.source = copy := by
  rcases h.sent copy hcopy with hsent | ⟨rfl, hunseen⟩
  · exact hsent
  · exact absurd (hsettled (h.bounded.copies _ hcopy).1) hunseen

/-- Steps which leave the clipboard and the marks of the observer alone. -/
theorem Accounted.frame {s' : Desk} (h : s.Accounted clipboardTextDigest) (hbounded : s'.Bounded)
    (hclipboard : s'.clipboard = s.clipboard) (hcopies : s'.copies = s.copies) (hemitted : s'.emitted = s.emitted)
    (hlocal : s'.engine.lastLocalRevision = s.engine.lastLocalRevision)
    (hecho : s'.engine.appliedRemoteEcho = s.engine.appliedRemoteEcho)
    (hlimit : s'.engine.textLimit = s.engine.textLimit) : s'.Accounted clipboardTextDigest := by
  have hsends : ∀ content, s.Sends content → s'.Sends content := by
    rintro content ⟨hvalid, hfits⟩
    refine ⟨hvalid, ?_⟩
    cases content with
    | text value => exact hfits.trans_eq hlimit.symm
    | image value => exact hfits
  refine ⟨hbounded, ?_, ?_, ?_⟩
  · rw [hclipboard, hecho]
    exact h.echo
  · rw [hcopies]
    exact fun copy hcopy => hsends copy.content (h.sends copy hcopy)
  · rw [hcopies, hemitted, hclipboard, hlocal]
    exact h.sent

theorem Accounted.look {s' : Desk} (h : s.Accounted clipboardTextDigest) (hbounded : s'.Bounded)
    (hlook : s.Looks s') :
    s'.Accounted clipboardTextDigest := by
  obtain ⟨changes, lastSequence, observer, rfl⟩ := hlook
  exact h.frame hbounded rfl rfl rfl rfl rfl rfl

/-- What the observer holds under the revision of a copy is the copy. -/
theorem Bounded.holding (h : s.Bounded) (huser : s.clipboard.author = .user) {manualResend : Bool} {entry : Entry}
    (hholding : s.observer = .holding manualResend s.clipboard.revision entry) : entry = s.clipboard := by
  have hbehind := h.observer
  rw [hholding] at hbehind
  obtain ⟨hread, hle, hsame⟩ := hbehind
  exact hsame (UInt64.toNat_inj.mp (Nat.le_antisymm hle hread)) huser

/-- **The copy on the clipboard is sent** when it is observed, or it stays unobserved. -/
theorem Accounted.offer (h : s.Accounted clipboardTextDigest) (hcopy : s.clipboard ∈ s.copies)
    (hunseen : s.engine.lastLocalRevision ≠ s.clipboard.revision) (imageAllowed manualResend : Bool) :
    let answer :=
      s.engine.offer clipboardTextDigest imageAllowed manualResend s.clipboard.revision s.clipboard.content
    (∃ operation, answer.1 = some operation) ∨ answer.2.lastLocalRevision ≠ s.clipboard.revision := by
  intro answer
  have huser := (h.bounded.copies _ hcopy).1
  have hfits := (h.sends _ hcopy).2
  cases hread : s.clipboard.content.isReadable imageAllowed with
  | false =>
    have hanswer : answer = (none, s.engine) := ClipboardSyncEngine.offer_unreadable hread
    rw [hanswer]
    exact .inr hunseen
  | true =>
    have hanswer : answer = _ := ClipboardSyncEngine.offer_eq hread
    split_ifs at hanswer with hecho hseen hlarge
    · obtain ⟨operationId, hmark⟩ := ClipboardSyncEngine.isEcho_eq_true.mp hecho.2
      exact absurd rfl (h.echo huser _ operationId hmark)
    · exact absurd hseen.2.symm hunseen
    · omega
    · rw [show answer = _ from hanswer]
      exact .inl ⟨_, rfl⟩

/-- **An observation.** -/
theorem Accounted.observe (h : s.Accounted clipboardTextDigest) (imageAllowed : Bool) :
    (s.observe clipboardTextDigest imageAllowed).Accounted clipboardTextDigest := by
  have hbounded : (s.observe clipboardTextDigest imageAllowed).Bounded := h.bounded.observe imageAllowed
  rcases observe_cases clipboardTextDigest s imageAllowed with
    heq | ⟨manualResend, revision, entry, hobserver, -, heq⟩
  · rw [heq]
    exact h
  rw [heq] at hbounded ⊢
  have hmarks :=
    ClipboardSyncEngine.offer_marks clipboardTextDigest imageAllowed manualResend revision entry.content s.engine
  have hidentity := ClipboardSyncEngine.offer_identity clipboardTextDigest imageAllowed manualResend revision
    entry.content s.engine
  refine ⟨hbounded, ?_, ?_, ?_⟩
  · intro huser digest operationId hmark
    rcases hmarks with ⟨-, hecho⟩ | ⟨-, hecho⟩
    · exact h.echo huser digest operationId (hecho.symm.trans hmark)
    · cases hecho.symm.trans hmark
  · intro copy hcopy
    obtain ⟨hvalid, hfits⟩ := h.sends copy hcopy
    refine ⟨hvalid, ?_⟩
    cases hcontent : copy.content with
    | text value =>
      rw [hcontent] at hfits
      exact hfits.trans_eq (congrArg (fun identity => identity.2.2) hidentity).symm
    | image value =>
      rw [hcontent] at hfits
      exact hfits
  · intro copy hcopy
    rcases h.sent copy hcopy with ⟨e, he, hsource⟩ | ⟨rfl, hunseen⟩
    · exact .inl ⟨e, List.mem_append_right _ he, hsource⟩
    by_cases hcurrent : revision = s.clipboard.revision
    · subst hcurrent
      obtain rfl := h.bounded.holding (h.bounded.copies _ hcopy).1 hobserver
      rcases h.offer hcopy hunseen imageAllowed manualResend with ⟨operation, hsent⟩ | hstill
      · refine .inl ⟨⟨s.clipboard, operation⟩, List.mem_append_left _ ?_, rfl⟩
        rw [hsent]
        exact List.mem_singleton.mpr rfl
      · exact .inr ⟨rfl, hstill⟩
    · refine .inr ⟨rfl, ?_⟩
      rcases hmarks with ⟨hlocal, -⟩ | ⟨hlocal, -⟩
      · exact fun hsame => hunseen (hlocal.symm.trans hsame)
      · exact fun hsame => hcurrent (hlocal.symm.trans hsame)

/-- A new copy: all the others were sent. -/
theorem Accounted.copy (h : s.Accounted clipboardTextDigest) (hsettled : s.Settled) (revision : UInt64)
    {content : ClipboardContent} (hsends : s.Sends (terminated s.platform content)) :
    (s.copy revision content).Accounted clipboardTextDigest := by
  have hbounded := h.bounded.copy revision content
  unfold Desk.copy at hbounded ⊢
  split_ifs at hbounded ⊢ with hlt
  · refine ⟨hbounded, ?_, ?_, ?_⟩
    · intro _ digest operationId hmark
      have hle := h.bounded.echo revision digest operationId hmark
      omega
    · intro copy hcopy
      rcases List.mem_cons.mp hcopy with rfl | hcopy
      · exact hsends
      · exact h.sends copy hcopy
    · intro copy hcopy
      rcases List.mem_cons.mp hcopy with rfl | hcopy
      · refine .inr ⟨rfl, fun hsame => ?_⟩
        have hle := h.bounded.lastLocal
        have hnew : s.engine.lastLocalRevision = revision := hsame
        rw [hnew] at hle
        omega
      · exact .inl (h.all_sent hsettled hcopy)
  · exact h

theorem Accounted.receive (h : s.Accounted clipboardTextDigest) (peer : String) (imageAllowed : Bool)
    (operation : ClipboardBulkOperation) :
    (s.receive clipboardTextDigest peer imageAllowed operation).Accounted clipboardTextDigest := by
  have hbounded : (s.receive clipboardTextDigest peer imageAllowed operation).Bounded :=
    h.bounded.receive peer imageAllowed operation
  rcases receive_cases clipboardTextDigest s peer imageAllowed operation with heq | ⟨-, heq⟩ | ⟨-, -, -, heq⟩
  · rw [heq]
    exact h
  · rw [heq] at hbounded ⊢
    exact h.frame hbounded rfl rfl rfl rfl rfl rfl
  · rw [heq] at hbounded ⊢
    exact h.frame hbounded rfl rfl rfl rfl rfl rfl

/-- The handler writes over a copy which was sent. -/
theorem Accounted.write (h : s.Accounted clipboardTextDigest) (hsettled : s.Settled) (revision : UInt64) :
    (s.write revision).Accounted clipboardTextDigest := by
  have hbounded := h.bounded.write revision
  unfold Desk.write at hbounded ⊢
  split
  · rename_i operation happlying
    rw [happlying] at hbounded
    dsimp only at hbounded
    split_ifs at hbounded ⊢
    · exact ⟨hbounded, fun huser => (by cases huser), h.sends, fun copy hcopy => .inl (h.all_sent hsettled hcopy)⟩
    · exact h
  · exact h

theorem Accounted.failWrite (h : s.Accounted clipboardTextDigest) :
    s.failWrite.Accounted clipboardTextDigest := by
  have hbounded := h.bounded.failWrite
  unfold Desk.failWrite at hbounded ⊢
  split
  · rename_i operation happlying
    rw [happlying] at hbounded
    exact h.frame hbounded rfl rfl rfl rfl rfl rfl
  · exact h

/-- The mark of the commit has the digest of what was written, which no copy on the clipboard has. -/
theorem Accounted.commit (h : s.Accounted clipboardTextDigest)
    (hdistinguished : s.handler.Distinguished clipboardTextDigest s.clipboard) :
    s.commit.Accounted clipboardTextDigest := by
  have hbounded := h.bounded.commit
  unfold Desk.commit at hbounded ⊢
  split
  · rename_i operation revision hwritten
    rw [hwritten] at hbounded
    have hbehind := h.bounded.handler
    rw [hwritten] at hbehind hdistinguished
    refine ⟨hbounded, ?_, h.sends, h.sent⟩
    intro huser digest operationId hmark
    obtain ⟨-, hmark⟩ := Prod.mk.inj (Option.some.inj hmark)
    obtain ⟨hdigest, -⟩ := Prod.mk.inj hmark
    rcases hdistinguished with hsame | hdiffers
    · cases (hbehind.2 hsame).symm.trans huser
    · rw [← hdigest]
      exact hdiffers.symm
  · exact h

/-- **Guarded steps keep the books of the copies.** -/
theorem next_accounted (h : s.Accounted clipboardTextDigest) (hguarded : s.Guarded clipboardTextDigest call) :
    (s.next clipboardTextDigest call).Accounted clipboardTextDigest := by
  cases call with
  | copy revision content => exact h.copy hguarded.1 revision hguarded.2
  | report => exact h.look (next_bounded h.bounded) looks_report
  | listen => exact h.look (next_bounded h.bounded) looks_listen
  | takeTurn manualResend => exact h.look (next_bounded h.bounded) (looks_takeTurn manualResend)
  | read => exact h.look (next_bounded h.bounded) looks_read
  | skip => exact h.look (next_bounded h.bounded) looks_skip
  | observe imageAllowed => exact h.observe imageAllowed
  | receive peer imageAllowed operation => exact h.receive peer imageAllowed operation
  | write revision => exact h.write hguarded revision
  | failWrite => exact h.failWrite
  | commit => exact h.commit hguarded

end Desk

/-- **The peer writes after the copies.**  If nothing replaces a copy which was not observed, and no copy with the
digest of what the peer wrote comes between the write and its commit, then whenever the handler is about to write,
every copy which the user made was sent, with its own content, and under an order below the one of the peer. -/
theorem remote_write_after_copies (clipboardTextDigest : String → Digest) (platform : Platform)
    {engine : ClipboardSyncEngine} (hmade : Made engine) (content : ClipboardContent) (calls : List DeskCall)
    (hguarded : Meets (Desk.next clipboardTextDigest) (Desk.Guarded clipboardTextDigest)
      (Desk.start platform engine content) calls) :
    Meets (Desk.next clipboardTextDigest)
      (fun s call => ∀ revision operation, call = .write revision → s.handler = .applying operation →
        ∀ copy ∈ s.copies, ∃ e ∈ s.emitted, e.source = copy ∧ Operation.content e.operation = copy.content ∧
          Operation.order e.operation < Operation.order operation)
      (Desk.start platform engine content) calls := by
  refine meets_keeps (I := fun s => s.Accounted clipboardTextDigest ∧ s.Ordered) ?_
    ⟨Desk.start_accounted hmade platform content, Desk.start_ordered platform engine content⟩ hguarded
  rintro s call ⟨haccounted, hordered⟩ hstep
  refine ⟨⟨Desk.next_accounted haccounted hstep, Desk.next_ordered hordered⟩, ?_⟩
  rintro revision operation rfl happlying copy hcopy
  obtain ⟨e, he, rfl⟩ := haccounted.all_sent hstep hcopy
  refine ⟨e, he, rfl, hordered.content e he, WithBot.coe_lt_coe.mp ?_⟩
  exact (hordered.rank e he).trans_lt (hordered.newer operation (by rw [happlying]; rfl))

section Examples

def sampleDesk : Desk := Desk.start .windows (sampleEngine "a-peer" (sampleBoot 1) 1) (.text "")

/-- One turn of the observer, from the report of the change to the engine. -/
def sampleTurn : List DeskCall := [.report, .takeTurn false, .read, .observe false]

def sampleIncoming : ClipboardBulkOperation := sampleOperation 1 "z-peer" (sampleBoot 2) 1 2 "Z"

/-- The copy is observed before the operation of the peer arrives: it takes part. -/
theorem remote_write_after_copies_observed :
    Meets (Desk.next sampleDigest)
      (fun s call => ∀ revision operation, call = .write revision → s.handler = .applying operation →
        ∀ copy ∈ s.copies, ∃ e ∈ s.emitted, e.source = copy ∧ Operation.content e.operation = copy.content ∧
          Operation.order e.operation < Operation.order operation)
      sampleDesk
      ([.listen, .copy 2 (.text "A")] ++ sampleTurn ++
        [.receive "z-peer" false sampleIncoming, .write 3, .commit]) :=
  remote_write_after_copies sampleDigest .windows (sampleEngine_made (by decide +kernel)) (.text "") _
    (by decide +kernel)

/-- The copy is not observed yet when the operation arrives: it is written over, and the observer takes what it
finds for an echo.  Nothing is ever sent. -/
theorem not_remote_write_after_copies :
    let s := run (Desk.next sampleDigest) sampleDesk
      [.listen, .copy 2 (.text "A"), .receive "z-peer" false sampleIncoming]
    let written := s.next sampleDigest (.write 3)
    s.handler = .applying sampleIncoming ∧ s.copies = [⟨2, .text "A", .user⟩] ∧ s.emitted = [] ∧
      written.clipboard = ⟨3, .text "Z", .peer⟩ ∧
      (run (Desk.next sampleDigest) written ([.commit] ++ sampleTurn)).emitted = [] := by decide +kernel

end Examples

end MyKvm.Clipboard
