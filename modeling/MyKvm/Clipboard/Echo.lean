import MyKvm.Clipboard.Overwrite

/-!
# MyKvm.Clipboard.Echo — what is sent back

What the handler writes is on the clipboard like any copy, and the observer will read it.  The engine tells it by a
mark, the revision and the digest of the last commit.  The mark fails when the revision which the observer took and
the content which it read do not belong together, when a newer commit took its place before the engine was asked,
and when less is read than was written: on Windows a text ends at its first NUL.

* `Expected`: a content of the peer which the engine will not take for a copy.
* `next_faithful`: without such a disturbance, nothing but copies is sent, and none twice.
* `no_clipboard_echo`: the result.
-/

namespace MyKvm.Clipboard

open MyKvm.Lib MyKvm.Protocol

/-- The clipboard is as it was when the revision was taken. -/
def ObserverStage.Current (clipboard : Entry) : ObserverStage → Prop
  | .noticed _ revision => clipboard.revision = revision
  | _ => True

/-- The mark of the engine is not newer than what the observer holds. -/
def ObserverStage.Latest (echo : Option (UInt64 × Digest × ClipboardOperationId)) : ObserverStage → Prop
  | .holding _ revision _ =>
    match echo with
    | some (marked, _, _) => marked.toNat ≤ revision.toNat
    | none => True
  | _ => True

instance (clipboard : Entry) : ∀ stage, Decidable (ObserverStage.Current clipboard stage)
  | .noticed _ revision => inferInstanceAs (Decidable (clipboard.revision = revision))
  | .starting | .waiting | .holding .. => .isTrue trivial

instance : ∀ echo stage, Decidable (ObserverStage.Latest echo stage)
  | some (marked, _, _), .holding _ revision _ => inferInstanceAs (Decidable (marked.toNat ≤ revision.toNat))
  | none, .holding .. => .isTrue trivial
  | _, .starting | _, .waiting | _, .noticed .. => .isTrue trivial

/-- The mark is that of the content, or of a newer one. -/
def Covers (revision : UInt64) (digest : Digest) (marked : UInt64) (expected : Digest) : Prop :=
  marked = revision ∧ expected = digest ∨ revision.toNat < marked.toNat

namespace Desk

variable {clipboardTextDigest : String → Digest} {s s' : Desk} {call : DeskCall}

/-- What the handler wrote is read as it is, or not at all. -/
def Intact (s : Desk) : Prop :=
  s.clipboard.author = .peer → ∀ content ∈ readContentTyped s.platform s.clipboard.content,
    content = s.clipboard.content

instance : Decidable s.Intact := inferInstanceAs (Decidable (_ → ∀ content ∈ _, content = _))

/-- The observer is not overtaken: between the revision and the content the clipboard does not change, and
between the content and the engine there is no commit.  What the peer sent is read whole, and nobody asks
for a copy to be sent again. -/
def Undisturbed (s : Desk) : DeskCall → Prop
  | .takeTurn manualResend => manualResend = false
  | .read => s.observer.Current s.clipboard ∧ s.Intact
  | .observe _ => s.handler = .free → s.observer.Latest s.engine.appliedRemoteEcho
  | _ => True

instance : Decidable (s.Undisturbed call) :=
  match call with
  | .takeTurn manualResend => inferInstanceAs (Decidable (manualResend = false))
  | .read => inferInstanceAs (Decidable (s.observer.Current s.clipboard ∧ s.Intact))
  | .observe _ => inferInstanceAs (Decidable (s.handler = .free → s.observer.Latest s.engine.appliedRemoteEcho))
  | .copy .. | .report | .listen | .skip | .receive .. | .write _ | .failWrite | .commit => .isTrue trivial

/-- A content of the peer which will not be sent: it was looked at, or it is marked,
or it will be at the commit. -/
def Expected (s : Desk) (revision : UInt64) (digest : Digest) : Prop :=
  revision.toNat ≤ s.engine.lastLocalRevision.toNat ∨
    (∃ marked expected operationId, s.engine.appliedRemoteEcho = some (marked, expected, operationId) ∧
      Covers revision digest marked expected) ∨
    ∃ operation written, s.handler = .written operation written ∧
      Covers revision digest written (Operation.digest operation)

/-- Where a content comes from is known. -/
def Known (clipboardTextDigest : String → Digest) (s : Desk) (entry : Entry) : Prop :=
  match entry.author with
  | .nobody => entry.revision.toNat ≤ s.engine.lastLocalRevision.toNat
  | .user => entry ∈ s.copies
  | .peer => s.Expected entry.revision (clipboardTextDigest entry.content.bytes)

/-- The books of the observer. -/
structure Faithful (clipboardTextDigest : String → Digest) (s : Desk) : Prop where
  bounded : s.Bounded
  sorted : s.changes.Pairwise fun revision revision' => revision.toNat ≤ revision'.toNat
  ahead : ∀ revision ∈ s.changes, s.engine.lastLocalRevision.toNat ≤ revision.toNat
  manual : s.observer.isManual = false
  turn : ∀ revision, s.observer.revision? = some revision →
    s.engine.lastLocalRevision.toNat ≤ revision.toNat ∧ ∀ later ∈ s.changes, revision.toNat ≤ later.toNat
  held : ∀ manualResend revision entry, s.observer = .holding manualResend revision entry →
    entry.revision = revision ∧ s.Known clipboardTextDigest entry
  known : s.Known clipboardTextDigest s.clipboard
  digest : ∀ operation, s.handler.operation? = some operation →
    Operation.digest operation = clipboardTextDigest (Operation.content operation).bytes
  above : ∀ operation written, s.handler = .written operation written →
    ∀ marked expected operationId, s.engine.appliedRemoteEcho = some (marked, expected, operationId) →
      marked.toNat < written.toNat
  source : ∀ e ∈ s.emitted,
    e.source ∈ s.copies ∧ e.source.revision.toNat ≤ s.engine.lastLocalRevision.toNat
  once : s.emitted.Pairwise fun e e' => e'.source.revision.toNat < e.source.revision.toNat

theorem start_faithful {engine : ClipboardSyncEngine} (hmade : engine.appliedRemoteEcho = none)
    (platform : Platform) (content : ClipboardContent) :
    (start platform engine content).Faithful clipboardTextDigest where
  bounded := start_bounded hmade platform content
  sorted := List.Pairwise.nil
  ahead revision h := by cases h
  manual := rfl
  turn revision h := by cases h
  held manualResend revision entry h := by cases h
  known := Nat.le_refl _
  digest operation h := by cases h
  above operation written h := by cases h
  source e h := by cases h
  once := List.Pairwise.nil

theorem Known.mono {entry : Entry} (h : s.Known clipboardTextDigest entry)
    (hcopies : ∀ e ∈ s.copies, e ∈ s'.copies)
    (hlocal : s.engine.lastLocalRevision.toNat ≤ s'.engine.lastLocalRevision.toNat)
    (hexpected : ∀ digest, s.Expected entry.revision digest → s'.Expected entry.revision digest) :
    s'.Known clipboardTextDigest entry := by
  unfold Known at h ⊢
  split
  · rename_i hauthor
    rw [hauthor] at h
    exact Nat.le_trans h hlocal
  · rename_i hauthor
    rw [hauthor] at h
    exact hcopies entry h
  · rename_i hauthor
    rw [hauthor] at h
    exact hexpected _ h

/-- Steps of the handler which leave the marks alone. -/
theorem Expected.frame {revision : UInt64} {digest : Digest} (h : s.Expected revision digest)
    (hlocal : s'.engine.lastLocalRevision = s.engine.lastLocalRevision)
    (hecho : s'.engine.appliedRemoteEcho = s.engine.appliedRemoteEcho)
    (hwritten : ∀ operation written, s.handler ≠ .written operation written) : s'.Expected revision digest := by
  rcases h with hseen | ⟨marked, expected, operationId, hmark, hcovers⟩ | ⟨operation, written, hhandler, -⟩
  · exact .inl (by rwa [hlocal])
  · exact .inr (.inl ⟨marked, expected, operationId, hecho.trans hmark, hcovers⟩)
  · exact absurd hhandler (hwritten operation written)

/-! ### The steps of the observer -/

theorem Faithful.report (h : s.Faithful clipboardTextDigest) :
    (s.next clipboardTextDigest .report).Faithful clipboardTextDigest := by
  have hbounded := h.bounded
  refine ⟨next_bounded h.bounded, ?_, ?_, h.manual, ?_, h.held, h.known, h.digest, h.above, h.source,
    h.once⟩
  · refine List.pairwise_append.mpr ⟨h.sorted, List.pairwise_singleton _ _, fun r hr r' hr' => ?_⟩
    rw [List.mem_singleton.mp hr']
    exact hbounded.changes r hr
  · intro r hr
    rcases List.mem_append.mp hr with hr | hr
    · exact h.ahead r hr
    · rw [List.mem_singleton.mp hr]
      exact hbounded.lastLocal
  · intro revision hrevision
    obtain ⟨hlocal, hlater⟩ := h.turn revision hrevision
    refine ⟨hlocal, fun later hmem => ?_⟩
    rcases List.mem_append.mp hmem with hmem | hmem
    · exact hlater later hmem
    · rw [List.mem_singleton.mp hmem]
      have hbehind := hbounded.observer
      have hstage : s.observer.revision? = some revision := hrevision
      cases hobserver : s.observer with
      | starting => rw [hobserver] at hstage; cases hstage
      | waiting => rw [hobserver] at hstage; cases hstage
      | noticed manualResend r =>
        rw [hobserver] at hstage hbehind
        obtain rfl : r = revision := Option.some.inj hstage
        exact hbehind
      | holding manualResend r entry =>
        rw [hobserver] at hstage hbehind
        obtain rfl : r = revision := Option.some.inj hstage
        exact hbehind.1.trans hbehind.2.1

theorem Faithful.listen (h : s.Faithful clipboardTextDigest) : s.listen.Faithful clipboardTextDigest := by
  have hbounded : s.listen.Bounded := h.bounded.listen
  unfold Desk.listen at hbounded ⊢
  split
  · rename_i hstarting
    rw [hstarting] at hbounded
    exact ⟨hbounded, h.sorted, h.ahead, rfl, fun r hr => (by cases hr), fun m r e he => (by cases he), h.known,
      h.digest, h.above, h.source, h.once⟩
  · exact h

theorem Faithful.takeTurn (h : s.Faithful clipboardTextDigest) :
    (s.takeTurn false).Faithful clipboardTextDigest := by
  have hbounded : (s.takeTurn false).Bounded := h.bounded.takeTurn false
  unfold Desk.takeTurn at hbounded ⊢
  split
  · rename_i hwaiting
    rw [hwaiting] at hbounded
    cases hchanges : s.changes with
    | nil => exact h
    | cons revision changes =>
      have hsorted := h.sorted
      have hahead := h.ahead
      rw [hchanges] at hbounded hsorted hahead
      obtain ⟨hfirst, hrest⟩ := List.pairwise_cons.mp hsorted
      have hlater : ∀ r ∈ changes, s.engine.lastLocalRevision.toNat ≤ r.toNat := fun r hr =>
        hahead r (List.mem_cons_of_mem revision hr)
      simp only [Bool.false_eq_true, if_false] at hbounded ⊢
      split_ifs at hbounded ⊢
      · rw [← hwaiting] at hbounded
        refine ⟨hbounded, hrest, hlater, h.manual, ?_, h.held, h.known, h.digest, h.above, h.source, h.once⟩
        intro r hr
        have hnone : s.observer.revision? = some r := hr
        rw [hwaiting] at hnone
        cases hnone
      · refine ⟨hbounded, hrest, hlater, rfl, ?_, fun m r e he => (by cases he), h.known, h.digest,
          h.above, h.source, h.once⟩
        intro r hr
        obtain rfl : revision = r := Option.some.inj hr
        exact ⟨hahead revision List.mem_cons_self, hfirst⟩
  · exact h

/-- Of what is read it is known where it comes from. -/
theorem Faithful.known_read (h : s.Faithful clipboardTextDigest) (hintact : s.Intact) {content : ClipboardContent}
    (hread : readContentTyped s.platform s.clipboard.content = some content) :
    s.Known clipboardTextDigest { s.clipboard with content := content } := by
  have hknown := h.known
  cases hauthor : s.clipboard.author with
  | nobody =>
    unfold Known at hknown ⊢
    rw [hauthor] at hknown
    dsimp only
    rw [hauthor]
    exact hknown
  | user =>
    rw [h.bounded.read_copy hauthor hread]
    exact hknown
  | peer =>
    rw [hintact hauthor content hread]
    exact hknown

theorem Faithful.read (h : s.Faithful clipboardTextDigest) (hcurrent : s.observer.Current s.clipboard)
    (hintact : s.Intact) : s.read.Faithful clipboardTextDigest := by
  have hbounded : s.read.Bounded := h.bounded.read
  have hmanual := h.manual
  have hturn := h.turn
  unfold Desk.read at hbounded ⊢
  split
  · rename_i manualResend revision hnoticed
    rw [hnoticed] at hbounded hcurrent hmanual hturn
    split
    · rename_i content hread
      rw [hread] at hbounded
      refine ⟨hbounded, h.sorted, h.ahead, hmanual, hturn, ?_, h.known, h.digest, h.above, h.source, h.once⟩
      intro m r e he
      obtain ⟨-, rfl, rfl⟩ := ObserverStage.holding.inj he
      exact ⟨hcurrent, h.known_read hintact hread⟩
    · rename_i hread
      rw [hread] at hbounded
      exact ⟨hbounded, h.sorted, h.ahead, rfl, fun r hr => (by cases hr), fun m r e he => (by cases he), h.known,
        h.digest, h.above, h.source, h.once⟩
  · exact h

theorem Faithful.skip (h : s.Faithful clipboardTextDigest) : s.skip.Faithful clipboardTextDigest := by
  have hbounded : s.skip.Bounded := h.bounded.skip
  unfold Desk.skip at hbounded ⊢
  split
  · rename_i manualResend revision hnoticed
    rw [hnoticed] at hbounded
    exact ⟨hbounded, h.sorted, h.ahead, rfl, fun r hr => (by cases hr), fun m r e he => (by cases he), h.known,
      h.digest, h.above, h.source, h.once⟩
  · exact h

/-! ### The steps of the handler -/

/-- The lock is taken or given back, and nothing is written. -/
theorem Faithful.lock (h : s.Faithful clipboardTextDigest) {engine : ClipboardSyncEngine} {handler : HandlerStage}
    (hbounded : ({ s with engine := engine, handler := handler } : Desk).Bounded)
    (hlocal : engine.lastLocalRevision = s.engine.lastLocalRevision)
    (hecho : engine.appliedRemoteEcho = s.engine.appliedRemoteEcho)
    (hwritten : ∀ operation written, s.handler ≠ .written operation written)
    (hwritten' : ∀ operation written, handler ≠ .written operation written)
    (hdigest : ∀ operation, handler.operation? = some operation →
      Operation.digest operation = clipboardTextDigest (Operation.content operation).bytes) :
    ({ s with engine := engine, handler := handler } : Desk).Faithful clipboardTextDigest := by
  have hknown : ∀ entry, s.Known clipboardTextDigest entry →
      ({ s with engine := engine, handler := handler } : Desk).Known clipboardTextDigest entry := by
    intro entry hentry
    refine hentry.mono (fun e he => he) (congrArg UInt64.toNat hlocal).ge fun digest hexpected => ?_
    exact hexpected.frame hlocal hecho hwritten
  refine ⟨hbounded, h.sorted, ?_, h.manual, ?_, ?_, hknown _ h.known, hdigest, ?_, ?_, h.once⟩
  · intro r hr
    exact (congrArg UInt64.toNat hlocal).trans_le (h.ahead r hr)
  · intro revision hrevision
    obtain ⟨hle, hlater⟩ := h.turn revision hrevision
    exact ⟨(congrArg UInt64.toNat hlocal).trans_le hle, hlater⟩
  · intro m r e he
    obtain ⟨hrevision, hentry⟩ := h.held m r e he
    exact ⟨hrevision, hknown e hentry⟩
  · intro operation written hhandler
    exact absurd hhandler (hwritten' operation written)
  · intro e he
    obtain ⟨hmem, hle⟩ := h.source e he
    exact ⟨hmem, hle.trans_eq (congrArg UInt64.toNat hlocal).symm⟩

theorem Faithful.receive (h : s.Faithful clipboardTextDigest) (peer : String) (imageAllowed : Bool)
    (operation : ClipboardBulkOperation) :
    (s.receive clipboardTextDigest peer imageAllowed operation).Faithful clipboardTextDigest := by
  have hbounded : (s.receive clipboardTextDigest peer imageAllowed operation).Bounded :=
    h.bounded.receive peer imageAllowed operation
  rcases receive_cases clipboardTextDigest s peer imageAllowed operation with
    heq | ⟨hfree, heq⟩ | ⟨hfree, -, hdigest, heq⟩
  · rw [heq]
    exact h
  · rw [heq] at hbounded ⊢
    have hwritten : ∀ o w, s.handler ≠ .written o w := by simp [hfree]
    exact h.lock hbounded rfl rfl hwritten hwritten h.digest
  · rw [heq] at hbounded ⊢
    refine h.lock hbounded rfl rfl (by simp [hfree]) (by simp) fun o ho => ?_
    obtain rfl : operation = o := Option.some.inj ho
    exact hdigest

theorem Faithful.failWrite (h : s.Faithful clipboardTextDigest) : s.failWrite.Faithful clipboardTextDigest := by
  have hbounded : s.failWrite.Bounded := h.bounded.failWrite
  unfold Desk.failWrite at hbounded ⊢
  split
  · rename_i operation happlying
    rw [happlying] at hbounded
    exact h.lock hbounded rfl rfl (by simp [happlying]) (by simp) (fun o ho => by cases ho)
  · exact h

theorem Faithful.write (h : s.Faithful clipboardTextDigest) (revision : UInt64) :
    (s.write revision).Faithful clipboardTextDigest := by
  have hbounded : (s.write revision).Bounded := h.bounded.write revision
  unfold Desk.write at hbounded ⊢
  split
  · rename_i operation happlying
    rw [happlying] at hbounded
    dsimp only at hbounded
    split_ifs at hbounded ⊢ with hlt
    · have hdigest := h.digest operation (by rw [happlying]; rfl)
      refine ⟨hbounded, h.sorted, h.ahead, h.manual, h.turn, ?_, ?_, ?_, ?_, h.source, h.once⟩
      · intro m r e he
        obtain ⟨hrevision, hentry⟩ := h.held m r e he
        refine ⟨hrevision, hentry.mono (fun e he => he) (Nat.le_refl _) fun digest hexpected => ?_⟩
        exact hexpected.frame rfl rfl (by simp [happlying])
      · exact .inr (.inr ⟨operation, revision, rfl, .inl ⟨rfl, hdigest⟩⟩)
      · intro o ho
        obtain rfl : operation = o := Option.some.inj ho
        exact hdigest
      · intro o written hhandler marked expected operationId hmark
        obtain ⟨-, rfl⟩ := HandlerStage.written.inj hhandler
        exact (h.bounded.echo marked expected operationId hmark).trans_lt hlt
    · exact h
  · exact h

/-- **The commit** leaves a mark for what was written, or a newer one. -/
theorem Expected.commit {operation : ClipboardBulkOperation} {written : UInt64}
    (h : s.Faithful clipboardTextDigest)
    (hwritten : s.handler = .written operation written) {revision : UInt64} {digest : Digest}
    (hexpected : s.Expected revision digest) : s.commit.Expected revision digest := by
  have hbehind := h.bounded.handler
  rw [hwritten] at hbehind
  have hcommit : s.commit =
      { s with engine := s.engine.commitRemote operation s.clipboard.revision, handler := .free } := by
    unfold Desk.commit
    rw [hwritten]
  rw [hcommit]
  rcases hexpected with hseen | ⟨marked, expected, operationId, hmark, hcovers⟩ | ⟨o, w, hhandler, hcovers⟩
  · exact .inl hseen
  · have hlt := h.above operation written hwritten marked expected operationId hmark
    refine .inr (.inl ⟨_, _, _, rfl, .inr ?_⟩)
    rcases hcovers with ⟨rfl, -⟩ | hlater
    · exact hlt.trans_le hbehind.1
    · exact (hlater.trans hlt).trans_le hbehind.1
  · obtain ⟨rfl, rfl⟩ := HandlerStage.written.inj (hwritten.symm.trans hhandler)
    refine .inr (.inl ⟨_, _, _, rfl, ?_⟩)
    rcases hcovers with ⟨rfl, hdigest⟩ | hlater
    · rcases Nat.lt_or_eq_of_le hbehind.1 with hlt | heq
      · exact .inr hlt
      · exact .inl ⟨(UInt64.toNat_inj.mp heq).symm, hdigest⟩
    · exact .inr (hlater.trans_le hbehind.1)

theorem Faithful.commit (h : s.Faithful clipboardTextDigest) : s.commit.Faithful clipboardTextDigest := by
  have hbounded : s.commit.Bounded := h.bounded.commit
  cases hwritten : s.handler with
  | free =>
    have hcommit : s.commit = s := by
      unfold Desk.commit
      rw [hwritten]
    rwa [hcommit]
  | applying operation =>
    have hcommit : s.commit = s := by
      unfold Desk.commit
      rw [hwritten]
    rwa [hcommit]
  | written operation written =>
    have hknown : ∀ entry, s.Known clipboardTextDigest entry → s.commit.Known clipboardTextDigest entry := by
      intro entry hentry
      refine hentry.mono ?_ ?_ fun digest => Expected.commit h hwritten
      · unfold Desk.commit
        rw [hwritten]
        exact fun e he => he
      · unfold Desk.commit
        rw [hwritten]
        exact Nat.le_refl _
    have hcommit : s.commit =
        { s with engine := s.engine.commitRemote operation s.clipboard.revision, handler := .free } := by
      unfold Desk.commit
      rw [hwritten]
    rw [hcommit] at hbounded hknown ⊢
    refine ⟨hbounded, h.sorted, h.ahead, h.manual, h.turn, ?_, hknown _ h.known, fun o ho => (by cases ho),
      fun o w hw => (by cases hw), h.source, h.once⟩
    intro m r e he
    obtain ⟨hrevision, hentry⟩ := h.held m r e he
    exact ⟨hrevision, hknown e hentry⟩

/-! ### The copy, and the observation -/

theorem Faithful.copy (h : s.Faithful clipboardTextDigest) (revision : UInt64) (content : ClipboardContent) :
    (s.copy revision content).Faithful clipboardTextDigest := by
  have hbounded : (s.copy revision content).Bounded := h.bounded.copy revision content
  unfold Desk.copy at hbounded ⊢
  split_ifs at hbounded ⊢
  · refine ⟨hbounded, h.sorted, h.ahead, h.manual, h.turn, ?_, List.mem_cons_self, h.digest, h.above, ?_, h.once⟩
    · intro m r e he
      obtain ⟨hrevision, hentry⟩ := h.held m r e he
      exact ⟨hrevision,
        hentry.mono (fun e he => List.mem_cons_of_mem _ he) (Nat.le_refl _) fun _ hexpected => hexpected⟩
    · intro e he
      obtain ⟨hmem, hle⟩ := h.source e he
      exact ⟨List.mem_cons_of_mem _ hmem, hle⟩
  · exact h

/-- **What is sent is a copy**, and it was not looked at before. -/
theorem Faithful.sends_copy (h : s.Faithful clipboardTextDigest) {revision : UInt64} {entry : Entry}
    {imageAllowed : Bool} {operation : ClipboardBulkOperation} (hfree : s.handler = .free)
    (hholding : s.observer = .holding false revision entry)
    (hlatest : s.observer.Latest s.engine.appliedRemoteEcho)
    (hsent : (s.engine.offer clipboardTextDigest imageAllowed false revision entry.content).1 = some operation) :
    entry ∈ s.copies ∧ s.engine.lastLocalRevision.toNat < revision.toNat := by
  obtain ⟨hle, -⟩ := h.turn revision (by rw [hholding]; rfl)
  obtain ⟨hrevision, hentry⟩ := h.held false revision entry hholding
  obtain ⟨hecho, hnew⟩ := ClipboardSyncEngine.offer_eq_some rfl hsent
  have hlt : s.engine.lastLocalRevision.toNat < revision.toNat := by
    rcases Nat.lt_or_eq_of_le hle with hlt | heq
    · exact hlt
    · exact absurd (UInt64.toNat_inj.mp heq).symm hnew
  refine ⟨?_, hlt⟩
  unfold Known at hentry
  rw [hrevision] at hentry
  rw [hholding] at hlatest
  split at hentry
  · omega
  · exact hentry
  · rcases hentry with hseen | ⟨marked, expected, operationId, hmark, hcovers⟩ | ⟨o, w, hwritten, -⟩
    · omega
    · unfold ObserverStage.Latest at hlatest
      rw [hmark] at hlatest
      rcases hcovers with ⟨rfl, rfl⟩ | hlater
      · have htrue := ClipboardSyncEngine.isEcho_eq_true.mpr ⟨operationId, hmark⟩
        exact absurd (htrue.symm.trans hecho) (by decide)
      · exact absurd hlatest (Nat.not_le.mpr hlater)
    · cases hfree.symm.trans hwritten

/-- What was marked is looked at, or keeps its mark. -/
theorem Faithful.known_observed (h : s.Faithful clipboardTextDigest) {revision : UInt64} {entry : Entry}
    (hfree : s.handler = .free) (hholding : s.observer = .holding false revision entry)
    (hlatest : s.observer.Latest s.engine.appliedRemoteEcho)
    (hlocal : s'.engine.lastLocalRevision = revision) (hcopies : s'.copies = s.copies) :
    s'.Known clipboardTextDigest s.clipboard := by
  obtain ⟨hle, -⟩ := h.turn revision (by rw [hholding]; rfl)
  have hgrows : s.engine.lastLocalRevision.toNat ≤ s'.engine.lastLocalRevision.toNat := by rwa [hlocal]
  refine h.known.mono (fun e he => by rwa [hcopies]) hgrows fun digest hexpected => .inl ?_
  rcases hexpected with hseen | ⟨marked, expected, operationId, hmark, hcovers⟩ | ⟨o, w, hwritten, -⟩
  · exact hseen.trans hgrows
  · rw [hholding] at hlatest
    unfold ObserverStage.Latest at hlatest
    rw [hmark] at hlatest
    rw [hlocal]
    rcases hcovers with ⟨rfl, -⟩ | hlater
    · exact hlatest
    · have hbehind := h.bounded.echo marked expected operationId hmark
      omega
  · cases hfree.symm.trans hwritten

/-- **The observation.** -/
theorem Faithful.observe (h : s.Faithful clipboardTextDigest) (imageAllowed : Bool)
    (hlatest : s.handler = .free → s.observer.Latest s.engine.appliedRemoteEcho) :
    (s.observe clipboardTextDigest imageAllowed).Faithful clipboardTextDigest := by
  have hbounded : (s.observe clipboardTextDigest imageAllowed).Bounded := h.bounded.observe imageAllowed
  rcases observe_cases clipboardTextDigest s imageAllowed with
    heq | ⟨manualResend, revision, entry, hobserver, hfree, heq⟩
  · rw [heq]
    exact h
  obtain rfl : manualResend = false := by
    have hmanual := h.manual
    rwa [hobserver] at hmanual
  have hlatest := hlatest hfree
  obtain ⟨hle, hlater⟩ := h.turn revision (by rw [hobserver]; rfl)
  have hsends : ∀ operation,
      (s.engine.offer clipboardTextDigest imageAllowed false revision entry.content).1 = some operation →
      entry ∈ s.copies ∧ s.engine.lastLocalRevision.toNat < revision.toNat :=
    fun operation => h.sends_copy hfree hobserver hlatest
  have hhandler : ∀ o w, s.handler ≠ .written o w := by simp [hfree]
  rw [heq] at hbounded ⊢
  rcases ClipboardSyncEngine.offer_cases clipboardTextDigest imageAllowed false revision
    entry.content s.engine with
    ⟨engine, hoffer, rfl | rfl⟩ | hoffer
  · rw [hoffer] at hbounded ⊢
    exact ⟨hbounded, h.sorted, h.ahead, rfl, fun r hr => (by cases hr), fun m r e he => (by cases he), h.known,
      h.digest, h.above, h.source, h.once⟩
  · rw [hoffer] at hbounded ⊢
    refine ⟨hbounded, h.sorted, hlater, rfl, fun r hr => (by cases hr),
      fun m r e he => (by cases he), ?_, h.digest, fun o w hw => absurd hw (hhandler o w), ?_, h.once⟩
    · exact h.known_observed hfree hobserver hlatest rfl rfl
    · intro e he
      obtain ⟨hmem, hseen⟩ := h.source e he
      exact ⟨hmem, hseen.trans hle⟩
  · rw [hoffer] at hbounded hsends ⊢
    obtain ⟨hcopy, hlt⟩ := hsends _ rfl
    have hrevision := (h.held false revision entry hobserver).1
    refine ⟨hbounded, h.sorted, hlater, rfl, fun r hr => (by cases hr),
      fun m r e he => (by cases he), ?_, h.digest, fun o w hw => absurd hw (hhandler o w), ?_, ?_⟩
    · exact h.known_observed hfree hobserver hlatest rfl rfl
    · intro e he
      rcases List.mem_cons.mp he with rfl | he
      · exact ⟨hcopy, (congrArg UInt64.toNat hrevision).le⟩
      · obtain ⟨hmem, hseen⟩ := h.source e he
        exact ⟨hmem, hseen.trans hle⟩
    · refine List.pairwise_cons.mpr ⟨fun e he => ?_, h.once⟩
      have hseen := (h.source e he).2
      show e.source.revision.toNat < entry.revision.toNat
      rw [hrevision]
      omega

/-- **Undisturbed steps keep the books of the observer.** -/
theorem next_faithful (h : s.Faithful clipboardTextDigest) (hundisturbed : s.Undisturbed call) :
    (s.next clipboardTextDigest call).Faithful clipboardTextDigest := by
  cases call with
  | copy revision content => exact h.copy revision content
  | report => exact h.report
  | listen => exact h.listen
  | takeTurn manualResend =>
    obtain rfl : manualResend = false := hundisturbed
    exact h.takeTurn
  | read => exact h.read hundisturbed.1 hundisturbed.2
  | skip => exact h.skip
  | observe imageAllowed => exact h.observe imageAllowed hundisturbed
  | receive peer imageAllowed operation => exact h.receive peer imageAllowed operation
  | write revision => exact h.write revision
  | failWrite => exact h.failWrite
  | commit => exact h.commit

end Desk

section Examples

/-- A copy, an operation of the peer, and another copy, each observed. -/
def sampleDay : List DeskCall :=
  [.listen, .copy 2 (.text "A")] ++ sampleTurn ++ [.receive "z-peer" false sampleIncoming, .write 3, .commit] ++
    sampleTurn ++ [.copy 4 (.text "B")] ++ sampleTurn

end Examples

end MyKvm.Clipboard
