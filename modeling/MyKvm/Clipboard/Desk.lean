import Mathlib.Data.List.TakeWhile
import MyKvm.Lib.Machine
import MyKvm.Clipboard.Steps

/-!
# MyKvm.Clipboard.Desk — one clipboard and three who use it

The user copies, the observer looks at what changed, and the handler writes what the peer sent, each in its own
time.  The observer takes three steps: it takes the revision of a change, it reads the content, and it asks the
engine.  The handler takes three as well, and holds the lock of the engine from the first to the last: decide,
write, and read the revision for the commit.  Nothing locks the clipboard itself.

* `handler_stages`: the three steps of the handler, one after the other, are `ClipboardSyncEngine.receive`.
* `next_bounded`: no revision is ahead of the clipboard's.
-/

namespace MyKvm.Clipboard

open MyKvm.Lib MyKvm.Protocol

/-- Where the clipboard numbers its contents. -/
inductive Platform where
  | windows
  | macos
  deriving DecidableEq

/-! ### What is read -/

def untilNul (text : String) : String := String.ofList (text.toList.takeWhile fun unit => unit.toNat ≠ 0)

/-- The text ends at its first NUL.  An empty one is `Empty`, as an empty handle. -/
def readWindowsTextOnce (text : String) : Option String :=
  let read := untilNul text
  if read = "" then none else some read

def readTextContent (text : String) : Option ClipboardContent := if text = "" then none else some (.text text)

/-- The read of a content which stays while it is read.  An image comes back as it went in. -/
def readContentTyped : Platform → ClipboardContent → Option ClipboardContent
  | .windows, .text value => (readWindowsTextOnce value).map .text
  | .macos, .text value => readTextContent value
  | _, .image value => some (.image value)

/-- What other programs put on the clipboard: on Windows a text is terminated by NUL. -/
def terminated : Platform → ClipboardContent → ClipboardContent
  | .windows, .text value => .text (untilNul value)
  | _, content => content

@[simp] theorem untilNul_untilNul (text : String) : untilNul (untilNul text) = untilNul text := by
  unfold untilNul
  rw [String.toList_ofList, List.takeWhile_idem]

@[simp] theorem terminated_terminated (platform : Platform) (content : ClipboardContent) :
    terminated platform (terminated platform content) = terminated platform content := by
  cases platform with
  | windows =>
    cases content with
    | text value => exact congrArg ClipboardContent.text (untilNul_untilNul value)
    | image value => rfl
  | macos => rfl

/-- What is read is the content up to its end. -/
theorem eq_terminated {platform : Platform} {content read : ClipboardContent}
    (hread : readContentTyped platform content = some read) : read = terminated platform content := by
  cases content with
  | image value =>
    cases platform with
    | windows => exact (Option.some.inj hread).symm
    | macos => exact (Option.some.inj hread).symm
  | text value =>
    cases platform with
    | windows =>
      change (readWindowsTextOnce value).map .text = some read at hread
      unfold readWindowsTextOnce at hread
      dsimp only at hread
      split_ifs at hread
      · cases hread
      · exact (Option.some.inj hread).symm
    | macos =>
      change readTextContent value = some read at hread
      unfold readTextContent at hread
      split_ifs at hread
      exact (Option.some.inj hread).symm

/-! ### The desk -/

inductive Author where
  | nobody
  | user
  | peer
  deriving DecidableEq

/-- What the clipboard holds, under the number which the platform gave it.  The author is for the
reader: no step looks at it. -/
structure Entry where
  revision : UInt64
  content : ClipboardContent
  author : Author
  deriving DecidableEq

inductive ObserverStage where
  | starting
  | waiting
  | noticed (manualResend : Bool) (systemRevision : UInt64)
  | holding (manualResend : Bool) (systemRevision : UInt64) (entry : Entry)
  deriving DecidableEq

/-- The revision which the observer has taken. -/
def ObserverStage.revision? : ObserverStage → Option UInt64
  | .noticed _ revision => some revision
  | .holding _ revision _ => some revision
  | _ => none

/-- The turn is a request to resend. -/
def ObserverStage.isManual : ObserverStage → Bool
  | .noticed manualResend _ => manualResend
  | .holding manualResend _ _ => manualResend
  | _ => false

/-- Beyond `free` the handler holds the lock. -/
inductive HandlerStage where
  | free
  | applying (operation : ClipboardBulkOperation)
  | written (operation : ClipboardBulkOperation) (revision : UInt64)
  deriving DecidableEq

/-- The operation which the lock is held for. -/
def HandlerStage.operation? : HandlerStage → Option ClipboardBulkOperation
  | .free => none
  | .applying operation => some operation
  | .written operation _ => some operation

/-- An operation which the observer sent, and what it had read. -/
structure Emission where
  source : Entry
  operation : ClipboardBulkOperation
  deriving DecidableEq

/-- `changes` are the revisions which the platform reported and the observer did not take yet, oldest first, and
`lastSequence` is the last one it took.  `copies` and `emitted` are newest first. -/
structure Desk where
  platform : Platform
  clipboard : Entry
  engine : ClipboardSyncEngine
  changes : List UInt64
  lastSequence : UInt64
  observer : ObserverStage
  handler : HandlerStage
  copies : List Entry
  emitted : List Emission

/-- Who takes the next step.  `report` is the window procedure of the listener, or
the counter of the pasteboard. -/
inductive DeskCall where
  | copy (revision : UInt64) (content : ClipboardContent)
  | report
  | listen
  | takeTurn (manualResend : Bool)
  | read
  | skip
  | observe (imageAllowed : Bool)
  | receive (authenticatedPeer : String) (imageAllowed : Bool) (operation : ClipboardBulkOperation)
  | write (revision : UInt64)
  | failWrite
  | commit
  deriving DecidableEq

namespace Desk

/-- The clipboard holds something when the engine is made; the listener is yet to start. -/
def start (platform : Platform) (engine : ClipboardSyncEngine) (content : ClipboardContent) : Desk :=
  ⟨platform, ⟨engine.lastLocalRevision, content, .nobody⟩, engine, [], engine.lastLocalRevision, .starting, .free,
    [], []⟩

section Steps

variable (clipboardTextDigest : String → Digest)

/-- The platform numbers the contents upwards. -/
def copy (s : Desk) (revision : UInt64) (content : ClipboardContent) : Desk :=
  if s.clipboard.revision.toNat < revision.toNat then
    let entry : Entry := ⟨revision, terminated s.platform content, .user⟩
    { s with clipboard := entry, copies := entry :: s.copies }
  else s

/-- `start()` of the listener reads the current revision. -/
def listen (s : Desk) : Desk :=
  match s.observer with
  | .starting => { s with lastSequence := s.clipboard.revision, observer := .waiting }
  | _ => s

/-- The loop takes a request to resend, or the next change; one which it knows already is passed over. -/
def takeTurn (s : Desk) (manualResend : Bool) : Desk :=
  match s.observer with
  | .waiting =>
    if manualResend then { s with observer := .noticed true s.lastSequence }
    else
      match s.changes with
      | [] => s
      | revision :: changes =>
        if revision = s.lastSequence then { s with changes := changes }
        else { s with changes := changes, lastSequence := revision, observer := .noticed false revision }
  | _ => s

/-- The observer reads what the clipboard holds now, and begins anew if that is nothing. -/
def read (s : Desk) : Desk :=
  match s.observer with
  | .noticed manualResend systemRevision =>
    match readContentTyped s.platform s.clipboard.content with
    | some content =>
      { s with observer := .holding manualResend systemRevision { s.clipboard with content := content } }
    | none => { s with observer := .waiting }
  | _ => s

/-- The read fails: the clipboard is busy or changes meanwhile, or its content is too long or of another kind. -/
def skip (s : Desk) : Desk :=
  match s.observer with
  | .noticed _ _ => { s with observer := .waiting }
  | _ => s

/-- The engine is asked, which takes its lock. -/
def observe (s : Desk) (imageAllowed : Bool) : Desk :=
  match s.observer, s.handler with
  | .holding manualResend systemRevision entry, .free =>
    let (operation, engine) :=
      s.engine.offer clipboardTextDigest imageAllowed manualResend systemRevision entry.content
    { s with
      engine := engine, observer := .waiting, emitted := operation.toList.map (Emission.mk entry) ++ s.emitted }
  | _, _ => s

/-- The handler takes the lock and decides. -/
def receive (s : Desk) (authenticatedPeer : String) (imageAllowed : Bool) (operation : ClipboardBulkOperation) :
    Desk :=
  match s.handler with
  | .free =>
    if ClipboardSyncEngine.isFrom operation authenticatedPeer s.engine.localPeer = false then s
    else
      let (decision, engine) := s.engine.decideRemote clipboardTextDigest imageAllowed operation
      { s with engine := engine, handler := if decision = some .apply then .applying operation else .free }
  | _ => s

/-- The clipboard takes the content of the peer, a NUL in it included. -/
def write (s : Desk) (revision : UInt64) : Desk :=
  match s.handler with
  | .applying operation =>
    if s.clipboard.revision.toNat < revision.toNat then
      { s with
        clipboard := ⟨revision, Operation.content operation, .peer⟩, handler := .written operation revision }
    else s
  | _ => s

def failWrite (s : Desk) : Desk :=
  match s.handler with
  | .applying _ => { s with handler := .free }
  | _ => s

/-- `revision_after_write` and the commit. -/
def commit (s : Desk) : Desk :=
  match s.handler with
  | .written operation _ =>
    { s with engine := s.engine.commitRemote operation s.clipboard.revision, handler := .free }
  | _ => s

def next (s : Desk) : DeskCall → Desk
  | .copy revision content => s.copy revision content
  | .report => { s with changes := s.changes ++ [s.clipboard.revision] }
  | .listen => s.listen
  | .takeTurn manualResend => s.takeTurn manualResend
  | .read => s.read
  | .skip => s.skip
  | .observe imageAllowed => s.observe clipboardTextDigest imageAllowed
  | .receive authenticatedPeer imageAllowed operation =>
    s.receive clipboardTextDigest authenticatedPeer imageAllowed operation
  | .write revision => s.write revision
  | .failWrite => s.failWrite
  | .commit => s.commit

end Steps

variable {clipboardTextDigest : String → Digest} {s : Desk}

/-- **The stages of the handler**, one after the other. -/
theorem handler_stages {peer : String} {imageAllowed : Bool} {operation : ClipboardBulkOperation}
    {revision : UInt64}
    (hfree : s.handler = .free) (hfrom : ClipboardSyncEngine.isFrom operation peer s.engine.localPeer = true)
    (hrevision : s.clipboard.revision.toNat < revision.toNat) :
    (run (next clipboardTextDigest) s [.receive peer imageAllowed operation, .write revision, .commit]).engine =
      (s.engine.receive clipboardTextDigest imageAllowed (fun _ => true) revision operation).2 := by
  rw [ClipboardSyncEngine.receive_engine]
  have hreceive : s.receive clipboardTextDigest peer imageAllowed operation =
      let decided := s.engine.decideRemote clipboardTextDigest imageAllowed operation
      { s with
        engine := decided.2, handler := if decided.1 = some .apply then .applying operation else .free } := by
    unfold receive
    rw [hfree]
    exact if_neg (ne_false_of_eq_true hfrom)
  simp only [run_cons, run_nil, next, hreceive]
  by_cases happly : (s.engine.decideRemote clipboardTextDigest imageAllowed operation).1 = some .apply
  · simp [write, commit, happly, hrevision]
  · simp [write, commit, happly]

/-! ### The steps of the observer before it asks -/

/-- What the observer looks at, and nothing else, changes. -/
def Looks (s s' : Desk) : Prop :=
  ∃ changes lastSequence observer,
    s' = { s with changes := changes, lastSequence := lastSequence, observer := observer }

theorem looks_report : s.Looks (s.next clipboardTextDigest .report) := ⟨_, _, _, rfl⟩

theorem looks_listen : s.Looks s.listen := by
  unfold listen
  split
  · exact ⟨_, _, _, rfl⟩
  · exact ⟨_, _, _, rfl⟩

theorem looks_takeTurn (manualResend : Bool) : s.Looks (s.takeTurn manualResend) := by
  unfold takeTurn
  split
  · split_ifs
    · exact ⟨_, _, _, rfl⟩
    · split
      · exact ⟨_, _, _, rfl⟩
      · split_ifs
        · exact ⟨_, _, _, rfl⟩
        · exact ⟨_, _, _, rfl⟩
  · exact ⟨_, _, _, rfl⟩

theorem looks_read : s.Looks s.read := by
  unfold read
  split
  · split
    · exact ⟨_, _, _, rfl⟩
    · exact ⟨_, _, _, rfl⟩
  · exact ⟨_, _, _, rfl⟩

theorem looks_skip : s.Looks s.skip := by
  unfold skip
  split
  · exact ⟨_, _, _, rfl⟩
  · exact ⟨_, _, _, rfl⟩

/-! ### The steps which ask the engine -/

theorem observe_cases (clipboardTextDigest : String → Digest) (s : Desk) (imageAllowed : Bool) :
    s.observe clipboardTextDigest imageAllowed = s ∨
      ∃ manualResend systemRevision entry, s.observer = .holding manualResend systemRevision entry ∧
        s.handler = .free ∧
        let answer := s.engine.offer clipboardTextDigest imageAllowed manualResend systemRevision entry.content
        s.observe clipboardTextDigest imageAllowed =
          { s with
            engine := answer.2, observer := .waiting,
            emitted := answer.1.toList.map (Emission.mk entry) ++ s.emitted } := by
  unfold observe
  split
  · rename_i manualResend systemRevision entry hobserver hfree
    exact .inr ⟨manualResend, systemRevision, entry, hobserver, hfree, rfl⟩
  · exact .inl rfl

theorem receive_cases (clipboardTextDigest : String → Digest) (s : Desk) (peer : String) (imageAllowed : Bool)
    (operation : ClipboardBulkOperation) :
    s.receive clipboardTextDigest peer imageAllowed operation = s ∨
      (s.handler = .free ∧
        s.receive clipboardTextDigest peer imageAllowed operation =
          { s with engine := s.engine.heard operation }) ∨
      (s.handler = .free ∧ s.engine.rank < Operation.order operation ∧
        Operation.digest operation = clipboardTextDigest (Operation.content operation).bytes ∧
        s.receive clipboardTextDigest peer imageAllowed operation =
          { s with engine := s.engine.heard operation, handler := .applying operation }) := by
  cases hfree : s.handler with
  | applying waiting =>
    unfold receive
    rw [hfree]
    exact .inl rfl
  | written waiting revision =>
    unfold receive
    rw [hfree]
    exact .inl rfl
  | free =>
    by_cases hfrom : ClipboardSyncEngine.isFrom operation peer s.engine.localPeer = false
    · unfold receive
      rw [hfree]
      exact .inl (if_pos hfrom)
    have hreceive : s.receive clipboardTextDigest peer imageAllowed operation =
        let decided := s.engine.decideRemote clipboardTextDigest imageAllowed operation
        { s with
          engine := decided.2, handler := if decided.1 = some .apply then .applying operation else .free } := by
      unfold receive
      rw [hfree]
      exact if_neg hfrom
    rw [hreceive]
    dsimp only
    by_cases happly : (s.engine.decideRemote clipboardTextDigest imageAllowed operation).1 = some .apply
    · obtain ⟨hlt, hdigest, hengine⟩ := ClipboardSyncEngine.decideRemote_apply happly
      rw [if_pos happly, hengine]
      exact .inr (.inr ⟨rfl, hlt, hdigest, rfl⟩)
    · rw [if_neg happly, ← hfree]
      rcases ClipboardSyncEngine.decideRemote_cases clipboardTextDigest imageAllowed operation s.engine with
        (hnone | hreject) | hcompared
      · rw [hnone]
        exact .inl rfl
      · rw [hreject]
        exact .inl rfl
      · rw [hcompared]
        exact .inr (.inl ⟨rfl, rfl⟩)

end Desk

/-! ### Nobody is ahead of the clipboard -/

/-- What the observer knows is as old as the clipboard; what it read of a copy with its number is the copy. -/
def ObserverStage.Behind (clipboard : Entry) : ObserverStage → Prop
  | .noticed _ revision => revision.toNat ≤ clipboard.revision.toNat
  | .holding _ revision entry => revision.toNat ≤ entry.revision.toNat ∧
      entry.revision.toNat ≤ clipboard.revision.toNat ∧
      (entry.revision = clipboard.revision → clipboard.author = .user → entry = clipboard)
  | _ => True

/-- What the handler wrote is as old as the clipboard; if it is what the clipboard
holds, the peer is the author. -/
def HandlerStage.Behind (clipboard : Entry) : HandlerStage → Prop
  | .written _ revision => revision.toNat ≤ clipboard.revision.toNat ∧
      (clipboard.revision = revision → clipboard.author = .peer)
  | _ => True

theorem ObserverStage.Behind.mono {clipboard entry : Entry} {stage : ObserverStage} (h : stage.Behind clipboard)
    (hlt : clipboard.revision.toNat < entry.revision.toNat) : stage.Behind entry := by
  cases stage with
  | starting => trivial
  | waiting => trivial
  | noticed manualResend revision => exact Nat.le_trans h (Nat.le_of_lt hlt)
  | holding manualResend revision held =>
    obtain ⟨hread, hle, -⟩ := h
    refine ⟨hread, Nat.le_trans hle (Nat.le_of_lt hlt), fun hsame => ?_⟩
    rw [hsame] at hle
    omega

theorem HandlerStage.Behind.mono {clipboard entry : Entry} {stage : HandlerStage} (h : stage.Behind clipboard)
    (hlt : clipboard.revision.toNat < entry.revision.toNat) : stage.Behind entry := by
  cases stage with
  | free => trivial
  | applying operation => trivial
  | written operation revision =>
    obtain ⟨hle, -⟩ := h
    refine ⟨Nat.le_trans hle (Nat.le_of_lt hlt), fun hsame => ?_⟩
    rw [← hsame] at hle
    omega

namespace Desk

variable {clipboardTextDigest : String → Digest} {s : Desk} {call : DeskCall}

structure Bounded (s : Desk) : Prop where
  changes : ∀ revision ∈ s.changes, revision.toNat ≤ s.clipboard.revision.toNat
  lastSequence : s.lastSequence.toNat ≤ s.clipboard.revision.toNat
  lastLocal : s.engine.lastLocalRevision.toNat ≤ s.clipboard.revision.toNat
  echo : ∀ revision digest operationId, s.engine.appliedRemoteEcho = some (revision, digest, operationId) →
    revision.toNat ≤ s.clipboard.revision.toNat
  observer : s.observer.Behind s.clipboard
  handler : s.handler.Behind s.clipboard
  copies : ∀ entry ∈ s.copies, entry.author = .user ∧ entry.revision.toNat ≤ s.clipboard.revision.toNat
  ended : ∀ entry ∈ s.copies, terminated s.platform entry.content = entry.content
  user : s.clipboard.author = .user → s.clipboard ∈ s.copies

theorem start_bounded {engine : ClipboardSyncEngine} (hmade : engine.appliedRemoteEcho = none)
    (platform : Platform) (content : ClipboardContent) : (start platform engine content).Bounded where
  changes revision h := by cases h
  lastSequence := Nat.le_refl _
  lastLocal := Nat.le_refl _
  echo revision digest operationId h := by
    rw [show (start platform engine content).engine.appliedRemoteEcho = none from hmade] at h
    cases h
  observer := trivial
  handler := trivial
  copies entry h := by cases h
  ended entry h := by cases h
  user h := by cases h

theorem Bounded.copy (h : s.Bounded) (revision : UInt64) (content : ClipboardContent) :
    (s.copy revision content).Bounded := by
  unfold Desk.copy
  split_ifs with hlt
  · have hle := Nat.le_of_lt hlt
    refine ⟨fun r hr => (h.changes r hr).trans hle, h.lastSequence.trans hle, h.lastLocal.trans hle,
      fun r digest id hr => (h.echo r digest id hr).trans hle, h.observer.mono hlt, h.handler.mono hlt, ?_, ?_,
      fun _ => List.mem_cons_self⟩
    · intro entry hentry
      rcases List.mem_cons.mp hentry with rfl | hentry
      · exact ⟨rfl, Nat.le_refl _⟩
      · exact ⟨(h.copies entry hentry).1, (h.copies entry hentry).2.trans hle⟩
    · intro entry hentry
      rcases List.mem_cons.mp hentry with rfl | hentry
      · exact terminated_terminated s.platform content
      · exact h.ended entry hentry
  · exact h

theorem Bounded.report (h : s.Bounded) : (s.next clipboardTextDigest .report).Bounded := by
  refine ⟨fun r hr => ?_, h.lastSequence, h.lastLocal, h.echo, h.observer, h.handler, h.copies, h.ended, h.user⟩
  rcases List.mem_append.mp hr with hr | hr
  · exact h.changes r hr
  · rw [List.mem_singleton.mp hr]
    exact Nat.le_refl _

theorem Bounded.listen (h : s.Bounded) : s.listen.Bounded := by
  unfold Desk.listen
  split
  · exact ⟨h.changes, Nat.le_refl _, h.lastLocal, h.echo, trivial, h.handler, h.copies, h.ended, h.user⟩
  · exact h

theorem Bounded.takeTurn (h : s.Bounded) (manualResend : Bool) : (s.takeTurn manualResend).Bounded := by
  unfold Desk.takeTurn
  split
  · split_ifs
    · exact ⟨h.changes, h.lastSequence, h.lastLocal, h.echo, h.lastSequence, h.handler, h.copies, h.ended, h.user⟩
    · split
      · exact h
      · rename_i revision changes hchanges
        have hrest : ∀ r ∈ changes, r.toNat ≤ s.clipboard.revision.toNat := fun r hr =>
          h.changes r (hchanges ▸ List.mem_cons_of_mem revision hr)
        have hfirst : revision.toNat ≤ s.clipboard.revision.toNat :=
          h.changes revision (hchanges ▸ List.mem_cons_self)
        split_ifs
        · exact ⟨hrest, h.lastSequence, h.lastLocal, h.echo, h.observer, h.handler, h.copies, h.ended, h.user⟩
        · exact ⟨hrest, hfirst, h.lastLocal, h.echo, hfirst, h.handler, h.copies, h.ended, h.user⟩
  · exact h

/-- A copy is read as it is. -/
theorem Bounded.read_copy (h : s.Bounded) (huser : s.clipboard.author = .user) {content : ClipboardContent}
    (hread : readContentTyped s.platform s.clipboard.content = some content) : content = s.clipboard.content :=
  (eq_terminated hread).trans (h.ended _ (h.user huser))

theorem Bounded.read (h : s.Bounded) : s.read.Bounded := by
  unfold Desk.read
  split
  · rename_i manualResend revision hobserver
    have hbehind := h.observer
    rw [hobserver] at hbehind
    split
    · rename_i content hread
      refine ⟨h.changes, h.lastSequence, h.lastLocal, h.echo,
        ⟨hbehind, Nat.le_refl _, fun _ huser => ?_⟩, h.handler, h.copies, h.ended, h.user⟩
      rw [h.read_copy huser hread]
    · exact ⟨h.changes, h.lastSequence, h.lastLocal, h.echo, trivial, h.handler, h.copies, h.ended, h.user⟩
  · exact h

theorem Bounded.skip (h : s.Bounded) : s.skip.Bounded := by
  unfold Desk.skip
  split
  · exact ⟨h.changes, h.lastSequence, h.lastLocal, h.echo, trivial, h.handler, h.copies, h.ended, h.user⟩
  · exact h

theorem Bounded.observe (h : s.Bounded) (imageAllowed : Bool) :
    (s.observe clipboardTextDigest imageAllowed).Bounded := by
  rcases observe_cases clipboardTextDigest s imageAllowed with
    heq | ⟨manualResend, revision, entry, hobserver, hfree, heq⟩
  · rw [heq]
    exact h
  rw [heq]
  have hbehind := h.observer
  rw [hobserver] at hbehind
  have hrevision : revision.toNat ≤ s.clipboard.revision.toNat := hbehind.1.trans hbehind.2.1
  rcases ClipboardSyncEngine.offer_marks clipboardTextDigest imageAllowed manualResend revision entry.content
    s.engine with ⟨hlocal, hecho⟩ | ⟨hlocal, hecho⟩
  · refine ⟨h.changes, h.lastSequence, ?_, ?_, trivial, h.handler, h.copies, h.ended, h.user⟩
    · exact (congrArg UInt64.toNat hlocal).trans_le h.lastLocal
    · exact fun r digest id hr => h.echo r digest id (hecho.symm.trans hr)
  · refine ⟨h.changes, h.lastSequence, ?_, ?_, trivial, h.handler, h.copies, h.ended, h.user⟩
    · exact (congrArg UInt64.toNat hlocal).trans_le hrevision
    · intro r digest id hr
      cases hecho.symm.trans hr

theorem Bounded.receive (h : s.Bounded) (peer : String) (imageAllowed : Bool)
    (operation : ClipboardBulkOperation) :
    (s.receive clipboardTextDigest peer imageAllowed operation).Bounded := by
  rcases receive_cases clipboardTextDigest s peer imageAllowed operation with heq | ⟨-, heq⟩ | ⟨-, -, -, heq⟩
  · rw [heq]
    exact h
  · rw [heq]
    exact ⟨h.changes, h.lastSequence, h.lastLocal, h.echo, h.observer, h.handler, h.copies, h.ended, h.user⟩
  · rw [heq]
    exact ⟨h.changes, h.lastSequence, h.lastLocal, h.echo, h.observer, trivial, h.copies, h.ended, h.user⟩

theorem Bounded.write (h : s.Bounded) (revision : UInt64) : (s.write revision).Bounded := by
  unfold Desk.write
  split
  · split_ifs with hlt
    · have hle := Nat.le_of_lt hlt
      exact ⟨fun r hr => (h.changes r hr).trans hle, h.lastSequence.trans hle, h.lastLocal.trans hle,
        fun r digest id hr => (h.echo r digest id hr).trans hle, h.observer.mono hlt,
        ⟨Nat.le_refl _, fun _ => rfl⟩, fun entry hentry => ⟨(h.copies entry hentry).1,
          (h.copies entry hentry).2.trans hle⟩, h.ended, fun huser => (by cases huser)⟩
    · exact h
  · exact h

theorem Bounded.failWrite (h : s.Bounded) : s.failWrite.Bounded := by
  unfold Desk.failWrite
  split
  · exact ⟨h.changes, h.lastSequence, h.lastLocal, h.echo, h.observer, trivial, h.copies, h.ended, h.user⟩
  · exact h

theorem Bounded.commit (h : s.Bounded) : s.commit.Bounded := by
  unfold Desk.commit
  split
  · refine ⟨h.changes, h.lastSequence, h.lastLocal, ?_, h.observer, trivial, h.copies, h.ended, h.user⟩
    intro r digest id hr
    obtain ⟨rfl, -⟩ := Prod.mk.inj (Option.some.inj hr)
    exact Nat.le_refl _
  · exact h

/-- **No revision is ahead of the clipboard's.** -/
theorem next_bounded (h : s.Bounded) : (s.next clipboardTextDigest call).Bounded := by
  cases call with
  | copy revision content => exact h.copy revision content
  | report => exact h.report
  | listen => exact h.listen
  | takeTurn manualResend => exact h.takeTurn manualResend
  | read => exact h.read
  | skip => exact h.skip
  | observe imageAllowed => exact h.observe imageAllowed
  | receive peer imageAllowed operation => exact h.receive peer imageAllowed operation
  | write revision => exact h.write revision
  | failWrite => exact h.failWrite
  | commit => exact h.commit

end Desk

end MyKvm.Clipboard
