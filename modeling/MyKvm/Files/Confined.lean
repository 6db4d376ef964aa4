import MyKvm.Files.Reproduction
import MyKvm.Lib.Machine

/-!
# MyKvm.Files.Confined — where received files may end up

Packets come from the network: any packets, in any order, of as many transfers at once as there are ids.  Whatever
they ask for, the receiver stays inside its directory, which it makes if it is missing, and it takes nothing away
from the files which stood there before.

* `handle_changes`: which paths one packet can change, and which paths it makes a transfer name.
* `transfers_confined`: what follows for every run.
-/

namespace MyKvm.Files

open MyKvm.Lib MyKvm.Settings

/-! ### Names -/

/-- The text has no separator of paths. -/
def Unslashed (text : String) : Prop := ∀ c ∈ text.toList, c ≠ '/' ∧ c ≠ '\\'

instance (text : String) : Decidable (Unslashed text) :=
  List.decidableBAll (fun c => c ≠ '/' ∧ c ≠ '\\') text.toList

/-- A name for an entry of a directory. -/
def Plain (name : String) : Prop := Unslashed name ∧ name ≠ "" ∧ name ≠ "." ∧ name ≠ ".."

/-- The path is that of an entry of the directory. -/
def Inside (root path : String) : Prop := ∃ name, Plain name ∧ path = join root name

/-- The path is that of a temporary file. -/
def Temporary (root path : String) : Prop :=
  ∃ id fileName, path = join root (".mykvm-" ++ id ++ "-" ++ fileName ++ ".part")

theorem Unslashed.append {front back : String} (hfront : Unslashed front) (hback : Unslashed back) :
    Unslashed (front ++ back) := by
  intro c hc
  rw [String.toList_append] at hc
  rcases List.mem_append.mp hc with hc | hc
  · exact hfront c hc
  · exact hback c hc

/-- A name which does not consist of dots. -/
theorem plain_of_mem {name : String} {c : Char} (h : Unslashed name) (hc : c ∈ name.toList) (hdot : c ≠ '.') :
    Plain name := by
  refine ⟨h, ?_, ?_, ?_⟩ <;> rintro rfl <;> simp at hc <;> exact hdot hc

theorem safeCharacter_ne {c : Char} (h : safeCharacter c = c) : c ≠ '/' ∧ c ≠ '\\' := by
  constructor <;> rintro rfl <;> exact absurd h (by decide)

theorem sanitize_plain {name fileName : String} (h : sanitizeTransferFileName name = some fileName) :
    Plain fileName := by
  rw [sanitize_eq] at h
  split at h
  · cases h
  next hkept =>
  obtain rfl := Option.some.inj h
  have hwithin : bare (written name) <:+: writeSafely 0 (trim name.toList) :=
    ((trimMatches_within _ _).trans (trimMatches_within _ _)).trans (trimMatches_within _ _)
  push Not at hkept
  refine ⟨fun c hc => ?_, fun hnil => ?_, fun hdot => ?_, fun hdots => ?_⟩
  · rw [String.toList_ofList] at hc
    exact safeCharacter_ne (writeSafely_safe (hwithin.subset hc))
  · exact hkept.1 (by simpa using congrArg String.toList hnil)
  · exact hkept.2.1 (by simpa using congrArg String.toList hdot)
  · exact hkept.2.2 (by simpa using congrArg String.toList hdots)

example : sanitizeTransferFileName "../../.profile" = some "_.._.profile" := by decide

theorem mem_splitAtDot (name : List Char) :
    (splitAtDot name).1 ⊆ name ∧ ∀ extension, (splitAtDot name).2 = some extension → extension ⊆ name := by
  have hself : name ⊆ name ∧ ∀ extension, (none : Option (List Char)) = some extension → extension ⊆ name :=
    ⟨List.Subset.refl _, nofun⟩
  unfold splitAtDot
  split
  · rename_i stem hstem
    split
    · exact hself
    · have hsuffix : '.' :: stem ⊆ name.reverse := by
        rw [← hstem]
        exact (List.dropWhile_suffix _).subset
      refine ⟨fun c hc => ?_, fun extension hextension c hc => ?_⟩
      · exact List.mem_reverse.mp (hsuffix (List.mem_cons_of_mem _ (List.mem_reverse.mp hc)))
      · obtain rfl := Option.some.inj hextension
        exact List.mem_reverse.mp ((List.takeWhile_prefix _).subset (List.mem_reverse.mp hc))
  · exact hself

theorem fileStem_unslashed {fileName : String} (h : Unslashed fileName) : Unslashed (fileStem fileName) := by
  unfold fileStem
  dsimp only
  split
  · decide
  · intro c hc
    rw [String.toList_ofList] at hc
    exact h c ((mem_splitAtDot _).1 hc)

theorem fileExtension_unslashed {fileName : String} (h : Unslashed fileName) :
    Unslashed (fileExtension fileName) := by
  unfold fileExtension
  split
  · rename_i extension hextension
    refine Unslashed.append (by decide) fun c hc => ?_
    rw [String.toList_ofList] at hc
    exact h c ((mem_splitAtDot _).2 extension hextension hc)
  · decide

theorem isAlphanum_ne {c : Char} (h : c.isAlphanum = true) : c ≠ '/' ∧ c ≠ '\\' := by
  constructor <;> rintro rfl <;> exact absurd h (by decide)

theorem repr_unslashed (n : ℕ) : Unslashed (Nat.repr n) := by
  intro c hc
  rw [Nat.repr, String.toList_ofList] at hc
  have hdigit := Nat.isDigit_of_mem_toDigits (by decide) (by decide) hc
  exact isAlphanum_ne (by simp [Char.isAlphanum, hdigit])

theorem randomHex_unslashed (bytes : List UInt8) : Unslashed (randomHex bytes) := by
  have hdigit : ∀ n < 16, Nat.digitChar n ≠ '/' ∧ Nat.digitChar n ≠ '\\' := by decide
  intro c hc
  rw [randomHex, String.toList_ofList] at hc
  obtain ⟨byte, -, hc⟩ := List.mem_flatMap.mp hc
  have hlt := byte.toNat_lt
  rcases List.mem_cons.mp hc with rfl | hc
  · exact hdigit _ (by omega)
  · rw [List.mem_singleton.mp hc]
    exact hdigit _ (by omega)

theorem sanitizeTransferId_unslashed (transferId : String) (drawn : List UInt8) :
    Unslashed (sanitizeTransferId transferId drawn) := by
  unfold sanitizeTransferId
  dsimp only
  split
  · exact randomHex_unslashed drawn
  · intro c hc
    rw [String.toList_ofList] at hc
    have hkept := (List.mem_filter.mp (List.mem_of_mem_take hc)).2
    rcases Bool.or_eq_true_iff.mp hkept with hkept | hkept
    · exact isAlphanum_ne hkept
    · rw [beq_iff_eq.mp hkept]
      decide

theorem destination_inside (disk : Disk) {root fileName : String} (h : Plain fileName) (suffix : List UInt8) :
    Inside root (uniqueTransferDestination disk root fileName suffix) := by
  have hstem := fileStem_unslashed h.1
  have hextension := fileExtension_unslashed h.1
  unfold uniqueTransferDestination
  split
  · exact ⟨fileName, h, rfl⟩
  · dsimp only
    split
    · rename_i index _
      refine ⟨_, plain_of_mem (c := '(') ?_ ?_ (by decide), rfl⟩
      · exact (((hstem.append (by decide)).append (repr_unslashed index)).append (by decide)).append hextension
      · simp [String.toList_append]
    · refine ⟨_, plain_of_mem (c := '-') ?_ ?_ (by decide), rfl⟩
      · exact ((hstem.append (by decide)).append (randomHex_unslashed suffix)).append hextension
      · simp [String.toList_append]

theorem tempPath_inside {root transferId fileName : String} {drawn : Drawn} (h : Plain fileName) :
    Inside root (tempPath root transferId fileName drawn) := by
  refine ⟨_, plain_of_mem (c := 'm') ?_ ?_ (by decide), rfl⟩
  · have hid := sanitizeTransferId_unslashed transferId drawn.id
    exact (((Unslashed.append (by decide) hid).append (by decide)).append h.1).append (by decide)
  · simp [String.toList_append]

theorem tempPath_temporary (root transferId fileName : String) (drawn : Drawn) :
    Temporary root (tempPath root transferId fileName drawn) := ⟨_, _, rfl⟩

/-! ### What one packet changes -/

/-- The path is that of a directory, or of one above it, which is made. -/
structure Made (root path : String) (disk disk' : Disk) : Prop where
  above : path ∈ root :: parents root
  missing : disk path = none
  made : disk' path = some .directory

/-- What a packet leaves of a receiver, if it is told `transferId` and `rawName`: at most the directory is made,
and the files of this transfer and of those under way change. -/
structure Changes (root transferId rawName : String) (drawn : Drawn) (s s' : Receiver) : Prop where
  disk : ∀ path, s'.disk path ≠ s.disk path → Made root path s.disk s'.disk ∨
    (∃ fileName, sanitizeTransferFileName rawName = some fileName ∧
      path = tempPath root transferId fileName drawn) ∨
    ∃ id transfer, s.transfers id = some transfer ∧ (path = transfer.tempPath ∨ path = transfer.finalPath)
  transfers : ∀ id transfer, s'.transfers id = some transfer →
    (∃ before, s.transfers id = some before ∧ transfer.tempPath = before.tempPath ∧
      transfer.finalPath = before.finalPath) ∨
    ∃ fileName, sanitizeTransferFileName rawName = some fileName ∧
      transfer.tempPath = tempPath root transferId fileName drawn ∧
      transfer.finalPath = uniqueTransferDestination s.disk root fileName drawn.suffix

theorem Changes.refl (root transferId rawName : String) (drawn : Drawn) (s : Receiver) :
    Changes root transferId rawName drawn s s :=
  ⟨fun _ h => absurd rfl h, fun _ transfer h => .inl ⟨transfer, h, rfl, rfl⟩⟩

section Disk

variable {disk disk' : Disk} {path other : String}

theorem createDirAll_join {name : String} (h : disk.createDirAll path = some disk') :
    disk' (join path name) = disk (join path name) := by
  unfold Disk.createDirAll at h
  split at h
  · simp at h
  · obtain rfl := Option.some.inj h
    exact makeDirs_join disk path name

/-- What changes when a directory is made was missing for it. -/
theorem createDirAll_made (h : disk.createDirAll path = some disk') (hchanged : disk' other ≠ disk other) :
    Made path other disk disk' := by
  unfold Disk.createDirAll at h
  split at h
  · simp at h
  · rename_i hnone
    obtain rfl := Option.some.inj h
    by_cases hmissing : other ∈ disk.missing path
    · have habsent : disk other = none := by
        by_contra hsome
        exact hnone ⟨other, hmissing, Option.isSome_iff_ne_none.mpr hsome⟩
      exact ⟨mem_of_mem_missing hmissing, habsent, if_pos hmissing⟩
    · exact absurd (if_neg hmissing) hchanged

theorem create_other (h : disk.create path = some disk') (hother : other ≠ path) : disk' other = disk other := by
  unfold Disk.create at h
  split at h
  · simp at h
  · obtain rfl := Option.some.inj h
    exact Function.update_of_ne hother _ _

theorem append_other {data : List UInt8} (h : disk.append path data = some disk') (hother : other ≠ path) :
    disk' other = disk other := by
  unfold Disk.append at h
  split at h
  · obtain rfl := Option.some.inj h
    exact Function.update_of_ne hother _ _
  · simp at h

theorem removeFile_other (hother : other ≠ path) : disk.removeFile path other = disk other := by
  rw [Disk.removeFile]
  cases disk path with
  | none => rfl
  | some entry =>
    cases entry with
    | file bytes => exact Function.update_of_ne hother _ _
    | directory => rfl

theorem removePrevious_other {previous : Option IncomingFileTransfer}
    (hother : ∀ transfer, previous = some transfer → other ≠ transfer.tempPath) :
    removePrevious disk previous other = disk other := by
  cases previous with
  | none => rfl
  | some transfer => exact removeFile_other (hother transfer rfl)

theorem rename_other {target : String} (h : disk.rename path target = some disk') (hpath : other ≠ path)
    (htarget : other ≠ target) : disk' other = disk other := by
  unfold Disk.rename at h
  split at h
  · simp at h
  · obtain rfl := Option.some.inj h
    rw [Function.update_of_ne htarget, Function.update_of_ne hpath]
  · simp at h

end Disk

section Packets

variable {packet : FileTransferPacket} {root : String} {drawn : Drawn} {s : Receiver}

theorem start_changes (packet : FileTransferPacket) (root : String) (drawn : Drawn) (s : Receiver) :
    Changes root packet.transferId packet.fileName drawn s (startIncomingFileTransfer packet root drawn s).2 := by
  unfold startIncomingFileTransfer
  split
  · exact .refl ..
  split
  · exact .refl ..
  rename_i fileName hname
  split
  · exact .refl ..
  rename_i prepared hprepared
  -- up to here only the directory and the file of an earlier transfer of this id can have changed
  have hbefore : ∀ path, removePrevious prepared (s.transfers packet.transferId) path ≠ s.disk path →
      Made root path s.disk (removePrevious prepared (s.transfers packet.transferId)) ∨
      ∃ id transfer, s.transfers id = some transfer ∧ (path = transfer.tempPath ∨ path = transfer.finalPath) := by
    intro path hchanged
    refine or_iff_not_imp_right.mpr fun hnone => ?_
    have hprevious : removePrevious prepared (s.transfers packet.transferId) path = prepared path :=
      removePrevious_other fun transfer htransfer heq => hnone ⟨_, transfer, htransfer, .inl heq⟩
    rw [hprevious] at hchanged
    have hmade := createDirAll_made hprepared hchanged
    exact ⟨hmade.above, hmade.missing, hprevious.trans hmade.made⟩
  have hothers : ∀ id transfer, Function.update s.transfers packet.transferId none id = some transfer →
      s.transfers id = some transfer := by
    intro id transfer htransfer
    by_cases hid : id = packet.transferId
    · simp [hid] at htransfer
    · rwa [Function.update_of_ne hid] at htransfer
  dsimp only
  split
  · refine ⟨fun path hchanged => ?_, fun id transfer htransfer => ?_⟩
    · rcases hbefore path hchanged with hmade | hold
      · exact .inl hmade
      · exact .inr (.inr hold)
    · exact .inl ⟨transfer, hothers id transfer htransfer, rfl, rfl⟩
  rename_i created hcreated
  refine ⟨fun path hchanged => ?_, fun id transfer htransfer => ?_⟩
  · by_cases htemp : path = tempPath root packet.transferId fileName drawn
    · exact .inr (.inl ⟨fileName, hname, htemp⟩)
    · have hsame := create_other hcreated htemp
      dsimp only at hchanged
      rw [hsame] at hchanged
      rcases hbefore path hchanged with hmade | hold
      · exact .inl ⟨hmade.above, hmade.missing, hsame.trans hmade.made⟩
      · exact .inr (.inr hold)
  · dsimp only at htransfer
    by_cases hid : id = packet.transferId
    · rw [hid, Function.update_self] at htransfer
      obtain rfl := Option.some.inj htransfer
      refine .inr ⟨fileName, hname, rfl, ?_⟩
      exact uniqueTransferDestination_congr (fun name => createDirAll_join hprepared) _ _
    · rw [Function.update_of_ne hid] at htransfer
      exact .inl ⟨transfer, hothers id transfer htransfer, rfl, rfl⟩

theorem append_changes (packet : FileTransferPacket) (root : String) (drawn : Drawn) (s : Receiver) :
    Changes root packet.transferId packet.fileName drawn s (appendIncomingFileTransferChunk packet s).2 := by
  unfold appendIncomingFileTransferChunk
  split
  · exact .refl ..
  split
  · exact .refl ..
  rename_i transfer htransfer
  dsimp only
  split
  · exact .refl ..
  split
  · exact .refl ..
  rename_i appended happended
  refine ⟨fun path hchanged => ?_, fun id other hother => ?_⟩
  · refine .inr (.inr ⟨_, transfer, htransfer, .inl (by_contra fun hne => hchanged ?_)⟩)
    exact append_other happended hne
  · dsimp only at hother
    by_cases hid : id = packet.transferId
    · rw [hid, Function.update_self] at hother
      obtain rfl := Option.some.inj hother
      exact .inl ⟨transfer, hid ▸ htransfer, rfl, rfl⟩
    · rw [Function.update_of_ne hid] at hother
      exact .inl ⟨other, hother, rfl, rfl⟩

theorem finish_changes (packet : FileTransferPacket) (root : String) (drawn : Drawn) (s : Receiver) :
    Changes root packet.transferId packet.fileName drawn s (finishIncomingFileTransfer packet s).2 := by
  unfold finishIncomingFileTransfer
  split
  · exact .refl ..
  split
  · exact .refl ..
  rename_i transfer htransfer
  split
  · exact .refl ..
  split
  · exact .refl ..
  rename_i renamed hrenamed
  refine ⟨fun path hchanged => ?_, fun id other hother => ?_⟩
  · refine .inr (.inr ⟨_, transfer, htransfer, ?_⟩)
    by_contra hne
    push Not at hne
    exact hchanged (rename_other hrenamed hne.1 hne.2)
  · dsimp only at hother
    by_cases hid : id = packet.transferId
    · simp [hid] at hother
    · rw [Function.update_of_ne hid] at hother
      exact .inl ⟨other, hother, rfl, rfl⟩

/-- **What one packet changes**, whatever it says. -/
theorem handle_changes (setup : ReceiverSetup) (packet : FileTransferPacket) (s : Receiver) :
    Changes setup.root packet.transferId packet.fileName setup.drawn s
      (handleDecodedFileTransferPacket setup packet s).2 := by
  unfold handleDecodedFileTransferPacket
  split_ifs
  · exact .refl ..
  · exact .refl ..
  · exact .refl ..
  · exact .refl ..
  · exact .refl ..
  · exact start_changes ..
  · exact append_changes ..
  · exact finish_changes ..
  · exact .refl ..

end Packets

/-! ### Runs -/

/-- A packet, with what the receiver knows and draws when it comes. -/
structure Arrival where
  layout : LayoutState
  localPeerId : String
  drawn : Drawn
  packet : FileTransferPacket

def Arrival.setup (arrival : Arrival) (root : String) : ReceiverSetup :=
  ⟨arrival.layout, arrival.localPeerId, root, arrival.drawn⟩

def arrive (root : String) (s : Receiver) (arrival : Arrival) : Receiver :=
  (handleDecodedFileTransferPacket (arrival.setup root) arrival.packet s).2

/-- The packet is one for this machine, by one it trusts. -/
def admitted (arrival : Arrival) : Bool :=
  arrival.packet.protocol = fileTransferProtocol && arrival.layout.fileTransferEnabled &&
    fileTransferPacketAuthorized arrival.layout arrival.packet &&
    fileTransferPacketTargetsLocal arrival.layout arrival.packet arrival.localPeerId

/-- The place chosen for the file is free: when all 9,999 numbered names are taken, the
one drawn at random is not. -/
def PlaceFree (root : String) (s : Receiver) (arrival : Arrival) : Prop :=
  ∀ fileName, sanitizeTransferFileName arrival.packet.fileName = some fileName →
    s.disk (uniqueTransferDestination s.disk root fileName arrival.drawn.suffix) = none

theorem arrive_not_admitted (root : String) (s : Receiver) {arrival : Arrival} (h : admitted arrival = false) :
    arrive root s arrival = s := by
  unfold arrive handleDecodedFileTransferPacket Arrival.setup
  split_ifs with hprotocol henabled hauthorized htargets
  · rfl
  · rfl
  · rfl
  · rfl
  -- past the four checks the packet is admitted
  all_goals
    simp only [ne_eq, not_not, Bool.not_eq_true', Bool.not_eq_false] at hprotocol henabled hauthorized htargets
    exact absurd h (by simp [admitted, hprotocol, henabled, hauthorized, htargets])

section Runs

variable {root : String} {old : Disk} {s : Receiver}

/-- All that has changed, and all that may, is inside the directory, unless it was made for it. -/
structure Confined (root : String) (old : Disk) (s : Receiver) : Prop where
  disk : ∀ path, s.disk path ≠ old path → Made root path old s.disk ∨ Inside root path
  transfers : ∀ id transfer, s.transfers id = some transfer →
    Inside root transfer.tempPath ∧ Inside root transfer.finalPath

theorem confined_arrive (s : Receiver) (arrival : Arrival) (h : Confined root old s) :
    Confined root old (arrive root s arrival) := by
  have hchanges := handle_changes (arrival.setup root) arrival.packet s
  refine ⟨fun path hpath => ?_, fun id transfer htransfer => ?_⟩
  · by_cases hsame : (arrive root s arrival).disk path = s.disk path
    · rcases h.disk path (hsame ▸ hpath) with hmade | hinside
      · exact .inl ⟨hmade.above, hmade.missing, hsame.trans hmade.made⟩
      · exact .inr hinside
    rcases hchanges.disk path hsame with hnow | ⟨fileName, hname, rfl⟩ | ⟨id, transfer, htransfer, rfl | rfl⟩
    · by_cases hbefore : s.disk path = old path
      · exact .inl ⟨hnow.above, hbefore ▸ hnow.missing, hnow.made⟩
      -- what has been made is there, so it is not made again
      rcases h.disk path hbefore with hmade | hinside
      · exact absurd (hnow.missing.symm.trans hmade.made) (by simp)
      · exact .inr hinside
    · exact .inr (tempPath_inside (sanitize_plain hname))
    · exact .inr (h.transfers id transfer htransfer).1
    · exact .inr (h.transfers id transfer htransfer).2
  · rcases hchanges.transfers id transfer htransfer with ⟨before, hbefore, htemp, hfinal⟩ |
      ⟨fileName, hname, htemp, hfinal⟩
    · rw [htemp, hfinal]
      exact h.transfers id before hbefore
    · rw [htemp, hfinal]
      exact ⟨tempPath_inside (sanitize_plain hname), destination_inside _ (sanitize_plain hname) _⟩

/-- The files which were there before are there still, and no transfer is going to replace one. -/
structure Spared (root : String) (old : Disk) (s : Receiver) : Prop where
  disk : ∀ path bytes, old path = some (.file bytes) → ¬ Temporary root path → s.disk path = some (.file bytes)
  transfers : ∀ id transfer, s.transfers id = some transfer → Temporary root transfer.tempPath ∧
    ∀ bytes, old transfer.finalPath = some (.file bytes) → Temporary root transfer.finalPath

theorem spared_arrive (s : Receiver) (arrival : Arrival) (h : Spared root old s)
    (hfree : PlaceFree root s arrival) :
    Spared root old (arrive root s arrival) := by
  have hchanges := handle_changes (arrival.setup root) arrival.packet s
  refine ⟨fun path bytes hpath hlasting => ?_, fun id transfer htransfer => ?_⟩
  · have hfile := h.disk path bytes hpath hlasting
    by_cases hsame : (arrive root s arrival).disk path = s.disk path
    · rw [hsame, hfile]
    rcases hchanges.disk path hsame with hmade | ⟨fileName, hname, rfl⟩ | ⟨id, transfer, htransfer, rfl | rfl⟩
    · exact absurd (hmade.missing.symm.trans hfile) (by simp)
    · exact absurd (tempPath_temporary _ _ _ _) hlasting
    · exact absurd (h.transfers id transfer htransfer).1 hlasting
    · exact absurd ((h.transfers id transfer htransfer).2 bytes hpath) hlasting
  · rcases hchanges.transfers id transfer htransfer with ⟨before, hbefore, htemp, hfinal⟩ |
      ⟨fileName, hname, htemp, hfinal⟩
    · rw [htemp, hfinal]
      exact h.transfers id before hbefore
    · rw [htemp, hfinal]
      refine ⟨tempPath_temporary _ _ _ _, fun bytes hold => ?_⟩
      -- a file which was there is there, so its name was not free
      by_contra hlasting
      have hfile := h.disk _ bytes hold hlasting
      exact absurd (hfile.symm.trans (hfree fileName hname)) (by simp)

end Runs

section Examples

/-- A packet of a peer which this machine trusts. -/
def sampleArrival (kind transferId : String) (chunkIndex offset : UInt64) (data : List UInt8) : Arrival where
  layout := paired.layout
  localPeerId := paired.localPeerId
  drawn := paired.drawn
  packet := fileTransferPacket kind transferId "peer-laptop" toDesk "note.txt" 1 chunkIndex offset data

/-- The directory is there, and a file of this name is in it. -/
def sampleDisk : Disk := fun path =>
  if path = "Transfers" then some .directory else if path = "Transfers/note.txt" then some (.file [7]) else none

/-- The file which comes has the name of the one there is. -/
def sampleArrivals : List Arrival :=
  [sampleArrival "start" "a" 0 0 [], sampleArrival "chunk" "a" 0 0 [1], sampleArrival "finish" "a" 1 1 []]

theorem placeFree_of_isNone {root : String} {s : Receiver} {arrival : Arrival} {fileName : String}
    (hname : sanitizeTransferFileName arrival.packet.fileName = some fileName)
    (hfree : (s.disk (uniqueTransferDestination s.disk root fileName arrival.drawn.suffix)).isNone = true) :
    PlaceFree root s arrival := by
  intro other hother
  rw [hname] at hother
  obtain rfl := Option.some.inj hother
  exact Option.isNone_iff_eq_none.mp hfree

/-- Of two transfers of one name, both started before either ends, the second replaces the file of the first. -/
example :
    let arrivals :=
      [sampleArrival "start" "a" 0 0 [], sampleArrival "start" "b" 0 0 [], sampleArrival "chunk" "a" 0 0 [1],
      sampleArrival "chunk" "b" 0 0 [2], sampleArrival "finish" "a" 1 1 [], sampleArrival "finish" "b" 1 1 []]
    (run (arrive "Transfers") ⟨fun _ => none, fun _ => none⟩ arrivals).disk "Transfers/note.txt" =
      some (.file [2]) := by
  decide +kernel

end Examples

end MyKvm.Files
