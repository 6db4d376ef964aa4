import MyKvm.Files.Transfer

/-!
# MyKvm.Files.Reproduction — what arrives is what was sent

While a transfer runs, the temporary file holds what has been read of the file so far (`Receiving`); each chunk
continues it (`receiving_chunk`), and the end of it becomes the file (`receiving_finish`).  All of this needs that
the receiver goes by the name in the packets.  It goes by the name it has cleaned itself, so a transfer whose name
is not settled is refused at the packet behind the start.

* `reproduced_iff`: the files which arrive.
-/

namespace MyKvm.Files

open MyKvm.Lib MyKvm.Settings

/-- The receiver takes files from this sender. -/
structure Takes (setup : ReceiverSetup) (originId : String) (target : FileTransferTarget) : Prop where
  enabled : setup.layout.fileTransferEnabled = true
  authorized : ∀ kind transferId fileName totalBytes chunkIndex offset data,
    fileTransferPacketAuthorized setup.layout
    (fileTransferPacket kind transferId originId target fileName totalBytes chunkIndex offset data) = true
  targeted : ∀ kind transferId fileName totalBytes chunkIndex offset data,
    fileTransferPacketTargetsLocal setup.layout
    (fileTransferPacket kind transferId originId target fileName totalBytes chunkIndex offset data)
      setup.localPeerId = true
  foreign : originId ≠ setup.localPeerId
  present : isBlank originId = false

/-- Where the receiver puts a file of this name. -/
def destination (setup : ReceiverSetup) (s : Receiver) (fileName : String) : String :=
  uniqueTransferDestination s.disk setup.root fileName setup.drawn.suffix

/-- Nothing on the disk is in the way of the directory, of the temporary file or of the file itself. -/
structure DiskReady (setup : ReceiverSetup) (s : Receiver) (transferId fileName : String) : Prop where
  root : ∀ directory ∈ s.disk.missing setup.root, s.disk directory = none
  temp : s.disk (tempPath setup.root transferId fileName setup.drawn) ≠ some .directory
  final : s.disk (destination setup s fileName) ≠ some .directory

/-- All packets are accepted, and the file with this content stands where the receiver puts it. -/
def Reproduced (setup : ReceiverSetup) (s : Receiver) (packets : List FileTransferPacket) (fileName : String)
    (content : List UInt8) : Prop :=
  ∃ s', deliver setup packets s = some s' ∧ s'.disk (destination setup s fileName) = some (.file content)

/-! ### The disk -/

theorem join_ne (directory name : String) : join directory name ≠ directory := by
  intro h
  have hlength := congrArg (fun path => path.toList.length) h
  simp only [join, String.toList_append, List.length_append] at hlength
  have hslash : "/".toList.length = 1 := rfl
  omega

theorem length_of_mem_parentsFrom {rest : List Char} :
    ∀ {before above : List Char}, above ∈ parentsFrom before rest →
    above.length < before.length + rest.length := by
  induction rest with
  | nil =>
    intro before above habove
    cases habove
  | cons c rest ih =>
    intro before above habove
    rw [parentsFrom] at habove
    rcases List.mem_append.mp habove with hlater | hhere
    · have hlength := ih hlater
      simp only [List.length_append, List.length_cons, List.length_nil] at hlength ⊢
      omega
    · split at hhere
      · rw [List.mem_singleton.mp hhere]
        simp
      · cases hhere

/-- No directory above a directory is in it. -/
theorem join_not_above {directory above : String} (h : above ∈ directory :: parents directory) (name : String) :
    join directory name ≠ above := by
  rcases List.mem_cons.mp h with rfl | hparent
  · exact join_ne above name
  obtain ⟨before, hbefore, rfl⟩ := List.mem_map.mp hparent
  intro heq
  have hlength := congrArg (fun path => path.toList.length) heq
  have hshort := length_of_mem_parentsFrom hbefore
  simp only [join, String.toList_append, List.length_append, String.toList_ofList] at hlength
  simp only [List.length_nil] at hshort
  omega

theorem mem_of_mem_missing {disk : Disk} {path directory : String} (h : directory ∈ disk.missing path) :
    directory ∈ path :: parents path := (List.takeWhile_prefix _).subset h

theorem join_not_missing (disk : Disk) (directory name : String) : join directory name ∉ disk.missing directory :=
  fun h => join_not_above (mem_of_mem_missing h) name rfl

/-- What stands in a directory stays when the directory is made. -/
theorem makeDirs_join (disk : Disk) (directory name : String) :
    disk.makeDirs (disk.missing directory) (join directory name) = disk (join directory name) :=
  if_neg (join_not_missing disk directory name)

/-- Only what stands in the directory matters for the destination. -/
theorem uniqueTransferDestination_congr {disk disk' : Disk} {directory : String}
    (h : ∀ name, disk' (join directory name) = disk (join directory name)) (fileName : String)
    (suffix : List UInt8) :
    uniqueTransferDestination disk' directory fileName suffix =
      uniqueTransferDestination disk directory fileName suffix := by
  simp only [uniqueTransferDestination, h]

theorem createDirAll_eq {disk : Disk} {path : String}
    (h : ∀ directory ∈ disk.missing path, disk directory = none) :
    disk.createDirAll path = some (disk.makeDirs (disk.missing path)) := by
  unfold Disk.createDirAll
  rw [if_neg]
  rintro ⟨directory, hmissing, hsome⟩
  rw [h directory hmissing] at hsome
  cases hsome

theorem create_eq {disk : Disk} {path : String} (h : disk path ≠ some .directory) :
    disk.create path = some (Function.update disk path (some (.file []))) := by
  unfold Disk.create
  split
  · next hdirectory => exact absurd hdirectory h
  · rfl

theorem append_eq {disk : Disk} {path : String} {bytes : List UInt8} (h : disk path = some (.file bytes))
    (data : List UInt8) :
    disk.append path data = some (Function.update disk path (some (.file (bytes ++ data)))) := by
  rw [Disk.append, h]

theorem rename_eq {disk : Disk} {source target : String} {bytes : List UInt8}
    (h : disk source = some (.file bytes)) (htarget : disk target ≠ some .directory) : disk.rename source target =
      some (Function.update (Function.update disk source none) target (some (.file bytes))) := by
  rw [Disk.rename, h]
  cases hentry : disk target with
  | none => rfl
  | some entry =>
    cases entry with
    | file old => rfl
    | directory => exact absurd hentry htarget

/-- Removing a file puts no directory anywhere. -/
theorem removeFile_directory {disk : Disk} {path other : String}
    (h : disk.removeFile path other = some .directory) : disk other = some .directory := by
  rw [Disk.removeFile] at h
  cases hentry : disk path with
  | none => simpa [hentry] using h
  | some entry =>
    cases entry with
    | directory => simpa [hentry] using h
    | file bytes =>
      by_cases heq : other = path
      · simp [hentry, heq] at h
      · simpa [hentry, Function.update_of_ne heq] using h

theorem removePrevious_directory {disk : Disk} {previous : Option IncomingFileTransfer} {path : String}
    (h : removePrevious disk previous path = some .directory) : disk path = some .directory := by
  cases previous with
  | none => exact h
  | some previous => exact removeFile_directory h

/-- What the start of a transfer does before it creates its file puts no directory into the root. -/
theorem prepared_directory {disk : Disk} {root name : String} {previous : Option IncomingFileTransfer}
    (h : disk (join root name) ≠ some .directory) :
    removePrevious (disk.makeDirs (disk.missing root)) previous (join root name) ≠ some .directory := by
  intro hdirectory
  have hbefore := removePrevious_directory hdirectory
  rw [makeDirs_join] at hbefore
  exact h hbefore

theorem uniqueTransferDestination_join (disk : Disk) (directory fileName : String) (suffix : List UInt8) :
    ∃ name, uniqueTransferDestination disk directory fileName suffix = join directory name := by
  unfold uniqueTransferDestination
  split
  · exact ⟨_, rfl⟩
  · dsimp only
    split <;> exact ⟨_, rfl⟩

/-! ### One packet after the other -/

section Transfer

variable {setup : ReceiverSetup} {originId : String} {target : FileTransferTarget} {file : TransferFile}
  {transferId : String} {s : Receiver}

/-- What the receiver knows of a transfer which has got this far. -/
def incoming (originId : String) (target : FileTransferTarget) (file : TransferFile) (tempPath finalPath : String)
    (chunkIndex : UInt64) (data : List UInt8) : IncomingFileTransfer where
  originId := originId
  targetId := target.deviceId
  fileName := file.name
  totalBytes := file.totalBytes
  receivedBytes := data.length.toUInt64
  nextChunkIndex := chunkIndex
  tempPath := tempPath
  finalPath := finalPath

/-- **The invariant of a transfer**: the temporary file holds what has been sent so far. -/
structure Receiving (transferId originId : String) (target : FileTransferTarget) (file : TransferFile)
    (tempPath finalPath : String) (chunkIndex : UInt64) (data : List UInt8) (s : Receiver) : Prop where
  transfer : s.transfers transferId = some (incoming originId target file tempPath finalPath chunkIndex data)
  temp : s.disk tempPath = some (.file data)
  final : s.disk finalPath ≠ some .directory

section Handlers

variable (h : Takes setup originId target) (fileName : String) (totalBytes chunkIndex offset : UInt64)
    (data : List UInt8)

include h

/-- A packet which the receiver takes goes by its kind. -/
theorem handle_taken (kind : String) : handleDecodedFileTransferPacket setup
    (fileTransferPacket kind transferId originId target fileName totalBytes chunkIndex offset data) s =
      if kind = "start" then startIncomingFileTransfer
        (fileTransferPacket kind transferId originId target fileName totalBytes chunkIndex offset data) setup.root
        setup.drawn s
      else if kind = "chunk" then appendIncomingFileTransferChunk
        (fileTransferPacket kind transferId originId target fileName totalBytes chunkIndex offset data) s
      else if kind = "finish" then finishIncomingFileTransfer
        (fileTransferPacket kind transferId originId target fileName totalBytes chunkIndex offset data) s
      else (false, s) := by
  have hforeign :
      ¬ (fileTransferPacket kind transferId originId target fileName totalBytes chunkIndex offset data).originId =
      setup.localPeerId := h.foreign
  rw [handleDecodedFileTransferPacket, if_neg (by simp [fileTransferPacket]), if_neg (by simp [h.enabled]),
    if_neg (by simp [h.authorized]), if_neg (by simp [h.targeted]), if_neg hforeign]
  rfl

theorem handle_start : handleDecodedFileTransferPacket setup
    (fileTransferPacket "start" transferId originId target fileName totalBytes chunkIndex offset data) s =
      startIncomingFileTransfer
        (fileTransferPacket "start" transferId originId target fileName totalBytes chunkIndex offset data)
        setup.root setup.drawn s :=
  (handle_taken h _ _ _ _ _ _).trans (if_pos rfl)

theorem handle_chunk : handleDecodedFileTransferPacket setup
    (fileTransferPacket "chunk" transferId originId target fileName totalBytes chunkIndex offset data) s =
      appendIncomingFileTransferChunk
        (fileTransferPacket "chunk" transferId originId target fileName totalBytes chunkIndex offset data) s := by
  rw [handle_taken h, if_neg (by decide), if_pos rfl]

theorem handle_finish : handleDecodedFileTransferPacket setup
    (fileTransferPacket "finish" transferId originId target fileName totalBytes chunkIndex offset data) s =
      finishIncomingFileTransfer
        (fileTransferPacket "finish" transferId originId target fileName totalBytes chunkIndex offset data) s := by
  rw [handle_taken h, if_neg (by decide), if_neg (by decide), if_pos rfl]

end Handlers

theorem continuedBy_incoming (kind tempPath finalPath : String) (chunkIndex : UInt64) (sent data : List UInt8) :
    (incoming originId target file tempPath finalPath chunkIndex sent).continuedBy
      (fileTransferPacket kind transferId originId target file.name file.totalBytes chunkIndex sent.length.toUInt64
        data) = true := by
  simp [IncomingFileTransfer.continuedBy, incoming, fileTransferPacket]

theorem toNat_toUInt64 {n : ℕ} (h : n < 2 ^ 64) : n.toUInt64.toNat = n := UInt64.toNat_ofNat_of_lt' h

theorem saturatingAdd_length {sent data : List UInt8} (h : (sent ++ data).length < 2 ^ 64) :
    saturatingAdd sent.length.toUInt64 data.length.toUInt64 = (sent ++ data).length.toUInt64 := by
  rw [List.length_append] at h ⊢
  rw [← UInt64.toNat_inj, saturatingAdd_toNat, toNat_toUInt64 h, toNat_toUInt64 (by omega),
    toNat_toUInt64 (by omega)]
  omega

/-- A chunk which fits in is added to what has arrived. -/
theorem receiving_chunk {tempPath finalPath : String} {chunkIndex : UInt64} {sent data : List UInt8}
    (h : Receiving transferId originId target file tempPath finalPath chunkIndex sent s) (hne : data ≠ [])
    (hchunk : data.length ≤ fileTransferChunkBytes) (hfits : (sent ++ data).length ≤ file.totalBytes.toNat) :
    ∃ s', appendIncomingFileTransferChunk
      (fileTransferPacket "chunk" transferId originId target file.name file.totalBytes
        chunkIndex sent.length.toUInt64 data) s = (true, s') ∧
      Receiving transferId originId target file tempPath finalPath (saturatingAdd chunkIndex 1)
        (sent ++ data) s' := by
  have hlt := file.totalBytes.toNat_lt
  have hroom : ¬ file.totalBytes < (sent ++ data).length.toUInt64 := by
    rw [UInt64.lt_iff_toNat_lt, toNat_toUInt64 (by omega)]
    omega
  have hadd : saturatingAdd sent.length.toUInt64 data.length.toUInt64 = (sent ++ data).length.toUInt64 :=
    saturatingAdd_length (by omega)
  refine ⟨{ transfers := Function.update s.transfers transferId
              (some (incoming originId target file tempPath finalPath (saturatingAdd chunkIndex 1) (sent ++ data)))
            disk := Function.update s.disk tempPath (some (.file (sent ++ data))) }, ?_, ?_⟩
  · rw [appendIncomingFileTransferChunk, if_neg (by simp [fileTransferPacket, hne, hchunk])]
    have htransfer : s.transfers (fileTransferPacket "chunk" transferId originId target file.name file.totalBytes
        chunkIndex sent.length.toUInt64 data).transferId = _ := h.transfer
    rw [htransfer]
    dsimp only
    rw [continuedBy_incoming]
    simp only [incoming, fileTransferPacket, hadd, hroom, append_eq h.temp]
    exact if_neg (by simp)
  · refine ⟨Function.update_self .., Function.update_self .., ?_⟩
    by_cases heq : finalPath = tempPath
    · simp [heq]
    · simpa [Function.update_of_ne heq] using h.final

/-- When all of it has arrived, the file gets its name. -/
theorem receiving_finish {tempPath finalPath : String} {chunkIndex : UInt64} {sent : List UInt8}
    (h : Receiving transferId originId target file tempPath finalPath chunkIndex sent s)
    (hall : sent.length.toUInt64 = file.totalBytes) :
    ∃ s', finishIncomingFileTransfer
      (fileTransferPacket "finish" transferId originId target file.name file.totalBytes
        chunkIndex sent.length.toUInt64 []) s = (true, s') ∧ s'.disk finalPath = some (.file sent) := by
  refine ⟨{ transfers := Function.update s.transfers transferId none
            disk := Function.update (Function.update s.disk tempPath none) finalPath (some (.file sent)) }, ?_,
    Function.update_self ..⟩
  rw [finishIncomingFileTransfer, if_neg (by simp [fileTransferPacket])]
  have htransfer : s.transfers (fileTransferPacket "finish" transferId originId target file.name file.totalBytes
      chunkIndex sent.length.toUInt64 []).transferId = _ := h.transfer
  rw [htransfer]
  dsimp only
  rw [continuedBy_incoming]
  simp only [incoming, fileTransferPacket, hall, rename_eq h.temp h.final]
  exact if_neg (by simp)

/-- A start under a settled name makes an empty temporary file. -/
theorem receiving_start (h : Takes setup originId target) (hid : isBlank transferId = false)
    (hsize : file.totalBytes ≤ fileTransferMaxFileBytes)
    (hname : sanitizeTransferFileName file.name = some file.name)
    (hdisk : DiskReady setup s transferId file.name) :
    ∃ s', startIncomingFileTransfer
        (fileTransferPacket "start" transferId originId target file.name file.totalBytes 0 0 []) setup.root
          setup.drawn s =
          (true, s') ∧
      Receiving transferId originId target file (tempPath setup.root transferId file.name setup.drawn)
        (destination setup s file.name) 0 [] s' := by
  have hcleaned :
      sanitizeTransferFileName (fileTransferPacket "start" transferId originId target file.name file.totalBytes
      0 0 []).fileName = some file.name := hname
  have hdestination : uniqueTransferDestination (s.disk.makeDirs (s.disk.missing setup.root)) setup.root file.name
      setup.drawn.suffix = destination setup s file.name :=
    uniqueTransferDestination_congr (makeDirs_join s.disk setup.root) _ _
  have htemp : removePrevious (s.disk.makeDirs (s.disk.missing setup.root)) (s.transfers transferId)
      (tempPath setup.root transferId file.name setup.drawn) ≠ some .directory := prepared_directory hdisk.temp
  rw [startIncomingFileTransfer,
    if_neg (by simp [fileTransferPacket, hid, h.present, UInt64.not_lt.mpr hsize]), hcleaned]
  dsimp only
  rw [createDirAll_eq hdisk.root]
  dsimp only
  rw [hdestination, show (fileTransferPacket "start" transferId originId target file.name file.totalBytes 0 0
    []).transferId = transferId from rfl, create_eq htemp]
  refine ⟨_, rfl, Function.update_self .., Function.update_self .., ?_⟩
  by_cases heq : destination setup s file.name = tempPath setup.root transferId file.name setup.drawn
  · simp [heq]
  · obtain ⟨name, hjoin⟩ := uniqueTransferDestination_join s.disk setup.root file.name setup.drawn.suffix
    have hjoin : destination setup s file.name = join setup.root name := hjoin
    have hfinal := hdisk.final
    dsimp only
    rw [Function.update_of_ne heq]
    rw [hjoin] at hfinal ⊢
    exact prepared_directory hfinal

/-! ### The whole transfer -/

theorem deliver_accepted {packet : FileTransferPacket} {s' : Receiver}
    (h : handleDecodedFileTransferPacket setup packet s = (true, s')) (packets : List FileTransferPacket) :
    deliver setup (packet :: packets) s = deliver setup packets s' := by
  rw [deliver, h]
  rfl

theorem deliver_refused {packet : FileTransferPacket}
    (h : (handleDecodedFileTransferPacket setup packet s).1 = false)
    (packets : List FileTransferPacket) : deliver setup (packet :: packets) s = none := by
  rw [deliver]
  simp [h]

/-- **The chunks and the end**: what is read of the file is what the file holds. -/
theorem deliver_chunks (h : Takes setup originId target) {tempPath finalPath : String} {chunkIndex : UInt64}
    {sent : List UInt8} {reads : List (List UInt8)}
    (hreceiving : Receiving transferId originId target file tempPath finalPath chunkIndex sent s)
    (hreads : ∀ data ∈ reads, data ≠ [] ∧ data.length ≤ fileTransferChunkBytes)
    (hall : (sent ++ reads.flatten).length = file.totalBytes.toNat) :
    ∃ s', deliver setup (chunkPackets transferId originId target file chunkIndex sent.length.toUInt64 reads) s =
      some s' ∧
      s'.disk finalPath = some (.file (sent ++ reads.flatten)) := by
  induction reads generalizing s chunkIndex sent with
  | nil =>
    rw [List.flatten_nil, List.append_nil] at hall ⊢
    obtain ⟨s', hfinish, hfile⟩ := receiving_finish hreceiving (by rw [hall]; exact UInt64.ofNat_toNat)
    refine ⟨s', ?_, hfile⟩
    rw [chunkPackets, deliver_accepted ((handle_finish h _ _ _ _ _).trans hfinish)]
    rfl
  | cons data reads ih =>
    obtain ⟨hne, hchunk⟩ := hreads data List.mem_cons_self
    rw [List.flatten_cons, ← List.append_assoc] at hall ⊢
    have hlt := file.totalBytes.toNat_lt
    have hfits : (sent ++ data).length ≤ file.totalBytes.toNat := by
      rw [← hall]
      exact (List.sublist_append_left (sent ++ data) reads.flatten).length_le
    obtain ⟨s', happend, hnext⟩ := receiving_chunk hreceiving hne hchunk hfits
    obtain ⟨s'', hrest, hfile⟩ := ih hnext (fun other hother => hreads other (List.mem_cons_of_mem _ hother)) hall
    refine ⟨s'', ?_, hfile⟩
    rw [chunkPackets, if_neg hne, deliver_accepted ((handle_chunk h _ _ _ _ _).trans happend),
      saturatingAdd_length (by omega), hrest]

theorem append_refused {packet : FileTransferPacket} {transfer : IncomingFileTransfer}
    (htransfer : s.transfers packet.transferId = some transfer) (h : transfer.continuedBy packet = false) :
    appendIncomingFileTransferChunk packet s = (false, s) := by
  unfold appendIncomingFileTransferChunk
  split
  · rfl
  · rw [htransfer]
    exact if_pos (.inl (by rw [h]; rfl))

theorem finish_refused {packet : FileTransferPacket} {transfer : IncomingFileTransfer}
    (htransfer : s.transfers packet.transferId = some transfer) (h : transfer.continuedBy packet = false) :
    finishIncomingFileTransfer packet s = (false, s) := by
  unfold finishIncomingFileTransfer
  split
  · rfl
  · rw [htransfer]
    exact if_pos (.inl (by rw [h]; rfl))

/-- A transfer under another name is refused, whatever comes next. -/
theorem deliver_other_name (h : Takes setup originId target) {transfer : IncomingFileTransfer}
    (htransfer : s.transfers transferId = some transfer) (hname : file.name ≠ transfer.fileName)
    (chunkIndex offset : UInt64) (reads : List (List UInt8)) :
    deliver setup (chunkPackets transferId originId target file chunkIndex offset reads) s = none := by
  have hother : ∀ kind data, transfer.continuedBy
      (fileTransferPacket kind transferId originId target file.name file.totalBytes chunkIndex offset data) =
        false := by
    intro kind data
    simp [IncomingFileTransfer.continuedBy, fileTransferPacket, hname]
  have hend :
      deliver setup [fileTransferPacket "finish" transferId originId target file.name file.totalBytes chunkIndex
      offset []] s = none :=
    deliver_refused (by rw [handle_finish h, finish_refused htransfer (hother _ _)]) _
  cases reads with
  | nil => exact hend
  | cons data reads =>
    rw [chunkPackets]
    split
    · exact hend
    · exact deliver_refused (by rw [handle_chunk h, append_refused htransfer (hother _ _)]) _

/-- The receiver goes by the name it has cleaned itself. -/
theorem started_name {packet : FileTransferPacket} {root : String} {drawn : Drawn} {s' : Receiver}
    (h : startIncomingFileTransfer packet root drawn s = (true, s')) : ∃ transfer,
      s'.transfers packet.transferId = some transfer ∧
      sanitizeTransferFileName packet.fileName = some transfer.fileName := by
  unfold startIncomingFileTransfer at h
  split at h
  · cases h
  cases hname : sanitizeTransferFileName packet.fileName with
  | none =>
    rw [hname] at h
    cases h
  | some fileName =>
    rw [hname] at h
    dsimp only at h
    cases hroot : s.disk.createDirAll root with
    | none =>
      rw [hroot] at h
      cases h
    | some disk =>
      rw [hroot] at h
      dsimp only at h
      cases hcreate : (removePrevious disk (s.transfers packet.transferId)).create
          (tempPath root packet.transferId fileName drawn) with
      | none =>
        rw [hcreate] at h
        cases h
      | some created =>
        rw [hcreate] at h
        obtain rfl := congrArg Prod.snd h
        exact ⟨_, Function.update_self .., rfl⟩

end Transfer

theorem newTransferId_present (nowMs : UInt64) (drawn : List UInt8) :
    isBlank (newTransferId nowMs drawn) = false := by
  have hfirst : isWhitespace 'f' = false := by decide
  simp [isBlank, newTransferId, String.toList_append, hfirst]

/-- What the sender makes of a file which it accepts. -/
theorem collectTransferFile_some {rawName : String} {content : List UInt8} {file : TransferFile}
    (h : collectTransferFile rawName content = some file) : content.length ≤ fileTransferMaxFileBytes.toNat ∧
      sanitizeTransferFileName rawName = some file.name ∧ file.totalBytes = content.length.toUInt64 := by
  unfold collectTransferFile at h
  split at h
  · cases h
  · next hsize =>
    obtain ⟨name, hname, rfl⟩ := Option.map_eq_some_iff.mp h
    exact ⟨not_lt.mp hsize, hname, rfl⟩

/-- **The files which arrive**: the name which is sent is cleaned to itself, and a file which the sender accepts,
read in chunks of any size, is reproduced, if and only if its name is settled. -/
theorem reproduced_iff (setup : ReceiverSetup) (s : Receiver) (originId : String) (target : FileTransferTarget)
    (rawName : String) (content : List UInt8) (file : TransferFile) (reads : List (List UInt8)) (nowMs : UInt64)
    (drawn : List UInt8) (htakes : Takes setup originId target)
    (hfile : collectTransferFile rawName content = some file)
    (hreads : ∀ data ∈ reads, data ≠ [] ∧ data.length ≤ fileTransferChunkBytes)
    (hcontent : reads.flatten = content) (hdisk : DiskReady setup s (newTransferId nowMs drawn) file.name) :
    (sanitizeTransferFileName file.name = some file.name ↔ Settled rawName) ∧
      (Reproduced setup s (transferPackets (newTransferId nowMs drawn) originId target file reads)
        file.name content ↔
        Settled rawName) := by
  obtain ⟨hsize, hname, htotal⟩ := collectTransferFile_some hfile
  have hlimit : fileTransferMaxFileBytes.toNat = 2147483648 := rfl
  have hlength : file.totalBytes.toNat = content.length := by
    rw [htotal, toNat_toUInt64 (by omega)]
  refine ⟨sanitize_again_iff hname, ?_⟩
  rw [← sanitize_again_iff hname]
  constructor
  · rintro ⟨s', hdeliver, -⟩
    rw [transferPackets] at hdeliver
    cases hstart : handleDecodedFileTransferPacket setup
        (fileTransferPacket "start" (newTransferId nowMs drawn) originId target file.name file.totalBytes 0 0
          []) s with
    | mk accepted started =>
      cases accepted with
      | false =>
        rw [deliver_refused (by rw [hstart])] at hdeliver
        cases hdeliver
      | true =>
        rw [deliver_accepted hstart] at hdeliver
        obtain ⟨transfer, htransfer, hcleaned⟩ := started_name ((handle_start htakes _ _ _ _ _).symm.trans hstart)
        -- the next packet is accepted only if the cleaned name is the one which was sent
        by_contra hother
        simp only [fileTransferPacket] at htransfer hcleaned
        have hne : file.name ≠ transfer.fileName := by
          intro heq
          rw [← heq] at hcleaned
          exact hother hcleaned
        rw [deliver_other_name htakes htransfer hne] at hdeliver
        cases hdeliver
  · intro hsettled
    have hbound : file.totalBytes ≤ fileTransferMaxFileBytes := by
      rw [UInt64.le_iff_toNat_le, hlength]
      exact hsize
    obtain ⟨started, hstart, hreceiving⟩ :=
      receiving_start htakes (newTransferId_present nowMs drawn) hbound hsettled hdisk
    obtain ⟨s', hdeliver, harrived⟩ :=
      deliver_chunks htakes hreceiving hreads (by simpa [hcontent] using hlength.symm)
    refine ⟨s', ?_, by simpa [hcontent] using harrived⟩
    rw [transferPackets, deliver_accepted ((handle_start htakes _ _ _ _ _).trans hstart)]
    exact hdeliver

section Examples

def paired : ReceiverSetup where
  layout :=
    { detectLocalLayout ⟨some "desk", none, "macos", 47833, [],
      ⟨List.replicate 16 1, List.replicate 32 2, rfl, rfl⟩⟩ with
      clusterId := "cluster"
      pairSecret := "secret" }
  localPeerId := "peer-desk"
  root := "Transfers"
  drawn := ⟨[], []⟩

def toDesk : FileTransferTarget := { deviceId := "local-device", clusterId := "cluster", pairSecret := "secret" }

def fresh : Receiver := ⟨fun _ => none, fun _ => none⟩

theorem takes_paired : Takes paired "peer-laptop" toDesk where
  enabled := rfl
  authorized := by
    intros
    rfl
  targeted := by
    intros
    simp [fileTransferPacketTargetsLocal, fileTransferPacket, paired, toDesk, detectLocalLayout, detectedDevice]
  foreign := by decide
  present := by decide

theorem ready_fresh (transferId fileName : String) : DiskReady paired fresh transferId fileName :=
  ⟨fun _ _ => rfl, nofun, nofun⟩

theorem reproduced_note : Reproduced paired fresh
    (transferPackets (newTransferId 7 []) "peer-laptop" toDesk ⟨"note.txt", 3⟩ [[1, 2], [3]])
      "note.txt" [1, 2, 3] :=
  (reproduced_iff paired fresh "peer-laptop" toDesk "note.txt" [1, 2, 3] ⟨"note.txt", 3⟩ [[1, 2], [3]] 7
    [] takes_paired (by decide) (by decide) rfl (ready_fresh _ _)).2.mpr (by decide)

/-- The name `a . .` is sent as `a .`, and the receiver takes that for `a`. -/
theorem not_reproduced :
    ¬ ∀ (setup : ReceiverSetup) (s : Receiver) (originId : String) (target : FileTransferTarget)
    (rawName : String) (content : List UInt8) (file : TransferFile) (reads : List (List UInt8)) (nowMs : UInt64)
    (drawn : List UInt8), Takes setup originId target → collectTransferFile rawName content = some file →
    (∀ data ∈ reads, data ≠ [] ∧ data.length ≤ fileTransferChunkBytes) → reads.flatten = content →
    DiskReady setup s (newTransferId nowMs drawn) file.name →
      Reproduced setup s (transferPackets (newTransferId nowMs drawn) originId target file reads)
        file.name content := by
  intro h
  obtain ⟨s', hdeliver, -⟩ := h paired fresh "peer-laptop" toDesk "a . ." [1, 2, 3] ⟨"a .", 3⟩ [[1, 2], [3]] 7 []
    takes_paired (by decide) (by decide) rfl (ready_fresh _ _)
  have hnone : (deliver paired (transferPackets (newTransferId 7 []) "peer-laptop" toDesk ⟨"a .", 3⟩ [[1, 2], [3]])
      fresh).isSome = false := by decide +kernel
  rw [hdeliver] at hnone
  cases hnone

end Examples

end MyKvm.Files
