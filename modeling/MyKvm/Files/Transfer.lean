import Mathlib.Logic.Function.Basic
import MyKvm.Files.Names
import MyKvm.Lib.Word
import MyKvm.Settings.Layout

/-!
# MyKvm.Files.Transfer — sending a file in chunks

The sender announces a file, sends what it reads from it chunk by chunk, and ends with a packet which says how much
that was.  The receiver appends the chunks to a temporary file, provided that each one continues what it has, and
gives the file its name in the end.
-/

namespace MyKvm.Files

open MyKvm.Lib MyKvm.Settings

/-! ### The disk -/

inductive Entry where
  | file (bytes : List UInt8)
  | directory
  deriving DecidableEq

/-- What stands before the separators in the rest of a path, the longest first. -/
def parentsFrom (before : List Char) : List Char → List (List Char)
  | [] => []
  | c :: rest =>
    parentsFrom (before ++ [c]) rest ++ if c = '/' ∧ before.getLast?.any (· ≠ '/') then [before] else []

/-- The directories above a path, the nearest first: its `ancestors`, without itself and the root of all. -/
def parents (path : String) : List String := (parentsFrom [] path.toList).map String.ofList

example : parents "/home/me/Transfers" = ["/home/me", "/home"] := by decide

/-- What stands at a path. -/
abbrev Disk := String → Option Entry

namespace Disk

/-- The directories which there have to be for this one, and are not there: itself and
those above, up to one there is. -/
def missing (disk : Disk) (path : String) : List String :=
  (path :: parents path).takeWhile fun directory => disk directory ≠ some .directory

def makeDirs (disk : Disk) (directories : List String) : Disk :=
  fun path => if path ∈ directories then some .directory else disk path

/-- `fs::create_dir_all`, which makes all that is missing, and fails on a file. -/
def createDirAll (disk : Disk) (path : String) : Option Disk :=
  if ∃ directory ∈ disk.missing path, (disk directory).isSome then none else
    some (disk.makeDirs (disk.missing path))

/-- `File::create`: an old file is emptied. -/
def create (disk : Disk) (path : String) : Option Disk :=
  match disk path with
  | some .directory => none
  | _ => some (Function.update disk path (some (.file [])))

/-- `OpenOptions::append` and `write_all`. -/
def append (disk : Disk) (path : String) (data : List UInt8) : Option Disk :=
  match disk path with
  | some (.file bytes) => some (Function.update disk path (some (.file (bytes ++ data))))
  | _ => none

/-- `fs::remove_file`, whose error is ignored. -/
def removeFile (disk : Disk) (path : String) : Disk :=
  match disk path with
  | some (.file _) => Function.update disk path none
  | _ => disk

/-- `fs::rename` of a file: an old file at the new path is replaced. -/
def rename (disk : Disk) (source target : String) : Option Disk :=
  match disk source, disk target with
  | some (.file _), some .directory => none
  | some (.file bytes), _ => some (Function.update (Function.update disk source none) target (some (.file bytes)))
  | _, _ => none

end Disk

/-- `directory.join(name)` -/
def join (directory name : String) : String := directory ++ "/" ++ name

/-- The stem of a file name and its extension: the last dot parts them, unless the name begins with it. -/
def splitAtDot (name : List Char) : List Char × Option (List Char) :=
  match name.reverse.dropWhile (· ≠ '.') with
  | '.' :: stem => if stem = [] then (name, none)
      else (stem.reverse, some (name.reverse.takeWhile (· ≠ '.')).reverse)
  | _ => (name, none)

/-- `path.file_stem()`, or `file` if there is none. -/
def fileStem (fileName : String) : String :=
  let stem := (splitAtDot fileName.toList).1
  if stem = [] then "file" else String.ofList stem

/-- `path.extension()`, with its dot. -/
def fileExtension (fileName : String) : String :=
  match (splitAtDot fileName.toList).2 with
  | some extension => "." ++ String.ofList extension
  | none => ""

/-- `suffix`: the bytes for `random_hex`. -/
def uniqueTransferDestination (disk : Disk) (directory fileName : String) (suffix : List UInt8) : String :=
  if (disk (join directory fileName)).isNone then join directory fileName else
  let candidate (index : ℕ) : String :=
    join directory (fileStem fileName ++ " (" ++ Nat.repr index ++ ")" ++ fileExtension fileName)
  match (List.range' 1 9999).find? fun index => (disk (candidate index)).isNone with
  | some index => candidate index
  | none => join directory (fileStem fileName ++ "-" ++ randomHex suffix ++ fileExtension fileName)

/-- `drawn`: the bytes for `random_hex`. -/
def sanitizeTransferId (transferId : String) (drawn : List UInt8) : String :=
  let id := (transferId.toList.filter fun c => c.isAlphanum || c == '-').take 80
  if id = [] then randomHex drawn else String.ofList id

/-! ### The packets -/

def fileTransferProtocol : String := "mykvm.file-transfer.v1"

def fileTransferChunkBytes : ℕ := 256 * 1024

def fileTransferMaxFileBytes : UInt64 := 2147483648

structure FileTransferPacket where
  protocol : String
  kind : String
  transferId : String
  originId : String
  targetId : String
  clusterId : String
  pairSecret : String
  fileName : String
  totalBytes : UInt64
  chunkIndex : UInt64
  offset : UInt64
  data : List UInt8
  deriving DecidableEq

structure FileTransferTarget where
  deviceId : String
  clusterId : String
  pairSecret : String
  deriving DecidableEq

def fileTransferPacket (kind transferId originId : String) (target : FileTransferTarget) (fileName : String)
    (totalBytes chunkIndex offset : UInt64) (data : List UInt8) : FileTransferPacket where
  protocol := fileTransferProtocol
  kind := kind
  transferId := transferId
  originId := originId
  targetId := target.deviceId
  clusterId := target.clusterId
  pairSecret := target.pairSecret
  fileName := fileName
  totalBytes := totalBytes
  chunkIndex := chunkIndex
  offset := offset
  data := data

/-! ### The sender -/

structure TransferFile where
  name : String
  totalBytes : UInt64
  deriving DecidableEq

/-- What `collect_transfer_files` makes of a file with this name and content. -/
def collectTransferFile (rawName : String) (content : List UInt8) : Option TransferFile :=
  if fileTransferMaxFileBytes.toNat < content.length then none else
  (sanitizeTransferFileName rawName).map fun name => ⟨name, content.length.toUInt64⟩

/-- `format!("file-{}-{}", now_ms(), random_hex(8))` -/
def newTransferId (nowMs : UInt64) (drawn : List UInt8) : String :=
  "file-" ++ Nat.repr nowMs.toNat ++ "-" ++ randomHex drawn

section Sender

variable (transferId originId : String) (target : FileTransferTarget) (file : TransferFile)

/-- The loop of `send_transfer_file` over what it reads, up to the end of the file, and the packet behind it. -/
def chunkPackets (chunkIndex offset : UInt64) : List (List UInt8) → List FileTransferPacket
  | [] => [fileTransferPacket "finish" transferId originId target file.name file.totalBytes chunkIndex offset []]
  | data :: reads =>
    if data = [] then
      [fileTransferPacket "finish" transferId originId target file.name file.totalBytes chunkIndex offset []]
    else
      fileTransferPacket "chunk" transferId originId target file.name file.totalBytes chunkIndex offset data ::
        chunkPackets (saturatingAdd chunkIndex 1) (saturatingAdd offset data.length.toUInt64) reads

/-- The packets which `send_transfer_file` sends as long as they are accepted. -/
def transferPackets (reads : List (List UInt8)) : List FileTransferPacket :=
  fileTransferPacket "start" transferId originId target file.name file.totalBytes 0 0 [] ::
    chunkPackets transferId originId target file 0 0 reads

end Sender

/-! ### The receiver -/

structure IncomingFileTransfer where
  originId : String
  targetId : String
  fileName : String
  totalBytes : UInt64
  receivedBytes : UInt64
  nextChunkIndex : UInt64
  tempPath : String
  finalPath : String
  deriving DecidableEq

structure Receiver where
  transfers : String → Option IncomingFileTransfer
  disk : Disk

/-- The random bytes which a receiver may need. -/
structure Drawn where
  id : List UInt8
  suffix : List UInt8

def tempPath (root transferId fileName : String) (drawn : Drawn) : String :=
  join root (".mykvm-" ++ sanitizeTransferId transferId drawn.id ++ "-" ++ fileName ++ ".part")

/-- The temporary file of an earlier transfer with the same id goes. -/
def removePrevious (disk : Disk) : Option IncomingFileTransfer → Disk
  | some previous => disk.removeFile previous.tempPath
  | none => disk

def startIncomingFileTransfer (packet : FileTransferPacket) (root : String) (drawn : Drawn) (s : Receiver) :
    Bool × Receiver :=
  if isBlank packet.transferId ∨ isBlank packet.originId ∨ fileTransferMaxFileBytes < packet.totalBytes ∨
    packet.data ≠ [] then (false, s) else
  match sanitizeTransferFileName packet.fileName with
  | none => (false, s)
  | some fileName =>
    match s.disk.createDirAll root with
    | none => (false, s)
    | some disk =>
      let finalPath := uniqueTransferDestination disk root fileName drawn.suffix
      let tempPath := tempPath root packet.transferId fileName drawn
      let disk := removePrevious disk (s.transfers packet.transferId)
      let transfers := Function.update s.transfers packet.transferId none
      match disk.create tempPath with
      | none => (false, { transfers, disk })
      | some disk =>
        let transfer : IncomingFileTransfer :=
          { originId := packet.originId, targetId := packet.targetId, fileName, totalBytes := packet.totalBytes
            receivedBytes := 0, nextChunkIndex := 0, tempPath, finalPath }
        (true, { transfers := Function.update transfers packet.transferId (some transfer), disk })

/-- The packet belongs to this transfer and continues it. -/
def IncomingFileTransfer.continuedBy (transfer : IncomingFileTransfer) (packet : FileTransferPacket) : Bool :=
  packet.originId = transfer.originId && packet.targetId = transfer.targetId &&
    packet.fileName = transfer.fileName &&
    packet.totalBytes = transfer.totalBytes && packet.chunkIndex = transfer.nextChunkIndex &&
    packet.offset = transfer.receivedBytes

def appendIncomingFileTransferChunk (packet : FileTransferPacket) (s : Receiver) : Bool × Receiver :=
  if packet.data = [] ∨ fileTransferChunkBytes < packet.data.length then (false, s) else
  match s.transfers packet.transferId with
  | none => (false, s)
  | some transfer =>
    let receivedBytes := saturatingAdd transfer.receivedBytes packet.data.length.toUInt64
    if !transfer.continuedBy packet ∨ transfer.totalBytes < receivedBytes then (false, s) else
    match s.disk.append transfer.tempPath packet.data with
    | none => (false, s)
    | some disk =>
      let transfer := { transfer with receivedBytes, nextChunkIndex := saturatingAdd transfer.nextChunkIndex 1 }
      (true, { transfers := Function.update s.transfers packet.transferId (some transfer), disk })

def finishIncomingFileTransfer (packet : FileTransferPacket) (s : Receiver) : Bool × Receiver :=
  if packet.data ≠ [] then (false, s) else
  match s.transfers packet.transferId with
  | none => (false, s)
  | some transfer =>
    if !transfer.continuedBy packet ∨ transfer.receivedBytes ≠ transfer.totalBytes then (false, s) else
    match s.disk.rename transfer.tempPath transfer.finalPath with
    | none => (false, s)
    | some disk => (true, { transfers := Function.update s.transfers packet.transferId none, disk })

def fileTransferPacketAuthorized (layout : LayoutState) (packet : FileTransferPacket) : Bool :=
  if isBlank layout.clusterId ∨ isBlank layout.pairSecret ∨ packet.clusterId ≠ layout.clusterId ∨
    packet.pairSecret ≠ layout.pairSecret then false
  else if layout.machineRole = "client" ∧ layout.pairedControllers ≠ [] then
    layout.pairedControllers.any (·.id = packet.originId)
  else true

def fileTransferPacketTargetsLocal (layout : LayoutState) (packet : FileTransferPacket)
    (localPeerId : String) : Bool :=
  isBlank packet.targetId || packet.targetId = localPeerId ||
    layout.devices.any fun device => device.role = "local" && device.id = packet.targetId

/-- Where a receiver is, and what it knows of itself. -/
structure ReceiverSetup where
  layout : LayoutState
  localPeerId : String
  root : String
  drawn : Drawn

def handleDecodedFileTransferPacket (setup : ReceiverSetup) (packet : FileTransferPacket) (s : Receiver) :
    Bool × Receiver :=
  if packet.protocol ≠ fileTransferProtocol then (false, s)
  else if !setup.layout.fileTransferEnabled then (false, s)
  else if !fileTransferPacketAuthorized setup.layout packet then (false, s)
  else if !fileTransferPacketTargetsLocal setup.layout packet setup.localPeerId then (false, s)
  else if packet.originId = setup.localPeerId then (true, s)
  else if packet.kind = "start" then startIncomingFileTransfer packet setup.root setup.drawn s
  else if packet.kind = "chunk" then appendIncomingFileTransferChunk packet s
  else if packet.kind = "finish" then finishIncomingFileTransfer packet s
  else (false, s)

/-- The packets one after the other: the sender gives up at the first one which is not accepted. -/
def deliver (setup : ReceiverSetup) : List FileTransferPacket → Receiver → Option Receiver
  | [], s => some s
  | packet :: packets, s =>
    let (accepted, s) := handleDecodedFileTransferPacket setup packet s
    if accepted then deliver setup packets s else none

end MyKvm.Files
