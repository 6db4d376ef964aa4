import Mathlib.Data.Prod.Lex
import Mathlib.Data.String.Basic
import MyKvm.Lib.Word
import MyKvm.Protocol.Wire

/-!
# MyKvm.Clipboard.Engine — which copy counts

The engine of the clipboard synchronisation and the two threads which call it: the observer (`offer`: what the
clipboard holds is a new copy, an echo, or nothing new) and the handler of what the peer sends (`receive`: decide,
write, commit, all of it under one lock).  The digest of a content is a parameter.

* `offer_eq`, `offer_cases`: what an observation does.
* `receive_cases`: what an operation of the peer does.
-/

namespace MyKvm.Clipboard

open MyKvm.Lib MyKvm.Protocol

/-! ### Operations and their order -/

/-- The derived order is lexicographic; texts and byte arrays compare by their bytes. -/
@[ext] structure OperationOrder where
  lamport : UInt64
  originPeer : String
  operationId : ClipboardOperationId
  deriving DecidableEq

def OperationOrder.key (o : OperationOrder) : ℕ ×ₗ String ×ₗ List ℕ ×ₗ ℕ :=
  toLex (o.lamport.toNat, toLex (o.originPeer,
    toLex (o.operationId.bootId.bytes.toList.map UInt8.toNat, o.operationId.localSequence.toNat)))

theorem OperationOrder.key_injective : Function.Injective OperationOrder.key := by
  rintro ⟨lamport, originPeer, ⟨bytes⟩, localSequence⟩ ⟨lamport', originPeer', ⟨bytes'⟩, localSequence'⟩ h
  obtain ⟨hlamport, hrest⟩ := Prod.mk.inj (toLex_inj.mp h)
  obtain ⟨hpeer, hid⟩ := Prod.mk.inj (toLex_inj.mp hrest)
  obtain ⟨hbytes, hsequence⟩ := Prod.mk.inj (toLex_inj.mp hid)
  have hlist : bytes.toList = bytes'.toList := List.map_injective_iff.mpr (fun _ _ => UInt8.toNat_inj.mp) hbytes
  obtain rfl : lamport = lamport' := UInt64.toNat_inj.mp hlamport
  obtain rfl : originPeer = originPeer' := hpeer
  obtain rfl : bytes = bytes' := Vector.toList_inj.mp hlist
  obtain rfl : localSequence = localSequence' := UInt64.toNat_inj.mp hsequence
  rfl

instance : LinearOrder OperationOrder := LinearOrder.lift' OperationOrder.key OperationOrder.key_injective

/-- The clock counts first. -/
theorem OperationOrder.lt_of_lamport {o o' : OperationOrder} (h : o.lamport.toNat < o'.lamport.toNat) : o < o' :=
  Prod.Lex.toLex_lt_toLex.mpr (.inl h)

structure ClipboardImage where
  width : UInt32
  height : UInt32
  rgbaBase64 : String
  deriving DecidableEq

inductive ClipboardContent where
  | text (text : String)
  | image (image : ClipboardImage)
  deriving DecidableEq

/-- What the digest of a content is made of. -/
def ClipboardContent.bytes : ClipboardContent → String
  | .text value => value
  | .image value => value.rgbaBase64

namespace Operation

def order : ClipboardBulkOperation → OperationOrder
  | .text operation => ⟨operation.lamport, operation.originPeer, operation.operationId⟩
  | .image operation => ⟨operation.lamport, operation.originPeer, operation.operationId⟩

def digest : ClipboardBulkOperation → Digest
  | .text operation => operation.digest
  | .image operation => operation.digest

def content : ClipboardBulkOperation → ClipboardContent
  | .text operation => .text operation.text
  | .image operation => .image ⟨operation.width, operation.height, operation.rgbaBase64⟩

end Operation

/-! ### Images -/

def checkedRgbaLen (width height : UInt32) : Except String ℕ :=
  let bytes := width.toNat * height.toNat * 4
  if 2 ^ 64 ≤ bytes then .error "clipboard image dimensions overflow"
  else if width = 0 ∨ height = 0 ∨ maxClipboardImageRgbaBytes < bytes then
    .error "clipboard image dimensions exceed the RGBA budget"
  else .ok bytes

def expectedBase64Len (rawBytes : ℕ) : ℕ := (rawBytes + 2) / 3 * 4

def maxImageEncodedBytes : ℕ := expectedBase64Len maxClipboardImageRgbaBytes

def validateImageData (width height : UInt32) (rgbaBase64 : String) : Except String ℕ := do
  let rawBytes ← checkedRgbaLen width height
  if rgbaBase64.utf8ByteSize ≠ expectedBase64Len rawBytes then
    .error "clipboard image encoding length does not match its dimensions"
  else .ok rawBytes

/-- `is_ok()` -/
def isValidImage (width height : UInt32) (rgbaBase64 : String) : Bool :=
  match validateImageData width height rgbaBase64 with
  | .ok _ => true
  | .error _ => false

/-! ### The engine -/

structure ClipboardSyncEngine where
  localPeer : String
  bootId : BootId
  lastLocalRevision : UInt64
  localSequence : UInt64
  lamport : UInt64
  textLimit : ℕ
  currentOrder : Option OperationOrder
  currentDigest : Option Digest
  appliedRemoteEcho : Option (UInt64 × Digest × ClipboardOperationId)
  deriving DecidableEq

/-- `LocalClipboardDecision` and `LocalImageDecision`. -/
inductive LocalDecision (α : Type) where
  | send (operation : α)
  | echo
  | unchanged
  | oversized (bytes limit : ℕ)

inductive RemoteClipboardDecision where
  | apply
  | ignoreDuplicate
  | ignoreStale
  | rejectInvalid
  deriving DecidableEq

/-- What the observer goes on with. -/
def LocalDecision.operation? {α : Type} : LocalDecision α → Option α
  | .send operation => some operation
  | _ => none

namespace ClipboardSyncEngine

def new (localPeer : String) (bootId : BootId) (baselineRevision : UInt64) (textLimit : ℕ) :
    Except String ClipboardSyncEngine :=
  if fits localPeer maxPeerIdBytes = false then .error "invalid local peer id"
  else if textLimit = 0 then .error "text limit must be positive"
  else .ok ⟨localPeer, bootId, baselineRevision, 0, 0, textLimit, none, none, none⟩

/-- The revision was looked at. -/
def observed (engine : ClipboardSyncEngine) (systemRevision : UInt64) : ClipboardSyncEngine :=
  { engine with lastLocalRevision := systemRevision, appliedRemoteEcho := none }

/-- What the engine itself wrote for the peer. -/
def isEcho (engine : ClipboardSyncEngine) (systemRevision : UInt64) (digest : Digest) : Bool :=
  match engine.appliedRemoteEcho with
  | none => false
  | some (revision, expected, _) => revision == systemRevision && expected == digest

def nextOperationId (engine : ClipboardSyncEngine) : ClipboardOperationId :=
  ⟨engine.bootId, saturatingAdd engine.localSequence 1⟩

/-- The order which the next operation of the engine gets. -/
def nextOrder (engine : ClipboardSyncEngine) : OperationOrder :=
  ⟨saturatingAdd engine.lamport 1, engine.localPeer, engine.nextOperationId⟩

/-- The engine after an operation of its own. -/
def advance (engine : ClipboardSyncEngine) (digest : Digest) : ClipboardSyncEngine :=
  { engine with
    localSequence := saturatingAdd engine.localSequence 1, lamport := saturatingAdd engine.lamport 1,
    currentOrder := some engine.nextOrder, currentDigest := some digest }

/-- What both kinds of new operations do; `build` makes the operation. -/
def newOperation {α : Type} (bytes limit : ℕ) (digest : Digest) (build : OperationOrder → α)
    (engine : ClipboardSyncEngine) : LocalDecision α × ClipboardSyncEngine :=
  if limit < bytes then (.oversized bytes limit, engine)
  else (.send (build engine.nextOrder), engine.advance digest)

def newLocalOperation (systemRevision : UInt64) (text : String) (digest : Digest) (engine : ClipboardSyncEngine) :
    LocalDecision ClipboardTextOperation × ClipboardSyncEngine :=
  newOperation text.utf8ByteSize engine.textLimit digest
    (fun order => ⟨order.operationId, order.originPeer, systemRevision, order.lamport, digest, text⟩) engine

def newLocalImageOperation (systemRevision : UInt64) (width height : UInt32) (rgbaBase64 : String)
    (encodedLimit : ℕ) (digest : Digest) (engine : ClipboardSyncEngine) :
    LocalDecision ClipboardImageOperation × ClipboardSyncEngine :=
  newOperation rgbaBase64.utf8ByteSize encodedLimit digest
    (fun order => ⟨order.operationId, order.originPeer, systemRevision, order.lamport, digest, width, height,
      rgbaBase64⟩) engine

/-- What both kinds of observations do; `create` is the new operation. -/
def observeLocal {α : Type} (systemRevision : UInt64) (digest : Digest)
    (create : ClipboardSyncEngine → LocalDecision α × ClipboardSyncEngine) (engine : ClipboardSyncEngine) :
    LocalDecision α × ClipboardSyncEngine :=
  if engine.isEcho systemRevision digest then (.echo, engine.observed systemRevision)
  else if systemRevision = engine.lastLocalRevision then (.unchanged, engine)
  else create (engine.observed systemRevision)

section Calls

variable (clipboardTextDigest : String → Digest)

def observeLocalText (systemRevision : UInt64) (text : String) (engine : ClipboardSyncEngine) :
    LocalDecision ClipboardTextOperation × ClipboardSyncEngine :=
  let digest := clipboardTextDigest text
  observeLocal systemRevision digest (newLocalOperation systemRevision text digest) engine

def manualResendText (systemRevision : UInt64) (text : String) (engine : ClipboardSyncEngine) :
    LocalDecision ClipboardTextOperation × ClipboardSyncEngine :=
  newLocalOperation systemRevision text (clipboardTextDigest text) (engine.observed systemRevision)

def observeLocalImage (systemRevision : UInt64) (width height : UInt32) (rgbaBase64 : String) (encodedLimit : ℕ)
    (engine : ClipboardSyncEngine) : LocalDecision ClipboardImageOperation × ClipboardSyncEngine :=
  let digest := clipboardTextDigest rgbaBase64
  observeLocal systemRevision digest
    (newLocalImageOperation systemRevision width height rgbaBase64 encodedLimit digest) engine

def manualResendImage (systemRevision : UInt64) (width height : UInt32) (rgbaBase64 : String) (encodedLimit : ℕ)
    (engine : ClipboardSyncEngine) : LocalDecision ClipboardImageOperation × ClipboardSyncEngine :=
  newLocalImageOperation systemRevision width height rgbaBase64 encodedLimit (clipboardTextDigest rgbaBase64)
    (engine.observed systemRevision)

/-- What both kinds of operations of the peer do, once they have passed the checks: the clock is set forward. -/
def compareRemote (incoming : OperationOrder) (engine : ClipboardSyncEngine) :
    RemoteClipboardDecision × ClipboardSyncEngine :=
  let decision := match engine.currentOrder with
    | none => .apply
    | some current =>
      if incoming = current then .ignoreDuplicate else if incoming < current then .ignoreStale else .apply
  (decision, { engine with lamport := max engine.lamport incoming.lamport })

def considerRemote (operation : ClipboardTextOperation) (engine : ClipboardSyncEngine) :
    RemoteClipboardDecision × ClipboardSyncEngine :=
  if fits operation.originPeer maxPeerIdBytes = false ∨ operation.operationId.localSequence = 0 ∨
      operation.lamport = 0 ∨ operation.text = "" ∨ engine.textLimit < operation.text.utf8ByteSize ∨
      operation.digest ≠ clipboardTextDigest operation.text then (.rejectInvalid, engine)
  else compareRemote (Operation.order (.text operation)) engine

def considerRemoteImage (operation : ClipboardImageOperation) (engine : ClipboardSyncEngine) :
    RemoteClipboardDecision × ClipboardSyncEngine :=
  if fits operation.originPeer maxPeerIdBytes = false ∨ operation.operationId.localSequence = 0 ∨
      operation.lamport = 0 ∨ operation.width = 0 ∨ operation.height = 0 ∨ operation.rgbaBase64 = "" ∨
      operation.digest ≠ clipboardTextDigest operation.rgbaBase64 then (.rejectInvalid, engine)
  else compareRemote (Operation.order (.image operation)) engine

def commitRemoteParts (lamport : UInt64) (originPeer : String) (operationId : ClipboardOperationId)
    (digest : Digest) (appliedSystemRevision : UInt64) (engine : ClipboardSyncEngine) : ClipboardSyncEngine :=
  { engine with
    currentOrder := some ⟨lamport, originPeer, operationId⟩, currentDigest := some digest,
    appliedRemoteEcho := some (appliedSystemRevision, digest, operationId) }

/-! ### The observer and the handler -/

/-- The turn of the observer loop once it has read a content: the operation to send, if there is one. -/
def offer (imageAllowed manualResend : Bool) (systemRevision : UInt64) (content : ClipboardContent)
    (engine : ClipboardSyncEngine) : Option ClipboardBulkOperation × ClipboardSyncEngine :=
  match content with
  | .text text =>
    let (decision, engine) :=
      if manualResend then manualResendText clipboardTextDigest systemRevision text engine
      else observeLocalText clipboardTextDigest systemRevision text engine
    (decision.operation?.map .text, engine)
  | .image image =>
    if imageAllowed = true ∧ isValidImage image.width image.height image.rgbaBase64 = true then
      let (decision, engine) :=
        if manualResend then
          manualResendImage clipboardTextDigest systemRevision image.width image.height image.rgbaBase64
            maxImageEncodedBytes engine
        else
          observeLocalImage clipboardTextDigest systemRevision image.width image.height image.rgbaBase64
            maxImageEncodedBytes engine
      (decision.operation?.map .image, engine)
    else (none, engine)

/-- The decision of the handler; without one the operation is refused before the engine sees it. -/
def decideRemote (imageAllowed : Bool) (operation : ClipboardBulkOperation) (engine : ClipboardSyncEngine) :
    Option RemoteClipboardDecision × ClipboardSyncEngine :=
  match operation with
  | .text operation =>
    let (decision, engine) := considerRemote clipboardTextDigest operation engine
    (some decision, engine)
  | .image operation =>
    if imageAllowed = false ∨ isValidImage operation.width operation.height operation.rgbaBase64 = false then
      (none, engine)
    else
      let (decision, engine) := considerRemoteImage clipboardTextDigest operation engine
      (some decision, engine)

/-- The commit of the handler. -/
def commitRemote (operation : ClipboardBulkOperation) (appliedRevision : UInt64) (engine : ClipboardSyncEngine) :
    ClipboardSyncEngine :=
  let order := Operation.order operation
  commitRemoteParts order.lamport order.originPeer order.operationId (Operation.digest operation) appliedRevision
    engine

/-- What the handler does while it holds the lock; it returns whether the operation is acknowledged.
`writeContent` says whether the clipboard takes the content, and `appliedRevision` is what
`revision_after_write` reads. -/
def receive (imageAllowed : Bool) (writeContent : ClipboardContent → Bool) (appliedRevision : UInt64)
    (operation : ClipboardBulkOperation) (engine : ClipboardSyncEngine) : Bool × ClipboardSyncEngine :=
  match decideRemote clipboardTextDigest imageAllowed operation engine with
  | (some .ignoreDuplicate, engine) => (true, engine)
  | (some .ignoreStale, engine) => (true, engine)
  | (some .apply, engine) =>
    if writeContent (Operation.content operation) then (true, engine.commitRemote operation appliedRevision)
    else (false, engine)
  | (_, engine) => (false, engine)

/-- The operation comes from the peer whose connection it came over, and from nobody else. -/
def isFrom (operation : ClipboardBulkOperation) (authenticatedPeer localPeerId : String) : Bool :=
  let originPeer := (Operation.order operation).originPeer
  originPeer == authenticatedPeer && originPeer != localPeerId

end Calls

end ClipboardSyncEngine

/-- The whole handler, on the shared engine. -/
def handleV2ClipboardOperationWithRevision (clipboardTextDigest : String → Digest)
    (codec : Codec ClipboardBulkOperation) (payload : List UInt8) (authenticatedPeer localPeerId : String)
    (imageAllowed : Bool) (writeContent : ClipboardContent → Bool) (appliedRevision : UInt64)
    (syncEngine : Option ClipboardSyncEngine) : Bool × Option ClipboardSyncEngine :=
  match decodeClipboardBulk clipboardTextDigest codec payload with
  | .error _ => (false, syncEngine)
  | .ok operation =>
    if ClipboardSyncEngine.isFrom operation authenticatedPeer localPeerId = false then (false, syncEngine)
    else
      match syncEngine with
      | none => (false, none)
      | some engine =>
        let (acknowledged, engine) :=
          engine.receive clipboardTextDigest imageAllowed writeContent appliedRevision operation
        (acknowledged, some engine)

end MyKvm.Clipboard
