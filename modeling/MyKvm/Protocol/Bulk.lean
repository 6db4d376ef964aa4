import MyKvm.Protocol.Frames

/-!
# MyKvm.Protocol.Bulk — clipboard operations on the wire

A clipboard operation carries a text or an image, where it comes from, and the digest of its content.  The digest
is SHA-256 of the bytes of the content, as the program's crypto library computes it; it is a parameter here.
-/

namespace MyKvm.Protocol

open MyKvm.Lib

def maxClipboardImageRgbaBytes : ℕ := 32 * 1024 * 1024

/-- Thirty-two bytes. -/
abbrev Digest := Vector UInt8 32

structure ClipboardOperationId where
  bootId : BootId
  localSequence : UInt64
  deriving DecidableEq

structure ClipboardTextOperation where
  operationId : ClipboardOperationId
  originPeer : String
  systemRevision : UInt64
  lamport : UInt64
  digest : Digest
  text : String
  deriving DecidableEq

structure ClipboardImageOperation where
  operationId : ClipboardOperationId
  originPeer : String
  systemRevision : UInt64
  lamport : UInt64
  digest : Digest
  width : UInt32
  height : UInt32
  rgbaBase64 : String
  deriving DecidableEq

inductive ClipboardBulkOperation where
  | text (operation : ClipboardTextOperation)
  | image (operation : ClipboardImageOperation)
  deriving DecidableEq

section Checks

variable (clipboardTextDigest : String → Digest)

def validateClipboardTextOperation (operation : ClipboardTextOperation) : Except ProtocolError Unit := do
  validateText operation.originPeer maxPeerIdBytes "origin_peer"
  validateNonzero operation.operationId.localSequence "local_sequence"
  validateNonzero operation.lamport "lamport"
  refuseIf (operation.text = "") "text"
  refuseIf (operation.digest ≠ clipboardTextDigest operation.text) "digest"

/-- The products are computed without an overflow: one beyond the word is beyond the limit as well. -/
def validateClipboardImageOperation (operation : ClipboardImageOperation) : Except ProtocolError Unit := do
  validateText operation.originPeer maxPeerIdBytes "origin_peer"
  validateNonzero operation.operationId.localSequence "local_sequence"
  validateNonzero operation.lamport "lamport"
  refuseIf (operation.width = 0 ∨ operation.height = 0 ∨ operation.rgbaBase64 = "") "image"
  let rawBytes := operation.width.toNat * operation.height.toNat * 4
  refuseIf (maxClipboardImageRgbaBytes < rawBytes) "image_dimensions"
  refuseIf (operation.rgbaBase64.utf8ByteSize ≠ (rawBytes + 2) / 3 * 4) "image_encoding_length"
  refuseIf (operation.digest ≠ clipboardTextDigest operation.rgbaBase64) "digest"

/-- The check which both directions of the wire make. -/
def validateClipboardBulk : ClipboardBulkOperation → Except ProtocolError Unit
  | .text operation => validateClipboardTextOperation clipboardTextDigest operation
  | .image operation => validateClipboardImageOperation clipboardTextDigest operation

end Checks

theorem validateClipboardTextOperation_eq_ok {digest : String → Digest}
    {operation : ClipboardTextOperation} {u : Unit} :
    validateClipboardTextOperation digest operation = .ok u ↔
      fits operation.originPeer maxPeerIdBytes = true ∧ operation.operationId.localSequence ≠ 0 ∧
        operation.lamport ≠ 0 ∧ operation.text ≠ "" ∧ operation.digest = digest operation.text := by
  simp [validateClipboardTextOperation, bind_eq_ok]

theorem validateClipboardImageOperation_eq_ok {digest : String → Digest} {operation : ClipboardImageOperation}
    {u : Unit} :
    validateClipboardImageOperation digest operation = .ok u ↔
      fits operation.originPeer maxPeerIdBytes = true ∧ operation.operationId.localSequence ≠ 0 ∧
        operation.lamport ≠ 0 ∧ (operation.width ≠ 0 ∧ operation.height ≠ 0 ∧ operation.rgbaBase64 ≠ "") ∧
        operation.width.toNat * operation.height.toNat * 4 ≤ maxClipboardImageRgbaBytes ∧
        operation.rgbaBase64.utf8ByteSize = (operation.width.toNat * operation.height.toNat * 4 + 2) / 3 * 4 ∧
        operation.digest = digest operation.rgbaBase64 := by
  simp [validateClipboardImageOperation, bind_eq_ok]

end MyKvm.Protocol
