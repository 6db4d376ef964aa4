import MyKvm.Clipboard.Outrank

/-!
# MyKvm.Clipboard.Limits — what the sender accepts the receiver accepts

A content is checked four times on its way: by the clipboard, by the engine, by the encoder and by the engine of
the peer.  `Word` holds the checks of an image as the machine computes them, in words which report an overflow;
they are the checks in ℕ (`Word.validateImageData_eq`, `Word.validateImage_eq_ok`).

* `packBulkEnvelope_length_le`: how much longer than its content an operation is.
* `accepted_by_receiver`: the result.
-/

namespace MyKvm.Clipboard

open MyKvm.Lib MyKvm.Lib.MessagePack MyKvm.Protocol ClipboardSyncEngine

/-! ### The checks of an image, in words -/

namespace Word

/-- `width * height * 4` -/
def rgbaBytes (width height : UInt32) : Option UInt64 :=
  (checkedMul width.toUInt64 height.toUInt64).bind fun pixels => checkedMul pixels 4

/-- `(raw + 2) / 3 * 4` -/
def base64Bytes (rawBytes : UInt64) : Option UInt64 :=
  (checkedAdd rawBytes 2).bind fun value => checkedMul (value / 3) 4

def checkedRgbaLen (width height : UInt32) : Except String UInt64 :=
  match rgbaBytes width height with
  | none => .error "clipboard image dimensions overflow"
  | some bytes =>
    if width = 0 ∨ height = 0 ∨ maxClipboardImageRgbaBytes < bytes.toNat then
      .error "clipboard image dimensions exceed the RGBA budget"
    else .ok bytes

def expectedBase64Len (rawBytes : UInt64) : Except String UInt64 :=
  match base64Bytes rawBytes with
  | none => .error "clipboard image encoding length overflow"
  | some bytes => .ok bytes

/-- `clipboard::validate_image_data` -/
def validateImageData (width height : UInt32) (rgbaBase64 : String) : Except String UInt64 := do
  let rawBytes ← checkedRgbaLen width height
  let encodedBytes ← expectedBase64Len rawBytes
  if rgbaBase64.utf8ByteSize ≠ encodedBytes.toNat then
    .error "clipboard image encoding length does not match its dimensions"
  else .ok rawBytes

/-- `ok_or` -/
def okOr {α : Type} (value : Option α) (field : String) : Except ProtocolError α :=
  match value with
  | none => .error (.invalidField field)
  | some a => .ok a

/-- The checks of the dimensions and of the encoded length in `validate_clipboard_image_operation`. -/
def validateImage (width height : UInt32) (rgbaBase64 : String) : Except ProtocolError Unit := do
  refuseIf (width = 0 ∨ height = 0 ∨ rgbaBase64 = "") "image"
  let rawBytes ← okOr ((rgbaBytes width height).filter (·.toNat ≤ maxClipboardImageRgbaBytes)) "image_dimensions"
  let expectedEncoded ← okOr (base64Bytes rawBytes) "image_dimensions"
  refuseIf (rgbaBase64.utf8ByteSize ≠ expectedEncoded.toNat) "image_encoding_length"

@[simp] theorem okOr_eq_ok {α : Type} {value : Option α} {field : String} {a : α} :
    okOr value field = .ok a ↔ value = some a := by
  cases value <;> simp [okOr]

/-- The product is computed, or it is beyond the word. -/
theorem rgbaBytes_eq_some {width height : UInt32} {bytes : UInt64} :
    rgbaBytes width height = some bytes ↔ width.toNat * height.toNat * 4 = bytes.toNat := by
  have hw := width.toNat_lt
  have hh := height.toNat_lt
  have hpixels : width.toNat * height.toNat < 2 ^ 64 := by
    calc width.toNat * height.toNat ≤ 2 ^ 32 * height.toNat := Nat.mul_le_mul_right _ hw.le
      _ < 2 ^ 32 * 2 ^ 32 := Nat.mul_lt_mul_of_pos_left hh (by decide)
  obtain ⟨pixels, hsome⟩ : ∃ pixels, checkedMul width.toUInt64 height.toUInt64 = some pixels := by
    cases h : checkedMul width.toUInt64 height.toUInt64 with
    | some pixels => exact ⟨pixels, rfl⟩
    | none =>
      have hover := checkedMul_eq_none.mp h
      rw [UInt32.toNat_toUInt64, UInt32.toNat_toUInt64] at hover
      omega
  have hvalue := checkedMul_eq_some.mp hsome
  rw [UInt32.toNat_toUInt64, UInt32.toNat_toUInt64] at hvalue
  unfold rgbaBytes
  rw [hsome, Option.bind_some, checkedMul_eq_some, hvalue]
  rfl

theorem rgbaBytes_eq_none {width height : UInt32} :
    rgbaBytes width height = none ↔ 2 ^ 64 ≤ width.toNat * height.toNat * 4 := by
  constructor
  · intro hnone
    by_contra hfits
    have hsome : rgbaBytes width height = some (.ofNat (width.toNat * height.toNat * 4)) := by
      rw [rgbaBytes_eq_some, UInt64.toNat_ofNat_of_lt' (by simpa using hfits)]
    rw [hnone] at hsome
    cases hsome
  · intro hover
    cases h : rgbaBytes width height with
    | none => rfl
    | some bytes =>
      have hvalue := rgbaBytes_eq_some.mp h
      have hbound := toNat_lt_size bytes
      omega

/-- Within the limit of an image the encoded length is computed. -/
theorem exists_base64Bytes {rawBytes : UInt64} (h : rawBytes.toNat ≤ maxClipboardImageRgbaBytes) :
    ∃ bytes, base64Bytes rawBytes = some bytes ∧ bytes.toNat = Clipboard.expectedBase64Len rawBytes.toNat := by
  have htwo : (2 : UInt64).toNat = 2 := rfl
  have hthree : (3 : UInt64).toNat = 3 := rfl
  have hfour : (4 : UInt64).toNat = 4 := rfl
  unfold maxClipboardImageRgbaBytes at h
  unfold base64Bytes Clipboard.expectedBase64Len
  cases hadd : checkedAdd rawBytes 2 with
  | none =>
    have hover := checkedAdd_eq_none.mp hadd
    omega
  | some value =>
    have hvalue := checkedAdd_eq_some.mp hadd
    rw [Option.bind_some]
    cases hmul : checkedMul (value / 3) 4 with
    | none =>
      have hover := checkedMul_eq_none.mp hmul
      rw [UInt64.toNat_div, hthree, hfour] at hover
      omega
    | some bytes =>
      have hbytes := checkedMul_eq_some.mp hmul
      rw [UInt64.toNat_div, hthree, hfour] at hbytes
      exact ⟨bytes, rfl, by omega⟩

/-- **The check of the clipboard**, with its errors, is the one in ℕ: nothing wraps. -/
theorem validateImageData_eq (width height : UInt32) (rgbaBase64 : String) :
    (validateImageData width height rgbaBase64).map UInt64.toNat =
      Clipboard.validateImageData width height rgbaBase64 := by
  unfold validateImageData Clipboard.validateImageData checkedRgbaLen Clipboard.checkedRgbaLen
  cases hbytes : rgbaBytes width height with
  | none =>
    have hover := rgbaBytes_eq_none.mp hbytes
    simp only [if_pos hover]
    rfl
  | some bytes =>
    have hvalue := rgbaBytes_eq_some.mp hbytes
    have hfits : ¬ 2 ^ 64 ≤ bytes.toNat := Nat.not_le.mpr (toNat_lt_size bytes)
    simp only [hvalue, if_neg hfits]
    by_cases hlarge : width = 0 ∨ height = 0 ∨ maxClipboardImageRgbaBytes < bytes.toNat
    · simp only [if_pos hlarge]
      rfl
    · have hlimit : bytes.toNat ≤ maxClipboardImageRgbaBytes := by omega
      obtain ⟨encoded, hencoded, hlength⟩ := exists_base64Bytes hlimit
      simp only [if_neg hlarge, bind, Except.bind, expectedBase64Len, hencoded, hlength]
      split_ifs <;> rfl

/-- **The check of the protocol**, of the dimensions and of the length. -/
theorem validateImage_eq_ok {width height : UInt32} {rgbaBase64 : String} :
    validateImage width height rgbaBase64 = .ok () ↔
      (width ≠ 0 ∧ height ≠ 0 ∧ rgbaBase64 ≠ "") ∧ width.toNat * height.toNat * 4 ≤ maxClipboardImageRgbaBytes ∧
        rgbaBase64.utf8ByteSize = Clipboard.expectedBase64Len (width.toNat * height.toNat * 4) := by
  unfold validateImage
  simp only [bind_eq_ok, refuseIf_eq_ok, okOr_eq_ok, Option.filter_eq_some_iff, decide_eq_true_eq, not_or,
    Decidable.not_not]
  constructor
  · rintro ⟨_, hempty, rawBytes, ⟨hbytes, hfits⟩, expectedEncoded, hencoded, hlength⟩
    obtain ⟨bytes, hsome, hvalue⟩ := exists_base64Bytes hfits
    obtain rfl : bytes = expectedEncoded := Option.some.inj (hsome.symm.trans hencoded)
    rw [rgbaBytes_eq_some.mp hbytes]
    exact ⟨hempty, hfits, hlength.trans hvalue⟩
  · rintro ⟨hempty, hfits, hlength⟩
    cases hbytes : rgbaBytes width height with
    | none =>
      have hover := rgbaBytes_eq_none.mp hbytes
      unfold maxClipboardImageRgbaBytes at hfits
      omega
    | some rawBytes =>
      rw [rgbaBytes_eq_some.mp hbytes] at hfits hlength
      obtain ⟨bytes, hsome, hvalue⟩ := exists_base64Bytes hfits
      exact ⟨(), hempty, rawBytes, ⟨rfl, hfits⟩, bytes, hsome, hlength.trans hvalue.symm⟩

/-- **The clipboard and the protocol accept the same images.** -/
theorem validateImageData_iff (width height : UInt32) (rgbaBase64 : String) :
    (∃ rawBytes, validateImageData width height rgbaBase64 = .ok rawBytes) ↔
      validateImage width height rgbaBase64 = .ok () := by
  have hsame := validateImageData_eq width height rgbaBase64
  have hvalid : (∃ rawBytes, validateImageData width height rgbaBase64 = .ok rawBytes) ↔
      isValidImage width height rgbaBase64 = true := by
    unfold isValidImage
    rw [← hsame]
    cases validateImageData width height rgbaBase64 <;> simp [Except.map]
  rw [hvalid, validateImage_eq_ok]
  constructor
  · intro h
    obtain ⟨⟨hw, hh⟩, hfits, hlength⟩ := isValidImage_eq_true.mp h
    exact ⟨⟨hw, hh, ne_empty_of_isValidImage h⟩, hfits, hlength⟩
  · rintro ⟨⟨hw, hh, -⟩, hfits, hlength⟩
    exact isValidImage_eq_true.mpr ⟨⟨hw, hh⟩, hfits, hlength⟩

end Word

/-! ### The size of an operation -/

theorem packDigest_length_le (digest : Digest) : (packDigest digest).length ≤ 293 := by
  have hitems : ∀ item ∈ digest.toList.map (packUInt ·.toNat), item.length ≤ 9 := by
    intro item hitem
    obtain ⟨b, -, rfl⟩ := List.mem_map.mp hitem
    exact packUInt_length_le _
  have hle := packArray_length_le_of hitems
  rw [List.length_map, Vector.length_toList] at hle
  exact hle

theorem packOperationId_length_le (operationId : ClipboardOperationId) :
    (packOperationId operationId).length ≤ 400 := by
  have hboot := packBytes16_length_le operationId.bootId.bytes
  have hsequence := packUInt_length_le operationId.localSequence.toNat
  refine packMap_length_le_of (k := 16) (m := 149) rfl ?_ (by simp)
  simp
  omega

/-- **An operation is little longer than its content.** -/
theorem packBulkOperation_length_le {operation : ClipboardBulkOperation}
    (hpeer : fits (Operation.order operation).originPeer maxPeerIdBytes = true) :
    (packBulkOperation operation).length ≤ 1500 + (Operation.content operation).bytes.utf8ByteSize := by
  have hname := packText_length_le (fits_size hpeer)
  unfold maxPeerIdBytes at hname
  cases operation with
  | text operation =>
    have hkind : (packStr "text").length ≤ 16 := packText_length_le (n := 11) (by decide)
    have hid := packOperationId_length_le operation.operationId
    have hrevision := packUInt_length_le operation.systemRevision.toNat
    have hlamport := packUInt_length_le operation.lamport.toNat
    have hdigest := packDigest_length_le operation.digest
    have hcontent := packStr_length_le operation.text
    refine (packMap_length_le_sum (k := 16) rfl).trans ?_
    simp only [List.map_cons, List.map_nil, List.sum_cons, List.sum_nil, List.length_cons, List.length_nil]
    simp only [Operation.order] at hname
    simp only [Operation.content, ClipboardContent.bytes]
    omega
  | image operation =>
    have hkind : (packStr "image").length ≤ 16 := packText_length_le (n := 11) (by decide)
    have hid := packOperationId_length_le operation.operationId
    have hrevision := packUInt_length_le operation.systemRevision.toNat
    have hlamport := packUInt_length_le operation.lamport.toNat
    have hdigest := packDigest_length_le operation.digest
    have hwidth := packUInt_length_le operation.width.toNat
    have hheight := packUInt_length_le operation.height.toNat
    have hcontent := packStr_length_le operation.rgbaBase64
    refine (packMap_length_le_sum (k := 16) rfl).trans ?_
    simp only [List.map_cons, List.map_nil, List.sum_cons, List.sum_nil, List.length_cons, List.length_nil]
    simp only [Operation.order] at hname
    simp only [Operation.content, ClipboardContent.bytes]
    omega

theorem packBulkEnvelope_length_le (envelope : Envelope ClipboardBulkOperation) :
    (packBulkEnvelope envelope).length ≤ 100 + (packBulkOperation envelope.body).length := by
  have hmagic := packUInt_length_le envelope.magic.toNat
  have hmajor := packUInt_length_le envelope.major.toNat
  refine (packMap_length_le_sum (k := 16) rfl).trans ?_
  simp only [List.map_cons, List.map_nil, List.sum_cons, List.sum_nil, List.length_cons, List.length_nil]
  omega

/-! ### From the sender to the receiver -/

def clipboardTextLimitMinBytes : ℕ := 64 * 1024
def clipboardTextLimitMaxBytes : ℕ := 1536 * 1024

/-- The text limit with which the program makes its engines. -/
def normalizeClipboardTextLimitBytes (value : ℕ) : ℕ :=
  max clipboardTextLimitMinBytes (min value clipboardTextLimitMaxBytes)

/-- A call of the observer on the engine, with any limit for images. -/
inductive LocalCall where
  | text (manualResend : Bool) (systemRevision : UInt64) (text : String)
  | image (manualResend : Bool) (systemRevision : UInt64) (width height : UInt32) (rgbaBase64 : String)
      (encodedLimit : ℕ)

namespace LocalCall

def content : LocalCall → ClipboardContent
  | .text _ _ value => .text value
  | .image _ _ width height rgbaBase64 _ => .image ⟨width, height, rgbaBase64⟩

def systemRevision : LocalCall → UInt64
  | .text _ systemRevision _ => systemRevision
  | .image _ systemRevision _ _ _ _ => systemRevision

/-- The limit which the call keeps. -/
def limit (engine : ClipboardSyncEngine) : LocalCall → ℕ
  | .text .. => engine.textLimit
  | .image _ _ _ _ _ encodedLimit => encodedLimit

/-- The operation which the engine emits, if it does. -/
def emitted (clipboardTextDigest : String → Digest) (engine : ClipboardSyncEngine) :
    LocalCall → Option ClipboardBulkOperation
  | .text manualResend systemRevision value =>
    let answer :=
      if manualResend then engine.manualResendText clipboardTextDigest systemRevision value
      else engine.observeLocalText clipboardTextDigest systemRevision value
    answer.1.operation?.map .text
  | .image manualResend systemRevision width height rgbaBase64 encodedLimit =>
    let answer :=
      if manualResend then
        engine.manualResendImage clipboardTextDigest systemRevision width height rgbaBase64 encodedLimit
      else engine.observeLocalImage clipboardTextDigest systemRevision width height rgbaBase64 encodedLimit
    answer.1.operation?.map .image

variable {clipboardTextDigest : String → Digest} {engine : ClipboardSyncEngine} {call : LocalCall}
  {operation : ClipboardBulkOperation}

/-- What a new operation is, and what it keeps. -/
theorem newOperation_eq_some {α : Type} {wrap : α → ClipboardBulkOperation} {bytes limit : ℕ} {digest : Digest}
    {build : OperationOrder → α}
    (h : (outcome wrap (newOperation bytes limit digest build engine)).1 = some operation) :
    operation = wrap (build engine.nextOrder) ∧ bytes ≤ limit := by
  rw [newOperation_outcome] at h
  split_ifs at h with hlarge
  exact ⟨(Option.some.inj h).symm, Nat.not_lt.mp hlarge⟩

/-- **What is emitted** carries the content within the limit; its order comes from the engine. -/
theorem emitted_eq_some (h : call.emitted clipboardTextDigest engine = some operation) :
    operation = Operation.make clipboardTextDigest engine.nextOrder call.systemRevision call.content ∧
      call.content.bytes.utf8ByteSize ≤ call.limit engine := by
  cases call with
  | text manualResend systemRevision value =>
    cases manualResend with
    | true =>
      have hsent : (outcome .text (engine.manualResendText clipboardTextDigest systemRevision value)).1 =
        some operation := h
      exact newOperation_eq_some hsent
    | false =>
      have hobserved : (outcome .text (engine.observeLocalText clipboardTextDigest systemRevision value)).1 =
        some operation := h
      unfold observeLocalText at hobserved
      rw [observeLocal_outcome] at hobserved
      split_ifs at hobserved
      exact newOperation_eq_some hobserved
  | image manualResend systemRevision width height rgbaBase64 encodedLimit =>
    cases manualResend with
    | true =>
      have hsent :
          (outcome .image (engine.manualResendImage clipboardTextDigest systemRevision width height rgbaBase64
        encodedLimit)).1 = some operation := h
      exact newOperation_eq_some hsent
    | false =>
      have hobserved : (outcome .image (engine.observeLocalImage clipboardTextDigest systemRevision width height
        rgbaBase64 encodedLimit)).1 = some operation := h
      unfold observeLocalImage at hobserved
      rw [observeLocal_outcome] at hobserved
      split_ifs at hobserved
      exact newOperation_eq_some hobserved

end LocalCall

/-- The calls change neither the name nor the limit. -/
theorem ClipboardSyncEngine.next_identity (clipboardTextDigest : String → Digest) (engine : ClipboardSyncEngine)
    (call : EngineCall) :
    (engine.next clipboardTextDigest call).localPeer = engine.localPeer ∧
      (engine.next clipboardTextDigest call).textLimit = engine.textLimit := by
  cases call with
  | offer imageAllowed manualResend systemRevision content =>
    have hsame := offer_identity clipboardTextDigest imageAllowed manualResend systemRevision content engine
    simp only [Prod.mk.injEq] at hsame
    exact ⟨hsame.1, hsame.2.2⟩
  | receive authenticatedPeer imageAllowed written appliedRevision operation =>
    unfold next
    dsimp only
    split
    · exact ⟨rfl, rfl⟩
    split_ifs
    · exact ⟨rfl, rfl⟩
    rcases receive_cases clipboardTextDigest imageAllowed (fun _ => written) appliedRevision operation engine with
      ⟨-, hrefused | ⟨-, hold⟩⟩ | ⟨-, -, happlied⟩
    · rw [hrefused]
      exact ⟨rfl, rfl⟩
    · rw [hold]
      exact ⟨rfl, rfl⟩
    · rw [happlied]
      split_ifs
      · exact ⟨rfl, rfl⟩
      · exact ⟨rfl, rfl⟩

/-- What passed the check of the wire and keeps the limit is judged by its order. -/
theorem decideRemote_not_invalid {clipboardTextDigest : String → Digest} {operation : ClipboardBulkOperation}
    {engine : ClipboardSyncEngine} (hvalid : validateClipboardBulk clipboardTextDigest operation = .ok ())
    (hlimit : (Operation.content operation).bytes.utf8ByteSize ≤ engine.limit (Operation.content operation)) :
    ∃ decision, (decideRemote clipboardTextDigest true operation engine).1 = some decision ∧
      decision ≠ .rejectInvalid := by
  refine ⟨_, congrArg Prod.fst (decideRemote_valid hvalid hlimit), fun hreject => ?_⟩
  rcases engine.compareRemote_eq (Operation.order operation) with ⟨hdecision, -⟩ | ⟨hdecision | hdecision, -⟩
  all_goals
    rw [hdecision] at hreject
    cases hreject

/-- A valid content is within the limit of an engine, if it is within its limit for texts. -/
theorem size_le_limit {engine : ClipboardSyncEngine} {content : ClipboardContent} (hvalid : content.isValid = true)
    (htext : ∀ value, content = .text value → value.utf8ByteSize ≤ engine.textLimit) :
    content.bytes.utf8ByteSize ≤ engine.limit content := by
  cases content with
  | text value => exact htext value rfl
  | image value =>
    obtain ⟨-, hfits, hlength⟩ := isValidImage_eq_true.mp hvalid
    show value.rgbaBase64.utf8ByteSize ≤ maxImageEncodedBytes
    rw [hlength]
    unfold maxImageEncodedBytes expectedBase64Len
    omega

/-- What a limit lets through fits on the wire. -/
theorem limit_le {engine : ClipboardSyncEngine} (h : engine.textLimit ≤ clipboardTextLimitMaxBytes)
    (content : ClipboardContent) : 1600 + engine.limit content ≤ maxBulkFrameBytes := by
  have himage : 1600 + maxImageEncodedBytes ≤ maxBulkFrameBytes := by decide
  unfold clipboardTextLimitMaxBytes at h
  cases content with
  | text value =>
    show 1600 + engine.textLimit ≤ maxBulkFrameBytes
    unfold maxBulkFrameBytes
    omega
  | image value => exact himage

/-- An operation within the limit of the wire is encoded, and decoded to itself. -/
theorem encodeClipboardBulk_eq_ok {clipboardTextDigest : String → Digest} {codec : Codec ClipboardBulkOperation}
    {operation : ClipboardBulkOperation} (hvalid : validateClipboardBulk clipboardTextDigest operation = .ok ())
    (hpacks : codec.Packs packBulkEnvelope ⟨bulkMagic, protocolMajor, operation⟩)
    (hpeer : fits (Operation.order operation).originPeer maxPeerIdBytes = true)
    (hsize : 1600 + (Operation.content operation).bytes.utf8ByteSize ≤ maxBulkFrameBytes) :
    ∃ payload, encodeClipboardBulk clipboardTextDigest codec operation = .ok payload ∧
      payload.length ≤ maxBulkFrameBytes ∧ decodeClipboardBulk clipboardTextDigest codec payload =
        .ok operation := by
  have hpacked := packBulkEnvelope_length_le ⟨bulkMagic, protocolMajor, operation⟩
  have hcontent := packBulkOperation_length_le hpeer
  have hfits : (packBulkEnvelope ⟨bulkMagic, protocolMajor, operation⟩).length ≤ maxBulkFrameBytes := by
    dsimp only at hpacked
    omega
  obtain ⟨payload, hencode, -, hle, -⟩ := encodePayload_packs hvalid hpacks (packMap_ne_nil _) hfits
  refine ⟨payload, hencode, hle, decodeWhole_encodePayload (fun bytes hbytes => ?_) hencode⟩
  obtain ⟨packed, hsome, -, hback⟩ := hpacks
  obtain rfl : packed = bytes := Option.some.inj (hsome.symm.trans hbytes)
  exact hback

/-- **What the sender accepts the receiver accepts.**  The clipboard and the protocol accept the same images, and
compute what is computed in ℕ.  What an engine emits of a valid content, in every state which its calls lead to, is
encoded within the limit of the wire and decoded to itself, and every engine with the same limit judges it by its
order.  The library for the wire packs the operation in the bytes of the format and reads it back. -/
theorem accepted_by_receiver (clipboardTextDigest : String → Digest) (codec : Codec ClipboardBulkOperation) :
    (∀ width height rgbaBase64,
        ((∃ rawBytes, Word.validateImageData width height rgbaBase64 = .ok rawBytes) ↔
          Word.validateImage width height rgbaBase64 = .ok ()) ∧
        (Word.validateImageData width height rgbaBase64).map UInt64.toNat =
          validateImageData width height rgbaBase64) ∧
      ∀ localPeer bootId baselineRevision value engine,
        ClipboardSyncEngine.new localPeer bootId baselineRevision
          (normalizeClipboardTextLimitBytes value) = .ok engine →
          ∀ (calls : List EngineCall) (call : LocalCall) operation,
            call.emitted clipboardTextDigest (run (ClipboardSyncEngine.next clipboardTextDigest) engine calls) =
                some operation →
              call.content.isValid = true →
              codec.Packs packBulkEnvelope ⟨bulkMagic, protocolMajor, operation⟩ →
                (∃ payload, encodeClipboardBulk clipboardTextDigest codec operation = .ok payload ∧
                  payload.length ≤ maxBulkFrameBytes ∧
                  decodeClipboardBulk clipboardTextDigest codec payload = .ok operation) ∧
                ∀ receiver : ClipboardSyncEngine, receiver.textLimit = engine.textLimit →
                  ∃ decision, (decideRemote clipboardTextDigest true operation receiver).1 = some decision ∧
                    decision ≠ .rejectInvalid := by
  refine ⟨fun width height rgbaBase64 => ⟨Word.validateImageData_iff width height rgbaBase64,
    Word.validateImageData_eq width height rgbaBase64⟩, ?_⟩
  intro localPeer bootId baselineRevision value engine hnew calls call operation hemitted hvalid hpacks
  obtain ⟨⟨hpeer, -⟩, hstart⟩ := new_eq_ok.mp hnew
  have hname : engine.localPeer = localPeer := congrArg ClipboardSyncEngine.localPeer hstart.symm
  have hmax : engine.textLimit ≤ clipboardTextLimitMaxBytes := by
    have htextLimit : engine.textLimit = normalizeClipboardTextLimitBytes value :=
      congrArg ClipboardSyncEngine.textLimit hstart.symm
    rw [htextLimit]
    exact max_le (by decide) (min_le_right _ _)
  have hsame : (run (ClipboardSyncEngine.next clipboardTextDigest) engine calls).localPeer = engine.localPeer ∧
      (run (ClipboardSyncEngine.next clipboardTextDigest) engine calls).textLimit = engine.textLimit :=
    run_invariant (I := fun e : ClipboardSyncEngine => e.localPeer = engine.localPeer ∧
      e.textLimit = engine.textLimit)
      (fun e call h => ⟨(next_identity clipboardTextDigest e call).1.trans h.1,
        (next_identity clipboardTextDigest e call).2.trans h.2⟩) ⟨rfl, rfl⟩ calls
  obtain ⟨hoperation, hlimit⟩ := LocalCall.emitted_eq_some hemitted
  have horder : (Operation.order operation).originPeer = localPeer := by
    rw [hoperation, Operation.order_make, ← hname, ← hsame.1]
    rfl
  have hcontent : Operation.content operation = call.content := by
    rw [hoperation, Operation.content_make]
  have hwire : validateClipboardBulk clipboardTextDigest operation = .ok () := by
    rw [hoperation]
    refine validateClipboardBulk_make ?_ (saturatingAdd_one_ne_zero _) (saturatingAdd_one_ne_zero _) hvalid
    show fits (run (ClipboardSyncEngine.next clipboardTextDigest) engine calls).localPeer maxPeerIdBytes = true
    rw [hsame.1, hname]
    exact hpeer
  have hsize : ∀ receiver : ClipboardSyncEngine, receiver.textLimit = engine.textLimit →
      (Operation.content operation).bytes.utf8ByteSize ≤ receiver.limit (Operation.content operation) := by
    intro receiver hreceiver
    rw [hcontent]
    refine size_le_limit hvalid fun text htext => ?_
    cases call with
    | text manualResend systemRevision value' =>
      obtain rfl : value' = text := ClipboardContent.text.inj htext
      rw [hreceiver, ← hsame.2]
      exact hlimit
    | image manualResend systemRevision width height rgbaBase64 encodedLimit => cases htext
  refine ⟨encodeClipboardBulk_eq_ok hwire hpacks ?_ ?_, fun receiver hreceiver =>
    decideRemote_not_invalid hwire (hsize receiver hreceiver)⟩
  · rw [horder]
    exact hpeer
  · have hwide := limit_le hmax (Operation.content operation)
    have hfits := hsize engine rfl
    omega

section Examples

/-- The second copy of an engine. -/
def sampleSecond : ClipboardBulkOperation := sampleOperation 2 "a-peer" (sampleBoot 1) 2 3 "B"

theorem accepted_by_receiver_second :
    let codec := Codec.single packBulkEnvelope ⟨bulkMagic, protocolMajor, sampleSecond⟩
    ∃ payload, encodeClipboardBulk sampleDigest codec sampleSecond = .ok payload ∧
      payload.length ≤ maxBulkFrameBytes ∧ decodeClipboardBulk sampleDigest codec payload = .ok sampleSecond :=
  ((accepted_by_receiver sampleDigest _).2 "a-peer" (sampleBoot 1) 1 (1024 * 1024) _
    (new_eq_ok.mpr ⟨by decide, rfl⟩) [.offer false false 2 (.text "A")] (.text false 3 "B") sampleSecond
    (by decide +kernel) (by decide) (Codec.single_packs _ _)).1

end Examples

end MyKvm.Clipboard
