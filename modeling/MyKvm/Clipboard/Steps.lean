import Mathlib.Order.WithBot
import MyKvm.Clipboard.Engine

/-!
# MyKvm.Clipboard.Steps — what the calls of the engine do

Texts and images go the same way: `offer_eq` and `receive_cases` say it once for both.  An operation which the
engine makes from a content which `isValid` passes the check of the wire, and is accepted by every engine whose
limit it keeps.
-/

namespace MyKvm.Clipboard

open MyKvm.Lib MyKvm.Protocol

namespace ClipboardContent

/-- The observer looks at the content. -/
def isReadable (imageAllowed : Bool) : ClipboardContent → Bool
  | .text _ => true
  | .image value => imageAllowed && isValidImage value.width value.height value.rgbaBase64

/-- The content can be sent to the peer. -/
def isValid : ClipboardContent → Bool
  | .text value => value ≠ ""
  | .image value => isValidImage value.width value.height value.rgbaBase64

end ClipboardContent

/-- The operation with this order and this content. -/
def Operation.make (clipboardTextDigest : String → Digest) (order : OperationOrder) (systemRevision : UInt64) :
    ClipboardContent → ClipboardBulkOperation
  | .text value => .text ⟨order.operationId, order.originPeer, systemRevision, order.lamport,
      clipboardTextDigest value, value⟩
  | .image value => .image ⟨order.operationId, order.originPeer, systemRevision, order.lamport,
      clipboardTextDigest value.rgbaBase64, value.width, value.height, value.rgbaBase64⟩

namespace Operation

variable (clipboardTextDigest : String → Digest) (order : OperationOrder) (systemRevision : UInt64)
  (content : ClipboardContent)

@[simp] theorem order_make : Operation.order (make clipboardTextDigest order systemRevision content) = order := by
  cases content <;> rfl

@[simp] theorem digest_make :
    digest (make clipboardTextDigest order systemRevision content) = clipboardTextDigest content.bytes := by
  cases content <;> rfl

@[simp] theorem content_make :
    Operation.content (make clipboardTextDigest order systemRevision content) = content := by
  cases content <;> rfl

end Operation

theorem isValidImage_eq_true {width height : UInt32} {rgbaBase64 : String} :
    isValidImage width height rgbaBase64 = true ↔ (width ≠ 0 ∧ height ≠ 0) ∧
      width.toNat * height.toNat * 4 ≤ maxClipboardImageRgbaBytes ∧
      rgbaBase64.utf8ByteSize = expectedBase64Len (width.toNat * height.toNat * 4) := by
  have hmax : maxClipboardImageRgbaBytes < 2 ^ 64 := by decide
  unfold isValidImage validateImageData checkedRgbaLen
  dsimp only
  split_ifs with hover hempty
  · exact ⟨fun h => (by cases h), fun h => (by omega)⟩
  · refine ⟨fun h => (by cases h), fun h => ?_⟩
    rcases hempty with hw | hh | hlarge
    · exact absurd hw h.1.1
    · exact absurd hh h.1.2
    · omega
  · obtain ⟨hw, hh⟩ := not_or.mp hempty
    obtain ⟨hh, hfits⟩ := not_or.mp hh
    by_cases hlength : rgbaBase64.utf8ByteSize = expectedBase64Len (width.toNat * height.toNat * 4)
    · simp [bind, Except.bind, hlength, hw, hh, Nat.le_of_not_lt hfits]
    · simp [bind, Except.bind, hlength]

/-- A valid image has a pixel, and so an encoding. -/
theorem ne_empty_of_isValidImage {width height : UInt32} {rgbaBase64 : String}
    (h : isValidImage width height rgbaBase64 = true) : rgbaBase64 ≠ "" := by
  obtain ⟨⟨hw, hh⟩, -, hlength⟩ := isValidImage_eq_true.mp h
  have hpixels : 0 < width.toNat * height.toNat := by
    refine Nat.mul_pos (Nat.pos_of_ne_zero fun h => hw (UInt32.toNat_inj.mp h)) ?_
    exact Nat.pos_of_ne_zero fun h => hh (UInt32.toNat_inj.mp h)
  intro hnone
  rw [hnone] at hlength
  have hzero : expectedBase64Len (width.toNat * height.toNat * 4) = 0 := hlength.symm
  unfold expectedBase64Len at hzero
  omega

/-- **The check of the wire** is passed by what the engine makes from a valid content. -/
theorem validateClipboardBulk_make {clipboardTextDigest : String → Digest} {order : OperationOrder}
    {systemRevision : UInt64} {content : ClipboardContent} (hpeer : fits order.originPeer maxPeerIdBytes = true)
    (hsequence : order.operationId.localSequence ≠ 0) (hlamport : order.lamport ≠ 0)
    (hvalid : content.isValid = true) :
    validateClipboardBulk clipboardTextDigest
      (Operation.make clipboardTextDigest order systemRevision content) = .ok () := by
  cases content with
  | text value =>
    exact validateClipboardTextOperation_eq_ok.mpr ⟨hpeer, hsequence, hlamport, of_decide_eq_true hvalid, rfl⟩
  | image value =>
    obtain ⟨⟨hw, hh⟩, hfits, hlength⟩ := isValidImage_eq_true.mp hvalid
    exact validateClipboardImageOperation_eq_ok.mpr
      ⟨hpeer, hsequence, hlamport, ⟨hw, hh, ne_empty_of_isValidImage hvalid⟩, hfits, hlength, rfl⟩

/-- The engine is one which the program can make: its name passed the check, and it lets some text through. -/
def Made (engine : ClipboardSyncEngine) : Prop :=
  ∃ localPeer bootId baselineRevision textLimit,
    ClipboardSyncEngine.new localPeer bootId baselineRevision textLimit = .ok engine

namespace ClipboardSyncEngine

variable {clipboardTextDigest : String → Digest} {engine : ClipboardSyncEngine} {systemRevision : UInt64}
  {content : ClipboardContent} {operation : ClipboardBulkOperation} {imageAllowed manualResend : Bool}

/-- The current order; nothing comes before it at the start. -/
def rank (engine : ClipboardSyncEngine) : WithBot OperationOrder := engine.currentOrder

/-- The most bytes which the engine takes. -/
def limit (engine : ClipboardSyncEngine) : ClipboardContent → ℕ
  | .text _ => engine.textLimit
  | .image _ => maxImageEncodedBytes

theorem new_eq_ok {localPeer : String} {bootId : BootId} {baselineRevision : UInt64} {textLimit : ℕ} :
    new localPeer bootId baselineRevision textLimit = .ok engine ↔
      (fits localPeer maxPeerIdBytes = true ∧ textLimit ≠ 0) ∧
        ⟨localPeer, bootId, baselineRevision, 0, 0, textLimit, none, none, none⟩ = engine := by
  unfold new
  split_ifs with hpeer hlimit
  · exact ⟨fun h => (by cases h), fun h => absurd h.1.1 (by simp [hpeer])⟩
  · exact ⟨fun h => (by cases h), fun h => absurd hlimit h.1.2⟩
  · simp [hlimit, Bool.eq_true_of_not_eq_false hpeer]

/-! ### Observing -/

section Observing

variable {α : Type} (wrap : α → ClipboardBulkOperation)

/-- What the observer goes on with. -/
def outcome (result : LocalDecision α × ClipboardSyncEngine) :
    Option ClipboardBulkOperation × ClipboardSyncEngine :=
  (result.1.operation?.map wrap, result.2)

theorem newOperation_outcome {bytes limit : ℕ} {digest : Digest} {build : OperationOrder → α} :
    outcome wrap (newOperation bytes limit digest build engine) =
      if limit < bytes then (none, engine) else (some (wrap (build engine.nextOrder)), engine.advance digest) := by
  unfold newOperation
  split_ifs <;> rfl

theorem observeLocal_outcome {digest : Digest}
    {create : ClipboardSyncEngine → LocalDecision α × ClipboardSyncEngine} :
    outcome wrap (observeLocal systemRevision digest create engine) =
      if engine.isEcho systemRevision digest = true then (none, engine.observed systemRevision)
      else if systemRevision = engine.lastLocalRevision then (none, engine)
      else outcome wrap (create (engine.observed systemRevision)) := by
  unfold observeLocal
  split_ifs <;> rfl

end Observing

theorem isEcho_eq_true {digest : Digest} :
    engine.isEcho systemRevision digest = true ↔
      ∃ operationId, engine.appliedRemoteEcho = some (systemRevision, digest, operationId) := by
  unfold isEcho
  cases engine.appliedRemoteEcho with
  | none => simp
  | some echo =>
    obtain ⟨revision, expected, operationId⟩ := echo
    simp

/-- **An observation**, of a text or of an image. -/
theorem offer_eq (hread : content.isReadable imageAllowed = true) :
    offer clipboardTextDigest imageAllowed manualResend systemRevision content engine =
      if manualResend = false ∧ engine.isEcho systemRevision (clipboardTextDigest content.bytes) = true then
        (none, engine.observed systemRevision)
      else if manualResend = false ∧ systemRevision = engine.lastLocalRevision then (none, engine)
      else if engine.limit content < content.bytes.utf8ByteSize then (none, engine.observed systemRevision)
      else (some (Operation.make clipboardTextDigest engine.nextOrder systemRevision content),
        (engine.observed systemRevision).advance (clipboardTextDigest content.bytes)) := by
  cases content with
  | text value =>
    cases manualResend with
    | true =>
      show outcome .text (manualResendText clipboardTextDigest systemRevision value engine) = _
      simp only [manualResendText, newLocalOperation, newOperation_outcome]
      rfl
    | false =>
      show outcome .text (observeLocalText clipboardTextDigest systemRevision value engine) = _
      simp only [observeLocalText, newLocalOperation, observeLocal_outcome, newOperation_outcome, true_and]
      rfl
  | image value =>
    have hallowed : imageAllowed = true ∧ isValidImage value.width value.height value.rgbaBase64 = true :=
      Bool.and_eq_true_iff.mp hread
    unfold offer
    dsimp only
    rw [if_pos hallowed]
    cases manualResend with
    | true =>
      show outcome .image (manualResendImage clipboardTextDigest systemRevision value.width value.height
        value.rgbaBase64 maxImageEncodedBytes engine) = _
      simp only [manualResendImage, newLocalImageOperation, newOperation_outcome]
      rfl
    | false =>
      show outcome .image (observeLocalImage clipboardTextDigest systemRevision value.width value.height
        value.rgbaBase64 maxImageEncodedBytes engine) = _
      simp only [observeLocalImage, newLocalImageOperation, observeLocal_outcome, newOperation_outcome, true_and]
      rfl

/-- What the observer does not look at stays unobserved. -/
theorem offer_unreadable (hread : content.isReadable imageAllowed = false) :
    offer clipboardTextDigest imageAllowed manualResend systemRevision content engine = (none, engine) := by
  cases content with
  | text value => cases hread
  | image value =>
    have hrefused : ¬ (imageAllowed = true ∧ isValidImage value.width value.height value.rgbaBase64 = true) := by
      rw [← Bool.and_eq_true_iff]
      exact ne_true_of_eq_false hread
    exact if_neg hrefused

/-- **An observation** sends one operation, or leaves the order of the copies alone. -/
theorem offer_cases (clipboardTextDigest : String → Digest) (imageAllowed manualResend : Bool)
    (systemRevision : UInt64) (content : ClipboardContent) (engine : ClipboardSyncEngine) :
    (∃ engine',
      offer clipboardTextDigest imageAllowed manualResend systemRevision content engine = (none, engine') ∧
        (engine' = engine ∨ engine' = engine.observed systemRevision)) ∨
      offer clipboardTextDigest imageAllowed manualResend systemRevision content engine =
        (some (Operation.make clipboardTextDigest engine.nextOrder systemRevision content),
          (engine.observed systemRevision).advance (clipboardTextDigest content.bytes)) := by
  cases hread : content.isReadable imageAllowed with
  | false => exact .inl ⟨engine, offer_unreadable hread, .inl rfl⟩
  | true =>
    rw [offer_eq hread]
    split_ifs
    · exact .inl ⟨_, rfl, .inr rfl⟩
    · exact .inl ⟨_, rfl, .inl rfl⟩
    · exact .inl ⟨_, rfl, .inr rfl⟩
    · exact .inr rfl

/-- What is sent was not expected, and not seen before. -/
theorem offer_eq_some {answer : Option ClipboardBulkOperation × ClipboardSyncEngine}
    (h : offer clipboardTextDigest imageAllowed false systemRevision content engine = answer)
    (hsent : answer.1 = some operation) :
    engine.isEcho systemRevision (clipboardTextDigest content.bytes) = false ∧
      systemRevision ≠ engine.lastLocalRevision := by
  subst h
  cases hread : content.isReadable imageAllowed with
  | false =>
    rw [offer_unreadable hread] at hsent
    cases hsent
  | true =>
    rw [offer_eq hread] at hsent
    split_ifs at hsent with hecho hseen hlarge
    exact ⟨Bool.eq_false_iff.mpr fun h => hecho ⟨rfl, h⟩, fun h => hseen ⟨rfl, h⟩⟩

/-- An observation changes neither the name nor the limit. -/
theorem offer_identity (clipboardTextDigest : String → Digest) (imageAllowed manualResend : Bool)
    (systemRevision : UInt64) (content : ClipboardContent) (engine : ClipboardSyncEngine) :
    let engine' := (offer clipboardTextDigest imageAllowed manualResend systemRevision content engine).2
    (engine'.localPeer, engine'.bootId, engine'.textLimit) = (engine.localPeer, engine.bootId,
      engine.textLimit) := by
  rcases offer_cases clipboardTextDigest imageAllowed manualResend systemRevision content engine with
    ⟨engine', hoffer, rfl | rfl⟩ | hoffer <;> rw [hoffer] <;> rfl

/-- What an observation does to the marks of the observer. -/
theorem offer_marks (clipboardTextDigest : String → Digest) (imageAllowed manualResend : Bool)
    (systemRevision : UInt64) (content : ClipboardContent) (engine : ClipboardSyncEngine) :
    let engine' := (offer clipboardTextDigest imageAllowed manualResend systemRevision content engine).2
    (engine'.lastLocalRevision = engine.lastLocalRevision ∧ engine'.appliedRemoteEcho = engine.appliedRemoteEcho) ∨
      (engine'.lastLocalRevision = systemRevision ∧ engine'.appliedRemoteEcho = none) := by
  rcases offer_cases clipboardTextDigest imageAllowed manualResend systemRevision content engine with
    ⟨engine', hoffer, rfl | rfl⟩ | hoffer
  · rw [hoffer]
    exact .inl ⟨rfl, rfl⟩
  · rw [hoffer]
    exact .inr ⟨rfl, rfl⟩
  · rw [hoffer]
    exact .inr ⟨rfl, rfl⟩

/-! ### Operations of the peer -/

/-- The engine after an operation of the peer which passed its checks: the clock is set forward. -/
def heard (engine : ClipboardSyncEngine) (operation : ClipboardBulkOperation) : ClipboardSyncEngine :=
  { engine with lamport := max engine.lamport (Operation.order operation).lamport }

theorem compareRemote_eq (engine : ClipboardSyncEngine) (incoming : OperationOrder) :
    (compareRemote incoming engine).1 = .apply ∧ engine.rank < incoming ∨
      ((compareRemote incoming engine).1 = .ignoreDuplicate ∨ (compareRemote incoming engine).1 = .ignoreStale) ∧
        incoming ≤ engine.rank := by
  unfold compareRemote rank
  cases engine.currentOrder with
  | none => exact .inl ⟨rfl, WithBot.bot_lt_coe incoming⟩
  | some current =>
    dsimp only
    split_ifs with hsame hless
    · exact .inr ⟨.inl rfl, (WithBot.coe_le_coe.mpr hsame.le)⟩
    · exact .inr ⟨.inr rfl, (WithBot.coe_le_coe.mpr hless.le)⟩
    · refine .inl ⟨rfl, WithBot.coe_lt_coe.mpr ?_⟩
      exact lt_of_le_of_ne (not_lt.mp hless) fun h => hsame h.symm

/-- The operation is refused, or it is compared with the current one. -/
theorem decideRemote_cases (clipboardTextDigest : String → Digest) (imageAllowed : Bool)
    (operation : ClipboardBulkOperation) (engine : ClipboardSyncEngine) :
    (decideRemote clipboardTextDigest imageAllowed operation engine = (none, engine) ∨
        decideRemote clipboardTextDigest imageAllowed operation engine = (some .rejectInvalid, engine)) ∨
      decideRemote clipboardTextDigest imageAllowed operation engine =
        (some (compareRemote (Operation.order operation) engine).1, engine.heard operation) := by
  cases operation with
  | text operation =>
    unfold decideRemote considerRemote
    dsimp only
    split_ifs
    · exact .inl (.inr rfl)
    · exact .inr rfl
  | image operation =>
    unfold decideRemote considerRemoteImage
    dsimp only
    split_ifs
    · exact .inl (.inl rfl)
    · exact .inl (.inr rfl)
    · exact .inr rfl

/-- What applies is newer, and its digest is right. -/
theorem decideRemote_apply (h : (decideRemote clipboardTextDigest imageAllowed operation engine).1 = some .apply) :
    engine.rank < Operation.order operation ∧
      Operation.digest operation = clipboardTextDigest (Operation.content operation).bytes ∧
      (decideRemote clipboardTextDigest imageAllowed operation engine).2 = engine.heard operation := by
  have hnewer : engine.rank < Operation.order operation ∧
      (decideRemote clipboardTextDigest imageAllowed operation engine).2 = engine.heard operation := by
    rcases decideRemote_cases clipboardTextDigest imageAllowed operation engine with (hnone | hreject) | hcompared
    · rw [hnone] at h
      cases h
    · rw [hreject] at h
      cases h
    · rw [hcompared] at h ⊢
      have hdecision : (compareRemote (Operation.order operation) engine).1 = .apply := Option.some.inj h
      rcases engine.compareRemote_eq (Operation.order operation) with ⟨-, hlt⟩ | ⟨hold | hold, -⟩
      · exact ⟨hlt, rfl⟩
      · cases hold.symm.trans hdecision
      · cases hold.symm.trans hdecision
  refine ⟨hnewer.1, ?_, hnewer.2⟩
  by_contra hwrong
  cases operation with
  | text operation =>
    unfold decideRemote considerRemote at h
    dsimp only at h
    rw [if_pos (.inr (.inr (.inr (.inr (.inr hwrong)))))] at h
    cases h
  | image operation =>
    unfold decideRemote considerRemoteImage at h
    dsimp only at h
    split_ifs at h with hrefused hinvalid
    · cases h
    · exact hinvalid (.inr (.inr (.inr (.inr (.inr (.inr hwrong))))))

/-- What passed the check of the wire and keeps the limit is compared. -/
theorem decideRemote_valid (hvalid : validateClipboardBulk clipboardTextDigest operation = .ok ())
    (hlimit : (Operation.content operation).bytes.utf8ByteSize ≤ engine.limit (Operation.content operation)) :
    decideRemote clipboardTextDigest true operation engine =
      (some (compareRemote (Operation.order operation) engine).1, engine.heard operation) := by
  cases operation with
  | text operation =>
    obtain ⟨hpeer, hsequence, hlamport, htext, hdigest⟩ := validateClipboardTextOperation_eq_ok.mp hvalid
    have hfits : ¬ engine.textLimit < operation.text.utf8ByteSize := Nat.not_lt.mpr hlimit
    unfold decideRemote considerRemote
    dsimp only
    rw [if_neg (by simp [hpeer, hsequence, hlamport, htext, hdigest, hfits])]
    rfl
  | image operation =>
    obtain ⟨hpeer, hsequence, hlamport, ⟨hw, hh, hsome⟩, hfits, hlength, hdigest⟩ :=
      validateClipboardImageOperation_eq_ok.mp hvalid
    have himage : isValidImage operation.width operation.height operation.rgbaBase64 = true :=
      isValidImage_eq_true.mpr ⟨⟨hw, hh⟩, hfits, hlength⟩
    unfold decideRemote considerRemoteImage
    dsimp only
    rw [if_neg (by simp [himage]), if_neg (by simp [hpeer, hsequence, hlamport, hw, hh, hsome, hdigest])]
    rfl

/-- **An operation of the peer** is refused, or it is old, or it is written and committed. -/
theorem receive_cases (clipboardTextDigest : String → Digest) (imageAllowed : Bool)
    (writeContent : ClipboardContent → Bool) (appliedRevision : UInt64) (operation : ClipboardBulkOperation)
    (engine : ClipboardSyncEngine) :
    ((decideRemote clipboardTextDigest imageAllowed operation engine).1 ≠ some .apply ∧
        (receive clipboardTextDigest imageAllowed writeContent appliedRevision operation engine = (false, engine) ∨
          Operation.order operation ≤ engine.rank ∧
            receive clipboardTextDigest imageAllowed writeContent appliedRevision operation engine =
              (true, engine.heard operation))) ∨
      ((decideRemote clipboardTextDigest imageAllowed operation engine).1 = some .apply ∧
        engine.rank < Operation.order operation ∧
        receive clipboardTextDigest imageAllowed writeContent appliedRevision operation engine =
          if writeContent (Operation.content operation) then
            (true, (engine.heard operation).commitRemote operation appliedRevision)
          else (false, engine.heard operation)) := by
  unfold receive
  rcases decideRemote_cases clipboardTextDigest imageAllowed operation engine with (hnone | hreject) | hcompared
  · rw [hnone]
    exact .inl ⟨by simp, .inl rfl⟩
  · rw [hreject]
    exact .inl ⟨by simp, .inl rfl⟩
  · rw [hcompared]
    rcases engine.compareRemote_eq (Operation.order operation) with ⟨happly, hlt⟩ | ⟨hold | hold, hle⟩
    · rw [happly]
      exact .inr ⟨rfl, hlt, rfl⟩
    · rw [hold]
      exact .inl ⟨by simp, .inr ⟨hle, rfl⟩⟩
    · rw [hold]
      exact .inl ⟨by simp, .inr ⟨hle, rfl⟩⟩

/-- The engine after the handler: the decision, and the commit where it applies. -/
theorem receive_engine (clipboardTextDigest : String → Digest) (imageAllowed : Bool)
    (writeContent : ClipboardContent → Bool) (appliedRevision : UInt64) (operation : ClipboardBulkOperation)
    (engine : ClipboardSyncEngine) :
    (receive clipboardTextDigest imageAllowed writeContent appliedRevision operation engine).2 =
      let decided := decideRemote clipboardTextDigest imageAllowed operation engine
      if decided.1 = some .apply ∧ writeContent (Operation.content operation) = true then
        decided.2.commitRemote operation appliedRevision
      else decided.2 := by
  unfold receive
  dsimp only
  cases decideRemote clipboardTextDigest imageAllowed operation engine with
  | mk decision engine =>
    cases decision with
    | none => rfl
    | some decision =>
      cases decision with
      | apply => cases hwrite : writeContent (Operation.content operation) <;> simp
      | ignoreDuplicate => rfl
      | ignoreStale => rfl
      | rejectInvalid => rfl

/-- An operation which passed the check of the wire and keeps the limit is old, or it is written and committed. -/
theorem receive_valid {writeContent : ClipboardContent → Bool} {appliedRevision : UInt64}
    (hvalid : validateClipboardBulk clipboardTextDigest operation = .ok ())
    (hlimit : (Operation.content operation).bytes.utf8ByteSize ≤ engine.limit (Operation.content operation))
    (hwrite : writeContent (Operation.content operation) = true) :
    receive clipboardTextDigest true writeContent appliedRevision operation engine =
      if engine.rank < Operation.order operation then
        (true, (engine.heard operation).commitRemote operation appliedRevision)
      else (true, engine.heard operation) := by
  unfold receive
  rw [decideRemote_valid hvalid hlimit]
  rcases engine.compareRemote_eq (Operation.order operation) with ⟨happly, hlt⟩ | ⟨hold | hold, hle⟩
  · rw [happly, if_pos hlt]
    exact if_pos hwrite
  · rw [hold, if_neg (not_lt.mpr hle)]
  · rw [hold, if_neg (not_lt.mpr hle)]

end ClipboardSyncEngine

/-- **The whole handler**, on a payload which the peer encoded. -/
theorem handleV2ClipboardOperation_encoded {clipboardTextDigest : String → Digest}
    {codec : Codec ClipboardBulkOperation} {operation : ClipboardBulkOperation} {payload : List UInt8}
    (hencode : encodeClipboardBulk clipboardTextDigest codec operation = .ok payload)
    (hround : ∀ bytes, codec.toVecNamed ⟨bulkMagic, protocolMajor, operation⟩ = some bytes →
      codec.fromSlice bytes = some ⟨bulkMagic, protocolMajor, operation⟩)
    {authenticatedPeer localPeerId : String} {imageAllowed : Bool} {writeContent : ClipboardContent → Bool}
    {appliedRevision : UInt64} {engine : ClipboardSyncEngine} :
    handleV2ClipboardOperationWithRevision clipboardTextDigest codec payload authenticatedPeer
      localPeerId imageAllowed writeContent appliedRevision (some engine) =
      if ClipboardSyncEngine.isFrom operation authenticatedPeer localPeerId = false then (false, some engine)
      else
        let answer := engine.receive clipboardTextDigest imageAllowed writeContent appliedRevision operation
        (answer.1, some answer.2) := by
  have hdecode : decodeClipboardBulk clipboardTextDigest codec payload = .ok operation :=
    decodeWhole_encodePayload hround hencode
  unfold handleV2ClipboardOperationWithRevision
  rw [hdecode]

section Examples

/-- SHA-256 of three short texts. -/
def sampleDigest (text : String) : Digest :=
  if text = "A" then
    #v[0x55, 0x9A, 0xEA, 0xD0, 0x82, 0x64, 0xD5, 0x79, 0x5D, 0x39, 0x09, 0x71, 0x8C, 0xDD, 0x05, 0xAB,
      0xD4, 0x95, 0x72, 0xE8, 0x4F, 0xE5, 0x55, 0x90, 0xEE, 0xF3, 0x1A, 0x88, 0xA0, 0x8F, 0xDF, 0xFD]
  else if text = "B" then
    #v[0xDF, 0x7E, 0x70, 0xE5, 0x02, 0x15, 0x44, 0xF4, 0x83, 0x4B, 0xBE, 0xE6, 0x4A, 0x9E, 0x37, 0x89,
      0xFE, 0xBC, 0x4B, 0xE8, 0x14, 0x70, 0xDF, 0x62, 0x9C, 0xAD, 0x6D, 0xDB, 0x03, 0x32, 0x0A, 0x5C]
  else if text = "Z" then
    #v[0xBB, 0xEE, 0xBD, 0x87, 0x9E, 0x1D, 0xFF, 0x69, 0x18, 0x54, 0x6D, 0xC0, 0xC1, 0x79, 0xFD, 0xDE,
      0x50, 0x5F, 0x2A, 0x21, 0x59, 0x1C, 0x9A, 0x9C, 0x96, 0xE3, 0x6B, 0x05, 0x4E, 0xC5, 0xAF, 0x83]
  else Vector.replicate 32 0

def sampleBoot (n : UInt8) : BootId := ⟨Vector.replicate 16 n⟩

def sampleEngine (localPeer : String) (bootId : BootId) (baselineRevision : UInt64) : ClipboardSyncEngine :=
  ⟨localPeer, bootId, baselineRevision, 0, 0, 1024 * 1024, none, none, none⟩

theorem sampleEngine_made {localPeer : String} {bootId : BootId} {baselineRevision : UInt64}
    (h : fits localPeer maxPeerIdBytes = true) : Made (sampleEngine localPeer bootId baselineRevision) :=
  ⟨localPeer, bootId, baselineRevision, 1024 * 1024, ClipboardSyncEngine.new_eq_ok.mpr ⟨⟨h, by decide⟩, rfl⟩⟩

def sampleOperation (lamport : UInt64) (originPeer : String) (bootId : BootId)
    (localSequence systemRevision : UInt64) (value : String) : ClipboardBulkOperation :=
  Operation.make sampleDigest ⟨lamport, originPeer, ⟨bootId, localSequence⟩⟩ systemRevision (.text value)

end Examples

end MyKvm.Clipboard
