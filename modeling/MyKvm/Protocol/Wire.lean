import MyKvm.Lib.MessagePack
import MyKvm.Protocol.Bulk

/-!
# MyKvm.Protocol.Wire — frames as bytes

Every message travels in an envelope which `rmp_serde` packs and unpacks.  That library is a parameter (`Codec`);
what the program relies on is `Codec.Carries`: an envelope which was packed unpacks to itself, and takes the bytes
which the MessagePack format says (`packFrame`, `packCriticalFrame`: structs as maps, the tag of an enum as the
field `kind`).

* `encodeControl_eq_ok`, `encodeCritical_eq_ok`: the size limit refuses no frame which passes its check.
* `decodeWhole_encodePayload`: a message which comes in one piece is read back.
-/

namespace MyKvm.Protocol

open MyKvm.Lib MyKvm.Lib.MessagePack

def protocolMajor : UInt16 := 2
def maxControlFrameBytes : ℕ := 16 * 1024
def maxCriticalFrameBytes : ℕ := 4 * 1024
def maxMotionFrameBytes : ℕ := 1024
def maxBulkFrameBytes : ℕ := 48 * 1024 * 1024

/-- `MKV2` -/
def magic : UInt32 := 0x4D4B5632

/-- `MKI2` -/
def inputMagic : UInt32 := 0x4D4B4932

/-- `MKM2` -/
def motionMagic : UInt32 := 0x4D4B4D32

/-- `MKB2` -/
def bulkMagic : UInt32 := 0x4D4B4232

/-- `Envelope`, `CriticalEnvelope`, `MotionEnvelope` and `BulkEnvelope`. -/
structure Envelope (α : Type) where
  magic : UInt32
  major : UInt16
  body : α
  deriving DecidableEq

/-- `rmp_serde::to_vec_named` and `rmp_serde::from_slice` for one kind of envelope. -/
structure Codec (α : Type) where
  toVecNamed : Envelope α → Option (List UInt8)
  fromSlice : List UInt8 → Option (Envelope α)

/-! ### Encoding -/

section Encode

variable {α : Type} (codec : Codec α)

/-- The payload of a message of the protocol. -/
def encodePayload (validate : α → Except ProtocolError Unit) (magic : UInt32) (limit : ℕ) (body : α) :
    Except ProtocolError (List UInt8) := do
  validate body
  match codec.toVecNamed ⟨magic, protocolMajor, body⟩ with
  | none => .error .decode
  | some payload =>
    if payload = [] ∨ limit < payload.length then .error (.frameTooLarge payload.length) else .ok payload

/-- The payload behind its length. -/
def framed (payload : List UInt8) : Except ProtocolError (List UInt8) :=
  if payload.length < 2 ^ 32 then .ok (bigEndian 4 payload.length ++ payload) else .error .invalidLength

def encodeControl (codec : Codec ControlFrame) (frame : ControlFrame) : Except ProtocolError (List UInt8) := do
  framed (← encodePayload codec validateFrame magic maxControlFrameBytes frame)

def encodeCritical (codec : Codec CriticalFrame) (frame : CriticalFrame) : Except ProtocolError (List UInt8) := do
  framed (← encodePayload codec validateCritical inputMagic maxCriticalFrameBytes frame)

def encodeMotion (codec : Codec MotionFrame) (frame : MotionFrame) : Except ProtocolError (List UInt8) :=
  encodePayload codec validateMotion motionMagic maxMotionFrameBytes frame

/-- `ClipboardTextOperation::encode` and `ClipboardImageOperation::encode`. -/
def encodeClipboardBulk (clipboardTextDigest : String → Digest) (codec : Codec ClipboardBulkOperation)
    (operation : ClipboardBulkOperation) : Except ProtocolError (List UInt8) :=
  encodePayload codec (validateClipboardBulk clipboardTextDigest) bulkMagic maxBulkFrameBytes operation

end Encode

/-! ### Decoding -/

section Decode

variable {α : Type} (codec : Codec α)

/-- The envelope of the payload, opened. -/
def decodeEnvelope (validate : α → Except ProtocolError Unit) (magic : UInt32) (payload : List UInt8) :
    Except ProtocolError α :=
  match codec.fromSlice payload with
  | none => .error .decode
  | some envelope =>
    if envelope.magic ≠ magic then .error .invalidMagic
    else if envelope.major ≠ protocolMajor then .error (.unsupportedMajor envelope.major)
    else do
      validate envelope.body
      .ok envelope.body

/-- A message which comes in one piece. -/
def decodeWhole (validate : α → Except ProtocolError Unit) (magic : UInt32) (limit : ℕ) (payload : List UInt8) :
    Except ProtocolError α :=
  if payload = [] then .error .invalidLength
  else if limit < payload.length then .error (.frameTooLarge payload.length)
  else decodeEnvelope codec validate magic payload

def decodePayload (codec : Codec ControlFrame) (payload : List UInt8) : Except ProtocolError ControlFrame :=
  decodeEnvelope codec validateFrame magic payload

def decodeCriticalPayload (codec : Codec CriticalFrame) (payload : List UInt8) :
    Except ProtocolError CriticalFrame :=
  decodeEnvelope codec validateCritical inputMagic payload

def decodeMotion (codec : Codec MotionFrame) (payload : List UInt8) : Except ProtocolError MotionFrame :=
  decodeWhole codec validateMotion motionMagic maxMotionFrameBytes payload

def decodeClipboardBulk (clipboardTextDigest : String → Digest) (codec : Codec ClipboardBulkOperation)
    (payload : List UInt8) : Except ProtocolError ClipboardBulkOperation :=
  decodeWhole codec (validateClipboardBulk clipboardTextDigest) bulkMagic maxBulkFrameBytes payload

end Decode

/-! ### What the format says -/

section Pack

def packBytes16 (bytes : Bytes16) : List UInt8 := packArray (bytes.toList.map (packUInt ·.toNat))

def packSession (s : SessionId) : List UInt8 :=
  packMap [("controller_boot", packBytes16 s.controllerBoot.bytes),
    ("receiver_boot", packBytes16 s.receiverBoot.bytes), ("nonce", packBytes16 s.nonce)]

def packRole : DeviceRole → List UInt8
  | .controller => packStr "controller"
  | .receiver => packStr "receiver"

def packButton : CriticalButton → List UInt8
  | .left => packStr "left"
  | .right => packStr "right"
  | .middle => packStr "middle"
  | .back => packStr "back"
  | .forward => packStr "forward"

def packFrame : ControlFrame → List UInt8
  | .hello bootId peerId role capabilities =>
    packMap [("kind", packStr "hello"), ("boot_id", packBytes16 bootId.bytes), ("peer_id", packStr peerId),
      ("role", packRole role), ("capabilities", packArray (capabilities.map packStr))]
  | .prepare requestId targetDisplay layoutRevision =>
    packMap [("kind", packStr "prepare"), ("request_id", packUInt requestId.toNat),
      ("target_display", packStr targetDisplay), ("layout_revision", packUInt layoutRevision.toNat)]
  | .ready requestId receiverBoot inputReady targetDisplay layoutRevision =>
    packMap [("kind", packStr "ready"), ("request_id", packUInt requestId.toNat),
      ("receiver_boot", packBytes16 receiverBoot.bytes), ("input_ready", packBool inputReady),
      ("target_display", packStr targetDisplay), ("layout_revision", packUInt layoutRevision.toNat)]
  | .commit requestId sessionId =>
    packMap [("kind", packStr "commit"), ("request_id", packUInt requestId.toNat),
      ("session_id", packSession sessionId)]
  | .commitAck sessionId => packMap [("kind", packStr "commit_ack"), ("session_id", packSession sessionId)]
  | .endSession sessionId reason =>
    packMap [("kind", packStr "end_session"), ("session_id", packSession sessionId), ("reason", packStr reason)]
  | .ping sessionId sequence =>
    packMap [("kind", packStr "ping"), ("session_id", packSession sessionId),
      ("sequence", packUInt sequence.toNat)]
  | .pong sessionId sequence highestAppliedSequence =>
    packMap [("kind", packStr "pong"), ("session_id", packSession sessionId),
      ("sequence", packUInt sequence.toNat),
      ("highest_applied_sequence", packUInt highestAppliedSequence.toNat)]
  | .reject code detail =>
    packMap [("kind", packStr "reject"), ("code", packStr code), ("detail", packStr detail)]

def packEvent : CriticalEvent → List UInt8
  | .key keyCode scanCode extended down =>
    packMap [("kind", packStr "key"), ("key_code", packUInt keyCode.toNat), ("scan_code", packUInt scanCode.toNat),
      ("extended", packBool extended), ("down", packBool down)]
  | .button button down x y motionSequence =>
    packMap [("kind", packStr "button"), ("button", packButton button), ("down", packBool down),
      ("x", packInt x.toInt),
      ("y", packInt y.toInt), ("motion_sequence", packUInt motionSequence.toNat)]
  | .scroll deltaX deltaY x y motionSequence =>
    packMap [("kind", packStr "scroll"), ("delta_x", packInt deltaX.toInt), ("delta_y", packInt deltaY.toInt),
      ("x", packInt x.toInt), ("y", packInt y.toInt), ("motion_sequence", packUInt motionSequence.toNat)]

def packCriticalFrame (frame : CriticalFrame) : List UInt8 :=
  packMap [("session_id", packSession frame.sessionId), ("sequence", packUInt frame.sequence.toNat),
    ("event", packEvent frame.event)]

def packEnvelope {α : Type} (pack : α → List UInt8) (envelope : Envelope α) : List UInt8 :=
  packMap [("magic", packUInt envelope.magic.toNat), ("major", packUInt envelope.major.toNat),
    ("frame", pack envelope.body)]

def packMotionFrame (frame : MotionFrame) : List UInt8 :=
  packMap [("session_id", packSession frame.sessionId), ("display_id", packStr frame.displayId),
    ("layout_revision", packUInt frame.layoutRevision.toNat), ("sequence", packUInt frame.sequence.toNat),
    ("required_reliable_sequence", packUInt frame.requiredReliableSequence.toNat), ("x", packInt frame.x.toInt),
    ("y", packInt frame.y.toInt)]

def packOperationId (operationId : ClipboardOperationId) : List UInt8 :=
  packMap [("boot_id", packBytes16 operationId.bootId.bytes),
    ("local_sequence", packUInt operationId.localSequence.toNat)]

def packDigest (digest : Digest) : List UInt8 := packArray (digest.toList.map (packUInt ·.toNat))

def packBulkOperation : ClipboardBulkOperation → List UInt8
  | .text operation =>
    packMap [("kind", packStr "text"), ("operation_id", packOperationId operation.operationId),
      ("origin_peer", packStr operation.originPeer), ("system_revision", packUInt operation.systemRevision.toNat),
      ("lamport", packUInt operation.lamport.toNat), ("digest", packDigest operation.digest),
      ("text", packStr operation.text)]
  | .image operation =>
    packMap [("kind", packStr "image"), ("operation_id", packOperationId operation.operationId),
      ("origin_peer", packStr operation.originPeer), ("system_revision", packUInt operation.systemRevision.toNat),
      ("lamport", packUInt operation.lamport.toNat), ("digest", packDigest operation.digest),
      ("width", packUInt operation.width.toNat), ("height", packUInt operation.height.toNat),
      ("rgba_base64", packStr operation.rgbaBase64)]

def packBulkEnvelope (envelope : Envelope ClipboardBulkOperation) : List UInt8 :=
  packMap [("magic", packUInt envelope.magic.toNat), ("major", packUInt envelope.major.toNat),
    ("operation", packBulkOperation envelope.body)]

/-- The library as far as one envelope goes: `packed` says what its bytes are. -/
def Codec.single {α : Type} (packed : Envelope α → List UInt8) (envelope : Envelope α) : Codec α where
  toVecNamed other := some (packed other)
  fromSlice bytes := if bytes = packed envelope then some envelope else none

/-- **What the program relies on**: the envelope is packed, in the bytes which the format says, and unpacks to
itself. -/
structure Codec.Carries {α : Type} (codec : Codec α) (pack : α → List UInt8) (envelope : Envelope α) : Prop where
  packed : ∃ payload, codec.toVecNamed envelope = some payload ∧
    payload.length = (packEnvelope pack envelope).length ∧
    codec.fromSlice payload = some envelope

theorem Codec.single_carries {α : Type} (pack : α → List UInt8) (envelope : Envelope α) :
    (Codec.single (packEnvelope pack) envelope).Carries pack envelope :=
  ⟨⟨_, rfl, rfl, if_pos rfl⟩⟩

theorem Codec.single_round {α : Type} (packed : Envelope α → List UInt8) (envelope : Envelope α)
    (bytes : List UInt8) (h : (Codec.single packed envelope).toVecNamed envelope = some bytes) :
    (Codec.single packed envelope).fromSlice bytes = some envelope := by
  cases h
  exact if_pos rfl

theorem packBytes16_length_le (bytes : Bytes16) : (packBytes16 bytes).length ≤ 149 := by
  have hitems : ∀ item ∈ bytes.toList.map (packUInt ·.toNat), item.length ≤ 9 := by
    intro item hitem
    obtain ⟨b, -, rfl⟩ := List.mem_map.mp hitem
    exact packUInt_length_le _
  have hle := packArray_length_le_of hitems
  rw [List.length_map, Vector.length_toList] at hle
  exact hle

theorem packSession_length_le (s : SessionId) : (packSession s).length ≤ 515 := by
  refine packMap_length_le_of (k := 16) (m := 149) rfl ?_ (by simp)
  have hcontroller := packBytes16_length_le s.controllerBoot.bytes
  have hreceiver := packBytes16_length_le s.receiverBoot.bytes
  have hnonce := packBytes16_length_le s.nonce
  simp [hcontroller, hreceiver, hnonce]

/-- A text which passed its check has a bound. -/
theorem fits_size {value : String} {max : ℕ} (h : fits value max = true) : value.utf8ByteSize ≤ max := by
  by_contra hlong
  simp [fits, Nat.not_le.mp hlong] at h

theorem packText_length_le {value : String} {n : ℕ} (h : value.utf8ByteSize ≤ n) :
    (packStr value).length ≤ 5 + n := by
  have hpack := packStr_length_le value
  omega

theorem packRole_length_le (role : DeviceRole) : (packRole role).length ≤ 15 := by
  cases role with
  | controller => exact packText_length_le (n := 10) (by decide)
  | receiver => exact packText_length_le (n := 10) (by decide)

theorem packButton_length_le (button : CriticalButton) : (packButton button).length ≤ 12 := by
  cases button <;> exact packText_length_le (n := 7) (by decide)

theorem validateCapabilities_eq_ok {capabilities : List String} {u : Unit}
    (h : validateCapabilities capabilities = .ok u) :
    capabilities.length ≤ maxCapabilities ∧ ∀ c ∈ capabilities, fits c maxCapabilityBytes = true := by
  obtain ⟨_, hcount, hrest⟩ := bind_eq_ok.mp h
  obtain ⟨_, heach, -⟩ := bind_eq_ok.mp hrest
  refine ⟨Nat.not_lt.mp (refuseIf_eq_ok.mp hcount), ?_⟩
  clear h hcount hrest
  induction capabilities with
  | nil => exact fun c hc => absurd hc List.not_mem_nil
  | cons first capabilities ih =>
    obtain ⟨_, hfirst, hothers⟩ := bind_eq_ok.mp heach
    intro c hc
    rcases List.mem_cons.mp hc with rfl | hc
    · exact validateText_eq_ok.mp hfirst
    · exact ih hothers c hc

theorem packCapabilities_length_le {capabilities : List String} {u : Unit}
    (h : validateCapabilities capabilities = .ok u) : (packArray (capabilities.map packStr)).length ≤ 2213 := by
  obtain ⟨hcount, heach⟩ := validateCapabilities_eq_ok h
  have hitems : ∀ item ∈ capabilities.map packStr, item.length ≤ 69 := by
    intro item hitem
    obtain ⟨c, hc, rfl⟩ := List.mem_map.mp hitem
    exact packText_length_le (fits_size (heach c hc))
  have hle := packArray_length_le_of hitems
  rw [List.length_map] at hle
  unfold maxCapabilities at hcount
  omega

/-- **Every control frame which passes its check** stays below the limit. -/
theorem packFrame_length_le {frame : ControlFrame} {u : Unit} (h : validateFrame frame = .ok u) :
    (packFrame frame).length ≤ 12000 := by
  cases frame with
  | hello bootId peerId role capabilities =>
    obtain ⟨_, hpeer, hcapabilities⟩ := bind_eq_ok.mp h
    have hkind : (packStr "hello").length ≤ 16 := packText_length_le (n := 11) (by decide)
    have hboot := packBytes16_length_le bootId.bytes
    have hname := packText_length_le (fits_size (validateText_eq_ok.mp hpeer))
    have hrole := packRole_length_le role
    have hlist := packCapabilities_length_le hcapabilities
    unfold maxPeerIdBytes at hname
    refine packMap_length_le_of (k := 16) (m := 2213) rfl ?_ (by simp)
    simp only [List.map_cons, List.map_nil, List.forall_mem_cons]
    simp
    omega
  | prepare requestId targetDisplay layoutRevision =>
    obtain ⟨_, -, hrest⟩ := bind_eq_ok.mp h
    obtain ⟨_, hdisplay, -⟩ := bind_eq_ok.mp hrest
    have hkind : (packStr "prepare").length ≤ 16 := packText_length_le (n := 11) (by decide)
    have hrequest := packUInt_length_le requestId.toNat
    have hname := packText_length_le (fits_size (validateText_eq_ok.mp hdisplay))
    have hrevision := packUInt_length_le layoutRevision.toNat
    unfold maxPeerIdBytes at hname
    refine packMap_length_le_of (k := 16) (m := 261) rfl ?_ (by simp)
    simp
    omega
  | ready requestId receiverBoot inputReady targetDisplay layoutRevision =>
    obtain ⟨_, -, hrest⟩ := bind_eq_ok.mp h
    obtain ⟨_, hdisplay, -⟩ := bind_eq_ok.mp hrest
    have hkind : (packStr "ready").length ≤ 16 := packText_length_le (n := 11) (by decide)
    have hrequest := packUInt_length_le requestId.toNat
    have hboot := packBytes16_length_le receiverBoot.bytes
    have hname := packText_length_le (fits_size (validateText_eq_ok.mp hdisplay))
    have hrevision := packUInt_length_le layoutRevision.toNat
    unfold maxPeerIdBytes at hname
    refine packMap_length_le_of (k := 16) (m := 261) rfl ?_ (by simp)
    simp
    omega
  | commit requestId sessionId =>
    have hkind : (packStr "commit").length ≤ 16 := packText_length_le (n := 11) (by decide)
    have hrequest := packUInt_length_le requestId.toNat
    have hsession := packSession_length_le sessionId
    refine packMap_length_le_of (k := 16) (m := 515) rfl ?_ (by simp)
    simp
    omega
  | commitAck sessionId =>
    have hkind : (packStr "commit_ack").length ≤ 16 := packText_length_le (n := 11) (by decide)
    have hsession := packSession_length_le sessionId
    refine packMap_length_le_of (k := 16) (m := 515) rfl ?_ (by simp)
    simp
    omega
  | endSession sessionId reason =>
    obtain ⟨_, -, hreason⟩ := bind_eq_ok.mp h
    have hkind : (packStr "end_session").length ≤ 16 := packText_length_le (n := 11) (by decide)
    have hsession := packSession_length_le sessionId
    have htext := packText_length_le (fits_size (validateText_eq_ok.mp hreason))
    unfold maxDetailBytes at htext
    refine packMap_length_le_of (k := 16) (m := 517) rfl ?_ (by simp)
    simp
    omega
  | ping sessionId sequence =>
    have hkind : (packStr "ping").length ≤ 16 := packText_length_le (n := 11) (by decide)
    have hsession := packSession_length_le sessionId
    have hsequence := packUInt_length_le sequence.toNat
    refine packMap_length_le_of (k := 16) (m := 515) rfl ?_ (by simp)
    simp
    omega
  | pong sessionId sequence highestAppliedSequence =>
    have hkind : (packStr "pong").length ≤ 16 := packText_length_le (n := 11) (by decide)
    have hsession := packSession_length_le sessionId
    have hsequence := packUInt_length_le sequence.toNat
    have hhighest := packUInt_length_le highestAppliedSequence.toNat
    refine packMap_length_le_of (k := 24) (m := 515) rfl ?_ (by simp)
    simp
    omega
  | reject code detail =>
    obtain ⟨_, hcode, hdetail⟩ := bind_eq_ok.mp h
    have hkind : (packStr "reject").length ≤ 16 := packText_length_le (n := 11) (by decide)
    have hname := packText_length_le (fits_size (validateText_eq_ok.mp hcode))
    have htext := packText_length_le (fits_size (validateText_eq_ok.mp hdetail))
    unfold maxCapabilityBytes at hname
    unfold maxDetailBytes at htext
    refine packMap_length_le_of (k := 16) (m := 517) rfl ?_ (by simp)
    simp
    omega

theorem packEvent_length_le (event : CriticalEvent) : (packEvent event).length ≤ 300 := by
  cases event with
  | key keyCode scanCode extended down =>
    have hkind : (packStr "key").length ≤ 16 := packText_length_le (n := 11) (by decide)
    have hcode := packUInt_length_le keyCode.toNat
    have hscan := packUInt_length_le scanCode.toNat
    refine packMap_length_le_of (k := 16) (m := 16) rfl ?_ (by simp)
    simp
    omega
  | button button down x y motionSequence =>
    have hkind : (packStr "button").length ≤ 16 := packText_length_le (n := 11) (by decide)
    have hbutton := packButton_length_le button
    have hx := packInt_length_le x.toInt
    have hy := packInt_length_le y.toInt
    have hmotion := packUInt_length_le motionSequence.toNat
    refine packMap_length_le_of (k := 16) (m := 16) rfl ?_ (by simp)
    simp
    omega
  | scroll deltaX deltaY x y motionSequence =>
    have hkind : (packStr "scroll").length ≤ 16 := packText_length_le (n := 11) (by decide)
    have hdeltaX := packInt_length_le deltaX.toInt
    have hdeltaY := packInt_length_le deltaY.toInt
    have hx := packInt_length_le x.toInt
    have hy := packInt_length_le y.toInt
    have hmotion := packUInt_length_le motionSequence.toNat
    refine packMap_length_le_of (k := 16) (m := 16) rfl ?_ (by simp)
    simp
    omega

/-- **Every critical frame** stays below the limit. -/
theorem packCriticalFrame_length_le (frame : CriticalFrame) : (packCriticalFrame frame).length ≤ 2000 := by
  have hsession := packSession_length_le frame.sessionId
  have hsequence := packUInt_length_le frame.sequence.toNat
  have hevent := packEvent_length_le frame.event
  refine packMap_length_le_of (k := 16) (m := 515) rfl ?_ (by simp)
  simp
  omega

theorem packEnvelope_length_le {α : Type} (pack : α → List UInt8) (envelope : Envelope α) :
    (packEnvelope pack envelope).length ≤ 53 + (pack envelope.body).length := by
  have hmagic := packUInt_length_le envelope.magic.toNat
  have hmajor := packUInt_length_le envelope.major.toNat
  have hkeys : (packStr "magic").length ≤ 10 ∧ (packStr "major").length ≤ 10 ∧ (packStr "frame").length ≤ 10 :=
    ⟨packText_length_le (n := 5) (by decide), packText_length_le (n := 5) (by decide),
      packText_length_le (n := 5) (by decide)⟩
  have hle :=
    packMap_length_le [("magic", packUInt envelope.magic.toNat), ("major", packUInt envelope.major.toNat),
    ("frame", pack envelope.body)]
  simp only [List.map_cons, List.map_nil, List.sum_cons, List.sum_nil, List.length_append] at hle
  unfold packEnvelope
  omega

end Pack

/-! ### The limits refuse nothing -/

section Limits

variable {α : Type} {codec : Codec α} {pack : α → List UInt8} {validate : α → Except ProtocolError Unit}

/-- An envelope which is packed in `packed` and unpacks to itself. -/
def Codec.Packs (codec : Codec α) (packed : Envelope α → List UInt8) (envelope : Envelope α) : Prop :=
  ∃ payload, codec.toVecNamed envelope = some payload ∧ payload.length = (packed envelope).length ∧
    codec.fromSlice payload = some envelope

theorem Codec.single_packs (packed : Envelope α → List UInt8) (envelope : Envelope α) :
    (Codec.single packed envelope).Packs packed envelope := ⟨_, rfl, rfl, if_pos rfl⟩

/-- A body which passes its check and whose envelope is packed within the limit becomes a
payload which is read back. -/
theorem encodePayload_packs {packed : Envelope α → List UInt8} {magic : UInt32} {limit : ℕ} {body : α}
    (hvalid : validate body = .ok ()) (hpacks : codec.Packs packed ⟨magic, protocolMajor, body⟩)
    (hsome : packed ⟨magic, protocolMajor, body⟩ ≠ [])
    (hlimit : (packed ⟨magic, protocolMajor, body⟩).length ≤ limit) :
    ∃ payload, encodePayload codec validate magic limit body = .ok payload ∧ payload ≠ [] ∧
    payload.length ≤ limit ∧
      decodeEnvelope codec validate magic payload = .ok body := by
  obtain ⟨payload, hpacked, hlength, hback⟩ := hpacks
  have hne : payload ≠ [] := by
    intro hnil
    rw [hnil] at hlength
    exact hsome (List.length_eq_zero_iff.mp hlength.symm)
  have hfits : ¬ (payload = [] ∨ limit < payload.length) := by
    rintro (hnil | hlong)
    · exact hne hnil
    · omega
  refine ⟨payload, ?_, hne, by omega, ?_⟩
  · rw [encodePayload, hvalid]
    show (match codec.toVecNamed ⟨magic, protocolMajor, body⟩ with
      | none => .error .decode
      | some payload => if payload = [] ∨ limit < payload.length then .error (.frameTooLarge payload.length)
        else .ok payload : Except ProtocolError (List UInt8)) = .ok payload
    rw [hpacked]
    exact if_neg hfits
  · rw [decodeEnvelope, hback]
    simp [hvalid, bind, Except.bind]

/-- The same for the envelopes of the streams. -/
theorem encodePayload_eq_ok {magic : UInt32} {limit : ℕ} {body : α} (hvalid : validate body = .ok ())
    (hcarries : codec.Carries pack ⟨magic, protocolMajor, body⟩) (hlimit : 53 + (pack body).length ≤ limit) :
    ∃ payload, encodePayload codec validate magic limit body = .ok payload ∧ payload ≠ [] ∧
    payload.length ≤ limit ∧
      decodeEnvelope codec validate magic payload = .ok body :=
  encodePayload_packs hvalid hcarries.packed (packMap_ne_nil _)
    (Nat.le_trans (packEnvelope_length_le pack _) hlimit)

/-- **Round trip of a message which comes in one piece.** -/
theorem decodeWhole_encodePayload {magic : UInt32} {limit : ℕ} {body : α} {payload : List UInt8}
    (hround : ∀ bytes, codec.toVecNamed ⟨magic, protocolMajor, body⟩ = some bytes →
      codec.fromSlice bytes = some ⟨magic, protocolMajor, body⟩)
    (h : encodePayload codec validate magic limit body = .ok payload) :
    decodeWhole codec validate magic limit payload = .ok body := by
  obtain ⟨_, hvalid, hpacked⟩ := bind_eq_ok.mp h
  split at hpacked
  · cases hpacked
  · rename_i bytes hbytes
    split at hpacked
    · cases hpacked
    · rename_i hfits
      cases hpacked
      obtain ⟨hne, hle⟩ := not_or.mp hfits
      rw [decodeWhole, if_neg hne, if_neg hle, decodeEnvelope, hround payload hbytes]
      simp [hvalid, bind, Except.bind]

/-- The frame behind its length. -/
theorem framed_eq_ok {x : Except ProtocolError (List UInt8)} {payload : List UInt8} (h : x = .ok payload)
    (hsize : payload.length < 2 ^ 32) : (x >>= framed) = .ok (bigEndian 4 payload.length ++ payload) := by
  rw [h]
  exact if_pos hsize

end Limits

/-- **Every control frame which passes its check is encoded**, and its payload is read back. -/
theorem encodeControl_eq_ok {codec : Codec ControlFrame} {frame : ControlFrame}
    (hvalid : validateFrame frame = .ok ()) (hcarries : codec.Carries packFrame ⟨magic, protocolMajor, frame⟩) :
    ∃ payload, encodeControl codec frame = .ok (bigEndian 4 payload.length ++ payload) ∧ payload ≠ [] ∧
      payload.length ≤ maxControlFrameBytes ∧ decodePayload codec payload = .ok frame := by
  have hsize := packFrame_length_le hvalid
  have hlimit : 53 + (packFrame frame).length ≤ maxControlFrameBytes := by
    unfold maxControlFrameBytes
    omega
  obtain ⟨payload, hencode, hne, hle, hback⟩ := encodePayload_eq_ok hvalid hcarries hlimit
  have hword : payload.length < 2 ^ 32 := by
    unfold maxControlFrameBytes at hle
    omega
  exact ⟨payload, framed_eq_ok hencode hword, hne, hle, hback⟩

/-- **Every critical frame which passes its check is encoded**, and its payload is read back. -/
theorem encodeCritical_eq_ok {codec : Codec CriticalFrame} {frame : CriticalFrame}
    (hvalid : validateCritical frame = .ok ())
    (hcarries : codec.Carries packCriticalFrame ⟨inputMagic, protocolMajor, frame⟩) :
    ∃ payload, encodeCritical codec frame = .ok (bigEndian 4 payload.length ++ payload) ∧ payload ≠ [] ∧
      payload.length ≤ maxCriticalFrameBytes ∧ decodeCriticalPayload codec payload = .ok frame := by
  have hsize := packCriticalFrame_length_le frame
  have hlimit : 53 + (packCriticalFrame frame).length ≤ maxCriticalFrameBytes := by
    unfold maxCriticalFrameBytes
    omega
  obtain ⟨payload, hencode, hne, hle, hback⟩ := encodePayload_eq_ok hvalid hcarries hlimit
  have hword : payload.length < 2 ^ 32 := by
    unfold maxCriticalFrameBytes at hle
    omega
  exact ⟨payload, framed_eq_ok hencode hword, hne, hle, hback⟩

end MyKvm.Protocol
