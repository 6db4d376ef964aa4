import MyKvm.Protocol.Decoder

/-!
# MyKvm.Protocol.Chunking — the streams of the program

The control stream and the input stream carry every list of frames which pass their checks, whatever the chunks in
which the network hands them over.  On a malformed stream the chunks do matter: a chunk which holds the fault loses
the frames which came before the fault in it.
-/

namespace MyKvm.Protocol

open MyKvm.Lib MyKvm.Lib.Framing

/-- The blocks which an encoder writes, one for a frame. -/
theorem exists_encoded {F : Type} (encode : F → Except ProtocolError (List UInt8))
    (fmt : Format UInt8 F ProtocolError) {frames : List F}
    (h : ∀ frame ∈ frames, ∃ block, encode frame = .ok block ∧ Format.IsBlock fmt frame block) :
    ∃ blocks, List.Forall₂ (fun frame block => encode frame = .ok block) frames blocks ∧
      List.Forall₂ (Format.IsBlock fmt) frames blocks := by
  induction frames with
  | nil => exact ⟨[], .nil, .nil⟩
  | cons frame frames ih =>
    obtain ⟨block, hencode, hblock⟩ := h frame List.mem_cons_self
    obtain ⟨blocks, hencodes, hblocks⟩ := ih fun other hother => h other (List.mem_cons_of_mem _ hother)
    exact ⟨block :: blocks, .cons hencode hencodes, .cons hblock hblocks⟩

/-- The control stream carries every list of valid frames. -/
theorem streams_control {codec : Codec ControlFrame} {frames : List ControlFrame}
    (hvalid : ∀ frame ∈ frames, validateFrame frame = .ok ())
    (hcarries : ∀ frame ∈ frames, codec.Carries packFrame ⟨magic, protocolMajor, frame⟩) :
    ∃ blocks, List.Forall₂ (fun frame block => encodeControl codec frame = .ok block) frames blocks ∧
      Streams (feedControl codec) frames blocks := by
  obtain ⟨blocks, hencode, hblocks⟩ := exists_encoded (encodeControl codec)
    (blockFormat maxControlFrameBytes (decodePayload codec)) fun frame (hframe : frame ∈ frames) => by
      obtain ⟨payload, hencode, hne, hle, hback⟩ :=
        encodeControl_eq_ok (hvalid frame hframe) (hcarries frame hframe)
      exact ⟨_, hencode, isBlock_framed hne hle (by decide) hback⟩
  exact ⟨blocks, hencode, streams_of_blocks hblocks⟩

/-- The input stream carries every list of valid frames. -/
theorem streams_critical {codec : Codec CriticalFrame} {frames : List CriticalFrame}
    (hvalid : ∀ frame ∈ frames, validateCritical frame = .ok ())
    (hcarries : ∀ frame ∈ frames, codec.Carries packCriticalFrame ⟨inputMagic, protocolMajor, frame⟩) :
    ∃ blocks, List.Forall₂ (fun frame block => encodeCritical codec frame = .ok block) frames blocks ∧
      Streams (feedCritical codec) frames blocks := by
  obtain ⟨blocks, hencode, hblocks⟩ := exists_encoded (encodeCritical codec)
    (blockFormat maxCriticalFrameBytes (decodeCriticalPayload codec)) fun frame (hframe : frame ∈ frames) => by
      obtain ⟨payload, hencode, hne, hle, hback⟩ :=
        encodeCritical_eq_ok (hvalid frame hframe) (hcarries frame hframe)
      exact ⟨_, hencode, isBlock_framed hne hle (by decide) hback⟩
  exact ⟨blocks, hencode, streams_of_blocks hblocks⟩

/-- **Round trip over every chunking.** -/
theorem framing_round_trip (control : Codec ControlFrame) (critical : Codec CriticalFrame)
    (motion : Codec MotionFrame)
    (bulk : Codec ClipboardBulkOperation) (clipboardTextDigest : String → Digest) (frames : List ControlFrame)
    (inputs : List CriticalFrame) (move : MotionFrame) (operation : ClipboardBulkOperation)
    (hframes : ∀ frame ∈ frames, validateFrame frame = .ok ())
    (hcontrol : ∀ frame ∈ frames, control.Carries packFrame ⟨magic, protocolMajor, frame⟩)
    (hinputs : ∀ frame ∈ inputs, validateCritical frame = .ok ())
    (hcritical : ∀ frame ∈ inputs, critical.Carries packCriticalFrame ⟨inputMagic, protocolMajor, frame⟩)
    (hmotion : ∀ bytes, motion.toVecNamed ⟨motionMagic, protocolMajor, move⟩ = some bytes →
      motion.fromSlice bytes = some ⟨motionMagic, protocolMajor, move⟩)
    (hbulk : ∀ bytes, bulk.toVecNamed ⟨bulkMagic, protocolMajor, operation⟩ = some bytes →
      bulk.fromSlice bytes = some ⟨bulkMagic, protocolMajor, operation⟩) :
    (∃ blocks, List.Forall₂ (fun frame block => encodeControl control frame = .ok block) frames blocks ∧
      Streams (feedControl control) frames blocks) ∧
    (∃ blocks, List.Forall₂ (fun frame block => encodeCritical critical frame = .ok block) inputs blocks ∧
      Streams (feedCritical critical) inputs blocks) ∧
    (∀ payload, encodeMotion motion move = .ok payload → decodeMotion motion payload = .ok move) ∧
    ∀ payload, encodeClipboardBulk clipboardTextDigest bulk operation = .ok payload →
      decodeClipboardBulk clipboardTextDigest bulk payload = .ok operation :=
  ⟨streams_control hframes hcontrol, streams_critical hinputs hcritical,
    fun _ h => decodeWhole_encodePayload hmotion h, fun _ h => decodeWhole_encodePayload hbulk h⟩

/-! ### A session which runs -/

section Examples

def sampleSession : SessionId := ⟨⟨Vector.replicate 16 1⟩, ⟨Vector.replicate 16 2⟩, Vector.replicate 16 3⟩

def sampleAck : ControlFrame := .commitAck sampleSession

def sampleKey : CriticalFrame := ⟨sampleSession, 1, .key 65 30 false true⟩

def sampleMotion : MotionFrame := ⟨sampleSession, "display-main", 7, 1, 0, 100, 200⟩

/-- The digest of the text `a`. -/
def digestOfA : Digest :=
  #v[0xCA, 0x97, 0x81, 0x12, 0xCA, 0x1B, 0xBD, 0xCA, 0xFA, 0xC2, 0x31, 0xB3, 0x9A, 0x23, 0xDC, 0x4D,
    0xA7, 0x86, 0xEF, 0xF8, 0x14, 0x7C, 0x4E, 0x72, 0xB9, 0x80, 0x77, 0x85, 0xAF, 0xEE, 0x48, 0xBB]

def sampleCopy : ClipboardBulkOperation :=
  .text ⟨⟨⟨Vector.replicate 16 1⟩, 1⟩, "controller-a", 10, 1, digestOfA, "a"⟩

def ackCodec : Codec ControlFrame := Codec.single (packEnvelope packFrame) ⟨magic, protocolMajor, sampleAck⟩

def keyCodec : Codec CriticalFrame :=
  Codec.single (packEnvelope packCriticalFrame) ⟨inputMagic, protocolMajor, sampleKey⟩

def motionCodec : Codec MotionFrame :=
  Codec.single (packEnvelope packMotionFrame) ⟨motionMagic, protocolMajor, sampleMotion⟩

def copyCodec : Codec ClipboardBulkOperation :=
  Codec.single packBulkEnvelope ⟨bulkMagic, protocolMajor, sampleCopy⟩

theorem sampleSession_valid : sampleSession.Valid := by
  refine ⟨?_, ?_, ?_⟩ <;> decide

theorem sampleAck_valid : validateFrame sampleAck = .ok () := validateSession_eq_ok.mpr sampleSession_valid

theorem sampleKey_valid : validateCritical sampleKey = .ok () :=
  bind_eq_ok.mpr ⟨(), validateSession_eq_ok.mpr sampleSession_valid, rfl⟩

theorem framing_round_trip_sample :
    (∃ blocks,
      List.Forall₂ (fun frame block => encodeControl ackCodec frame = .ok block) [sampleAck, sampleAck] blocks ∧
      Streams (feedControl ackCodec) [sampleAck, sampleAck] blocks) ∧
    (∃ blocks, List.Forall₂ (fun frame block => encodeCritical keyCodec frame = .ok block) [sampleKey] blocks ∧
      Streams (feedCritical keyCodec) [sampleKey] blocks) ∧
    (∀ payload, encodeMotion motionCodec sampleMotion = .ok payload →
      decodeMotion motionCodec payload = .ok sampleMotion) ∧
    ∀ payload, encodeClipboardBulk (fun _ => digestOfA) copyCodec sampleCopy = .ok payload →
      decodeClipboardBulk (fun _ => digestOfA) copyCodec payload = .ok sampleCopy :=
  framing_round_trip ackCodec keyCodec motionCodec copyCodec (fun _ => digestOfA)
    [sampleAck, sampleAck] [sampleKey] sampleMotion sampleCopy (by simp [sampleAck_valid])
    (by simp [ackCodec, Codec.single_carries])
    (by simp [sampleKey_valid]) (by simp [keyCodec, Codec.single_carries])
    (Codec.single_round _ _) (Codec.single_round _ _)

end Examples

/-! ### Malformed streams -/

/-- **When the chunks do not matter**: on the streams in which no malformed block comes after a frame. -/
theorem chunking_agrees_iff (control : Codec ControlFrame) (critical : Codec CriticalFrame) (bytes : List UInt8) :
    ((∀ chunks, chunks.flatten = bytes →
        Agree (feedControl control chunks) (feedControl control [bytes]) ∧
        Agree (feedControl control chunks) (feedControl control (bytes.map ([·])))) ↔
      ¬ Format.FaultAfterFrames (blockFormat maxControlFrameBytes (decodePayload control)) bytes) ∧
    ((∀ chunks, chunks.flatten = bytes →
        Agree (feedCritical critical chunks) (feedCritical critical [bytes]) ∧
        Agree (feedCritical critical chunks) (feedCritical critical (bytes.map ([·])))) ↔
      ¬ Format.FaultAfterFrames (blockFormat maxCriticalFrameBytes (decodeCriticalPayload critical)) bytes) :=
  ⟨feed_agree_iff bytes, feed_agree_iff bytes⟩

/-- An acknowledgement and then four zeros: in one chunk it is lost. -/
theorem chunking_disagrees : ∃ block, encodeControl ackCodec sampleAck = .ok block ∧
    feedControl ackCodec [block ++ [0, 0, 0, 0]] = ([], .error .invalidLength) ∧
    feedControl ackCodec ((block ++ [0, 0, 0, 0]).map ([·])) = ([sampleAck], .error .invalidLength) := by
  have hcarries : ackCodec.Carries packFrame ⟨magic, protocolMajor, sampleAck⟩ := Codec.single_carries _ _
  obtain ⟨payload, hencode, hne, hle, hback⟩ := encodeControl_eq_ok sampleAck_valid hcarries
  have hblock : Format.IsBlock (blockFormat maxControlFrameBytes (decodePayload ackCodec)) sampleAck
      (bigEndian 4 payload.length ++ payload) := isBlock_framed hne hle (by decide) hback
  have hfault : (blockFormat maxControlFrameBytes (decodePayload ackCodec)).front [0, 0, 0, 0] =
      .fault .invalidLength := rfl
  have hread : (blockFormat maxControlFrameBytes (decodePayload ackCodec)).read
      ((bigEndian 4 payload.length ++ payload) ++ [0, 0, 0, 0]) = ([sampleAck], .fault .invalidLength) := by
    have hblocks := Format.read_blocks (.cons hblock .nil) [0, 0, 0, 0]
    rw [List.flatten_cons, List.flatten_nil, List.append_nil] at hblocks
    exact hblocks.trans (by rw [Format.read_of_fault hfault]; rfl)
  exact ⟨_, hencode, FrameDecoder.feed_of_fault hread⟩

end MyKvm.Protocol
