import Mathlib.Data.List.Forall2
import MyKvm.Lib.Framing
import MyKvm.Protocol.Wire

/-!
# MyKvm.Protocol.Decoder — frames out of chunks

`ControlDecoder` and `CriticalDecoder` are one machine with two limits and two payload decoders.  The machine is in
a length prefix or in a payload; its state is given by the bytes of the block which it is in (`pending`), and
pushing chunks delivers what the stream's format says (`feed_eq_deliver`).

* `streams_of_blocks`: whole blocks, cut anywhere, give their frames; a stream which ends inside a block is
  truncated.
* `feed_agree_iff`: when the chunks do not matter.
-/

namespace MyKvm.Protocol

open MyKvm.Lib MyKvm.Lib.Framing

/-- `prefix[..prefix_len]`, and the payload so far. -/
structure FrameDecoder where
  prefixBytes : List UInt8 := []
  expected : Option ℕ := none
  payload : List UInt8 := []
  deriving DecidableEq

namespace FrameDecoder

variable {F : Type} (limit : ℕ) (decode : List UInt8 → Except ProtocolError F)

/-- The first half of a round: the prefix, unless it is complete.  Afterwards `expected` is
set, or the bytes are used up. -/
def readPrefix (d : FrameDecoder) (bytes : List UInt8) : Except ProtocolError (FrameDecoder × List UInt8) :=
  if d.expected.isSome then .ok (d, bytes) else
  let take := min (4 - d.prefixBytes.length) bytes.length
  let prefixBytes := d.prefixBytes ++ bytes.take take
  if prefixBytes.length < 4 then .ok ({ d with prefixBytes := prefixBytes }, bytes.drop take) else
  let length := ofBigEndian prefixBytes
  if length = 0 then .error .invalidLength
  else if limit < length then .error (.frameTooLarge length)
  else .ok ({ prefixBytes := prefixBytes, expected := some length, payload := [] }, bytes.drop take)

/-- The loop of `push`.  A round takes a byte or is the last one, so there are at most as many as bytes.  A fault
in a length resets the decoder, a fault in a payload does not. -/
def pushLoop : ℕ → FrameDecoder → List UInt8 → List F → FrameDecoder × Except ProtocolError (List F)
  | 0, d, _, decoded => (d, .ok decoded)
  | fuel + 1, d, bytes, decoded =>
    if bytes = [] then (d, .ok decoded) else
    match d.readPrefix limit bytes with
    | .error e => ({}, .error e)
    | .ok (d, bytes) =>
      match d.expected with
      | none => pushLoop fuel d bytes decoded
      | some expected =>
        let take := min (expected - d.payload.length) bytes.length
        let payload := d.payload ++ bytes.take take
        if payload.length = expected then
          match decode payload with
          | .error e => ({ d with payload := payload }, .error e)
          | .ok frame => pushLoop fuel {} (bytes.drop take) (decoded ++ [frame])
        else pushLoop fuel { d with payload := payload } (bytes.drop take) decoded

def push (d : FrameDecoder) (bytes : List UInt8) : FrameDecoder × Except ProtocolError (List F) :=
  pushLoop limit decode bytes.length d bytes []

def finish (d : FrameDecoder) : Except ProtocolError Unit :=
  if d.prefixBytes = [] ∧ d.expected = none then .ok () else .error .truncated

/-- The chunks in turn, up to the first error. -/
def feed (d : FrameDecoder) : List (List UInt8) → List F × Except ProtocolError FrameDecoder
  | [] => ([], .ok d)
  | chunk :: chunks =>
    match d.push limit decode chunk with
    | (_, .error e) => ([], .error e)
    | (d, .ok frames) => (frames ++ (feed d chunks).1, (feed d chunks).2)

end FrameDecoder

/-- `ControlDecoder::push`, chunk after chunk. -/
def feedControl (codec : Codec ControlFrame) (chunks : List (List UInt8)) :
    List ControlFrame × Except ProtocolError FrameDecoder :=
  FrameDecoder.feed maxControlFrameBytes (decodePayload codec) {} chunks

/-- `CriticalDecoder::push`, chunk after chunk. -/
def feedCritical (codec : Codec CriticalFrame) (chunks : List (List UInt8)) :
    List CriticalFrame × Except ProtocolError FrameDecoder :=
  FrameDecoder.feed maxCriticalFrameBytes (decodeCriticalPayload codec) {} chunks

/-! ### The format of the stream -/

section Format

variable {F : Type} (limit : ℕ) (decode : List UInt8 → Except ProtocolError F)

/-- Four bytes of length, and a payload of one byte at least. -/
def blockFormat : Format UInt8 F ProtocolError where
  headerSize := 4
  headerSize_pos := by decide
  payloadSize header :=
    let length := ofBigEndian header
    if length = 0 then .error .invalidLength
    else if limit < length then .error (.frameTooLarge length)
    else .ok length
  decode := decode

variable {limit decode}

theorem blockFormat_payloadSize {header : List UInt8} {n : ℕ} :
    (blockFormat limit decode).payloadSize header = .ok n ↔ ofBigEndian header = n ∧ 0 < n ∧ n ≤ limit := by
  unfold blockFormat
  dsimp only
  split
  · constructor
    · intro h
      cases h
    · omega
  split
  · constructor
    · intro h
      cases h
    · omega
  · constructor
    · intro h
      cases h
      omega
    · rintro ⟨rfl, -⟩
      rfl

/-- What the encoder writes is a block. -/
theorem isBlock_framed {payload : List UInt8} {frame : F} (hne : payload ≠ []) (hle : payload.length ≤ limit)
    (hlimit : limit < 2 ^ 32) (hdecode : decode payload = .ok frame) :
    Format.IsBlock (blockFormat limit decode) frame (bigEndian 4 payload.length ++ payload) := by
  have hheader : (bigEndian 4 payload.length).length = (blockFormat limit decode).headerSize :=
    bigEndian_length _ _
  have hlength := ofBigEndian_bigEndian (k := 4) (n := payload.length) (by omega)
  have hpos : 0 < payload.length := List.length_pos_iff.mpr hne
  constructor
  · rw [List.length_append, hheader]
    omega
  · rw [List.take_left' hheader, List.length_append, hheader, Nat.add_sub_cancel_left]
    exact blockFormat_payloadSize.mpr ⟨hlength, hpos, hle⟩
  · rw [List.drop_left' hheader]
    exact hdecode

/-- What stands at the front, once the prefix is complete. -/
theorem front_of_header {header rest : List UInt8} (hheader : header.length = 4) :
    (blockFormat limit decode).front (header ++ rest) =
      match (blockFormat limit decode).payloadSize header with
      | .error e => .fault e
      | .ok n =>
        if rest.length < n then .cut else
        match decode (rest.take n) with
        | .error e => .fault e
        | .ok frame => .frame frame (4 + n) := by
  have hsize : (blockFormat limit decode).headerSize = header.length := hheader.symm
  have hlong : ¬ (header ++ rest).length < header.length := by
    rw [List.length_append]
    omega
  unfold Format.front
  rw [hsize, if_neg hlong, List.take_left, List.drop_left, List.length_append, hheader]
  have hdecode : (blockFormat limit decode).decode = decode := rfl
  cases (blockFormat limit decode).payloadSize header with
  | error e => rfl
  | ok n =>
    simp only [Nat.add_lt_add_iff_left, hdecode]
    cases decode (rest.take n) <;> rfl

variable (decode) in
/-- A whole block at the front. -/
theorem front_of_block {header payload : List UInt8} {n : ℕ} (hheader : header.length = 4)
    (hsize : (blockFormat limit decode).payloadSize header = .ok n) (hpayload : payload.length = n)
    (rest : List UInt8) :
    (blockFormat limit decode).front (header ++ (payload ++ rest)) =
      match decode payload with
      | .error e => .fault e
      | .ok frame => .frame frame (4 + n) := by
  have hlong : ¬ (payload ++ rest).length < n := by
    rw [List.length_append]
    omega
  rw [front_of_header hheader, hsize]
  dsimp only
  rw [if_neg hlong, List.take_left' hpayload]

end Format

/-! ### The state of the decoder -/

namespace FrameDecoder

variable {F : Type} {limit : ℕ} {decode : List UInt8 → Except ProtocolError F}

/-- The bytes of the block which the decoder is in. -/
def pending (d : FrameDecoder) : List UInt8 := d.prefixBytes ++ d.payload

/-- The decoder is inside a prefix, or inside the payload which the prefix announced. -/
structure Coherent (limit : ℕ) (d : FrameDecoder) : Prop where
  inPrefix : d.expected = none → d.prefixBytes.length < 4 ∧ d.payload = []
  inPayload : ∀ n, d.expected = some n →
    d.prefixBytes.length = 4 ∧ ofBigEndian d.prefixBytes = n ∧ 0 < n ∧ n ≤ limit ∧ d.payload.length < n

theorem coherent_fresh : Coherent limit {} := ⟨fun _ => ⟨by decide, rfl⟩, fun _ h => nomatch h⟩

/-- A block which is not complete says nothing. -/
theorem Coherent.front_pending {d : FrameDecoder} (h : Coherent limit d) :
    (blockFormat limit decode).front d.pending = .cut := by
  cases hexpected : d.expected with
  | none =>
    obtain ⟨hshort, hempty⟩ := h.inPrefix hexpected
    have hlength : d.pending.length < 4 := by rwa [pending, hempty, List.append_nil]
    exact if_pos hlength
  | some n =>
    obtain ⟨hheader, hlength, hpos, hle, hshort⟩ := h.inPayload n hexpected
    rw [pending, front_of_header hheader, blockFormat_payloadSize.mpr ⟨hlength, hpos, hle⟩]
    exact if_pos hshort

theorem readPrefix_of_some {d : FrameDecoder} {n : ℕ} (h : d.expected = some n) (bytes : List UInt8) :
    d.readPrefix limit bytes = .ok (d, bytes) := by simp [readPrefix, h]

/-- A length which is refused is a fault of the stream. -/
theorem Coherent.readPrefix_error {d : FrameDecoder} (h : Coherent limit d) {bytes : List UInt8}
    {e : ProtocolError} (hread : d.readPrefix limit bytes = .error e) :
    (blockFormat limit decode).front (d.pending ++ bytes) = .fault e := by
  cases hexpected : d.expected with
  | some n =>
    rw [readPrefix_of_some hexpected] at hread
    cases hread
  | none =>
    obtain ⟨hshort, hempty⟩ := h.inPrefix hexpected
    unfold readPrefix at hread
    rw [hexpected, if_neg (by simp)] at hread
    generalize htake : min (4 - d.prefixBytes.length) bytes.length = take at hread
    have hsplit : d.pending ++ bytes = (d.prefixBytes ++ bytes.take take) ++ bytes.drop take := by
      rw [pending, hempty, List.append_nil, List.append_assoc, List.take_append_drop]
    have hlength : (d.prefixBytes ++ bytes.take take).length = d.prefixBytes.length + take := by
      rw [List.length_append, List.length_take_of_le (by omega)]
    dsimp only at hread
    split at hread
    · cases hread
    rename_i hwhole
    have hheader : (d.prefixBytes ++ bytes.take take).length = 4 := by omega
    have hsize : (blockFormat limit decode).payloadSize (d.prefixBytes ++ bytes.take take) = .error e := by
      unfold blockFormat
      dsimp only
      split at hread
      · cases hread
        exact if_pos ‹_›
      split at hread
      · cases hread
        rw [if_neg ‹_›]
        exact if_pos ‹_›
      · cases hread
    rw [hsplit, front_of_header hheader, hsize]

/-- The first half of a round keeps the bytes in order, and stops inside the prefix only for want of bytes. -/
theorem Coherent.readPrefix_ok {d d' : FrameDecoder} (h : Coherent limit d) {bytes bytes' : List UInt8}
    (hread : d.readPrefix limit bytes = .ok (d', bytes')) :
    Coherent limit d' ∧ d'.pending ++ bytes' = d.pending ++ bytes ∧ (d'.expected = none → bytes' = []) ∧
      bytes'.length ≤ bytes.length := by
  cases hexpected : d.expected with
  | some n =>
    rw [readPrefix_of_some hexpected] at hread
    cases hread
    refine ⟨h, rfl, ?_, Nat.le_refl _⟩
    intro hnone
    rw [hexpected] at hnone
    cases hnone
  | none =>
    obtain ⟨hshort, hempty⟩ := h.inPrefix hexpected
    unfold readPrefix at hread
    rw [hexpected, if_neg (by simp)] at hread
    generalize htake : min (4 - d.prefixBytes.length) bytes.length = take at hread
    have hsplit : (d.prefixBytes ++ bytes.take take) ++ bytes.drop take = d.pending ++ bytes := by
      rw [pending, hempty, List.append_nil, List.append_assoc, List.take_append_drop]
    have hlength : (d.prefixBytes ++ bytes.take take).length = d.prefixBytes.length + take := by
      rw [List.length_append, List.length_take_of_le (by omega)]
    have hless : (bytes.drop take).length ≤ bytes.length := by
      rw [List.length_drop]
      omega
    dsimp only at hread
    split at hread
    · rename_i hpart
      cases hread
      refine ⟨⟨fun _ => ⟨hpart, hempty⟩, fun n hn => ?_⟩, ?_, fun _ => ?_, hless⟩
      · cases hn
      · rw [← hsplit, pending, hempty, List.append_nil]
      · exact List.drop_eq_nil_of_le (by omega)
    rename_i hwhole
    have hheader : (d.prefixBytes ++ bytes.take take).length = 4 := by omega
    split at hread
    · cases hread
    rename_i hzero
    split at hread
    · cases hread
    rename_i hlarge
    cases hread
    refine ⟨⟨(nomatch ·), fun n hn => ?_⟩, ?_, (nomatch ·), hless⟩
    · cases hn
      exact ⟨hheader, rfl, Nat.pos_of_ne_zero hzero, Nat.not_lt.mp hlarge, Nat.pos_of_ne_zero hzero⟩
    · rw [← hsplit, pending, List.append_nil]

/-- What `push` says about a stream which is read so. -/
def Answers (limit : ℕ) (decoded : List F) (stream : List F × Tail UInt8 ProtocolError)
    (answer : FrameDecoder × Except ProtocolError (List F)) : Prop :=
  match stream.2 with
  | .fault e => answer.2 = .error e
  | .cut rest => answer.2 = .ok (decoded ++ stream.1) ∧ Coherent limit answer.1 ∧ answer.1.pending = rest

/-- The loop reads the stream: the induction is on the rounds, and a round leaves fewer bytes than it found. -/
theorem Coherent.pushLoop_answers {fuel : ℕ} {d : FrameDecoder} (h : Coherent limit d) {bytes : List UInt8}
    (hfuel : bytes.length ≤ fuel) (decoded : List F) :
    Answers limit decoded ((blockFormat limit decode).read (d.pending ++ bytes))
      (pushLoop limit decode fuel d bytes decoded) := by
  induction fuel generalizing d bytes decoded with
  | zero =>
    have hnil : bytes = [] := List.length_eq_zero_iff.mp (Nat.le_zero.mp hfuel)
    rw [hnil, List.append_nil, Format.read_of_cut h.front_pending]
    exact ⟨by rw [pushLoop, List.append_nil], h, rfl⟩
  | succ fuel ih =>
    by_cases hnil : bytes = []
    · rw [hnil, List.append_nil, Format.read_of_cut h.front_pending, pushLoop, if_pos rfl]
      exact ⟨by rw [List.append_nil], h, rfl⟩
    rw [pushLoop, if_neg hnil]
    cases hread : d.readPrefix limit bytes with
    | error e =>
      rw [Format.read_of_fault (h.readPrefix_error hread)]
      exact rfl
    | ok next =>
      obtain ⟨⟨header, expected, payload⟩, bytes'⟩ := next
      obtain ⟨hcoherent, hstream, hcut, hless⟩ := h.readPrefix_ok hread
      have hpos : 0 < bytes.length := List.length_pos_iff.mpr hnil
      rw [← hstream]
      cases expected with
      | none =>
        have hend : bytes' = [] := hcut rfl
        exact ih hcoherent (by rw [hend]; exact Nat.zero_le _) decoded
      | some n =>
        obtain ⟨hheader, hlength, hn, hle, hshort⟩ := hcoherent.inPayload n rfl
        dsimp only at hheader hlength hshort hless ⊢
        generalize htake : min (n - payload.length) bytes'.length = take
        have hleft : (bytes'.drop take).length ≤ fuel := by
          rw [List.length_drop]
          omega
        have hsize : (payload ++ bytes'.take take).length = payload.length + take := by
          rw [List.length_append, List.length_take_of_le (by omega)]
        have hsplit : pending ⟨header, some n, payload⟩ ++ bytes' =
            header ++ ((payload ++ bytes'.take take) ++ bytes'.drop take) := by
          rw [pending, List.append_assoc, List.append_assoc, List.take_append_drop]
        rw [hsplit]
        by_cases hwhole : (payload ++ bytes'.take take).length = n
        · have hfront := front_of_block decode hheader
            (blockFormat_payloadSize.mpr ⟨hlength, hn, hle⟩) hwhole (bytes'.drop take)
          rw [if_pos hwhole]
          cases hdecode : decode (payload ++ bytes'.take take) with
          | error e =>
            rw [hdecode] at hfront
            rw [Format.read_of_fault hfront]
            exact rfl
          | ok frame =>
            rw [hdecode] at hfront
            have hrest : (header ++ ((payload ++ bytes'.take take) ++ bytes'.drop take)).drop (4 + n) =
                pending {} ++ bytes'.drop take := by
              rw [← List.append_assoc]
              exact List.drop_left' (by rw [List.length_append, hheader, hwhole])
            have hmore := ih coherent_fresh hleft (decoded ++ [frame])
            rw [Format.read_of_frame hfront, hrest]
            unfold Answers at hmore ⊢
            dsimp only
            rw [List.append_assoc] at hmore
            exact hmore
        · have hnext : Coherent limit ⟨header, some n, payload ++ bytes'.take take⟩ := by
            refine ⟨(nomatch ·), fun m hm => ?_⟩
            cases hm
            have hpart : (payload ++ bytes'.take take).length < n := by omega
            exact ⟨hheader, hlength, hn, hle, hpart⟩
          have hmore := ih hnext hleft decoded
          rw [pending, List.append_assoc] at hmore
          rw [if_neg hwhole]
          exact hmore

theorem Coherent.push_answers {d : FrameDecoder} (h : Coherent limit d) (bytes : List UInt8) :
    Answers limit [] ((blockFormat limit decode).read (d.pending ++ bytes)) (d.push limit decode bytes) :=
  h.pushLoop_answers (Nat.le_refl _) []

/-- What is left when the chunks are used up, in the words of the format. -/
def tail : Except ProtocolError FrameDecoder → Tail UInt8 ProtocolError
  | .error e => .fault e
  | .ok d => .cut d.pending

/-- **The decoder delivers what the format says**, chunk by chunk. -/
theorem Coherent.feed_eq_deliver {d : FrameDecoder} (h : Coherent limit d) (chunks : List (List UInt8)) :
    ((d.feed limit decode chunks).1, tail (d.feed limit decode chunks).2) =
        (blockFormat limit decode).deliver d.pending chunks ∧
      ∀ d', (d.feed limit decode chunks).2 = .ok d' → Coherent limit d' := by
  induction chunks generalizing d with
  | nil =>
    refine ⟨rfl, fun d' hd' => ?_⟩
    cases hd'
    exact h
  | cons chunk chunks ih =>
    have hpush :
        Answers limit [] ((blockFormat limit decode).read (d.pending ++ chunk)) (d.push limit decode chunk) :=
      h.push_answers chunk
    cases htail : ((blockFormat limit decode).read (d.pending ++ chunk)).2 with
    | fault e =>
      rw [Answers, htail] at hpush
      have hfeed : d.feed limit decode (chunk :: chunks) = ([], .error e) := by
        rw [feed]
        split
        · rename_i heq
          rw [heq] at hpush
          cases hpush
          rfl
        · rename_i heq
          rw [heq] at hpush
          cases hpush
      rw [hfeed, Format.deliver_cons_of_fault htail]
      exact ⟨rfl, fun d' hd' => nomatch hd'⟩
    | cut rest =>
      rw [Answers, htail] at hpush
      obtain ⟨hframes, hcoherent, hrest⟩ := hpush
      have hmore := ih hcoherent
      have hfeed : d.feed limit decode (chunk :: chunks) =
          (((blockFormat limit decode).read (d.pending ++ chunk)).1 ++
            (feed limit decode (d.push limit decode chunk).1 chunks).1,
            (feed limit decode (d.push limit decode chunk).1 chunks).2) := by
        rw [feed]
        split
        · rename_i heq
          rw [heq] at hframes
          cases hframes
        · rename_i heq
          rw [heq] at hframes ⊢
          cases hframes
          rfl
      rw [hrest] at hmore
      rw [hfeed, Format.deliver_cons_of_cut htail, ← hmore.1]
      exact ⟨rfl, hmore.2⟩

theorem Coherent.finish_iff {d : FrameDecoder} (h : Coherent limit d) : d.finish = .ok () ↔ d.pending = [] := by
  unfold finish pending
  constructor
  · intro hfinish
    split at hfinish
    · rename_i hfresh
      rw [hfresh.1, (h.inPrefix hfresh.2).2]
      rfl
    · cases hfinish
  · intro hnil
    obtain ⟨hempty, hpayload⟩ := List.append_eq_nil_iff.mp hnil
    have hexpected : d.expected = none := by
      by_contra hsome
      obtain ⟨n, hn⟩ := Option.ne_none_iff_exists'.mp hsome
      have hheader := (h.inPayload n hn).1
      rw [hempty] at hheader
      cases hheader
    exact if_pos ⟨hempty, hexpected⟩

theorem finish_eq (d : FrameDecoder) : d.finish = .ok () ∨ d.finish = .error .truncated := by
  unfold finish
  split
  · exact .inl rfl
  · exact .inr rfl

variable (limit decode) in
/-- The stream, as the decoder sees it which starts with it. -/
theorem feed_eq_deliver (chunks : List (List UInt8)) :
    ((feed limit decode {} chunks).1, tail (feed limit decode {} chunks).2) =
      (blockFormat limit decode).deliver [] chunks :=
  (coherent_fresh.feed_eq_deliver chunks).1

/-- A stream without a fault: the frames, and a decoder which holds the rest. -/
theorem feed_of_cut {chunks : List (List UInt8)} {frames : List F} {rest : List UInt8}
    (h : (blockFormat limit decode).read chunks.flatten = (frames, .cut rest)) :
    ∃ d, feed limit decode {} chunks = (frames, .ok d) ∧ Coherent limit d ∧ d.pending = rest := by
  have hfeed := feed_eq_deliver limit decode chunks
  have hframes : ((blockFormat limit decode).deliver [] chunks).1 =
      ((blockFormat limit decode).read chunks.flatten).1 :=
    Format.deliver_frames Format.front_nil (by rw [List.nil_append, h])
  have htail : ((blockFormat limit decode).deliver [] chunks).2 =
      ((blockFormat limit decode).read chunks.flatten).2 := Format.deliver_tail Format.front_nil chunks
  rw [h, ← hfeed] at hframes htail
  dsimp only at hframes htail
  cases hend : (feed limit decode {} chunks).2 with
  | error e =>
    rw [hend] at htail
    cases htail
  | ok d =>
    rw [hend] at htail
    cases htail
    exact ⟨d, Prod.ext hframes hend, coherent_fresh.feed_eq_deliver chunks |>.2 d hend, rfl⟩

theorem eq_error_of_tail {x : Except ProtocolError FrameDecoder} {e : ProtocolError} (h : tail x = .fault e) :
    x = .error e := by
  cases x with
  | error e' =>
    cases h
    rfl
  | ok d => cases h

/-- A stream with a fault: in one chunk its frames are lost, byte by byte they are delivered. -/
theorem feed_of_fault {bytes : List UInt8} {frames : List F} {e : ProtocolError}
    (h : (blockFormat limit decode).read bytes = (frames, .fault e)) :
    feed limit decode {} [bytes] = ([], .error e) ∧
      feed limit decode {} (bytes.map ([·])) = (frames, .error e) := by
  have hwhole := feed_eq_deliver limit decode [bytes]
  have hsingle := feed_eq_deliver limit decode (bytes.map ([·]))
  rw [Format.deliver_whole_of_fault (e := e) (by rw [h])] at hwhole
  rw [Format.deliver_singletons Format.front_nil, List.nil_append, h] at hsingle
  obtain ⟨hwhole, hwholeEnd⟩ := Prod.mk.inj hwhole
  obtain ⟨hsingle, hsingleEnd⟩ := Prod.mk.inj hsingle
  exact ⟨Prod.ext hwhole (eq_error_of_tail hwholeEnd), Prod.ext hsingle (eq_error_of_tail hsingleEnd)⟩

end FrameDecoder

/-! ### What the chunks do to a stream -/

section Streams

variable {F : Type} {limit : ℕ} {decode : List UInt8 → Except ProtocolError F}

/-- The blocks come out of `feed` as the frames, whatever the chunks; a stream which ends inside a block is
truncated. -/
structure Streams (feed : List (List UInt8) → List F × Except ProtocolError FrameDecoder) (frames : List F)
    (blocks : List (List UInt8)) : Prop where
  whole : ∀ chunks, chunks.flatten = blocks.flatten → ∃ d, feed chunks = (frames, .ok d) ∧ d.finish = .ok ()
  cut : ∀ before block after k chunks, blocks = before ++ block :: after → 0 < k → k < block.length →
    chunks.flatten = before.flatten ++ block.take k →
      ∃ d, feed chunks = (frames.take before.length, .ok d) ∧ d.finish = .error .truncated

theorem streams_of_blocks {frames : List F} {blocks : List (List UInt8)}
    (h : List.Forall₂ (Format.IsBlock (blockFormat limit decode)) frames blocks) :
    Streams (FrameDecoder.feed limit decode {}) frames blocks := by
  constructor
  · intro chunks hchunks
    have hread : (blockFormat limit decode).read chunks.flatten = (frames, .cut []) := by
      rw [hchunks, ← List.append_nil blocks.flatten, Format.read_blocks h, Format.read_nil, List.append_nil]
    obtain ⟨d, hfeed, hcoherent, hpending⟩ := FrameDecoder.feed_of_cut hread
    exact ⟨d, hfeed, hcoherent.finish_iff.mpr hpending⟩
  · rintro before block after k chunks rfl hpos hk hchunks
    -- the frames of the blocks which are whole, and the frame of the block which is cut off
    have hbefore := List.forall₂_take_append frames before (block :: after) h
    have hdrop := List.forall₂_drop_append frames before (block :: after) h
    have hcut : (blockFormat limit decode).front (block.take k) = .cut := by
      cases hrest : frames.drop before.length with
      | nil =>
        rw [hrest] at hdrop
        cases hdrop
      | cons frame more =>
        rw [hrest] at hdrop
        cases hdrop with
        | cons hblock _ => exact hblock.front_take hk
    have hread : (blockFormat limit decode).read chunks.flatten =
        (frames.take before.length, .cut (block.take k)) := by
      rw [hchunks, Format.read_blocks hbefore, Format.read_of_cut hcut, List.append_nil]
    obtain ⟨d, hfeed, hcoherent, hpending⟩ := FrameDecoder.feed_of_cut hread
    have hleft : d.pending ≠ [] := by
      rw [hpending, ← List.length_pos_iff, List.length_take]
      omega
    have hfinish : d.finish ≠ .ok () := fun hok => hleft (hcoherent.finish_iff.mp hok)
    exact ⟨d, hfeed, d.finish_eq.resolve_left hfinish⟩

/-- The same frames, and the same error if there is one. -/
def Agree (x y : List F × Except ProtocolError FrameDecoder) : Prop :=
  x.1 = y.1 ∧ ∀ e, x.2 = .error e ↔ y.2 = .error e

theorem agree_iff {chunks chunks' : List (List UInt8)} (h : chunks.flatten = chunks'.flatten) :
    Agree (FrameDecoder.feed limit decode {} chunks) (FrameDecoder.feed limit decode {} chunks') ↔
      (blockFormat limit decode).deliver [] chunks = (blockFormat limit decode).deliver [] chunks' := by
  have hfeed := FrameDecoder.feed_eq_deliver limit decode chunks
  have hfeed' := FrameDecoder.feed_eq_deliver limit decode chunks'
  constructor
  · rintro ⟨hframes, -⟩
    have htail : ((blockFormat limit decode).deliver [] chunks).2 =
        ((blockFormat limit decode).read chunks.flatten).2 := Format.deliver_tail Format.front_nil chunks
    have htail' : ((blockFormat limit decode).deliver [] chunks').2 =
        ((blockFormat limit decode).read chunks'.flatten).2 := Format.deliver_tail Format.front_nil chunks'
    rw [h, ← htail'] at htail
    refine Prod.ext ?_ htail
    rw [← hfeed, ← hfeed']
    exact hframes
  · intro hdeliver
    rw [← hfeed, ← hfeed'] at hdeliver
    have herror : ∀ (x : Except ProtocolError FrameDecoder) (e : ProtocolError),
        x = .error e ↔ FrameDecoder.tail x = .fault e :=
      fun x e => ⟨fun hx => by rw [hx]; rfl, FrameDecoder.eq_error_of_tail⟩
    obtain ⟨hframes, htail⟩ := Prod.mk.inj hdeliver
    refine ⟨hframes, fun e => ?_⟩
    rw [herror, herror, htail]

/-- **When the chunks do not matter**: unless a malformed block comes after frames. -/
theorem feed_agree_iff (bytes : List UInt8) :
    (∀ chunks, chunks.flatten = bytes →
      Agree (FrameDecoder.feed limit decode {} chunks) (FrameDecoder.feed limit decode {} [bytes]) ∧
      Agree (FrameDecoder.feed limit decode {} chunks) (FrameDecoder.feed limit decode {} (bytes.map ([·])))) ↔
      ¬ Format.FaultAfterFrames (blockFormat limit decode) bytes := by
  rw [← Format.deliver_agree_iff]
  refine forall_congr' fun chunks => imp_congr_right fun hchunks => ?_
  have hwhole : chunks.flatten = [bytes].flatten := by simp [hchunks]
  have hsingle : chunks.flatten = (bytes.map ([·])).flatten := by
    rw [hchunks, ← List.flatMap_def, List.flatMap_singleton']
  exact and_congr (agree_iff hwhole) (agree_iff hsingle)

end Streams

end MyKvm.Protocol
