import MyKvm.Protocol.Decoder

/-!
# MyKvm.Protocol.Rounds — what a decoder holds, and that every push ends

The loop of `ControlDecoder::push` and `CriticalDecoder::push`, one round at a time, with the memory which a round
asks for.  Pushing may go on after an error: a fault in a length leaves a fresh decoder, a fault in a payload
leaves the payload, and the next round fails on it again without taking a byte.

* `Bounded`: what a decoder holds, after any pushes and inside every round (`Sound`).
* `decoders_confined`: every push is a list of rounds, no longer than the chunk.
-/

namespace MyKvm.Protocol

open MyKvm.Lib

namespace FrameDecoder

variable {F : Type}

/-- A round of the loop: what it found, the argument of `payload.reserve` (if it came so far), the decoder at its
fullest, and what it left. -/
structure Round (F : Type) where
  found : List UInt8
  reserved : Option ℕ
  grown : FrameDecoder
  decoder : FrameDecoder
  rest : List UInt8
  result : Except ProtocolError (Option F)

section Loop

variable (limit : ℕ) (decode : List UInt8 → Except ProtocolError F)

/-- The second half of a round: the payload. -/
def fill (found : List UInt8) (reserved : Option ℕ) (d : FrameDecoder) (bytes : List UInt8)
    (expected : ℕ) : Round F :=
  let take := min (expected - d.payload.length) bytes.length
  let grown := { d with payload := d.payload ++ bytes.take take }
  let bytes := bytes.drop take
  if grown.payload.length = expected then
    match decode grown.payload with
    | .error e => ⟨found, reserved, grown, grown, bytes, .error e⟩
    | .ok frame => ⟨found, reserved, grown, {}, bytes, .ok (some frame)⟩
  else ⟨found, reserved, grown, grown, bytes, .ok none⟩

/-- A round of the loop of `push`. -/
def round (d : FrameDecoder) (bytes : List UInt8) : Round F :=
  match d.expected with
  | some expected => fill decode bytes none d bytes expected
  | none =>
    let take := min (4 - d.prefixBytes.length) bytes.length
    let grown := { d with prefixBytes := d.prefixBytes ++ bytes.take take }
    let rest := bytes.drop take
    if grown.prefixBytes.length < 4 then ⟨bytes, none, grown, grown, rest, .ok none⟩ else
    let length := ofBigEndian grown.prefixBytes
    if length = 0 then ⟨bytes, none, grown, {}, rest, .error .invalidLength⟩
    else if limit < length then ⟨bytes, none, grown, {}, rest, .error (.frameTooLarge length)⟩
    else fill decode bytes (some length) { grown with expected := some length, payload := [] } rest length

/-- The loop, round by round, until the bytes are used up or a round fails. -/
inductive Rounds : FrameDecoder → List UInt8 → List F → List (Round F) →
    FrameDecoder × Except ProtocolError (List F) → Prop
  | done (d : FrameDecoder) (decoded : List F) : Rounds d [] decoded [] (d, .ok decoded)
  | fault {d : FrameDecoder} {bytes : List UInt8} {e : ProtocolError} (decoded : List F) (hbytes : bytes ≠ [])
      (hresult : (round limit decode d bytes).result = .error e) :
      Rounds d bytes decoded [round limit decode d bytes] ((round limit decode d bytes).decoder, .error e)
  | next {d : FrameDecoder} {bytes : List UInt8} {frame : Option F} {decoded : List F} {rounds : List (Round F)}
      {answer : FrameDecoder × Except ProtocolError (List F)} (hbytes : bytes ≠ [])
      (hresult : (round limit decode d bytes).result = .ok frame)
      (hrest : Rounds (round limit decode d bytes).decoder (round limit decode d bytes).rest
        (decoded ++ frame.toList) rounds answer) :
      Rounds d bytes decoded (round limit decode d bytes :: rounds) answer

/-- The decoder after pushes of these chunks, each whatever the one before has answered. -/
def pushes (d : FrameDecoder) : List (List UInt8) → FrameDecoder
  | [] => d
  | chunk :: chunks => pushes (d.push limit decode chunk).1 chunks

variable {limit decode}

/-- What the loop does after a round. -/
def Round.go (r : Round F) (decoded : List F)
    (more : FrameDecoder → List UInt8 → List F → FrameDecoder × Except ProtocolError (List F)) :
    FrameDecoder × Except ProtocolError (List F) :=
  match r.result with
  | .error e => (r.decoder, .error e)
  | .ok frame => more r.decoder r.rest (decoded ++ frame.toList)

theorem Round.go_error {r : Round F} {e : ProtocolError} (h : r.result = .error e) (decoded : List F)
    (more : FrameDecoder → List UInt8 → List F → FrameDecoder × Except ProtocolError (List F)) :
    r.go decoded more = (r.decoder, .error e) := by rw [go, h]

theorem Round.go_ok {r : Round F} {frame : Option F} (h : r.result = .ok frame) (decoded : List F)
    (more : FrameDecoder → List UInt8 → List F → FrameDecoder × Except ProtocolError (List F)) :
    r.go decoded more = more r.decoder r.rest (decoded ++ frame.toList) := by rw [go, h]

theorem fill_go (found : List UInt8) (reserved : Option ℕ) (d : FrameDecoder) (rest : List UInt8) (expected : ℕ)
    (decoded : List F)
    (more : FrameDecoder → List UInt8 → List F → FrameDecoder × Except ProtocolError (List F)) :
    (fill decode found reserved d rest expected).go decoded more =
      let take := min (expected - d.payload.length) rest.length
      let payload := d.payload ++ rest.take take
      if payload.length = expected then
        match decode payload with
        | .error e => ({ d with payload := payload }, .error e)
        | .ok frame => more {} (rest.drop take) (decoded ++ [frame])
      else more { d with payload := payload } (rest.drop take) decoded := by
  unfold fill
  dsimp only
  by_cases hwhole : (d.payload ++ rest.take (min (expected - d.payload.length) rest.length)).length = expected
  · rw [if_pos hwhole, if_pos hwhole]
    cases decode (d.payload ++ rest.take (min (expected - d.payload.length) rest.length)) <;> rfl
  · rw [if_neg hwhole, if_neg hwhole, Round.go_ok rfl, Option.toList_none, List.append_nil]

/-- `pushLoop` runs rounds. -/
theorem pushLoop_succ (fuel : ℕ) (d : FrameDecoder) {bytes : List UInt8} (h : bytes ≠ []) (decoded : List F) :
    pushLoop limit decode (fuel + 1) d bytes decoded =
      (round limit decode d bytes).go decoded (pushLoop limit decode fuel) := by
  obtain ⟨prefixBytes, expected, payload⟩ := d
  rw [pushLoop, if_neg h]
  unfold readPrefix round
  cases expected with
  | some expected =>
    dsimp only
    rw [fill_go]
    rfl
  | none =>
    dsimp only
    rw [if_neg (by simp)]
    generalize prefixBytes ++ bytes.take (min (4 - prefixBytes.length) bytes.length) = header
    by_cases hpart : header.length < 4
    · rw [if_pos hpart, if_pos hpart, Round.go_ok rfl, Option.toList_none, List.append_nil]
    rw [if_neg hpart, if_neg hpart]
    by_cases hzero : ofBigEndian header = 0
    · rw [if_pos hzero, if_pos hzero]
      rfl
    rw [if_neg hzero, if_neg hzero]
    by_cases hlarge : limit < ofBigEndian header
    · rw [if_pos hlarge, if_pos hlarge]
      rfl
    · rw [if_neg hlarge, if_neg hlarge]
      exact (fill_go _ _ _ _ _ _ _).symm

end Loop

/-- What a decoder holds. -/
structure Bounded (limit : ℕ) (d : FrameDecoder) : Prop where
  prefixBytes : d.prefixBytes.length ≤ 4
  expected : ∀ n, d.expected = some n → 1 ≤ n ∧ n ≤ limit
  payload : ∀ n, d.expected = some n → d.payload.length ≤ n
  idle : d.expected = none → d.payload = []

/-- Between two rounds, also after an error: a prefix is not complete, and a complete payload does not decode. -/
structure Waiting (limit : ℕ) (decode : List UInt8 → Except ProtocolError F) (d : FrameDecoder) : Prop extends
    Bounded limit d where
  inPrefix : d.expected = none → d.prefixBytes.length < 4
  stuck : ∀ n, d.expected = some n → d.payload.length = n → ∃ e, decode d.payload = .error e

/-- A round keeps the bounds, reserves a checked length only, and takes a byte, completes a frame or fails. -/
structure Sound (limit : ℕ) (r : Round F) : Prop where
  grown : Bounded limit r.grown
  decoder : Bounded limit r.decoder
  reserved : ∀ n, r.reserved = some n → 1 ≤ n ∧ n ≤ limit
  progress : r.rest.length < r.found.length ∨ (∃ frame, r.result = .ok (some frame)) ∨ ∃ e, r.result = .error e

variable {limit : ℕ} {decode : List UInt8 → Except ProtocolError F}

theorem bounded_fresh : Bounded limit {} :=
  ⟨by decide, fun _ h => (nomatch h), fun _ h => (nomatch h), fun _ => rfl⟩

theorem waiting_fresh : Waiting limit decode {} := ⟨bounded_fresh, fun _ => by decide, fun _ h => (nomatch h)⟩

/-- What a round leaves. -/
structure Leaves (limit : ℕ) (decode : List UInt8 → Except ProtocolError F) (r : Round F) : Prop where
  sound : Sound limit r
  waiting : Waiting limit decode r.decoder
  shorter : ∀ frame, r.result = .ok frame → r.rest.length < r.found.length

/-- The payload grows up to the length which was announced.  A round which takes nothing here has taken the end of
the prefix, or finds a payload which it has failed on before. -/
theorem fill_leaves {found rest : List UInt8} {reserved : Option ℕ} {d : FrameDecoder} {n : ℕ}
    (hd : Bounded limit d) (hexpected : d.expected = some n)
    (hreserved : ∀ m, reserved = some m → 1 ≤ m ∧ m ≤ limit)
    (hshort : rest.length < found.length ∨
      rest.length = found.length ∧ rest ≠ [] ∧ (d.payload.length = n → ∃ e, decode d.payload = .error e)) :
    Leaves limit decode (fill decode found reserved d rest n) := by
  have hpayload : d.payload.length ≤ n := hd.payload n hexpected
  generalize htake : min (n - d.payload.length) rest.length = take
  have hlength : (d.payload ++ rest.take take).length = d.payload.length + take := by
    rw [List.length_append, List.length_take_of_le (by omega)]
  have hgrown : Bounded limit { d with payload := d.payload ++ rest.take take } := by
    refine ⟨hd.prefixBytes, hd.expected, fun m hm => ?_, fun hnone => ?_⟩
    · have hmn : n = m := Option.some.inj (hexpected.symm.trans hm)
      show (d.payload ++ rest.take take).length ≤ m
      omega
    · rw [show d.expected = none from hnone] at hexpected
      cases hexpected
  have hdrop : (rest.drop take).length = rest.length - take := List.length_drop
  unfold fill
  dsimp only
  rw [htake]
  by_cases hwhole : (d.payload ++ rest.take take).length = n
  · rw [if_pos hwhole]
    cases hdecode : decode (d.payload ++ rest.take take) with
    | error e =>
      refine ⟨⟨hgrown, hgrown, hreserved, .inr (.inr ⟨e, rfl⟩)⟩,
        ⟨hgrown, fun hnone => ?_, fun m _ _ => ⟨e, hdecode⟩⟩, fun _ h => (nomatch h)⟩
      rw [show d.expected = none from hnone] at hexpected
      cases hexpected
    | ok frame =>
      refine ⟨⟨hgrown, bounded_fresh, hreserved, .inr (.inl ⟨frame, rfl⟩)⟩, waiting_fresh, fun _ _ => ?_⟩
      show (rest.drop take).length < found.length
      rcases hshort with hless | ⟨hsame, hne, hstuck⟩
      · omega
      · -- a round which took nothing has found the payload complete, and would have failed
        by_cases htaken : take = 0
        · obtain ⟨e, he⟩ := hstuck (by omega)
          rw [htaken, List.take_zero, List.append_nil, he] at hdecode
          cases hdecode
        · omega
  · rw [if_neg hwhole]
    have hless : (rest.drop take).length < found.length := by
      rcases hshort with hless | ⟨hsame, hne, -⟩
      · omega
      · have hpos : 0 < rest.length := List.length_pos_iff.mpr hne
        omega
    refine ⟨⟨hgrown, hgrown, hreserved, .inl hless⟩, ⟨hgrown, fun hnone => ?_, fun m hm hfull => ?_⟩,
      fun _ _ => hless⟩
    · rw [show d.expected = none from hnone] at hexpected
      cases hexpected
    · have hmn : n = m := Option.some.inj (hexpected.symm.trans hm)
      exact absurd (hfull.trans hmn.symm) hwhole

theorem fill_found (found : List UInt8) (reserved : Option ℕ) (d : FrameDecoder) (rest : List UInt8) (n : ℕ) :
    (fill decode found reserved d rest n).found = found := by
  unfold fill
  dsimp only
  split
  · cases decode _ <;> rfl
  · rfl

/-- **A round**, from any state between two rounds. -/
theorem Waiting.round_leaves {d : FrameDecoder} (h : Waiting limit decode d) {bytes : List UInt8}
    (hne : bytes ≠ []) :
    Leaves limit decode (round limit decode d bytes) := by
  have hpos : 0 < bytes.length := List.length_pos_iff.mpr hne
  unfold round
  cases hexpected : d.expected with
  | some n =>
    exact fill_leaves h.toBounded hexpected (fun _ hm => (nomatch hm)) (.inr ⟨rfl, hne, h.stuck n hexpected⟩)
  | none =>
    have hshort : d.prefixBytes.length < 4 := h.inPrefix hexpected
    generalize htake : min (4 - d.prefixBytes.length) bytes.length = take
    have hlength : (d.prefixBytes ++ bytes.take take).length = d.prefixBytes.length + take := by
      rw [List.length_append, List.length_take_of_le (by omega)]
    have hless : (bytes.drop take).length < bytes.length := by
      rw [List.length_drop]
      omega
    have hheader : (d.prefixBytes ++ bytes.take take).length ≤ 4 := by omega
    have hgrown : Bounded limit ⟨d.prefixBytes ++ bytes.take take, none, d.payload⟩ :=
      ⟨hheader, fun _ hm => (nomatch hm), fun _ hm => (nomatch hm), fun _ => h.idle hexpected⟩
    dsimp only
    by_cases hpart : (d.prefixBytes ++ bytes.take take).length < 4
    · rw [if_pos hpart]
      exact ⟨⟨hgrown, hgrown, fun _ hm => (nomatch hm), .inl hless⟩,
        ⟨hgrown, fun _ => hpart, fun _ hm => (nomatch hm)⟩, fun _ _ => hless⟩
    rw [if_neg hpart]
    have hfault : ∀ e : ProtocolError,
        Leaves limit decode ⟨bytes, none, ⟨d.prefixBytes ++ bytes.take take, none, d.payload⟩, {}, bytes.drop take,
          .error e⟩ := fun e =>
      ⟨⟨hgrown, bounded_fresh, fun _ hm => (nomatch hm), .inl hless⟩, waiting_fresh, fun _ hr => (nomatch hr)⟩
    by_cases hzero : ofBigEndian (d.prefixBytes ++ bytes.take take) = 0
    · rw [if_pos hzero]
      exact hfault _
    rw [if_neg hzero]
    by_cases hlarge : limit < ofBigEndian (d.prefixBytes ++ bytes.take take)
    · rw [if_pos hlarge]
      exact hfault _
    rw [if_neg hlarge]
    generalize ofBigEndian (d.prefixBytes ++ bytes.take take) = n at hzero hlarge
    refine fill_leaves ⟨hheader, ?_, fun m _ => Nat.zero_le m, fun hnone => (nomatch hnone)⟩ rfl ?_ (.inl hless)
    · intro m hm
      have hmn : n = m := Option.some.inj hm
      omega
    · intro m hm
      have hmn : n = m := Option.some.inj hm
      omega

theorem round_found (d : FrameDecoder) (bytes : List UInt8) : (round limit decode d bytes).found = bytes := by
  unfold round
  cases d.expected with
  | some n => exact fill_found ..
  | none =>
    dsimp only
    split
    · rfl
    split
    · rfl
    split
    · rfl
    · exact fill_found ..

/-- What a push says about itself: its rounds, one for every byte at most, and what it leaves. -/
structure Ends (limit : ℕ) (decode : List UInt8 → Except ProtocolError F) (d : FrameDecoder) (bytes : List UInt8)
    (decoded : List F) (answer : FrameDecoder × Except ProtocolError (List F)) : Prop where
  rounds : ∃ rounds, Rounds limit decode d bytes decoded rounds answer ∧ rounds.length ≤ bytes.length ∧
    ∀ r ∈ rounds, Sound limit r
  waiting : Waiting limit decode answer.1

/-- The loop ends by itself, and not for want of fuel: a round which does not fail leaves fewer bytes. -/
theorem Waiting.pushLoop_ends {fuel : ℕ} {d : FrameDecoder} (h : Waiting limit decode d) {bytes : List UInt8}
    (hfuel : bytes.length ≤ fuel) (decoded : List F) :
    Ends limit decode d bytes decoded (pushLoop limit decode fuel d bytes decoded) := by
  induction fuel generalizing d bytes decoded with
  | zero =>
    have hnil : bytes = [] := List.length_eq_zero_iff.mp (Nat.le_zero.mp hfuel)
    rw [hnil]
    exact ⟨⟨[], .done d decoded, Nat.le_refl _, fun _ hr => (nomatch hr)⟩, h⟩
  | succ fuel ih =>
    by_cases hnil : bytes = []
    · rw [hnil, pushLoop, if_pos rfl]
      exact ⟨⟨[], .done d decoded, Nat.le_refl _, fun _ hr => (nomatch hr)⟩, h⟩
    have hpos : 0 < bytes.length := List.length_pos_iff.mpr hnil
    have hround := h.round_leaves hnil
    rw [pushLoop_succ fuel d hnil]
    cases hresult : (round limit decode d bytes).result with
    | error e =>
      rw [Round.go_error hresult]
      refine ⟨⟨[_], .fault decoded hnil hresult, hpos, fun r hr => ?_⟩, hround.waiting⟩
      rw [List.mem_singleton.mp hr]
      exact hround.sound
    | ok frame =>
      have hless := hround.shorter frame hresult
      rw [round_found] at hless
      rw [Round.go_ok hresult]
      have hmore : (round limit decode d bytes).rest.length ≤ fuel := by omega
      obtain ⟨⟨rounds, hrun, hcount, hsound⟩, hwaiting⟩ := ih hround.waiting hmore (decoded ++ frame.toList)
      refine ⟨⟨_ :: rounds, .next hnil hresult hrun, ?_, fun r hr => ?_⟩, hwaiting⟩
      · rw [List.length_cons]
        omega
      · rcases List.mem_cons.mp hr with rfl | hr
        · exact hround.sound
        · exact hsound r hr

theorem Waiting.push_ends {d : FrameDecoder} (h : Waiting limit decode d) (bytes : List UInt8) :
    Ends limit decode d bytes [] (d.push limit decode bytes) :=
  h.pushLoop_ends (Nat.le_refl _) []

theorem Waiting.pushes {d : FrameDecoder} (h : Waiting limit decode d) (chunks : List (List UInt8)) :
    Waiting limit decode (pushes limit decode d chunks) := by
  induction chunks generalizing d with
  | nil => exact h
  | cons chunk chunks ih => exact ih (h.push_ends chunk).waiting

/-- The decoder after any pushes, and the next push. -/
structure Confined (limit : ℕ) (decode : List UInt8 → Except ProtocolError F) : Prop where
  bounded : ∀ chunks, Bounded limit (pushes limit decode {} chunks)
  ends : ∀ chunks bytes, ∃ rounds,
    Rounds limit decode (pushes limit decode {} chunks) bytes [] rounds
      ((pushes limit decode {} chunks).push limit decode bytes) ∧
    rounds.length ≤ bytes.length ∧ ∀ r ∈ rounds, Sound limit r

theorem confined : Confined limit decode where
  bounded := fun chunks => (waiting_fresh.pushes chunks).toBounded
  ends := fun chunks bytes => ((waiting_fresh.pushes chunks).push_ends bytes).rounds

end FrameDecoder

/-- **Both decoders are confined**, whatever is pushed, also after errors. -/
theorem decoders_confined (control : Codec ControlFrame) (critical : Codec CriticalFrame) :
    FrameDecoder.Confined maxControlFrameBytes (decodePayload control) ∧
      FrameDecoder.Confined maxCriticalFrameBytes (decodeCriticalPayload critical) :=
  ⟨FrameDecoder.confined, FrameDecoder.confined⟩

end MyKvm.Protocol
