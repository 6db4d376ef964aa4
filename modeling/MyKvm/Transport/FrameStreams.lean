import Mathlib.Data.List.Induction
import MyKvm.Lib.Machine
import MyKvm.Lib.RateWindow
import MyKvm.Protocol.Chunking

/-!
# MyKvm.Transport.FrameStreams — the frames of a control or input stream

A stream is read chunk by chunk.  The frames of a chunk are handed to the application one by one, unless the chunk
is malformed or brings more control frames than the rate allows: then the stream ends, and none of them is.

* `Reading`: what was handed over, against what the decoder makes of the chunks.
* `control_stream`: the law of a control stream, with its rate.
* `frames_handed_over`: the frames from the encoder of one side to the application of the other side.
-/

namespace MyKvm.Transport

open MyKvm.Lib MyKvm.Protocol
open MyKvm.Lib.RateWindow (Windowed windowed_nil span amount)

def maxControlFramesPerSecond : ℕ := 128

/-- A second, in milliseconds. -/
def rateWindowMs : ℕ := 1000

def u32Max : ℕ := 2 ^ 32 - 1

/-- Why a stream has ended. -/
inductive StreamEnd where
  | closed
  | partialFrame (error : ProtocolError)
  | invalidFrame (error : ProtocolError)
  | rateExceeded
  /-- A frame was refused, or its response could not be encoded or written. -/
  | unanswered
  | readFailed
  deriving DecidableEq

/-- What a read meets.  `stops` is the place in the chunk of the first frame which is not answered as it should. -/
inductive Read where
  | chunk (elapsedMs : ℕ) (bytes : List UInt8) (stops : Option ℕ)
  | finished
  | failed

def Read.bytes : Read → List UInt8
  | .chunk _ bytes _ => bytes
  | .finished => []
  | .failed => []

/-- A stream which is read, with the frames which were handed over and when, and the chunks which were. -/
structure FrameStream (F : Type) where
  now : ℕ
  decoder : FrameDecoder
  window : RateWindow
  ended : Option StreamEnd
  handed : List (ℕ × F)
  chunks : List (List UInt8)
  /-- When frames came out of the decoder, and how many. -/
  arrivals : List (ℕ × ℕ)

namespace FrameStream

variable {F : Type}

def fresh : FrameStream F :=
  { now := 0, decoder := {}, window := ⟨0, 0⟩, ended := none, handed := [], chunks := [], arrivals := [] }

/-- `enforce_control_rate`; a chunk has at most 4096 bytes, so its frames fit in 32 bits. -/
def enforceControlRate (w : RateWindow) (now added : ℕ) : RateWindow × Bool :=
  let w := w.arrive rateWindowMs u32Max now added
  (w, w.count ≤ maxControlFramesPerSecond)

/-- The `for` loop over the frames of a chunk. -/
def handOver (s : FrameStream F) (frames : List F) : Option ℕ → FrameStream F
  | some place =>
    if place < frames.length then
      { s with handed := s.handed ++ (frames.take (place + 1)).map (s.now, ·), ended := some .unanswered }
    else { s with handed := s.handed ++ frames.map (s.now, ·) }
  | none => { s with handed := s.handed ++ frames.map (s.now, ·) }

/-- A chunk out of which frames came. -/
def takeIn (s : FrameStream F) (elapsedMs : ℕ) (bytes : List UInt8) (decoder : FrameDecoder) (frames : ℕ) :
    FrameStream F :=
  { s with
    now := s.now + elapsedMs, decoder, chunks := s.chunks ++ [bytes],
    arrivals := s.arrivals ++ [(s.now + elapsedMs, frames)] }

section Streams

variable (rated : Bool) (limit : ℕ) (decode : List UInt8 → Except ProtocolError F)

/-- One turn of the loop; only the frames of a control stream are `rated`. -/
def next (s : FrameStream F) (read : Read) : FrameStream F :=
  if s.ended.isSome then s else
  match read with
  | .failed => { s with ended := some .readFailed }
  | .finished =>
    match s.decoder.finish with
    | .ok () => { s with ended := some .closed }
    | .error e => { s with ended := some (.partialFrame e) }
  | .chunk elapsedMs bytes stops =>
    match s.decoder.push limit decode bytes with
    | (decoder, .error e) =>
      { s with
        now := s.now + elapsedMs, decoder, chunks := s.chunks ++ [bytes], ended := some (.invalidFrame e) }
    | (decoder, .ok frames) =>
      let s := s.takeIn elapsedMs bytes decoder frames.length
      if rated then
        match enforceControlRate s.window s.now frames.length with
        | (window, true) => { s with window }.handOver frames stops
        | (window, false) => { s with window, ended := some .rateExceeded }
      else s.handOver frames stops

end Streams

end FrameStream

/-- `run_inbound_control_stream` -/
def runInboundControlStream (codec : Codec ControlFrame) (reads : List Read) : FrameStream ControlFrame :=
  run (FrameStream.next true maxControlFrameBytes (decodePayload codec)) .fresh reads

/-- `read_outbound_control`, whose responses go to a queue. -/
def readOutboundControl (codec : Codec ControlFrame) (reads : List Read) : FrameStream ControlFrame :=
  run (FrameStream.next true maxControlFrameBytes (decodePayload codec)) .fresh reads

/-- `run_inbound_input_stream` -/
def runInboundInputStream (codec : Codec CriticalFrame) (reads : List Read) : FrameStream CriticalFrame :=
  run (FrameStream.next false maxCriticalFrameBytes (decodeCriticalPayload codec)) .fresh reads

namespace FrameStream

variable {F : Type} {rated : Bool} {limit : ℕ} {decode : List UInt8 → Except ProtocolError F} {s : FrameStream F}

/-! ### What is handed over -/

/-- Neither the application nor the rate has ended the stream. -/
def Orderly (s : FrameStream F) : Prop := ∀ e ∈ s.ended, e ≠ .unanswered ∧ e ≠ .rateExceeded

/-- One chunk more, when the chunks before it were well formed. -/
theorem feed_concat {d d' : FrameDecoder} {chunks : List (List UInt8)}
    (h : (d.feed limit decode chunks).2 = .ok d') (chunk : List UInt8) :
    d.feed limit decode (chunks ++ [chunk]) =
      match d'.push limit decode chunk with
      | (_, .error e) => ((d.feed limit decode chunks).1, .error e)
      | (d'', .ok frames) => ((d.feed limit decode chunks).1 ++ frames, .ok d'') := by
  induction chunks generalizing d with
  | nil =>
    rw [FrameDecoder.feed] at h
    obtain rfl := Except.ok.inj h
    rw [List.nil_append, FrameDecoder.feed, FrameDecoder.feed]
    generalize d.push limit decode chunk = answer
    obtain ⟨d', e | frames⟩ := answer
    · rfl
    · simp [FrameDecoder.feed]
  | cons first chunks ih =>
    rw [List.cons_append, FrameDecoder.feed]
    rw [FrameDecoder.feed] at h ⊢
    generalize d.push limit decode first = answer at h ⊢
    obtain ⟨d₁, e | frames⟩ := answer
    · simp at h
    dsimp only at h ⊢
    rw [ih h]
    generalize d'.push limit decode chunk = last
    obtain ⟨d₂, e | frames'⟩ := last
    · rfl
    · simp

/-- **What was handed over** is what the decoder makes of the chunks, or the beginning of it. -/
structure Reading (limit : ℕ) (decode : List UInt8 → Except ProtocolError F) (s : FrameStream F) : Prop where
  begins : s.handed.map Prod.snd <+: (FrameDecoder.feed limit decode {} s.chunks).1
  whole : s.Orderly → s.handed.map Prod.snd = (FrameDecoder.feed limit decode {} s.chunks).1
  decoder : s.ended = none → (FrameDecoder.feed limit decode {} s.chunks).2 = .ok s.decoder
  fault : ∀ e, s.ended = some (.invalidFrame e) ↔ (FrameDecoder.feed limit decode {} s.chunks).2 = .error e

theorem orderly_of_none (h : s.ended = none) : s.Orderly := by
  intro e he
  rw [h] at he
  cases he

/-- The loop ends, and nothing came. -/
theorem Reading.stop (h : Reading limit decode s) (hrunning : s.ended = none) {e : StreamEnd}
    (he : ∀ error, e ≠ .invalidFrame error) : Reading limit decode { s with ended := some e } := by
  refine ⟨h.begins, fun _ => h.whole (orderly_of_none hrunning), nofun, fun error => ?_⟩
  have hdecoder := h.decoder hrunning
  simp [hdecoder, he error]

/-- A malformed chunk. -/
theorem Reading.malformed (h : Reading limit decode s) (hrunning : s.ended = none) {now : ℕ} {bytes : List UInt8}
    {d : FrameDecoder} {e : ProtocolError} (hpush : s.decoder.push limit decode bytes = (d, .error e)) :
    Reading limit decode { s with
      now, decoder := d, chunks := s.chunks ++ [bytes], ended := some (.invalidFrame e) } := by
  have hfeed := feed_concat (h.decoder hrunning) bytes
  rw [hpush] at hfeed
  constructor
  · rw [hfeed]
    exact h.begins
  · intro _
    rw [hfeed]
    exact h.whole (orderly_of_none hrunning)
  · nofun
  · intro error
    simp [hfeed]

/-- A chunk with frames, of which the first ones are handed over; all of them, if the stream goes on. -/
theorem Reading.taken (h : Reading limit decode s) (hrunning : s.ended = none) {bytes : List UInt8}
    {d : FrameDecoder} {frames : List F} (hpush : s.decoder.push limit decode bytes = (d, .ok frames))
    {s' : FrameStream F} (hchunks : s'.chunks = s.chunks ++ [bytes]) (hdecoder : s'.decoder = d) {taken : List F}
    (htaken : taken <+: frames) (hhanded : s'.handed.map Prod.snd = s.handed.map Prod.snd ++ taken)
    (hended : s'.ended = none ∧ taken = frames ∨ s'.ended = some .unanswered ∨ s'.ended = some .rateExceeded) :
    Reading limit decode s' := by
  have hfeed := feed_concat (h.decoder hrunning) bytes
  rw [hpush] at hfeed
  dsimp only at hfeed
  have hwhole := h.whole (orderly_of_none hrunning)
  constructor
  · rw [hchunks, hfeed, hhanded, hwhole]
    exact (List.prefix_append_right_inj _).mpr htaken
  · intro horderly
    rw [hchunks, hfeed, hhanded, hwhole]
    rcases hended with ⟨-, rfl⟩ | hended | hended
    · rfl
    · exact absurd rfl (horderly _ hended).1
    · exact absurd rfl (horderly _ hended).2
  · intro hnone
    rw [hchunks, hfeed, hdecoder]
  · intro e
    rw [hchunks, hfeed]
    rcases hended with ⟨hended, -⟩ | hended | hended <;> simp [hended]

theorem handOver_chunks (s : FrameStream F) (frames : List F) (stops : Option ℕ) :
    (s.handOver frames stops).chunks = s.chunks ∧ (s.handOver frames stops).decoder = s.decoder ∧
      (s.handOver frames stops).window = s.window ∧ (s.handOver frames stops).now = s.now ∧
      (s.handOver frames stops).arrivals = s.arrivals := by
  unfold handOver
  split
  · split <;> exact ⟨rfl, rfl, rfl, rfl, rfl⟩
  · exact ⟨rfl, rfl, rfl, rfl, rfl⟩

/-- The loop over the frames of a chunk hands over all of them, or it ends the stream. -/
theorem handOver_handed (s : FrameStream F) (frames : List F) (stops : Option ℕ) (hrunning : s.ended = none) :
    ∃ taken, taken <+: frames ∧ (s.handOver frames stops).handed = s.handed ++ taken.map (s.now, ·) ∧
      ((s.handOver frames stops).ended = none ∧ taken = frames ∨
        (s.handOver frames stops).ended = some .unanswered) := by
  unfold handOver
  split
  · rename_i place
    split
    · exact ⟨frames.take (place + 1), List.take_prefix _ _, rfl, .inr rfl⟩
    · exact ⟨frames, List.prefix_rfl, rfl, .inl ⟨hrunning, rfl⟩⟩
  · exact ⟨frames, List.prefix_rfl, rfl, .inl ⟨hrunning, rfl⟩⟩

theorem Reading.handOver (h : Reading limit decode s) (hrunning : s.ended = none) {elapsedMs : ℕ}
    {bytes : List UInt8}
    {d : FrameDecoder} {frames : List F} (hpush : s.decoder.push limit decode bytes = (d, .ok frames))
    (window : RateWindow) (stops : Option ℕ) :
    Reading limit decode ({ s.takeIn elapsedMs bytes d frames.length with window }.handOver frames stops) := by
  generalize hs' : { s.takeIn elapsedMs bytes d frames.length with window } = s'
  have hended : s'.ended = none := hs' ▸ hrunning
  obtain ⟨taken, htaken, hafter, hend⟩ := s'.handOver_handed frames stops hended
  obtain ⟨hchunks, hdecoder, -⟩ := s'.handOver_chunks frames stops
  refine h.taken hrunning hpush (hchunks.trans (hs' ▸ rfl)) (hdecoder.trans (hs' ▸ rfl)) htaken ?_ (by tauto)
  have hhanded : s'.handed = s.handed := hs' ▸ rfl
  simp [hafter, hhanded, Function.comp_def]

theorem Reading.next (h : Reading limit decode s) (read : Read) :
    Reading limit decode (s.next rated limit decode read) := by
  unfold FrameStream.next
  split
  · exact h
  rename_i hrunning
  have hrunning : s.ended = none := by simpa using hrunning
  split
  · exact h.stop hrunning nofun
  · split
    · exact h.stop hrunning nofun
    · exact h.stop hrunning nofun
  · split
    · rename_i hpush
      exact h.malformed hrunning hpush
    · rename_i hpush
      dsimp only
      split
      · split
        · exact h.handOver hrunning hpush _ _
        · exact h.taken hrunning hpush rfl rfl List.nil_prefix (by simp [takeIn]) (.inr (.inr rfl))
      · exact h.handOver hrunning hpush s.window _

theorem reading_fresh : Reading limit decode (fresh : FrameStream F) :=
  ⟨List.nil_prefix, fun _ => rfl, fun _ => rfl, fun e => by simp [fresh, FrameDecoder.feed]⟩

theorem reading_run (rated : Bool) (limit : ℕ) (decode : List UInt8 → Except ProtocolError F) (reads : List Read) :
    Reading limit decode (run (FrameStream.next rated limit decode) .fresh reads) :=
  run_invariant (fun _ read h => h.next read) reading_fresh reads

/-! ### How many -/

/-- How many frames were handed over from a time on, for a second. -/
def within (s : FrameStream F) (t : ℕ) : ℕ := s.handed.countP fun e => t ≤ e.1 ∧ e.1 < t + rateWindowMs

/-- **The rate.** -/
structure Rated (s : FrameStream F) : Prop where
  window : s.ended = none → Windowed rateWindowMs maxControlFramesPerSecond s.now s.window s.arrivals
  counted : s.ended = none → ∀ t, s.within t ≤ span rateWindowMs s.arrivals t
  bounded : ∀ t, s.within t ≤ 2 * maxControlFramesPerSecond
  exceeded : s.ended = some .rateExceeded → ∃ t, maxControlFramesPerSecond < span rateWindowMs s.arrivals t

theorem Rated.stop (h : Rated s) {s' : FrameStream F} (hhanded : s'.handed = s.handed) (hended : s'.ended ≠ none)
    (hrate : s'.ended ≠ some .rateExceeded) : Rated s' := by
  refine ⟨fun hnone => absurd hnone hended, fun hnone => absurd hnone hended, fun t => ?_,
    fun hend => absurd hend hrate⟩
  have hbounded := h.bounded t
  unfold within at hbounded ⊢
  rwa [hhanded]

theorem within_handed {s' : FrameStream F} {taken : List F} {now : ℕ} (t : ℕ)
    (hhanded : s'.handed = s.handed ++ taken.map (now, ·)) :
    s'.within t = s.within t + if t ≤ now ∧ now < t + rateWindowMs then taken.length else 0 := by
  unfold within
  rw [hhanded, List.countP_append, List.countP_map]
  split
  · rename_i hin
    simp [Function.comp_def, hin]
  · rename_i hout
    simp [Function.comp_def, hout]

/-- Frames within the limit. -/
theorem Rated.handOver (h : Rated s) (hrunning : s.ended = none) {elapsedMs : ℕ} {bytes : List UInt8}
    {d : FrameDecoder} {frames : List F} {window : RateWindow}
    (hwindow : enforceControlRate s.window (s.now + elapsedMs) frames.length = (window, true)) (stops : Option ℕ) :
    Rated ({ s.takeIn elapsedMs bytes d frames.length with window }.handOver frames stops) := by
  obtain ⟨rfl, hle⟩ := Prod.mk.inj hwindow
  have hadmitted := ((h.window hrunning).later (Nat.le_add_right s.now elapsedMs)).admitted (by decide)
    (by decide : maxControlFramesPerSecond < u32Max) (of_decide_eq_true hle)
  generalize hs' : { s.takeIn elapsedMs bytes d frames.length with
    window := s.window.arrive rateWindowMs u32Max (s.now + elapsedMs) frames.length } = s' at *
  have hended : s'.ended = none := hs' ▸ hrunning
  obtain ⟨taken, htaken, hafter, hend⟩ := s'.handOver_handed frames stops hended
  obtain ⟨-, -, hsame, hnow, harrivals⟩ := s'.handOver_chunks frames stops
  have hlater : s'.now = s.now + elapsedMs := hs' ▸ rfl
  have hlog : s'.arrivals = s.arrivals ++ [(s.now + elapsedMs, frames.length)] := hs' ▸ rfl
  have hbefore : s'.handed = s.handed := hs' ▸ rfl
  have hcounted : ∀ t, (s'.handOver frames stops).within t ≤ span rateWindowMs s'.arrivals t := by
    intro t
    have hold := h.counted hrunning t
    have hfew := htaken.length_le
    rw [within_handed t (hbefore ▸ hafter), hlater, hlog]
    unfold span at hold ⊢
    rw [RateWindow.amount_append, RateWindow.amount_singleton]
    split
    · omega
    · omega
  have hkept : Windowed rateWindowMs maxControlFramesPerSecond s'.now s'.window s'.arrivals := by
    rw [hlater, hlog, ← hs']
    exact hadmitted
  refine ⟨fun _ => ?_, fun _ => ?_, fun t => (hcounted t).trans (hkept.bounded t), fun hexceeded => ?_⟩
  · rwa [hnow, hsame, harrivals]
  · rwa [harrivals]
  · rcases hend with ⟨hend, -⟩ | hend
    · simp [hend] at hexceeded
    · simp [hend] at hexceeded

/-- Frames beyond the limit: some second saw too many. -/
theorem Rated.refuse (h : Rated s) (hrunning : s.ended = none) {elapsedMs : ℕ} {bytes : List UInt8}
    {d : FrameDecoder} {added : ℕ} {window : RateWindow}
    (hwindow : enforceControlRate s.window (s.now + elapsedMs) added = (window, false)) :
    Rated { s.takeIn elapsedMs bytes d added with window, ended := some .rateExceeded } := by
  obtain ⟨-, hgt⟩ := Prod.mk.inj hwindow
  refine ⟨nofun, nofun, h.bounded, fun _ => ?_⟩
  by_contra hnone
  push Not at hnone
  have hadmits : (s.window.arrive rateWindowMs u32Max (s.now + elapsedMs) added).count ≤
    maxControlFramesPerSecond :=
    ((h.window hrunning).later (Nat.le_add_right s.now elapsedMs)).admits (by decide) hnone
  exact of_decide_eq_false hgt hadmits

theorem Rated.next (h : Rated s) (read : Read) : Rated (s.next true limit decode read) := by
  unfold FrameStream.next
  split
  · exact h
  rename_i hrunning
  have hrunning : s.ended = none := by simpa using hrunning
  split
  · exact h.stop rfl nofun nofun
  · split
    · exact h.stop rfl nofun nofun
    · exact h.stop rfl nofun nofun
  · split
    · exact h.stop rfl nofun nofun
    · dsimp only
      rw [if_pos rfl]
      split
      · rename_i hwindow
        exact h.handOver hrunning hwindow _
      · rename_i hwindow
        exact h.refuse hrunning hwindow

theorem rated_fresh : Rated (fresh : FrameStream F) :=
  ⟨fun _ => windowed_nil _ _ 0, fun _ _ => Nat.zero_le _, fun _ => Nat.zero_le _, nofun⟩

theorem rated_run (limit : ℕ) (decode : List UInt8 → Except ProtocolError F) (reads : List Read) :
    Rated (run (FrameStream.next true limit decode) .fresh reads) :=
  run_invariant (fun _ read h => h.next read) rated_fresh reads

end FrameStream

/-- **A control stream.**  What was handed to the application is what the decoder makes of the chunks which
came, also of those before a malformed one, or the beginning of it if the application or the rate ended the
stream; in no second are more than twice 128 frames handed over, and the rate ends the stream only if some
second brought more than 128. -/
theorem control_stream (codec : Codec ControlFrame) (reads : List Read) :
    (runInboundControlStream codec reads).handed.map Prod.snd <+:
        (feedControl codec (runInboundControlStream codec reads).chunks).1 ∧
      ((runInboundControlStream codec reads).Orderly →
        (runInboundControlStream codec reads).handed.map Prod.snd =
          (feedControl codec (runInboundControlStream codec reads).chunks).1) ∧
      (∀ e, (runInboundControlStream codec reads).ended = some (.invalidFrame e) ↔
        (feedControl codec (runInboundControlStream codec reads).chunks).2 = .error e) ∧
      (∀ t, (runInboundControlStream codec reads).within t ≤ 2 * maxControlFramesPerSecond) ∧
      ((runInboundControlStream codec reads).ended = some .rateExceeded →
        ∃ t, maxControlFramesPerSecond < span rateWindowMs (runInboundControlStream codec reads).arrivals t) := by
  have hreading := FrameStream.reading_run true maxControlFrameBytes (decodePayload codec) reads
  have hrated := FrameStream.rated_run maxControlFrameBytes (decodePayload codec) reads
  exact ⟨hreading.begins, hreading.whole, hreading.fault, hrated.bounded, hrated.exceeded⟩

/-! ### From the encoder to the application -/

/-- The bytes which the connection brought. -/
def brought (reads : List Read) : List UInt8 := (reads.map Read.bytes).flatten

/-- A chunk came, and the application takes its frames. -/
def Read.Answered : Read → Prop
  | .chunk _ _ stops => stops = none
  | .finished | .failed => False

/-- A reader of a stream hands over what the encoder wrote: whatever the connection has brought of it and in
whatever chunks, the frames in their order from the first one on; and all of them, if it brought everything, the
application takes them, and no second of a `rated` stream brings more than 128.  Then the stream goes on, and
closes if nothing else comes. -/
structure HandsOver {F : Type} (rated : Bool) (reader : List Read → FrameStream F) (frames : List F)
    (blocks : List (List UInt8)) : Prop where
  inOrder : ∀ reads, brought reads <+: blocks.flatten →
    (reader reads).handed.map Prod.snd <+: frames ∧ ∀ e, (reader reads).ended ≠ some (.invalidFrame e)
  whole : ∀ reads, brought reads = blocks.flatten → (∀ read ∈ reads, read.Answered) →
    (rated = true → ∀ t, span rateWindowMs (reader reads).arrivals t ≤ maxControlFramesPerSecond) →
    (reader reads).ended = none ∧ (reader reads).handed.map Prod.snd = frames ∧
      (reader (reads ++ [.finished])).ended = some .closed

namespace FrameStream

variable {F : Type} {rated : Bool} {limit : ℕ} {decode : List UInt8 → Except ProtocolError F} {s : FrameStream F}

theorem next_of_ended (h : s.ended ≠ none) (read : Read) : s.next rated limit decode read = s :=
  if_pos (Option.isSome_iff_ne_none.mpr h)

theorem run_of_ended (h : s.ended ≠ none) (reads : List Read) :
    run (FrameStream.next rated limit decode) s reads = s := by
  induction reads with
  | nil => rfl
  | cons read reads ih => rw [run_cons, next_of_ended h, ih]

theorem next_chunks (hrunning : s.ended = none) (read : Read) :
    (s.next rated limit decode read).chunks.flatten = s.chunks.flatten ++ read.bytes := by
  unfold FrameStream.next
  rw [hrunning, if_neg (by simp)]
  cases read with
  | failed => simp [Read.bytes]
  | finished =>
    dsimp only
    split <;> simp [Read.bytes]
  | chunk elapsedMs bytes stops =>
    have hflatten : (s.chunks ++ [bytes]).flatten = s.chunks.flatten ++ bytes := by simp
    dsimp only [Read.bytes]
    split
    · exact hflatten
    · split
      · split
        · rw [(handOver_chunks _ _ _).1]
          exact hflatten
        · exact hflatten
      · rw [(handOver_chunks _ _ _).1]
        exact hflatten

/-- The chunks are what the connection brought, up to the end of the stream. -/
theorem run_chunks (s : FrameStream F) (reads : List Read) :
    (run (FrameStream.next rated limit decode) s reads).chunks.flatten <+: s.chunks.flatten ++ brought reads ∧
      ((run (FrameStream.next rated limit decode) s reads).ended = none →
        (run (FrameStream.next rated limit decode) s reads).chunks.flatten = s.chunks.flatten ++
          brought reads) := by
  induction reads generalizing s with
  | nil => simp [brought]
  | cons read reads ih =>
    by_cases hrunning : s.ended = none
    · have hmore := ih (s.next rated limit decode read)
      rw [next_chunks hrunning, List.append_assoc] at hmore
      exact hmore
    · rw [run_of_ended hrunning]
      exact ⟨List.prefix_append _ _, fun hnone => absurd hnone hrunning⟩

/-- The stream goes on, unless a chunk was malformed or brought too much. -/
def GoesOn (rated : Bool) (s : FrameStream F) : Prop :=
  ∀ e ∈ s.ended, (∃ error, e = .invalidFrame error) ∨ rated = true ∧ e = .rateExceeded

theorem GoesOn.next (h : GoesOn rated s) {read : Read} (hanswered : read.Answered) :
    GoesOn rated (s.next rated limit decode read) := by
  cases read with
  | finished => exact hanswered.elim
  | failed => exact hanswered.elim
  | chunk elapsedMs bytes stops =>
    obtain rfl : stops = none := hanswered
    unfold FrameStream.next
    split
    · exact h
    dsimp only
    split
    · intro e he
      exact .inl ⟨_, (Option.some.inj he).symm⟩
    · split
      · rename_i hrated
        split
        · exact h
        · intro e he
          exact .inr ⟨hrated, (Option.some.inj he).symm⟩
      · exact h

/-- A stream whose chunks are all taken ends by a fault in them, or by the rate. -/
theorem goesOn_run {reads : List Read} (hanswered : ∀ read ∈ reads, read.Answered) :
    GoesOn rated (run (FrameStream.next rated limit decode) .fresh reads) := by
  induction reads using List.reverseRecOn with
  | nil => exact fun e he => (by cases he)
  | append_singleton reads read ih =>
    rw [run_append, run_cons, run_nil]
    exact (ih fun r hr => hanswered r (List.mem_append_left _ hr)).next
      (hanswered read (List.mem_append_right _ List.mem_cons_self))

/-- What the decoder makes of a part of the blocks. -/
theorem feed_part {frames : List F} {blocks chunks : List (List UInt8)}
    (hblocks : List.Forall₂ (Framing.Format.IsBlock (blockFormat limit decode)) frames blocks)
    (hpart : chunks.flatten <+: blocks.flatten) :
    ∃ d, FrameDecoder.Coherent limit d ∧ (FrameDecoder.feed limit decode {} chunks).2 = .ok d ∧
      (FrameDecoder.feed limit decode {} chunks).1 <+: frames ∧
      (chunks.flatten = blocks.flatten →
        (FrameDecoder.feed limit decode {} chunks).1 = frames ∧ d.pending = []) := by
  have hwhole : (blockFormat limit decode).read blocks.flatten = (frames, .cut []) := by
    rw [← List.append_nil blocks.flatten, Framing.Format.read_blocks hblocks, Framing.Format.read_nil,
      List.append_nil]
  obtain ⟨rest, hrest⟩ := hpart
  cases hread : (blockFormat limit decode).read chunks.flatten with
  | mk got ending =>
  cases ending with
  | fault e =>
    have hsame := Framing.Format.read_append_of_fault (by rw [hread]) rest
    rw [hrest, hwhole, hread] at hsame
    simp at hsame
  | cut left =>
    have hmore := Framing.Format.read_append_of_cut (by rw [hread]) rest
    rw [hrest, hwhole, hread] at hmore
    obtain ⟨hframes, -⟩ := Prod.mk.inj hmore
    obtain ⟨d, hfeed, hcoherent, hpending⟩ := FrameDecoder.feed_of_cut hread
    rw [hfeed]
    refine ⟨d, hcoherent, rfl, ⟨_, hframes.symm⟩, fun hall => ?_⟩
    rw [hall, hwhole] at hread
    obtain ⟨hgot, hleft⟩ := Prod.mk.inj hread
    refine ⟨hgot.symm, ?_⟩
    rw [hpending]
    simpa using hleft.symm

end FrameStream

open FrameStream in
/-- The blocks of the encoder come out as the frames. -/
theorem HandsOver.of_blocks {F : Type} {rated : Bool} {limit : ℕ}
    {decode : List UInt8 → Except ProtocolError F} {frames : List F} {blocks : List (List UInt8)}
    (hblocks : List.Forall₂ (Framing.Format.IsBlock (blockFormat limit decode)) frames blocks) :
    HandsOver rated (run (FrameStream.next rated limit decode) .fresh) frames blocks := by
  have hinOrder : ∀ reads, brought reads <+: blocks.flatten →
      (run (FrameStream.next rated limit decode) fresh reads).handed.map Prod.snd <+: frames ∧
        ∀ e, (run (FrameStream.next rated limit decode) fresh reads).ended ≠ some (.invalidFrame e) := by
    intro reads hbrought
    have hreading := reading_run rated limit decode reads
    have hchunks : (run (FrameStream.next rated limit decode) fresh reads).chunks.flatten <+: brought reads :=
      (run_chunks fresh reads).1
    obtain ⟨d, -, hok, hframes, -⟩ := feed_part hblocks (hchunks.trans hbrought)
    refine ⟨hreading.begins.trans hframes, fun e hfault => ?_⟩
    rw [(hreading.fault e).mp hfault] at hok
    cases hok
  refine ⟨hinOrder, fun reads hbrought hanswered hrate => ?_⟩
  have hrunning : (run (FrameStream.next rated limit decode) fresh reads).ended = none := by
    refine Option.eq_none_iff_forall_not_mem.mpr fun e he => ?_
    rcases goesOn_run hanswered e he with ⟨error, rfl⟩ | ⟨rfl, rfl⟩
    · exact (hinOrder reads (hbrought ▸ List.prefix_rfl)).2 error he
    · obtain ⟨t, ht⟩ := (rated_run limit decode reads).exceeded he
      exact absurd (hrate rfl t) (Nat.not_le.mpr ht)
  have hreading := reading_run rated limit decode reads
  have hall : (run (FrameStream.next rated limit decode) fresh reads).chunks.flatten = blocks.flatten :=
    ((run_chunks fresh reads).2 hrunning).trans hbrought
  have hfront : (run (FrameStream.next rated limit decode) fresh reads).chunks.flatten <+: blocks.flatten :=
    ⟨[], by rw [hall, List.append_nil]⟩
  obtain ⟨d, hcoherent, hok, -, hwhole⟩ := feed_part hblocks hfront
  obtain ⟨hframes, hpending⟩ := hwhole hall
  have hdecoder : .ok _ = Except.ok d := (hreading.decoder hrunning).symm.trans hok
  refine ⟨hrunning, (hreading.whole (orderly_of_none hrunning)).trans hframes, ?_⟩
  have hfinish : d.finish = .ok () := hcoherent.finish_iff.mpr hpending
  rw [← Except.ok.inj hdecoder] at hfinish
  rw [run_append, run_cons, run_nil, FrameStream.next, hrunning, if_neg (by simp)]
  simp [hfinish]

/-- **From the encoder to the application.**  The valid frames which one side encodes are handed to the application
of the other side in their order, none twice, on a control stream and on an input stream: in every run in which the
connection brings the bytes of the encoder or the beginning of them, in whatever chunks and at whatever times.
None is left out if it brings all of them, the application takes each, and a control stream brings at most 128
frames in every second. -/
theorem frames_handed_over (control : Codec ControlFrame) (critical : Codec CriticalFrame)
    (frames : List ControlFrame)
    (inputs : List CriticalFrame) (hframes : ∀ frame ∈ frames, validateFrame frame = .ok ())
    (hcontrol : ∀ frame ∈ frames, control.Carries packFrame ⟨magic, protocolMajor, frame⟩)
    (hinputs : ∀ frame ∈ inputs, validateCritical frame = .ok ())
    (hcritical : ∀ frame ∈ inputs, critical.Carries packCriticalFrame ⟨inputMagic, protocolMajor, frame⟩) :
    (∃ blocks, List.Forall₂ (fun frame block => encodeControl control frame = .ok block) frames blocks ∧
      HandsOver true (runInboundControlStream control) frames blocks ∧
      HandsOver true (readOutboundControl control) frames blocks) ∧
    ∃ blocks, List.Forall₂ (fun frame block => encodeCritical critical frame = .ok block) inputs blocks ∧
      HandsOver false (runInboundInputStream critical) inputs blocks := by
  obtain ⟨blocks, hencode, hblocks⟩ := exists_encoded (encodeControl control)
    (blockFormat maxControlFrameBytes (decodePayload control)) fun frame (hframe : frame ∈ frames) => by
      obtain ⟨payload, hencode, hne, hle, hback⟩ :=
        encodeControl_eq_ok (hframes frame hframe) (hcontrol frame hframe)
      exact ⟨_, hencode, isBlock_framed hne hle (by decide) hback⟩
  obtain ⟨inputBlocks, hinputEncode, hinputBlocks⟩ := exists_encoded (encodeCritical critical)
    (blockFormat maxCriticalFrameBytes (decodeCriticalPayload critical)) fun frame (hframe : frame ∈ inputs) => by
      obtain ⟨payload, hencode, hne, hle, hback⟩ :=
        encodeCritical_eq_ok (hinputs frame hframe) (hcritical frame hframe)
      exact ⟨_, hencode, isBlock_framed hne hle (by decide) hback⟩
  exact ⟨⟨blocks, hencode, .of_blocks hblocks, .of_blocks hblocks⟩,
    inputBlocks, hinputEncode, .of_blocks hinputBlocks⟩

theorem frames_handed_over_sample :
    (∃ blocks,
      List.Forall₂ (fun frame block => encodeControl ackCodec frame = .ok block) [sampleAck, sampleAck] blocks ∧
      HandsOver true (runInboundControlStream ackCodec) [sampleAck, sampleAck] blocks ∧
      HandsOver true (readOutboundControl ackCodec) [sampleAck, sampleAck] blocks) ∧
    ∃ blocks, List.Forall₂ (fun frame block => encodeCritical keyCodec frame = .ok block) [sampleKey] blocks ∧
      HandsOver false (runInboundInputStream keyCodec) [sampleKey] blocks :=
  frames_handed_over ackCodec keyCodec [sampleAck, sampleAck] [sampleKey] (by simp [sampleAck_valid])
    (by simp [ackCodec, Codec.single_carries]) (by simp [sampleKey_valid])
      (by simp [keyCodec, Codec.single_carries])

end MyKvm.Transport
