import Mathlib.Data.List.Basic

/-!
# MyKvm.Lib.Framing — blocks in a stream, and streams in chunks

A stream is a sequence of blocks: a header of a fixed size which says how long the payload is, and the payload.  A
`Format` says how both are read.  `read` is what a stream means: its frames up to the first fault, or up to a block
which is cut off.  A decoder meets the stream in chunks and keeps the bytes of the block it is in; `deliver` is
what it hands out if a fault takes back the frames of its own chunk.

* `read_append_of_cut`: reading may stop anywhere and go on with the bytes which were left.
* `deliver_tail`, `deliver_frames`: the fault does not depend on the chunks; without one, nor do the frames.
* `deliver_agree_iff`: the chunks do not matter at all, unless a fault comes after frames.
-/

namespace MyKvm.Lib.Framing

/-- How the blocks of a stream are read. -/
structure Format (β F E : Type*) where
  headerSize : ℕ
  headerSize_pos : 0 < headerSize
  payloadSize : List β → Except E ℕ
  decode : List β → Except E F

variable {β F E : Type*}

/-- What stands at the front of a stream; a frame comes with the size of its block. -/
inductive Front (F E : Type*) where
  | cut
  | fault (e : E)
  | frame (f : F) (size : ℕ)

/-- How a stream ends. -/
inductive Tail (β E : Type*) where
  | cut (rest : List β)
  | fault (e : E)

namespace Format

variable (fmt : Format β F E)

def front (stream : List β) : Front F E :=
  if stream.length < fmt.headerSize then .cut else
  match fmt.payloadSize (stream.take fmt.headerSize) with
  | .error e => .fault e
  | .ok n =>
    if stream.length < fmt.headerSize + n then .cut else
    match fmt.decode ((stream.drop fmt.headerSize).take n) with
    | .error e => .fault e
    | .ok f => .frame f (fmt.headerSize + n)

variable {fmt}

theorem front_frame_size {stream : List β} {f : F} {n : ℕ} (h : fmt.front stream = .frame f n) :
    0 < n ∧ n ≤ stream.length := by
  unfold front at h
  split at h
  · cases h
  split at h
  · cases h
  split at h
  · cases h
  rename_i hlong
  split at h
  · cases h
  cases h
  have hpos := fmt.headerSize_pos
  omega

variable (fmt)

/-- **What a stream means**: its frames, and how it ends. -/
def read (stream : List β) : List F × Tail β E :=
  match _hfront : fmt.front stream with
  | .cut => ([], .cut stream)
  | .fault e => ([], .fault e)
  | .frame f n =>
    let more := read (stream.drop n)
    (f :: more.1, more.2)
termination_by stream.length
decreasing_by
  have hsize := front_frame_size _hfront
  rw [List.length_drop]
  omega

variable {fmt}

theorem read_of_cut {stream : List β} (h : fmt.front stream = .cut) : fmt.read stream = ([], .cut stream) := by
  unfold read
  split <;> simp_all

theorem read_of_fault {stream : List β} {e : E} (h : fmt.front stream = .fault e) :
    fmt.read stream = ([], .fault e) := by
  unfold read
  split <;> simp_all

theorem read_of_frame {stream : List β} {f : F} {n : ℕ} (h : fmt.front stream = .frame f n) :
    fmt.read stream = (f :: (fmt.read (stream.drop n)).1, (fmt.read (stream.drop n)).2) := by
  rw [read]
  split <;> simp_all

theorem front_nil : fmt.front [] = .cut := if_pos fmt.headerSize_pos

@[simp] theorem read_nil : fmt.read [] = ([], .cut []) := read_of_cut front_nil

/-- What stands at the front does not depend on what comes later. -/
theorem front_append {xs : List β} (h : fmt.front xs ≠ .cut) (ys : List β) :
    fmt.front (xs ++ ys) = fmt.front xs := by
  unfold front at h ⊢
  by_cases hshort : xs.length < fmt.headerSize
  · rw [if_pos hshort] at h
    exact absurd rfl h
  rw [if_neg hshort] at h ⊢
  have hlong : ¬ (xs ++ ys).length < fmt.headerSize := by
    rw [List.length_append]
    omega
  have hheader : (xs ++ ys).take fmt.headerSize = xs.take fmt.headerSize :=
    List.take_append_of_le_length (by omega)
  rw [if_neg hlong, hheader]
  cases hsize : fmt.payloadSize (xs.take fmt.headerSize) with
  | error e => rfl
  | ok n =>
    rw [hsize] at h
    dsimp only at h ⊢
    by_cases hcut : xs.length < fmt.headerSize + n
    · rw [if_pos hcut] at h
      exact absurd rfl h
    have hwhole : ¬ (xs ++ ys).length < fmt.headerSize + n := by
      rw [List.length_append]
      omega
    have hpayload : ((xs ++ ys).drop fmt.headerSize).take n = (xs.drop fmt.headerSize).take n := by
      rw [List.drop_append_of_le_length (by omega)]
      exact List.take_append_of_le_length (by rw [List.length_drop]; omega)
    rw [if_neg hcut, if_neg hwhole, hpayload]

/-- **Reading goes on** where it was cut off. -/
theorem read_append_of_cut {xs rest : List β} (h : (fmt.read xs).2 = .cut rest) (ys : List β) :
    fmt.read (xs ++ ys) = ((fmt.read xs).1 ++ (fmt.read (rest ++ ys)).1, (fmt.read (rest ++ ys)).2) := by
  induction xs using read.induct fmt with
  | case1 xs hcut =>
    rw [read_of_cut hcut] at h ⊢
    cases h
    rfl
  | case2 xs e hfault =>
    rw [read_of_fault hfault] at h
    cases h
  | case3 xs f n hframe ih =>
    have happ : fmt.front (xs ++ ys) = .frame f n := by
      rw [front_append (by simp [hframe]), hframe]
    have hsize := front_frame_size hframe
    rw [read_of_frame hframe] at h ⊢
    rw [read_of_frame happ, List.drop_append_of_le_length hsize.2, ih h]
    rfl

/-- Nothing comes after a fault. -/
theorem read_append_of_fault {xs : List β} {e : E} (h : (fmt.read xs).2 = .fault e) (ys : List β) :
    fmt.read (xs ++ ys) = fmt.read xs := by
  induction xs using read.induct fmt with
  | case1 xs hcut =>
    rw [read_of_cut hcut] at h
    cases h
  | case2 xs e' hfault =>
    have happ : fmt.front (xs ++ ys) = .fault e' := by
      rw [front_append (by simp [hfault]), hfault]
    rw [read_of_fault hfault, read_of_fault happ]
  | case3 xs f n hframe ih =>
    have happ : fmt.front (xs ++ ys) = .frame f n := by
      rw [front_append (by simp [hframe]), hframe]
    have hsize := front_frame_size hframe
    rw [read_of_frame hframe] at h ⊢
    rw [read_of_frame happ, List.drop_append_of_le_length hsize.2, ih h]

/-- What is left is one block which is cut off. -/
theorem front_rest {xs rest : List β} (h : (fmt.read xs).2 = .cut rest) : fmt.front rest = .cut := by
  induction xs using read.induct fmt with
  | case1 xs hcut =>
    rw [read_of_cut hcut] at h
    cases h
    exact hcut
  | case2 xs e hfault =>
    rw [read_of_fault hfault] at h
    cases h
  | case3 xs f n hframe ih =>
    rw [read_of_frame hframe] at h
    exact ih h

/-- One more byte completes at most the block which was cut off, and a fault in it comes without frames. -/
theorem read_snoc {xs : List β} (h : fmt.front xs = .cut) (b : β) {e : E}
    (hfault : (fmt.read (xs ++ [b])).2 = .fault e) :
    (fmt.read (xs ++ [b])).1 = [] := by
  cases hfront : fmt.front (xs ++ [b]) with
  | cut => rw [read_of_cut hfront]
  | fault e' => rw [read_of_fault hfront]
  | frame f n =>
    exfalso
    have hsize := front_frame_size hfront
    -- the frame was not there without the last byte, so its block ends with it
    have hwhole : n = (xs ++ [b]).length := by
      by_contra hne
      have hle : n ≤ xs.length := by
        rw [List.length_append, List.length_singleton] at hsize hne
        omega
      unfold front at h hfront
      split at h
      · split at hfront
        · cases hfront
        split at hfront
        · cases hfront
        split at hfront
        · cases hfront
        split at hfront
        · cases hfront
        cases hfront
        omega
      · rename_i hheader
        rw [if_neg (by rw [List.length_append]; omega), List.take_append_of_le_length (by omega)] at hfront
        split at hfront
        · cases hfront
        · rename_i m hm
          rw [hm] at h
          dsimp only at h
          split at h
          · split at hfront
            · cases hfront
            split at hfront
            · cases hfront
            cases hfront
            omega
          · split at h <;> cases h
    rw [read_of_frame hfront, hwhole, List.drop_length, read_nil] at hfault
    cases hfault

/-! ### Blocks -/

/-- The block of a frame. -/
structure IsBlock (fmt : Format β F E) (f : F) (block : List β) : Prop where
  header : fmt.headerSize ≤ block.length
  size : fmt.payloadSize (block.take fmt.headerSize) = .ok (block.length - fmt.headerSize)
  decode : fmt.decode (block.drop fmt.headerSize) = .ok f

theorem IsBlock.front {f : F} {block : List β} (h : IsBlock fmt f block) :
    fmt.front block = .frame f block.length := by
  have hheader := h.header
  unfold Format.front
  rw [if_neg (by omega), h.size]
  dsimp only
  rw [if_neg (by omega), List.take_of_length_le (Nat.le_of_eq List.length_drop), h.decode]
  dsimp only
  rw [Nat.add_sub_cancel' hheader]

/-- A block which is cut off says nothing. -/
theorem IsBlock.front_take {f : F} {block : List β} (h : IsBlock fmt f block) {k : ℕ} (hk : k < block.length) :
    fmt.front (block.take k) = .cut := by
  have hheader := h.header
  have hlength : (block.take k).length = k := List.length_take_of_le (Nat.le_of_lt hk)
  unfold Format.front
  rw [hlength]
  by_cases hshort : k < fmt.headerSize
  · rw [if_pos hshort]
  · rw [if_neg hshort, List.take_take, Nat.min_eq_left (by omega), h.size]
    dsimp only
    rw [if_pos (by omega)]

/-- **Blocks are read one by one.** -/
theorem read_blocks {fs : List F} {blocks : List (List β)} (h : List.Forall₂ (IsBlock fmt) fs blocks)
    (rest : List β) :
    fmt.read (blocks.flatten ++ rest) = (fs ++ (fmt.read rest).1, (fmt.read rest).2) := by
  induction h with
  | nil => rfl
  | @cons f block fs blocks hblock _ ih =>
    have hfront : fmt.front ((block :: blocks).flatten ++ rest) = .frame f block.length := by
      rw [List.flatten_cons, List.append_assoc, front_append (by simp [hblock.front]), hblock.front]
    rw [read_of_frame hfront, List.flatten_cons, List.append_assoc, List.drop_left, ih]
    rfl

/-- What stands at the front is a block. -/
theorem isBlock_of_front {stream : List β} {f : F} {n : ℕ} (h : fmt.front stream = .frame f n) :
    IsBlock fmt f (stream.take n) := by
  have hsize := front_frame_size h
  unfold front at h
  split at h
  · cases h
  split at h
  · cases h
  rename_i m hm
  split at h
  · cases h
  split at h
  · cases h
  rename_i hdecode
  cases h
  have hlength : (stream.take (fmt.headerSize + m)).length = fmt.headerSize + m := List.length_take_of_le hsize.2
  constructor
  · omega
  · rw [hlength, List.take_take, Nat.min_eq_left (Nat.le_add_right _ _), Nat.add_sub_cancel_left]
    exact hm
  · rw [List.drop_take, Nat.add_sub_cancel_left]
    exact hdecode

variable (fmt) in
/-- Every stream starts with the blocks of its frames. -/
theorem exists_blocks (stream : List β) : ∃ blocks rest, List.Forall₂ (IsBlock fmt) (fmt.read stream).1 blocks ∧
    stream = blocks.flatten ++ rest ∧ fmt.read rest = ([], (fmt.read stream).2) := by
  induction stream using read.induct fmt with
  | case1 stream hcut =>
    have hread := read_of_cut hcut
    exact ⟨[], stream, by rw [hread]; exact .nil, rfl, by rw [hread]⟩
  | case2 stream e hfault =>
    have hread := read_of_fault hfault
    exact ⟨[], stream, by rw [hread]; exact .nil, rfl, by rw [hread]⟩
  | case3 stream f n hframe ih =>
    obtain ⟨blocks, rest, hblocks, hstream, hrest⟩ := ih
    rw [read_of_frame hframe]
    refine ⟨stream.take n :: blocks, rest, .cons (isBlock_of_front hframe) hblocks, ?_, hrest⟩
    rw [List.flatten_cons, List.append_assoc, ← hstream, List.take_append_drop]

/-- One frame or more, and then a fault. -/
def FaultAfterFrames (fmt : Format β F E) (stream : List β) : Prop :=
  ∃ fs blocks rest e, fs ≠ [] ∧ List.Forall₂ (IsBlock fmt) fs blocks ∧ stream = blocks.flatten ++ rest ∧
    fmt.front rest = .fault e

theorem faultAfterFrames_iff {stream : List β} :
    FaultAfterFrames fmt stream ↔ (∃ e, (fmt.read stream).2 = .fault e) ∧ (fmt.read stream).1 ≠ [] := by
  constructor
  · rintro ⟨fs, blocks, rest, e, hne, hblocks, rfl, hfault⟩
    rw [read_blocks hblocks, read_of_fault hfault, List.append_nil]
    exact ⟨⟨e, rfl⟩, hne⟩
  · rintro ⟨⟨e, he⟩, hne⟩
    obtain ⟨blocks, rest, hblocks, hstream, hrest⟩ := exists_blocks fmt stream
    refine ⟨_, blocks, rest, e, hne, hblocks, hstream, ?_⟩
    cases hfront : fmt.front rest with
    | cut =>
      rw [read_of_cut hfront, he] at hrest
      cases hrest
    | fault e' =>
      rw [read_of_fault hfront, he] at hrest
      cases hrest
      rfl
    | frame f n =>
      rw [read_of_frame hfront] at hrest
      cases hrest

/-! ### Chunks -/

variable (fmt) in
/-- The frames which are handed out, and the fault or the bytes which are left; the fault takes back
the frames of its own chunk. -/
def deliver : List β → List (List β) → List F × Tail β E
  | pending, [] => ([], .cut pending)
  | pending, chunk :: chunks =>
    match fmt.read (pending ++ chunk) with
    | (_, .fault e) => ([], .fault e)
    | (fs, .cut rest) => (fs ++ (deliver rest chunks).1, (deliver rest chunks).2)

theorem deliver_cons_of_fault {pending chunk : List β} {e : E} (h : (fmt.read (pending ++ chunk)).2 = .fault e)
    (chunks : List (List β)) : fmt.deliver pending (chunk :: chunks) = ([], .fault e) := by
  unfold deliver
  split
  · rename_i heq
    rw [heq] at h
    cases h
    rfl
  · rename_i heq
    rw [heq] at h
    cases h

theorem deliver_cons_of_cut {pending chunk rest : List β} (h : (fmt.read (pending ++ chunk)).2 = .cut rest)
    (chunks : List (List β)) : fmt.deliver pending (chunk :: chunks) =
      ((fmt.read (pending ++ chunk)).1 ++ (fmt.deliver rest chunks).1, (fmt.deliver rest chunks).2) := by
  rw [deliver]
  split
  · rename_i heq
    rw [heq] at h
    cases h
  · rename_i heq
    rw [heq] at h ⊢
    cases h
    rfl

/-- **The end of the stream** does not depend on the chunks. -/
theorem deliver_tail {pending : List β} (hcut : fmt.front pending = .cut) (chunks : List (List β)) :
    (fmt.deliver pending chunks).2 = (fmt.read (pending ++ chunks.flatten)).2 := by
  induction chunks generalizing pending with
  | nil => rw [List.flatten_nil, List.append_nil, read_of_cut hcut, deliver]
  | cons chunk chunks ih =>
    rw [List.flatten_cons, ← List.append_assoc]
    cases htail : (fmt.read (pending ++ chunk)).2 with
    | fault e => rw [deliver_cons_of_fault htail, read_append_of_fault htail, htail]
    | cut rest => rw [deliver_cons_of_cut htail, read_append_of_cut htail, ih (front_rest htail)]

/-- **Without a fault** every frame is handed out, whatever the chunks. -/
theorem deliver_frames {pending rest : List β} (hcut : fmt.front pending = .cut) {chunks : List (List β)}
    (h : (fmt.read (pending ++ chunks.flatten)).2 = .cut rest) :
    (fmt.deliver pending chunks).1 = (fmt.read (pending ++ chunks.flatten)).1 := by
  induction chunks generalizing pending with
  | nil => rw [List.flatten_nil, List.append_nil, read_of_cut hcut, deliver]
  | cons chunk chunks ih =>
    rw [List.flatten_cons, ← List.append_assoc] at h ⊢
    cases htail : (fmt.read (pending ++ chunk)).2 with
    | fault e =>
      rw [read_append_of_fault htail, htail] at h
      cases h
    | cut rest' =>
      rw [read_append_of_cut htail] at h
      rw [deliver_cons_of_cut htail, read_append_of_cut htail, ih (front_rest htail) h]

/-- What is handed out is a front part of the frames. -/
theorem deliver_isPrefix {pending : List β} (hcut : fmt.front pending = .cut) (chunks : List (List β)) :
    (fmt.deliver pending chunks).1 <+: (fmt.read (pending ++ chunks.flatten)).1 := by
  induction chunks generalizing pending with
  | nil => exact List.nil_prefix
  | cons chunk chunks ih =>
    rw [List.flatten_cons, ← List.append_assoc]
    cases htail : (fmt.read (pending ++ chunk)).2 with
    | fault e =>
      rw [deliver_cons_of_fault htail]
      exact List.nil_prefix
    | cut rest =>
      rw [deliver_cons_of_cut htail, read_append_of_cut htail]
      exact (List.prefix_append_right_inj _).mpr (ih (front_rest htail))

/-- **Byte by byte** every frame before the fault is handed out. -/
theorem deliver_singletons {pending : List β} (hcut : fmt.front pending = .cut) (bytes : List β) :
    fmt.deliver pending (bytes.map ([·])) = fmt.read (pending ++ bytes) := by
  induction bytes generalizing pending with
  | nil => rw [List.append_nil, read_of_cut hcut, List.map_nil, deliver]
  | cons b bytes ih =>
    rw [List.map_cons, List.append_cons pending b bytes]
    cases htail : (fmt.read (pending ++ [b])).2 with
    | fault e =>
      rw [deliver_cons_of_fault htail, read_append_of_fault htail, ← htail, ← read_snoc hcut b htail]
    | cut rest => rw [deliver_cons_of_cut htail, read_append_of_cut htail, ih (front_rest htail)]

/-- In one chunk a fault takes back every frame. -/
theorem deliver_whole_of_fault {bytes : List β} {e : E} (h : (fmt.read bytes).2 = .fault e) :
    fmt.deliver [] [bytes] = ([], .fault e) :=
  deliver_cons_of_fault h []

/-- **When the chunks do not matter**: unless a fault comes after frames. -/
theorem deliver_agree_iff (stream : List β) :
    (∀ chunks, chunks.flatten = stream → fmt.deliver [] chunks = fmt.deliver [] [stream] ∧
      fmt.deliver [] chunks = fmt.deliver [] (stream.map ([·]))) ↔ ¬ FaultAfterFrames fmt stream := by
  rw [faultAfterFrames_iff]
  constructor
  · rintro h ⟨⟨e, he⟩, hne⟩
    have hwhole := (h [stream] (by simp)).2
    rw [deliver_whole_of_fault he, deliver_singletons front_nil, List.nil_append] at hwhole
    exact hne (congrArg Prod.fst hwhole).symm
  · intro h
    have hall : ∀ chunks : List (List β), chunks.flatten = stream → fmt.deliver [] chunks = fmt.read stream := by
      rintro chunks rfl
      have htail : (fmt.deliver [] chunks).2 = (fmt.read chunks.flatten).2 := deliver_tail front_nil chunks
      refine Prod.ext ?_ htail
      cases hend : (fmt.read chunks.flatten).2 with
      | cut rest => exact deliver_frames front_nil hend
      | fault e =>
        have hnil : (fmt.read chunks.flatten).1 = [] := by
          by_contra hne
          exact h ⟨⟨e, hend⟩, hne⟩
        have hfront : (fmt.deliver [] chunks).1 <+: (fmt.read chunks.flatten).1 :=
          deliver_isPrefix front_nil chunks
        rw [hnil] at hfront
        rw [hnil]
        exact List.prefix_nil.mp hfront
    intro chunks hchunks
    rw [hall chunks hchunks, hall [stream] (by simp), deliver_singletons front_nil]
    exact ⟨rfl, rfl⟩

end Format

end MyKvm.Lib.Framing
