import MyKvm.Lib.Feed

/-!
# MyKvm.Lib.Flight — items and samples on their way

The two channels of `MyKvm.Lib.Feed`, seen between a producer and its consumer.  The producer numbers the items; a
sample needs every item before it, and an item carries the newest sample before it, or none (`mark = 0`).  The
items arrive in order and once; of the samples which were sent, any may arrive at any time, again and again, or
never.

`Flight` is what holds between the four counters and what is on its way.  Its steps: the producer sends an item or
a sample, the consumer takes the next item or shows a sample whose items it has.  `Flight.head`: the next item is
the one the consumer waits for, and no sample which was shown is newer than the one it carries.
-/

namespace MyKvm.Lib.Feed

variable {α β : Type*}

/-- `queue` is the items on their way, oldest first, and `sent` all samples so far.  The producer has sent `count`
items and `clock` samples; the consumer has taken `applied` items, and `top` is the newest sample it knows of. -/
structure Flight (n : Numbers α β) (queue : List α) (sent : List β) (count clock applied top : ℕ) : Prop where
  numbered : queue.map n.number = List.range' (applied + 1) queue.length
  number_le : ∀ a ∈ queue, n.number a ≤ count
  mark_le : ∀ a ∈ queue, n.mark a ≤ clock
  stamp_le : ∀ b ∈ sent, n.stamp b ≤ clock
  top_le : top ≤ clock
  marked : ∀ a ∈ queue, n.mark a ≠ 0 → top ≤ n.mark a
  rising : queue.Pairwise fun a a' => n.mark a' ≠ 0 → n.mark a ≤ n.mark a'
  behind : ∀ b ∈ sent, ∀ a ∈ queue, n.needs b < n.number a → n.mark a ≠ 0 → n.stamp b ≤ n.mark a

section Flight

variable {n : Numbers α β} {queue : List α} {sent : List β} {count clock applied top : ℕ}

theorem flight_nil (n : Numbers α β) (count clock : ℕ) : Flight n [] [] count clock 0 0 where
  numbered := rfl
  number_le := by simp
  mark_le := by simp
  stamp_le := by simp
  top_le := Nat.zero_le _
  marked := by simp
  rising := List.Pairwise.nil
  behind := by simp

/-! ### The producer -/

/-- The next item is sent, with the newest sample or none. -/
theorem Flight.sendItem {a : α} (h : Flight n queue sent count clock applied top)
    (hcaught : applied + queue.length = count) (hnumber : n.number a = count + 1)
    (hmark : n.mark a ≠ 0 → n.mark a = clock) :
    Flight n (queue ++ [a]) sent (count + 1) clock applied top := by
  have hmark_le : n.mark a ≤ clock := by
    by_cases hzero : n.mark a = 0
    · omega
    · exact (hmark hzero).le
  refine ⟨?_, ?_, ?_, h.stamp_le, h.top_le, ?_, ?_, ?_⟩
  · have hlast : List.range' (applied + 1) (queue.length + 1) =
        List.range' (applied + 1) queue.length ++ [applied + 1 + queue.length] := by
      rw [List.range'_concat, Nat.one_mul]
    rw [List.map_append, h.numbered, List.length_append, List.length_singleton, hlast]
    simp only [List.map_cons, List.map_nil, hnumber]
    rw [← hcaught]
    simp only [Nat.add_right_comm]
  · intro a' ha'
    rcases List.mem_append.mp ha' with ha' | ha'
    · exact (h.number_le a' ha').trans (Nat.le_succ count)
    · obtain rfl := List.mem_singleton.mp ha'
      exact hnumber.le
  · intro a' ha'
    rcases List.mem_append.mp ha' with ha' | ha'
    · exact h.mark_le a' ha'
    · obtain rfl := List.mem_singleton.mp ha'
      exact hmark_le
  · intro a' ha' hzero
    rcases List.mem_append.mp ha' with ha' | ha'
    · exact h.marked a' ha' hzero
    · obtain rfl := List.mem_singleton.mp ha'
      rw [hmark hzero]
      exact h.top_le
  · rw [List.pairwise_append]
    refine ⟨h.rising, List.pairwise_singleton _ _, ?_⟩
    intro a₁ ha₁ a₂ ha₂ hzero
    obtain rfl := List.mem_singleton.mp ha₂
    rw [hmark hzero]
    exact h.mark_le a₁ ha₁
  · intro b hb a' ha' hneeds hzero
    rcases List.mem_append.mp ha' with ha' | ha'
    · exact h.behind b hb a' ha' hneeds hzero
    · obtain rfl := List.mem_singleton.mp ha'
      rw [hmark hzero]
      exact h.stamp_le b hb

/-- The next sample is sent; it needs every item so far. -/
theorem Flight.sendSample {b : β} (h : Flight n queue sent count clock applied top)
    (hstamp : n.stamp b = clock + 1)
    (hneeds : n.needs b = count) : Flight n queue (b :: sent) count (clock + 1) applied top := by
  refine ⟨h.numbered, h.number_le, fun a ha => (h.mark_le a ha).trans (Nat.le_succ clock), ?_,
    h.top_le.trans (Nat.le_succ clock), h.marked, h.rising, ?_⟩
  · intro b' hb'
    rcases List.mem_cons.mp hb' with rfl | hb'
    · exact hstamp.le
    · exact (h.stamp_le b' hb').trans (Nat.le_succ clock)
  · intro b' hb' a ha hbefore hzero
    rcases List.mem_cons.mp hb' with rfl | hb'
    · -- the new sample needs every item on its way
      have hle := h.number_le a ha
      omega
    · exact h.behind b' hb' a ha hbefore hzero

/-! ### The consumer -/

/-- **The next item** is the one which the consumer waits for, and it carries no
sample older than the newest one. -/
theorem Flight.head {a : α} (h : Flight n (a :: queue) sent count clock applied top) :
    n.number a = applied + 1 ∧ (n.mark a ≠ 0 → top ≤ n.mark a) := by
  have hnumbered := h.numbered
  rw [List.map_cons, List.length_cons, List.range'_succ] at hnumbered
  exact ⟨(List.cons_eq_cons.mp hnumbered).1, h.marked a List.mem_cons_self⟩

/-- The consumer takes the next item, and knows of the sample which it carries. -/
theorem Flight.take {a : α} (h : Flight n (a :: queue) sent count clock applied top) :
    Flight n queue sent count clock (applied + 1) (max top (n.mark a)) := by
  have hmem : ∀ a' ∈ queue, a' ∈ a :: queue := fun a' ha' => List.mem_cons_of_mem a ha'
  have hnumbered := h.numbered
  rw [List.map_cons, List.length_cons, List.range'_succ] at hnumbered
  obtain ⟨hfirst, hrest⟩ := List.pairwise_cons.mp h.rising
  refine ⟨(List.cons_eq_cons.mp hnumbered).2, fun a' ha' => h.number_le a' (hmem a' ha'),
    fun a' ha' => h.mark_le a' (hmem a' ha'), h.stamp_le,
    max_le h.top_le (h.mark_le a List.mem_cons_self), ?_, hrest, fun b hb a' ha' => h.behind b hb a' (hmem a' ha')⟩
  intro a' ha' hzero
  exact max_le (h.marked a' (hmem a' ha') hzero) (hfirst a' ha' hzero)

/-- An item which is refused is gone; it was the last one. -/
theorem Flight.drop {a : α} (h : Flight n [a] sent count clock applied top) :
    Flight n [] sent count clock applied top :=
  ⟨rfl, by simp, by simp, h.stamp_le, h.top_le, by simp, List.Pairwise.nil, by simp⟩

/-- The consumer shows a sample whose items it has: no item on its way carries an older one. -/
theorem Flight.shown {b : β} (h : Flight n queue sent count clock applied top) (hb : b ∈ sent)
    (hneeds : n.needs b ≤ applied) : Flight n queue sent count clock applied (n.stamp b) := by
  refine ⟨h.numbered, h.number_le, h.mark_le, h.stamp_le, h.stamp_le b hb, ?_, h.rising, h.behind⟩
  intro a ha hzero
  have hnumber : n.number a ∈ List.range' (applied + 1) queue.length := by
    rw [← h.numbered]
    exact List.mem_map_of_mem ha
  have hahead := (List.mem_range'_1.mp hnumber).1
  exact h.behind b hb a ha (by omega) hzero

end Flight

end MyKvm.Lib.Feed
