import Mathlib.Data.List.Basic
import Mathlib.Order.Lattice

/-!
# MyKvm.Lib.Feed — numbered items and the samples between them

Two channels meet at a consumer.  The items of the reliable one are numbered `1, 2, …`; a sample of the lossy one
needs an item to have come first, and may be overtaken by a newer sample or by the newer sample which an item
carries.

`Tracks log applied top` is the invariant of a consumer which keeps two numbers, how many items it has taken and
the newest sample it knows of; `Tracks.item` and `Tracks.sample` are its two steps.  `Lawful` is what the log of
such a consumer, newest entry first, promises.
-/

namespace MyKvm.Lib.Feed

/-- An entry of the log. -/
inductive Entry (α β : Type*) where
  | item (a : α)
  | sample (b : β)

variable {α β : Type*}

/-- The numbers of the items, and of the samples: its own one, and the item which a sample needs.  `mark` is the
sample which an item carries. -/
structure Numbers (α β : Type*) where
  number : α → ℕ
  mark : α → ℕ
  stamp : β → ℕ
  needs : β → ℕ

def items : List (Entry α β) → List α
  | [] => []
  | .item a :: log => a :: items log
  | .sample _ :: log => items log

def samples : List (Entry α β) → List β
  | [] => []
  | .item _ :: log => samples log
  | .sample b :: log => b :: samples log

@[simp] theorem items_nil : items ([] : List (Entry α β)) = [] := rfl
@[simp] theorem items_item (a : α) (log : List (Entry α β)) : items (.item a :: log) = a :: items log := rfl
@[simp] theorem items_sample (b : β) (log : List (Entry α β)) : items (.sample b :: log) = items log := rfl
@[simp] theorem samples_nil : samples ([] : List (Entry α β)) = [] := rfl
@[simp] theorem samples_item (a : α) (log : List (Entry α β)) : samples (.item a :: log) = samples log := rfl
@[simp] theorem samples_sample (b : β) (log : List (Entry α β)) :
    samples (.sample b :: log) = b :: samples log := rfl

theorem items_append (log older : List (Entry α β)) : items (log ++ older) = items log ++ items older := by
  induction log with
  | nil => rfl
  | cons entry log ih =>
    cases entry with
    | item a => exact congrArg (a :: ·) ih
    | sample b => exact ih

variable (n : Numbers α β)

/-- **The order of the log**, newest first: items count up; a sample comes after the item it needs, and is newer
than every sample before it and than what the items before it carry. -/
def Lawful : List (Entry α β) → Prop
  | [] => True
  | .item a :: log => Lawful log ∧ n.number a = (items log).length + 1
  | .sample b :: log => Lawful log ∧ n.needs b ≤ (items log).length ∧
      (∀ b' ∈ samples log, n.stamp b' < n.stamp b) ∧
      ∀ a ∈ items log, n.mark a < n.stamp b

/-- The consumer has taken `applied` items, and `top` is the newest sample it knows of. -/
structure Tracks (log : List (Entry α β)) (applied top : ℕ) : Prop where
  lawful : Lawful n log
  count : (items log).length = applied
  items_le : ∀ a ∈ items log, n.mark a ≤ top
  samples_le : ∀ b ∈ samples log, n.stamp b ≤ top

variable {n} {log : List (Entry α β)} {applied top : ℕ}

theorem tracks_nil (top : ℕ) : Tracks n [] 0 top := ⟨trivial, rfl, by simp, by simp⟩

/-- The next item is taken. -/
theorem Tracks.item {a : α} (h : Tracks n log applied top) (hnumber : n.number a = applied + 1) :
    Tracks n (.item a :: log) (applied + 1) (max top (n.mark a)) := by
  refine ⟨⟨h.lawful, by rw [h.count, hnumber]⟩, by simp [h.count], ?_, ?_⟩
  · intro a' ha'
    rcases List.mem_cons.mp ha' with rfl | ha'
    · exact le_max_right _ _
    · exact (h.items_le a' ha').trans (le_max_left _ _)
  · intro b hb
    exact (h.samples_le b hb).trans (le_max_left _ _)

/-- A sample is taken which is newer than the newest one, and whose item has come. -/
theorem Tracks.sample {b : β} (h : Tracks n log applied top) (hneeds : n.needs b ≤ applied)
    (hnew : top < n.stamp b) :
    Tracks n (.sample b :: log) applied (n.stamp b) := by
  refine ⟨⟨h.lawful, by rwa [h.count], ?_, ?_⟩, h.count, ?_, ?_⟩
  · intro b' hb'
    exact (h.samples_le b' hb').trans_lt hnew
  · intro a ha
    exact (h.items_le a ha).trans_lt hnew
  · intro a ha
    exact (h.items_le a ha).trans hnew.le
  · intro b' hb'
    rcases List.mem_cons.mp hb' with rfl | hb'
    · exact le_rfl
    · exact (h.samples_le b' hb').trans hnew.le

/-! ### What a lawful log promises -/

/-- The items, oldest first, are numbered `1, 2, …`. -/
theorem Lawful.numbers (h : Lawful n log) :
    (items log).reverse.map n.number = List.range' 1 (items log).length := by
  induction log with
  | nil => rfl
  | cons entry log ih =>
    cases entry with
    | item a =>
      obtain ⟨hlog, hnumber⟩ := h
      have hlast : List.range' 1 ((items log).length + 1) =
          List.range' 1 (items log).length ++ [1 + (items log).length] := by
        rw [← List.range'_append_1 (s := 1) (m := (items log).length) (n := 1)]
        rfl
      rw [items_item, List.reverse_cons, List.map_append, ih hlog, List.length_cons, hlast]
      simp [hnumber, Nat.add_comm]
    | sample b => exact ih h.1

/-- Every number up to the count is there. -/
theorem Lawful.exists_item (h : Lawful n log) {k : ℕ} (hpos : 0 < k) (hle : k ≤ (items log).length) :
    ∃ a ∈ items log, n.number a = k := by
  have hmem : k ∈ (items log).reverse.map n.number := by
    rw [h.numbers, List.mem_range'_1]
    omega
  obtain ⟨a, ha, heq⟩ := List.mem_map.mp hmem
  exact ⟨a, List.mem_reverse.mp ha, heq⟩

theorem Lawful.older {newer older : List (Entry α β)} (h : Lawful n (newer ++ older)) : Lawful n older := by
  induction newer with
  | nil => exact h
  | cons entry newer ih =>
    cases entry with
    | item a => exact ih h.1
    | sample b => exact ih h.1

/-- The samples get newer and newer. -/
theorem Lawful.pairwise (h : Lawful n log) : (samples log).Pairwise fun b b' => n.stamp b' < n.stamp b := by
  induction log with
  | nil => exact List.Pairwise.nil
  | cons entry log ih =>
    cases entry with
    | item a => exact ih h.1
    | sample b => exact List.Pairwise.cons h.2.2.1 (ih h.1)

/-- A sample comes after the item it needs. -/
theorem Lawful.needs_met {newer older : List (Entry α β)} {b : β} (h : Lawful n (newer ++ .sample b :: older)) :
    n.needs b = 0 ∨ ∃ a ∈ items older, n.number a = n.needs b := by
  obtain ⟨hlog, hneeds, -, -⟩ := h.older
  rcases Nat.eq_zero_or_pos (n.needs b) with hzero | hpos
  · exact Or.inl hzero
  · exact Or.inr (hlog.exists_item hpos hneeds)

/-- After an item, no sample is older than the one it carries. -/
theorem Lawful.newer_than_mark {newer older : List (Entry α β)} {a : α}
    (h : Lawful n (newer ++ .item a :: older)) :
    ∀ b ∈ samples newer, n.mark a < n.stamp b := by
  induction newer with
  | nil => simp
  | cons entry newer ih =>
    cases entry with
    | item a' => exact ih h.1
    | sample b =>
      intro b' hb'
      rcases List.mem_cons.mp hb' with rfl | hb'
      · exact h.2.2.2 a (by simp [items_append])
      · exact ih h.1 b' hb'

end MyKvm.Lib.Feed
