import Mathlib.Data.Finset.Basic
import Mathlib.Data.Finset.Option
import Mathlib.Data.Finset.Union
import Mathlib.Data.List.Pairwise

/-!
# MyKvm.Lib.Slots — moving values between slots

Each of some slots holds a value of a shared registry, which holds every value once.  The slots are brought from
their previous to their next values in stages: a stage releases what its slots held and then claims what they are
to hold, whereas slots which keep their value are left alone.  A claim of a value which is still held by another
slot is in vain, since that slot releases it afterwards; so the stages arrive if and only if no value moves to an
earlier stage.
-/

namespace MyKvm.Lib.Slots

variable {ι α : Type*} [DecidableEq α]

/-- No two slots hold the same value. -/
def Distinct (values : ι → Option α) : Prop := ∀ i j a, values i = some a → values j = some a → i = j

/-- What these slots hold. -/
def held (values : ι → Option α) (slots : List ι) : Finset α := (slots.filterMap values).toFinset

@[simp] theorem mem_held {values : ι → Option α} {slots : List ι} {a : α} :
    a ∈ held values slots ↔ ∃ i ∈ slots, values i = some a := by
  simp [held]

variable (prev next : ι → Option α)

def changed (stage : List ι) : List ι := stage.filter fun i => prev i ≠ next i

def exchange (registry : Finset α) (stage : List ι) : Finset α :=
  (registry \ held prev (changed prev next stage)) ∪ held next (changed prev next stage)

def exchanges (registry : Finset α) (stages : List (List ι)) : Finset α :=
  stages.foldl (exchange prev next) registry

@[simp] theorem exchanges_cons (registry : Finset α) (stage : List ι) (stages : List (List ι)) :
    exchanges prev next registry (stage :: stages) =
      exchanges prev next (exchange prev next registry stage) stages := rfl

@[simp] theorem exchanges_concat (registry : Finset α) (stages : List (List ι)) (stage : List ι) :
    exchanges prev next registry (stages ++ [stage]) =
      exchange prev next (exchanges prev next registry stages) stage := by
  simp [exchanges, List.foldl_append]

/-- No slot is to hold what a slot of a later stage holds before. -/
def MovesForward (stages : List (List ι)) : Prop :=
  stages.Pairwise fun earlier later => ∀ i ∈ earlier, ∀ j ∈ later, ∀ a, next i = some a → prev j ≠ some a

variable {prev next}

theorem mem_changed {stage : List ι} {i : ι} : i ∈ changed prev next stage ↔ i ∈ stage ∧ prev i ≠ next i := by
  simp [changed]

theorem exchange_singleton_of_eq {i : ι} (h : prev i = next i) (registry : Finset α) :
    exchange prev next registry [i] = registry := by
  simp [exchange, changed, held, h]

theorem exchange_singleton_of_ne {i : ι} (h : prev i ≠ next i) (registry : Finset α) :
    exchange prev next registry [i] = (registry \ (prev i).toFinset) ∪ (next i).toFinset := by
  ext a
  simp [exchange, mem_changed, h]

/-- A value which no stage gives up stays. -/
theorem mem_exchanges {a : α} {stages : List (List ι)} {registry : Finset α} (hin : a ∈ registry)
    (hprev : ∀ stage ∈ stages, ∀ i ∈ stage, prev i ≠ some a) : a ∈ exchanges prev next registry stages := by
  induction stages generalizing registry with
  | nil => exact hin
  | cons stage stages ih =>
    refine ih ?_ fun later hlater => hprev later (List.mem_cons_of_mem _ hlater)
    refine Finset.mem_union_left _ (Finset.mem_sdiff.mpr ⟨hin, fun hheld => ?_⟩)
    obtain ⟨i, hi, hia⟩ := mem_held.mp hheld
    exact hprev stage List.mem_cons_self i (mem_changed.mp hi).1 hia

omit [DecidableEq α] in
theorem movesForward_iff {stages : List (List ι)} : MovesForward prev next stages ↔
    stages.Pairwise fun earlier later => ∀ i ∈ earlier, ∀ j ∈ later, next i = none ∨ prev j ≠ next i := by
  refine Iff.of_eq (congrArg (stages.Pairwise ·) ?_)
  funext earlier later
  refine propext (forall₄_congr fun i _ j _ => ?_)
  cases next i <;> simp

/-- One stage, where the other slots hold `others` and what the later stages held. -/
theorem exchange_eq (hprev : Distinct prev) {stage : List ι} {others : Finset α}
    (hothers : ∀ a ∈ others, ∀ i ∈ stage, prev i ≠ some a) :
    exchange prev next (others ∪ held prev stage) stage = others ∪ held next stage := by
  ext a
  simp only [exchange, Finset.mem_union, Finset.mem_sdiff, mem_held, mem_changed]
  constructor
  · rintro (⟨hin | ⟨i, hi, hia⟩, hkept⟩ | ⟨i, ⟨hi, -⟩, hia⟩)
    · exact .inl hin
    · -- The slot which holds the value keeps it, since the value is not released.
      refine .inr ⟨i, hi, ?_⟩
      by_contra hne
      exact hkept ⟨i, ⟨hi, fun heq => hne (heq ▸ hia)⟩, hia⟩
    · exact .inr ⟨i, hi, hia⟩
  · rintro (hin | ⟨i, hi, hia⟩)
    · refine .inl ⟨.inl hin, ?_⟩
      rintro ⟨j, ⟨hj, -⟩, hja⟩
      exact hothers a hin j hj hja
    · by_cases hsame : prev i = next i
      · have hheld : prev i = some a := hsame.trans hia
        refine .inl ⟨.inr ⟨i, hi, hheld⟩, ?_⟩
        rintro ⟨j, ⟨-, hne⟩, hja⟩
        obtain rfl := hprev i j a hheld hja
        exact hne hsame
      · exact .inr ⟨i, ⟨hi, hsame⟩, hia⟩

/-- A value which is neither held nor asked for later does not come back. -/
theorem not_mem_exchanges {a : α} {stages : List (List ι)} {registry : Finset α} (hout : a ∉ registry)
    (hnext : ∀ stage ∈ stages, ∀ i ∈ stage, next i ≠ some a) : a ∉ exchanges prev next registry stages := by
  induction stages generalizing registry with
  | nil => exact hout
  | cons stage stages ih =>
    refine ih ?_ fun later hlater => hnext later (List.mem_cons_of_mem _ hlater)
    simp only [exchange, Finset.mem_union, Finset.mem_sdiff, mem_held, mem_changed]
    rintro (⟨hin, -⟩ | ⟨i, ⟨hi, -⟩, hia⟩)
    · exact hout hin
    · exact hnext stage List.mem_cons_self i hi hia

/-- **Forward moves arrive.** -/
theorem exchanges_of_movesForward (hprev : Distinct prev) {stages : List (List ι)}
    (hforward : MovesForward prev next stages) {others : Finset α}
    (hothers : ∀ a ∈ others, ∀ stage ∈ stages, ∀ i ∈ stage, prev i ≠ some a)
    (hslots : stages.flatten.Nodup) :
    exchanges prev next (others ∪ held prev stages.flatten) stages = others ∪ held next stages.flatten := by
  induction stages generalizing others with
  | nil => rfl
  | cons stage stages ih =>
    obtain ⟨hstage, hforward⟩ := List.pairwise_cons.mp hforward
    obtain ⟨-, hlater, hapart⟩ := List.nodup_append.mp hslots
    have hsplit : ∀ values : ι → Option α,
        held values (stage :: stages).flatten = held values stage ∪ held values stages.flatten := by
      intro values
      ext a
      simp [or_and_right, exists_or]
    have hfirst : exchange prev next (others ∪ held prev (stage :: stages).flatten) stage =
        (others ∪ held prev stages.flatten) ∪ held next stage := by
      rw [hsplit, Finset.union_left_comm, Finset.union_comm]
      refine exchange_eq hprev fun a ha i hi hia => ?_
      rcases Finset.mem_union.mp ha with ha | ha
      · exact hothers a ha stage List.mem_cons_self i hi hia
      · obtain ⟨j, hj, hja⟩ := mem_held.mp ha
        exact hapart i hi j hj (hprev i j a hia hja)
    have hkept : ∀ a ∈ others ∪ held next stage, ∀ later ∈ stages, ∀ j ∈ later, prev j ≠ some a := by
      intro a ha later hmem j hj hja
      rcases Finset.mem_union.mp ha with ha | ha
      · exact hothers a ha later (List.mem_cons_of_mem _ hmem) j hj hja
      · obtain ⟨i, hi, hia⟩ := mem_held.mp ha
        exact hstage later hmem i hi j hj a hia hja
    have hrest := ih hforward hkept hlater
    calc exchanges prev next (others ∪ held prev (stage :: stages).flatten) (stage :: stages)
        = exchanges prev next (exchange prev next (others ∪ held prev (stage :: stages).flatten) stage) stages :=
          rfl
      _ = exchanges prev next ((others ∪ held next stage) ∪ held prev stages.flatten) stages := by
          rw [hfirst, Finset.union_right_comm]
      _ = others ∪ held next (stage :: stages).flatten := by rw [hrest, hsplit, Finset.union_assoc]

/-- A value which one of the stages gives up, and none asks for, is gone in the end. -/
theorem not_mem_of_released {a : α} {stages : List (List ι)} {later : List ι} {j : ι} (hlater : later ∈ stages)
    (hj : j ∈ later) (hja : prev j = some a) (hnext : ∀ stage ∈ stages, ∀ i ∈ stage, next i ≠ some a)
    (registry : Finset α) : a ∉ exchanges prev next registry stages := by
  induction stages generalizing registry with
  | nil => exact absurd hlater List.not_mem_nil
  | cons stage stages ih =>
    have htail := fun later hlater => hnext later (List.mem_cons_of_mem stage hlater)
    rcases List.mem_cons.mp hlater with rfl | hlater
    · show a ∉ exchanges prev next (exchange prev next registry later) stages
      refine not_mem_exchanges ?_ htail
      simp only [exchange, Finset.mem_union, Finset.mem_sdiff, mem_held, mem_changed]
      have hown := hnext later List.mem_cons_self
      rintro (⟨-, hkept⟩ | ⟨i, ⟨hi, -⟩, hia⟩)
      · exact hkept ⟨j, ⟨hj, fun heq => hown j hj (heq ▸ hja)⟩, hja⟩
      · exact hown i hi hia
    · exact ih hlater htail _

/-- Where everything asked for is there in the end, no value has moved backward: the stage which held it would have
released it after the claim. -/
theorem movesForward_of_subset (hnext : Distinct next) {stages : List (List ι)} (hslots : stages.flatten.Nodup)
    (registry : Finset α) (h : held next stages.flatten ⊆ exchanges prev next registry stages) :
    MovesForward prev next stages := by
  induction stages generalizing registry with
  | nil => exact List.Pairwise.nil
  | cons stage stages ih =>
    obtain ⟨-, hlater, hapart⟩ := List.nodup_append.mp hslots
    refine List.pairwise_cons.mpr ⟨fun later hmem i hi j hj a hia hja => ?_,
      ih hlater (exchange prev next registry stage) fun a ha => ?_⟩
    · have hasked : a ∈ held next (stage :: stages).flatten := mem_held.mpr ⟨i, List.mem_append_left _ hi, hia⟩
      refine not_mem_of_released hmem hj hja (fun other hother k hk hka => ?_) _ (h hasked)
      exact hapart i hi k (List.mem_flatten.mpr ⟨other, hother, hk⟩) (hnext i k a hia hka)
    · obtain ⟨i, hi, hia⟩ := mem_held.mp ha
      exact h (mem_held.mpr ⟨i, List.mem_append_right _ hi, hia⟩)

/-- **The stages arrive** if and only if no value moves to an earlier stage. -/
theorem exchanges_eq_iff (hprev : Distinct prev) (hnext : Distinct next) {stages : List (List ι)}
    (hslots : stages.flatten.Nodup) :
    exchanges prev next (held prev stages.flatten) stages = held next stages.flatten ↔
    MovesForward prev next stages := by
  constructor
  · intro heq
    exact movesForward_of_subset hnext hslots _ heq.ge
  · intro hforward
    have harrive := exchanges_of_movesForward hprev hforward (fun a ha => absurd ha (Finset.notMem_empty a)) hslots
    rwa [Finset.empty_union, Finset.empty_union] at harrive

end MyKvm.Lib.Slots
