import Mathlib.Data.List.Basic

/-!
# MyKvm.Lib.Answer — programs which may have no answer

A program whose steps may have no result (an arithmetic which reports an overflow) returns an `Option`.
`Yields x P` says that there is an answer, and that `P` holds of it; one rule for each way to build a program.
-/

namespace MyKvm.Lib

/-- The program has an answer, and `P` holds of it. -/
def Yields {α : Type} (x : Option α) (P : α → Prop) : Prop := ∃ a, x = some a ∧ P a

/-- The second test is made only if the first one passes. -/
def andAlso (p q : Option Bool) : Option Bool := p.bind fun passed => if passed then q else some false

@[simp] theorem andAlso_false (q : Option Bool) : andAlso (some false) q = some false := rfl

@[simp] theorem andAlso_true (q : Option Bool) : andAlso (some true) q = q := rfl

@[simp] theorem andAlso_none (q : Option Bool) : andAlso none q = none := rfl

@[simp] theorem andAlso_some (p q : Bool) : andAlso (some p) (some q) = some (p && q) := by
  unfold andAlso
  simp only [Option.bind_some]
  split <;> simp_all

section Guarded

variable {S T P Q : Prop} [Decidable S] [Decidable T] [Decidable P] [Decidable Q]

/-- Two tests, each of which is answered under a condition. -/
theorem andAlso_guarded_true :
    andAlso (if S then some (decide P) else none) (if T then some (decide Q) else none) = some true ↔
      (S ∧ P) ∧ T ∧ Q := by
  by_cases hS : S
  · by_cases hP : P <;> by_cases hT : T <;> simp [hS, hP, hT]
  · simp [hS]

theorem andAlso_guarded_false :
    andAlso (if S then some (decide P) else none) (if T then some (decide Q) else none) = some false ↔
      S ∧ (P → T ∧ ¬ Q) := by
  by_cases hS : S
  · by_cases hP : P <;> by_cases hT : T <;> simp [hS, hP, hT]
  · simp [hS]

end Guarded

section Rules

variable {α β : Type} {x : Option α} {P Q : α → Prop}

theorem yields_some {a : α} (h : P a) : Yields (some a) P := ⟨a, rfl, h⟩

theorem yields_of_eq {a : α} (hx : x = some a) (h : P a) : Yields x P := ⟨a, hx, h⟩

namespace Yields

theorem isSome (h : Yields x P) : x.isSome := by
  obtain ⟨a, rfl, -⟩ := h
  rfl

theorem mono (h : Yields x P) (himp : ∀ a, P a → Q a) : Yields x Q := by
  obtain ⟨a, rfl, ha⟩ := h
  exact ⟨a, rfl, himp a ha⟩

theorem getD (h : Yields x P) (a : α) : P (x.getD a) := by
  obtain ⟨b, rfl, hb⟩ := h
  exact hb

/-- **Sequence**: the second program starts with the answer of the first one. -/
theorem bind {f : α → Option β} {R : β → Prop} (h : Yields x P) (hf : ∀ a, P a → Yields (f a) R) :
    Yields (x.bind f) R := by
  obtain ⟨a, rfl, ha⟩ := h
  exact hf a ha

theorem map {f : α → β} {R : β → Prop} (h : Yields x P) (hf : ∀ a, P a → R (f a)) : Yields (x.map f) R := by
  obtain ⟨a, rfl, ha⟩ := h
  exact ⟨f a, rfl, hf a ha⟩

/-- **Loops**: every round has an answer. -/
theorem mapM {f : α → Option β} {R : β → Prop} {xs : List α} (h : ∀ a ∈ xs, Yields (f a) R) :
    Yields (xs.mapM f) fun ys => ∀ b ∈ ys, R b := by
  induction xs with
  | nil => exact ⟨[], rfl, by simp⟩
  | cons a xs ih =>
    obtain ⟨b, hb, hR⟩ := h a List.mem_cons_self
    obtain ⟨ys, hys, hall⟩ := ih fun a' ha' => h a' (List.mem_cons_of_mem a ha')
    exact ⟨b :: ys, by simp [List.mapM_cons, hb, hys], List.forall_mem_cons.mpr ⟨hR, hall⟩⟩

/-- **Searches**: what is found was tested. -/
theorem findM {p : α → Option Bool} {xs : List α} (h : ∀ a ∈ xs, Yields (p a) fun _ => True) :
    Yields (xs.findM? p) fun found => ∀ a, found = some a → a ∈ xs := by
  induction xs with
  | nil => exact ⟨none, rfl, by simp⟩
  | cons a xs ih =>
    obtain ⟨passed, hpassed, -⟩ := h a List.mem_cons_self
    obtain ⟨found, hfound, hmem⟩ := ih fun a' ha' => h a' (List.mem_cons_of_mem a ha')
    by_cases hp : passed = true
    · exact ⟨some a, by simp [List.findM?, hpassed, hp], by simp⟩
    · refine ⟨found, ?_, fun a' ha' => List.mem_cons_of_mem a (hmem a' ha')⟩
      simp [List.findM?, hpassed, hp, hfound]

theorem findSomeM {f : α → Option (Option β)} {R : β → Prop} {xs : List α}
    (h : ∀ a ∈ xs, Yields (f a) fun found => ∀ b, found = some b → R b) :
    Yields (xs.findSomeM? f) fun found => ∀ b, found = some b → R b := by
  induction xs with
  | nil => exact ⟨none, rfl, by simp⟩
  | cons a xs ih =>
    obtain ⟨found, hfound, hR⟩ := h a List.mem_cons_self
    cases found with
    | some b => exact ⟨some b, by simp [List.findSomeM?, hfound], hR⟩
    | none =>
      obtain ⟨later, hlater, hall⟩ := ih fun a' ha' => h a' (List.mem_cons_of_mem a ha')
      exact ⟨later, by simp [List.findSomeM?, hfound, hlater], hall⟩

end Yields

theorem mapM_eq_map {f : α → Option β} {g : α → β} {xs : List α} (h : ∀ a ∈ xs, f a = some (g a)) :
    xs.mapM f = some (xs.map g) := by
  induction xs with
  | nil => rfl
  | cons a xs ih =>
    have hrest := ih fun a' ha' => h a' (List.mem_cons_of_mem a ha')
    simp [List.mapM_cons, h a List.mem_cons_self, hrest]

theorem findM_eq_find {p : α → Option Bool} {q : α → Bool} {xs : List α} (h : ∀ a ∈ xs, p a = some (q a)) :
    xs.findM? p = some (xs.find? q) := by
  induction xs with
  | nil => rfl
  | cons a xs ih =>
    have hrest := ih fun a' ha' => h a' (List.mem_cons_of_mem a ha')
    by_cases hq : q a = true
    · simp [List.findM?, h a List.mem_cons_self, hq]
    · simp [List.findM?, h a List.mem_cons_self, hq, hrest]

theorem mapM_isSome_iff {f : α → Option β} {xs : List α} : (xs.mapM f).isSome ↔ ∀ a ∈ xs, (f a).isSome := by
  induction xs with
  | nil => simp
  | cons a xs ih =>
    rw [List.mapM_cons, List.forall_mem_cons, ← ih]
    cases f a <;> cases xs.mapM f <;> simp

theorem findM_isSome_cons {p : α → Option Bool} {a : α} {as : List α} :
    ((a :: as).findM? p).isSome ↔ p a = some true ∨ (p a = some false ∧ (as.findM? p).isSome) := by
  cases hp : p a with
  | none => simp [List.findM?, hp]
  | some passed => by_cases hpassed : passed = true <;> simp [List.findM?, hp, hpassed]

end Rules

end MyKvm.Lib
