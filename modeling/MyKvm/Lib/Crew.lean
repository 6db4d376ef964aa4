import Mathlib.Data.List.Basic
import Mathlib.Data.List.Count

/-!
# MyKvm.Lib.Crew — some workers, each somewhere in its work

Workers which take steps one at a time, as a list of where each of them is.  A step replaces one entry, so how many
of them are at a place changes by that entry only: `countP_set`.

* `countP_set_of_eq`: the place does not matter to the step.
* `countP_pos`: who is at a place is counted.
-/

namespace MyKvm.Lib.Crew

variable {α : Type*} {p : α → Bool} {crew : List α} {i : ℕ} {a : α}

/-- One worker takes a step. -/
theorem countP_set (h : crew[i]? = some a) (b : α) :
    (crew.set i b).countP p + (p a).toNat = crew.countP p + (p b).toNat := by
  obtain ⟨hi, rfl⟩ := List.getElem?_eq_some_iff.mp h
  have hpos : p crew[i] = true → 0 < crew.countP p := fun hp =>
    List.countP_pos_iff.mpr ⟨_, List.getElem_mem hi, hp⟩
  rw [List.countP_set hi]
  by_cases hold : p crew[i] = true
  · have hpos := hpos hold
    by_cases hnew : p b = true
    · simp only [hold, hnew, if_true, Bool.toNat_true]
      omega
    · simp only [hold, hnew, if_true, if_false, Bool.false_eq_true, Bool.toNat_true, Bool.toNat_false]
      omega
  · by_cases hnew : p b = true <;> simp [hold, hnew]

theorem countP_set_of_eq (h : crew[i]? = some a) {b : α} (hsame : p b = p a) :
    (crew.set i b).countP p = crew.countP p := by
  have hset := countP_set (p := p) h b
  rw [hsame] at hset
  omega

theorem countP_pos (h : crew[i]? = some a) (hp : p a = true) : 0 < crew.countP p :=
  List.countP_pos_iff.mpr ⟨a, List.mem_of_getElem? h, hp⟩

/-- What holds of every worker holds after the step of one. -/
theorem forall_set {P : α → Prop} (hall : ∀ x ∈ crew, P x) {b : α} (hb : P b) : ∀ x ∈ crew.set i b, P x := by
  intro x hx
  rcases List.mem_or_eq_of_mem_set hx with hx | rfl
  · exact hall x hx
  · exact hb

end MyKvm.Lib.Crew
