import Mathlib.Data.List.MinMax

/-!
# MyKvm.Lib.LastWriter — registers whose last writer wins

Replicas hear of stamped values in any order and any number of times, and each keeps the one with the newest
stamp.  A history lists the entries which a replica has heard of; `Newest r history` says that the register `r`
holds the newest.

* `Newest.hear`: one more entry is heard of.
* `Newest.stamp_eq`: the stamp of the register is the maximum of the stamps.
* `Newest.agree`: two replicas which have heard of the same entries hold the same one.
-/

namespace MyKvm.Lib.LastWriter

variable {α δ : Type*}

/-- A value and its stamp, or nothing yet. -/
abbrev Register (α δ : Type*) := Option (α × δ)

def stamp (r : Register α δ) : WithBot α := Option.map Prod.fst r

@[simp] theorem stamp_some {e : α × δ} : stamp (some e) = (e.1 : WithBot α) := rfl

/-- Each stamp belongs to one value. -/
def SingleValued (history : List (α × δ)) : Prop := ∀ e ∈ history, ∀ e' ∈ history, e.1 = e'.1 → e = e'

variable [LinearOrder α]

/-- The entry is heard of: it is kept if it is newer. -/
def hear (r : Register α δ) (e : α × δ) : Register α δ := if stamp r < e.1 then some e else r

/-- The register holds the newest entry of the history. -/
structure Newest (r : Register α δ) (history : List (α × δ)) : Prop where
  mem : ∀ e, r = some e → e ∈ history
  le : ∀ e ∈ history, (e.1 : WithBot α) ≤ stamp r

variable {r r' : Register α δ} {history history' : List (α × δ)} {e : α × δ}

theorem newest_nil : Newest (none : Register α δ) [] := ⟨by simp, by simp⟩

theorem hear_newer (h : stamp r < e.1) : hear r e = some e := if_pos h

theorem hear_older (h : e.1 ≤ stamp r) : hear r e = r := if_neg (not_lt.mpr h)

/-- **One more entry.** -/
theorem Newest.hear (h : Newest r history) (e : α × δ) : Newest (LastWriter.hear r e) (e :: history) := by
  by_cases hnewer : stamp r < e.1
  · rw [hear_newer hnewer]
    refine ⟨fun e' he' => ?_, fun e' he' => ?_⟩
    · obtain rfl := Option.some.inj he'
      exact List.mem_cons_self
    · rw [stamp_some]
      rcases List.mem_cons.mp he' with rfl | he'
      · exact le_rfl
      · exact (h.le e' he').trans hnewer.le
  · have hle : e.1 ≤ stamp r := not_lt.mp hnewer
    rw [hear_older hle]
    refine ⟨fun e' he' => List.mem_cons_of_mem e (h.mem e' he'), fun e' he' => ?_⟩
    rcases List.mem_cons.mp he' with rfl | he'
    · exact hle
    · exact h.le e' he'

/-- Only which entries were heard of matters, not when and how often. -/
theorem Newest.congr (h : Newest r history) (hsame : ∀ e, e ∈ history ↔ e ∈ history') : Newest r history' :=
  ⟨fun e he => (hsame e).mp (h.mem e he), fun e he => h.le e ((hsame e).mpr he)⟩

/-- **The stamp is the maximum of the stamps.** -/
theorem Newest.stamp_eq (h : Newest r history) : stamp r = (history.map Prod.fst).maximum := by
  apply le_antisymm
  · cases r with
    | none => exact bot_le
    | some e => exact List.le_maximum_of_mem' (List.mem_map_of_mem (h.mem e rfl))
  · refine List.maximum_le_of_forall_le fun a ha => ?_
    obtain ⟨e, he, rfl⟩ := List.mem_map.mp ha
    exact h.le e he

/-- **Convergence**: two replicas which have heard of the same entries hold the same one. -/
theorem Newest.agree (h : Newest r history) (h' : Newest r' history') (hsame : ∀ e, e ∈ history ↔ e ∈ history')
    (hvalues : SingleValued history) : r = r' := by
  have hstamp : stamp r = stamp r' := by rw [(h.congr hsame).stamp_eq, h'.stamp_eq]
  cases r with
  | none =>
    cases r' with
    | none => rfl
    | some e' => cases hstamp
  | some e =>
    cases r' with
    | none => cases hstamp
    | some e' =>
      have hmem := (hsame e').mpr (h'.mem e' rfl)
      exact congrArg some (hvalues e (h.mem e rfl) e' hmem (WithBot.coe_inj.mp hstamp))

end MyKvm.Lib.LastWriter
