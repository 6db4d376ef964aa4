import Mathlib.Data.List.Basic

/-!
# MyKvm.Lib.Held — what a log of presses and releases leaves held

Commands go to a device one by one; some press a target down, some release it.  `held` reads off the log, newest
first, what is still down.  A ledger covers the log when it lists all of it; `covers_*` say what one more command
does to the cover, and `held_eq_nil` when a log of releases leaves nothing held.
-/

namespace MyKvm.Lib.Held

inductive Edge where
  | down
  | up
  deriving DecidableEq, Repr

section Held

variable {κ τ : Type} [DecidableEq τ] (stroke : κ → Option (τ × Edge))

/-- What is down after the log, newest command first. -/
def held : List κ → List τ
  | [] => []
  | c :: log =>
    match stroke c with
    | none => held log
    | some (t, .down) => t :: held log
    | some (t, .up) => (held log).filter (· ≠ t)

/-- The ledger lists all that is down. -/
def Covers (log : List κ) (ledger : List τ) : Prop := ∀ t ∈ held stroke log, t ∈ ledger

/-- The commands press nothing. -/
def NoDown (cs : List κ) : Prop := ∀ c ∈ cs, ∀ t, stroke c ≠ some (t, .down)

variable {stroke} {log : List κ} {ledger ledger' : List τ} {c : κ} {t : τ}

/-- Where nothing was down before, what is down comes from what followed. -/
theorem held_append (h : held stroke log = []) (cs : List κ) : held stroke (cs ++ log) = held stroke cs := by
  induction cs with
  | nil => exact h
  | cons c cs ih =>
    rw [List.cons_append, held, held, ih]

theorem Covers.mono (h : Covers stroke log ledger) (hsub : ∀ t ∈ ledger, t ∈ ledger') :
    Covers stroke log ledger' :=
  fun t ht => hsub t (h t ht)

theorem covers_none (h : Covers stroke log ledger) (hc : stroke c = none) : Covers stroke (c :: log) ledger := by
  simpa only [Covers, held, hc] using h

theorem covers_down (h : Covers stroke log ledger) (hc : stroke c = some (t, .down)) (ht : t ∈ ledger) :
    Covers stroke (c :: log) ledger := by
  intro t' ht'
  simp only [held, hc, List.mem_cons] at ht'
  rcases ht' with rfl | ht'
  · exact ht
  · exact h t' ht'

theorem covers_up (h : Covers stroke log ledger) (hc : stroke c = some (t, .up))
    (hsub : ∀ t' ∈ ledger, t' ≠ t → t' ∈ ledger') : Covers stroke (c :: log) ledger' := by
  intro t' ht'
  simp only [held, hc, List.mem_filter, decide_eq_true_eq] at ht'
  exact hsub t' (h t' ht'.1) ht'.2

/-- Without a press nothing comes down. -/
theorem mem_held_of_noDown {cs : List κ} (hcs : NoDown stroke cs) (ht : t ∈ held stroke (cs ++ log)) :
    t ∈ held stroke log ∧ ∀ c ∈ cs, stroke c ≠ some (t, .up) := by
  induction cs with
  | nil => exact ⟨ht, by simp⟩
  | cons c cs ih =>
    have hrest : NoDown stroke cs := fun c' hc' => hcs c' (List.mem_cons_of_mem _ hc')
    simp only [List.cons_append, held] at ht
    split at ht
    · rename_i hc
      obtain ⟨hlog, hup⟩ := ih hrest ht
      refine ⟨hlog, fun c' hc' => ?_⟩
      rcases List.mem_cons.mp hc' with rfl | hc'
      · simp [hc]
      · exact hup c' hc'
    · rename_i t' hc
      exact absurd hc (hcs c List.mem_cons_self t')
    · rename_i t' hc
      simp only [List.mem_filter, decide_eq_true_eq] at ht
      obtain ⟨hlog, hup⟩ := ih hrest ht.1
      refine ⟨hlog, fun c' hc' => ?_⟩
      rcases List.mem_cons.mp hc' with rfl | hc'
      · rw [hc]
        intro heq
        cases heq
        exact ht.2 rfl
      · exact hup c' hc'

theorem Covers.noDown {cs : List κ} (h : Covers stroke log ledger) (hcs : NoDown stroke cs) :
    Covers stroke (cs ++ log) ledger :=
  fun t ht => h t (mem_held_of_noDown hcs ht).1

/-- **Releasing everything in a ledger which covers the log leaves nothing held.** -/
theorem held_eq_nil {cs : List κ} (h : Covers stroke log ledger) (hcs : NoDown stroke cs)
    (hall : ∀ t ∈ ledger, ∃ c ∈ cs, stroke c = some (t, .up)) : held stroke (cs ++ log) = [] := by
  apply List.eq_nil_iff_forall_not_mem.mpr
  intro t ht
  obtain ⟨hlog, hup⟩ := mem_held_of_noDown hcs ht
  obtain ⟨c, hc, heq⟩ := hall t (h t hlog)
  exact hup c hc heq

end Held

end MyKvm.Lib.Held
