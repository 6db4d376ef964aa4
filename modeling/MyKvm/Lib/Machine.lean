import Mathlib.Data.List.Basic

/-!
# MyKvm.Lib.Machine — runs of a deterministic machine

A machine answers an input by its next state.  Whatever a program does not decide itself (the order in which
threads get their turn, the answer of a device, the time) is part of the input, so a statement about every list of
inputs is a statement about every run.

* `run next s is`: the state after the inputs `is`.
* `Meets next P s is`: every step of the run meets the condition `P`, read at the state before it.
* `run_keeps`: the invariant rule, for the steps which meet `P`.
* `run_project`: a machine which carries more beside its state.
* `run_origin`: what holds at the end and not at the start was made by a step.
* `run_erase`: inputs which leave a view of the state alone may be erased, as far as the view goes.
* `trace`, `run_simulates`: a machine simulates another one, input by input.
-/

namespace MyKvm.Lib

variable {σ τ ι κ : Type*}

/-- The state after the inputs, first to last. -/
def run (next : σ → ι → σ) (s : σ) (is : List ι) : σ := is.foldl next s

section Run

variable (next : σ → ι → σ)

@[simp] theorem run_nil (s : σ) : run next s [] = s := rfl

@[simp] theorem run_cons (s : σ) (i : ι) (is : List ι) :
    run next s (i :: is) = run next (next s i) is := rfl

theorem run_append (s : σ) (is js : List ι) :
    run next s (is ++ js) = run next (run next s is) js := List.foldl_append

/-- Every step of the run meets `P`, which reads the state before the step and its input. -/
def Meets (P : σ → ι → Prop) : σ → List ι → Prop
  | _, [] => True
  | s, i :: is => P s i ∧ Meets P (next s i) is

instance decidableMeets (P : σ → ι → Prop) [∀ s i, Decidable (P s i)] : ∀ s is, Decidable (Meets next P s is)
  | _, [] => .isTrue trivial
  | s, i :: is => @instDecidableAnd _ _ _ (decidableMeets P (next s i) is)

@[simp] theorem meets_nil (P : σ → ι → Prop) (s : σ) : Meets next P s [] := trivial

@[simp] theorem meets_cons (P : σ → ι → Prop) (s : σ) (i : ι) (is : List ι) :
    Meets next P s (i :: is) ↔ P s i ∧ Meets next P (next s i) is := Iff.rfl

theorem meets_append (P : σ → ι → Prop) (s : σ) (is js : List ι) :
    Meets next P s (is ++ js) ↔ Meets next P s is ∧ Meets next P (run next s is) js := by
  induction is generalizing s with
  | nil => simp
  | cons i is ih => simp [ih, and_assoc]

variable {next}

/-- **Invariants.**  What every step which meets `P` keeps, a run of such steps keeps. -/
theorem run_keeps {P : σ → ι → Prop} {I : σ → Prop} (h : ∀ s i, I s → P s i → I (next s i))
    {s : σ} {is : List ι} (hs : I s) (hm : Meets next P s is) : I (run next s is) := by
  induction is generalizing s with
  | nil => exact hs
  | cons i is ih => exact ih (h s i hs hm.1) hm.2

/-- What every step which meets `P` does, from a state with the invariant, every step
of a run of such steps does. -/
theorem meets_keeps {P L : σ → ι → Prop} {I : σ → Prop} (h : ∀ s i, I s → P s i → I (next s i) ∧ L s i)
    {s : σ} {is : List ι} (hs : I s) (hm : Meets next P s is) : Meets next L s is := by
  induction is generalizing s with
  | nil => trivial
  | cons i is ih =>
    obtain ⟨hnext, hl⟩ := h s i hs hm.1
    exact ⟨hl, ih hnext hm.2⟩

theorem meets_of_forall {P : σ → ι → Prop} (h : ∀ s i, P s i) (s : σ) (is : List ι) : Meets next P s is := by
  induction is generalizing s with
  | nil => trivial
  | cons i is ih => exact ⟨h s i, ih (next s i)⟩

/-- Invariants of the unconditional steps. -/
theorem run_invariant {I : σ → Prop} (h : ∀ s i, I s → I (next s i)) {s : σ} (hs : I s) (is : List ι) :
    I (run next s is) :=
  run_keeps (P := fun _ _ => True) (fun s i hi _ => h s i hi) hs (meets_of_forall (fun _ _ => trivial) s is)

/-- A machine with more beside its state runs like the machine itself. -/
theorem run_project {next' : τ → ι → τ} {project : σ → τ} (h : ∀ s i, project (next s i) = next' (project s) i)
    (s : σ) (is : List ι) : project (run next s is) = run next' (project s) is := by
  induction is generalizing s with
  | nil => rfl
  | cons i is ih => rw [run_cons, run_cons, ih, h]

/-- What holds after the run and not before was made by one of its steps. -/
theorem run_origin {P : σ → Prop} {s : σ} {is : List ι} (hs : ¬ P s) (h : P (run next s is)) :
    ∃ before i after, is = before ++ i :: after ∧ ¬ P (run next s before) ∧ P (next (run next s before) i) := by
  induction is generalizing s with
  | nil => exact absurd h hs
  | cons i is ih =>
    by_cases hnext : P (next s i)
    · exact ⟨[], i, is, rfl, hs, hnext⟩
    · obtain ⟨before, j, after, rfl, hbefore, hafter⟩ := ih hnext h
      exact ⟨i :: before, j, after, rfl, hbefore, hafter⟩

/-- **Noninterference.**  If the hidden inputs leave the view alone, and what the others make of the view depends
on the view only, then the view at the end is that of the run without the hidden inputs. -/
theorem run_erase {view : σ → τ} {visible : ι → Bool}
    (hidden : ∀ s i, visible i = false → view (next s i) = view s)
    (seen : ∀ s t i, visible i = true → view s = view t → view (next s i) = view (next t i)) (s : σ)
    (is : List ι) :
    view (run next s is) = view (run next s (is.filter visible)) := by
  suffices h : ∀ t, view s = view t → view (run next s is) = view (run next t (is.filter visible)) from h s rfl
  induction is generalizing s with
  | nil => exact fun t heq => heq
  | cons i is ih =>
    intro t heq
    by_cases hvisible : visible i = true
    · rw [List.filter_cons_of_pos hvisible, run_cons, run_cons]
      exact ih (next s i) (next t i) (seen s t i hvisible heq)
    · rw [List.filter_cons_of_neg hvisible, run_cons]
      exact ih (next s i) t ((hidden s i (by simpa using hvisible)).trans heq)

end Run

section Simulation

variable (next : σ → ι → σ) (ev : σ → ι → κ)

/-- The inputs of the simulated machine along a run. -/
def trace : σ → List ι → List κ
  | _, [] => []
  | s, i :: is => ev s i :: trace (next s i) is

theorem trace_append (s : σ) (is js : List ι) :
    trace next ev s (is ++ js) = trace next ev s is ++ trace next ev (run next s is) js := by
  induction is generalizing s with
  | nil => rfl
  | cons i is ih => simp [trace, ih]

variable {next ev} {next' : τ → κ → τ} {abs : σ → τ}

/-- **Simulation.**  If every step is, seen through `abs`, a step of the other machine which meets `L`, then so is
every run. -/
theorem run_simulates {P : σ → ι → Prop} {L : τ → κ → Prop}
    (h : ∀ s i, P s i → abs (next s i) = next' (abs s) (ev s i) ∧ L (abs s) (ev s i))
    {s : σ} {is : List ι} (hm : Meets next P s is) :
    abs (run next s is) = run next' (abs s) (trace next ev s is) ∧
      Meets next' L (abs s) (trace next ev s is) := by
  induction is generalizing s with
  | nil => exact ⟨rfl, trivial⟩
  | cons i is ih =>
    obtain ⟨hstep, hl⟩ := h s i hm.1
    obtain ⟨hrun, hmeets⟩ := ih hm.2
    rw [hstep] at hrun hmeets
    exact ⟨hrun, hl, hmeets⟩

end Simulation

end MyKvm.Lib
