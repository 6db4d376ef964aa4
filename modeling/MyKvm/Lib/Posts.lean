import Mathlib.Data.List.Basic

/-!
# MyKvm.Lib.Posts — workers, and the handles which stop them

Workers are started one after the other, each with a signal of its own which tells it to stop.  Whoever starts one
keeps its number.  A post is a kind of work for which there is at most one worker: the one whose number is kept.

* `Live`: a worker which was started, and not told to stop.
* `Manned`: the live workers of a kind are the one of the handle.
* `manned_start`, `manned_tell`: the post is filled and cleared.
* `Manned.start_other`, `Manned.tell_other`: the other posts do not notice.
-/

namespace MyKvm.Lib

variable {W : Type*}

/-- A worker which was started as number `i`, and not told to stop. -/
def Live (workers : List (W × Bool)) (i : ℕ) (w : W) : Prop := workers[i]? = some (w, false)

/-- The worker of the handle is told to stop. -/
def tell (workers : List (W × Bool)) : Option ℕ → List (W × Bool)
  | some i => workers.modify i fun worker => (worker.1, true)
  | none => workers

/-- The live workers of the kind are the one of the handle. -/
def Manned (kind : W → Bool) (workers : List (W × Bool)) (handle : Option ℕ) : Prop :=
  ∀ i, (∃ w, Live workers i w ∧ kind w = true) ↔ handle = some i

variable {workers : List (W × Bool)} {kind kind' : W → Bool} {handle handle' : Option ℕ} {i : ℕ} {w v : W}

theorem live_start : Live (workers ++ [(v, false)]) i w ↔ Live workers i w ∨ i = workers.length ∧ w = v := by
  unfold Live
  rcases Nat.lt_trichotomy i workers.length with h | rfl | h
  · rw [List.getElem?_append_left h]
    exact ⟨Or.inl, fun hor => hor.resolve_right fun hlast => by omega⟩
  · rw [List.getElem?_concat_length, List.getElem?_eq_none (Nat.le_refl _)]
    simp [eq_comm]
  · rw [List.getElem?_eq_none (by simp; omega), List.getElem?_eq_none (by omega)]
    simp
    omega

theorem live_tell : Live (tell workers handle) i w ↔ Live workers i w ∧ handle ≠ some i := by
  cases handle with
  | none => simp [tell]
  | some j =>
    unfold Live tell
    dsimp only
    rw [List.getElem?_modify]
    by_cases h : j = i
    · subst h
      cases workers[j]? <;> simp
    · simp only [if_neg h]
      cases workers[i]? <;> simp [h]

theorem manned_nil : Manned kind ([] : List (W × Bool)) none := by
  intro i
  simp [Live]

/-- The post was free. -/
theorem manned_start (h : Manned kind workers none) (hw : kind w = true) :
    Manned kind (workers ++ [(w, false)]) (some workers.length) := by
  intro i
  constructor
  · rintro ⟨v, hlive, hv⟩
    rcases live_start.mp hlive with hold | ⟨rfl, -⟩
    · exact absurd ((h i).mp ⟨v, hold, hv⟩) (by simp)
    · rfl
  · intro hi
    cases hi
    exact ⟨w, live_start.mpr (Or.inr ⟨rfl, rfl⟩), hw⟩

theorem manned_tell (h : Manned kind workers handle) : Manned kind (tell workers handle) none := by
  intro i
  constructor
  · rintro ⟨w, hlive, hw⟩
    obtain ⟨hold, hne⟩ := live_tell.mp hlive
    exact absurd ((h i).mp ⟨w, hold, hw⟩) hne
  · intro hi
    cases hi

theorem Manned.start_other (h : Manned kind workers handle) (hw : kind w = false) :
    Manned kind (workers ++ [(w, false)]) handle := by
  intro i
  rw [← h i]
  constructor
  · rintro ⟨v, hlive, hv⟩
    rcases live_start.mp hlive with hold | ⟨-, rfl⟩
    · exact ⟨v, hold, hv⟩
    · exact absurd hv (by simp [hw])
  · rintro ⟨v, hlive, hv⟩
    exact ⟨v, live_start.mpr (Or.inl hlive), hv⟩

/-- No work is of two kinds. -/
theorem Manned.tell_other (h : Manned kind workers handle) (h' : Manned kind' workers handle')
    (hdisjoint : ∀ w, kind w = true → kind' w = false) : Manned kind (tell workers handle') handle := by
  intro i
  rw [← h i]
  constructor
  · rintro ⟨w, hlive, hw⟩
    exact ⟨w, (live_tell.mp hlive).1, hw⟩
  · rintro ⟨w, hlive, hw⟩
    refine ⟨w, live_tell.mpr ⟨hlive, fun hother => ?_⟩, hw⟩
    -- the worker which is told to stop would be of both kinds
    obtain ⟨v, hv, hkind⟩ := (h' i).mpr hother
    obtain rfl : w = v := congrArg Prod.fst (Option.some.inj (hlive.symm.trans hv))
    exact absurd hkind (by simp [hdisjoint w hw])

/-- A post which is free has no live worker. -/
theorem Manned.free (h : Manned kind workers none) (hlive : Live workers i w) : kind w = false := by
  by_contra hw
  exact absurd ((h i).mp ⟨w, hlive, by simpa using hw⟩) (by simp)

end MyKvm.Lib
