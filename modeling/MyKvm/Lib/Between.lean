import Mathlib.Data.List.TakeWhile

/-!
# MyKvm.Lib.Between — how often something happens between two marks

A log is read newest first.  `since mark log` are its entries after the newest mark, and `Sparse mark p log` says
that no stretch without a mark holds two entries with `p`.  A log which grows stays sparse as long as the stretch
at its end does (`Sparse.append`, `Sparse.cons_mark`).
-/

namespace MyKvm.Lib.Between

variable {α : Type*} {mark p : α → Bool}

/-- The entries after the newest mark. -/
def since (mark : α → Bool) (log : List α) : List α := log.takeWhile (! mark ·)

/-- Between two marks, and before the first and after the last one, `p` holds once at most. -/
def Sparse (mark p : α → Bool) (log : List α) : Prop :=
  ∀ recent mid old, log = recent ++ mid ++ old → (∀ e ∈ mid, mark e = false) → mid.countP p ≤ 1

theorem since_cons_of_mark {e : α} (h : mark e = true) (log : List α) : since mark (e :: log) = [] := by
  simp [since, h]

theorem since_append_of_none {recent : List α} (h : ∀ e ∈ recent, mark e = false) (log : List α) :
    since mark (recent ++ log) = recent ++ since mark log :=
  List.takeWhile_append_of_pos fun e he => by simp [h e he]

/-- The stretch which ends with the mark `e`. -/
theorem since_append_mark {recent : List α} (h : ∀ e ∈ recent, mark e = false) {e : α} (he : mark e = true)
    (old : List α) : since mark (recent ++ e :: old) = recent := by
  rw [since_append_of_none h, since_cons_of_mark he, List.append_nil]

/-- A stretch without a mark at the end of the log is part of the last one. -/
theorem prefix_since {mid old : List α} (h : ∀ e ∈ mid, mark e = false) : mid <+: since mark (mid ++ old) := by
  rw [since_append_of_none h]
  exact List.prefix_append _ _

theorem sparse_nil : Sparse mark p [] := by
  intro recent mid old h _
  have hnil : mid = [] := by
    have happ := List.append_eq_nil_iff.mp h.symm
    exact (List.append_eq_nil_iff.mp happ.1).2
  rw [hnil]
  exact Nat.zero_le _

theorem Sparse.since_le {log : List α} (h : Sparse mark p log) : (since mark log).countP p ≤ 1 := by
  refine h [] (since mark log) (log.dropWhile (! mark ·)) ?_ ?_
  · rw [List.nil_append, since, List.takeWhile_append_dropWhile]
  · intro e he
    simpa using List.mem_takeWhile_imp he

theorem Sparse.cons {log : List α} (h : Sparse mark p log) {e : α}
    (hcount : (since mark (e :: log)).countP p ≤ 1) :
    Sparse mark p (e :: log) := by
  intro recent mid old hlog hmid
  cases recent with
  | cons e' recent =>
    rw [List.cons_append, List.cons_append] at hlog
    exact h recent mid old (List.cons.inj hlog).2 hmid
  | nil =>
    rw [List.nil_append] at hlog
    have hshort : mid <+: since mark (mid ++ old) := prefix_since hmid
    rw [← hlog] at hshort
    exact Nat.le_trans (hshort.sublist.countP_le) hcount

/-- **A mark starts a new stretch.** -/
theorem Sparse.cons_mark {log : List α} (h : Sparse mark p log) {e : α} (he : mark e = true) :
    Sparse mark p (e :: log) :=
  h.cons (by rw [since_cons_of_mark he]; exact Nat.zero_le _)

/-- **A stretch goes on.** -/
theorem Sparse.append {log recent : List α} (h : Sparse mark p log) (hnone : ∀ e ∈ recent, mark e = false)
    (hcount : recent.countP p + (since mark log).countP p ≤ 1) : Sparse mark p (recent ++ log) := by
  induction recent with
  | nil => exact h
  | cons e recent ih =>
    have hrest : ∀ other ∈ recent, mark other = false :=
      fun other hother => hnone other (List.mem_cons_of_mem _ hother)
    have hall : (since mark (e :: (recent ++ log))).countP p ≤ 1 := by
      rw [← List.cons_append, since_append_of_none hnone, List.countP_append]
      exact hcount
    have hless : recent.countP p ≤ (e :: recent).countP p := (List.sublist_cons_self e recent).countP_le
    exact (ih hrest (by omega)).cons hall

/-- A stretch goes on without `p`. -/
theorem Sparse.append_of_none {log recent : List α} (h : Sparse mark p log) (hnone : ∀ e ∈ recent, mark e = false)
    (hcount : recent.countP p = 0) : Sparse mark p (recent ++ log) := by
  have hsince := h.since_le
  exact h.append hnone (by omega)

theorem Sparse.cons_of_none {log : List α} (h : Sparse mark p log) {e : α} (hmark : mark e = false)
    (hp : p e = false) :
    Sparse mark p (e :: log) := by
  have hnone : ∀ e' ∈ [e], mark e' = false := by simpa using hmark
  exact h.append_of_none hnone (by simp [hp])

end MyKvm.Lib.Between
