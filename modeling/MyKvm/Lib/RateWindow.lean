import Mathlib.Algebra.Order.Group.Nat
import Mathlib.Data.List.Basic

/-!
# MyKvm.Lib.RateWindow — a limit in windows of fixed length

What arrives is counted in a window; the first arrival after its end starts the next one.  As long as no count
exceeds the limit, no span of the length of a window sees more than twice the limit, since it meets two windows at
most (`Windowed.admitted`).  On the other hand nothing is refused as long as no such span sees more than the limit
(`Windowed.admits`).
-/

namespace MyKvm.Lib

structure RateWindow where
  started : ℕ
  count : ℕ
  deriving DecidableEq, Repr

namespace RateWindow

/-- The window after an arrival; the counter stays at `cap` when it gets there. -/
def arrive (period cap : ℕ) (w : RateWindow) (now added : ℕ) : RateWindow :=
  let w := if period ≤ now - w.started then { started := now, count := 0 } else w
  { w with count := min (w.count + added) cap }

/-! ### Amounts -/

section Amounts

variable {p q : ℕ → Prop} [DecidablePred p] [DecidablePred q] {log more : List (ℕ × ℕ)}

/-- How much has arrived at these times, in a log of times and amounts. -/
def amount (p : ℕ → Prop) [DecidablePred p] : List (ℕ × ℕ) → ℕ
  | [] => 0
  | e :: log => (if p e.1 then e.2 else 0) + amount p log

@[simp] theorem amount_nil : amount p [] = 0 := rfl

theorem amount_cons (e : ℕ × ℕ) (log : List (ℕ × ℕ)) :
    amount p (e :: log) = (if p e.1 then e.2 else 0) + amount p log := rfl

@[simp] theorem amount_append (log more : List (ℕ × ℕ)) :
    amount p (log ++ more) = amount p log + amount p more := by
  induction log with
  | nil => simp
  | cons e log ih => rw [List.cons_append, amount_cons, amount_cons, ih, Nat.add_assoc]

@[simp] theorem amount_singleton (e : ℕ × ℕ) : amount p [e] = if p e.1 then e.2 else 0 := by simp [amount]

theorem amount_mono (h : ∀ e ∈ log, p e.1 → q e.1) : amount p log ≤ amount q log := by
  induction log with
  | nil => exact Nat.le_refl _
  | cons e log ih =>
    rw [amount_cons, amount_cons]
    refine Nat.add_le_add ?_ (ih fun e' he' => h e' (List.mem_cons_of_mem _ he'))
    by_cases hp : p e.1
    · rw [if_pos hp, if_pos (h e List.mem_cons_self hp)]
    · rw [if_neg hp]
      exact Nat.zero_le _

theorem amount_eq_zero (h : ∀ e ∈ log, ¬ p e.1) : amount p log = 0 := by
  induction log with
  | nil => rfl
  | cons e log ih =>
    rw [amount_cons, if_neg (h e List.mem_cons_self), ih fun e' he' => h e' (List.mem_cons_of_mem _ he')]

end Amounts

/-- What has arrived from a time on, for the length of a window. -/
def span (period : ℕ) (log : List (ℕ × ℕ)) (t : ℕ) : ℕ := amount (fun u => t ≤ u ∧ u < t + period) log

/-! ### The law -/

/-- The log, with the arrivals of the window at its end. -/
structure Windowed (period limit : ℕ) (now : ℕ) (w : RateWindow) (log : List (ℕ × ℕ)) : Prop where
  split : ∃ old cur, log = old ++ cur ∧ (∀ e ∈ old, e.1 ≤ w.started) ∧
    (∀ e ∈ cur, w.started ≤ e.1 ∧ e.1 < w.started + period) ∧ amount (fun _ => True) cur = w.count ∧
    ∀ t, w.started < t + period → amount (t ≤ ·) old ≤ limit
  started_le : w.started ≤ now
  count_le : w.count ≤ limit
  bounded : ∀ t, span period log t ≤ 2 * limit

variable {period limit cap now : ℕ} {w : RateWindow} {log : List (ℕ × ℕ)}

theorem windowed_nil (period limit now : ℕ) : Windowed period limit now ⟨now, 0⟩ [] :=
  ⟨⟨[], [], rfl, nofun, nofun, rfl, fun _ _ => Nat.zero_le _⟩, le_refl now, Nat.zero_le _, fun _ => Nat.zero_le _⟩

/-- Time passes. -/
theorem Windowed.later (h : Windowed period limit now w log) {now' : ℕ} (hle : now ≤ now') :
    Windowed period limit now' w log :=
  ⟨h.split, h.started_le.trans hle, h.count_le, h.bounded⟩

/-- One more arrival, when what can be seen together with it is of two windows. -/
theorem span_concat {old cur : List (ℕ × ℕ)} {added t : ℕ} (hold : now < t + period → amount (t ≤ ·) old ≤ limit)
    (hcur : amount (fun _ => True) cur + added ≤ limit) (hbounded : span period (old ++ cur) t ≤ 2 * limit) :
    span period (old ++ cur ++ [(now, added)]) t ≤ 2 * limit := by
  by_cases hin : t ≤ now ∧ now < t + period
  · have hbefore := hold hin.2
    have hfirst : span period old t ≤ amount (t ≤ ·) old := amount_mono fun _ _ hu => hu.1
    have hsecond : span period cur t ≤ amount (fun _ => True) cur := amount_mono fun _ _ _ => trivial
    unfold span at hfirst hsecond ⊢
    rw [amount_append, amount_append, amount_singleton, if_pos hin]
    omega
  · unfold span at hbounded ⊢
    rw [amount_append, amount_singleton, if_neg hin]
    exact hbounded

/-- **An arrival within the limit.** -/
theorem Windowed.admitted (h : Windowed period limit now w log) (hperiod : 0 < period)
    (hcap : limit < cap) {added : ℕ} (hle : (w.arrive period cap now added).count ≤ limit) :
    Windowed period limit now (w.arrive period cap now added) (log ++ [(now, added)]) := by
  obtain ⟨⟨old, cur, rfl, hold, hcur, htotal, hlast⟩, hstarted, hcount, hbounded⟩ := h
  unfold arrive at hle ⊢
  by_cases hreset : period ≤ now - w.started
  · rw [if_pos hreset] at hle ⊢
    dsimp only at hle ⊢
    have hadded : min (0 + added) cap = added := by omega
    rw [hadded] at hle ⊢
    -- of what came before, a span which reaches the new window sees the last one only
    have hnew : ∀ t, now < t + period → amount (t ≤ ·) (old ++ cur) ≤ limit := by
      intro t ht
      have hzero : amount (t ≤ ·) old = 0 := amount_eq_zero fun e he hte => by
        have hbefore := hold e he
        omega
      have hthis : amount (t ≤ ·) cur ≤ amount (fun _ => True) cur := amount_mono fun _ _ _ => trivial
      rw [amount_append]
      omega
    refine ⟨⟨old ++ cur, [(now, added)], rfl, ?_, ?_, by simp, hnew⟩, le_refl now, hle, ?_⟩
    · intro e he
      show e.1 ≤ now
      rcases List.mem_append.mp he with he | he
      · have hbefore := hold e he
        omega
      · have hhere := (hcur e he).2
        omega
    · intro e he
      obtain rfl := List.mem_singleton.mp he
      exact ⟨le_refl now, Nat.lt_add_of_pos_right hperiod⟩
    · intro t
      have hnext : span period (old ++ cur ++ [] ++ [(now, added)]) t ≤ 2 * limit :=
        span_concat (hnew t) (by simpa using hle) (by simpa using hbounded t)
      rwa [List.append_nil] at hnext
  · rw [if_neg hreset] at hle ⊢
    dsimp only at hle ⊢
    have hadded : min (w.count + added) cap = w.count + added := by omega
    rw [hadded] at hle ⊢
    refine ⟨⟨old, cur ++ [(now, added)], by simp, hold, ?_, by simp [htotal], hlast⟩, hstarted, hle, ?_⟩
    · intro e he
      rcases List.mem_append.mp he with he | he
      · exact hcur e he
      · obtain rfl := List.mem_singleton.mp he
        show w.started ≤ now ∧ now < w.started + period
        omega
    · intro t
      refine span_concat (fun ht => hlast t ?_) (by rw [htotal]; exact hle) (hbounded t)
      omega

/-- **Nothing is refused** while no span sees more than the limit. -/
theorem Windowed.admits (h : Windowed period limit now w log) (hperiod : 0 < period) {added : ℕ}
    (hfew : ∀ t, span period (log ++ [(now, added)]) t ≤ limit) :
    (w.arrive period cap now added).count ≤ limit := by
  obtain ⟨⟨old, cur, rfl, hold, hcur, htotal, hlast⟩, hstarted, hcount, hbounded⟩ := h
  unfold arrive
  by_cases hreset : period ≤ now - w.started
  · rw [if_pos hreset]
    have hspan := hfew now
    unfold span at hspan
    rw [amount_append, amount_singleton, if_pos ⟨le_refl now, Nat.lt_add_of_pos_right hperiod⟩] at hspan
    show min (0 + added) cap ≤ limit
    omega
  · rw [if_neg hreset]
    have hspan := hfew w.started
    have hmono : amount (fun _ => True) cur ≤ amount (fun u => w.started ≤ u ∧ u < w.started + period) cur :=
      amount_mono fun e he _ => hcur e he
    unfold span at hspan
    rw [amount_append, amount_append, amount_singleton, if_pos (by show w.started ≤ now ∧ now < _; omega)] at hspan
    show min (w.count + added) cap ≤ limit
    omega

end RateWindow

end MyKvm.Lib
