import Mathlib.Data.List.Count

/-!
# MyKvm.Lib.Tries — a secret which may be tried a few times

Somebody who does not know a secret may guess it.  A secret is issued, then it is tried; a wrong try is counted,
the last one which is allowed ends the secret, and so does the right one.  A secret may also be dropped, or
replaced by a new one, at any time.

* `Tries.Sound`: no secret ever issued had more wrong tries than allowed, and none was tried again after the right
  one.
* `Tries.Sound.next`: every trial keeps it so.
-/

namespace MyKvm.Lib

structure Tries where
  /-- How many secrets have been issued; they are numbered from zero. -/
  issued : ℕ
  /-- How many wrong tries the last secret has had, while it can be tried. -/
  spent : Option ℕ
  /-- The tries, newest first: of which secret, and whether it was the right one. -/
  log : List (ℕ × Bool)
  deriving DecidableEq

inductive Trial where
  | issue
  | wrong
  | right
  | drop
  | pass
  deriving DecidableEq

namespace Tries

def fresh : Tries := { issued := 0, spent := none, log := [] }

def next (limit : ℕ) (t : Tries) : Trial → Tries
  | .issue => { t with issued := t.issued + 1, spent := some 0 }
  | .wrong => match t.spent with
    | some k =>
        { t with spent := if k + 1 < limit then some (k + 1) else none, log := (t.issued - 1, false) :: t.log }
    | none => t
  | .right => match t.spent with
    | some _ => { t with spent := none, log := (t.issued - 1, true) :: t.log }
    | none => t
  | .drop => { t with spent := none }
  | .pass => t

structure Sound (limit : ℕ) (t : Tries) : Prop where
  wrong : ∀ n, t.log.count (n, false) ≤ limit
  /-- Whatever was tried again had not been guessed. -/
  consumed : t.log.Pairwise fun later earlier => earlier.1 = later.1 → earlier.2 = false
  issued : ∀ entry ∈ t.log, entry.1 < t.issued
  /-- The secret which can still be tried. -/
  current : ∀ k, t.spent = some k → 0 < t.issued ∧ k < limit ∧ t.log.count (t.issued - 1, false) = k ∧
    ∀ entry ∈ t.log, entry.1 = t.issued - 1 → entry.2 = false

variable {limit : ℕ} {t : Tries}

theorem sound_fresh : Sound limit fresh where
  wrong := by simp [fresh]
  consumed := .nil
  issued := by simp [fresh]
  current := by simp [fresh]

theorem Sound.drop (h : Sound limit t) : Sound limit { t with spent := none } where
  wrong := h.wrong
  consumed := h.consumed
  issued := h.issued
  current := by simp

theorem Sound.issue (hlimit : 0 < limit) (h : Sound limit t) :
    Sound limit { t with issued := t.issued + 1, spent := some 0 } where
  wrong := h.wrong
  consumed := h.consumed
  issued := fun entry hmem => by
    have := h.issued entry hmem
    show entry.1 < t.issued + 1
    omega
  current := by
    intro k hk
    obtain rfl : 0 = k := by simpa using hk
    refine ⟨by simp, hlimit, ?_, ?_⟩
    · show t.log.count (t.issued + 1 - 1, false) = 0
      rw [List.count_eq_zero]
      intro hmem
      have := h.issued _ hmem
      simp only at this
      omega
    · intro entry hmem heq
      have := h.issued entry hmem
      simp only at heq
      omega

/-- The log after one more try of the current secret. -/
theorem Sound.tried (h : Sound limit t) {k : ℕ} (hk : t.spent = some k) (right : Bool) :
    (∀ n, ((t.issued - 1, right) :: t.log).count (n, false) ≤ limit) ∧
      ((t.issued - 1, right) :: t.log).Pairwise (fun later earlier => earlier.1 = later.1 → earlier.2 = false) ∧
      ∀ entry ∈ (t.issued - 1, right) :: t.log, entry.1 < t.issued := by
  obtain ⟨hpos, hlt, hcount, hopen⟩ := h.current k hk
  refine ⟨fun n => ?_, List.pairwise_cons.mpr ⟨?_, h.consumed⟩, ?_⟩
  · have hold := h.wrong n
    rw [List.count_cons]
    by_cases heq : ((t.issued - 1, right) == (n, false)) = true
    · have hn : t.issued - 1 = n := by simp at heq; exact heq.1
      subst hn
      rw [if_pos heq]
      omega
    · rw [if_neg heq]
      omega
  · intro entry hmem heq
    exact hopen entry hmem heq
  · intro entry hmem
    rcases List.mem_cons.mp hmem with rfl | hmem
    · show t.issued - 1 < t.issued
      omega
    · exact h.issued entry hmem

theorem Sound.wrong_next (h : Sound limit t) : Sound limit (next limit t .wrong) := by
  cases hk : t.spent with
  | none => simpa [next, hk] using h
  | some k =>
    obtain ⟨hwrong, hconsumed, hissued⟩ := h.tried hk false
    obtain ⟨hpos, _, hcount, hopen⟩ := h.current k hk
    simp only [next, hk]
    refine ⟨hwrong, hconsumed, hissued, ?_⟩
    intro j hj
    by_cases hlt : k + 1 < limit
    · obtain rfl : k + 1 = j := by simpa [hlt] using hj
      refine ⟨hpos, hlt, ?_, ?_⟩
      · rw [List.count_cons_self, hcount]
      · intro entry hmem heq
        rcases List.mem_cons.mp hmem with rfl | hmem
        · rfl
        · exact hopen entry hmem heq
    · simp [hlt] at hj

theorem Sound.right_next (h : Sound limit t) : Sound limit (next limit t .right) := by
  cases hk : t.spent with
  | none => simpa [next, hk] using h
  | some k =>
    obtain ⟨hwrong, hconsumed, hissued⟩ := h.tried hk true
    simp only [next, hk]
    exact ⟨hwrong, hconsumed, hissued, by simp⟩

theorem Sound.next (hlimit : 0 < limit) (h : Sound limit t) (trial : Trial) :
    Sound limit (t.next limit trial) := by
  cases trial with
  | issue => exact h.issue hlimit
  | wrong => exact h.wrong_next
  | right => exact h.right_next
  | drop => exact h.drop
  | pass => exact h

end Tries

end MyKvm.Lib
