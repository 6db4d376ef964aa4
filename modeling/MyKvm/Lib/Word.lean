import Mathlib.Data.Nat.Bitwise

/-!
# MyKvm.Lib.Word — checked and saturating arithmetic on 64-bit words

The unsigned words which a program counts with, and the two ways it keeps them from wrapping: `checkedAdd` and
`checkedMul` report the overflow, `saturatingAdd` and `saturatingSub` stop at the end of the range.  All facts are
stated through `toNat`, so that `omega` closes what is left.
-/

namespace MyKvm.Lib

/-- The largest 64-bit word. -/
def u64Max : UInt64 := 18446744073709551615

@[simp] theorem u64Max_toNat : u64Max.toNat = 2 ^ 64 - 1 := rfl

theorem toNat_lt_size (v : UInt64) : v.toNat < 2 ^ 64 := v.toNat_lt

/-- Addition which reports an overflow. -/
def checkedAdd (v w : UInt64) : Option UInt64 :=
  if v.toNat + w.toNat < 2 ^ 64 then some (v + w) else none

/-- Addition which stops at the largest word. -/
def saturatingAdd (v w : UInt64) : UInt64 := (checkedAdd v w).getD u64Max

/-- Subtraction which stops at zero. -/
def saturatingSub (v w : UInt64) : UInt64 := if w ≤ v then v - w else 0

theorem toNat_add_of_lt {v w : UInt64} (h : v.toNat + w.toNat < 2 ^ 64) :
    (v + w).toNat = v.toNat + w.toNat := by
  rw [UInt64.toNat_add, Nat.mod_eq_of_lt h]

theorem checkedAdd_eq_some {v w s : UInt64} : checkedAdd v w = some s ↔ v.toNat + w.toNat = s.toNat := by
  unfold checkedAdd
  split_ifs with h
  · rw [Option.some.injEq, ← UInt64.toNat_inj, toNat_add_of_lt h]
  · refine ⟨fun hnone => absurd hnone (by simp), fun heq => ?_⟩
    have := toNat_lt_size s
    omega

theorem checkedAdd_eq_none {v w : UInt64} : checkedAdd v w = none ↔ 2 ^ 64 ≤ v.toNat + w.toNat := by
  unfold checkedAdd
  split_ifs with h
  · exact ⟨fun hsome => absurd hsome (by simp), fun hle => absurd h (by omega)⟩
  · exact ⟨fun _ => by omega, fun _ => rfl⟩

/-- Multiplication which reports an overflow. -/
def checkedMul (v w : UInt64) : Option UInt64 :=
  if v.toNat * w.toNat < 2 ^ 64 then some (v * w) else none

theorem checkedMul_eq_some {v w p : UInt64} : checkedMul v w = some p ↔ v.toNat * w.toNat = p.toNat := by
  unfold checkedMul
  split_ifs with h
  · rw [Option.some.injEq, ← UInt64.toNat_inj, UInt64.toNat_mul, Nat.mod_eq_of_lt h]
  · refine ⟨fun hnone => absurd hnone (by simp), fun heq => ?_⟩
    have := toNat_lt_size p
    omega

theorem checkedMul_eq_none {v w : UInt64} : checkedMul v w = none ↔ 2 ^ 64 ≤ v.toNat * w.toNat := by
  unfold checkedMul
  split_ifs with h
  · exact ⟨fun hsome => absurd hsome (by simp), fun hle => absurd h (by omega)⟩
  · exact ⟨fun _ => by omega, fun _ => rfl⟩

/-- Every word but the last one has a successor. -/
theorem exists_checkedAdd_one {v : UInt64} (h : v ≠ u64Max) : ∃ next, checkedAdd v 1 = some next := by
  cases hadd : checkedAdd v 1 with
  | some next => exact ⟨next, rfl⟩
  | none =>
    have hbig := checkedAdd_eq_none.mp hadd
    have hbound := toNat_lt_size v
    have hone : (1 : UInt64).toNat = 1 := rfl
    refine absurd (UInt64.toNat_inj.mp ?_) h
    rw [u64Max_toNat]
    omega

theorem saturatingSub_toNat (v w : UInt64) : (saturatingSub v w).toNat = v.toNat - w.toNat := by
  unfold saturatingSub
  by_cases h : w ≤ v
  · rw [if_pos h]
    exact UInt64.toNat_sub_of_le v w h
  · have hlt : v.toNat < w.toNat := UInt64.lt_iff_toNat_lt.mp (UInt64.not_le.mp h)
    have hzero : (0 : UInt64).toNat = 0 := rfl
    rw [if_neg h]
    omega

theorem saturatingAdd_toNat (v w : UInt64) :
    (saturatingAdd v w).toNat = min (v.toNat + w.toNat) (2 ^ 64 - 1) := by
  unfold saturatingAdd
  cases h : checkedAdd v w with
  | none =>
    have := checkedAdd_eq_none.mp h
    rw [Option.getD_none, u64Max_toNat]
    omega
  | some s =>
    have := checkedAdd_eq_some.mp h
    have := toNat_lt_size s
    rw [Option.getD_some]
    omega

/-- Short of the end, one more is one more. -/
theorem saturatingAdd_one_toNat {v : UInt64} (h : v ≠ u64Max) : (saturatingAdd v 1).toNat = v.toNat + 1 := by
  obtain ⟨w, hw⟩ := exists_checkedAdd_one h
  have hsum := checkedAdd_eq_some.mp hw
  have hbound := toNat_lt_size w
  have hone : (1 : UInt64).toNat = 1 := rfl
  rw [saturatingAdd_toNat]
  omega

/-- Whatever is added to one, the sum is not zero. -/
theorem saturatingAdd_one_ne_zero (v : UInt64) : saturatingAdd v 1 ≠ 0 := by
  intro h
  have hzero : (saturatingAdd v 1).toNat = 0 := congrArg UInt64.toNat h
  have hone : (1 : UInt64).toNat = 1 := rfl
  rw [saturatingAdd_toNat] at hzero
  omega

theorem le_saturatingAdd_one (v : UInt64) : v.toNat ≤ (saturatingAdd v 1).toNat := by
  have hone : (1 : UInt64).toNat = 1 := rfl
  have hbound := toNat_lt_size v
  rw [saturatingAdd_toNat]
  omega

theorem max_toNat (a b : UInt64) : (max a b).toNat = max a.toNat b.toNat := by
  show (if a ≤ b then b else a).toNat = max a.toNat b.toNat
  split
  · rename_i hle
    exact (Nat.max_eq_right hle).symm
  · rename_i hle
    exact (Nat.max_eq_left (Nat.le_of_lt (UInt64.not_le.mp hle))).symm

/-! ### The greatest word of a list -/

theorem max_eq_or (a b : UInt64) : max a b = a ∨ max a b = b := by
  show (if a ≤ b then b else a) = a ∨ (if a ≤ b then b else a) = b
  by_cases hle : a ≤ b
  · exact .inr (if_pos hle)
  · exact .inl (if_neg hle)

theorem le_foldl_max (words : List UInt64) (start : UInt64) :
    start.toNat ≤ (words.foldl max start).toNat ∧ ∀ v ∈ words, v.toNat ≤ (words.foldl max start).toNat := by
  induction words generalizing start with
  | nil => exact ⟨le_rfl, by simp⟩
  | cons w words ih =>
    obtain ⟨hstart, hrest⟩ := ih (max start w)
    rw [max_toNat] at hstart
    rw [List.foldl_cons]
    refine ⟨by omega, fun v hv => ?_⟩
    rcases List.mem_cons.mp hv with rfl | hv
    · omega
    · exact hrest v hv

theorem foldl_max_mem (words : List UInt64) (start : UInt64) : words.foldl max start ∈ start :: words := by
  induction words generalizing start with
  | nil => simp
  | cons w words ih =>
    rw [List.foldl_cons]
    have hmem := ih (max start w)
    rcases List.mem_cons.mp hmem with heq | hrest
    · rw [heq]
      rcases max_eq_or start w with h | h
      · simp [h]
      · simp [h]
    · simp [hrest]

/-- Nothing in the list is greater than its greatest word. -/
theorem le_max?_getD {words : List UInt64} {v : UInt64} (h : v ∈ words) (fallback : UInt64) :
    v.toNat ≤ (words.max?.getD fallback).toNat := by
  cases words with
  | nil => simp at h
  | cons w words =>
    obtain ⟨hfirst, hrest⟩ := le_foldl_max words w
    rw [List.max?_cons', Option.getD_some]
    rcases List.mem_cons.mp h with rfl | h
    · exact hfirst
    · exact hrest v h

/-- The greatest word is in the list, if there is one. -/
theorem max?_getD_mem (words : List UInt64) (fallback : UInt64) :
    words.max?.getD fallback ∈ words ∨ words.max?.getD fallback = fallback := by
  cases words with
  | nil => exact .inr rfl
  | cons w words =>
    rw [List.max?_cons', Option.getD_some]
    exact .inl (foldl_max_mem words w)

/-! ### The lowest bit -/

/-- Setting the lowest bit makes the number odd and keeps its half. -/
theorem or_one_toNat (v : UInt64) : (v ||| 1).toNat = 2 * (v.toNat / 2) + 1 := by
  rw [UInt64.toNat_or]
  apply Nat.eq_of_testBit_eq
  intro i
  cases i with
  | zero => simp [Nat.testBit_zero]
  | succ i =>
    have hbit : (1 : Nat).testBit (i + 1) = false := by simp [Nat.testBit_succ]
    rw [Nat.testBit_or, show (1 : UInt64).toNat = 1 from rfl, hbit, Bool.or_false, Nat.testBit_succ,
      Nat.testBit_succ, show (2 * (v.toNat / 2) + 1) / 2 = v.toNat / 2 by omega]

/-- Clearing the lowest bit makes the number even and keeps its half. -/
theorem and_not_one_toNat (v : UInt64) : (v &&& ~~~1).toNat = 2 * (v.toNat / 2) := by
  have hmask : (~~~(1 : UInt64)).toNat = 2 * (2 ^ 63 - 1) := rfl
  rw [UInt64.toNat_and, hmask]
  apply Nat.eq_of_testBit_eq
  intro i
  have hv : v.toNat < 2 ^ 64 := v.toNat_lt
  cases i with
  | zero => simp [Nat.testBit_zero]
  | succ i =>
    rw [Nat.testBit_and, Nat.testBit_succ, Nat.testBit_succ, Nat.testBit_succ,
      Nat.mul_div_cancel_left _ (by decide), Nat.mul_div_cancel_left _ (by decide), Nat.testBit_two_pow_sub_one]
    by_cases hi : i < 63
    · simp [hi]
    · have hbig : v.toNat / 2 < 2 ^ i := by
        calc v.toNat / 2 < 2 ^ 63 := by omega
          _ ≤ 2 ^ i := Nat.pow_le_pow_right (by decide) (by omega)
      simp [hi, Nat.testBit_lt_two_pow hbig]

theorem and_one_toNat (v : UInt64) : (v &&& 1).toNat = v.toNat % 2 := by
  rw [UInt64.toNat_and, show (1 : UInt64).toNat = 1 from rfl, Nat.and_one_is_mod]

/-- The test of the lowest bit. -/
theorem and_one_ne_zero (v : UInt64) : (v &&& 1 != 0) = decide (v.toNat % 2 = 1) := by
  have h : v &&& 1 ≠ 0 ↔ v.toNat % 2 = 1 := by
    rw [ne_eq, ← UInt64.toNat_inj, and_one_toNat, UInt64.toNat_zero]
    omega
  rw [Bool.eq_iff_iff, bne_iff_ne, decide_eq_true_eq, h]

end MyKvm.Lib
