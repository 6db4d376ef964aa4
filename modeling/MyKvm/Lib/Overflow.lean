import Mathlib.Algebra.Ring.Int.Defs
import Mathlib.Tactic.SplitIfs

/-!
# MyKvm.Lib.Overflow — signed arithmetic which reports an overflow

The operations of a signed word, each with an answer only if the result is a word again.  A program written with
them has an answer exactly if none of its steps overflows, and then every step computes what it computes in ℤ; the
operations which wrap agree with them there.
-/

namespace MyKvm.Lib

/-- A number as a 32-bit word. -/
def fit32 (v : ℤ) : Option Int32 := if -2 ^ 31 ≤ v ∧ v < 2 ^ 31 then some (.ofInt v) else none

/-- A number as a 64-bit word. -/
def fit64 (v : ℤ) : Option Int64 := if -2 ^ 63 ≤ v ∧ v < 2 ^ 63 then some (.ofInt v) else none

theorem fit32_eq_some {v : ℤ} {r : Int32} : fit32 v = some r ↔ r.toInt = v := by
  unfold fit32
  split_ifs with h
  · have hvalue := Int32.toInt_ofInt_of_le h.1 h.2
    rw [Option.some.injEq, ← Int32.toInt_inj, hvalue, eq_comm]
  · have hlow := r.le_toInt
    have hhigh := r.toInt_lt
    refine ⟨fun hnone => (by cases hnone), fun heq => absurd ?_ h⟩
    omega

theorem exists_fit32 {v : ℤ} (hlow : -2 ^ 31 ≤ v) (hhigh : v < 2 ^ 31) : ∃ r, fit32 v = some r ∧ r.toInt = v :=
  ⟨.ofInt v, if_pos ⟨hlow, hhigh⟩, Int32.toInt_ofInt_of_le hlow hhigh⟩

theorem fit32_eq_none {v : ℤ} : fit32 v = none ↔ v < -2 ^ 31 ∨ 2 ^ 31 ≤ v := by
  unfold fit32
  split_ifs with h
  · simp
    omega
  · simp
    omega

theorem exists_fit64 {v : ℤ} (hlow : -2 ^ 63 ≤ v) (hhigh : v < 2 ^ 63) : ∃ r, fit64 v = some r ∧ r.toInt = v :=
  ⟨.ofInt v, if_pos ⟨hlow, hhigh⟩, Int64.toInt_ofInt_of_le hlow hhigh⟩

def add32 (a b : Int32) : Option Int32 := fit32 (a.toInt + b.toInt)
def sub32 (a b : Int32) : Option Int32 := fit32 (a.toInt - b.toInt)
def abs32 (a : Int32) : Option Int32 := fit32 a.toInt.natAbs
def add64 (a b : Int64) : Option Int64 := fit64 (a.toInt + b.toInt)
def mul64 (a b : Int64) : Option Int64 := fit64 (a.toInt * b.toInt)

theorem sub32_eq_some {a b r : Int32} : sub32 a b = some r ↔ r.toInt = a.toInt - b.toInt := fit32_eq_some

theorem sub32_eq_none {a b : Int32} :
    sub32 a b = none ↔ a.toInt - b.toInt < -2 ^ 31 ∨ 2 ^ 31 ≤ a.toInt - b.toInt := fit32_eq_none

theorem abs32_eq_some {a r : Int32} : abs32 a = some r ↔ r.toInt = a.toInt.natAbs := fit32_eq_some

/-- The least word has no absolute value. -/
theorem abs32_eq_none {a : Int32} : abs32 a = none ↔ a.toInt = -2 ^ 31 := by
  have hlow := a.le_toInt
  have hhigh := a.toInt_lt
  refine fit32_eq_none.trans ?_
  omega

/-- Where it is a word, the sum is that of the operation which wraps. -/
theorem add32_eq {a b : Int32} (hlow : -2 ^ 31 ≤ a.toInt + b.toInt) (hhigh : a.toInt + b.toInt < 2 ^ 31) :
    add32 a b = some (a + b) := by
  refine fit32_eq_some.mpr ?_
  rw [Int32.toInt_add]
  exact Int.bmod_eq_of_le (by omega) (by omega)

theorem sub32_eq {a b : Int32} (hlow : -2 ^ 31 ≤ a.toInt - b.toInt) (hhigh : a.toInt - b.toInt < 2 ^ 31) :
    sub32 a b = some (a - b) := by
  refine fit32_eq_some.mpr ?_
  rw [Int32.toInt_sub]
  exact Int.bmod_eq_of_le (by omega) (by omega)

/-- There is no quotient by zero either. -/
def div64 (a b : Int64) : Option Int64 := if b.toInt = 0 then none else fit64 (a.toInt.tdiv b.toInt)

/-- `i32::try_from` -/
def narrow (a : Int64) : Option Int32 := fit32 a.toInt

end MyKvm.Lib
