import Mathlib.Algebra.Order.Floor.Ring
import Mathlib.Algebra.Order.Ring.Rat
import Mathlib.Data.Rat.Floor

/-!
# MyKvm.Lib.Coordinate — the numbers of a pointer

A pointer moves in fractions and is told to others in whole pixels.  `Coordinate F` asks of the fractions what
every number format with an order has: the pixels are among them, in their order, and rounding keeps the order and
leaves the pixels alone.  Nothing is asked of the arithmetic, whose results a format may round as it likes.

* `clamp_mem`: what is clamped lies between the bounds.
* `round_mem`: a coordinate between two pixels is rounded to a pixel between them.
-/

namespace MyKvm.Lib

class Coordinate (F : Type) extends LinearOrder F, Add F, Sub F, Mul F, Div F, Neg F where
  ofInt32 : Int32 → F
  /-- The nearest pixel; half a pixel is rounded away from zero, and the last pixel stands for all beyond it. -/
  round : F → Int32
  ofInt32_le {m n : Int32} : ofInt32 m ≤ ofInt32 n ↔ m ≤ n
  round_mono {x y : F} : x ≤ y → round x ≤ round y
  round_ofInt32 (n : Int32) : round (ofInt32 n) = n

namespace Coordinate

section

variable {F : Type} [Coordinate F]

/-- The coordinate, kept between the bounds. -/
def clamp (x lo hi : F) : F := if x < lo then lo else if hi < x then hi else x

def abs (x : F) : F := max x (-x)

theorem clamp_mem {lo hi : F} (h : lo ≤ hi) (x : F) : lo ≤ clamp x lo hi ∧ clamp x lo hi ≤ hi := by
  unfold clamp
  split_ifs with hlo hhi
  · exact ⟨le_refl lo, h⟩
  · exact ⟨h, le_refl hi⟩
  · exact ⟨not_lt.mp hlo, not_lt.mp hhi⟩

theorem round_mem {x : F} {m n : Int32} (h : ofInt32 m ≤ x ∧ x ≤ ofInt32 n) : m ≤ round x ∧ round x ≤ n := by
  have hlo := round_mono h.1
  have hhi := round_mono h.2
  rw [round_ofInt32] at hlo hhi
  exact ⟨hlo, hhi⟩

end

/-! ### Exact coordinates -/

/-- The nearest pixel, for coordinates of any size. -/
def nearest (x : ℚ) : ℤ := if 0 ≤ x then ⌊x + 1 / 2⌋ else ⌈x - 1 / 2⌉

/-- The pixel, or the last one before it. -/
def saturate (n : ℤ) : Int32 := Int32.ofInt (max Int32.minValue.toInt (min n Int32.maxValue.toInt))

theorem saturate_toInt (n : ℤ) : (saturate n).toInt = max Int32.minValue.toInt (min n Int32.maxValue.toInt) := by
  have hmin : Int32.minValue.toInt = -2147483648 := rfl
  have hmax : Int32.maxValue.toInt = 2147483647 := rfl
  rw [saturate, Int32.toInt_ofInt_of_le] <;> omega

theorem nearest_intCast (n : ℤ) : nearest n = n := by
  unfold nearest
  split
  · refine Int.floor_eq_iff.mpr ⟨?_, ?_⟩ <;> linarith
  · refine Int.ceil_eq_iff.mpr ⟨?_, ?_⟩ <;> linarith

theorem nearest_mono {x y : ℚ} (h : x ≤ y) : nearest x ≤ nearest y := by
  unfold nearest
  split_ifs with hx hy hy
  · exact Int.floor_mono (by linarith)
  · linarith
  · have hneg : ⌈x - 1 / 2⌉ ≤ 0 := Int.ceil_le.mpr (by push_cast; linarith)
    have hpos : 0 ≤ ⌊y + 1 / 2⌋ := Int.floor_nonneg.mpr (by linarith)
    exact hneg.trans hpos
  · exact Int.ceil_mono (by linarith)

instance : Coordinate ℚ where
  ofInt32 n := n.toInt
  round x := saturate (nearest x)
  ofInt32_le := by
    intro m n
    rw [Int.cast_le, Int32.le_iff_toInt_le]
  round_mono := by
    intro x y h
    have hmono := nearest_mono h
    rw [Int32.le_iff_toInt_le, saturate_toInt, saturate_toInt]
    omega
  round_ofInt32 := by
    intro n
    have hlow := n.le_toInt
    have hhigh := n.toInt_lt
    have hmin : Int32.minValue.toInt = -2147483648 := rfl
    have hmax : Int32.maxValue.toInt = 2147483647 := rfl
    rw [← Int32.toInt_inj, saturate_toInt, nearest_intCast]
    omega

example : Coordinate.round (-5 / 2 : ℚ) = -3 := by decide +kernel

end Coordinate

end MyKvm.Lib
