import MyKvm.Lib.Overflow
import MyKvm.Receiver.Mapping

/-!
# MyKvm.Receiver.Scaling — the mapping of a display keeps to the display

The mapping once more, with every operation of it reporting an overflow (`mapAxisChecked`); it has an answer
wherever the native display ends within the words, and then it is the answer of `mapAxis`.

* `scale_nonneg`, `scale_le`, `scale_mono`, `scale_last`: the quotient which an axis is moved by.
* `mapAxis_spec`: one axis.
* `map_within_display`: the result.
-/

namespace MyKvm.Receiver

open MyKvm.Lib MyKvm.Protocol

/-! ### The quotient -/

section Scale

/-- How far a point `v` of `n` is on an axis of `m`. -/
def scale (v n m : ℤ) : ℤ := (v * (m - 1)).tdiv (n - 1)

variable {v w n m : ℤ}

@[simp] theorem scale_zero : scale 0 n m = 0 := by simp [scale]

theorem scale_eq (hv : 0 ≤ v) (hm : 1 ≤ m) : scale v n m = v * (m - 1) / (n - 1) :=
  Int.tdiv_eq_ediv_of_nonneg (Int.mul_nonneg hv (by omega))

theorem scale_nonneg (hv : 0 ≤ v) (hvn : v < n) (hm : 1 ≤ m) : 0 ≤ scale v n m := by
  rw [scale_eq hv hm]
  exact Int.ediv_nonneg (Int.mul_nonneg hv (by omega)) (by omega)

theorem scale_mono (hv : 0 ≤ v) (hvw : v ≤ w) (hwn : w < n) (hm : 1 ≤ m) : scale v n m ≤ scale w n m := by
  by_cases hn : n = 1
  · obtain rfl : v = w := by omega
    exact Int.le_refl _
  · rw [scale_eq hv hm, scale_eq (Int.le_trans hv hvw) hm]
    exact Int.ediv_le_ediv (by omega) (Int.mul_le_mul_of_nonneg_right hvw (by omega))

/-- The far end goes to the far end. -/
theorem scale_last (hn : 1 < n) : scale (n - 1) n m = m - 1 := Int.mul_tdiv_cancel_left (m - 1) (by omega)

theorem scale_le (hv : 0 ≤ v) (hvn : v < n) (hm : 1 ≤ m) : scale v n m ≤ m - 1 := by
  by_cases hn : n = 1
  · obtain rfl : v = 0 := by omega
    simp
    omega
  · calc scale v n m ≤ scale (n - 1) n m := scale_mono hv (by omega) (by omega) hm
      _ = m - 1 := scale_last (by omega)

end Scale

/-! ### One axis -/

/-- `map_axis` with every step reported; the conversion at the end has no answer
where the code takes `i32::MAX`. -/
def mapAxisChecked (value logicalSize nativeOrigin nativeSize : Int32) : Option Int32 :=
  if logicalSize ≤ 1 ∨ nativeSize ≤ 1 then some nativeOrigin
  else do
    let nativeSteps ← sub32 nativeSize 1
    let product ← mul64 value.toInt64 nativeSteps.toInt64
    let logicalSteps ← sub32 logicalSize 1
    let offset ← div64 product logicalSteps.toInt64
    let sum ← add64 nativeOrigin.toInt64 offset
    narrow sum

/-- The axis is a point of it, and the native part ends within the words. -/
structure AxisFits (value logicalSize nativeOrigin nativeSize : Int32) : Prop where
  nonneg : 0 ≤ value.toInt
  below : value.toInt < logicalSize.toInt
  native : 0 < nativeSize.toInt
  ends : nativeOrigin.toInt + nativeSize.toInt ≤ 2 ^ 31

variable {value logicalSize nativeOrigin nativeSize : Int32}

theorem clampI32_toInt {v : ℤ} (hlow : -2 ^ 31 ≤ v) (hhigh : v < 2 ^ 31) : (clampI32 v).toInt = v := by
  have hmin : Int32.minValue.toInt = -2 ^ 31 := rfl
  have hmax : Int32.maxValue.toInt = 2 ^ 31 - 1 := rfl
  unfold clampI32
  rw [hmin, hmax, if_pos ⟨hlow, by omega⟩]
  exact Int32.toInt_ofInt_of_le hlow hhigh

/-- Where the point goes on the axis. -/
theorem mapAxis_toInt (h : AxisFits value logicalSize nativeOrigin nativeSize) :
    (mapAxis value logicalSize nativeOrigin nativeSize).toInt =
      nativeOrigin.toInt + scale value.toInt logicalSize.toInt nativeSize.toInt := by
  have hone : (1 : Int32).toInt = 1 := rfl
  obtain ⟨hnonneg, hbelow, hnative, hends⟩ := h
  have hlow := scale_nonneg (m := nativeSize.toInt) hnonneg hbelow (by omega)
  have hhigh := scale_le (m := nativeSize.toInt) hnonneg hbelow (by omega)
  have horigin := nativeOrigin.le_toInt
  unfold mapAxis
  by_cases hsmall : logicalSize ≤ 1 ∨ nativeSize ≤ 1
  · rw [if_pos hsmall]
    rw [Int32.le_iff_toInt_le, Int32.le_iff_toInt_le, hone] at hsmall
    rcases hsmall with hlogical | hsize
    · obtain hzero : value.toInt = 0 := by omega
      rw [hzero]
      simp
    · omega
  · rw [if_neg hsmall]
    show (clampI32 (nativeOrigin.toInt + scale value.toInt logicalSize.toInt nativeSize.toInt)).toInt = _
    exact clampI32_toInt (by omega) (by omega)

/-- **No step of the axis overflows.** -/
theorem mapAxisChecked_eq (h : AxisFits value logicalSize nativeOrigin nativeSize) :
    mapAxisChecked value logicalSize nativeOrigin nativeSize =
      some (mapAxis value logicalSize nativeOrigin nativeSize) := by
  have hone : (1 : Int32).toInt = 1 := rfl
  have hresult := mapAxis_toInt h
  obtain ⟨hnonneg, hbelow, hnative, hends⟩ := h
  have hlow := scale_nonneg (m := nativeSize.toInt) hnonneg hbelow (by omega)
  have hhigh := scale_le (m := nativeSize.toInt) hnonneg hbelow (by omega)
  have horigin := nativeOrigin.le_toInt
  have hlogical := logicalSize.toInt_lt
  have hsize := nativeSize.toInt_lt
  by_cases hsmall : logicalSize ≤ 1 ∨ nativeSize ≤ 1
  · unfold mapAxisChecked mapAxis
    rw [if_pos hsmall, if_pos hsmall]
  · unfold mapAxisChecked
    rw [if_neg hsmall]
    rw [Int32.le_iff_toInt_le, Int32.le_iff_toInt_le, hone] at hsmall
    obtain ⟨nativeSteps, hsteps, hstepsValue⟩ := exists_fit32 (v := nativeSize.toInt - 1) (by omega) (by omega)
    obtain ⟨logicalSteps, hlast, hlastValue⟩ := exists_fit32 (v := logicalSize.toInt - 1) (by omega) (by omega)
    have hproductLow : 0 ≤ value.toInt * (nativeSize.toInt - 1) := Int.mul_nonneg hnonneg (by omega)
    have hproductHigh : value.toInt * (nativeSize.toInt - 1) ≤ 2 ^ 31 * 2 ^ 31 :=
      Int.mul_le_mul (by omega) (by omega) (by omega) (by omega)
    obtain ⟨product, hproduct, hproductValue⟩ :=
      exists_fit64 (v := value.toInt * (nativeSize.toInt - 1)) (by omega) (by omega)
    obtain ⟨offset, hoffset, hoffsetValue⟩ :=
      exists_fit64 (v := scale value.toInt logicalSize.toInt nativeSize.toInt) (by omega) (by omega)
    obtain ⟨sum, hsum, hsumValue⟩ :=
      exists_fit64 (v := nativeOrigin.toInt + scale value.toInt logicalSize.toInt nativeSize.toInt)
        (by omega) (by omega)
    have hdiv : div64 product logicalSteps.toInt64 = some offset := by
      unfold div64
      rw [Int32.toInt_toInt64, hlastValue, hproductValue, if_neg (by omega)]
      exact hoffset
    have hadd : add64 nativeOrigin.toInt64 offset = some sum := by
      unfold add64
      rw [Int32.toInt_toInt64, hoffsetValue]
      exact hsum
    have hmul : mul64 value.toInt64 nativeSteps.toInt64 = some product := by
      unfold mul64
      rw [Int32.toInt_toInt64, Int32.toInt_toInt64, hstepsValue]
      exact hproduct
    have hnarrow : narrow sum = some (mapAxis value logicalSize nativeOrigin nativeSize) := by
      unfold narrow
      rw [hsumValue]
      exact fit32_eq_some.mpr hresult
    unfold sub32
    rw [hone, hsteps, hlast]
    simp only [Option.bind_eq_bind, Option.bind_some, hmul, hdiv, hadd, hnarrow]

/-! ### The display -/

namespace ReceiverDisplayLayout

/-- The layout maps points at all. -/
structure Usable (l : ReceiverDisplayLayout) : Prop where
  revision : l.layoutRevision ≠ 0
  logicalWidth : 0 < l.logicalWidth.toInt
  logicalHeight : 0 < l.logicalHeight.toInt
  nativeWidth : 0 < l.nativeWidth.toInt
  nativeHeight : 0 < l.nativeHeight.toInt

/-- The last native point is a point. -/
structure EndsWithin (l : ReceiverDisplayLayout) : Prop where
  x : l.nativeX.toInt + (l.nativeWidth.toInt - 1) ≤ Int32.maxValue.toInt
  y : l.nativeY.toInt + (l.nativeHeight.toInt - 1) ≤ Int32.maxValue.toInt

/-- The point is one of the logical display. -/
structure Contains (l : ReceiverDisplayLayout) (x y : Int32) : Prop where
  left : 0 ≤ x.toInt
  right : x.toInt < l.logicalWidth.toInt
  top : 0 ≤ y.toInt
  bottom : y.toInt < l.logicalHeight.toInt

/-- The mapping with every step reported. -/
def mapChecked (l : ReceiverDisplayLayout) (x y : Int32) : Option (Int32 × Int32) := do
  let px ← mapAxisChecked x l.logicalWidth l.nativeX l.nativeWidth
  let py ← mapAxisChecked y l.logicalHeight l.nativeY l.nativeHeight
  some (px, py)

variable {l : ReceiverDisplayLayout} {x y : Int32}

/-- **What is rejected**: exactly what is not a point of a usable layout. -/
theorem map_eq (l : ReceiverDisplayLayout) (x y : Int32) :
    (l.Usable ∧ l.Contains x y → l.map x y =
        .ok (mapAxis x l.logicalWidth l.nativeX l.nativeWidth,
          mapAxis y l.logicalHeight l.nativeY l.nativeHeight)) ∧
      (¬ (l.Usable ∧ l.Contains x y) → l.map x y = .error (.invalidField "coordinates")) := by
  have hzero : (0 : Int32).toInt = 0 := rfl
  unfold map
  simp only [Int32.le_iff_toInt_le, Int32.lt_iff_toInt_lt, hzero]
  constructor
  · rintro ⟨husable, hcontains⟩
    obtain ⟨hrevision, hlw, hlh, hnw, hnh⟩ := husable
    obtain ⟨hleft, hright, htop, hbottom⟩ := hcontains
    refine if_neg ?_
    rintro (h | h | h | h | h | h | h | h | h)
    · exact hrevision h
    all_goals omega
  · intro hrefused
    refine if_pos ?_
    by_contra hgood
    simp only [not_or, Int.not_le, Int.not_lt] at hgood
    obtain ⟨hrevision, hlw, hlh, hnw, hnh, hleft, htop, hright, hbottom⟩ := hgood
    exact hrefused ⟨⟨hrevision, hlw, hlh, hnw, hnh⟩, ⟨hleft, hright, htop, hbottom⟩⟩

theorem fitsX (husable : l.Usable) (hends : l.EndsWithin) (hcontains : l.Contains x y) :
    AxisFits x l.logicalWidth l.nativeX l.nativeWidth := by
  have hmax : Int32.maxValue.toInt = 2 ^ 31 - 1 := rfl
  have hend := hends.x
  exact ⟨hcontains.left, hcontains.right, husable.nativeWidth, by omega⟩

theorem fitsY (husable : l.Usable) (hends : l.EndsWithin) (hcontains : l.Contains x y) :
    AxisFits y l.logicalHeight l.nativeY l.nativeHeight := by
  have hmax : Int32.maxValue.toInt = 2 ^ 31 - 1 := rfl
  have hend := hends.y
  exact ⟨hcontains.top, hcontains.bottom, husable.nativeHeight, by omega⟩

end ReceiverDisplayLayout

open ReceiverDisplayLayout

/-- The point is one of the axis. -/
theorem mapAxis_within (h : AxisFits value logicalSize nativeOrigin nativeSize) :
    let p := (mapAxis value logicalSize nativeOrigin nativeSize).toInt
    nativeOrigin.toInt ≤ p ∧ p ≤ nativeOrigin.toInt + nativeSize.toInt - 1 := by
  intro p
  have hp : p = _ := mapAxis_toInt h
  have hlow := scale_nonneg (m := nativeSize.toInt) h.nonneg h.below h.native
  have hhigh := scale_le (m := nativeSize.toInt) h.nonneg h.below h.native
  omega

theorem mapAxis_mono {value' : Int32} (h : AxisFits value logicalSize nativeOrigin nativeSize)
    (h' : AxisFits value' logicalSize nativeOrigin nativeSize) (hle : value ≤ value') :
    mapAxis value logicalSize nativeOrigin nativeSize ≤ mapAxis value' logicalSize nativeOrigin nativeSize := by
  rw [Int32.le_iff_toInt_le] at hle ⊢
  rw [mapAxis_toInt h, mapAxis_toInt h']
  have hscale := scale_mono (m := nativeSize.toInt) h.nonneg hle h'.below h.native
  omega

/-- **The ends of the axis.** -/
theorem mapAxis_ends (h : AxisFits value logicalSize nativeOrigin nativeSize) :
    (value.toInt = 0 → mapAxis value logicalSize nativeOrigin nativeSize = nativeOrigin) ∧
      (1 < logicalSize.toInt → value.toInt = logicalSize.toInt - 1 →
        (mapAxis value logicalSize nativeOrigin nativeSize).toInt = nativeOrigin.toInt +
          nativeSize.toInt - 1) := by
  constructor
  · intro hzero
    rw [← Int32.toInt_inj, mapAxis_toInt h, hzero]
    simp
  · intro hlogical hlast
    rw [mapAxis_toInt h, hlast, scale_last hlogical]
    omega

/-- **The mapping keeps to the display.**  Points outside of the logical display and unusable layouts are
rejected.  In a usable layout whose native display ends within the words no step overflows, the point is one of the
native display, no axis turns around, and the ends of an axis go to the ends. -/
theorem map_within_display (l : ReceiverDisplayLayout) :
    (∀ x y, ¬ (l.Usable ∧ l.Contains x y) → l.map x y = .error (.invalidField "coordinates")) ∧
      (l.Usable → l.EndsWithin → ∀ x y, l.Contains x y → ∃ p, l.map x y = .ok p ∧
        l.mapChecked x y = some p ∧
        (l.nativeX.toInt ≤ p.1.toInt ∧ p.1.toInt ≤ l.nativeX.toInt + l.nativeWidth.toInt - 1) ∧
        (l.nativeY.toInt ≤ p.2.toInt ∧ p.2.toInt ≤ l.nativeY.toInt + l.nativeHeight.toInt - 1) ∧
        (∀ x' y' p', l.map x' y' = .ok p' → (x ≤ x' → p.1 ≤ p'.1) ∧ (y ≤ y' → p.2 ≤ p'.2)) ∧
        (1 < l.logicalWidth.toInt → (x.toInt = 0 → p.1 = l.nativeX) ∧
          (x.toInt = l.logicalWidth.toInt - 1 → p.1.toInt = l.nativeX.toInt + l.nativeWidth.toInt - 1)) ∧
        (1 < l.logicalHeight.toInt → (y.toInt = 0 → p.2 = l.nativeY) ∧
          (y.toInt = l.logicalHeight.toInt - 1 → p.2.toInt = l.nativeY.toInt + l.nativeHeight.toInt - 1))) := by
  refine ⟨fun x y => (map_eq l x y).2, fun husable hends x y hcontains => ?_⟩
  have hx := fitsX husable hends hcontains
  have hy := fitsY husable hends hcontains
  refine ⟨_, (map_eq l x y).1 ⟨husable, hcontains⟩, ?_, mapAxis_within hx, mapAxis_within hy, ?_, ?_, ?_⟩
  · unfold mapChecked
    rw [mapAxisChecked_eq hx, mapAxisChecked_eq hy]
    rfl
  · intro x' y' p' hp'
    by_cases hcontains' : l.Contains x' y'
    · rw [(map_eq l x' y').1 ⟨husable, hcontains'⟩] at hp'
      obtain rfl := Except.ok.inj hp'
      exact ⟨mapAxis_mono hx (fitsX husable hends hcontains'), mapAxis_mono hy (fitsY husable hends hcontains')⟩
    · rw [(map_eq l x' y').2 fun h => hcontains' h.2] at hp'
      cases hp'
  · exact fun hwide => ⟨(mapAxis_ends hx).1, (mapAxis_ends hx).2 hwide⟩
  · exact fun hhigh => ⟨(mapAxis_ends hy).1, (mapAxis_ends hy).2 hhigh⟩

section Examples

/-- A display of two native points for each logical one, left of and above the main one. -/
def sampleRetina : ReceiverDisplayLayout := ⟨"mac-main", 1, 1440, 900, -2560, -1600, 2560, 1600⟩

/-- The last point goes to the last point. -/
theorem map_within_display_retina : ∃ p, sampleRetina.map 1439 899 = .ok p ∧ p.1.toInt = -1 ∧ p.2.toInt = -1 := by
  obtain ⟨p, hp, -, -, -, -, hx, hy⟩ := (map_within_display sampleRetina).2
    ⟨by decide, by decide, by decide, by decide, by decide⟩ ⟨by decide, by decide⟩ 1439 899
    ⟨by decide, by decide, by decide, by decide⟩
  exact ⟨p, hp, ((hx (by decide)).2 (by decide)).trans (by decide),
    ((hy (by decide)).2 (by decide)).trans (by decide)⟩

end Examples

end MyKvm.Receiver
