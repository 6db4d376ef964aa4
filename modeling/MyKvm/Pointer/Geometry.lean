import MyKvm.Lib.Answer
import MyKvm.Lib.Overflow
import MyKvm.Pointer.Target

/-!
# MyKvm.Pointer.Geometry — how two screens lie to each other

Two screens touch if an edge of one is near the opposite edge of the other one and enough of these is side by
side.  The program computes this in words, where the difference of two edges may overflow.

* `Comparable`: the boxes, in ℤ, for which it does not.
* `adjacency_isSome_iff`: exactly these.
-/

namespace MyKvm.Pointer

open MyKvm.Lib MyKvm.Layout

/-! ### In words -/

/-- `near`, with every step reported. -/
def nearChecked (a b : Int32) : Option Bool := do
  let distance ← abs32 (← sub32 a b)
  return distance ≤ edgeTolerance

/-- `ranges_overlap` -/
def rangesOverlapChecked (aStart aEnd bStart bEnd : Int32) : Option Bool := do
  let shared ← sub32 (min aEnd bEnd) (max aStart bStart)
  return edgeTolerance < shared

/-- `screens_overlap` -/
def screensOverlapChecked (localScreen remoteScreen : Screen) : Option Bool :=
  andAlso (do return localScreen.x < (← add32 remoteScreen.x remoteScreen.width)) <|
  andAlso (do return remoteScreen.x < (← add32 localScreen.x localScreen.width)) <|
  andAlso (do return localScreen.y < (← add32 remoteScreen.y remoteScreen.height))
    (do return remoteScreen.y < (← add32 localScreen.y localScreen.height))

/-- The test for one edge in `touching_edge`. -/
def touchesChecked (localScreen remoteScreen : Screen) : Edge → Option Bool
  | .right => andAlso (do nearChecked (← add32 localScreen.x localScreen.width) remoteScreen.x) rows
  | .left => andAlso (do nearChecked localScreen.x (← add32 remoteScreen.x remoteScreen.width)) rows
  | .bottom => andAlso (do nearChecked (← add32 localScreen.y localScreen.height) remoteScreen.y) columns
  | .top => andAlso (do nearChecked localScreen.y (← add32 remoteScreen.y remoteScreen.height)) columns
where
  rows : Option Bool := do
    rangesOverlapChecked localScreen.y (← add32 localScreen.y localScreen.height) remoteScreen.y
      (← add32 remoteScreen.y remoteScreen.height)
  columns : Option Bool := do
    rangesOverlapChecked localScreen.x (← add32 localScreen.x localScreen.width) remoteScreen.x
      (← add32 remoteScreen.x remoteScreen.width)

/-- `touching_edge`: the first edge which passes. -/
def touchingEdgeChecked (localScreen remoteScreen : Screen) : Option (Option Edge) :=
  [Edge.right, .left, .bottom, .top].findM? (touchesChecked localScreen remoteScreen)

/-- Screens which overlap do not touch. -/
def adjacencyChecked (localScreen remoteScreen : Screen) : Option (Option Edge) := do
  if ← screensOverlapChecked localScreen remoteScreen then return none
  touchingEdgeChecked localScreen remoteScreen

/-! ### In ℤ -/

/-- A screen, as far as geometry goes. -/
structure Box where
  x : ℤ
  y : ℤ
  width : ℤ
  height : ℤ
  deriving DecidableEq

namespace Box

variable (a b : Box)

def right : ℤ := a.x + a.width

def bottom : ℤ := a.y + a.height

/-- The box has a size, and ends within the words. -/
structure Bounded : Prop where
  width : 1 ≤ a.width
  height : 1 ≤ a.height
  right : a.right < 2 ^ 31
  bottom : a.bottom < 2 ^ 31

/-- What lies between an edge of one box and the opposite edge of the other one. -/
def gap : Edge → ℤ
  | .right => a.right - b.x
  | .left => a.x - b.right
  | .bottom => a.bottom - b.y
  | .top => a.y - b.bottom

def commonRows : ℤ := min a.bottom b.bottom - max a.y b.y

def commonColumns : ℤ := min a.right b.right - max a.x b.x

/-- How much of the edge is side by side. -/
def common : Edge → ℤ
  | .right | .left => commonRows a b
  | .bottom | .top => commonColumns a b

def Near (d : ℤ) : Prop := -80 ≤ d ∧ d ≤ 80

/-- The number has an absolute value among the words. -/
def Spans (d : ℤ) : Prop := -2 ^ 31 < d ∧ d < 2 ^ 31

def Touches (edge : Edge) : Prop := Near (gap a b edge) ∧ 80 < common a b edge

def Overlaps : Prop := (a.x < b.right ∧ b.x < a.right) ∧ a.y < b.bottom ∧ b.y < a.bottom

/-- The gaps up to the first edge which touches are not too wide. -/
def Tried : Prop :=
  Spans (gap a b .right) ∧ (Touches a b .right ∨
    (Spans (gap a b .left) ∧ (Touches a b .left ∨
      (Spans (gap a b .bottom) ∧ (Touches a b .bottom ∨ Spans (gap a b .top))))))

def Comparable : Prop := Overlaps a b ∨ Tried a b

instance : Decidable a.Bounded :=
  decidable_of_iff (1 ≤ a.width ∧ 1 ≤ a.height ∧ a.right < 2 ^ 31 ∧ a.bottom < 2 ^ 31)
    ⟨fun ⟨w, h, r, b⟩ => ⟨w, h, r, b⟩, fun ⟨w, h, r, b⟩ => ⟨w, h, r, b⟩⟩

instance (d : ℤ) : Decidable (Near d) := inferInstanceAs (Decidable (_ ∧ _))

instance (d : ℤ) : Decidable (Spans d) := inferInstanceAs (Decidable (_ ∧ _))

instance (edge : Edge) : Decidable (Touches a b edge) := inferInstanceAs (Decidable (_ ∧ _))

instance : Decidable (Overlaps a b) := inferInstanceAs (Decidable ((_ ∧ _) ∧ _ ∧ _))

instance : Decidable (Tried a b) := inferInstanceAs (Decidable (_ ∧ (_ ∨ _ ∧ (_ ∨ _ ∧ (_ ∨ _)))))

instance : Decidable (Comparable a b) := inferInstanceAs (Decidable (_ ∨ _))

end Box

/-- The screen, in ℤ. -/
def box (screen : Screen) : Box := ⟨screen.x.toInt, screen.y.toInt, screen.width.toInt, screen.height.toInt⟩

/-! ### No step overflows -/

theorem min_toInt (a b : Int32) : (min a b).toInt = min a.toInt b.toInt := by
  show (if a ≤ b then a else b).toInt = _
  split
  all_goals
    rename_i h
    rw [Int32.le_iff_toInt_le] at h
    omega

theorem max_toInt (a b : Int32) : (max a b).toInt = max a.toInt b.toInt := by
  show (if a ≤ b then b else a).toInt = _
  split
  all_goals
    rename_i h
    rw [Int32.le_iff_toInt_le] at h
    omega

theorem nearChecked_eq (a b : Int32) : nearChecked a b =
    if Box.Spans (a.toInt - b.toInt) then some (decide (Box.Near (a.toInt - b.toInt))) else none := by
  have htolerance : edgeTolerance.toInt = 80 := rfl
  unfold nearChecked
  cases hd : sub32 a b with
  | none =>
    rw [sub32_eq_none] at hd
    rw [if_neg (by unfold Box.Spans; omega), Option.bind_eq_bind, Option.bind_none]
  | some d =>
    rw [sub32_eq_some] at hd
    have hlow := d.le_toInt
    have hhigh := d.toInt_lt
    rw [Option.bind_eq_bind, Option.bind_some]
    cases hm : abs32 d with
    | none =>
      rw [abs32_eq_none] at hm
      rw [if_neg (by unfold Box.Spans; omega), Option.bind_none]
    | some m =>
      rw [abs32_eq_some] at hm
      have hnear : m ≤ edgeTolerance ↔ Box.Near (a.toInt - b.toInt) := by
        rw [Int32.le_iff_toInt_le, htolerance, hm, ← hd]
        unfold Box.Near
        omega
      have hword := m.toInt_lt
      rw [if_pos (by unfold Box.Spans; omega), Option.bind_some, Option.pure_def]
      exact congrArg some (decide_eq_decide.mpr hnear)

/-- Ranges have no more in common than the first one is long. -/
theorem rangesOverlapChecked_eq {aStart aEnd : Int32} (hlength : aEnd.toInt - aStart.toInt < 2 ^ 31)
    (bStart bEnd : Int32) : rangesOverlapChecked aStart aEnd bStart bEnd =
    if -2 ^ 31 ≤ min aEnd.toInt bEnd.toInt - max aStart.toInt bStart.toInt then
      some (decide (80 < min aEnd.toInt bEnd.toInt - max aStart.toInt bStart.toInt))
    else none := by
  have htolerance : edgeTolerance.toInt = 80 := rfl
  unfold rangesOverlapChecked
  rw [← min_toInt, ← max_toInt]
  cases hd : sub32 (min aEnd bEnd) (max aStart bStart) with
  | none =>
    rw [sub32_eq_none, min_toInt, max_toInt] at hd
    rw [min_toInt, max_toInt, if_neg (by omega), Option.bind_eq_bind, Option.bind_none]
  | some d =>
    rw [sub32_eq_some] at hd
    have hlow := d.le_toInt
    rw [if_pos (by omega), ← hd, Option.bind_eq_bind, Option.bind_some, Option.pure_def]
    exact congrArg some (decide_eq_decide.mpr (by rw [Int32.lt_iff_toInt_lt, htolerance]))

section Screens

variable {s l r : Screen}

theorem box_low (s : Screen) : -2 ^ 31 ≤ (box s).x ∧ -2 ^ 31 ≤ (box s).y := ⟨s.x.le_toInt, s.y.le_toInt⟩

/-- The far edges are words. -/
theorem add_width (h : (box s).Bounded) : ∃ e, add32 s.x s.width = some e ∧ e.toInt = (box s).right := by
  have hlow := box_low s
  have hwidth := h.width
  have hright := h.right
  exact exists_fit32 (v := (box s).right) (by unfold Box.right at *; omega) hright

theorem add_height (h : (box s).Bounded) : ∃ e, add32 s.y s.height = some e ∧ e.toInt = (box s).bottom := by
  have hlow := box_low s
  have hheight := h.height
  have hbottom := h.bottom
  exact exists_fit32 (v := (box s).bottom) (by unfold Box.bottom at *; omega) hbottom

theorem screensOverlapChecked_eq (hl : (box l).Bounded) (hr : (box r).Bounded) :
    screensOverlapChecked l r = some (decide ((box l).Overlaps (box r))) := by
  obtain ⟨lRight, hlRight, hlRightValue⟩ := add_width hl
  obtain ⟨lBottom, hlBottom, hlBottomValue⟩ := add_height hl
  obtain ⟨rRight, hrRight, hrRightValue⟩ := add_width hr
  obtain ⟨rBottom, hrBottom, hrBottomValue⟩ := add_height hr
  unfold screensOverlapChecked
  simp only [hlRight, hlBottom, hrRight, hrBottom, Option.bind_eq_bind, Option.bind_some,
    Option.pure_def, andAlso_some,
    Option.some.injEq, Int32.lt_iff_toInt_lt, hlRightValue, hlBottomValue, hrRightValue, hrBottomValue]
  rw [Bool.eq_iff_iff]
  simp only [Bool.and_eq_true, decide_eq_true_eq]
  exact and_assoc.symm

theorem rows_eq (hl : (box l).Bounded) (hr : (box r).Bounded) : touchesChecked.rows l r =
    if -2 ^ 31 ≤ Box.commonRows (box l) (box r) then some (decide (80 < Box.commonRows (box l) (box r)))
      else none := by
  obtain ⟨lBottom, hlBottom, hlValue⟩ := add_height hl
  obtain ⟨rBottom, hrBottom, hrValue⟩ := add_height hr
  have hlength : lBottom.toInt - l.y.toInt = l.height.toInt := by
    rw [hlValue]
    exact add_sub_cancel_left l.y.toInt l.height.toInt
  unfold touchesChecked.rows
  rw [hlBottom, hrBottom, Option.bind_eq_bind, Option.bind_some, Option.bind_some,
    rangesOverlapChecked_eq (hlength ▸ l.height.toInt_lt), hlValue, hrValue]
  rfl

theorem columns_eq (hl : (box l).Bounded) (hr : (box r).Bounded) : touchesChecked.columns l r =
    if -2 ^ 31 ≤ Box.commonColumns (box l) (box r) then some (decide (80 < Box.commonColumns (box l) (box r)))
    else none := by
  obtain ⟨lRight, hlRight, hlValue⟩ := add_width hl
  obtain ⟨rRight, hrRight, hrValue⟩ := add_width hr
  have hlength : lRight.toInt - l.x.toInt = l.width.toInt := by
    rw [hlValue]
    exact add_sub_cancel_left l.x.toInt l.width.toInt
  unfold touchesChecked.columns
  rw [hlRight, hrRight, Option.bind_eq_bind, Option.bind_some, Option.bind_some,
    rangesOverlapChecked_eq (hlength ▸ l.width.toInt_lt), hlValue, hrValue]
  rfl

/-- **One edge**: the gap is compared, and then what is side by side. -/
theorem touchesChecked_eq (hl : (box l).Bounded) (hr : (box r).Bounded) (edge : Edge) : touchesChecked l r edge =
    andAlso
      (if Box.Spans (Box.gap (box l) (box r) edge) then some (decide (Box.Near (Box.gap (box l) (box r) edge)))
        else none)
      (if -2 ^ 31 ≤ Box.common (box l) (box r) edge then some (decide (80 < Box.common (box l) (box r) edge))
        else none) := by
  obtain ⟨lRight, hlRight, hlRightValue⟩ := add_width hl
  obtain ⟨lBottom, hlBottom, hlBottomValue⟩ := add_height hl
  obtain ⟨rRight, hrRight, hrRightValue⟩ := add_width hr
  obtain ⟨rBottom, hrBottom, hrBottomValue⟩ := add_height hr
  cases edge with
  | right =>
    unfold touchesChecked
    rw [hlRight, Option.bind_eq_bind, Option.bind_some, nearChecked_eq, hlRightValue, rows_eq hl hr]
    rfl
  | left =>
    unfold touchesChecked
    rw [hrRight, Option.bind_eq_bind, Option.bind_some, nearChecked_eq, hrRightValue, rows_eq hl hr]
    rfl
  | bottom =>
    unfold touchesChecked
    rw [hlBottom, Option.bind_eq_bind, Option.bind_some, nearChecked_eq, hlBottomValue, columns_eq hl hr]
    rfl
  | top =>
    unfold touchesChecked
    rw [hrBottom, Option.bind_eq_bind, Option.bind_some, nearChecked_eq, hrBottomValue, columns_eq hl hr]
    rfl

theorem touchesChecked_eq_true (hl : (box l).Bounded) (hr : (box r).Bounded) {edge : Edge} :
    touchesChecked l r edge = some true ↔ Box.Touches (box l) (box r) edge := by
  rw [touchesChecked_eq hl hr, andAlso_guarded_true]
  unfold Box.Touches Box.Spans Box.Near
  omega

/-- The next edge is tried. -/
theorem touchesChecked_eq_false (hl : (box l).Bounded) (hr : (box r).Bounded) {edge : Edge} :
    touchesChecked l r edge = some false ↔ Box.Spans (Box.gap (box l) (box r) edge) ∧
      (Box.Near (Box.gap (box l) (box r) edge) →
        -2 ^ 31 ≤ Box.common (box l) (box r) edge ∧ ¬ 80 < Box.common (box l) (box r) edge) := by
  rw [touchesChecked_eq hl hr, andAlso_guarded_false]

/-- The rows side by side are a word, if the gap below is. -/
theorem commonRows_low (hl : (box l).Bounded) (hr : (box r).Bounded)
    (hbottom : Box.Spans (Box.gap (box l) (box r) .bottom)) : -2 ^ 31 ≤ Box.commonRows (box l) (box r) := by
  have hlHeight := hl.height
  have hrHeight := hr.height
  unfold Box.Spans Box.gap at *
  unfold Box.commonRows Box.bottom at *
  dsimp only at *
  omega

theorem commonColumns_low (hl : (box l).Bounded) (hr : (box r).Bounded)
    (hright : Box.Spans (Box.gap (box l) (box r) .right)) : -2 ^ 31 ≤ Box.commonColumns (box l) (box r) := by
  have hlWidth := hl.width
  have hrWidth := hr.width
  unfold Box.Spans Box.gap at *
  unfold Box.commonColumns Box.right at *
  dsimp only at *
  omega

theorem touchingEdge_isSome_iff (hl : (box l).Bounded) (hr : (box r).Bounded) :
    (touchingEdgeChecked l r).isSome ↔ Box.Tried (box l) (box r) := by
  have hend : (([] : List Edge).findM? (touchesChecked l r)).isSome := rfl
  have hspans : ∀ edge, Box.Touches (box l) (box r) edge → Box.Spans (Box.gap (box l) (box r) edge) := by
    intro edge htouches
    have hnear := htouches.1
    unfold Box.Near at hnear
    exact ⟨by omega, by omega⟩
  have hrows := commonRows_low hl hr
  have hcolumns := commonColumns_low hl hr
  unfold touchingEdgeChecked Box.Tried
  simp only [findM_isSome_cons, touchesChecked_eq_true hl hr, touchesChecked_eq_false hl hr, hend, and_true]
  constructor
  · rintro (hright | ⟨⟨hright, -⟩, hrest⟩)
    · exact ⟨hspans _ hright, .inl hright⟩
    refine ⟨hright, .inr ?_⟩
    rcases hrest with hleft | ⟨⟨hleft, -⟩, hrest⟩
    · exact ⟨hspans _ hleft, .inl hleft⟩
    refine ⟨hleft, .inr ?_⟩
    rcases hrest with hbottom | ⟨⟨hbottom, -⟩, hrest⟩
    · exact ⟨hspans _ hbottom, .inl hbottom⟩
    refine ⟨hbottom, .inr ?_⟩
    rcases hrest with htop | ⟨htop, -⟩
    · exact hspans _ htop
    · exact htop
  · rintro ⟨hright, hrest⟩
    have hrowsLow : -2 ^ 31 ≤ Box.commonRows (box l) (box r) := by
      rcases hrest with htouch | ⟨-, htouch | ⟨hbottom, -⟩⟩
      · have hmuch : 80 < Box.commonRows (box l) (box r) := htouch.2
        omega
      · have hmuch : 80 < Box.commonRows (box l) (box r) := htouch.2
        omega
      · exact hrows hbottom
    have hstep : ∀ edge, Box.Spans (Box.gap (box l) (box r) edge) → -2 ^ 31 ≤ Box.common (box l) (box r) edge →
        ¬ Box.Touches (box l) (box r) edge → Box.Spans (Box.gap (box l) (box r) edge) ∧
          (Box.Near (Box.gap (box l) (box r) edge) →
            -2 ^ 31 ≤ Box.common (box l) (box r) edge ∧ ¬ 80 < Box.common (box l) (box r) edge) :=
      fun edge hgap hlow hmiss => ⟨hgap, fun hnear => ⟨hlow, fun hmuch => hmiss ⟨hnear, hmuch⟩⟩⟩
    by_cases htouchRight : Box.Touches (box l) (box r) .right
    · exact .inl htouchRight
    obtain ⟨hleft, hrest⟩ := hrest.resolve_left htouchRight
    refine .inr ⟨hstep _ hright hrowsLow htouchRight, ?_⟩
    by_cases htouchLeft : Box.Touches (box l) (box r) .left
    · exact .inl htouchLeft
    obtain ⟨hbottom, hrest⟩ := hrest.resolve_left htouchLeft
    refine .inr ⟨hstep _ hleft hrowsLow htouchLeft, ?_⟩
    by_cases htouchBottom : Box.Touches (box l) (box r) .bottom
    · exact .inl htouchBottom
    refine .inr ⟨hstep _ hbottom (hcolumns hright) htouchBottom, ?_⟩
    by_cases htouchTop : Box.Touches (box l) (box r) .top
    · exact .inl htouchTop
    · exact .inr (hstep _ (hrest.resolve_left htouchBottom) (hcolumns hright) htouchTop)

/-- **Exactness**: the comparison has an answer exactly for comparable boxes. -/
theorem adjacency_isSome_iff (hl : (box l).Bounded) (hr : (box r).Bounded) :
    (adjacencyChecked l r).isSome ↔ Box.Comparable (box l) (box r) := by
  unfold adjacencyChecked Box.Comparable
  rw [screensOverlapChecked_eq hl hr, Option.bind_eq_bind, Option.bind_some]
  by_cases hoverlaps : Box.Overlaps (box l) (box r)
  · simp [hoverlaps]
  · rw [← touchingEdge_isSome_iff hl hr]
    simp [hoverlaps]

end Screens

end MyKvm.Pointer
