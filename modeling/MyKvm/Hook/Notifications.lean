import Mathlib.Data.List.Induction
import MyKvm.Hook.Hotkeys

/-!
# MyKvm.Hook.Notifications — one press, reported twice

A control hotkey is reported by the keyboard hook and by the handler of the system shortcuts, and each of the two
may be late.  Both share the deduper, so that the second report of a press does nothing.  The deduper knows no
presses, though, only whether the last report of the action was one: a report of a press after a release counts as
a new press.

* `dispatched_once_iff`: the presses whose action is dispatched exactly once.
-/

namespace MyKvm.Hook

open MyKvm.Routing

inductive Reporter where
  | hook
  | system
  deriving DecidableEq

/-- A report of the physical press `number` of a hotkey, or of its release, and what other threads have made of the
shared state by then; `slotFree` says that none of them holds the slot. -/
structure Report where
  reporter : Reporter
  action : ControlHotkeyAction
  number : ℕ
  pressed : Bool
  slotFree : Bool
  pending : ControlActionSlot
  localOverride : LocalOverride
  deriving DecidableEq

def Report.dispatch (report : Report) (deduper : HotkeyDeduper) : Bool × HotkeyState :=
  dispatchControlHotkey ⟨deduper, report.pending, report.localOverride⟩ report.slotFree report.action
    report.pressed

/-- The deduper after these reports. -/
def deduperAfter (reports : List Report) : HotkeyDeduper :=
  reports.foldl (fun deduper report => (report.dispatch deduper).2.deduper) ⟨0⟩

/-- The report at this place is one of this press. -/
def ReportsAt (reports : List Report) (action : ControlHotkeyAction) (number i : ℕ) (report : Report) : Prop :=
  reports[i]? = some report ∧ report.action = action ∧ report.number = number

/-- The action is dispatched for this press by one of its reports, and by one only. -/
def DispatchedOnce (reports : List Report) (action : ControlHotkeyAction) (number : ℕ) : Prop :=
  ∃! i, ∃ report, ReportsAt reports action number i report ∧
    (report.dispatch (deduperAfter (reports.take i))).1 = true

/-- The last report of the action was one of a press. -/
def PressedLast (action : ControlHotkeyAction) (reports : List Report) : Prop :=
  ∃ last, (reports.filter (·.action = action)).getLast? = some last ∧ last.pressed = true

/-- Of the reports of this press, exactly one finds the slot free and does not come right after another report of a
press of the same action. -/
def HeardOnce (reports : List Report) (action : ControlHotkeyAction) (number : ℕ) : Prop :=
  ∃! i, ∃ report, ReportsAt reports action number i report ∧ report.pressed = true ∧ report.slotFree = true ∧
    ¬ PressedLast action (reports.take i)

/-! ### The deduper -/

/-- The bits of the actions are apart. -/
theorem press_bit (bits : UInt8) (a b : ControlHotkeyAction) :
    (bits ||| a.bit) &&& b.bit = 0 ↔ a ≠ b ∧ bits &&& b.bit = 0 := by
  have hall : ∀ n < 256, ∀ a ∈ [ControlHotkeyAction.goMac, .goLocal, .emergencyLocal],
      ∀ b ∈ [ControlHotkeyAction.goMac, .goLocal, .emergencyLocal],
        ((UInt8.ofNat n ||| a.bit) &&& b.bit = 0 ↔ a ≠ b ∧ UInt8.ofNat n &&& b.bit = 0) := by decide +kernel
  have h := hall bits.toNat bits.toNat_lt a (by cases a <;> decide) b (by cases b <;> decide)
  rwa [UInt8.ofNat_toNat] at h

theorem release_bit (bits : UInt8) (a b : ControlHotkeyAction) :
    (bits &&& ~~~a.bit) &&& b.bit = 0 ↔ a = b ∨ bits &&& b.bit = 0 := by
  have hall : ∀ n < 256, ∀ a ∈ [ControlHotkeyAction.goMac, .goLocal, .emergencyLocal],
      ∀ b ∈ [ControlHotkeyAction.goMac, .goLocal, .emergencyLocal],
        ((UInt8.ofNat n &&& ~~~a.bit) &&& b.bit = 0 ↔ a = b ∨ UInt8.ofNat n &&& b.bit = 0) := by decide +kernel
  have h := hall bits.toNat bits.toNat_lt a (by cases a <;> decide) b (by cases b <;> decide)
  rwa [UInt8.ofNat_toNat] at h

/-- What a report does to the deduper, whatever the other threads have done. -/
theorem dispatch_deduper (report : Report) (deduper : HotkeyDeduper) :
    (report.dispatch deduper).2.deduper =
      if report.pressed then (deduper.press report.action).2 else deduper.release report.action := by
  unfold Report.dispatch dispatchControlHotkey
  cases hpressed : report.pressed with
  | false => rfl
  | true =>
    cases hfirst : (deduper.press report.action).1 <;> simp [hfirst]

/-- A press is dispatched if the deduper lets it through and the slot is free. -/
theorem dispatch_fst (report : Report) (deduper : HotkeyDeduper) :
    (report.dispatch deduper).1 = true ↔
      report.pressed = true ∧ deduper.bits &&& report.action.bit = 0 ∧ report.slotFree = true := by
  unfold Report.dispatch dispatchControlHotkey
  cases hpressed : report.pressed with
  | false => simp
  | true =>
    by_cases hfirst : deduper.bits &&& report.action.bit = 0
    · have hoffer : (report.pending.offer report.slotFree report.action).1 = true ↔ report.slotFree = true := by
        unfold ControlActionSlot.offer
        split_ifs <;> simp_all
      simp [HotkeyDeduper.press, hfirst, hoffer]
    · simp [HotkeyDeduper.press, hfirst]

theorem pressedLast_concat (action : ControlHotkeyAction) (reports : List Report) (report : Report) :
    PressedLast action (reports ++ [report]) ↔
      if report.action = action then report.pressed = true else PressedLast action reports := by
  unfold PressedLast
  rw [List.filter_append]
  by_cases h : report.action = action <;> simp [h]

/-- **What the deduper knows**: which actions were reported by a press last. -/
theorem deduperAfter_bit (reports : List Report) (action : ControlHotkeyAction) :
    (deduperAfter reports).bits &&& action.bit = 0 ↔ ¬ PressedLast action reports := by
  induction reports using List.reverseRecOn with
  | nil => simp [deduperAfter, PressedLast]
  | append_singleton reports report ih =>
    have hstep : deduperAfter (reports ++ [report]) = (report.dispatch (deduperAfter reports)).2.deduper := by
      simp [deduperAfter, List.foldl_append]
    rw [hstep, dispatch_deduper, pressedLast_concat]
    cases hpressed : report.pressed with
    | true =>
      show ((deduperAfter reports).bits ||| report.action.bit) &&& action.bit = 0 ↔ _
      rw [press_bit, ih]
      by_cases h : report.action = action <;> simp [h]
    | false =>
      show ((deduperAfter reports).bits &&& ~~~report.action.bit) &&& action.bit = 0 ↔ _
      rw [release_bit, ih]
      by_cases h : report.action = action <;> simp [h]

/-- **One action per press**: for all reports in any order, the action is dispatched exactly once for a press if
and only if the press is heard once. -/
theorem dispatched_once_iff (reports : List Report) (action : ControlHotkeyAction) (number : ℕ) :
    DispatchedOnce reports action number ↔ HeardOnce reports action number := by
  refine existsUnique_congr fun i => exists_congr fun report => and_congr_right fun hat => ?_
  rw [dispatch_fst, hat.2.1, deduperAfter_bit]
  tauto

/-! ### Reports in step -/

theorem pressedLast_append (action : ControlHotkeyAction) (reports later : List Report)
    (hlast : PressedLast action reports)
    (hlater : ∀ report ∈ later, report.action = action → report.pressed = true) :
    PressedLast action (reports ++ later) := by
  induction later using List.reverseRecOn with
  | nil => simpa using hlast
  | append_singleton later report ih =>
    rw [← List.append_assoc, pressedLast_concat]
    split
    · next h => exact hlater report (by simp) h
    · exact ih fun other hother => hlater other (by simp [hother])

/-- **Paths in step**: a press is heard once if neither path tells of a release between its first report and its
last, as long as the first one does not come before the release of the press before it. -/
theorem heardOnce_inStep (before own after : List Report) (first : Report) (hfree : first.slotFree = true)
    (hfirst : first.pressed = true) (hbefore : ¬ PressedLast first.action before)
    (hown : ∀ report ∈ own, report.action = first.action → report.pressed = true)
    (hothers : ∀ report ∈ before ++ after, report.action = first.action → report.number = first.number →
      report.pressed = false) :
    HeardOnce (before ++ first :: own ++ after) first.action first.number := by
  refine ⟨before.length, ⟨first, ⟨by simp, rfl, rfl⟩, hfirst, hfree, by simpa using hbefore⟩, ?_⟩
  rintro i ⟨report, ⟨hat, haction, hnumber⟩, hpressed, -, hfresh⟩
  -- a report before or after the block is one of a release
  have hinside : report ∉ before ++ after := fun hmem =>
    Bool.false_ne_true ((hothers report hmem haction hnumber).symm.trans hpressed)
  rw [List.mem_append, not_or] at hinside
  rw [List.append_assoc] at hat hfresh
  rcases lt_trichotomy i before.length with hi | hi | hi
  · rw [List.getElem?_append_left hi] at hat
    exact absurd (List.mem_of_getElem? hat) hinside.1
  · exact hi
  · obtain ⟨k, rfl⟩ : ∃ k, i = before.length + (k + 1) := ⟨i - before.length - 1, by omega⟩
    rw [List.getElem?_append_right (by omega), Nat.add_sub_cancel_left] at hat
    by_cases hk : k < own.length
    · -- within the block a report of a press stands before it
      refine absurd ?_ hfresh
      have htake : (before ++ (first :: own ++ after)).take (before.length + (k + 1)) =
          (before ++ [first]) ++ own.take k := by
        simp [List.take_append, List.take_of_length_le, hk.le]
      rw [htake]
      refine pressedLast_append _ _ _ ?_ fun other hother => hown other (List.mem_of_mem_take hother)
      rw [pressedLast_concat]
      simpa using hfirst
    · rw [List.cons_append, List.getElem?_cons_succ, List.getElem?_append_right (by omega)] at hat
      exact absurd (List.mem_of_getElem? hat) hinside.2

section Examples

/-- Each path tells of the presses in their order, and of each press before its release. -/
def InOrder (reports : List Report) (reporter : Reporter) : Prop :=
  (reports.filter (·.reporter = reporter)).Pairwise fun earlier later => earlier.action = later.action →
    earlier.number < later.number ∨
    (earlier.number = later.number ∧ earlier.pressed = true ∧ later.pressed = false)

instance (reports : List Report) (reporter : Reporter) : Decidable (InOrder reports reporter) :=
  inferInstanceAs (Decidable (List.Pairwise _ _))

/-- A report while nobody holds the slot and no action waits in it. -/
def reported (reporter : Reporter) (pressed : Bool) : Report :=
  ⟨reporter, .goMac, 0, pressed, true, ⟨none⟩, default⟩

/-- The system tells of the press after the hook has told of its release. -/
def delayed : List Report :=
  [reported .hook true, reported .hook false, reported .system true, reported .system false]

/-- Both paths tell of one press in order, and it is dispatched twice. -/
theorem not_dispatched_once : ∃ reports : List Report, InOrder reports .hook ∧ InOrder reports .system ∧
    ¬ DispatchedOnce reports .goMac 0 := by
  refine ⟨delayed, by decide, by decide, ?_⟩
  intro hunique
  have htwice : 0 = 2 := hunique.unique
    ⟨reported .hook true, ⟨by decide, by decide, by decide⟩, by decide⟩
    ⟨reported .system true, ⟨by decide, by decide, by decide⟩, by decide⟩
  exact absurd htwice (by decide)

end Examples

end MyKvm.Hook
