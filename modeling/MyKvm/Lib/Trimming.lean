import Mathlib.Data.List.TakeWhile
import MyKvm.Lib.Text

/-!
# MyKvm.Lib.Trimming — what trimming leaves

Trimming takes a front and a back away, and what it leaves is `Firm`: neither of its ends would be taken.  So a
text is firm exactly if trimming leaves it alone, and to trim twice is to trim once.
-/

namespace MyKvm.Lib

variable {p : Char → Bool} {text : List Char}

/-- Neither end of the text would be trimmed. -/
structure Firm (p : Char → Bool) (text : List Char) : Prop where
  first : ∀ c ∈ text.head?, p c = false
  last : ∀ c ∈ text.getLast?, p c = false

theorem trim_eq (text : List Char) : trim text = trimMatches isWhitespace text := rfl

theorem Firm.reverse (h : Firm p text) : Firm p text.reverse :=
  ⟨by simpa using h.last, by simpa using h.first⟩

theorem dropWhile_of_first (h : ∀ c ∈ text.head?, p c = false) : text.dropWhile p = text := by
  cases text with
  | nil => rfl
  | cons c text => exact List.dropWhile_cons_of_neg (by simp [h c rfl])

/-- A front which is trimmed, before a text whose first character is not. -/
theorem dropWhile_front {front : List Char} (hfront : front.all p = true) (h : ∀ c ∈ text.head?, p c = false) :
    (front ++ text).dropWhile p = text := by
  rw [List.dropWhile_append_of_pos (List.all_eq_true.mp hfront), dropWhile_of_first h]

/-- **What is trimmed**: what stands around a firm text. -/
theorem trimMatches_around {front core back : List Char} (hfront : front.all p = true) (hback : back.all p = true)
    (hne : core ≠ []) (hcore : Firm p core) : trimMatches p (front ++ core ++ back) = core := by
  have hhead : (core ++ back).head? = core.head? := by
    cases core with
    | nil => exact absurd rfl hne
    | cons c core => rfl
  unfold trimMatches
  rw [List.append_assoc, dropWhile_front hfront (hhead ▸ hcore.first), List.reverse_append,
    dropWhile_front (by simpa using hback) hcore.reverse.first, List.reverse_reverse]

theorem trimMatches_of_all (h : text.all p = true) : trimMatches p text = [] := by
  unfold trimMatches
  rw [List.dropWhile_eq_nil_iff.mpr (List.all_eq_true.mp h)]
  rfl

/-- What is left, and what was around it. -/
theorem trimMatches_split (p : Char → Bool) (text : List Char) : ∃ front back,
    text = front ++ trimMatches p text ++ back ∧ front.all p = true ∧ back.all p = true := by
  refine ⟨text.takeWhile p, ((text.dropWhile p).reverse.takeWhile p).reverse, ?_, List.all_takeWhile, ?_⟩
  · unfold trimMatches
    rw [List.append_assoc, ← List.reverse_append, List.takeWhile_append_dropWhile, List.reverse_reverse,
      List.takeWhile_append_dropWhile]
  · rw [List.all_reverse]
    exact List.all_takeWhile

theorem trimMatches_within (p : Char → Bool) (text : List Char) : trimMatches p text <:+: text := by
  obtain ⟨front, back, h, -⟩ := trimMatches_split p text
  exact ⟨front, back, h.symm⟩

theorem trimMatches_front (p : Char → Bool) (text : List Char) : trimMatches p text <+: text.dropWhile p := by
  have h := (List.dropWhile_suffix (l := (text.dropWhile p).reverse) p).reverse
  rwa [List.reverse_reverse] at h

/-- The first character which stays is the first one behind the front. -/
theorem head?_trimMatches (h : trimMatches p text ≠ []) :
    (trimMatches p text).head? = (text.dropWhile p).head? := by
  obtain ⟨back, hback⟩ := trimMatches_front p text
  rw [← hback, List.head?_append_of_ne_nil _ h]

theorem not_of_head?_dropWhile {c : Char} (h : (text.dropWhile p).head? = some c) : p c = false := by
  have hnot := List.head?_dropWhile_not p text
  rw [h] at hnot
  simpa using hnot

theorem firm_trimMatches (p : Char → Bool) (text : List Char) : Firm p (trimMatches p text) where
  first c hc := by
    have hne : trimMatches p text ≠ [] := by
      intro hnil
      rw [hnil] at hc
      cases hc
    exact not_of_head?_dropWhile ((head?_trimMatches hne).symm.trans hc)
  last c hc := by
    rw [trimMatches, List.getLast?_reverse] at hc
    exact not_of_head?_dropWhile hc

/-- Trimming leaves exactly the firm texts alone. -/
theorem trimMatches_eq_self_iff : trimMatches p text = text ↔ Firm p text := by
  refine ⟨fun h => h ▸ firm_trimMatches p text, fun h => ?_⟩
  by_cases hne : text = []
  · rw [hne]
    rfl
  · have hself : trimMatches p ([] ++ text ++ []) = text := trimMatches_around rfl rfl hne h
    simpa using hself

@[simp] theorem trimMatches_trimMatches (p : Char → Bool) (text : List Char) :
    trimMatches p (trimMatches p text) = trimMatches p text :=
  trimMatches_eq_self_iff.mpr (firm_trimMatches p text)

/-- The two ends may be taken in either order. -/
theorem trimMatches_reverse (p : Char → Bool) (text : List Char) :
    trimMatches p text.reverse = (trimMatches p text).reverse := by
  obtain ⟨front, back, h, hfront, hback⟩ := trimMatches_split p text
  by_cases hne : trimMatches p text = []
  · have hall : text.all p = true := by
      rw [h, hne]
      simp [hfront, hback]
    rw [hne, trimMatches_of_all (by simpa using hall)]
    rfl
  · calc trimMatches p text.reverse
        = trimMatches p (back.reverse ++ (trimMatches p text).reverse ++ front.reverse) := by
          conv_lhs => rw [h]
          simp
      _ = (trimMatches p text).reverse :=
          trimMatches_around (by simpa using hback) (by simpa using hfront) (by simpa using hne)
            (firm_trimMatches p text).reverse

end MyKvm.Lib
