import Mathlib.Data.List.Basic

/-!
# MyKvm.Lib.Text — bounded text

Text as it arrives from a peer: counted in UTF-8 bytes, and blank when nothing is left after trimming.  Trimming
removes the characters with the Unicode property `White_Space`.
-/

namespace MyKvm.Lib

/-- The Unicode property `White_Space`. -/
def isWhitespace (c : Char) : Bool :=
  let n := c.toNat
  (9 ≤ n && n ≤ 13) || n == 0x20 || n == 0x85 || n == 0xA0 || n == 0x1680 || (0x2000 ≤ n && n ≤ 0x200A) ||
    n == 0x2028 || n == 0x2029 || n == 0x202F || n == 0x205F || n == 0x3000

/-- `trim_matches(p)` -/
def trimMatches (p : Char → Bool) (text : List Char) : List Char :=
  ((text.dropWhile p).reverse.dropWhile p).reverse

/-- `trim()` -/
def trim (text : List Char) : List Char :=
  ((text.dropWhile isWhitespace).reverse.dropWhile isWhitespace).reverse

/-- `s.trim()` of a text which stays one. -/
def trimmed (s : String) : String := String.ofList (trim s.toList)

/-- `s.to_ascii_lowercase()` -/
def lowered (s : String) : String := String.ofList (s.toList.map Char.toLower)

/-- `s.trim().is_empty()` -/
def isBlank (s : String) : Bool := s.toList.all isWhitespace

/-- The text is not blank and takes at most `max` bytes. -/
def fits (s : String) (max : ℕ) : Bool := !(isBlank s || max < s.utf8ByteSize)

theorem all_dropWhile {α : Type*} (p : α → Bool) (l : List α) : (l.dropWhile p).all p = l.all p := by
  induction l with
  | nil => rfl
  | cons a l ih =>
    by_cases ha : p a = true
    · rw [List.dropWhile_cons_of_pos ha, ih, List.all_cons, ha, Bool.true_and]
    · rw [List.dropWhile_cons_of_neg ha]

/-- Trimming leaves something of every text which is not blank. -/
@[simp] theorem isBlank_trimmed (s : String) : isBlank (trimmed s) = isBlank s := by
  unfold isBlank trimmed trim
  rw [String.toList_ofList, List.all_reverse, all_dropWhile, List.all_reverse, all_dropWhile]

end MyKvm.Lib
