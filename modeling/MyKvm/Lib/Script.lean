import MyKvm.Lib.Text

/-!
# MyKvm.Lib.Script — texts as the scripts of a user interface read them

The functions on texts differ a little from those of the backend: the byte order mark is white space, and changing
the case knows all of Unicode.
-/

namespace MyKvm.Lib.Script

/-- What `trim` takes off. -/
def isSpace (c : Char) : Bool := (isWhitespace c && c.toNat != 0x85) || c.toNat == 0xFEFF

/-- `toLowerCase`, as far as what becomes of a character is ASCII.  Two characters outside
ASCII become letters of it. -/
def lowerCase (c : Char) : List Char :=
  if c.toNat = 0x212A then ['k'] else if c.toNat = 0x130 then ['i', Char.ofNat 0x307] else [c.toLower]

def toLowerCase (text : List Char) : List Char := text.flatMap lowerCase

def trim (text : List Char) : List Char := trimMatches isSpace text

/-- `replace(/\s+/g, "")` -/
def withoutSpaces (text : List Char) : List Char := text.filter fun c => !isSpace c

/-- `first || second` -/
def orElse (first second : String) : String := if first = "" then second else first

/-- Lower case without white space stays as it is. -/
theorem toLowerCase_of_lower {text : List Char} (h : ∀ c ∈ text, lowerCase c = [c]) : toLowerCase text = text := by
  induction text with
  | nil => rfl
  | cons c text ih =>
    have hrest : toLowerCase text = text := ih fun d hd => h d (List.mem_cons_of_mem _ hd)
    calc toLowerCase (c :: text) = lowerCase c ++ toLowerCase text := List.flatMap_cons
      _ = c :: text := by rw [h c List.mem_cons_self, hrest, List.singleton_append]

end MyKvm.Lib.Script
