import MyKvm.Lib.Trimming

/-!
# MyKvm.Files.Names — the name under which a file is sent

The sender cleans the name of a file, and the receiver cleans what it is sent once more.  Cleaning takes white
space off the ends, then dots, then white space again: what the second white space hid may end in a dot, which the
receiver then takes off too.

* `written_again`: replacing characters and cutting the name are settled after the first time.
* `sanitize_again_iff`: when the whole name is.
-/

namespace MyKvm.Files

open MyKvm.Lib

/-- `char::is_control` -/
def isControl (c : Char) : Bool := c.toNat < 0x20 || (0x7F ≤ c.toNat && c.toNat ≤ 0x9F)

def safeCharacter (c : Char) : Char :=
  if c ∈ ['/', '\\', ':', '*', '?', '"', '<', '>', '|'] then '_' else if isControl c then '_' else c

/-- The loop of `sanitize_transfer_file_name`, after it has written this many bytes. -/
def writeSafely (bytes : ℕ) : List Char → List Char
  | [] => []
  | c :: rest =>
    let safe := safeCharacter c
    let bytes := bytes + safe.utf8Size
    if 180 ≤ bytes then [safe] else safe :: writeSafely bytes rest

def isDot (c : Char) : Bool := c == '.'

def sanitizeTransferFileName (name : String) : Option String :=
  let output := writeSafely 0 (trim name.toList)
  let output := trim (trimMatches isDot (trim output))
  if output = [] ∨ output = ['.'] ∨ output = ['.', '.'] then none else some (String.ofList output)

/-! ### Writing -/

theorem safeCharacter_safe (c : Char) : safeCharacter (safeCharacter c) = safeCharacter c := by
  have hplain : safeCharacter '_' = '_' := by decide
  by_cases hreserved : c ∈ ['/', '\\', ':', '*', '?', '"', '<', '>', '|']
  · have hsafe : safeCharacter c = '_' := if_pos hreserved
    rw [hsafe, hplain]
  · by_cases hcontrol : isControl c = true
    · have hsafe : safeCharacter c = '_' := (if_neg hreserved).trans (if_pos hcontrol)
      rw [hsafe, hplain]
    · have hsafe : safeCharacter c = c := (if_neg hreserved).trans (if_neg hcontrol)
      rw [hsafe, hsafe]

/-- The bytes of a text. -/
def size : List Char → ℕ
  | [] => 0
  | c :: text => c.utf8Size + size text

theorem size_append (front back : List Char) : size (front ++ back) = size front + size back := by
  induction front with
  | nil => simp [size]
  | cons c front ih => rw [List.cons_append, size, size, ih, Nat.add_assoc]

theorem writeSafely_safe {text : List Char} {bytes : ℕ} {c : Char} (h : c ∈ writeSafely bytes text) :
    safeCharacter c = c := by
  induction text generalizing bytes with
  | nil => cases h
  | cons first text ih =>
    rw [writeSafely] at h
    split at h
    · rw [List.mem_singleton.mp h, safeCharacter_safe]
    · rcases List.mem_cons.mp h with rfl | h
      · exact safeCharacter_safe first
      · exact ih h

/-- There was room for each character when it was written. -/
theorem writeSafely_room {text front back : List Char} {bytes : ℕ} {c : Char} (hbytes : bytes < 180)
    (h : writeSafely bytes text = front ++ c :: back) : bytes + size front < 180 := by
  induction text generalizing bytes front with
  | nil => simp [writeSafely] at h
  | cons first text ih =>
    cases front with
    | nil => simpa [size] using hbytes
    | cons head front =>
      rw [writeSafely] at h
      split at h
      · simp at h
      · next hroom =>
        obtain ⟨rfl, hrest⟩ := List.cons.inj h
        have hfront := ih (by omega) hrest
        simp only [size] at hfront ⊢
        omega

/-- Safe characters for which there is room are all written. -/
theorem writeSafely_eq_self {text : List Char} {bytes : ℕ} (hsafe : ∀ c ∈ text, safeCharacter c = c)
    (hroom : ∀ front c back, text = front ++ c :: back → bytes + size front < 180) :
    writeSafely bytes text = text := by
  induction text generalizing bytes with
  | nil => rfl
  | cons first text ih =>
    rw [writeSafely, hsafe first List.mem_cons_self]
    cases text with
    | nil => simp [writeSafely]
    | cons second text =>
      have hfirst : bytes + first.utf8Size < 180 := by
        simpa [size] using hroom [first] second text rfl
      rw [if_neg (by omega), ih (fun c hc => hsafe c (List.mem_cons_of_mem _ hc))]
      intro front c back heq
      have h := hroom (first :: front) c back (by rw [heq]; rfl)
      simp only [size] at h ⊢
      omega

/-- **A part of what has been written** is written again as it is. -/
theorem written_again {text part : List Char} (h : part <:+: writeSafely 0 text) : writeSafely 0 part = part := by
  obtain ⟨before, after, heq⟩ := h
  have hsafe : ∀ c ∈ part, safeCharacter c = c := by
    intro c hc
    have hmem : c ∈ writeSafely 0 text := by
      rw [← heq]
      simp [hc]
    exact writeSafely_safe hmem
  refine writeSafely_eq_self hsafe fun front c back hpart => ?_
  have hsplit : writeSafely 0 text = (before ++ front) ++ c :: (back ++ after) := by
    rw [← heq, hpart]
    simp
  have hroom := writeSafely_room (by decide) hsplit
  rw [size_append] at hroom
  omega

/-! ### Trimming -/

/-- The name as it is written, without white space around it. -/
def written (name : String) : List Char := trim (writeSafely 0 (trim name.toList))

/-- What stays of a written name. -/
def bare (text : List Char) : List Char := trim (trimMatches isDot text)

/-- Behind dots, and white space behind these, comes another dot. -/
def DotBehindDots (text : List Char) : Prop := ((text.dropWhile isDot).dropWhile isWhitespace).head? = some '.'

/-- Neither end of the written name hides a dot. -/
def Settled (name : String) : Prop := ¬ DotBehindDots (written name) ∧ ¬ DotBehindDots (written name).reverse

instance decidableDotBehindDots (text : List Char) : Decidable (DotBehindDots text) := by
  unfold DotBehindDots
  infer_instance

instance decidableSettled (name : String) : Decidable (Settled name) := by
  unfold Settled
  infer_instance

theorem bare_reverse (text : List Char) : bare text.reverse = (bare text).reverse := by
  rw [bare, bare, trim_eq, trim_eq, trimMatches_reverse, trimMatches_reverse]

theorem head?_bare {text : List Char} (hne : bare text ≠ []) :
    (bare text).head? = ((text.dropWhile isDot).dropWhile isWhitespace).head? := by
  obtain ⟨back, hback⟩ := trimMatches_front isDot text
  have hfront : (trimMatches isDot text).dropWhile isWhitespace ≠ [] := by
    intro hnil
    have hall := List.all_eq_true.mpr (List.dropWhile_eq_nil_iff.mp hnil)
    exact hne (trimMatches_of_all hall)
  rw [bare, trim_eq, head?_trimMatches hne, ← hback, List.dropWhile_append,
    if_neg (by simpa using hfront), List.head?_append_of_ne_nil _ hfront]

/-- A name which is trimmed once more loses only dots. -/
theorem bare_eq_self_iff {text : List Char} (hfirm : Firm isWhitespace text) :
    bare text = text ↔ Firm isDot text := by
  rw [← trimMatches_eq_self_iff]
  refine ⟨fun h => ?_, fun h => by rw [bare, h, trim_eq, trimMatches_eq_self_iff.mpr hfirm]⟩
  -- nothing was lost, so nothing was lost to the dots
  have hwithin := trimMatches_within isDot text
  have hlength : text.length ≤ (trimMatches isDot text).length := by
    have hle := (trimMatches_within isWhitespace (trimMatches isDot text)).length_le
    rwa [← trim_eq, ← bare, h] at hle
  exact hwithin.eq_of_length (hwithin.length_le.antisymm hlength)

theorem firm_isDot_iff (text : List Char) :
    Firm isDot text ↔ text.head? ≠ some '.' ∧ text.reverse.head? ≠ some '.' := by
  have hend : ∀ c : Option Char, (∀ d ∈ c, isDot d = false) ↔ c ≠ some '.' := by
    intro c
    cases c <;> simp [isDot]
  rw [← hend, ← hend, List.head?_reverse]
  exact ⟨fun h => ⟨h.first, h.last⟩, fun h => ⟨h.1, h.2⟩⟩

/-- Cleaning, in its two steps. -/
theorem sanitize_eq (name : String) : sanitizeTransferFileName name =
    if bare (written name) = [] ∨ bare (written name) = ['.'] ∨ bare (written name) = ['.', '.'] then none
    else some (String.ofList (bare (written name))) :=
  rfl

theorem bare_firm (text : List Char) : Firm isWhitespace (bare text) := firm_trimMatches _ _

/-- What stays of a name is written again as it is. -/
theorem written_bare (name : String) : written (String.ofList (bare (written name))) = bare (written name) := by
  have hpart : bare (written name) <:+: writeSafely 0 (trim name.toList) :=
    ((trimMatches_within _ _).trans (trimMatches_within _ _)).trans (trimMatches_within _ _)
  have htrim : trim (bare (written name)) = bare (written name) := trimMatches_eq_self_iff.mpr (bare_firm _)
  rw [written, String.toList_ofList, htrim, written_again hpart, htrim]

theorem firm_bare_iff {name : String} (hne : bare (written name) ≠ []) :
    Firm isDot (bare (written name)) ↔ Settled name := by
  have hback : bare (written name).reverse ≠ [] := by
    rw [bare_reverse]
    simpa using hne
  rw [firm_isDot_iff, ← bare_reverse, head?_bare hne, head?_bare hback]
  rfl

/-- **When a name is settled**: the name which is sent stays as it is if and only if no dots were hidden behind the
dots and the white space at its ends. -/
theorem sanitize_again_iff {name sent : String} (h : sanitizeTransferFileName name = some sent) :
    sanitizeTransferFileName sent = some sent ↔ Settled name := by
  rw [sanitize_eq] at h
  split at h
  · cases h
  next hkept =>
  obtain rfl := Option.some.inj h
  rw [← firm_bare_iff fun hnil => hkept (.inl hnil), ← bare_eq_self_iff (bare_firm _), sanitize_eq, written_bare]
  constructor
  · intro hagain
    split at hagain
    · cases hagain
    · exact String.ofList_injective (Option.some.inj hagain)
  · intro hbare
    rw [hbare, if_neg hkept]

end MyKvm.Files
