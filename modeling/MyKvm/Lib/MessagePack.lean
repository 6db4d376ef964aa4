import MyKvm.Lib.Bytes
import Mathlib.Algebra.Ring.Int.Defs

/-!
# MyKvm.Lib.MessagePack — the size of packed values

The MessagePack format as far as a writer uses it which packs every value in its shortest form.  A packed value is
its bytes; arrays and maps are packed from packed items.  Each packer has a bound of its size.
-/

namespace MyKvm.Lib.MessagePack

def packBool (b : Bool) : List UInt8 := [if b then 0xC3 else 0xC2]

def packUInt (n : ℕ) : List UInt8 :=
  if n < 2 ^ 7 then bigEndian 1 n
  else if n < 2 ^ 8 then 0xCC :: bigEndian 1 n
  else if n < 2 ^ 16 then 0xCD :: bigEndian 2 n
  else if n < 2 ^ 32 then 0xCE :: bigEndian 4 n
  else 0xCF :: bigEndian 8 n

/-- The `k` bytes of a negative number hold its complement. -/
def packInt (i : ℤ) : List UInt8 :=
  if 0 ≤ i then packUInt i.toNat
  else if -2 ^ 5 ≤ i then bigEndian 1 (i + 2 ^ 8).toNat
  else if -2 ^ 7 ≤ i then 0xD0 :: bigEndian 1 (i + 2 ^ 8).toNat
  else if -2 ^ 15 ≤ i then 0xD1 :: bigEndian 2 (i + 2 ^ 16).toNat
  else if -2 ^ 31 ≤ i then 0xD2 :: bigEndian 4 (i + 2 ^ 32).toNat
  else 0xD3 :: bigEndian 8 (i + 2 ^ 64).toNat

/-- The bytes of a text in UTF-8. -/
def utf8 (s : String) : List UInt8 := s.toByteArray.data.toList

def packStr (s : String) : List UInt8 :=
  let n := s.utf8ByteSize
  (if n < 2 ^ 5 then bigEndian 1 (0xA0 + n)
    else if n < 2 ^ 8 then 0xD9 :: bigEndian 1 n
    else if n < 2 ^ 16 then 0xDA :: bigEndian 2 n
    else 0xDB :: bigEndian 4 n) ++ utf8 s

def packArray (items : List (List UInt8)) : List UInt8 :=
  let n := items.length
  (if n < 2 ^ 4 then bigEndian 1 (0x90 + n)
    else if n < 2 ^ 16 then 0xDC :: bigEndian 2 n
    else 0xDD :: bigEndian 4 n) ++ items.flatten

/-- A map whose keys are texts. -/
def packMap (fields : List (String × List UInt8)) : List UInt8 :=
  let n := fields.length
  (if n < 2 ^ 4 then bigEndian 1 (0x80 + n)
    else if n < 2 ^ 16 then 0xDE :: bigEndian 2 n
    else 0xDF :: bigEndian 4 n) ++ (fields.map fun field => packStr field.1 ++ field.2).flatten

@[simp] theorem packBool_length (b : Bool) : (packBool b).length = 1 := rfl

theorem packUInt_length_le (n : ℕ) : (packUInt n).length ≤ 9 := by
  unfold packUInt
  split_ifs <;> simp

theorem packInt_length_le (i : ℤ) : (packInt i).length ≤ 9 := by
  unfold packInt
  split_ifs
  · exact packUInt_length_le _
  all_goals simp

@[simp] theorem utf8_length (s : String) : (utf8 s).length = s.utf8ByteSize := by
  rw [utf8, Array.length_toList]
  rfl

theorem packStr_length_le (s : String) : (packStr s).length ≤ 5 + s.utf8ByteSize := by
  unfold packStr
  rw [List.length_append, utf8_length]
  split_ifs <;> simp

theorem packArray_length_le (items : List (List UInt8)) :
    (packArray items).length ≤ 5 + (items.map List.length).sum := by
  unfold packArray
  rw [List.length_append, List.length_flatten]
  split_ifs <;> simp

/-- An array of items of bounded size. -/
theorem packArray_length_le_of {items : List (List UInt8)} {m : ℕ} (h : ∀ item ∈ items, item.length ≤ m) :
    (packArray items).length ≤ 5 + items.length * m := by
  have hsum : (items.map List.length).sum ≤ items.length * m := by
    induction items with
    | nil => simp
    | cons item items ih =>
      have hitem := h item List.mem_cons_self
      have hrest := ih fun other hother => h other (List.mem_cons_of_mem _ hother)
      rw [List.map_cons, List.sum_cons, List.length_cons, Nat.add_mul, Nat.one_mul]
      omega
  have hle := packArray_length_le items
  omega

theorem packMap_length_le (fields : List (String × List UInt8)) :
    (packMap fields).length ≤ 5 + (fields.map fun field => (packStr field.1 ++ field.2).length).sum := by
  unfold packMap
  rw [List.length_append, List.length_flatten, List.map_map]
  split_ifs <;> simp [Function.comp_def]

/-- A map whose keys are of bounded size. -/
theorem packMap_length_le_sum {fields : List (String × List UInt8)} {k : ℕ}
    (hkeys : fields.all (·.1.utf8ByteSize ≤ k) = true) :
    (packMap fields).length ≤ 5 + (fields.length * (5 + k) + (fields.map (·.2.length)).sum) := by
  have hsum : (fields.map fun field => (packStr field.1 ++ field.2).length).sum ≤
      fields.length * (5 + k) + (fields.map (·.2.length)).sum := by
    induction fields with
    | nil => simp
    | cons field fields ih =>
      rw [List.all_cons, Bool.and_eq_true, decide_eq_true_iff] at hkeys
      have hpacked := packStr_length_le field.1
      have hrest := ih hkeys.2
      have hkey := hkeys.1
      rw [List.map_cons, List.sum_cons, List.length_append, List.length_cons, List.map_cons, List.sum_cons,
        Nat.add_mul, Nat.one_mul]
      omega
  have hle := packMap_length_le fields
  omega

/-- A map whose keys and values are of bounded size. -/
theorem packMap_length_le_of {fields : List (String × List UInt8)} {k m b : ℕ}
    (hkeys : fields.all (·.1.utf8ByteSize ≤ k) = true) (hvalues : ∀ value ∈ fields.map (·.2), value.length ≤ m)
    (hb : 5 + fields.length * (5 + k + m) ≤ b) : (packMap fields).length ≤ b := by
  have hsum : (fields.map (·.2.length)).sum ≤ fields.length * m := by
    clear hb hkeys
    induction fields with
    | nil => simp
    | cons field fields ih =>
      have hvalue := hvalues field.2 List.mem_cons_self
      have hrest := ih fun other hother => hvalues other (List.mem_cons_of_mem _ hother)
      rw [List.map_cons, List.sum_cons, List.length_cons, Nat.add_mul, Nat.one_mul]
      omega
  have hle := packMap_length_le_sum hkeys
  rw [Nat.mul_add] at hb
  omega

theorem packMap_ne_nil (fields : List (String × List UInt8)) : packMap fields ≠ [] := by
  unfold packMap
  dsimp only
  split_ifs <;> simp [bigEndian]

end MyKvm.Lib.MessagePack
