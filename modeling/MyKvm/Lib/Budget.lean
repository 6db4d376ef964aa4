import Mathlib.Algebra.BigOperators.Group.List.Basic
import Mathlib.Data.List.Perm.Basic
import MyKvm.Lib.Word

/-!
# MyKvm.Lib.Budget — a shared counter with a limit

A word counts what is reserved.  A reservation is made by a loop: load the counter, add, compare with the limit,
and swap if the counter is still what was loaded; a swap may also fail for no reason.  It is given back by one
subtraction.  The steps of any number of loops and releases come in any order.

`Balanced` says that the counter is the sum of the reservations which are alive.

* `Balanced.load`, `Balanced.attempt`: the steps of a loop.
* `Balanced.release`: a release, which does not wrap around.
-/

namespace MyKvm.Lib

/-- A lap of the loop which has seen `current`: the sum overflows, it exceeds the limit, it is stored, or the loop
goes on with what is there. -/
inductive Lap where
  | overflow
  | exceeded (next : UInt64)
  | taken (next : UInt64)
  | again (current : UInt64)
  deriving DecidableEq

def lap (limit used current bytes : UInt64) (spurious : Bool) : Lap :=
  match checkedAdd current bytes with
  | none => .overflow
  | some next =>
    if limit < next then .exceeded next else
    if used = current ∧ spurious = false then .taken next else .again used

/-- One who reserves: in the loop, or with a reservation in hand. -/
inductive Holder (ρ : Type) where
  | reserving (purpose : ρ) (bytes current : UInt64)
  | holding (purpose : ρ) (bytes : UInt64)
  deriving DecidableEq

def Holder.reserved {ρ : Type} : Holder ρ → Option UInt64
  | .reserving _ _ _ => none
  | .holding _ bytes => some bytes

/-- The counter, and those who reserve. -/
structure Budget (ρ : Type) where
  used : UInt64
  holders : List (Holder ρ)
  deriving DecidableEq

namespace Budget

variable {ρ : Type}

/-- The reservations in hand. -/
def held (b : Budget ρ) : List UInt64 := b.holders.filterMap Holder.reserved

/-- The first load of a loop. -/
def load (b : Budget ρ) (purpose : ρ) (bytes : UInt64) : Budget ρ :=
  { b with holders := b.holders ++ [.reserving purpose bytes b.used] }

/-- The next lap of the loop of the holder `i`. -/
def attempt (limit : UInt64) (b : Budget ρ) (i : ℕ) (spurious : Bool) : Budget ρ :=
  match b.holders[i]? with
  | some (.reserving purpose bytes current) =>
    match lap limit b.used current bytes spurious with
    | .overflow | .exceeded _ => { b with holders := b.holders.eraseIdx i }
    | .taken next => { used := next, holders := b.holders.set i (.holding purpose bytes) }
    | .again current => { b with holders := b.holders.set i (.reserving purpose bytes current) }
  | _ => b

/-- What the holder `i` has in hand. -/
def inHand (b : Budget ρ) (i : ℕ) : Option (ρ × UInt64) :=
  match b.holders[i]? with
  | some (.holding purpose bytes) => some (purpose, bytes)
  | _ => none

/-- The holder `i` is gone, and its reservation is somewhere else. -/
def leave (b : Budget ρ) (i : ℕ) : Budget ρ := { b with holders := b.holders.eraseIdx i }

/-- `fetch_sub` -/
def release (b : Budget ρ) (bytes : UInt64) : Budget ρ := { b with used := b.used - bytes }

/-- The counter is the sum of what is alive, within the limit. -/
structure Balanced (limit used : UInt64) (live : List UInt64) : Prop where
  sum : used.toNat = (live.map UInt64.toNat).sum
  bounded : used ≤ limit

variable {limit used bytes : UInt64} {live live' rest : List UInt64} {b : Budget ρ} {i : ℕ}

theorem Balanced.perm (h : Balanced limit used live) (hperm : live'.Perm live) : Balanced limit used live' :=
  ⟨h.sum.trans (hperm.map UInt64.toNat).sum_eq.symm, h.bounded⟩

theorem balanced_nil (limit : UInt64) : Balanced limit 0 [] := ⟨rfl, UInt64.zero_le⟩

/-- No reservation is larger than the counter. -/
theorem Balanced.le_used (h : Balanced limit used live) (hmem : bytes ∈ live) : bytes ≤ used := by
  obtain ⟨before, after, rfl⟩ := List.append_of_mem hmem
  rw [UInt64.le_iff_toNat_le, h.sum, List.map_append, List.sum_append, List.map_cons, List.sum_cons]
  omega

/-- Without a reservation the counter is zero. -/
theorem Balanced.used_eq_zero (h : Balanced limit used []) : used = 0 :=
  UInt64.toNat_inj.mp h.sum

/-- A sum which is stored. -/
theorem Balanced.taken (h : Balanced limit used live) {current next : UInt64} {spurious : Bool}
    (hlap : lap limit used current bytes spurious = .taken next) : Balanced limit next (bytes :: live) := by
  unfold lap at hlap
  cases hadd : checkedAdd current bytes with
  | none =>
    rw [hadd] at hlap
    cases hlap
  | some sum =>
    rw [hadd] at hlap
    dsimp only at hlap
    split at hlap
    · cases hlap
    rename_i hlimit
    split at hlap
    · rename_i hswap
      cases hlap
      have hnext := checkedAdd_eq_some.mp hadd
      have hsum := h.sum
      refine ⟨?_, UInt64.not_lt.mp hlimit⟩
      rw [List.map_cons, List.sum_cons, ← hsum, hswap.1]
      omega
    · cases hlap

/-- **A release** takes no more than there is. -/
theorem Balanced.release (h : Balanced limit used (bytes :: live)) : Balanced limit (used - bytes) live := by
  have hle : bytes ≤ used := h.le_used List.mem_cons_self
  have hsum := h.sum
  have hbounded := UInt64.le_iff_toNat_le.mp h.bounded
  have hsub : (used - bytes).toNat = used.toNat - bytes.toNat := UInt64.toNat_sub_of_le used bytes hle
  rw [List.map_cons, List.sum_cons] at hsum
  refine ⟨by omega, ?_⟩
  rw [UInt64.le_iff_toNat_le]
  omega

/-! ### The loops -/

theorem held_eraseIdx {holder : Holder ρ} (h : b.holders[i]? = some holder) :
    b.held.Perm (holder.reserved.toList ++ (b.holders.eraseIdx i).filterMap Holder.reserved) := by
  obtain ⟨hlt, rfl⟩ := List.getElem?_eq_some_iff.mp h
  have hperm := (List.getElem_cons_eraseIdx_perm hlt).symm.filterMap Holder.reserved
  refine hperm.trans ?_
  rw [List.filterMap_cons]
  cases b.holders[i].reserved <;> exact List.Perm.refl _

theorem held_set {holder : Holder ρ} (h : i < b.holders.length) :
    ((b.holders.set i holder).filterMap Holder.reserved).Perm
      (holder.reserved.toList ++ (b.holders.eraseIdx i).filterMap Holder.reserved) := by
  have hperm := (List.set_perm_cons_eraseIdx h holder).filterMap Holder.reserved
  refine hperm.trans ?_
  rw [List.filterMap_cons]
  cases holder.reserved <;> exact List.Perm.refl _

/-- What is in hand goes somewhere else. -/
theorem held_leave {purpose : ρ} (h : b.inHand i = some (purpose, bytes)) :
    b.held.Perm (bytes :: (b.leave i).held) := by
  unfold inHand at h
  split at h
  · rename_i heq
    cases h
    exact held_eraseIdx heq
  · cases h

/-- What is pushed at the end of a queue is one more of those which are alive. -/
theorem perm_pushed (held queue others : List UInt64) (bytes : UInt64) :
    (held ++ ((queue ++ [bytes]) ++ others)).Perm (bytes :: (held ++ (queue ++ others))) := by
  rw [List.append_assoc, ← List.append_assoc, List.singleton_append, ← List.append_assoc]
  exact List.perm_middle

theorem held_load (b : Budget ρ) (purpose : ρ) (bytes : UInt64) : (b.load purpose bytes).held = b.held := by
  unfold held load
  rw [List.filterMap_append]
  exact List.append_nil _

/-- A loop begins. -/
theorem Balanced.load (h : Balanced limit b.used (b.held ++ rest)) (purpose : ρ) (bytes : UInt64) :
    Balanced limit (b.load purpose bytes).used ((b.load purpose bytes).held ++ rest) := by
  rw [held_load]
  exact h

/-- **A lap of a loop** keeps the balance. -/
theorem Balanced.attempt (h : Balanced limit b.used (b.held ++ rest)) (i : ℕ) (spurious : Bool) :
    Balanced limit (b.attempt limit i spurious).used ((b.attempt limit i spurious).held ++ rest) := by
  unfold Budget.attempt
  split
  · rename_i purpose bytes current hholder
    obtain ⟨hlt, -⟩ := List.getElem?_eq_some_iff.mp hholder
    have hsame : b.held.Perm ((b.holders.eraseIdx i).filterMap Holder.reserved) := held_eraseIdx hholder
    split
    · exact h.perm (hsame.symm.append_right rest)
    · exact h.perm (hsame.symm.append_right rest)
    · rename_i next hlap
      have hset : ((b.holders.set i (.holding purpose bytes)).filterMap Holder.reserved).Perm (bytes :: b.held) :=
        (held_set hlt).trans (hsame.symm.cons bytes)
      exact (h.taken hlap).perm (hset.append_right rest)
    · rename_i current' hlap
      have hset : ((b.holders.set i (.reserving purpose bytes current')).filterMap Holder.reserved).Perm b.held :=
        (held_set hlt).trans hsame.symm
      exact h.perm (hset.append_right rest)
  · exact h

end Budget

end MyKvm.Lib
