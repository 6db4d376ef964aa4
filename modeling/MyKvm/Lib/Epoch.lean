import MyKvm.Lib.Machine
import Mathlib.Order.Lattice

/-!
# MyKvm.Lib.Epoch — reservations which a cancellation outdates

A gate is shut or open.  A client reserves an epoch (the gate shuts, the epoch moves on), prepares, and commits,
which opens the gate; anybody may cancel at any time, which shuts the gate and outdates every epoch reserved so
far.  The epochs are a linear order with a ceiling `top` where the counter of an implementation stops: a
cancellation moves the epoch on unless it is at the ceiling already, and only epochs below the ceiling are ever
reserved.

* `lt_of_cancelled`: once a reservation is cancelled the epoch has passed it, for good.
* `reserve_strictMono`: no epoch is reserved twice.
-/

namespace MyKvm.Lib.Epoch

variable {α : Type*} [LinearOrder α]

/-- The gate: the current epoch, and whether a commit has opened it. -/
structure State (α : Type*) where
  epoch : α
  opened : Bool

/-- What happens to a gate; `cancel` and `reserve` carry the epoch they move to. -/
inductive Event (α : Type*) where
  | cancel (epoch : α)
  | reserve (epoch : α)
  | commit
  | idle

/-- The effect of an event. -/
def next : State α → Event α → State α
  | _, .cancel e => ⟨e, false⟩
  | _, .reserve e => ⟨e, false⟩
  | s, .commit => ⟨s.epoch, true⟩
  | s, .idle => s

/-- The events a gate with ceiling `top` admits. -/
def Legal (top : α) : State α → Event α → Prop
  | s, .cancel e => s.epoch < e ∨ (top ≤ s.epoch ∧ e = s.epoch)
  | s, .reserve e => s.epoch < e ∧ e < top
  | _, .commit => True
  | _, .idle => True

variable {top : α}

theorem epoch_le_next {s : State α} {ev : Event α} (h : Legal top s ev) : s.epoch ≤ (next s ev).epoch := by
  cases ev with
  | cancel e => exact h.elim le_of_lt (fun h => h.2.ge)
  | reserve e => exact h.1.le
  | commit => exact le_rfl
  | idle => exact le_rfl

/-- The epoch never moves back. -/
theorem epoch_le_run {s : State α} {evs : List (Event α)} (h : Meets next (Legal top) s evs) :
    s.epoch ≤ (run next s evs).epoch :=
  run_keeps (I := fun s' => s.epoch ≤ s'.epoch) (fun _ _ hle hl => hle.trans (epoch_le_next hl)) le_rfl h

/-- A cancellation passes every epoch below the ceiling. -/
theorem lt_of_cancel {s : State α} {e c : α} (he : e ≤ s.epoch) (htop : e < top)
    (h : Legal top s (.cancel c)) : e < c := by
  rcases h with hlt | ⟨hceil, rfl⟩
  · exact he.trans_lt hlt
  · exact htop.trans_le hceil

/-- **Dominance.**  After a cancellation of a reserved epoch the gate has passed it, whatever comes later. -/
theorem lt_of_cancelled {s : State α} {pre mid post : List (Event α)} {e c : α}
    (h : Meets next (Legal top) s (pre ++ .reserve e :: (mid ++ .cancel c :: post))) :
    e < (run next s (pre ++ .reserve e :: (mid ++ .cancel c :: post))).epoch := by
  rw [meets_append, meets_cons, meets_append, meets_cons] at h
  obtain ⟨-, hres, hmid, hcan, hpost⟩ := h
  have hmono := epoch_le_run hmid
  have hpass : e < c := lt_of_cancel hmono hres.2 hcan
  rw [run_append, run_cons, run_append, run_cons]
  exact hpass.trans_le (epoch_le_run hpost)

/-- **Freshness.**  A later reservation is of a larger epoch. -/
theorem reserve_strictMono {s : State α} {pre mid post : List (Event α)} {e e' : α}
    (h : Meets next (Legal top) s (pre ++ .reserve e :: (mid ++ .reserve e' :: post))) : e < e' := by
  rw [meets_append, meets_cons, meets_append, meets_cons] at h
  obtain ⟨-, -, hmid, hres, -⟩ := h
  exact lt_of_le_of_lt (epoch_le_run hmid) hres.1

end MyKvm.Lib.Epoch
