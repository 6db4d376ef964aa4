import MyKvm.Lib.Feed

/-!
# MyKvm.Lib.Latest — the newest entry wins

Items and samples arrive in some order, and each of them may say where something is: a sample with its own stamp,
an item with the stamp of the sample which it carries (`mark = 0`: it says nothing).  `newest log` is the entry
which wins, of the entries which have arrived (newest first): the greatest stamp, an item before the sample which
it carries, and the later of two such items.  `IsNewest` says the same of one entry of the log.

A consumer shows one entry and keeps at most one sample which is not due yet.  `Settles` is its invariant: of all
that has arrived, the winner is the sample which waits, if that is newer than what is shown, and otherwise what is
shown.
-/

namespace MyKvm.Lib.Feed

variable {α β : Type*}

def Entry.isItem : Entry α β → Bool
  | .item _ => true
  | .sample _ => false

variable (n : Numbers α β)

/-- The sample which an entry is or carries. -/
def Numbers.rank : Entry α β → ℕ
  | .item a => n.mark a
  | .sample b => n.stamp b

/-- A later entry takes the place of an earlier one. -/
def Supersedes (later earlier : Entry α β) : Prop :=
  n.rank earlier < n.rank later ∨ (n.rank earlier = n.rank later ∧ later.isItem = true)

instance (later earlier : Entry α β) : Decidable (Supersedes n later earlier) :=
  inferInstanceAs (Decidable (_ ∨ _))

/-- **The entry which wins.** -/
def newest : List (Entry α β) → Option (Entry α β)
  | [] => none
  | entry :: log =>
    match newest log with
    | none => if n.rank entry = 0 then none else some entry
    | some best => if Supersedes n entry best then some entry else some best

/-- The entry takes the place of all before it, and none after it takes its place. -/
def IsNewest (log : List (Entry α β)) (entry : Entry α β) : Prop :=
  ∃ later earlier, log = later ++ entry :: earlier ∧ n.rank entry ≠ 0 ∧ (∀ o ∈ earlier, Supersedes n entry o) ∧
    ∀ o ∈ later, ¬ Supersedes n o entry

section Newest

variable {n} {log : List (Entry α β)} {entry best : Entry α β}

theorem newest_cons_of_none (h : newest n log = none) (hrank : n.rank entry ≠ 0) :
    newest n (entry :: log) = some entry := by
  rw [newest, h]
  exact if_neg hrank

theorem newest_cons_of_supersedes (h : newest n log = some best) (hover : Supersedes n entry best) :
    newest n (entry :: log) = some entry := by
  rw [newest, h]
  exact if_pos hover

theorem newest_cons_of_not (h : newest n log = some best) (hover : ¬ Supersedes n entry best) :
    newest n (entry :: log) = some best := by
  rw [newest, h]
  exact if_neg hover

/-- An entry of rank zero says nothing. -/
theorem newest_cons_of_rank_zero (hrank : n.rank entry = 0)
    (hbest : ∀ best, newest n log = some best → n.rank best ≠ 0) :
    newest n (entry :: log) = newest n log := by
  cases h : newest n log with
  | none =>
    rw [newest, h]
    exact if_pos hrank
  | some best =>
    refine newest_cons_of_not h ?_
    have hzero := hbest best h
    rintro (hlt | ⟨heq, -⟩)
    · omega
    · omega

theorem mem_of_newest (h : newest n log = some best) : best ∈ log := by
  induction log with
  | nil => cases h
  | cons entry log ih =>
    rw [newest] at h
    split at h
    · split at h
      · cases h
      · cases h
        exact List.mem_cons_self
    · rename_i b hlog
      split at h
      · cases h
        exact List.mem_cons_self
      · cases h
        exact List.mem_cons_of_mem entry (ih hlog)

theorem rank_newest_ne_zero (h : newest n log = some best) : n.rank best ≠ 0 := by
  induction log generalizing best with
  | nil => cases h
  | cons entry log ih =>
    rw [newest] at h
    split at h
    · split at h
      · cases h
      · cases h
        assumption
    · rename_i b hlog
      split at h
      · rename_i hover
        cases h
        have hb := ih hlog
        rcases hover with hlt | ⟨heq, -⟩
        · omega
        · omega
      · cases h
        exact ih hlog

theorem newest_eq_none (h : ∀ entry ∈ log, n.rank entry = 0) : newest n log = none := by
  by_contra hne
  obtain ⟨best, hbest⟩ := Option.ne_none_iff_exists'.mp hne
  exact rank_newest_ne_zero hbest (h best (mem_of_newest hbest))

/-- **What wins is the newest.** -/
theorem IsNewest.newest_eq (h : IsNewest n log entry) : newest n log = some entry := by
  obtain ⟨later, earlier, rfl, hrank, hearlier, hlater⟩ := h
  induction later with
  | nil =>
    show newest n (entry :: earlier) = some entry
    cases hbest : newest n earlier with
    | none => exact newest_cons_of_none hbest hrank
    | some best => exact newest_cons_of_supersedes hbest (hearlier best (mem_of_newest hbest))
  | cons o later ih =>
    have hrest := ih fun o' ho' => hlater o' (List.mem_cons_of_mem o ho')
    exact newest_cons_of_not hrest (hlater o List.mem_cons_self)

end Newest

/-! ### A consumer with one place to wait -/

/-- The winner, if `shown` is shown, up to the sample `top`, and `pending` waits. -/
def ahead (top : ℕ) (shown : Option (Entry α β)) : Option β → Option (Entry α β)
  | none => shown
  | some b => if top < n.stamp b then some (.sample b) else shown

/-- Nothing newer has arrived than what is shown and what waits. -/
structure Settles (log : List (Entry α β)) (top : ℕ) (shown : Option (Entry α β)) (pending : Option β) : Prop where
  top_eq : shown.elim 0 n.rank = top
  newest_eq : newest n log = ahead n top shown pending

section Settles

variable {n} {log : List (Entry α β)} {top : ℕ} {shown : Option (Entry α β)} {pending : Option β}

theorem settles_nil : Settles n [] 0 none none := ⟨rfl, rfl⟩

theorem ahead_of_lt {b : β} (h : top < n.stamp b) : ahead n top shown (some b) = some (.sample b) := if_pos h

theorem ahead_of_le {b : β} (h : n.stamp b ≤ top) : ahead n top shown (some b) = shown := if_neg (by omega)

/-- The rank of the winner. -/
theorem Settles.rank_newest {best : Entry α β} (h : Settles n log top shown pending)
    (hbest : newest n log = some best) :
    (shown = some best ∧ n.rank best = top) ∨ ∃ b, pending = some b ∧ best = .sample b ∧ top < n.stamp b := by
  have htop := h.top_eq
  rw [h.newest_eq] at hbest
  unfold ahead at hbest
  split at hbest
  · rw [hbest] at htop
    exact Or.inl ⟨hbest, htop⟩
  · rename_i b
    split at hbest
    · rename_i hlt
      exact Or.inr ⟨b, rfl, (Option.some.inj hbest).symm, hlt⟩
    · rw [hbest] at htop
      exact Or.inl ⟨hbest, htop⟩

/-- As long as nothing wins, nothing is shown. -/
theorem Settles.shown_eq_none (h : Settles n log top shown pending) (hnone : newest n log = none) :
    shown = none := by
  have hahead := h.newest_eq.symm.trans hnone
  unfold ahead at hahead
  split at hahead
  · exact hahead
  · split at hahead
    · cases hahead
    · exact hahead

/-- An item which carries no older sample is shown. -/
theorem Settles.item {a : α} (h : Settles n log top shown pending) (hmark : n.mark a ≠ 0) (htop : top ≤ n.mark a) :
    Settles n (.item a :: log) (n.mark a) (some (.item a)) pending := by
  refine ⟨rfl, ?_⟩
  cases hbest : newest n log with
  | none =>
    rw [newest_cons_of_none hbest (show n.rank (.item a) ≠ 0 from hmark)]
    have hahead := h.newest_eq.symm.trans hbest
    cases pending with
    | none => rfl
    | some b =>
      have hle : n.stamp b ≤ top := by
        by_contra hlt
        rw [ahead_of_lt (not_le.mp hlt)] at hahead
        cases hahead
      exact (ahead_of_le (hle.trans htop)).symm
  | some best =>
    rcases h.rank_newest hbest with ⟨hshown, hrank⟩ | ⟨b, rfl, rfl, hlt⟩
    · have hover : Supersedes n (.item a) best := by
        by_cases heq : n.rank best = n.mark a
        · exact Or.inr ⟨heq, rfl⟩
        · have hle : n.rank best ≤ n.mark a := hrank.le.trans htop
          exact Or.inl (lt_of_le_of_ne hle heq)
      rw [newest_cons_of_supersedes hbest hover]
      cases pending with
      | none => rfl
      | some b =>
        by_cases hle : n.stamp b ≤ n.mark a
        · exact (ahead_of_le hle).symm
        · -- then the sample which waits would have won before
          have hahead := h.newest_eq.symm.trans hbest
          rw [ahead_of_lt (by omega)] at hahead
          obtain rfl := Option.some.inj hahead
          have hstamp : n.stamp b = top := hrank
          omega
    · by_cases hle : n.stamp b ≤ n.mark a
      · have hover : Supersedes n (.item a) (.sample b) := by
          by_cases heq : n.stamp b = n.mark a
          · exact Or.inr ⟨heq, rfl⟩
          · exact Or.inl (lt_of_le_of_ne hle heq)
        rw [newest_cons_of_supersedes hbest hover, ahead_of_le hle]
      · have hover : ¬ Supersedes n (.item a) (.sample b) := by
          rintro (hlt' | ⟨heq, -⟩)
          · exact hle (Nat.le_of_lt hlt')
          · exact hle (Nat.le_of_eq heq)
        rw [newest_cons_of_not hbest hover, ahead_of_lt (not_le.mp hle)]

/-- An item which carries none says nothing. -/
theorem Settles.bare {a : α} (h : Settles n log top shown pending) (hmark : n.mark a = 0) :
    Settles n (.item a :: log) top shown pending :=
  ⟨h.top_eq, (newest_cons_of_rank_zero (show n.rank (.item a) = 0 from hmark) fun _ =>
    rank_newest_ne_zero).trans h.newest_eq⟩

/-- A sample which is not newer than the winner changes nothing. -/
theorem Settles.behind {b : β} {best : Entry α β} (h : Settles n log top shown pending)
    (hbest : newest n log = some best) (hle : n.stamp b ≤ n.rank best) :
    Settles n (.sample b :: log) top shown pending := by
  refine ⟨h.top_eq, ?_⟩
  have hover : ¬ Supersedes n (.sample b) best := by
    rintro (hlt | ⟨-, hitem⟩)
    · exact absurd hlt (not_lt.mpr hle)
    · cases hitem
  rw [newest_cons_of_not hbest hover, ← hbest]
  exact h.newest_eq

/-- A sample which is not newer than what is shown is stale. -/
theorem Settles.stale {b : β} (h : Settles n log top shown pending) (hstale : n.stamp b ≤ top) :
    Settles n (.sample b :: log) top shown pending := by
  cases hbest : newest n log with
  | none =>
    have htop := h.top_eq
    rw [h.shown_eq_none hbest] at htop
    have hzero : n.rank (.sample b) = 0 := Nat.le_zero.mp (hstale.trans htop.symm.le)
    exact ⟨h.top_eq, (newest_cons_of_rank_zero hzero fun _ => rank_newest_ne_zero).trans h.newest_eq⟩
  | some best =>
    rcases h.rank_newest hbest with ⟨-, hrank⟩ | ⟨b', -, rfl, hlt⟩
    · exact h.behind hbest (hstale.trans hrank.symm.le)
    · exact h.behind hbest (hstale.trans hlt.le)

/-- A sample which is newer than what is shown and what waits. -/
theorem Settles.newest_sample {b : β} (h : Settles n log top shown pending) (hnew : top < n.stamp b)
    (hpending : ∀ b', pending = some b' → n.stamp b' < n.stamp b) :
    newest n (.sample b :: log) = some (.sample b) := by
  cases hbest : newest n log with
  | none => exact newest_cons_of_none hbest (show n.stamp b ≠ 0 by omega)
  | some best =>
    refine newest_cons_of_supersedes hbest (Or.inl ?_)
    rcases h.rank_newest hbest with ⟨-, hrank⟩ | ⟨b', hb', rfl, -⟩
    · exact hrank.trans_lt hnew
    · exact hpending b' hb'

/-- It waits, in place of what waited. -/
theorem Settles.waits {b : β} (h : Settles n log top shown pending) (hnew : top < n.stamp b)
    (hpending : ∀ b', pending = some b' → n.stamp b' < n.stamp b) :
    Settles n (.sample b :: log) top shown (some b) :=
  ⟨h.top_eq, (h.newest_sample hnew hpending).trans (ahead_of_lt hnew).symm⟩

/-- A newer one waits already. -/
theorem Settles.outdone {b b' : β} (h : Settles n log top shown (some b')) (hnew : top < n.stamp b)
    (hle : n.stamp b ≤ n.stamp b') : Settles n (.sample b :: log) top shown (some b') :=
  h.behind (h.newest_eq.trans (ahead_of_lt (hnew.trans_le hle))) hle

/-- A sample which is due is shown; a newer one may go on waiting. -/
theorem Settles.due {b : β} (h : Settles n log top shown pending) (hnew : top < n.stamp b)
    (hpending : ∀ b', pending = some b' → n.stamp b' ≠ n.stamp b) :
    Settles n (.sample b :: log) (n.stamp b) (some (.sample b)) pending := by
  refine ⟨rfl, ?_⟩
  cases pending with
  | none => exact h.newest_sample hnew (by simp)
  | some b' =>
    rcases lt_or_gt_of_ne (hpending b' rfl) with hlt | hgt
    · rw [h.newest_sample hnew (fun b'' hb'' => Option.some.inj hb'' ▸ hlt), ahead_of_le hlt.le]
    · have hbest := h.newest_eq.trans (ahead_of_lt (hnew.trans hgt))
      have hover : ¬ Supersedes n (.sample b) (.sample b') := by
        rintro (hlt | ⟨-, hitem⟩)
        · exact absurd hlt (not_lt.mpr hgt.le)
        · cases hitem
      rw [newest_cons_of_not hbest hover, ahead_of_lt hgt]

/-- What waited is shown, if it is newer. -/
theorem Settles.flushed {b : β} (h : Settles n log top shown (some b)) (hnew : top < n.stamp b) :
    Settles n log (n.stamp b) (some (.sample b)) none :=
  ⟨rfl, h.newest_eq.trans (ahead_of_lt hnew)⟩

/-- Otherwise it is dropped. -/
theorem Settles.dropped {b : β} (h : Settles n log top shown (some b)) (hold : n.stamp b ≤ top) :
    Settles n log top shown none :=
  ⟨h.top_eq, h.newest_eq.trans (ahead_of_le hold)⟩

/-- **Once nothing waits, the newest is shown.** -/
theorem Settles.shown_eq {entry : Entry α β} (h : Settles n log top shown none) (hnewest : IsNewest n log entry) :
    shown = some entry :=
  h.newest_eq.symm.trans hnewest.newest_eq

end Settles

end MyKvm.Lib.Feed
