import Mathlib.Data.List.Nodup

/-!
# MyKvm.Lib.Grip — several grips on one target

A list of grips, each with the name of what grips and with its target.  A target goes down with its first grip and
up with its last.  `press` and `release` take the names from a function, so that one list can be read under two
names.

* `press_map`, `release_map`: the operations on the image of a list.
* `press_congr`, `release_congr`: two names which tell the same grips apart give the same answers.
* `release_eq_some`: what goes up is the target of the grip which is released, and only with its last grip.
* `mem_press_targets`, `mem_release_targets`: the targets which are held afterwards.
-/

namespace MyKvm.Lib.Grip

variable {α β κ ι τ : Type} [DecidableEq κ] [DecidableEq ι] [DecidableEq τ]

section Operations

variable (name : α → κ) (target : α → τ)

/-- Takes hold, unless the name holds already; the answer is the target which goes down. -/
def press (grips : List α) (a : α) : Option τ × List α :=
  if grips.any (name · == name a) then (none, grips)
  else (if grips.any (target · == target a) then none else some (target a), grips ++ [a])

/-- Lets go of what the name holds; the answer is the target which goes up. -/
def release (grips : List α) (k : κ) : Option τ × List α :=
  match grips.find? (name · == k) with
  | none => (none, grips)
  | some a =>
    let rest := grips.eraseP (name · == k)
    (if rest.any (target · == target a) then none else some (target a), rest)

end Operations

section Image

variable {name : α → κ} {target : α → τ} {name' : β → κ} {target' : β → τ} {f : α → β}

theorem press_map (hname : ∀ a, name' (f a) = name a) (htarget : ∀ a, target' (f a) = target a)
    (grips : List α) (a : α) :
    press name' target' (grips.map f) (f a) =
      ((press name target grips a).1, (press name target grips a).2.map f) := by
  unfold press
  simp only [List.any_map, Function.comp_def, hname, htarget]
  split
  · rfl
  · rw [List.map_append, List.map_singleton]

theorem release_map (hname : ∀ a, name' (f a) = name a) (htarget : ∀ a, target' (f a) = target a) (grips : List α)
    (k : κ) :
    release name' target' (grips.map f) k =
      ((release name target grips k).1, (release name target grips k).2.map f) := by
  unfold release
  simp only [List.find?_map, List.eraseP_map, Function.comp_def, hname]
  cases grips.find? (name · == k) with
  | none => rfl
  | some a => simp [List.any_map, Function.comp_def, htarget]

end Image

section Names

variable {name : α → κ} {name' : α → ι} {target : α → τ} {grips : List α}

theorem find?_congr {p q : α → Bool} {l : List α} (h : ∀ x ∈ l, p x = q x) : l.find? p = l.find? q := by
  induction l with
  | nil => rfl
  | cons x l ih =>
    rw [List.find?_cons, List.find?_cons, h x List.mem_cons_self, ih fun y hy => h y (List.mem_cons_of_mem _ hy)]

theorem eraseP_congr {p q : α → Bool} {l : List α} (h : ∀ x ∈ l, p x = q x) : l.eraseP p = l.eraseP q := by
  induction l with
  | nil => rfl
  | cons x l ih =>
    rw [List.eraseP_cons, List.eraseP_cons, h x List.mem_cons_self, ih fun y hy => h y (List.mem_cons_of_mem _ hy)]

/-- **Two names** which agree on whether `a` holds already. -/
theorem press_congr {a : α} (h : ∀ x ∈ grips, name x = name a ↔ name' x = name' a) :
    press name target grips a = press name' target grips a := by
  have hany : grips.any (name · == name a) = grips.any (name' · == name' a) := by
    rw [Bool.eq_iff_iff, List.any_eq_true, List.any_eq_true]
    constructor
    · rintro ⟨x, hx, heq⟩
      exact ⟨x, hx, beq_iff_eq.mpr ((h x hx).mp (beq_iff_eq.mp heq))⟩
    · rintro ⟨x, hx, heq⟩
      exact ⟨x, hx, beq_iff_eq.mpr ((h x hx).mpr (beq_iff_eq.mp heq))⟩
  unfold press
  rw [hany]

theorem release_congr {k : κ} {k' : ι} (h : ∀ x ∈ grips, name x = k ↔ name' x = k') :
    release name target grips k = release name' target grips k' := by
  have hsame : ∀ x ∈ grips, (name x == k) = (name' x == k') := by
    intro x hx
    rw [Bool.eq_iff_iff, beq_iff_eq, beq_iff_eq]
    exact h x hx
  unfold release
  rw [find?_congr hsame, eraseP_congr hsame]

/-! ### What the operations answer -/

theorem press_eq_some {a : α} {t : τ} :
    (press name target grips a).1 = some t ↔
      t = target a ∧ (∀ x ∈ grips, name x ≠ name a) ∧ ∀ x ∈ grips, target x ≠ target a := by
  unfold press
  by_cases hname : grips.any (name · == name a) = true
  · rw [if_pos hname]
    obtain ⟨x, hx, heq⟩ := List.any_eq_true.mp hname
    constructor
    · intro h
      cases h
    · rintro ⟨-, hnames, -⟩
      exact absurd (beq_iff_eq.mp heq) (hnames x hx)
  · rw [if_neg hname]
    have hnames : ∀ x ∈ grips, name x ≠ name a := by simpa using hname
    by_cases htarget : grips.any (target · == target a) = true
    · simp only [if_pos htarget]
      obtain ⟨x, hx, heq⟩ := List.any_eq_true.mp htarget
      constructor
      · intro h
        cases h
      · rintro ⟨-, -, htargets⟩
        exact absurd (beq_iff_eq.mp heq) (htargets x hx)
    · simp only [if_neg htarget]
      have htargets : ∀ x ∈ grips, target x ≠ target a := by simpa using htarget
      constructor
      · intro h
        exact ⟨(Option.some.inj h).symm, hnames, htargets⟩
      · rintro ⟨rfl, -, -⟩
        rfl

theorem press_nodup (h : (grips.map name).Nodup) (a : α) : ((press name target grips a).2.map name).Nodup := by
  unfold press
  split
  · exact h
  · rename_i hname
    have hnew : name a ∉ grips.map name := by
      intro hmem
      obtain ⟨x, hx, heq⟩ := List.mem_map.mp hmem
      exact hname (List.any_eq_true.mpr ⟨x, hx, beq_iff_eq.mpr heq⟩)
    rw [List.map_append, List.map_singleton, List.nodup_append]
    refine ⟨h, List.nodup_singleton _, ?_⟩
    rintro x hx y hy rfl
    rw [List.mem_singleton.mp hy] at hx
    exact hnew hx

theorem release_nodup (h : (grips.map name).Nodup) (k : κ) : ((release name target grips k).2.map name).Nodup := by
  unfold release
  split
  · exact h
  · exact h.sublist (List.eraseP_sublist.map name)

theorem eraseP_eq_filter (h : (grips.map name).Nodup) (k : κ) :
    grips.eraseP (name · == k) = grips.filter fun x => name x ≠ k := by
  induction grips with
  | nil => rfl
  | cons a rest ih =>
    rw [List.map_cons, List.nodup_cons] at h
    by_cases heq : name a = k
    · subst heq
      rw [List.eraseP_cons_of_pos (by simp), List.filter_cons_of_neg (by simp), List.filter_eq_self.mpr]
      intro x hx
      simp only [ne_eq, decide_not, Bool.not_eq_true', decide_eq_false_iff_not]
      intro hsame
      exact h.1 (List.mem_map.mpr ⟨x, hx, hsame⟩)
    · rw [List.eraseP_cons_of_neg (by simpa using heq), List.filter_cons_of_pos (by simpa using heq), ih h.2]

/-- The names are told apart, so the first grip of a name is its only one. -/
theorem find?_name (h : (grips.map name).Nodup) {a : α} (ha : a ∈ grips) :
    grips.find? (name · == name a) = some a := by
  have hsome : (grips.find? (name · == name a)).isSome := by
    rw [List.find?_isSome]
    exact ⟨a, ha, beq_iff_eq.mpr rfl⟩
  obtain ⟨b, hb⟩ := Option.isSome_iff_exists.mp hsome
  have hsame : name b = name a := by simpa using List.find?_some hb
  rw [hb, List.inj_on_of_nodup_map h (List.mem_of_find?_eq_some hb) ha hsame]

/-- Nothing goes up when the name holds nothing. -/
theorem release_eq_none {k : κ} (h : ∀ x ∈ grips, name x ≠ k) : release name target grips k = (none, grips) := by
  have hfind : grips.find? (name · == k) = none := by
    rw [List.find?_eq_none]
    intro x hx
    simpa using h x hx
  unfold release
  rw [hfind]

/-- **Only the last grip** lets its target go up. -/
theorem release_eq_some (h : (grips.map name).Nodup) {a : α} (ha : a ∈ grips) {t : τ} :
    (release name target grips (name a)).1 = some t ↔
      t = target a ∧ ∀ b ∈ grips, target b = target a → b = a := by
  have hrest : (grips.eraseP (name · == name a)).any (target · == target a) = true ↔
      ∃ b ∈ grips, target b = target a ∧ b ≠ a := by
    rw [eraseP_eq_filter h, List.any_eq_true]
    constructor
    · rintro ⟨b, hb, htarget⟩
      obtain ⟨hmem, hname⟩ := List.mem_filter.mp hb
      refine ⟨b, hmem, beq_iff_eq.mp htarget, ?_⟩
      rintro rfl
      simp at hname
    · rintro ⟨b, hmem, htarget, hne⟩
      refine ⟨b, List.mem_filter.mpr ⟨hmem, ?_⟩, beq_iff_eq.mpr htarget⟩
      simp only [ne_eq, decide_not, Bool.not_eq_true', decide_eq_false_iff_not]
      intro hname
      exact hne (List.inj_on_of_nodup_map h hmem ha hname)
  unfold release
  rw [find?_name h ha]
  dsimp only
  by_cases hother : ∃ b ∈ grips, target b = target a ∧ b ≠ a
  · rw [if_pos (hrest.mpr hother)]
    obtain ⟨b, hb, htarget, hne⟩ := hother
    constructor
    · intro heq
      cases heq
    · rintro ⟨-, hlast⟩
      exact absurd (hlast b hb htarget) hne
  · rw [if_neg fun hany => hother (hrest.mp hany)]
    push Not at hother
    constructor
    · intro heq
      exact ⟨(Option.some.inj heq).symm, hother⟩
    · rintro ⟨rfl, -⟩
      rfl

/-! ### What the operations leave -/

theorem mem_press {a x : α} :
    x ∈ (press name target grips a).2 ↔ x ∈ grips ∨ x = a ∧ ∀ y ∈ grips, name y ≠ name a := by
  unfold press
  by_cases hname : grips.any (name · == name a) = true
  · rw [if_pos hname]
    obtain ⟨y, hy, heq⟩ := List.any_eq_true.mp hname
    constructor
    · exact .inl
    · rintro (hx | ⟨-, hnames⟩)
      · exact hx
      · exact absurd (beq_iff_eq.mp heq) (hnames y hy)
  · rw [if_neg hname]
    have hnames : ∀ y ∈ grips, name y ≠ name a := by simpa using hname
    dsimp only
    rw [List.mem_append, List.mem_singleton]
    exact or_congr_right ⟨fun hx => ⟨hx, hnames⟩, And.left⟩

theorem release_snd (name : α → κ) (target : α → τ) (grips : List α) (k : κ) :
    (release name target grips k).2 = grips.eraseP (name · == k) := by
  unfold release
  split
  · rename_i hfind
    exact (List.eraseP_of_forall_not (List.find?_eq_none.mp hfind)).symm
  · rfl

theorem mem_release (h : (grips.map name).Nodup) {k : κ} {x : α} :
    x ∈ (release name target grips k).2 ↔ x ∈ grips ∧ name x ≠ k := by
  rw [release_snd, eraseP_eq_filter h, List.mem_filter, decide_eq_true_eq]

/-- The targets after a grip, with the one which has gone down. -/
theorem mem_press_targets {a : α} {t : τ} :
    t ∈ (press name target grips a).2.map target ↔
      t ∈ grips.map target ∨ (press name target grips a).1 = some t := by
  constructor
  · intro ht
    obtain ⟨x, hx, rfl⟩ := List.mem_map.mp ht
    rcases mem_press.mp hx with hx | ⟨rfl, hnames⟩
    · exact .inl (List.mem_map_of_mem hx)
    · by_cases hheld : target x ∈ grips.map target
      · exact .inl hheld
      · refine .inr (press_eq_some.mpr ⟨rfl, hnames, fun y hy heq => hheld ?_⟩)
        exact List.mem_map.mpr ⟨y, hy, heq⟩
  · rintro (ht | hdown)
    · obtain ⟨x, hx, rfl⟩ := List.mem_map.mp ht
      exact List.mem_map_of_mem (mem_press.mpr (.inl hx))
    · obtain ⟨rfl, hnames, -⟩ := press_eq_some.mp hdown
      exact List.mem_map_of_mem (mem_press.mpr (.inr ⟨rfl, hnames⟩))

/-- What goes down was up. -/
theorem not_mem_of_press {a : α} {t : τ} (h : (press name target grips a).1 = some t) : t ∉ grips.map target := by
  obtain ⟨rfl, -, htargets⟩ := press_eq_some.mp h
  intro ht
  obtain ⟨x, hx, heq⟩ := List.mem_map.mp ht
  exact htargets x hx heq

/-- The name holds something, or nothing happens. -/
theorem release_cases (name : α → κ) (target : α → τ) (grips : List α) (k : κ) :
    (∃ a ∈ grips, name a = k) ∨ release name target grips k = (none, grips) := by
  by_cases hheld : ∃ a ∈ grips, name a = k
  · exact .inl hheld
  · push Not at hheld
    exact .inr (release_eq_none hheld)

/-- What goes up was down. -/
theorem mem_of_release (h : (grips.map name).Nodup) {k : κ} {t : τ}
    (hup : (release name target grips k).1 = some t) :
    t ∈ grips.map target := by
  rcases release_cases name target grips k with ⟨a, ha, rfl⟩ | hnone
  · rw [(release_eq_some h ha).mp hup |>.1]
    exact List.mem_map_of_mem ha
  · rw [hnone] at hup
    cases hup

/-- The targets after a grip is let go, without the one which has gone up. -/
theorem mem_release_targets (h : (grips.map name).Nodup) {k : κ} {t : τ} :
    t ∈ (release name target grips k).2.map target ↔
      t ∈ grips.map target ∧ (release name target grips k).1 ≠ some t := by
  rcases release_cases name target grips k with ⟨a, ha, rfl⟩ | hnone
  · rw [ne_eq, release_eq_some h ha]
    constructor
    · intro ht
      obtain ⟨x, hx, rfl⟩ := List.mem_map.mp ht
      obtain ⟨hmem, hne⟩ := (mem_release h).mp hx
      refine ⟨List.mem_map_of_mem hmem, fun ⟨hsame, hlast⟩ => hne ?_⟩
      rw [hlast x hmem hsame]
    · rintro ⟨ht, hmore⟩
      obtain ⟨x, hx, rfl⟩ := List.mem_map.mp ht
      by_cases hname : name x = name a
      · -- the target is held by another grip too
        have hxa : x = a := List.inj_on_of_nodup_map h hx ha hname
        subst hxa
        have hother : ∃ b ∈ grips, target b = target x ∧ b ≠ x := by
          by_contra hlast
          push Not at hlast
          exact hmore ⟨rfl, hlast⟩
        obtain ⟨b, hb, htarget, hne⟩ := hother
        refine List.mem_map.mpr ⟨b, (mem_release h).mpr ⟨hb, fun hname => hne ?_⟩, htarget⟩
        exact List.inj_on_of_nodup_map h hb hx hname
      · exact List.mem_map_of_mem ((mem_release h).mpr ⟨hx, hname⟩)
  · rw [hnone]
    simp

end Names

end MyKvm.Lib.Grip
