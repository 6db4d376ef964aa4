import Mathlib.Data.List.Pairwise

/-!
# MyKvm.Lib.BitFlags — a word as a set of flags

A flag is a mask: one bit of the word, or several.  `unionOf` is the word of a list of flags.  As long as the flags
are `Apart`, setting one with an or is adding it to the list, clearing one with an and-not is removing it
(`unionOf_filter`), and words are equal when the lists have the same flags (`unionOf_eq_iff`).
-/

namespace MyKvm.Lib

def unionOf (flags : List UInt64) : UInt64 := flags.foldr (· ||| ·) 0

@[simp] theorem unionOf_nil : unionOf [] = 0 := rfl

@[simp] theorem unionOf_cons (f : UInt64) (flags : List UInt64) : unionOf (f :: flags) = f ||| unionOf flags := rfl

/-- Each flag has bits, and no bit of another. -/
structure Apart (flags : List UInt64) : Prop where
  nonzero : ∀ f ∈ flags, f ≠ 0
  disjoint : flags.Pairwise fun f g => f &&& g = 0

/-! ### Masks -/

theorem or_and_distrib (v w mask : UInt64) : (v ||| w) &&& mask = (v &&& mask) ||| (w &&& mask) := by
  refine UInt64.toBitVec_inj.mp ?_
  ext i hi
  simp [Bool.and_or_distrib_right]

theorem or_and_self (v f : UInt64) : (f ||| v) &&& f = f := by
  refine UInt64.toBitVec_inj.mp ?_
  ext i hi
  simpa using fun hbit => .inl hbit

/-- What has no bit of a flag is left when the flag is cleared. -/
theorem and_not_of_and_eq_zero {v f : UInt64} (h : v &&& f = 0) : v &&& ~~~f = v := by
  calc v &&& ~~~f = 0 ||| (v &&& ~~~f) := by simp
    _ = (v &&& f) ||| (v &&& ~~~f) := by rw [h]
    _ = (f ||| ~~~f) &&& v := by rw [or_and_distrib, UInt64.and_comm v, UInt64.and_comm v]
    _ = v := by simp

/-! ### The word of a list -/

theorem unionOf_and (flags : List UInt64) (mask : UInt64) :
    unionOf flags &&& mask = unionOf (flags.map (· &&& mask)) := by
  induction flags with
  | nil => simp
  | cons f flags ih => rw [unionOf_cons, or_and_distrib, ih, List.map_cons, unionOf_cons]

/-- A mask which covers each flag covers their union. -/
theorem unionOf_and_of_forall {flags : List UInt64} {mask : UInt64} (h : ∀ f ∈ flags, f &&& mask = f) :
    unionOf flags &&& mask = unionOf flags := by
  have hsame : flags.map (· &&& mask) = flags := by
    calc flags.map (· &&& mask) = flags.map id := List.map_congr_left h
      _ = flags := List.map_id _
  rw [unionOf_and, hsame]

theorem unionOf_and_eq_zero {flags : List UInt64} {mask : UInt64} (h : ∀ f ∈ flags, f &&& mask = 0) :
    unionOf flags &&& mask = 0 := by
  induction flags with
  | nil => simp
  | cons f flags ih =>
    rw [unionOf_cons, or_and_distrib, h f List.mem_cons_self, ih fun g hg => h g (List.mem_cons_of_mem _ hg)]
    rfl

/-- A flag of the list adds nothing to its union. -/
theorem or_unionOf_of_mem {flags : List UInt64} {f : UInt64} (h : f ∈ flags) :
    f ||| unionOf flags = unionOf flags := by
  induction flags with
  | nil => simp at h
  | cons g flags ih =>
    rw [unionOf_cons]
    rcases List.mem_cons.mp h with rfl | h
    · rw [← UInt64.or_assoc, UInt64.or_self]
    · rw [← UInt64.or_assoc, UInt64.or_comm f g, UInt64.or_assoc, ih h]

theorem and_unionOf_of_mem {flags : List UInt64} {f : UInt64} (h : f ∈ flags) : f &&& unionOf flags = f := by
  rw [← or_unionOf_of_mem h, UInt64.and_comm, or_and_self]

theorem unionOf_or_of_subset {flags others : List UInt64} (h : flags ⊆ others) :
    unionOf flags ||| unionOf others = unionOf others := by
  induction flags with
  | nil => simp
  | cons f flags ih =>
    obtain ⟨hf, hrest⟩ := List.cons_subset.mp h
    rw [unionOf_cons, UInt64.or_assoc, ih hrest, or_unionOf_of_mem hf]

/-! ### Flags which are apart -/

variable {known flags others : List UInt64} {f : UInt64}

theorem Apart.sublist (h : Apart known) (hsub : flags.Sublist known) : Apart flags :=
  ⟨fun f hf => h.nonzero f (hsub.subset hf), h.disjoint.sublist hsub⟩

theorem Apart.and_eq_zero (h : Apart known) {g : UInt64} (hf : f ∈ known) (hg : g ∈ known) (hne : f ≠ g) :
    f &&& g = 0 := by
  have hsymm : Std.Symm fun f g : UInt64 => f &&& g = 0 := ⟨fun a b hab => by rw [UInt64.and_comm, hab]⟩
  exact h.disjoint.forall hf hg hne

/-- The union shows which flags it is of. -/
theorem Apart.unionOf_and_eq_zero_iff (h : Apart known) (hflags : flags ⊆ known) (hf : f ∈ known) :
    unionOf flags &&& f = 0 ↔ f ∉ flags := by
  constructor
  · intro hzero hmem
    rw [UInt64.and_comm, and_unionOf_of_mem hmem] at hzero
    exact h.nonzero f hf hzero
  · intro hmem
    refine unionOf_and_eq_zero fun g hg => h.and_eq_zero (hflags hg) hf ?_
    rintro rfl
    exact hmem hg

/-- **Clearing a flag** removes it from the list. -/
theorem Apart.unionOf_filter (h : Apart known) (hflags : flags ⊆ known) (hf : f ∈ known) :
    unionOf (flags.filter (· ≠ f)) = unionOf flags &&& ~~~f := by
  induction flags with
  | nil => simp
  | cons g flags ih =>
    obtain ⟨hg, hrest⟩ := List.cons_subset.mp hflags
    rw [unionOf_cons, or_and_distrib, ← ih hrest]
    by_cases hsame : g = f
    · subst hsame
      simp
    · rw [and_not_of_and_eq_zero (h.and_eq_zero hg hf hsame), List.filter_cons_of_pos (by simpa using hsame),
        unionOf_cons]

/-- **Words are equal** when they are the unions of the same flags. -/
theorem Apart.unionOf_eq_iff (h : Apart known) (hflags : flags ⊆ known) (hothers : others ⊆ known) :
    unionOf flags = unionOf others ↔ ∀ f, f ∈ flags ↔ f ∈ others := by
  constructor
  · intro heq f
    by_cases hf : f ∈ known
    · have hzero := h.unionOf_and_eq_zero_iff hothers hf
      rw [← heq, h.unionOf_and_eq_zero_iff hflags hf] at hzero
      exact not_iff_not.mp hzero
    · exact ⟨fun hmem => absurd (hflags hmem) hf, fun hmem => absurd (hothers hmem) hf⟩
  · intro hsame
    calc unionOf flags = unionOf others ||| unionOf flags :=
          (unionOf_or_of_subset fun f hf => (hsame f).mpr hf).symm
      _ = unionOf flags ||| unionOf others := UInt64.or_comm ..
      _ = unionOf others := unionOf_or_of_subset fun f hf => (hsame f).mp hf

end MyKvm.Lib
