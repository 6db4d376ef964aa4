import Mathlib.Data.List.Induction
import MyKvm.Lib.Held

/-!
# MyKvm.Lib.Alternation — presses and releases in turn

The presses and releases of one target, in the order of a log.  A log is lawful for a ledger when every target is
pressed and released in turn, first pressed, and the targets which are down are those of the ledger.

* `Lawful.none`, `Lawful.presses`, `Lawful.lifts`: one more command, or none.
* `Lawful.releases`: a release of every target in the ledger.
-/

namespace MyKvm.Lib.Held

section Alternation

variable {κ τ : Type} [DecidableEq τ] (stroke : κ → Option (τ × Edge))

/-- The presses and releases of `t`. -/
def edges (t : τ) (log : List κ) : List Edge :=
  log.filterMap fun c => (stroke c).bind fun s => if s.1 = t then some s.2 else none

/-- Down, up, down, up. -/
def Alternates (es : List Edge) : Prop :=
  ∀ i (h : i < es.length), es[i] = if i % 2 = 0 then .down else .up

/-- The log, oldest first, and the targets which it leaves down. -/
structure Lawful (log : List κ) (ledger : List τ) : Prop where
  alternates : ∀ t, Alternates (edges stroke t log)
  held : ∀ t, t ∈ held stroke log.reverse ↔ t ∈ ledger

theorem alternates_nil : Alternates [] := fun _ h => absurd h (Nat.not_lt_zero _)

theorem Alternates.append {es : List Edge} (h : Alternates es) {e : Edge}
    (he : e = if es.length % 2 = 0 then .down else .up) : Alternates (es ++ [e]) := by
  intro i hi
  rw [List.length_append, List.length_singleton] at hi
  by_cases hlast : i = es.length
  · subst hlast
    rw [List.getElem_append_right (Nat.le_refl _), ← he]
    simp
  · rw [List.getElem_append_left (by omega)]
    exact h i (by omega)

/-- What alternates has been pressed once more than released, or as often. -/
theorem Alternates.getLast?_eq_down {es : List Edge} (h : Alternates es) :
    es.getLast? = some .down ↔ es.length % 2 = 1 := by
  by_cases hnil : es = []
  · subst hnil
    simp
  have hpos : 0 < es.length := List.length_pos_iff.mpr hnil
  rw [List.getLast?_eq_getElem?, List.getElem?_eq_getElem (by omega), h _ (by omega)]
  split
  · constructor
    · omega
    · intro _
      rfl
  · constructor
    · intro heq
      cases heq
    · omega

variable {stroke} {log : List κ} {ledger ledger' : List τ} {c : κ} {t : τ}

theorem edges_append (t : τ) (log more : List κ) :
    edges stroke t (log ++ more) = edges stroke t log ++ edges stroke t more :=
  List.filterMap_append

theorem edges_none (hc : stroke c = none) (t : τ) : edges stroke t [c] = [] := by simp [edges, hc]

theorem edges_self {e : Edge} (hc : stroke c = some (t, e)) : edges stroke t [c] = [e] := by simp [edges, hc]

theorem edges_other {t' : τ} {e : Edge} (hc : stroke c = some (t', e)) (hne : t' ≠ t) :
    edges stroke t [c] = [] := by
  simp [edges, hc, hne]

/-- A target is down when it was pressed last. -/
theorem mem_held_reverse (t : τ) (log : List κ) :
    t ∈ held stroke log.reverse ↔ (edges stroke t log).getLast? = some .down := by
  induction log using List.reverseRecOn with
  | nil => simp [held, edges]
  | append_singleton log c ih =>
    rw [List.reverse_append, List.reverse_singleton, List.singleton_append, held, edges_append]
    cases hc : stroke c with
    | none => rw [edges_none hc, List.append_nil, ih]
    | some s =>
      obtain ⟨t', e⟩ := s
      by_cases hsame : t' = t
      · subst hsame
        rw [edges_self hc, List.getLast?_append]
        cases e <;> simp
      · rw [edges_other hc hsame, List.append_nil, ← ih]
        have hother : t ≠ t' := fun h => hsame h.symm
        cases e <;> simp [hother]

theorem lawful_nil : Lawful stroke [] [] := ⟨fun _ => alternates_nil, fun _ => Iff.rfl⟩

theorem Lawful.congr (h : Lawful stroke log ledger) (hsame : ∀ t, t ∈ ledger' ↔ t ∈ ledger) :
    Lawful stroke log ledger' :=
  ⟨h.alternates, fun t => (h.held t).trans (hsame t).symm⟩

/-- Commands which move no target. -/
theorem Lawful.none (h : Lawful stroke log ledger) {cs : List κ} (hcs : ∀ c ∈ cs, stroke c = none) :
    Lawful stroke (log ++ cs) ledger := by
  have hedges : ∀ t, edges stroke t cs = [] := by
    intro t
    refine List.filterMap_eq_nil_iff.mpr fun c hc => ?_
    rw [hcs c hc, Option.bind_none]
  constructor
  · intro t
    rw [edges_append, hedges, List.append_nil]
    exact h.alternates t
  · intro t
    rw [mem_held_reverse, edges_append, hedges, List.append_nil, ← mem_held_reverse]
    exact h.held t

/-- The target is in the ledger when it has been pressed once more than released. -/
theorem Lawful.mem_iff (h : Lawful stroke log ledger) (t : τ) :
    t ∈ ledger ↔ (edges stroke t log).length % 2 = 1 := by
  rw [← h.held, mem_held_reverse, (h.alternates t).getLast?_eq_down]

/-- One stroke of a target, the other way round than the last. -/
theorem Lawful.turn (h : Lawful stroke log ledger) {e : Edge} (hc : stroke c = some (t, e))
    (hturn : t ∈ ledger ↔ e = .up) (hsame : t ∈ ledger' ↔ e = .down)
    (hother : ∀ t' ≠ t, t' ∈ ledger' ↔ t' ∈ ledger) :
    Lawful stroke (log ++ [c]) ledger' := by
  constructor
  · intro t'
    rw [edges_append]
    by_cases heq : t = t'
    · subst heq
      rw [edges_self hc]
      refine (h.alternates t).append ?_
      rw [h.mem_iff] at hturn
      cases e with
      | down =>
        have heven : ¬ (edges stroke t log).length % 2 = 1 := fun hodd => nomatch hturn.mp hodd
        rw [if_pos (by omega)]
      | up =>
        have hodd : (edges stroke t log).length % 2 = 1 := hturn.mpr rfl
        rw [if_neg (by omega)]
    · rw [edges_other hc heq, List.append_nil]
      exact h.alternates t'
  · intro t'
    rw [mem_held_reverse, edges_append]
    by_cases heq : t = t'
    · subst heq
      rw [edges_self hc, List.getLast?_append, hsame]
      simp
    · have hne : t' ≠ t := fun h => heq h.symm
      rw [edges_other hc heq, List.append_nil, ← mem_held_reverse, h.held, hother t' hne]


/-- At most one press, of a target which the ledger takes up. -/
theorem Lawful.presses {cs : List κ} {answer : Option τ} (h : Lawful stroke log ledger)
    (hcs : cs.map stroke = answer.toList.map fun t => some (t, .down)) (hfresh : ∀ t, answer = some t → t ∉ ledger)
    (hledger : ∀ t, t ∈ ledger' ↔ t ∈ ledger ∨ answer = some t) : Lawful stroke (log ++ cs) ledger' := by
  cases answer with
  | none =>
    have hnil : cs = [] := List.map_eq_nil_iff.mp hcs
    rw [hnil, List.append_nil]
    exact h.congr fun t => (hledger t).trans (or_iff_left (by simp))
  | some t =>
    obtain ⟨c, rfl, hc⟩ := List.map_eq_singleton_iff.mp hcs
    refine h.turn hc ⟨fun hmem => absurd hmem (hfresh t rfl), (nomatch ·)⟩ ⟨fun _ => rfl, fun _ => ?_⟩ ?_
    · exact (hledger t).mpr (.inr rfl)
    · intro t' hne
      refine (hledger t').trans (or_iff_left fun heq => hne ?_)
      exact (Option.some.inj heq).symm

/-- At most one release, of a target which the ledger gives up. -/
theorem Lawful.lifts {cs : List κ} {answer : Option τ} (h : Lawful stroke log ledger)
    (hcs : cs.map stroke = answer.toList.map fun t => some (t, .up)) (hheld : ∀ t, answer = some t → t ∈ ledger)
    (hledger : ∀ t, t ∈ ledger' ↔ t ∈ ledger ∧ answer ≠ some t) : Lawful stroke (log ++ cs) ledger' := by
  cases answer with
  | none =>
    have hnil : cs = [] := List.map_eq_nil_iff.mp hcs
    rw [hnil, List.append_nil]
    exact h.congr fun t => (hledger t).trans (and_iff_left (by simp))
  | some t =>
    obtain ⟨c, rfl, hc⟩ := List.map_eq_singleton_iff.mp hcs
    refine h.turn hc ⟨fun _ => rfl, fun _ => hheld t rfl⟩ ⟨fun hmem => ?_, (nomatch ·)⟩ ?_
    · exact absurd rfl ((hledger t).mp hmem).2
    · intro t' hne
      refine (hledger t').trans (and_iff_left fun heq => hne ?_)
      exact (Option.some.inj heq).symm

/-- **A release of everything in the ledger**, each target once, in any order. -/
theorem Lawful.releases {cs : List κ} {ts : List τ} (h : Lawful stroke log ledger)
    (hcs : cs.map stroke = ts.map fun t => some (t, .up)) (hnodup : ts.Nodup) (hts : ∀ t, t ∈ ts ↔ t ∈ ledger) :
    Lawful stroke (log ++ cs) [] := by
  induction ts generalizing log ledger cs with
  | nil =>
    rw [List.map_nil, List.map_eq_nil_iff] at hcs
    rw [hcs, List.append_nil]
    exact h.congr hts
  | cons t ts ih =>
    obtain ⟨hfresh, hnodup⟩ := List.nodup_cons.mp hnodup
    cases cs with
    | nil => cases hcs
    | cons c cs =>
      obtain ⟨hc, hcs⟩ := List.cons.inj hcs
      have hfirst : Lawful stroke (log ++ [c]) ts := by
        refine h.turn hc ⟨fun _ => rfl, fun _ => (hts t).mp List.mem_cons_self⟩ ⟨fun hmem => ?_, (nomatch ·)⟩ ?_
        · exact absurd hmem hfresh
        · intro t' hne
          rw [← hts t', List.mem_cons]
          exact ⟨Or.inr, fun hmem => hmem.resolve_left hne⟩
      have hall : Lawful stroke ((log ++ [c]) ++ cs) [] := ih hfirst hcs hnodup fun _ => Iff.rfl
      rwa [List.append_assoc] at hall

end Alternation

end MyKvm.Lib.Held
