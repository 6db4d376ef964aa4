import MyKvm.Lib.Alternation
import MyKvm.Receiver.KeyFreeze

/-!
# MyKvm.Receiver.StreamLaw — what the ledger says to the device

Any key and button events, and a release of everything at the end.  Every target is pressed and released in turn,
and is down as long as the ledger lists it; a source is listed once, with the target of its press.

* `stream_law`: after any events.
-/

namespace MyKvm.Receiver

open MyKvm.Lib MyKvm.Lib.Held MyKvm.Protocol

namespace PressedState

/-- The events in turn. -/
def run (s : PressedState) : List CriticalEvent → List InputCommand × PressedState
  | [] => ([], s)
  | event :: events => ((s.apply event).1 ++ (run (s.apply event).2 events).1, (run (s.apply event).2 events).2)

theorem run_append (s : PressedState) (events more : List CriticalEvent) :
    s.run (events ++ more) =
      ((s.run events).1 ++ ((s.run events).2.run more).1, ((s.run events).2.run more).2) := by
  induction events generalizing s with
  | nil => rfl
  | cons event events ih =>
    rw [List.cons_append, run, run, ih, List.append_assoc]

theorem run_concat (s : PressedState) (events : List CriticalEvent) (event : CriticalEvent) :
    s.run (events ++ [event]) =
      ((s.run events).1 ++ ((s.run events).2.apply event).1, ((s.run events).2.apply event).2) := by
  rw [run_append, run, run, List.append_nil]

end PressedState

/-- The target of a source while it is down: a press fixes it, a repeat does not change it. -/
def freeze (source : KeySource) (target : Option UInt16) : CriticalEvent → Option UInt16
  | .key keyCode scanCode extended down =>
    if KeySource.fromEvent keyCode scanCode extended = source then if down then target.or (some keyCode) else none
    else target
  | _ => target

/-- The target which the last press of the source has fixed, unless it was released since. -/
def frozen (events : List CriticalEvent) (source : KeySource) : Option UInt16 := events.foldl (freeze source) none

theorem frozen_concat (events : List CriticalEvent) (event : CriticalEvent) (source : KeySource) :
    frozen (events ++ [event]) source = freeze source (frozen events source) event := by
  rw [frozen, List.foldl_append]
  rfl

/-! ### One event -/

namespace PressedState

/-- The sources in the ledger are told apart. -/
structure Listed (s : PressedState) : Prop where
  sources : (s.keys.map HeldKey.source).Nodup
  buttons : (s.buttons.map HeldButton.button).Nodup

variable {s : PressedState}

/-- The buttons are grips on themselves. -/
theorem Listed.applyButton_eq (h : Listed s) (button : MouseButton) (down : Bool) (x y : Int32) :
    let out := if down then Grip.press id id (s.buttons.map HeldButton.button) button
      else Grip.release id id (s.buttons.map HeldButton.button) button
    (s.applyButton button down x y).1.map stroke =
      (out.1.map Target.button).toList.map (fun t => some (t, edge down)) ∧
      (s.applyButton button down x y).2.buttons.map HeldButton.button = out.2 ∧
      (s.applyButton button down x y).2.keys = s.keys := by
  have hmem : s.buttons.any (·.button == button) = true ↔ button ∈ s.buttons.map HeldButton.button := by simp
  have hnodup : ((s.buttons.map HeldButton.button).map id).Nodup := by
    rw [List.map_id]
    exact h.buttons
  unfold applyButton
  by_cases hheld : s.buttons.any (·.button == button) = true
  · have hin := hmem.mp hheld
    simp only [if_pos hheld]
    cases down with
    | true =>
      have hpress : Grip.press id id (s.buttons.map HeldButton.button) button =
          (none, s.buttons.map HeldButton.button) := by
        refine if_pos (List.any_eq_true.mpr ⟨button, hin, ?_⟩)
        exact beq_iff_eq.mpr rfl
      rw [if_pos rfl, if_pos rfl, hpress]
      exact ⟨rfl, map_button_replaceF _ _ _ _, rfl⟩
    | false =>
      have hup : (Grip.release id id (s.buttons.map HeldButton.button) button).1 = some button :=
        (Grip.release_eq_some hnodup hin).mpr ⟨rfl, fun _ _ heq => heq⟩
      rw [if_neg Bool.false_ne_true, if_neg Bool.false_ne_true, hup, Grip.release_snd, List.eraseP_map]
      exact ⟨rfl, rfl, rfl⟩
  · have hout : ∀ b ∈ s.buttons.map HeldButton.button, id b ≠ button := fun b hb heq => hheld (hmem.mpr (heq ▸ hb))
    simp only [if_neg hheld]
    cases down with
    | true =>
      have hdown : (Grip.press id id (s.buttons.map HeldButton.button) button).1 = some button :=
        Grip.press_eq_some.mpr ⟨rfl, hout, hout⟩
      have hrest : (Grip.press id id (s.buttons.map HeldButton.button) button).2 =
          s.buttons.map HeldButton.button ++ [button] := by
        unfold Grip.press
        rw [if_neg (by simpa using hout)]
      rw [if_pos rfl, if_pos rfl, hdown, hrest]
      exact ⟨rfl, List.map_append, rfl⟩
    | false =>
      rw [if_neg Bool.false_ne_true, if_neg Bool.false_ne_true, Grip.release_eq_none hout]
      exact ⟨rfl, rfl, rfl⟩

theorem key_mem_map {code : UInt16} : .key code ∈ s.targets ↔ code ∈ s.keys.map HeldKey.targetKeyCode := by
  simp [targets]

theorem button_mem_map {button : MouseButton} :
    .button button ∈ s.targets ↔ button ∈ s.buttons.map HeldButton.button := by
  simp [targets]

section Grips

variable {α κ β : Type} [DecidableEq κ] [DecidableEq β] {kind : β → Target} {name : α → κ} {target : α → β}
    {grips : List α}
  {log commands : List InputCommand} {before after : List Target}

/-- A press among the grips on the targets of one kind. -/
theorem lawful_press (hkind : Function.Injective kind) (hlog : Lawful stroke log before) {a : α}
    (hcommands : commands.map stroke =
      ((Grip.press name target grips a).1.map kind).toList.map fun t => some (t, .down))
    (hbefore : ∀ b, kind b ∈ before ↔ b ∈ grips.map target)
    (hafter : ∀ b, kind b ∈ after ↔ b ∈ (Grip.press name target grips a).2.map target)
    (hrest : ∀ t, (∀ b, kind b ≠ t) → (t ∈ after ↔ t ∈ before)) : Lawful stroke (log ++ commands) after := by
  refine hlog.presses hcommands ?_ ?_
  · intro t ht
    obtain ⟨b, hb, rfl⟩ := Option.map_eq_some_iff.mp ht
    rw [hbefore]
    exact Grip.not_mem_of_press hb
  · intro t
    by_cases hother : ∃ b, kind b = t
    · obtain ⟨b, rfl⟩ := hother
      rw [hafter, hbefore, Grip.mem_press_targets, ← (Option.map_injective hkind).eq_iff, Option.map_some]
    · push Not at hother
      rw [hrest t hother]
      refine (or_iff_left fun hdown => ?_).symm
      obtain ⟨b, _, hb⟩ := Option.map_eq_some_iff.mp hdown
      exact hother b hb

/-- A release among them. -/
theorem lawful_release (hkind : Function.Injective kind) (hlog : Lawful stroke log before)
    (hnodup : (grips.map name).Nodup) {k : κ}
    (hcommands : commands.map stroke =
      ((Grip.release name target grips k).1.map kind).toList.map fun t => some (t, .up))
    (hbefore : ∀ b, kind b ∈ before ↔ b ∈ grips.map target)
    (hafter : ∀ b, kind b ∈ after ↔ b ∈ (Grip.release name target grips k).2.map target)
    (hrest : ∀ t, (∀ b, kind b ≠ t) → (t ∈ after ↔ t ∈ before)) : Lawful stroke (log ++ commands) after := by
  refine hlog.lifts hcommands ?_ ?_
  · intro t ht
    obtain ⟨b, hb, rfl⟩ := Option.map_eq_some_iff.mp ht
    rw [hbefore]
    exact Grip.mem_of_release hnodup hb
  · intro t
    by_cases hother : ∃ b, kind b = t
    · obtain ⟨b, rfl⟩ := hother
      rw [hafter, hbefore, Grip.mem_release_targets hnodup, ne_eq, ne_eq, ← (Option.map_injective hkind).eq_iff,
        Option.map_some]
    · push Not at hother
      rw [hrest t hother]
      refine (and_iff_left fun hup => ?_).symm
      obtain ⟨b, _, hb⟩ := Option.map_eq_some_iff.mp hup
      exact hother b hb

end Grips

theorem key_injective : Function.Injective Target.key := fun _ _ h => Target.key.inj h

theorem button_injective : Function.Injective Target.button := fun _ _ h => Target.button.inj h

/-- With the buttons as they were, only targets of keys have come or gone. -/
theorem mem_targets_of_buttons {after : PressedState}
    (h : after.buttons.map HeldButton.button = s.buttons.map HeldButton.button) (t : Target)
    (hkind : ∀ code, Target.key code ≠ t) : t ∈ after.targets ↔ t ∈ s.targets := by
  cases t with
  | key code => exact absurd rfl (hkind code)
  | button button => rw [button_mem_map, button_mem_map, h]

theorem mem_targets_of_keys {after : PressedState} (h : after.keys = s.keys) (t : Target)
    (hkind : ∀ button, Target.button button ≠ t) : t ∈ after.targets ↔ t ∈ s.targets := by
  cases t with
  | key code => rw [key_mem_map, key_mem_map, h]
  | button button => exact absurd rfl (hkind button)

theorem Listed.applyKey_lawful (h : Listed s) {log : List InputCommand} (hlog : Lawful stroke log s.targets)
    (keyCode scanCode : UInt16) (extended down : Bool) :
    Lawful stroke (log ++ (s.applyKey keyCode scanCode extended down).1)
      (s.applyKey keyCode scanCode extended down).2.targets := by
  rw [applyKey_eq]
  dsimp only
  generalize KeySource.fromEvent keyCode scanCode extended = source
  cases down with
  | true =>
    rw [if_pos rfl]
    refine lawful_press key_injective hlog ?_ (fun _ => key_mem_map) (fun _ => key_mem_map)
      (mem_targets_of_buttons rfl)
    cases (Grip.press HeldKey.source HeldKey.targetKeyCode s.keys ⟨source, keyCode⟩).1 <;> rfl
  | false =>
    rw [if_neg Bool.false_ne_true]
    refine lawful_release key_injective hlog h.sources ?_ (fun _ => key_mem_map) (fun _ => key_mem_map)
      (mem_targets_of_buttons rfl)
    cases (Grip.release HeldKey.source HeldKey.targetKeyCode s.keys source).1 <;> rfl

theorem Listed.applyButton_lawful (h : Listed s) {log : List InputCommand} (hlog : Lawful stroke log s.targets)
    (button : MouseButton) (down : Bool) (x y : Int32) :
    Lawful stroke (log ++ (s.applyButton button down x y).1) (s.applyButton button down x y).2.targets := by
  obtain ⟨hcommands, hbuttons, hkeys⟩ := h.applyButton_eq button down x y
  have hnodup : ((s.buttons.map HeldButton.button).map id).Nodup := by
    rw [List.map_id]
    exact h.buttons
  have hbefore : ∀ b, Target.button b ∈ s.targets ↔ b ∈ (s.buttons.map HeldButton.button).map id := fun b => by
    rw [List.map_id, button_mem_map]
  cases down with
  | true =>
    rw [if_pos rfl] at hcommands hbuttons
    refine lawful_press button_injective hlog hcommands hbefore (fun b => ?_) (mem_targets_of_keys hkeys)
    rw [List.map_id, button_mem_map, hbuttons]
  | false =>
    rw [if_neg Bool.false_ne_true] at hcommands hbuttons
    refine lawful_release button_injective hlog hnodup hcommands hbefore (fun b => ?_) (mem_targets_of_keys hkeys)
    rw [List.map_id, button_mem_map, hbuttons]

/-- **One event** keeps the law: at most one target goes down which was up, or up which was down. -/
theorem Listed.apply_lawful (h : Listed s) {log : List InputCommand} (hlog : Lawful stroke log s.targets)
    (event : CriticalEvent) : Lawful stroke (log ++ (s.apply event).1) (s.apply event).2.targets := by
  cases event with
  | key keyCode scanCode extended down => exact h.applyKey_lawful hlog keyCode scanCode extended down
  | button button down x y motionSequence => exact h.applyButton_lawful hlog (mouseButton button) down x y
  | scroll deltaX deltaY x y motionSequence =>
    refine hlog.none fun c hc => ?_
    rw [List.mem_singleton.mp hc]
    rfl

/-- What the ledger lists after an event. -/
theorem Listed.apply (h : Listed s) (event : CriticalEvent) : Listed (s.apply event).2 := by
  cases event with
  | scroll deltaX deltaY x y motionSequence => exact h
  | key keyCode scanCode extended down =>
    show Listed (s.applyKey keyCode scanCode extended down).2
    rw [applyKey_eq]
    cases down with
    | true => exact ⟨Grip.press_nodup h.sources _, h.buttons⟩
    | false => exact ⟨Grip.release_nodup h.sources _, h.buttons⟩
  | button button down x y motionSequence =>
    show Listed (s.applyButton (mouseButton button) down x y).2
    obtain ⟨-, hbuttons, hkeys⟩ := h.applyButton_eq (mouseButton button) down x y
    refine ⟨by rw [hkeys]; exact h.sources, ?_⟩
    have hnodup : ((s.buttons.map HeldButton.button).map id).Nodup := by
      rw [List.map_id]
      exact h.buttons
    rw [hbuttons]
    cases down with
    | true =>
      have hpressed : ((Grip.press id id (s.buttons.map HeldButton.button) (mouseButton button)).2.map id).Nodup :=
        Grip.press_nodup hnodup (mouseButton button)
      simpa using hpressed
    | false =>
      have hreleased :
          ((Grip.release id id (s.buttons.map HeldButton.button) (mouseButton button)).2.map id).Nodup :=
        Grip.release_nodup hnodup (mouseButton button)
      simpa using hreleased

/-- The ledger lists each source with the target which its press has fixed. -/
def Freezes (s : PressedState) (target : KeySource → Option UInt16) : Prop :=
  ∀ source code, ⟨source, code⟩ ∈ s.keys ↔ target source = some code

variable {target : KeySource → Option UInt16}

theorem Freezes.listed_iff (hfreezes : Freezes s target) (source : KeySource) :
    (∀ held ∈ s.keys, held.source ≠ source) ↔ target source = none := by
  constructor
  · intro hfree
    by_contra hsome
    obtain ⟨code, hcode⟩ := Option.ne_none_iff_exists'.mp hsome
    exact hfree ⟨source, code⟩ ((hfreezes source code).mpr hcode) rfl
  · rintro hnone ⟨source', code⟩ hmem rfl
    have hsome : target source' = some code := (hfreezes source' code).mp hmem
    rw [hnone] at hsome
    cases hsome

theorem Listed.apply_freezes (h : Listed s) (hfreezes : Freezes s target) (event : CriticalEvent) :
    Freezes (s.apply event).2 fun source => freeze source (target source) event := by
  cases event with
  | scroll deltaX deltaY x y motionSequence => exact hfreezes
  | button button down x y motionSequence =>
    show Freezes (s.applyButton (mouseButton button) down x y).2 target
    obtain ⟨-, -, hkeys⟩ := h.applyButton_eq (mouseButton button) down x y
    unfold Freezes
    rw [hkeys]
    exact hfreezes
  | key keyCode scanCode extended down =>
    show Freezes (s.applyKey keyCode scanCode extended down).2 _
    rw [applyKey_eq]
    unfold Freezes freeze
    dsimp only
    generalize KeySource.fromEvent keyCode scanCode extended = struck
    intro source code
    cases down with
    | true =>
      simp only [if_true]
      rw [Grip.mem_press, hfreezes source code, HeldKey.mk.injEq, hfreezes.listed_iff struck]
      by_cases hsame : struck = source
      · subst hsame
        rw [if_pos rfl]
        cases target struck <;> simp [eq_comm]
      · have hother : source ≠ struck := fun heq => hsame heq.symm
        rw [if_neg hsame]
        simp [hother]
    | false =>
      simp only [Bool.false_eq_true, if_false]
      rw [Grip.mem_release h.sources, hfreezes source code]
      by_cases hsame : struck = source
      · rw [if_pos hsame]
        simp [hsame]
      · have hother : source ≠ struck := fun heq => hsame heq.symm
        rw [if_neg hsame]
        simp [hother]

/-- A release is about the target of its press, and comes with the last source on it. -/
theorem Listed.release_freezes (h : Listed s) (hfreezes : Freezes s target) (keyCode scanCode : UInt16)
    (extended : Bool) :
    let source := KeySource.fromEvent keyCode scanCode extended
    ∃ answer : Option UInt16, (s.apply (.key keyCode scanCode extended false)).1 =
      answer.toList.map (.key · false) ∧
      ∀ code, answer = some code ↔ target source = some code ∧ ∀ other, target other = some code →
      other = source := by
  intro source
  refine ⟨(Grip.release HeldKey.source HeldKey.targetKeyCode s.keys source).1, ?_, fun code => ?_⟩
  · show (s.applyKey keyCode scanCode extended false).1 = _
    rw [applyKey_eq]
    rfl
  · clear_value source
    by_cases hheld : ∃ held ∈ s.keys, held.source = source
    · obtain ⟨⟨source', code'⟩, hmem, rfl⟩ := hheld
      have htarget : target source' = some code' := (hfreezes source' code').mp hmem
      rw [Grip.release_eq_some h.sources hmem, htarget, Option.some.injEq, eq_comm (a := code)]
      refine and_congr_right fun hcode => ?_
      subst hcode
      constructor
      · intro hlast other hother
        exact congrArg HeldKey.source (hlast ⟨other, code'⟩ ((hfreezes other code').mpr hother) rfl)
      · rintro hlast ⟨other, code⟩ hother rfl
        have hsame : other = source' := hlast other ((hfreezes other code).mp hother)
        rw [hsame]
    · push Not at hheld
      rw [Grip.release_eq_none hheld, (hfreezes.listed_iff source).mp hheld]
      simp

/-! ### The release of everything -/

theorem releaseKeys_eq (keys : List HeldKey) :
    ∃ codes : List UInt16, releaseKeys keys = codes.map (.key · false) ∧ codes.Nodup ∧
      ∀ code, code ∈ codes ↔ code ∈ keys.map HeldKey.targetKeyCode := by
  induction keys with
  | nil => exact ⟨[], rfl, List.nodup_nil, fun _ => Iff.rfl⟩
  | cons held keys ih =>
    obtain ⟨codes, hcommands, hnodup, hcodes⟩ := ih
    have hany : keys.any (·.targetKeyCode == held.targetKeyCode) = true ↔ held.targetKeyCode ∈ codes := by
      rw [hcodes]
      simp
    by_cases hlater : held.targetKeyCode ∈ codes
    · refine ⟨codes, by rw [releaseKeys, if_pos (hany.mpr hlater), hcommands], hnodup, fun code => ?_⟩
      rw [List.map_cons, List.mem_cons, ← hcodes]
      refine ⟨Or.inr, fun hmem => ?_⟩
      rcases hmem with rfl | hmem
      · exact hlater
      · exact hmem
    · refine ⟨held.targetKeyCode :: codes, ?_, List.nodup_cons.mpr ⟨hlater, hnodup⟩, fun code => ?_⟩
      · rw [releaseKeys, if_neg (fun h => hlater (hany.mp h)), hcommands, List.map_cons]
      · rw [List.map_cons, List.mem_cons, List.mem_cons, hcodes]

/-- One release for every target, in some order. -/
theorem Listed.releaseAll_eq (h : Listed s) :
    ∃ ts : List Target, s.releaseAll.1.map stroke = ts.map (fun t => some (t, .up)) ∧ ts.Nodup ∧
      ∀ t, t ∈ ts ↔ t ∈ s.targets := by
  obtain ⟨codes, hcommands, hnodup, hcodes⟩ := releaseKeys_eq s.keys.reverse
  refine ⟨codes.map Target.key ++ (s.buttons.map HeldButton.button).reverse.map Target.button, ?_, ?_, ?_⟩
  · unfold releaseAll
    rw [hcommands]
    simp [stroke, edge, Function.comp_def]
  · refine List.Nodup.append ?_ ?_ ?_
    · exact hnodup.map fun _ _ heq => Target.key.inj heq
    · exact (List.nodup_reverse.mpr h.buttons).map fun _ _ heq => Target.button.inj heq
    · intro t hkey hbutton
      obtain ⟨code, -, rfl⟩ := List.mem_map.mp hkey
      simp at hbutton
  · intro t
    cases t with
    | key code =>
      rw [key_mem_map, List.mem_append]
      simp [hcodes]
    | button button =>
      rw [button_mem_map, List.mem_append]
      simp

end PressedState

/-! ### Any events -/

/-- What was emitted, and the ledger, after the events. -/
def emitted (events : List CriticalEvent) : List InputCommand := (PressedState.empty.run events).1

def ledger (events : List CriticalEvent) : PressedState := (PressedState.empty.run events).2

/-- What holds after the events. -/
structure Faithful (events : List CriticalEvent) : Prop where
  lawful : Lawful stroke (emitted events) (ledger events).targets
  listed : (ledger events).Listed
  freezes : (ledger events).Freezes (frozen events)

theorem faithful (events : List CriticalEvent) : Faithful events := by
  induction events using List.reverseRecOn with
  | nil =>
    refine ⟨lawful_nil, ⟨List.nodup_nil, List.nodup_nil⟩, fun source code => ?_⟩
    simp [ledger, PressedState.run, PressedState.empty, frozen]
  | append_singleton events event ih =>
    have hrun := PressedState.run_concat .empty events event
    have hemitted : emitted (events ++ [event]) = emitted events ++ ((ledger events).apply event).1 :=
      (congrArg Prod.fst hrun :)
    have hledger : ledger (events ++ [event]) = ((ledger events).apply event).2 := (congrArg Prod.snd hrun :)
    constructor
    · rw [hemitted, hledger]
      exact ih.listed.apply_lawful ih.lawful event
    · rw [hledger]
      exact ih.listed.apply event
    · rw [hledger]
      have hnext := ih.listed.apply_freezes ih.freezes event
      intro source code
      rw [frozen_concat]
      exact hnext source code

/-- **The law of the stream.** -/
structure StreamLaw (events : List CriticalEvent) : Prop where
  /-- Every target goes down, up, down, up, also through the release at the end. -/
  alternates : ∀ t, Alternates (edges stroke t (emitted events ++ (ledger events).releaseAll.1))
  /-- What is down on the device is what the ledger lists, at any moment. -/
  down : ∀ before, before <+: events → ∀ t, t ∈ deviceHeld (emitted before).reverse ↔ t ∈ (ledger before).targets
  keys : ((ledger events).keys.map HeldKey.source).Nodup
  buttons : ((ledger events).buttons.map HeldButton.button).Nodup
  frozen : ∀ source code, ⟨source, code⟩ ∈ (ledger events).keys ↔ frozen events source = some code
  /-- The last source on a target releases it, under the target of its press. -/
  up : ∀ keyCode scanCode extended, ∃ answer : Option UInt16,
    ((ledger events).apply (.key keyCode scanCode extended false)).1 = answer.toList.map (.key · false) ∧
    ∀ code, answer = some code ↔ Receiver.frozen events (.fromEvent keyCode scanCode extended) = some code ∧
      ∀ other, Receiver.frozen events other = some code → other = .fromEvent keyCode scanCode extended
  released : ∃ ts : List Target, (ledger events).releaseAll.1.map stroke = ts.map (fun t => some (t, .up)) ∧
    ts.Nodup ∧ ∀ t, t ∈ ts ↔ t ∈ (ledger events).targets
  emptied : (ledger events).releaseAll.2 = .empty

theorem stream_law (events : List CriticalEvent) : StreamLaw events := by
  have h := faithful events
  obtain ⟨ts, hcommands, hnodup, hts⟩ := h.listed.releaseAll_eq
  exact {
    alternates := (h.lawful.releases hcommands hnodup hts).alternates
    down := fun before _ => (faithful before).lawful.held
    keys := h.listed.sources
    buttons := h.listed.buttons
    frozen := h.freezes
    up := h.listed.release_freezes h.freezes
    released := ⟨ts, hcommands, hnodup, hts⟩
    emptied := rfl }

end MyKvm.Receiver
