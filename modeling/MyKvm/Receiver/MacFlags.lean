import MyKvm.Lib.Alternation
import MyKvm.Lib.BitFlags
import MyKvm.Lib.Machine

/-!
# MyKvm.Receiver.MacFlags — the modifier flags of the keys which a Mac injects

The injector keeps one word with the flags of the modifiers which are down, and stamps it on every key event.  Two
or three keys have one flag, and the word does not know how many of them are down: it is the word of the *flags*
which were pressed last, not of the keys which are down.

* `injected_flags`: the word after any calls.
* `modifier_flags_match`: when an event has the flags of the keys which are down.
-/

namespace MyKvm.Receiver.MacFlags

open MyKvm.Lib MyKvm.Lib.Held

/-- The event flags of Core Graphics which the injector uses, and all bits which have a name there.
No two of them share a bit. -/
structure CGEventFlags where
  shift : UInt64
  control : UInt64
  alternate : UInt64
  command : UInt64
  secondaryFn : UInt64
  numericPad : UInt64
  all : UInt64
  apart : Apart [shift, control, alternate, command, secondaryFn, numericPad]
  named : ∀ f ∈ [shift, control, alternate, command, secondaryFn, numericPad], f &&& all = f

section Definitions

variable (cg : CGEventFlags)

/-- The flags of the modifier keys. -/
def CGEventFlags.modifiers : List UInt64 := [cg.shift, cg.control, cg.alternate, cg.command]

def windowsVkToMacFlag (vk : UInt16) : Option UInt64 :=
  if vk = 0x10 ∨ vk = 0xA0 ∨ vk = 0xA1 then some cg.shift
  else if vk = 0x11 ∨ vk = 0xA2 ∨ vk = 0xA3 then some cg.control
  else if vk = 0x12 ∨ vk = 0xA4 ∨ vk = 0xA5 then some cg.alternate
  else if vk = 0x5B ∨ vk = 0x5C then some cg.command
  else none

def macKeyToWindowsVkPairs : List (UInt16 × UInt16) :=
  [(0, 0x41), (1, 0x53), (2, 0x44), (3, 0x46), (4, 0x48), (5, 0x47), (6, 0x5A), (7, 0x58), (8, 0x43), (9, 0x56),
   (11, 0x42), (12, 0x51), (13, 0x57), (14, 0x45), (15, 0x52), (16, 0x59), (17, 0x54), (18, 0x31), (19, 0x32),
   (20, 0x33), (21, 0x34), (22, 0x36), (23, 0x35), (24, 0xBB), (25, 0x39), (26, 0x37), (27, 0xBD), (28, 0x38),
   (29, 0x30), (30, 0xDD), (31, 0x4F), (32, 0x55), (33, 0xDB), (34, 0x49), (35, 0x50), (36, 0x0D), (37, 0x4C),
   (38, 0x4A), (39, 0xDE), (40, 0x4B), (41, 0xBA), (42, 0xDC), (43, 0xBC), (44, 0xBF), (45, 0x4E), (46, 0x4D),
   (47, 0xBE), (48, 0x09), (49, 0x20), (50, 0xC0), (51, 0x08), (53, 0x1B), (54, 0x5C), (55, 0x5B), (56, 0x10),
   (56, 0xA0), (57, 0x14), (58, 0x12), (58, 0xA4), (59, 0x11), (59, 0xA2), (60, 0xA1), (61, 0xA5), (62, 0xA3),
   (63, 0x5B), (64, 0x80), (65, 0x6E), (67, 0x6A), (69, 0x6B), (71, 0x90), (75, 0x6F), (76, 0x0D), (78, 0x6D),
   (81, 0x6D), (82, 0x60), (83, 0x61), (84, 0x62), (85, 0x63), (86, 0x64), (87, 0x65), (88, 0x66), (89, 0x67),
   (91, 0x68), (92, 0x69), (96, 0x74), (97, 0x75), (98, 0x76), (99, 0x72), (100, 0x77), (101, 0x78), (103, 0x7A),
   (105, 0x7C), (106, 0x7F), (107, 0x7D), (109, 0x79), (111, 0x7B), (114, 0x2D), (115, 0x24), (116, 0x21),
   (117, 0x2E), (118, 0x73), (119, 0x23), (120, 0x71), (121, 0x22), (122, 0x70), (123, 0x25), (124, 0x27),
   (125, 0x28), (126, 0x26)]

def windowsVkToMacKey (code : UInt16) : Option UInt16 :=
  (macKeyToWindowsVkPairs.find? fun pair => pair.2 = code).map (·.1)

/-- Arrows are marked as keys of the function section and of the number pad, the other keys around them as
keys of the function section. -/
def macFunctionSectionFlags (macCode : UInt16) : UInt64 :=
  if 123 ≤ macCode ∧ macCode ≤ 126 then cg.secondaryFn ||| cg.numericPad
  else if macCode = 115 ∨ macCode = 116 ∨ macCode = 117 ∨ macCode = 119 ∨ macCode = 121 then cg.secondaryFn
  else 0

/-- A call of `inject_key`, and whether the system makes the event for it. -/
structure KeyCall where
  keyCode : UInt16
  down : Bool
  created : Bool
  deriving DecidableEq

structure KeyEvent where
  macCode : UInt16
  down : Bool
  flags : UInt64
  deriving DecidableEq

/-- The word after `reset_injected_modifiers`. -/
def resetInjectedModifiers : UInt64 := 0

/-- The word and the event posted. -/
def injectKey (flags : UInt64) (call : KeyCall) : UInt64 × Option KeyEvent :=
  let flags := match windowsVkToMacFlag cg call.keyCode with
    | some flag => if call.down then flags ||| flag else flags &&& ~~~flag
    | none => flags
  match windowsVkToMacKey call.keyCode with
  | none => (flags, none)
  | some macCode =>
    if call.created then
      (flags,
        some { macCode, down := call.down, flags := (flags &&& cg.all) ||| macFunctionSectionFlags cg macCode })
    else (flags, none)

/-- The word after the calls. -/
def injectedFlags (log : List KeyCall) : UInt64 :=
  run (fun flags call => (injectKey cg flags call).1) resetInjectedModifiers log

def KeyCall.edge (call : KeyCall) : Edge := if call.down then .down else .up

/-- The key of a call. -/
def keyStroke (call : KeyCall) : Option (UInt16 × Edge) := some (call.keyCode, call.edge)

/-- The flag of a call, if its key is a modifier. -/
def flagStroke (call : KeyCall) : Option (UInt64 × Edge) := (windowsVkToMacFlag cg call.keyCode).map (·, call.edge)

/-- The keys which are down after the calls. -/
def keysDown (log : List KeyCall) : List UInt16 := held keyStroke log.reverse

/-- The flags of the modifiers which are down. -/
def flagsDown (log : List KeyCall) : List UInt64 := (keysDown log).filterMap (windowsVkToMacFlag cg)

/-- Of the keys with this flag the last one moved went down. -/
def LastPressed (flag : UInt64) (log : List KeyCall) : Prop :=
  (edges (flagStroke cg) flag log).getLast? = some .down

/-- A modifier goes up while another key of its family is down. -/
def Overlaps (log : List KeyCall) (call : KeyCall) : Prop :=
  call.down = false ∧ ∃ vk ∈ keysDown log, vk ≠ call.keyCode ∧ (windowsVkToMacFlag cg vk).isSome ∧
    windowsVkToMacFlag cg vk = windowsVkToMacFlag cg call.keyCode

end Definitions

variable {cg : CGEventFlags} {vk : UInt16} {flag : UInt64} {log before : List KeyCall} {call : KeyCall}

theorem CGEventFlags.modifiers_sublist (cg : CGEventFlags) :
    cg.modifiers.Sublist [cg.shift, cg.control, cg.alternate, cg.command, cg.secondaryFn, cg.numericPad] :=
  List.IsPrefix.sublist ⟨[cg.secondaryFn, cg.numericPad], rfl⟩

theorem CGEventFlags.modifiers_apart (cg : CGEventFlags) : Apart cg.modifiers :=
  cg.apart.sublist cg.modifiers_sublist

/-- The flags of the function section are no modifiers. -/
theorem sectionFlags_and_modifiers (macCode : UInt16) :
    macFunctionSectionFlags cg macCode &&& unionOf cg.modifiers = 0 := by
  have hdisjoint : (cg.modifiers ++ [cg.secondaryFn, cg.numericPad]).Pairwise fun f g => f &&& g = 0 :=
    cg.apart.disjoint
  have hother : ∀ g ∈ [cg.secondaryFn, cg.numericPad], g &&& unionOf cg.modifiers = 0 := by
    intro g hg
    rw [UInt64.and_comm]
    exact unionOf_and_eq_zero fun f hf => (List.pairwise_append.mp hdisjoint).2.2 f hf g hg
  unfold macFunctionSectionFlags
  split_ifs
  · rw [or_and_distrib, hother _ (by simp), hother _ (by simp), UInt64.or_zero]
  · exact hother _ (by simp)
  · simp

theorem flag_mem_modifiers (h : windowsVkToMacFlag cg vk = some flag) : flag ∈ cg.modifiers := by
  unfold windowsVkToMacFlag at h
  unfold CGEventFlags.modifiers
  split_ifs at h <;> obtain rfl := Option.some.inj h <;> simp

/-! ### The word -/

/-- What a call does to the word. -/
theorem injectKey_flags (flags : UInt64) (call : KeyCall) :
    (injectKey cg flags call).1 = match flagStroke cg call with
      | none => flags
      | some (flag, .down) => flags ||| flag
      | some (flag, .up) => flags &&& ~~~flag := by
  unfold injectKey flagStroke KeyCall.edge
  cases windowsVkToMacFlag cg call.keyCode with
  | none =>
    dsimp only [Option.map_none]
    split
    · rfl
    · split_ifs <;> rfl
  | some flag =>
    dsimp only [Option.map_some]
    by_cases hdown : call.down = true
    · rw [if_pos hdown, if_pos hdown]
      split
      · rfl
      · split_ifs <;> rfl
    · rw [if_neg hdown, if_neg hdown]
      split
      · rfl
      · split_ifs <;> rfl

/-- What an event is stamped with. -/
theorem injectKey_event {flags : UInt64} {event : KeyEvent} (h : (injectKey cg flags call).2 = some event) :
    event.flags = ((injectKey cg flags call).1 &&& cg.all) ||| macFunctionSectionFlags cg event.macCode := by
  unfold injectKey at h ⊢
  dsimp only at h ⊢
  cases hkey : windowsVkToMacKey call.keyCode with
  | none => simp [hkey] at h
  | some macCode =>
    simp only [hkey] at h ⊢
    by_cases hcreated : call.created = true
    · rw [if_pos hcreated] at h ⊢
      obtain rfl := Option.some.inj h
      rfl
    · rw [if_neg hcreated] at h
      simp at h

/-- A flag which was pressed last has a key which is down. -/
theorem exists_key_of_held {calls : List KeyCall} (h : flag ∈ held (flagStroke cg) calls) :
    ∃ vk ∈ held keyStroke calls, windowsVkToMacFlag cg vk = some flag := by
  induction calls with
  | nil => simp [held] at h
  | cons call calls ih =>
    have hdown : call.edge = .down → held keyStroke (call :: calls) = call.keyCode :: held keyStroke calls := by
      intro hedge
      rw [held, keyStroke, hedge]
    have hup : call.edge = .up →
        held keyStroke (call :: calls) = (held keyStroke calls).filter (· ≠ call.keyCode) := by
      intro hedge
      rw [held, keyStroke, hedge]
    -- a key whose flag is not that of the call stays
    have hstays : ∀ vk ∈ held keyStroke calls, windowsVkToMacFlag cg vk ≠ windowsVkToMacFlag cg call.keyCode →
        vk ∈ held keyStroke (call :: calls) := by
      intro vk hvk hne
      cases hedge : call.edge with
      | down =>
        rw [hdown hedge]
        exact List.mem_cons_of_mem _ hvk
      | up =>
        rw [hup hedge]
        refine List.mem_filter.mpr ⟨hvk, ?_⟩
        have hother : vk ≠ call.keyCode := fun heq => hne (by rw [heq])
        simpa using hother
    rw [held, flagStroke] at h
    cases hflag : windowsVkToMacFlag cg call.keyCode with
    | none =>
      rw [hflag, Option.map_none] at h
      obtain ⟨vk, hvk, hsome⟩ := ih h
      exact ⟨vk, hstays vk hvk (by rw [hsome, hflag]; simp), hsome⟩
    | some own =>
      rw [hflag, Option.map_some] at h
      by_cases hsame : own = flag
      · subst hsame
        cases hedge : call.edge with
        | down =>
          refine ⟨call.keyCode, ?_, hflag⟩
          rw [hdown hedge]
          exact List.mem_cons_self
        | up => simp [hedge] at h
      · have hother : flag ≠ own := fun heq => hsame heq.symm
        have hbefore : flag ∈ held (flagStroke cg) calls := by
          cases hedge : call.edge with
          | down => simpa [hedge, hother] using h
          | up => simpa [hedge, hother] using h
        obtain ⟨vk, hvk, hsome⟩ := ih hbefore
        refine ⟨vk, hstays vk hvk ?_, hsome⟩
        rw [hsome, hflag]
        simpa using hother

theorem flagsDown_subset : flagsDown cg log ⊆ cg.modifiers := by
  intro flag hflag
  obtain ⟨vk, -, hvk⟩ := List.mem_filterMap.mp hflag
  exact flag_mem_modifiers hvk

theorem held_flags_subset {calls : List KeyCall} : held (flagStroke cg) calls ⊆ cg.modifiers := by
  intro flag hflag
  obtain ⟨vk, -, hvk⟩ := exists_key_of_held hflag
  exact flag_mem_modifiers hvk

/-- **The word** is that of the flags which were pressed last. -/
theorem injected_flags (log : List KeyCall) :
    injectedFlags cg log = unionOf (held (flagStroke cg) log.reverse) := by
  induction log using List.reverseRecOn with
  | nil => rfl
  | append_singleton log call ih =>
    have hstep : injectedFlags cg (log ++ [call]) = (injectKey cg (injectedFlags cg log) call).1 := by
      unfold injectedFlags
      rw [run_append]
      rfl
    rw [hstep, injectKey_flags, ih, List.reverse_append, List.reverse_singleton, List.singleton_append, held]
    cases hstroke : flagStroke cg call with
    | none => rfl
    | some stroke =>
      obtain ⟨flag, edge⟩ := stroke
      cases edge with
      | down => exact UInt64.or_comm ..
      | up =>
        have hflag : windowsVkToMacFlag cg call.keyCode = some flag := by
          obtain ⟨own, hown, hpair⟩ := Option.map_eq_some_iff.mp hstroke
          rw [hown, (Prod.mk.inj hpair).1]
        exact (cg.modifiers_apart.unionOf_filter held_flags_subset (flag_mem_modifiers hflag)).symm

/-- **What is stamped**: the modifiers of an event are those of the word. -/
theorem stamped_modifiers {event : KeyEvent} (h : (injectKey cg (injectedFlags cg before) call).2 = some event) :
    event.flags &&& unionOf cg.modifiers = injectedFlags cg (before ++ [call]) := by
  have hword : (injectKey cg (injectedFlags cg before) call).1 = injectedFlags cg (before ++ [call]) := by
    unfold injectedFlags
    rw [run_append]
    rfl
  rw [injectKey_event h, hword, injected_flags, or_and_distrib, sectionFlags_and_modifiers, UInt64.or_zero,
    unionOf_and_of_forall fun f hf => cg.named f (cg.modifiers_sublist.subset (held_flags_subset hf)),
    unionOf_and_of_forall fun f hf => and_unionOf_of_mem (held_flags_subset hf)]

/-- As long as no modifier goes up while another key of its family is down, the family of a key which is down was
pressed last. -/
theorem lastPressed_of_not_overlaps
    (h : ∀ before call, before ++ [call] <+: log → ¬ Overlaps cg before call) :
    ∀ flag ∈ flagsDown cg log, LastPressed cg flag log := by
  induction log using List.reverseRecOn with
  | nil => simp [flagsDown, keysDown, held]
  | append_singleton log call ih =>
    have ih := ih fun before call' hlog => h before call' (hlog.trans (List.prefix_append log [call]))
    have hfits := h log call (List.prefix_refl _)
    intro flag hflag
    obtain ⟨vk, hvk, hsome⟩ := List.mem_filterMap.mp hflag
    rw [keysDown, List.reverse_append, List.reverse_singleton, List.singleton_append, held, keyStroke] at hvk
    unfold LastPressed at ih ⊢
    rw [edges_append]
    -- the key of the call, or one which was down before it
    have hcases : (vk = call.keyCode ∧ call.edge = .down) ∨
        (vk ∈ keysDown log ∧ (vk = call.keyCode → call.edge = .down)) := by
      cases hedge : call.edge with
      | down =>
        rw [hedge] at hvk
        rcases List.mem_cons.mp hvk with heq | hbefore
        · exact .inl ⟨heq, rfl⟩
        · exact .inr ⟨hbefore, fun _ => rfl⟩
      | up =>
        rw [hedge] at hvk
        obtain ⟨hbefore, hne⟩ := List.mem_filter.mp hvk
        have hne : vk ≠ call.keyCode := by simpa using hne
        exact .inr ⟨hbefore, fun heq => absurd heq hne⟩
    by_cases hfamily : windowsVkToMacFlag cg call.keyCode = some flag
    · have hstroke : flagStroke cg call = some (flag, call.edge) := by rw [flagStroke, hfamily, Option.map_some]
      rw [edges_self hstroke, List.getLast?_append]
      suffices hdown : call.edge = .down by simp [hdown]
      rcases hcases with ⟨-, hdown⟩ | ⟨hbefore, hdown⟩
      · exact hdown
      · by_cases hsame : vk = call.keyCode
        · exact hdown hsame
        · by_contra hup
          refine hfits ⟨?_, vk, hbefore, hsame, by rw [hsome]; rfl, hsome.trans hfamily.symm⟩
          unfold KeyCall.edge at hup
          simpa using hup
    · have hunmoved : edges (flagStroke cg) flag [call] = [] := by
        cases hstroke : flagStroke cg call with
        | none => exact edges_none hstroke flag
        | some stroke =>
          obtain ⟨own, hown, rfl⟩ := Option.map_eq_some_iff.mp hstroke
          exact edges_other hstroke fun heq => hfamily (by rw [hown, heq])
      rw [hunmoved, List.append_nil]
      refine ih flag (List.mem_filterMap.mpr ⟨vk, ?_, hsome⟩)
      rcases hcases with ⟨rfl, -⟩ | ⟨hbefore, -⟩
      · exact absurd hsome hfamily
      · exact hbefore

/-- **The modifier flags.**  Whatever keys went down and up since the last reset, an event is stamped with the
flags of the modifiers which are down exactly if, for each of them, of the keys of its family the last one moved
went down.  This is so as long as no modifier went up while another key of its family was down. -/
theorem modifier_flags_match (cg : CGEventFlags) (log : List KeyCall) (call : KeyCall) (event : KeyEvent)
    (h : (injectKey cg (injectedFlags cg log) call).2 = some event) :
    (event.flags &&& unionOf cg.modifiers = unionOf (flagsDown cg (log ++ [call])) ↔
      ∀ flag ∈ flagsDown cg (log ++ [call]), LastPressed cg flag (log ++ [call])) ∧
    ((∀ before call', before ++ [call'] <+: log ++ [call] → ¬ Overlaps cg before call') →
      event.flags &&& unionOf cg.modifiers = unionOf (flagsDown cg (log ++ [call]))) := by
  have hiff : event.flags &&& unionOf cg.modifiers = unionOf (flagsDown cg (log ++ [call])) ↔
      ∀ flag ∈ flagsDown cg (log ++ [call]), LastPressed cg flag (log ++ [call]) := by
    rw [stamped_modifiers h, injected_flags, cg.modifiers_apart.unionOf_eq_iff held_flags_subset flagsDown_subset]
    constructor
    · intro hsame flag hflag
      exact (mem_held_reverse flag _).mp ((hsame flag).mpr hflag)
    · intro hlast flag
      constructor
      · intro hheld
        obtain ⟨vk, hvk, hsome⟩ := exists_key_of_held hheld
        exact List.mem_filterMap.mpr ⟨vk, hvk, hsome⟩
      · intro hflag
        exact (mem_held_reverse flag _).mpr (hlast flag hflag)
  exact ⟨hiff, fun hnever => hiff.mpr (lastPressed_of_not_overlaps hnever)⟩

section Examples

instance : Decidable (LastPressed cg flag log) := inferInstanceAs (Decidable (_ = _))

/-- The flags as the system has them. -/
def sampleFlags : CGEventFlags where
  shift := 0x20000
  control := 0x40000
  alternate := 0x80000
  command := 0x100000
  secondaryFn := 0x800000
  numericPad := 0x200000
  all := 0xFF0100
  apart := ⟨by simp, by decide⟩
  named := by
    simp only [List.forall_mem_cons, List.not_mem_nil, false_implies, implies_true, and_true]
    decide

def press (keyCode : UInt16) : KeyCall := ⟨keyCode, true, true⟩
def lift (keyCode : UInt16) : KeyCall := ⟨keyCode, false, true⟩

/-- A capital letter, after the other shift key was used. -/
theorem modifier_flags_match_capital : ∃ event,
    (injectKey sampleFlags (injectedFlags sampleFlags [press 0xA1, lift 0xA1, press 0xA0]) (press 0x41)).2 =
      some event ∧
      event.flags &&& unionOf sampleFlags.modifiers = 0x20000 := by
  have hposted : (injectKey sampleFlags (injectedFlags sampleFlags [press 0xA1, lift 0xA1, press 0xA0])
      (press 0x41)).2 = some ⟨0, true, 0x20000⟩ := by
    decide +kernel
  have hdown : flagsDown sampleFlags ([press 0xA1, lift 0xA1, press 0xA0] ++ [press 0x41]) = [0x20000] := by
    decide +kernel
  have hlast : LastPressed sampleFlags 0x20000 ([press 0xA1, lift 0xA1, press 0xA0] ++ [press 0x41]) := by
    decide +kernel
  have hright := (modifier_flags_match sampleFlags _ _ _ hposted).1.mpr fun flag hflag => by
    rw [hdown, List.mem_singleton] at hflag
    exact hflag ▸ hlast
  exact ⟨_, hposted, hright.trans (by decide +kernel)⟩

/-- Both shift keys are down and one goes up: the event has no shift. -/
theorem not_modifier_flags_match :
    let log := [press 0xA0, press 0xA1, lift 0xA0]
    (∀ vk, Alternates (edges keyStroke vk log)) ∧ keysDown log = [0xA1] ∧
      ∃ event,
      (injectKey sampleFlags (injectedFlags sampleFlags [press 0xA0, press 0xA1]) (lift 0xA0)).2 = some event ∧
        event.flags &&& unionOf sampleFlags.modifiers = 0 ∧ unionOf (flagsDown sampleFlags log) = 0x20000 := by
  refine ⟨fun vk => ?_, by decide +kernel, ⟨56, false, 0⟩, by decide +kernel, by decide +kernel, by decide +kernel⟩
  have hfirst : Lawful keyStroke [press 0xA0] [0xA0] :=
    lawful_nil.turn (e := .down) rfl (by decide) (by decide) (by simp +contextual [press])
  have hsecond : Lawful keyStroke [press 0xA0, press 0xA1] [0xA1, 0xA0] :=
    hfirst.turn (e := .down) rfl (by decide) (by decide) (by simp +contextual [press])
  have hthird : Lawful keyStroke [press 0xA0, press 0xA1, lift 0xA0] [0xA1] :=
    hsecond.turn (e := .up) rfl (by decide) (by decide) (by simp +contextual [lift])
  exact hthird.alternates vk

end Examples

end MyKvm.Receiver.MacFlags
