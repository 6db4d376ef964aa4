import MyKvm.Hook.Keyboard
import MyKvm.Lib.Machine

/-!
# MyKvm.Hook.Pairing — where the release of a key goes

Runs of the keyboard hook: any presses, repeats and releases, and between them any other thread may leave the
shared fields as it likes.  The log notes every input, whether the hook was capturing then, and what became of a
key.

* `Truthful`: what became of a key, from the bindings and from what was noted.
* `Paired`: a release is taken as a hotkey only after a press of this hotkey, and otherwise goes where the presses
  went.
* `release_paired_iff`: exactly which releases do.
-/

namespace MyKvm.Hook

open MyKvm.Lib MyKvm.Routing

inductive HookInput where
  | key (down : Bool) (e : KeyEvent)
  | shared (hotkeys : HotkeyState) (remoteActive : Bool)
  deriving DecidableEq

inductive HookNote where
  | key (down : Bool) (e : KeyEvent) (capturing : Bool) (outcome : KeyOutcome)
  | shared (capturing : Bool)
  deriving DecidableEq

namespace HookNote

/-- The hook was capturing when the input came. -/
def capturing : HookNote → Bool
  | .key _ _ capturing _ => capturing
  | .shared capturing => capturing

/-- A press or a release of the key. -/
def IsKey (down : Bool) (vkCode : UInt32) : HookNote → Prop
  | .key d e _ _ => d = down ∧ e.event.vkCode = vkCode
  | .shared _ => False

end HookNote

/-- The hook and what it did, newest first. -/
structure Hooked where
  context : WindowsCaptureContext
  log : List HookNote
  deriving DecidableEq

namespace Hooked

def next (h : Hooked) : HookInput → Hooked
  | .key down e =>
    let (outcome, context) := h.context.windowsKeyboardProc (e.call down)
    { context, log := .key down e h.context.capturing outcome :: h.log }
  | .shared hotkeys remoteActive =>
    { context := { h.context with hotkeys, remoteActive }, log := .shared h.context.capturing :: h.log }

def start (context : WindowsCaptureContext) : Hooked := { context, log := [] }

variable (h : Hooked)

/-- What becomes of the key now. -/
def outcome (down : Bool) (e : KeyEvent) : KeyOutcome := (h.context.windowsKeyboardProc (e.call down)).1

/-- The press `e`, after which only `recent` happened, is the newest one of the key. -/
def Latest (vkCode : UInt32) (e : KeyEvent) (capturing : Bool) (outcome : KeyOutcome) : Prop :=
  e.event.vkCode = vkCode ∧ ∃ recent old, h.log = recent ++ .key true e capturing outcome :: old ∧
    ∀ n ∈ recent, ¬ n.IsKey true vkCode

/-- The press `e`, after which only `recent` happened, has not been released. -/
def Unreleased (vkCode : UInt32) (recent : List HookNote) (e : KeyEvent) (capturing : Bool)
    (outcome : KeyOutcome) : Prop :=
  e.event.vkCode = vkCode ∧ ∃ old, h.log = recent ++ .key true e capturing outcome :: old ∧
    ∀ n ∈ recent, ¬ n.IsKey false vkCode

/-- The session of a forwarded press is over: the hook was not capturing at some moment since. -/
def Ended (recent : List HookNote) : Prop :=
  h.context.capturing = false ∨ ∃ n ∈ recent, n.capturing = false

/-- **The release goes where the presses went.** -/
structure Paired (e : KeyEvent) : Prop where
  hotkey : ∀ action, h.outcome false e = .hotkey action →
    ∃ e₀ capturing, h.Latest e.event.vkCode e₀ capturing (.hotkey action)
  passed : ∀ recent e₀ capturing, h.Unreleased e.event.vkCode recent e₀ capturing .next → h.outcome false e = .next
  forwarded : ∀ recent e₀ capturing, h.Unreleased e.event.vkCode recent e₀ capturing .queued →
    h.outcome false e = .queued ∨ h.Ended recent

/-- The press had the modifiers of a binding. -/
def binding (e : KeyEvent) : Option ControlHotkeyAction := h.context.controlAction e.keyCode e.modifiers true

/-- The first binding of the key, whatever its modifiers. -/
def releases (e : KeyEvent) : Option ControlHotkeyAction := h.context.controlAction e.keyCode e.modifiers false

/-- When a release is paired.  A key with a binding: the newest press was that of the first binding, and every
other unreleased one that of some binding, or it came while the hook was capturing and the session is over.
Another key: an unreleased press which came while the hook was not capturing finds it so again. -/
def Agrees (e : KeyEvent) : Prop :=
  match h.releases e with
  | some action =>
    (∃ e₀ capturing outcome, h.Latest e.event.vkCode e₀ capturing outcome ∧ h.binding e₀ = some action) ∧
    ∀ recent e₀ capturing outcome, h.Unreleased e.event.vkCode recent e₀ capturing outcome →
      h.binding e₀ ≠ none ∨ capturing = true ∧ h.Ended recent
  | none =>
    (∃ recent e₀ outcome, h.Unreleased e.event.vkCode recent e₀ false outcome) → h.context.capturing = false

/-- Every key went where its binding and the gate sent it. -/
def Truthful : Prop :=
  ∀ down e capturing outcome, .key down e capturing outcome ∈ h.log → outcome = h.context.verdict capturing e down

end Hooked

namespace Hooked

variable {h : Hooked}

/-! ### The log is truthful -/

theorem verdict_congr {c c' : WindowsCaptureContext} (heq : c'.controlHotkeyBindings = c.controlHotkeyBindings)
    (capturing : Bool) (e : KeyEvent) (down : Bool) :
    c'.verdict capturing e down = c.verdict capturing e down := by
  simp only [WindowsCaptureContext.verdict, WindowsCaptureContext.controlAction, heq]

theorem next_truthful (h : Hooked) (i : HookInput) (htrue : h.Truthful) : (h.next i).Truthful := by
  intro down e capturing outcome hmem
  cases i with
  | key d e' =>
    obtain ⟨houtcome, hbindings⟩ := h.context.windowsKeyboardProc_call e' d
    have hsame : (h.next (.key d e')).context.verdict capturing e down = h.context.verdict capturing e down :=
      verdict_congr hbindings capturing e down
    rw [hsame]
    rcases List.mem_cons.mp hmem with heq | hmem
    · cases heq
      exact houtcome
    · exact htrue down e capturing outcome hmem
  | shared hotkeys remoteActive =>
    rcases List.mem_cons.mp hmem with heq | hmem
    · cases heq
    · exact htrue down e capturing outcome hmem

theorem run_truthful (context : WindowsCaptureContext) (inputs : List HookInput) :
    (run next (start context) inputs).Truthful :=
  run_invariant (I := Truthful) (fun h i htrue => next_truthful h i htrue) (by simp [Truthful, start]) inputs

theorem outcome_eq (h : Hooked) (down : Bool) (e : KeyEvent) :
    h.outcome down e = h.context.verdict h.context.capturing e down :=
  (h.context.windowsKeyboardProc_call e down).1

/-! ### Presses -/

section Presses

variable {vkCode : UInt32} {recent : List HookNote} {e e₀ : KeyEvent} {capturing : Bool} {outcome : KeyOutcome}
variable {action : ControlHotkeyAction}

theorem Latest.mem (hlatest : h.Latest vkCode e₀ capturing outcome) : .key true e₀ capturing outcome ∈ h.log := by
  obtain ⟨-, recent, old, hlog, -⟩ := hlatest
  rw [hlog]
  exact List.mem_append_right _ List.mem_cons_self

theorem Unreleased.mem (hpress : h.Unreleased vkCode recent e₀ capturing outcome) :
    .key true e₀ capturing outcome ∈ h.log := by
  obtain ⟨-, old, hlog, -⟩ := hpress
  rw [hlog]
  exact List.mem_append_right _ List.mem_cons_self

/-- A press was taken as the hotkey of its binding. -/
theorem Truthful.hotkey_iff (htrue : h.Truthful) (hmem : .key true e₀ capturing outcome ∈ h.log) :
    outcome = .hotkey action ↔ h.binding e₀ = some action := by
  rw [htrue _ _ _ _ hmem, WindowsCaptureContext.verdict, binding]
  cases h.context.controlAction e₀.keyCode e₀.modifiers true with
  | some a => simp
  | none => cases capturing <;> simp

theorem Truthful.next_iff (htrue : h.Truthful) (hmem : .key true e₀ capturing outcome ∈ h.log) :
    outcome = .next ↔ h.binding e₀ = none ∧ capturing = false := by
  rw [htrue _ _ _ _ hmem, WindowsCaptureContext.verdict, binding]
  cases h.context.controlAction e₀.keyCode e₀.modifiers true with
  | some a => simp
  | none => cases capturing <;> simp

theorem Truthful.queued_iff (htrue : h.Truthful) (hmem : .key true e₀ capturing outcome ∈ h.log) :
    outcome = .queued ↔ h.binding e₀ = none ∧ capturing = true := by
  rw [htrue _ _ _ _ hmem, WindowsCaptureContext.verdict, binding]
  cases h.context.controlAction e₀.keyCode e₀.modifiers true with
  | some a => simp
  | none => cases capturing <;> simp

/-! ### A release -/

/-- The release of a key which is a hotkey. -/
theorem paired_iff_of_releases (htrue : h.Truthful) (hreleases : h.releases e = some action) :
    h.Paired e ↔ h.Agrees e := by
  have houtcome : h.outcome false e = .hotkey action := by
    rw [outcome_eq, WindowsCaptureContext.verdict, ← releases, hreleases]
  unfold Agrees
  rw [hreleases]
  constructor
  · intro hpaired
    refine ⟨?_, fun recent e₀ capturing outcome hpress => ?_⟩
    · obtain ⟨e₀, capturing, hlatest⟩ := hpaired.hotkey action houtcome
      exact ⟨e₀, capturing, _, hlatest, (htrue.hotkey_iff hlatest.mem).mp rfl⟩
    · by_cases hbinding : h.binding e₀ = none
      · cases capturing with
        | false =>
          obtain rfl := (htrue.next_iff hpress.mem).mpr ⟨hbinding, rfl⟩
          have hpassed := hpaired.passed recent e₀ false hpress
          rw [houtcome] at hpassed
          cases hpassed
        | true =>
          obtain rfl := (htrue.queued_iff hpress.mem).mpr ⟨hbinding, rfl⟩
          rcases hpaired.forwarded recent e₀ true hpress with hqueued | hended
          · rw [houtcome] at hqueued
            cases hqueued
          · exact Or.inr ⟨rfl, hended⟩
      · exact Or.inl hbinding
  · rintro ⟨⟨e₁, capturing₁, outcome₁, hlatest, hbinding⟩, hpresses⟩
    refine ⟨fun action' haction => ?_, fun recent e₀ capturing hpress => ?_, fun recent e₀ capturing hpress => ?_⟩
    · rw [houtcome] at haction
      cases haction
      obtain rfl := (htrue.hotkey_iff hlatest.mem).mpr hbinding
      exact ⟨e₁, capturing₁, hlatest⟩
    · obtain ⟨hnone, hlocal⟩ := (htrue.next_iff hpress.mem).mp rfl
      rcases hpresses recent e₀ capturing _ hpress with hsome | ⟨hcapturing, -⟩
      · exact absurd hnone hsome
      · cases hlocal.symm.trans hcapturing
    · obtain ⟨hnone, -⟩ := (htrue.queued_iff hpress.mem).mp rfl
      rcases hpresses recent e₀ capturing _ hpress with hsome | ⟨-, hended⟩
      · exact absurd hnone hsome
      · exact Or.inr hended

/-- The release of any other key. -/
theorem paired_iff_of_not_releases (htrue : h.Truthful) (hreleases : h.releases e = none) :
    h.Paired e ↔ h.Agrees e := by
  have houtcome : h.outcome false e = if h.context.capturing then .queued else .next := by
    rw [outcome_eq, WindowsCaptureContext.verdict, ← releases, hreleases]
  -- no press of this key was a hotkey
  have hnone : ∀ {recent e₀ capturing outcome}, h.Unreleased e.event.vkCode recent e₀ capturing outcome →
      h.binding e₀ = none := by
    rintro recent e₀ capturing outcome ⟨hvk, -⟩
    have hkey : e₀.keyCode = e.keyCode := congrArg UInt32.toUInt16 hvk
    rw [binding, hkey]
    exact h.context.controlAction_down hreleases
  unfold Agrees
  rw [hreleases]
  constructor
  · rintro hpaired ⟨recent, e₀, outcome, hpress⟩
    obtain rfl := (htrue.next_iff hpress.mem).mpr ⟨hnone hpress, rfl⟩
    have hpassed := hpaired.passed recent e₀ false hpress
    rw [houtcome] at hpassed
    by_contra hcapturing
    rw [if_pos (by simpa using hcapturing)] at hpassed
    cases hpassed
  · intro hlocal
    refine ⟨fun action haction => ?_, fun recent e₀ capturing hpress => ?_, fun recent e₀ capturing hpress => ?_⟩
    · rw [houtcome] at haction
      split at haction <;> cases haction
    · obtain ⟨-, rfl⟩ := (htrue.next_iff hpress.mem).mp rfl
      rw [houtcome, hlocal ⟨recent, e₀, _, hpress⟩]
      rfl
    · cases hcapturing : h.context.capturing with
      | false => exact Or.inr (Or.inl hcapturing)
      | true =>
        rw [houtcome, hcapturing]
        exact Or.inl rfl

end Presses

/-- **Press and release.**  For every set of bindings, and after every run of presses, repeats and releases with
any modifiers, in which the other threads leave the gate as they like: a release is paired with its presses exactly
when it agrees with them. -/
theorem release_paired_iff (context : WindowsCaptureContext) (inputs : List HookInput) (e : KeyEvent) :
    let h := run next (start context) inputs
    h.Paired e ↔ h.Agrees e := by
  intro h
  have htrue : h.Truthful := run_truthful context inputs
  cases hreleases : h.releases e with
  | some action => exact paired_iff_of_releases htrue hreleases
  | none => exact paired_iff_of_not_releases htrue hreleases

end Hooked

namespace Sample

def key (vkCode : UInt32) (modifiers : HotkeyModifiers) : KeyEvent :=
  { event := ⟨vkCode, 0, 0⟩, modifiers, system := false, slotFree := true }

/-- The default hotkeys, with input at the local machine. -/
def context : WindowsCaptureContext :=
  { controlHotkeyBindings := controlHotkeyBindings ControlHotkeys.default,
    hotkeys := ⟨⟨0⟩, ⟨none⟩, ⟨1⟩⟩, remoteActive := false, v2Controller := true, hookEvents := [] }

/-- `F11` alone. -/
def f11 : KeyEvent := key 0x7A HotkeyModifiers.none

/-- `Ctrl`+`Alt`+`F10`. -/
def goLocal : KeyEvent := key 0x79 { ctrl := true, alt := true, shift := false, «meta» := false }

end Sample

/-- `F11` alone goes down in the local system, which never sees it go up; and `Ctrl`+`Alt`+`F10` is taken as
`GoLocal`, its release as that of the emergency hotkey. -/
theorem not_paired_default :
    ¬ (run Hooked.next (Hooked.start Sample.context) [.key true Sample.f11]).Paired Sample.f11 ∧
      ¬ (run Hooked.next (Hooked.start Sample.context) [.key true Sample.goLocal]).Paired Sample.goLocal := by
  constructor
  · intro hpaired
    have hpassed := hpaired.passed [] Sample.f11 false ⟨rfl, [], by decide +kernel, by simp⟩
    revert hpassed
    decide +kernel
  · intro hpaired
    obtain ⟨e₀, capturing, hlatest⟩ := hpaired.hotkey .emergencyLocal (by decide +kernel)
    have hmem := hlatest.mem
    have hlog : (run Hooked.next (Hooked.start Sample.context) [.key true Sample.goLocal]).log =
        [.key true Sample.goLocal false (.hotkey .goLocal)] := by decide +kernel
    rw [hlog] at hmem
    simp at hmem

end MyKvm.Hook
