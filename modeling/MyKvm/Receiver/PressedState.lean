import MyKvm.ControlPorts
import MyKvm.Lib.Held
import MyKvm.Protocol.Frames

/-!
# MyKvm.Receiver.PressedState — the ledger of held keys and buttons

The receiver notes which keys and buttons of the controller are down.  Several keys may be mapped to one target, so
a target is pressed with its first key and released with its last.

`apply_moves` says what one event does: it moves no target, or it is a single press of a target which the ledger
then holds, or a single release of a target which it need not hold any more.  `release_all` releases every target.
-/

namespace MyKvm.Receiver

open MyKvm.Lib MyKvm.Protocol

inductive KeySource where
  | scanCode (scanCode : UInt16) (extended : Bool)
  | virtualKey (keyCode : UInt16)
  deriving DecidableEq

def KeySource.fromEvent (keyCode scanCode : UInt16) (extended : Bool) : KeySource :=
  if scanCode = 0 then .virtualKey keyCode else .scanCode scanCode extended

structure HeldKey where
  source : KeySource
  targetKeyCode : UInt16
  deriving DecidableEq

structure HeldButton where
  button : MouseButton
  x : Int32
  y : Int32
  deriving DecidableEq

structure PressedState where
  keys : List HeldKey
  buttons : List HeldButton
  deriving DecidableEq

/-- `From<CriticalButton>` -/
def mouseButton : CriticalButton → MouseButton
  | .left => .left
  | .right => .right
  | .middle => .middle
  | .back => .back
  | .forward => .forward

namespace PressedState

def empty : PressedState := { keys := [], buttons := [] }

def isEmpty (s : PressedState) : Bool := s.keys.isEmpty && s.buttons.isEmpty

def dragButton (s : PressedState) : Option MouseButton :=
  [.left, .right, .middle].find? fun button => s.buttons.any (·.button == button)

def updatePointer (s : PressedState) (x y : Int32) : PressedState :=
  { s with buttons := s.buttons.map fun held => { held with x, y } }

def applyKey (s : PressedState) (keyCode scanCode : UInt16) (extended down : Bool) :
    List InputCommand × PressedState :=
  let source := KeySource.fromEvent keyCode scanCode extended
  if down then
    if s.keys.any (·.source == source) then ([], s) else
    let targetWasHeld := s.keys.any (·.targetKeyCode == keyCode)
    let s := { s with keys := s.keys ++ [{ source, targetKeyCode := keyCode }] }
    if targetWasHeld then ([], s) else ([.key keyCode true], s)
  else
    match s.keys.find? (·.source == source) with
    | none => ([], s)
    | some held =>
      let s := { s with keys := s.keys.eraseP (·.source == source) }
      if s.keys.any (·.targetKeyCode == held.targetKeyCode) then ([], s)
      else ([.key held.targetKeyCode false], s)

def applyButton (s : PressedState) (button : MouseButton) (down : Bool) (x y : Int32) :
    List InputCommand × PressedState :=
  if down then
    if s.buttons.any (·.button == button) then
      -- the first one found is moved
      ([], { s with buttons := s.buttons.replaceF fun held =>
                     if held.button == button then some { held with x, y } else none })
    else ([.mouseButton button down x y], { s with buttons := s.buttons ++ [{ button, x, y }] })
  else if s.buttons.any (·.button == button) then
    ([.mouseButton button down x y], { s with buttons := s.buttons.eraseP (·.button == button) })
  else ([], s)

def apply (s : PressedState) : CriticalEvent → List InputCommand × PressedState
  | .key keyCode scanCode extended down => s.applyKey keyCode scanCode extended down
  | .button button down x y _ => s.applyButton (mouseButton button) down x y
  | .scroll deltaX deltaY _ _ _ => ([.scroll deltaX deltaY], s)

/-- The `while let Some(held) = keys.pop()` loop, on the keys last to first. -/
def releaseKeys : List HeldKey → List InputCommand
  | [] => []
  | held :: keys =>
    if keys.any (·.targetKeyCode == held.targetKeyCode) then releaseKeys keys
    else .key held.targetKeyCode false :: releaseKeys keys

def releaseAll (s : PressedState) : List InputCommand × PressedState :=
  (releaseKeys s.keys.reverse ++ s.buttons.reverse.map fun held => .mouseButton held.button false held.x held.y,
    empty)

/-! ### Targets -/

end PressedState

/-- What a command can hold down on the device. -/
inductive Target where
  | key (keyCode : UInt16)
  | button (button : MouseButton)
  deriving DecidableEq

open Held (Edge)

def edge (down : Bool) : Edge := if down then .down else .up

/-- The press or release which a command is. -/
def stroke : InputCommand → Option (Target × Edge)
  | .key keyCode down => some (.key keyCode, edge down)
  | .mouseButton button down _ _ => some (.button button, edge down)
  | _ => none

/-- The keys and buttons which the device holds, after what was posted. -/
def deviceHeld (posted : List InputCommand) : List Target := Held.held stroke posted

namespace PressedState

/-- The targets in the ledger. -/
def targets (s : PressedState) : List Target :=
  s.keys.map (fun held => .key held.targetKeyCode) ++ s.buttons.map fun held => .button held.button

theorem key_mem_targets {s : PressedState} {keyCode : UInt16} :
    .key keyCode ∈ s.targets ↔ ∃ held ∈ s.keys, held.targetKeyCode = keyCode := by
  simp [targets]

theorem button_mem_targets {s : PressedState} {button : MouseButton} :
    .button button ∈ s.targets ↔ ∃ held ∈ s.buttons, held.button = button := by
  simp [targets]

@[simp] theorem updatePointer_targets (s : PressedState) (x y : Int32) :
    (s.updatePointer x y).targets = s.targets := by
  simp [updatePointer, targets]

/-- What an event does to the ledger and asks of the device. -/
inductive Moves (s : PressedState) : List InputCommand × PressedState → Prop
  | none {cs : List InputCommand} {s' : PressedState} : (∀ c ∈ cs, stroke c = Option.none) →
      (∀ t ∈ s.targets, t ∈ s'.targets) → Moves s (cs, s')
  | down {c : InputCommand} {t : Target} {s' : PressedState} : stroke c = some (t, .down) →
      (∀ t ∈ s.targets, t ∈ s'.targets) → t ∈ s'.targets → Moves s ([c], s')
  | up {c : InputCommand} {t : Target} {s' : PressedState} : stroke c = some (t, .up) →
      (∀ t' ∈ s.targets, t' ≠ t → t' ∈ s'.targets) → Moves s ([c], s')

/-- Removing the first match keeps everything else. -/
theorem mem_eraseP_of_find {α : Type} {p : α → Bool} {l : List α} {a x : α} (hfind : l.find? p = some a)
    (hx : x ∈ l) (hne : x ≠ a) : x ∈ l.eraseP p := by
  induction l with
  | nil => cases hx
  | cons b l ih =>
    rw [List.find?_cons] at hfind
    cases hb : p b with
    | true =>
      simp only [hb, Option.some.injEq] at hfind
      rw [List.eraseP_cons_of_pos hb]
      exact (List.mem_cons.mp hx).resolve_left (fun h => hne (h.trans hfind))
    | false =>
      simp only [hb] at hfind
      rw [List.eraseP_cons_of_neg (by simp [hb])]
      rcases List.mem_cons.mp hx with rfl | hx
      · exact List.mem_cons_self
      · exact List.mem_cons_of_mem _ (ih hfind hx)

theorem applyKey_moves (s : PressedState) (keyCode scanCode : UInt16) (extended down : Bool) :
    Moves s (s.applyKey keyCode scanCode extended down) := by
  unfold applyKey
  dsimp only
  split
  · split
    · exact .none (by simp) (fun t ht => ht)
    have hgrow : ∀ t ∈ s.targets,
        t ∈ targets { s with keys := s.keys ++ [⟨KeySource.fromEvent keyCode scanCode extended, keyCode⟩] } := by
      intro t ht
      simp only [targets, List.map_append, List.mem_append] at ht ⊢
      tauto
    split
    · exact .none (by simp) hgrow
    · exact .down (t := .key keyCode) rfl hgrow (by simp [key_mem_targets])
  · split
    · exact .none (by simp) (fun t ht => ht)
    rename_i held hfind
    -- the other targets stay
    have hkeep : ∀ t ∈ s.targets, t ≠ .key held.targetKeyCode →
        t ∈ targets
        { s with keys := s.keys.eraseP (·.source == KeySource.fromEvent keyCode scanCode extended) } := by
      intro t ht hne
      cases t with
      | key code =>
        obtain ⟨other, hother, rfl⟩ := key_mem_targets.mp ht
        refine key_mem_targets.mpr ⟨other, mem_eraseP_of_find hfind hother ?_, rfl⟩
        rintro rfl
        exact hne rfl
      | button button =>
        have hheld := button_mem_targets.mp ht
        exact button_mem_targets.mpr hheld
    split
    · rename_i hother
      refine .none (by simp) (fun t ht => ?_)
      by_cases heq : t = .key held.targetKeyCode
      · subst heq
        simpa [key_mem_targets] using hother
      · exact hkeep t ht heq
    · exact .up (t := .key held.targetKeyCode) rfl hkeep

/-- Moving a held button keeps the list of buttons. -/
theorem map_button_replaceF (buttons : List HeldButton) (button : MouseButton) (x y : Int32) :
    (buttons.replaceF fun held => if held.button == button then some { held with x, y } else none).map (·.button) =
      buttons.map (·.button) := by
  induction buttons with
  | nil => rfl
  | cons held buttons ih =>
    rw [List.replaceF_cons]
    split
    · rename_i h
      split at h
      · cases h
      · exact congrArg (held.button :: ·) ih
    · rename_i h
      split at h
      · cases h
        rfl
      · cases h

theorem targets_replaceF (s : PressedState) (button : MouseButton) (x y : Int32) :
    targets { s with
      buttons := s.buttons.replaceF fun held => if held.button == button then some { held with x, y } else none } =
      s.targets := by
  have hmap := congrArg (List.map Target.button) (map_button_replaceF s.buttons button x y)
  rw [List.map_map, List.map_map] at hmap
  exact congrArg (s.keys.map (fun held => Target.key held.targetKeyCode) ++ ·) hmap

theorem applyButton_moves (s : PressedState) (button : MouseButton) (down : Bool) (x y : Int32) :
    Moves s (s.applyButton button down x y) := by
  unfold applyButton
  split
  · rename_i hdown
    split
    · exact .none (by simp) (fun t ht => by rwa [targets_replaceF])
    · refine .down (t := .button button) (by simp [stroke, edge, hdown]) (fun t ht => ?_)
        (by simp [button_mem_targets])
      simp only [targets, List.map_append, List.mem_append] at ht ⊢
      tauto
  · rename_i hup
    split
    · refine .up (t := .button button) (by simp [stroke, edge, hup]) (fun t ht hne => ?_)
      cases t with
      | key code =>
        have hheld := key_mem_targets.mp ht
        exact key_mem_targets.mpr hheld
      | button other =>
        obtain ⟨held, hheld, rfl⟩ := button_mem_targets.mp ht
        refine button_mem_targets.mpr ⟨held, (List.mem_eraseP_of_neg ?_).mpr hheld, rfl⟩
        intro heq
        exact hne (congrArg Target.button (by simpa using heq))
    · exact .none (by simp) (fun t ht => ht)

/-- **One event** moves no target, presses one or releases one. -/
theorem apply_moves (s : PressedState) (event : CriticalEvent) : Moves s (s.apply event) := by
  cases event with
  | key keyCode scanCode extended down => exact s.applyKey_moves keyCode scanCode extended down
  | button button down x y motionSequence => exact s.applyButton_moves (mouseButton button) down x y
  | scroll deltaX deltaY x y motionSequence => exact .none (by simp [stroke]) (fun t ht => ht)

/-! ### Release -/

theorem mem_releaseKeys {keys : List HeldKey} {keyCode : UInt16}
    (h : ∃ held ∈ keys, held.targetKeyCode = keyCode) :
    .key keyCode false ∈ releaseKeys keys := by
  induction keys with
  | nil => simp at h
  | cons first keys ih =>
    rw [releaseKeys]
    split
    · rename_i hlater
      apply ih
      obtain ⟨held, hheld, heq⟩ := h
      rcases List.mem_cons.mp hheld with rfl | hheld
      · -- the key shares its target with a later one
        simpa [heq] using hlater
      · exact ⟨held, hheld, heq⟩
    · obtain ⟨held, hheld, heq⟩ := h
      rcases List.mem_cons.mp hheld with rfl | hheld
      · rw [heq]
        exact List.mem_cons_self
      · exact List.mem_cons_of_mem _ (ih ⟨held, hheld, heq⟩)

theorem releaseKeys_up {keys : List HeldKey} : ∀ c ∈ releaseKeys keys, ∃ keyCode, c = .key keyCode false := by
  induction keys with
  | nil => simp [releaseKeys]
  | cons held keys ih =>
    rw [releaseKeys]
    split
    · exact ih
    · intro c hc
      rcases List.mem_cons.mp hc with rfl | hc
      · exact ⟨_, rfl⟩
      · exact ih c hc

/-- A release presses nothing. -/
theorem releaseAll_noDown (s : PressedState) : Held.NoDown stroke s.releaseAll.1 := by
  intro c hc t
  rcases List.mem_append.mp hc with hc | hc
  · obtain ⟨keyCode, rfl⟩ := releaseKeys_up c hc
    simp [stroke, edge]
  · obtain ⟨held, -, rfl⟩ := List.mem_map.mp hc
    simp [stroke, edge]

/-- **A release covers the ledger**: every target gets its release. -/
theorem releaseAll_covers (s : PressedState) :
    ∀ t ∈ s.targets, ∃ c ∈ s.releaseAll.1, stroke c = some (t, .up) := by
  intro t ht
  cases t with
  | key keyCode =>
    obtain ⟨held, hheld, heq⟩ := key_mem_targets.mp ht
    refine ⟨.key keyCode false, List.mem_append_left _ (mem_releaseKeys ⟨held, ?_, heq⟩), rfl⟩
    exact List.mem_reverse.mpr hheld
  | button button =>
    obtain ⟨held, hheld, heq⟩ := button_mem_targets.mp ht
    refine ⟨.mouseButton held.button false held.x held.y, List.mem_append_right _ ?_, by rw [← heq]; rfl⟩
    exact List.mem_map.mpr ⟨held, List.mem_reverse.mpr hheld, rfl⟩

end PressedState

end MyKvm.Receiver
