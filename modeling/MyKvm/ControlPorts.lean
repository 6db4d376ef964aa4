import Mathlib.Data.List.Basic

/-!
# MyKvm.ControlPorts — the platform boundary of the control core

The error of a port, and the commands of the injector.  A port is only known by its answers, so the models take the
answers from a script: a theorem about every script covers every implementation of the port.
-/

namespace MyKvm

/-- Why a platform port refused. -/
inductive PortError where
  | permissionDenied
  | unavailable
  | queueFull
  | submissionFailed
  deriving DecidableEq, Repr

/-- What a port answers. -/
abbrev PortAnswer := Except PortError Unit

inductive MouseButton where
  | left
  | right
  | middle
  | back
  | forward
  deriving DecidableEq, Repr

/-- What the injector is asked to post. -/
inductive InputCommand where
  | mouseMove (x y : Int32) (dragButton : Option MouseButton)
  | mouseButton (button : MouseButton) (down : Bool) (x y : Int32)
  | scroll (deltaX deltaY : Int32)
  | key (keyCode : UInt16) (down : Bool)
  | releaseAll
  | secureAttention
  deriving DecidableEq

/-- The injector: the answers it will give, and what it has posted so far, newest first.  A failed call posts
nothing. -/
structure Injector where
  answers : List PortAnswer
  posted : List InputCommand
  deriving DecidableEq

namespace Injector

/-- The next answer; a script which has run out answers `ok`. -/
def answer (i : Injector) : PortAnswer × Injector :=
  match i.answers with
  | [] => (.ok (), i)
  | a :: rest => (a, { i with answers := rest })

def readiness (i : Injector) : PortAnswer × Injector := i.answer

def postEvent (i : Injector) (event : InputCommand) : PortAnswer × Injector :=
  match i.answer with
  | (.ok (), i) => (.ok (), { i with posted := event :: i.posted })
  | (.error e, i) => (.error e, i)

/-- `submit_ready`: the readiness policy of every submission. -/
def submitReady (i : Injector) (event : InputCommand) : PortAnswer × Injector :=
  match i.readiness with
  | (.error e, i) => (.error e, i)
  | (.ok (), i) => i.postEvent event

@[simp] theorem answer_posted (i : Injector) : i.answer.2.posted = i.posted := by
  unfold answer
  split <;> rfl

@[simp] theorem readiness_posted (i : Injector) : i.readiness.2.posted = i.posted := i.answer_posted

theorem posted_of_readiness {i i' : Injector} {answer : PortAnswer} (h : i.readiness = (answer, i')) :
    i'.posted = i.posted := by
  rw [← i.readiness_posted, h]

/-- A submission posts the event or leaves the device alone. -/
theorem submitReady_cases (i : Injector) (event : InputCommand) :
    ((i.submitReady event).1 = .ok () ∧ (i.submitReady event).2.posted = event :: i.posted) ∨
      ((∃ e, (i.submitReady event).1 = .error e) ∧ (i.submitReady event).2.posted = i.posted) := by
  have hready := i.readiness_posted
  unfold submitReady
  cases hr : i.readiness with
  | mk a i₁ =>
    rw [hr] at hready
    cases a with
    | error e => exact Or.inr ⟨⟨e, rfl⟩, hready⟩
    | ok u =>
      have hanswer := i₁.answer_posted
      simp only [postEvent]
      cases hp : i₁.answer with
      | mk b i₂ =>
        rw [hp] at hanswer
        cases b with
        | error e => exact Or.inr ⟨⟨e, rfl⟩, hanswer.trans hready⟩
        | ok u => exact Or.inl ⟨rfl, congrArg (event :: ·) (hanswer.trans hready)⟩

end Injector

end MyKvm
