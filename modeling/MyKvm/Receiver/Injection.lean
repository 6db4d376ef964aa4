import MyKvm.Receiver.Lockstep

/-!
# MyKvm.Receiver.Injection — who may inject

`Emits` says what a call has posted: releases of targets in the ledger (`Emits.releases`), or anything.  The second
is left to the input and motion frames of the bound controller for the active session (`Authorised`).
-/

namespace MyKvm.Receiver

open MyKvm.Lib MyKvm.Protocol ReceiverSessionRuntime

/-- The command releases a target of the ledger. -/
def Frees (pressed : PressedState) (command : InputCommand) : Prop :=
  ∃ t ∈ pressed.targets, stroke command = some (t, .up)

/-- An input or motion frame of the bound controller for the active session. -/
def Authorised (r : ReceiverSessionRuntime) : ReceiverCall → Prop
  | .input frame peer _ => r.binding = some peer ∧ peer.role = .controller ∧ r.activeSession = some frame.sessionId
  | .motion frame peer _ => r.binding = some peer ∧ peer.role = .controller ∧
      r.activeSession = some frame.sessionId
  | _ => False

/-- What was posted between two states; without `free` it is nothing but releases of the ledger. -/
def Emits (free : Prop) (r r₁ : ReceiverSessionRuntime) : Prop :=
  ∃ new, r₁.injector.posted = new ++ r.injector.posted ∧ (free ∨ ∀ command ∈ new, Frees r.pressed command)

namespace PressedState

theorem mem_releaseKeys_target {keys : List HeldKey} {command : InputCommand} (h : command ∈ releaseKeys keys) :
    ∃ held ∈ keys, command = .key held.targetKeyCode false := by
  induction keys with
  | nil => cases h
  | cons held keys ih =>
    rw [releaseKeys] at h
    split at h
    · obtain ⟨other, hother, heq⟩ := ih h
      exact ⟨other, List.mem_cons_of_mem _ hother, heq⟩
    · rcases List.mem_cons.mp h with rfl | h
      · exact ⟨held, List.mem_cons_self, rfl⟩
      · obtain ⟨other, hother, heq⟩ := ih h
        exact ⟨other, List.mem_cons_of_mem _ hother, heq⟩

/-- **A release stays inside the ledger.** -/
theorem releaseAll_frees (s : PressedState) : ∀ command ∈ s.releaseAll.1, Frees s command := by
  intro command h
  rcases List.mem_append.mp h with h | h
  · obtain ⟨held, hheld, rfl⟩ := mem_releaseKeys_target h
    exact ⟨.key held.targetKeyCode, key_mem_targets.mpr ⟨held, List.mem_reverse.mp hheld, rfl⟩, rfl⟩
  · obtain ⟨held, hheld, rfl⟩ := List.mem_map.mp h
    exact ⟨.button held.button, button_mem_targets.mpr ⟨held, List.mem_reverse.mp hheld, rfl⟩, rfl⟩

end PressedState

section Emits

variable {free : Prop} {r r₁ : ReceiverSessionRuntime}

theorem Emits.refl (r : ReceiverSessionRuntime) : Emits free r r := ⟨[], rfl, Or.inr (by simp)⟩

/-- Nothing was posted. -/
theorem Emits.silent (hposted : r₁.injector.posted = r.injector.posted) : Emits free r r₁ :=
  ⟨[], hposted, Or.inr (by simp)⟩

/-- `Emits` reads the ledger before and the log before and after. -/
theorem Emits.congr {r' : ReceiverSessionRuntime} (h : Emits free r' r₁)
    (hposted : r'.injector.posted = r.injector.posted) (hpressed : r'.pressed = r.pressed) : Emits free r r₁ := by
  unfold Emits at h ⊢
  rwa [hposted, hpressed] at h

/-- Where everything may be posted, the steps add up. -/
theorem Emits.trans {r₂ : ReceiverSessionRuntime} (hfree : free) (h : Emits free r r₁) (h₂ : Emits free r₁ r₂) :
    Emits free r r₂ := by
  obtain ⟨new, hnew, -⟩ := h
  obtain ⟨new₂, hnew₂, -⟩ := h₂
  exact ⟨new₂ ++ new, by rw [hnew₂, hnew, List.append_assoc], Or.inl hfree⟩

theorem ReleaseStep.emits {answer : Except SessionRuntimeError Unit} (hstep : ReleaseStep r (answer, r₁)) :
    Emits free r r₁ := by
  cases hstep with
  | released hposted =>
    refine ⟨_, hposted, Or.inr fun command h => ?_⟩
    exact r.pressed.releaseAll_frees command (List.mem_reverse.mp h)
  | failed e fault hsub hposted =>
    refine ⟨_, hposted, Or.inr fun command h => ?_⟩
    exact r.pressed.releaseAll_frees command (hsub.subset (List.mem_reverse.mp h))

theorem ControlStep.emits {frame : ControlFrame} {peer : AuthenticatedPeer} {nowMs : UInt64}
    {answer : Except SessionRuntimeError (Option ControlFrame)}
    (hstep : ControlStep r frame peer nowMs (answer, r₁)) :
    Emits free r r₁ := by
  cases hstep with
  | refused _ _ => exact Emits.refl r
  | helloFailed _ hrelease => exact hrelease.emits
  | helloRefused _ hrelease => exact hrelease.emits
  | greeted _ hrelease =>
    have hemits : Emits free r _ := hrelease.emits
    exact hemits
  | unready _ hready => exact .silent (Injector.posted_of_readiness hready)
  | unknownLayout _ hready _ => exact .silent (Injector.posted_of_readiness hready)
  | prepareRefused _ hready _ _ _ => exact .silent (Injector.posted_of_readiness hready)
  | prepared _ hready _ _ _ => exact .silent (Injector.posted_of_readiness hready)
  | activated _ _ _ _ _ _ _ => exact .silent rfl
  | commitRefused _ _ _ _ => exact .silent rfl
  | recommitted _ _ => exact .silent rfl
  | ended _ _ _ hrelease => exact hrelease.emits.congr rfl rfl
  | endedIdle _ _ _ _ hrelease => exact hrelease.emits.congr rfl rfl
  | ponged _ _ _ =>
    unfold touch
    dsimp only
    split
    · exact .silent rfl
    · exact Emits.refl r

theorem LoseStep.emits {answer : Except SessionRuntimeError Bool} (hstep : LoseStep r (answer, r₁)) :
    Emits free r r₁ := by
  cases hstep with
  | kept => exact Emits.refl r
  | lost _ _ hrelease => exact hrelease.emits.congr rfl rfl

theorem LayoutStep.emits {displayLayouts : List ReceiverDisplayLayout} {answer : Except SessionRuntimeError Bool}
    (hstep : LayoutStep r displayLayouts (answer, r₁)) : Emits free r r₁ := by
  cases hstep with
  | current _ => exact .silent rfl
  | lost _ _ _ hrelease => exact hrelease.emits.congr rfl rfl
  | cleared _ _ hrelease => exact hrelease.emits.congr rfl rfl

/-! ### Motion and input -/

theorem ApplyStep.emits {frame : MotionFrame} {answer : Except SessionRuntimeError Unit}
    (hstep : ApplyStep r frame (answer, r₁)) (hfree : free) : Emits free r r₁ := by
  cases hstep with
  | refused _ => exact Emits.refl r
  | failed hposted _ hrelease => exact hrelease.emits.congr hposted rfl
  | moved _ hposted => exact ⟨[_], hposted, Or.inl hfree⟩

theorem FlushStep.emits {answer : Except SessionRuntimeError Unit} (hstep : FlushStep r (answer, r₁))
    (hfree : free) :
    Emits free r r₁ := by
  cases hstep with
  | kept => exact Emits.refl r
  | dropped => exact .silent rfl
  | applied _ _ _ happly => exact (happly.emits hfree).congr rfl rfl

theorem Arrival.emits {frame : MotionFrame} {peer : AuthenticatedPeer} {nowMs : UInt64}
    {answer : Except SessionRuntimeError MotionDisposition} (hstep : Arrival r frame peer nowMs (answer, r₁)) :
    Emits (Authorised r (.motion frame peer nowMs)) r r₁ := by
  cases hstep with
  | aside _ => exact Emits.refl r
  | waits _ _ _ _ _ _ => exact .silent rfl
  | due hbound hrole hactive _ _ happly => exact (happly.emits ⟨hbound, hrole, hactive⟩).congr rfl rfl

/-- Submitted or not, the commands of an event only add to the log. -/
theorem emits_submitAll (hfree : free) (commands : List InputCommand) {r' : ReceiverSessionRuntime}
    (hposted : r'.injector.posted = (submitAll commands r.injector).2.posted) : Emits free r r' := by
  rcases submitAll_cases commands r.injector with ⟨-, hdone⟩ | ⟨_, _, _, _, -, -, hdone⟩
  · exact ⟨_, hposted.trans hdone, Or.inl hfree⟩
  · exact ⟨_, hposted.trans hdone, Or.inl hfree⟩

theorem InputStep.emits {frame : CriticalFrame} {peer : AuthenticatedPeer} {nowMs : UInt64}
    {answer : Except SessionRuntimeError Unit} (hstep : InputStep r frame peer nowMs (answer, r₁))
    (hc : Coherent r) :
    Emits (Authorised r (.input frame peer nowMs)) r r₁ := by
  cases hstep with
  | refused _ => exact Emits.refl r
  | failed hadmitted hsubmit hh hrelease =>
    have hfree : Authorised r (.input frame peer nowMs) := ⟨hadmitted.bound, hadmitted.role, hadmitted.active hc⟩
    rename_i mapped pointer error i h answer
    have hsubmitted : Emits (Authorised r (.input frame peer nowMs)) r { r with injector := i } :=
      emits_submitAll hfree (inputCommands r.pressed mapped pointer).1 (by rw [hsubmit])
    exact hsubmitted.trans hfree (hrelease.emits.congr rfl rfl)
  | applied hadmitted hsubmit hnext hflush =>
    rename_i mapped pointer i next
    have hfree : Authorised r (.input frame peer nowMs) := ⟨hadmitted.bound, hadmitted.role, hadmitted.active hc⟩
    have hsubmitted : Emits (Authorised r (.input frame peer nowMs)) r
        (afterInput r frame (inputCommands r.pressed mapped pointer).2 i next nowMs) :=
      emits_submitAll hfree (inputCommands r.pressed mapped pointer).1 (by rw [hsubmit]; rfl)
    exact hsubmitted.trans hfree (hflush.emits hfree)

theorem next_emits (hc : Coherent r) (c : ReceiverCall) : Emits (Authorised r c) r (r.next c) := by
  cases c with
  | control frame peer nowMs => exact (handleControlAt_cases hc frame peer nowMs).emits
  | input frame peer nowMs => exact (handleInputAt_cases hc frame peer nowMs).emits hc
  | motion frame peer nowMs => exact (handleMotionAt_arrival hc frame peer nowMs).emits
  | expire nowMs => exact (expireIfNeeded_cases hc nowMs).emits
  | streamClosed peer => exact (inputStreamClosed_cases hc peer).emits
  | layouts displayLayouts => exact (updateDisplayLayouts_cases hc displayLayouts).emits
  | modifiers enabled control alt «meta» => exact .silent rfl

end Emits

/-- **Only the bound controller injects.**  In every reachable state, every call of every peer adds to the log;
unless it is an input or motion frame of exactly the bound peer, a controller, for the active session, it adds
nothing but releases of targets which the ledger holds. -/
theorem only_bound_controller_injects (localBoot : BootId) (injector : Injector)
    (displayLayouts : List ReceiverDisplayLayout) (calls : List ReceiverCall) (c : ReceiverCall) :
    let r := run next (newWithDisplayLayouts localBoot injector displayLayouts) calls
    ∃ new, (r.next c).injector.posted = new ++ r.injector.posted ∧
      (Authorised r c ∨ ∀ command ∈ new, ∃ t ∈ r.pressed.targets, stroke command = some (t, .up)) :=
  next_emits (run_coherent localBoot injector displayLayouts calls) c

end MyKvm.Receiver
