import MyKvm.Receiver.Coherence

/-!
# MyKvm.Receiver.NoStuckKeys — the ledger covers the device

What the device holds is read off the posted commands (`deviceHeld`).  `Safe` says that the ledger lists all of it,
and that without a session nothing is held unless the last fault says that a release failed.

A release from a covered state empties the device or leaves the fault (`ReleaseStep.safe`); a submission which
fails half way has moved no target, so the old ledger still covers (`InputStep.safe`).
-/

namespace MyKvm.Receiver

open MyKvm.Lib MyKvm.Protocol ReceiverSessionRuntime

/-- The ledger lists everything the device holds. -/
def Covered (r : ReceiverSessionRuntime) : Prop := Held.Covers stroke r.injector.posted r.pressed.targets

/-- The device holds nothing, or the last fault is a failed release. -/
def Quiet (r : ReceiverSessionRuntime) : Prop :=
  deviceHeld r.injector.posted = [] ∨ ∃ e, r.lastFault = some (.releaseFailed e)

structure Safe (r : ReceiverSessionRuntime) : Prop where
  covered : Covered r
  quiet : r.activeSession = none → Quiet r

section Safe

variable {r r₁ : ReceiverSessionRuntime}

theorem Covered.congr (h : Covered r) (hposted : r₁.injector.posted = r.injector.posted)
    (hpressed : r₁.pressed.targets = r.pressed.targets) : Covered r₁ := by
  unfold Covered
  rw [hposted, hpressed]
  exact h

/-- Calls which move neither the device nor the ledger. -/
theorem Safe.congr (h : Safe r) (hposted : r₁.injector.posted = r.injector.posted)
    (hpressed : r₁.pressed = r.pressed)
    (hfault : r₁.lastFault = r.lastFault) (hactive : r₁.activeSession = none → r.activeSession = none) :
    Safe r₁ := by
  refine ⟨h.covered.congr hposted (by rw [hpressed]), fun hnone => ?_⟩
  have hquiet := h.quiet (hactive hnone)
  unfold Quiet at hquiet ⊢
  rwa [hposted, hfault]

/-! ### Release -/

/-- A release from a covered state which answers `ok` empties the device. -/
theorem ReleaseStep.empties (hstep : ReleaseStep r (.ok (), r₁)) (h : Covered r) :
    deviceHeld r₁.injector.posted = [] := by
  cases hstep with
  | released hposted =>
    unfold deviceHeld
    rw [hposted]
    refine Held.held_eq_nil h ?_ ?_
    · intro c hc
      exact r.pressed.releaseAll_noDown c (List.mem_reverse.mp hc)
    · intro t ht
      obtain ⟨c, hc, heq⟩ := r.pressed.releaseAll_covers t ht
      exact ⟨c, List.mem_reverse.mpr hc, heq⟩

/-- **Release.**  Whatever it answers, the ledger covers the device and the fault tells of a failure. -/
theorem ReleaseStep.safe {answer : Except SessionRuntimeError Unit} (hstep : ReleaseStep r (answer, r₁))
    (h : Covered r) : Safe r₁ := by
  cases hstep with
  | released hposted =>
    have hempty := ReleaseStep.empties (.released hposted) h
    refine ⟨?_, fun _ => Or.inl hempty⟩
    intro t ht
    unfold deviceHeld at hempty
    rw [hempty] at ht
    cases ht
  | failed e fault hsub hposted =>
    refine ⟨?_, fun _ => Or.inr ⟨fault, rfl⟩⟩
    unfold Covered
    rw [hposted]
    refine Held.Covers.noDown h ?_
    intro c hc
    exact r.pressed.releaseAll_noDown c (hsub.subset (List.mem_reverse.mp hc))

/-! ### Submissions -/

theorem moves_congr {pressed pressed' : PressedState} {out : List InputCommand × PressedState}
    (h : pressed'.Moves out) (htargets : pressed'.targets = pressed.targets) : pressed.Moves out := by
  cases h with
  | none hneutral hsub => exact .none hneutral (by rwa [← htargets])
  | down hc hsub ht => exact .down hc (by rwa [← htargets]) ht
  | up hc hsub => exact .up hc (by rwa [← htargets])

/-- A pointer move is added where the event asks for nothing. -/
theorem moves_orElse {pressed : PressedState} {out : List InputCommand × PressedState} (h : pressed.Moves out)
    (x y : Int32) : pressed.Moves (match out.1 with
      | [] => ([.mouseMove x y out.2.dragButton], out.2)
      | commands => (commands, out.2)) := by
  obtain ⟨commands, after⟩ := out
  cases commands with
  | cons c cs => exact h
  | nil =>
    cases h with
    | none hneutral hsub => exact .none (by simp [stroke]) hsub

/-- **An input event moves at most one target**, and with it the ledger. -/
theorem inputCommands_moves (pressed : PressedState) (event : CriticalEvent) (pointer : Option (Int32 × Int32)) :
    pressed.Moves (inputCommands pressed event pointer) := by
  unfold inputCommands
  cases pointer with
  | none =>
    have hmoves := pressed.apply_moves event
    dsimp only
    generalize pressed.apply event = out at hmoves ⊢
    obtain ⟨commands, after⟩ := out
    cases commands <;> exact hmoves
  | some p =>
    obtain ⟨x, y⟩ := p
    have hmoves := moves_congr ((pressed.updatePointer x y).apply_moves event) (pressed.updatePointer_targets x y)
    cases event with
    | key keyCode scanCode extended down =>
      have horElse := moves_orElse hmoves x y
      dsimp only
      generalize (pressed.updatePointer x y).apply (.key keyCode scanCode extended down) = out at horElse ⊢
      obtain ⟨commands, after⟩ := out
      cases commands <;> exact horElse
    | button button down bx b_y motionSequence =>
      have horElse := moves_orElse hmoves x y
      dsimp only
      generalize (pressed.updatePointer x y).apply (.button button down bx b_y motionSequence) = out at horElse ⊢
      obtain ⟨commands, after⟩ := out
      cases commands <;> exact horElse
    | scroll deltaX deltaY sx sy motionSequence =>
      -- the pointer is moved first, and nothing is pressed or released
      exact .none (by simp [stroke]) (by simp)

theorem covered_of_submitted {pressed : PressedState} {out : List InputCommand × PressedState}
    {posted : List InputCommand} (h : Held.Covers stroke posted pressed.targets) (hmoves : pressed.Moves out) :
    Held.Covers stroke (out.1.reverse ++ posted) out.2.targets := by
  cases hmoves with
  | none hneutral hsub =>
    refine (Held.Covers.noDown h ?_).mono hsub
    intro c hc t
    rw [hneutral c (List.mem_reverse.mp hc)]
    simp
  | down hc hsub ht => exact Held.covers_down (h.mono hsub) hc ht
  | up hc hsub => exact Held.covers_up h hc hsub

/-- What was posted before a command failed has moved no target. -/
theorem covered_of_failed {pressed : PressedState} {out : List InputCommand × PressedState}
    {posted done rest : List InputCommand} {failed : InputCommand} (h : Held.Covers stroke posted pressed.targets)
    (hmoves : pressed.Moves out) (hsplit : out.1 = done ++ failed :: rest) :
    Held.Covers stroke (done.reverse ++ posted) pressed.targets := by
  have hneutral : ∀ c ∈ done, stroke c = none := by
    cases hmoves with
    | none hneutral hsub =>
      obtain rfl := hsplit
      exact fun c hc => hneutral c (List.mem_append_left _ hc)
    | down _ _ _ | up _ _ =>
      cases done with
      | nil => simp
      | cons c done => simp at hsplit
  refine Held.Covers.noDown h ?_
  intro c hc t
  rw [hneutral c (List.mem_reverse.mp hc)]
  simp

/-! ### One call -/

theorem Safe.withoutPending (h : Safe r) : Safe { r with pendingMotion := none } := h.congr rfl rfl rfl id

theorem ControlStep.safe {frame : ControlFrame} {peer : AuthenticatedPeer} {nowMs : UInt64}
    {answer : Except SessionRuntimeError (Option ControlFrame)}
    (hstep : ControlStep r frame peer nowMs (answer, r₁)) (h : Safe r) : Safe r₁ := by
  cases hstep with
  | refused _ _ => exact h
  | helloFailed _ hrelease => exact hrelease.safe h.covered
  | helloRefused _ hrelease => exact hrelease.safe h.covered
  | greeted _ hrelease => exact (hrelease.safe h.covered).congr rfl rfl rfl id
  | unready _ hready => exact h.congr (Injector.posted_of_readiness hready) rfl rfl id
  | unknownLayout _ hready _ => exact h.congr (Injector.posted_of_readiness hready) rfl rfl id
  | prepareRefused _ hready _ _ _ => exact h.congr (Injector.posted_of_readiness hready) rfl rfl id
  | prepared _ hready _ _ _ => exact h.congr (Injector.posted_of_readiness hready) rfl rfl id
  | activated _ _ _ _ _ _ _ => exact ⟨h.covered.congr rfl rfl, by simp [activeIn]⟩
  | commitRefused _ _ _ _ => exact h.congr rfl rfl rfl id
  | recommitted _ _ => exact h.congr rfl rfl rfl id
  | ended _ _ _ hrelease => exact hrelease.safe (h.covered.congr rfl rfl)
  | endedIdle _ _ _ _ hrelease => exact hrelease.safe (h.covered.congr rfl rfl)
  | ponged _ _ _ =>
    unfold touch
    dsimp only
    split
    · exact h.congr rfl rfl rfl id
    · exact h

theorem ApplyStep.safe {frame : MotionFrame} {answer : Except SessionRuntimeError Unit}
    (hstep : ApplyStep r frame (answer, r₁)) (h : Safe r) : Safe r₁ := by
  cases hstep with
  | refused _ => exact h
  | failed hposted _ hrelease => exact hrelease.safe (h.covered.congr hposted rfl)
  | moved _ hposted =>
    -- a pointer move holds nothing
    refine ⟨?_, fun hnone => ?_⟩
    · unfold Covered
      rw [hposted, PressedState.updatePointer_targets]
      exact Held.covers_none h.covered rfl
    · unfold Quiet
      rw [hposted]
      exact h.quiet hnone

theorem FlushStep.safe {answer : Except SessionRuntimeError Unit} (hstep : FlushStep r (answer, r₁)) (h : Safe r) :
    Safe r₁ := by
  cases hstep with
  | kept => exact h
  | dropped => exact h.withoutPending
  | applied _ _ _ happly => exact happly.safe h.withoutPending

theorem MotionStep.safe {frame : MotionFrame} {nowMs : UInt64}
    {answer : Except SessionRuntimeError MotionDisposition}
    (hstep : MotionStep r frame nowMs (answer, r₁)) (h : Safe r) : Safe r₁ := by
  cases hstep with
  | refused _ => exact h
  | stale => exact h
  | buffered _ _ => exact h.congr rfl rfl rfl id
  | applied _ happly => exact happly.safe (h.congr rfl rfl rfl id)

theorem InputStep.safe {frame : CriticalFrame} {peer : AuthenticatedPeer} {nowMs : UInt64}
    {answer : Except SessionRuntimeError Unit} (hstep : InputStep r frame peer nowMs (answer, r₁))
    (hc : Coherent r) (h : Safe r) : Safe r₁ := by
  cases hstep with
  | refused _ => exact h
  | failed hadmitted hsubmit hh hrelease =>
    refine hrelease.safe ?_
    rename_i mapped pointer error i handshake answer
    have hmoves := inputCommands_moves r.pressed mapped pointer
    rcases submitAll_cases (inputCommands r.pressed mapped pointer).1 r.injector with
      ⟨hok, -⟩ | ⟨e, done, failed, rest, -, hsplit, hposted⟩
    · rw [hsubmit] at hok
      cases hok
    · rw [hsubmit] at hposted
      have hcovered := covered_of_failed h.covered hmoves hsplit
      rw [← hposted] at hcovered
      exact hcovered
  | applied hadmitted hsubmit hnext hflush =>
    rename_i mapped pointer i next
    refine hflush.safe ⟨?_, ?_⟩
    · rcases submitAll_cases (inputCommands r.pressed mapped pointer).1 r.injector with
        ⟨-, hposted⟩ | ⟨e, _, _, _, herr, -, -⟩
      · rw [hsubmit] at hposted
        have hcovered := covered_of_submitted h.covered (inputCommands_moves r.pressed mapped pointer)
        rw [← hposted] at hcovered
        exact hcovered
      · rw [hsubmit] at herr
        cases herr
    · simp [afterInput, hadmitted.active hc]

theorem LoseStep.safe {answer : Except SessionRuntimeError Bool} (hstep : LoseStep r (answer, r₁)) (h : Safe r) :
    Safe r₁ := by
  cases hstep with
  | kept => exact h
  | lost _ _ hrelease => exact hrelease.safe (h.covered.congr rfl rfl)

theorem LayoutStep.safe {displayLayouts : List ReceiverDisplayLayout} {answer : Except SessionRuntimeError Bool}
    (hstep : LayoutStep r displayLayouts (answer, r₁)) (h : Safe r) : Safe r₁ := by
  cases hstep with
  | current _ => exact h.congr rfl rfl rfl id
  | lost _ _ _ hrelease => exact hrelease.safe (h.covered.congr rfl rfl)
  | cleared _ _ hrelease => exact hrelease.safe (h.covered.congr rfl rfl)

theorem next_safe (r : ReceiverSessionRuntime) (c : ReceiverCall) (h : Coherent r ∧ Safe r) :
    Coherent (r.next c) ∧ Safe (r.next c) := by
  obtain ⟨hc, h⟩ := h
  refine ⟨next_coherent r c hc, ?_⟩
  cases c with
  | control frame peer nowMs => exact (handleControlAt_cases hc frame peer nowMs).safe h
  | input frame peer nowMs => exact (handleInputAt_cases hc frame peer nowMs).safe hc h
  | motion frame peer nowMs => exact (handleMotionAt_cases hc frame peer nowMs).safe h
  | expire nowMs => exact (expireIfNeeded_cases hc nowMs).safe h
  | streamClosed peer => exact (inputStreamClosed_cases hc peer).safe h
  | layouts displayLayouts => exact (updateDisplayLayouts_cases hc displayLayouts).safe h
  | modifiers enabled control alt «meta» => exact h.congr rfl rfl rfl id

end Safe

/-- **No stuck keys.**  In every run, with every answer of the injector: the ledger lists everything the device
holds; a release which answers `ok`, then or in any state with such a ledger, leaves nothing held; and without a
session nothing is held, or the last fault is a failed release. -/
theorem no_stuck_keys (localBoot : BootId) (answers : List PortAnswer)
    (displayLayouts : List ReceiverDisplayLayout) (calls : List ReceiverCall) :
    let r := run next (newWithDisplayLayouts localBoot { answers, posted := [] } displayLayouts) calls
    (∀ t ∈ deviceHeld r.injector.posted, t ∈ r.pressed.targets) ∧
    (∀ r' : ReceiverSessionRuntime, (∀ t ∈ deviceHeld r'.injector.posted, t ∈ r'.pressed.targets) →
      r'.releasePressed.1 = .ok () → deviceHeld r'.releasePressed.2.injector.posted = []) ∧
    (r.activeSession = none →
      deviceHeld r.injector.posted = [] ∨ ∃ e, r.lastFault = some (.releaseFailed e)) := by
  intro r
  have hstart : Coherent (newWithDisplayLayouts localBoot { answers, posted := [] } displayLayouts) ∧
      Safe (newWithDisplayLayouts localBoot { answers, posted := [] } displayLayouts) :=
    ⟨newWithDisplayLayouts_coherent _ _ _, fun t ht => (List.not_mem_nil ht).elim, fun _ => Or.inl rfl⟩
  have hsafe : Safe r := (run_invariant next_safe hstart calls).2
  refine ⟨hsafe.covered, fun r' hcovered hok => ?_, hsafe.quiet⟩
  have hrelease := releasePressed_cases r'
  rw [← Prod.mk.eta (p := r'.releasePressed), hok] at hrelease
  exact hrelease.empties hcovered

end MyKvm.Receiver
