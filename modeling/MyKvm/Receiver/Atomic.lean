import MyKvm.Receiver.Admission

/-!
# MyKvm.Receiver.Atomic — input and motion happen entirely or not at all

An input or motion frame which is turned away leaves the receiver as it was, the device included; one which the
injector fails on ends the session.  What could come between is a motion which waits, and has no point on the
display when it is flushed: `Placed` says that there is none.

* `input_atomic`: over every run.
-/

namespace MyKvm.Receiver

open MyKvm.Lib MyKvm.Protocol ReceiverSessionRuntime

/-- The motion which waits has a point on the active display. -/
def Placed (r : ReceiverSessionRuntime) : Prop := ∀ f, r.pendingMotion = some f → r.inRange f.x f.y = true

/-- A refusal changes nothing, and a failure of the injector ends the session. -/
structure Atomic {α : Type} (r : ReceiverSessionRuntime)
    (out : Except SessionRuntimeError α × ReceiverSessionRuntime) :
    Prop where
  refused : ∀ e, out.1 = .error e → (∀ error, e ≠ .injector error) → out.2 = r
  failed : ∀ error, out.1 = .error (.injector error) → out.2.activeSession = none

section Placed

variable {r r₁ : ReceiverSessionRuntime}

theorem placed_of_none (h : r.pendingMotion = none) : Placed r := by
  intro f hf
  cases h.symm.trans hf

theorem Placed.congr (h : Placed r) (hdisplay : r₁.activeDisplay = r.activeDisplay)
    (hpending : r₁.pendingMotion = r.pendingMotion) : Placed r₁ := by
  intro f hf
  have hrange := h f (hpending.symm.trans hf)
  unfold inRange mapActivePointer at hrange ⊢
  rwa [hdisplay]

theorem ReleaseStep.placed {answer : Except SessionRuntimeError Unit} (hstep : ReleaseStep r (answer, r₁))
    (h : Placed r) : Placed r₁ := by
  cases hstep <;> exact h.congr rfl rfl

theorem ControlStep.placed {frame : ControlFrame} {peer : AuthenticatedPeer} {nowMs : UInt64}
    {answer : Except SessionRuntimeError (Option ControlFrame)}
    (hstep : ControlStep r frame peer nowMs (answer, r₁)) (h : Placed r) : Placed r₁ := by
  cases hstep with
  | refused _ _ => exact h
  | helloFailed _ hrelease | helloRefused _ hrelease => exact hrelease.placed h
  | greeted _ _ | activated _ _ _ _ _ _ _ => exact placed_of_none rfl
  | unready _ _ | unknownLayout _ _ _ | prepareRefused _ _ _ _ _ | prepared _ _ _ _ _ => exact h.congr rfl rfl
  | commitRefused _ _ _ _ | recommitted _ _ => exact h.congr rfl rfl
  | ended _ _ _ hrelease => exact hrelease.placed (placed_of_none rfl)
  | endedIdle _ _ _ _ hrelease => exact hrelease.placed (h.congr rfl rfl)
  | ponged _ _ _ =>
    unfold touch
    dsimp only
    split
    · exact h.congr rfl rfl
    · exact h

theorem LoseStep.placed {answer : Except SessionRuntimeError Bool} (hstep : LoseStep r (answer, r₁))
    (h : Placed r) :
    Placed r₁ := by
  cases hstep with
  | kept => exact h
  | lost _ _ hrelease => exact hrelease.placed (placed_of_none rfl)

theorem LayoutStep.placed {displayLayouts : List ReceiverDisplayLayout} {answer : Except SessionRuntimeError Bool}
    (hstep : LayoutStep r displayLayouts (answer, r₁)) (h : Placed r) : Placed r₁ := by
  cases hstep with
  | current _ => exact h.congr rfl rfl
  | lost _ _ _ hrelease | cleared _ _ hrelease => exact hrelease.placed (placed_of_none rfl)

theorem ApplyStep.placed {frame : MotionFrame} {answer : Except SessionRuntimeError Unit}
    (hstep : ApplyStep r frame (answer, r₁)) (h : Placed r) : Placed r₁ := by
  cases hstep with
  | refused _ => exact h
  | failed _ _ hrelease => exact hrelease.placed (placed_of_none rfl)
  | moved _ _ => exact h.congr rfl rfl

theorem FlushStep.placed {answer : Except SessionRuntimeError Unit} (hstep : FlushStep r (answer, r₁))
    (h : Placed r) :
    Placed r₁ := by
  cases hstep with
  | kept => exact h
  | dropped => exact placed_of_none rfl
  | applied _ _ _ happly => exact happly.placed (placed_of_none rfl)

theorem InputStep.placed {frame : CriticalFrame} {peer : AuthenticatedPeer} {nowMs : UInt64}
    {answer : Except SessionRuntimeError Unit} (hstep : InputStep r frame peer nowMs (answer, r₁)) (h : Placed r) :
    Placed r₁ := by
  cases hstep with
  | refused _ => exact h
  | failed _ _ _ hrelease => exact hrelease.placed (placed_of_none rfl)
  | applied _ _ _ hflush => exact hflush.placed (h.congr rfl rfl)

/-- A motion frame without a point on the active display is turned away. -/
theorem handleMotionAt_outOfRange {frame : MotionFrame} (h : r.inRange frame.x frame.y = false)
    (peer : AuthenticatedPeer) (nowMs : UInt64) :
    ∃ answer, (∀ error, answer ≠ .error (.injector error)) ∧ answer ≠ .ok .buffered ∧ answer ≠ .ok .applied ∧
      r.handleMotionAt frame peer nowMs = (answer, r) := by
  unfold handleMotionAt
  split
  · exact ⟨_, by simp, by simp, by simp, rfl⟩
  split
  · exact ⟨_, by simp, by simp, by simp, rfl⟩
  split
  · exact ⟨_, by simp, by simp, by simp, rfl⟩
  split
  · exact ⟨_, by simp, by simp, by simp, rfl⟩
  rename_i display hdisplay
  split
  · exact ⟨_, by simp, by simp, by simp, rfl⟩
  cases hmap : display.map frame.x frame.y with
  | error e => exact ⟨_, by simp, by simp, by simp, rfl⟩
  | ok p => simp [inRange, mapActivePointer, hdisplay, hmap, Except.isOk, Except.toBool, Except.mapError] at h

theorem MotionStep.placed {frame : MotionFrame} {nowMs : UInt64}
    {answer : Except SessionRuntimeError MotionDisposition}
    (hstep : MotionStep r frame nowMs (answer, r₁)) (hrange : r.inRange frame.x frame.y = true) (h : Placed r) :
    Placed r₁ := by
  cases hstep with
  | refused _ | stale => exact h
  | buffered _ hpending =>
    rcases hpending with rfl | rfl
    · intro f hf
      cases hf
      exact hrange
    · exact h.congr rfl rfl
  | applied _ happly => exact happly.placed (h.congr rfl rfl)

theorem handleMotionAt_placed (hc : Coherent r) (h : Placed r) (frame : MotionFrame) (peer : AuthenticatedPeer)
    (nowMs : UInt64) : Placed (r.handleMotionAt frame peer nowMs).2 := by
  by_cases hrange : r.inRange frame.x frame.y = true
  · exact (handleMotionAt_cases hc frame peer nowMs).placed hrange h
  · obtain ⟨answer, -, -, -, heq⟩ := handleMotionAt_outOfRange (Bool.not_eq_true _ ▸ hrange) peer nowMs
    rw [heq]
    exact h

/-- **Every call** keeps the motion which waits on the display. -/
theorem next_placed (hc : Coherent r) (h : Placed r) (c : ReceiverCall) : Placed (r.next c) := by
  cases c with
  | control frame peer nowMs => exact (handleControlAt_cases hc frame peer nowMs).placed h
  | input frame peer nowMs => exact (handleInputAt_cases hc frame peer nowMs).placed h
  | motion frame peer nowMs => exact handleMotionAt_placed hc h frame peer nowMs
  | expire nowMs => exact (expireIfNeeded_cases hc nowMs).placed h
  | streamClosed peer => exact (inputStreamClosed_cases hc peer).placed h
  | layouts displayLayouts => exact (updateDisplayLayouts_cases hc displayLayouts).placed h
  | modifiers enabled control alt «meta» => exact h.congr rfl rfl

end Placed

/-! ### The two operations -/

section Operations

variable {r r₁ : ReceiverSessionRuntime}

/-- A motion with a point on the display can only fail in the injector. -/
theorem applyMotion_error {frame : MotionFrame} (hrange : r.inRange frame.x frame.y = true)
    {e : SessionRuntimeError} (he : (r.applyMotion frame).1 = .error e) : ∃ error, e = .injector error := by
  unfold applyMotion at he
  cases hmap : r.mapActivePointer frame.x frame.y with
  | error e' => simp [inRange, hmap, Except.isOk, Except.toBool] at hrange
  | ok p =>
    obtain ⟨x, y⟩ := p
    rw [hmap] at he
    dsimp only at he
    split at he
    · cases he
      exact ⟨_, rfl⟩
    · cases he

theorem flushPendingMotion_error (h : Placed r) {e : SessionRuntimeError}
    (he : r.flushPendingMotion.1 = .error e) :
    ∃ error, e = .injector error := by
  unfold flushPendingMotion at he
  split at he
  · cases he
  rename_i frame hpending
  split at he
  · cases he
  dsimp only at he
  split at he
  · exact applyMotion_error (r := { r with pendingMotion := none }) (h frame hpending) he
  · cases he

theorem ApplyStep.failed_session {frame : MotionFrame} {error : PortError}
    (hstep : ApplyStep r frame (.error (.injector error), r₁)) : r₁.activeSession = none := by
  cases hstep with
  | refused he => exact absurd rfl (he error)
  | failed _ _ hrelease => exact hrelease.activeSession

theorem FlushStep.failed_session {error : PortError} (hstep : FlushStep r (.error (.injector error), r₁)) :
    r₁.activeSession = none := by
  cases hstep with
  | applied _ _ _ happly => exact happly.failed_session

theorem InputStep.failed_session {frame : CriticalFrame} {peer : AuthenticatedPeer} {nowMs : UInt64}
    {error : PortError}
    (hstep : InputStep r frame peer nowMs (.error (.injector error), r₁)) : r₁.activeSession = none := by
  cases hstep with
  | refused he => exact absurd rfl (he error)
  | failed _ _ _ hrelease => exact hrelease.activeSession
  | applied _ _ _ hflush => exact hflush.failed_session

theorem handleInputAt_atomic (hc : Coherent r) (h : Placed r) (frame : CriticalFrame) (peer : AuthenticatedPeer)
    (nowMs : UInt64) : Atomic r (r.handleInputAt frame peer nowMs) := by
  constructor
  · intro e he hkind
    have htaken := handleInputAt_taken hc frame peer nowMs
    generalize appliedCommands r frame peer = commands at htaken
    revert he
    generalize r.handleInputAt frame peer nowMs = out at htaken
    intro he
    cases htaken with
    | refused => rfl
    | broken hrelease =>
      cases he
      exact absurd rfl (hkind _)
    | applied hadmitted hsubmit hnext =>
      rename_i mapped pointer i next
      have hplaced : Placed (afterInput r frame (inputCommands r.pressed mapped pointer).2 i next nowMs) :=
        h.congr rfl rfl
      obtain ⟨error, rfl⟩ := flushPendingMotion_error hplaced he
      exact absurd rfl (hkind error)
  · intro error he
    have hstep := handleInputAt_cases hc frame peer nowMs
    generalize r.handleInputAt frame peer nowMs = out at hstep he
    obtain ⟨answer, r₁⟩ := out
    cases he
    exact hstep.failed_session

theorem handleMotionAt_atomic (hc : Coherent r) (frame : MotionFrame) (peer : AuthenticatedPeer) (nowMs : UInt64) :
    Atomic r (r.handleMotionAt frame peer nowMs) := by
  constructor
  · intro e he hkind
    by_cases hrange : r.inRange frame.x frame.y = true
    · have hfailed : ∀ r₁ answer, applyMotion { r with lastActivityMs := some nowMs } frame = (answer, r₁) →
          answer ≠ .error e := by
        rintro r₁ answer happly rfl
        obtain ⟨error, rfl⟩ :=
          applyMotion_error (r := { r with lastActivityMs := some nowMs }) hrange (by rw [happly])
        exact hkind error rfl
      revert he
      unfold handleMotionAt
      split
      · exact fun _ => rfl
      split
      · exact fun _ => rfl
      split
      · exact fun _ => rfl
      split
      · exact fun _ => rfl
      split
      · exact fun _ => rfl
      split
      · exact fun _ => rfl
      dsimp only
      split
      · split
        · exact (nomatch ·)
        · exact (nomatch ·)
      · split
        · rename_i e' r₁ happly
          intro he
          cases he
          exact absurd rfl (hfailed r₁ _ happly)
        · exact (nomatch ·)
    · obtain ⟨answer, -, -, -, heq⟩ := handleMotionAt_outOfRange (Bool.not_eq_true _ ▸ hrange) peer nowMs
      rw [heq]
  · intro error he
    have hstep := handleMotionAt_cases hc frame peer nowMs
    generalize r.handleMotionAt frame peer nowMs = out at hstep he
    cases hstep with
    | refused hkind =>
      cases he
      exact absurd rfl (hkind error)
    | stale | buffered _ _ => cases he
    | applied hactive happly =>
      rename_i answer r₁
      cases answer with
      | error e =>
        cases he
        exact happly.failed_session
      | ok u => cases he

end Operations

/-- What holds of the receiver in every reachable state, for the two operations. -/
theorem run_placed (localBoot : BootId) (injector : Injector) (displayLayouts : List ReceiverDisplayLayout)
    (calls : List ReceiverCall) :
    Coherent (run next (newWithDisplayLayouts localBoot injector displayLayouts) calls) ∧
      Placed (run next (newWithDisplayLayouts localBoot injector displayLayouts) calls) :=
  run_invariant (I := fun r => Coherent r ∧ Placed r) (fun r c h => ⟨next_coherent r c h.1, next_placed h.1 h.2 c⟩)
    ⟨newWithDisplayLayouts_coherent localBoot injector displayLayouts, placed_of_none rfl⟩ calls

/-- **Input and motion are atomic**, in every reachable state. -/
theorem input_atomic (localBoot : BootId) (injector : Injector) (displayLayouts : List ReceiverDisplayLayout)
    (calls : List ReceiverCall) (peer : AuthenticatedPeer) (nowMs : UInt64) :
    let r := run next (newWithDisplayLayouts localBoot injector displayLayouts) calls
    (∀ frame, Atomic r (r.handleInputAt frame peer nowMs)) ∧
      ∀ frame, Atomic r (r.handleMotionAt frame peer nowMs) := by
  obtain ⟨hc, hplaced⟩ := run_placed localBoot injector displayLayouts calls
  exact ⟨fun frame => handleInputAt_atomic hc hplaced frame peer nowMs,
    fun frame => handleMotionAt_atomic hc frame peer nowMs⟩

end MyKvm.Receiver
