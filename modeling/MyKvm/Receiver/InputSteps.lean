import MyKvm.Receiver.ControlSteps

/-!
# MyKvm.Receiver.InputSteps — what the other calls can do

The outcomes of losing a session (`LoseStep`), of new layouts (`LayoutStep`), of a motion frame (`MotionStep`, with
`ApplyStep` for a motion which is due) and of an input frame (`InputStep`, with `FlushStep` for the motion which
waited for it).
-/

namespace MyKvm.Receiver

open MyKvm.Lib MyKvm.Protocol ReceiverSessionRuntime

/-! ### Losing the session -/

section LoseStep

variable {r : ReceiverSessionRuntime}

/-- The receiver which lost its session `s`; the active display stays. -/
def lostIn (r : ReceiverSessionRuntime) (h : ReceiverHandshake) (s : SessionId) : ReceiverSessionRuntime :=
  { r with
    inputGate := { r.inputGate with active := none, ended := some s }
    handshake := some { h with state := .ended s }
    activeSession := none
    lastActivityMs := none
    highestMotionSequence := 0
    pendingMotion := none }

/-- Dropping the active session works, in the gate and in the handshake. -/
theorem dropSession_eq {h : ReceiverHandshake} {s : SessionId} (hgate : r.inputGate.session = some s)
    (hh : r.handshake = some h) (hstate : h.state = .active s) : r.dropSession s = lostIn r h s := by
  unfold dropSession lostIn
  rw [InputSessionGate.end_eq_of_session hgate, hh]
  simp [resetMotion, ReceiverHandshake.abortActive, hstate]

/-- The outcomes of losing the active session for a reason. -/
inductive LoseStep (r : ReceiverSessionRuntime) : Except SessionRuntimeError Bool × ReceiverSessionRuntime → Prop
  | kept : LoseStep r (.ok false, r)
  | lost {h : ReceiverHandshake} {s : SessionId} {fault : SessionFault} {answer : Except SessionRuntimeError Unit}
      {r₁ : ReceiverSessionRuntime} : r.activeSession = some s → r.handshake = some h →
      ReleaseStep { lostIn r h s with lastFault := some fault } (answer, r₁) →
      LoseStep r (answer.map fun _ => true, r₁)

theorem loseSession_cases (hc : Coherent r) {s : SessionId} (hactive : r.activeSession = some s)
    (fault : SessionFault) :
    LoseStep r (r.loseSession s fault) := by
  obtain ⟨h, hh, hstate⟩ := hc.handshake s hactive
  obtain ⟨answer, r₁, hrelease, heq⟩ := releaseAndReport_cases { lostIn r h s with lastFault := some fault }
  unfold loseSession
  rw [dropSession_eq (hc.gate.trans hactive) hh hstate, heq]
  exact .lost hactive hh hrelease

theorem expireIfNeeded_cases (hc : Coherent r) (nowMs : UInt64) : LoseStep r (r.expireIfNeeded nowMs) := by
  unfold expireIfNeeded
  split
  · rename_i s lastActivityMs hactive _
    split
    · exact .kept
    · exact loseSession_cases hc hactive _
  · exact .kept

theorem inputStreamClosed_cases (hc : Coherent r) (peer : AuthenticatedPeer) :
    LoseStep r (r.inputStreamClosed peer) := by
  unfold inputStreamClosed
  split
  · exact .kept
  split
  · exact .kept
  · rename_i s hactive
    exact loseSession_cases hc hactive _

/-- The receiver without an active display. -/
def undisplayed (r : ReceiverSessionRuntime) : ReceiverSessionRuntime :=
  { r with
    activeDisplay := none, lastActivityMs := none, highestMotionSequence := 0, pendingMotion := none,
    lastFault := some .layoutChanged }

/-- The outcomes of `updateDisplayLayouts`. -/
inductive LayoutStep (r : ReceiverSessionRuntime) (displayLayouts : List ReceiverDisplayLayout) :
    Except SessionRuntimeError Bool × ReceiverSessionRuntime → Prop
  | current {preparedDisplay : Option ReceiverDisplayLayout} :
      (preparedDisplay = r.preparedDisplay ∨ preparedDisplay = none) →
      LayoutStep r displayLayouts (.ok false, { r with displayLayouts, preparedDisplay })
  | lost {preparedDisplay : Option ReceiverDisplayLayout} {h : ReceiverHandshake} {s : SessionId}
      {answer : Except SessionRuntimeError Unit} {r₁ : ReceiverSessionRuntime} :
      (preparedDisplay = r.preparedDisplay ∨ preparedDisplay = none) →
      r.activeSession = some s → r.handshake = some h →
      ReleaseStep (undisplayed (lostIn { r with displayLayouts, preparedDisplay } h s)) (answer, r₁) →
      LayoutStep r displayLayouts (answer.map fun _ => true, r₁)
  | cleared {preparedDisplay : Option ReceiverDisplayLayout} {answer : Except SessionRuntimeError Unit}
      {r₁ : ReceiverSessionRuntime} :
      (preparedDisplay = r.preparedDisplay ∨ preparedDisplay = none) → r.activeSession = none →
      ReleaseStep (undisplayed { r with displayLayouts, preparedDisplay }) (answer, r₁) →
      LayoutStep r displayLayouts (answer.map fun _ => true, r₁)

theorem loseDisplay_none (hactive : r.activeSession = none) :
    r.loseDisplay = (undisplayed r).releaseAndReport := by
  unfold loseDisplay
  rw [hactive]
  rfl

theorem loseDisplay_some {h : ReceiverHandshake} {s : SessionId} (hgate : r.inputGate.session = some s)
    (hactive : r.activeSession = some s) (hh : r.handshake = some h) (hstate : h.state = .active s) :
    r.loseDisplay = (undisplayed (lostIn r h s)).releaseAndReport := by
  unfold loseDisplay
  rw [hactive]
  dsimp only
  rw [dropSession_eq hgate hh hstate]
  rfl

theorem updateDisplayLayouts_cases (hc : Coherent r) (displayLayouts : List ReceiverDisplayLayout) :
    LayoutStep r displayLayouts (r.updateDisplayLayouts displayLayouts) := by
  obtain ⟨preparedDisplay, hprepared, heq⟩ : ∃ preparedDisplay,
      (preparedDisplay = r.preparedDisplay ∨ preparedDisplay = none) ∧
      (if r.preparedDisplay.all displayLayouts.contains then { r with displayLayouts }
        else { r with displayLayouts, preparedDisplay := none }) = { r with displayLayouts, preparedDisplay } := by
    split
    · exact ⟨r.preparedDisplay, Or.inl rfl, rfl⟩
    · exact ⟨none, Or.inr rfl, rfl⟩
  unfold updateDisplayLayouts
  dsimp only
  rw [heq]
  split
  · exact .current hprepared
  rcases Option.eq_none_or_eq_some r.activeSession with hactive | ⟨s, hactive⟩
  · obtain ⟨answer, r₁, hrelease, hanswer⟩ :=
      releaseAndReport_cases (undisplayed { r with displayLayouts, preparedDisplay })
    rw [loseDisplay_none (r := { r with displayLayouts, preparedDisplay }) hactive, hanswer]
    exact .cleared hprepared hactive hrelease
  · obtain ⟨h, hh, hstate⟩ := hc.handshake s hactive
    obtain ⟨answer, r₁, hrelease, hanswer⟩ :=
      releaseAndReport_cases (undisplayed (lostIn { r with displayLayouts, preparedDisplay } h s))
    rw [loseDisplay_some (r := { r with displayLayouts, preparedDisplay })
      (hc.gate.trans hactive) hactive hh hstate, hanswer]
    exact .lost hprepared hactive hh hrelease

end LoseStep

/-! ### Motion and input -/

section InputStep

variable {r : ReceiverSessionRuntime}

/-- The outcomes of a motion which is due. -/
inductive ApplyStep (r : ReceiverSessionRuntime) (frame : MotionFrame) :
    Except SessionRuntimeError Unit × ReceiverSessionRuntime → Prop
  | refused {e : SessionRuntimeError} : (∀ error, e ≠ .injector error) → ApplyStep r frame (.error e, r)
  | failed {i : Injector} {h : ReceiverHandshake} {error : PortError} {answer : Except SessionRuntimeError Unit}
      {r₁ : ReceiverSessionRuntime} :
      i.posted = r.injector.posted → r.handshake = some h →
      ReleaseStep (lostIn { r with injector := i, lastFault := some (.injector error) } h frame.sessionId)
        (answer, r₁) →
      ApplyStep r frame (.error (.injector error), r₁)
  | moved {i : Injector} {x y : Int32} : r.mapActivePointer frame.x frame.y = .ok (x, y) →
      i.posted = .mouseMove x y (r.pressed.updatePointer x y).dragButton :: r.injector.posted →
      ApplyStep r frame (.ok (),
        { r with injector := i, pressed := r.pressed.updatePointer x y, highestMotionSequence := frame.sequence })

/-- A failed submission drops the session and releases everything. -/
theorem failSubmission_cases (hc : Coherent r) {s : SessionId} (hactive : r.activeSession = some s) (i : Injector)
    (pressed : PressedState) (e : PortError) :
    ∃ h answer r₁, r.handshake = some h ∧
      ReleaseStep (lostIn { r with injector := i, lastFault := some (.injector e) } h s) (answer, r₁) ∧
      failSubmission { r with injector := i, pressed } r.pressed e s = r₁ := by
  obtain ⟨h, hh, hstate⟩ := hc.handshake s hactive
  have hdrop : dropSession { r with injector := i, lastFault := some (.injector e) } s =
      lostIn { r with injector := i, lastFault := some (.injector e) } h s :=
    dropSession_eq (hc.gate.trans hactive) hh hstate
  have hrelease := releasePressed_cases (lostIn { r with injector := i, lastFault := some (.injector e) } h s)
  refine ⟨h, _, (releasePressed (lostIn { r with injector := i, lastFault := some (.injector e) } h s)).2, hh,
    hrelease, ?_⟩
  rw [← hdrop]
  rfl

theorem mapActivePointer_error {x y : Int32} {e : SessionRuntimeError} (h : r.mapActivePointer x y = .error e)
    (error : PortError) : e ≠ .injector error := by
  unfold mapActivePointer at h
  split at h
  · cases h
    simp
  · rename_i display _
    cases hmap : display.map x y with
    | error e' =>
      rw [hmap] at h
      cases h
      simp
    | ok p =>
      rw [hmap] at h
      cases h

theorem applyMotion_cases (hc : Coherent r) {frame : MotionFrame}
    (hactive : r.activeSession = some frame.sessionId) :
    ApplyStep r frame (r.applyMotion frame) := by
  unfold applyMotion
  cases hmap : r.mapActivePointer frame.x frame.y with
  | error e => exact .refused (mapActivePointer_error hmap)
  | ok p =>
    obtain ⟨x, y⟩ := p
    dsimp only
    have hsubmit := r.injector.submitReady_cases (.mouseMove x y (r.pressed.updatePointer x y).dragButton)
    cases hi : r.injector.submitReady (.mouseMove x y (r.pressed.updatePointer x y).dragButton) with
    | mk answer i =>
    rw [hi] at hsubmit
    cases answer with
    | error e =>
      obtain ⟨-, hposted⟩ := hsubmit.resolve_left (fun h => by cases h.1)
      obtain ⟨h, answer, r₁, hh, hrelease, hfail⟩ :=
        failSubmission_cases hc hactive i (r.pressed.updatePointer x y) e
      dsimp only
      rw [hfail]
      exact .failed hposted hh hrelease
    | ok u =>
      obtain ⟨-, hposted⟩ := hsubmit.resolve_right (fun h => by obtain ⟨⟨_, h⟩, -⟩ := h; cases h)
      exact .moved hmap hposted

/-- The outcomes of flushing the motion which waits. -/
inductive FlushStep (r : ReceiverSessionRuntime) : Except SessionRuntimeError Unit × ReceiverSessionRuntime → Prop
  | kept : FlushStep r (.ok (), r)
  | dropped : FlushStep r (.ok (), { r with pendingMotion := none })
  | applied {frame : MotionFrame} {out : Except SessionRuntimeError Unit × ReceiverSessionRuntime} :
      r.pendingMotion = some frame → ¬ r.highestAppliedSequence < frame.requiredReliableSequence →
      r.highestMotionSequence < frame.sequence → ApplyStep { r with pendingMotion := none } frame out →
      FlushStep r out

theorem Coherent.withoutPending (hc : Coherent r) : Coherent { r with pendingMotion := none } :=
  { hc with pending := by simp }

theorem flushPendingMotion_cases (hc : Coherent r) : FlushStep r r.flushPendingMotion := by
  unfold flushPendingMotion
  split
  · exact .kept
  rename_i frame hpending
  split
  · exact .kept
  rename_i hdue
  dsimp only
  split
  · rename_i hnew
    exact .applied hpending hdue hnew (applyMotion_cases hc.withoutPending (hc.pending frame hpending))
  · exact .dropped

/-- The outcomes of `handleMotionAt`. -/
inductive MotionStep (r : ReceiverSessionRuntime) (frame : MotionFrame) (nowMs : UInt64) :
    Except SessionRuntimeError MotionDisposition × ReceiverSessionRuntime → Prop
  | refused {e : SessionRuntimeError} : (∀ error, e ≠ .injector error) → MotionStep r frame nowMs (.error e, r)
  | stale : MotionStep r frame nowMs (.ok .stale, r)
  | buffered {pendingMotion : Option MotionFrame} : r.activeSession = some frame.sessionId →
      (pendingMotion = some frame ∨ pendingMotion = r.pendingMotion) →
      MotionStep r frame nowMs (.ok .buffered, { r with lastActivityMs := some nowMs, pendingMotion })
  | applied {answer : Except SessionRuntimeError Unit} {r₁ : ReceiverSessionRuntime} :
      r.activeSession = some frame.sessionId →
      ApplyStep { r with lastActivityMs := some nowMs } frame (answer, r₁) →
      MotionStep r frame nowMs (answer.map fun _ => .applied, r₁)

theorem Coherent.touched (hc : Coherent r) (nowMs : UInt64) : Coherent { r with lastActivityMs := some nowMs } :=
  { hc with lease := by simp }

theorem handleMotionAt_cases (hc : Coherent r) (frame : MotionFrame) (peer : AuthenticatedPeer) (nowMs : UInt64) :
    MotionStep r frame nowMs (r.handleMotionAt frame peer nowMs) := by
  unfold handleMotionAt
  split
  · exact .refused (by simp)
  split
  · exact .refused (by simp)
  rename_i hsession
  push Not at hsession
  obtain ⟨-, hactive, -⟩ := hsession
  split
  · exact .stale
  split
  · exact .refused (by simp)
  split
  · exact .refused (by simp)
  split
  · exact .refused (by simp)
  dsimp only
  split
  · split
    · exact .buffered hactive (Or.inl rfl)
    · exact .buffered hactive (Or.inr rfl)
  · have hstep := applyMotion_cases (hc.touched nowMs) hactive
    revert hstep
    cases applyMotion { r with lastActivityMs := some nowMs } frame with
    | mk answer r₁ =>
    intro hstep
    have happlied := MotionStep.applied hactive hstep
    cases answer <;> exact happlied

/-- What an input frame has passed before it reaches the device. -/
structure Admitted (r : ReceiverSessionRuntime) (frame : CriticalFrame) (peer : AuthenticatedPeer)
    (mapped : CriticalEvent) (pointer : Option (Int32 × Int32)) : Prop where
  bound : r.binding = some peer
  role : peer.role = .controller
  fresh : r.isStaleSnapshot frame.event = false
  mapped : r.mapEvent frame.event = .ok (mapped, pointer)
  gate : r.inputGate.active = some (frame.sessionId, frame.sequence)
  valid : validateCritical frame = .ok ()

/-- The receiver after an input frame, before the motion which waited for it. -/
def afterInput (r : ReceiverSessionRuntime) (frame : CriticalFrame) (pressed : PressedState) (i : Injector)
    (next nowMs : UInt64) : ReceiverSessionRuntime :=
  { r with
    inputGate := { r.inputGate with active := some (frame.sessionId, next) }, injector := i, pressed,
    highestAppliedSequence := frame.sequence, highestMotionSequence := r.raiseMotion frame.event,
    lastActivityMs := some nowMs }

/-- The outcomes of `handleInputAt`. -/
inductive InputStep (r : ReceiverSessionRuntime) (frame : CriticalFrame) (peer : AuthenticatedPeer)
    (nowMs : UInt64) :
    Except SessionRuntimeError Unit × ReceiverSessionRuntime → Prop
  | refused {e : SessionRuntimeError} : (∀ error, e ≠ .injector error) → InputStep r frame peer nowMs (.error e, r)
  | failed {mapped : CriticalEvent} {pointer : Option (Int32 × Int32)} {error : PortError} {i : Injector}
      {h : ReceiverHandshake} {answer : Except SessionRuntimeError Unit} {r₁ : ReceiverSessionRuntime} :
      Admitted r frame peer mapped pointer →
      submitAll (inputCommands r.pressed mapped pointer).1 r.injector = (.error error, i) → r.handshake = some h →
      ReleaseStep (lostIn { r with injector := i, lastFault := some (.injector error) } h frame.sessionId)
        (answer, r₁) →
      InputStep r frame peer nowMs (.error (.injector error), r₁)
  | applied {mapped : CriticalEvent} {pointer : Option (Int32 × Int32)} {i : Injector} {next : UInt64}
      {out : Except SessionRuntimeError Unit × ReceiverSessionRuntime} :
      Admitted r frame peer mapped pointer →
      submitAll (inputCommands r.pressed mapped pointer).1 r.injector = (.ok (), i) →
      frame.sequence.toNat + 1 = next.toNat →
      FlushStep (afterInput r frame (inputCommands r.pressed mapped pointer).2 i next nowMs) out →
      InputStep r frame peer nowMs out

theorem Admitted.active {frame : CriticalFrame} {peer : AuthenticatedPeer} {mapped : CriticalEvent}
    {pointer : Option (Int32 × Int32)} (h : Admitted r frame peer mapped pointer) (hc : Coherent r) :
    r.activeSession = some frame.sessionId := by
  rw [← hc.gate, InputSessionGate.session, h.gate]
  rfl

theorem Coherent.afterInput {frame : CriticalFrame} (hc : Coherent r)
    (hactive : r.activeSession = some frame.sessionId)
    (pressed : PressedState) (i : Injector) (next nowMs : UInt64) :
    Coherent (afterInput r frame pressed i next nowMs) :=
  { hc with gate := hactive.symm, lease := fun _ => rfl }

theorem mapEvent_error {event : CriticalEvent} {e : SessionRuntimeError} (h : r.mapEvent event = .error e)
    (error : PortError) : e ≠ .injector error := by
  unfold mapEvent at h
  split at h
  · cases h
  · split at h
    · rename_i hmap
      cases h
      exact mapActivePointer_error hmap error
    · cases h

theorem handleInputAt_cases (hc : Coherent r) (frame : CriticalFrame) (peer : AuthenticatedPeer) (nowMs : UInt64) :
    InputStep r frame peer nowMs (r.handleInputAt frame peer nowMs) := by
  unfold handleInputAt
  split
  · exact .refused (by simp)
  rename_i hbound
  push Not at hbound
  split
  · exact .refused (by simp)
  rename_i hstale
  cases hmap : r.mapEvent frame.event with
  | error e => exact .refused (mapEvent_error hmap)
  | ok p =>
    obtain ⟨mapped, pointer⟩ := p
    dsimp only
    rcases r.inputGate.accept_cases frame with ⟨e, heq⟩ | ⟨next, heq, hgate, hnext, hvalid⟩
    · rw [heq]
      exact .refused (by simp)
    · rw [heq]
      have hadmitted : Admitted r frame peer mapped pointer :=
        ⟨hbound.1, hbound.2, by simpa using hstale, hmap, hgate, hvalid⟩
      have hactive := hadmitted.active hc
      dsimp only
      unfold applyInput
      dsimp only
      cases hsubmit : submitAll (inputCommands r.pressed mapped pointer).1 r.injector with
      | mk answer i =>
      cases answer with
      | error e =>
        have hc' : Coherent { r with inputGate := { r.inputGate with active := some (frame.sessionId, next) } } :=
          { hc with gate := hactive.symm }
        obtain ⟨h, answer, r₁, hh, hrelease, hfail⟩ :=
          failSubmission_cases hc' hactive i (inputCommands r.pressed mapped pointer).2 e
        dsimp only
        rw [hfail]
        exact .failed hadmitted hsubmit hh hrelease
      | ok u =>
        exact .applied hadmitted hsubmit hnext
          (flushPendingMotion_cases (hc.afterInput hactive (inputCommands r.pressed mapped pointer).2
            i next nowMs))

end InputStep

end MyKvm.Receiver
