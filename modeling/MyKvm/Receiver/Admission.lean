import MyKvm.Receiver.Lockstep

/-!
# MyKvm.Receiver.Admission — when the receiver admits a frame

The other direction of `Taken` and `Arrival`: with an injector which succeeds, an input frame which passes its
checks is applied, and a motion frame of the session, on its display, is taken.  `Glides` is what a motion which is
submitted, kept or dropped leaves alone; so does every other call in which the session goes on.
-/

namespace MyKvm

/-- The injector succeeds from now on. -/
def Injector.Succeeds (i : Injector) : Prop := ∀ answer ∈ i.answers, answer = .ok ()

instance (i : Injector) : Decidable i.Succeeds :=
  inferInstanceAs (Decidable (∀ answer ∈ i.answers, answer = .ok ()))

theorem Injector.Succeeds.answer {i : Injector} (h : i.Succeeds) :
    ∃ i', i.answer = (.ok (), i') ∧ i'.Succeeds := by
  unfold Injector.answer
  split
  · exact ⟨i, rfl, h⟩
  · rename_i a rest heq
    obtain rfl : a = .ok () := h a (by simp [heq])
    exact ⟨_, rfl, fun answer hmem => h answer (by rw [heq]; exact List.mem_cons_of_mem _ hmem)⟩

theorem Injector.Succeeds.submitReady {i : Injector} (h : i.Succeeds) (event : InputCommand) :
    ∃ i', i.submitReady event = (.ok (), i') ∧ i'.Succeeds := by
  obtain ⟨i₁, hready, h₁⟩ := h.answer
  obtain ⟨i₂, hanswer, h₂⟩ := h₁.answer
  refine ⟨{ i₂ with posted := event :: i₂.posted }, ?_, h₂⟩
  unfold Injector.submitReady Injector.readiness
  rw [hready]
  dsimp only
  unfold Injector.postEvent
  rw [hanswer]

end MyKvm

namespace MyKvm.Receiver

open MyKvm.Lib MyKvm.Protocol ReceiverSessionRuntime

theorem submitAll_succeeds (commands : List InputCommand) {i : Injector} (h : i.Succeeds) :
    ∃ i', submitAll commands i = (.ok (), i') ∧ i'.Succeeds := by
  induction commands generalizing i with
  | nil => exact ⟨i, rfl, h⟩
  | cons command commands ih =>
    obtain ⟨i₁, hsubmit, h₁⟩ := h.submitReady command
    obtain ⟨i₂, hall, h₂⟩ := ih h₁
    refine ⟨i₂, ?_, h₂⟩
    rw [submitAll, hsubmit]
    exact hall

/-! ### Sessions of this machine -/

/-- The handshake is only ever active in a session of this machine. -/
def OwnSession (r : ReceiverSessionRuntime) : Prop :=
  ∀ h s, r.handshake = some h → h.state = .active s → s.receiverBoot = r.localBoot

section OwnSession

variable {r r₁ : ReceiverSessionRuntime}

theorem OwnSession.congr (hown : OwnSession r) (hh : r₁.handshake = r.handshake)
    (hboot : r₁.localBoot = r.localBoot) :
    OwnSession r₁ := by
  intro h s heq hstate
  rw [hboot]
  exact hown h s (hh.symm.trans heq) hstate

theorem OwnSession.released {answer : Except SessionRuntimeError Unit} (hown : OwnSession r)
    (hstep : ReleaseStep r (answer, r₁)) : OwnSession r₁ := by
  cases hstep <;> exact hown

/-- The handshake moves to a state in which it is not active. -/
theorem ownSession_inactive {h : ReceiverHandshake} (hh : r₁.handshake = some h)
    (hstate : ∀ s, h.state ≠ .active s) :
    OwnSession r₁ := by
  intro h' s heq hactive
  cases hh.symm.trans heq
  exact absurd hactive (hstate s)

/-- The handshake moves to a session of this machine. -/
theorem ownSession_active {h : ReceiverHandshake} {s : SessionId} (hh : r₁.handshake = some h)
    (hstate : h.state = .active s) (hboot : s.receiverBoot = r₁.localBoot) : OwnSession r₁ := by
  intro h' s' heq hactive
  cases hh.symm.trans heq
  cases hstate.symm.trans hactive
  exact hboot

theorem ControlStep.ownSession {frame : ControlFrame} {peer : AuthenticatedPeer} {nowMs : UInt64}
    {answer : Except SessionRuntimeError (Option ControlFrame)}
    (hstep : ControlStep r frame peer nowMs (answer, r₁))
    (hc : Coherent r) (hown : OwnSession r) : OwnSession r₁ := by
  cases hstep with
  | refused _ _ => exact hown
  | helloFailed _ hrelease => exact hown.released hrelease
  | helloRefused _ hrelease => exact hown.released hrelease
  | greeted _ _ => exact ownSession_inactive rfl (by simp)
  | unready _ _ => exact hown
  | unknownLayout _ _ _ => exact hown
  | prepareRefused _ _ _ _ _ => exact hown
  | prepared _ _ _ _ _ => exact ownSession_inactive rfl (by simp)
  | activated hbound hh hacks hnone hdisplay hpressed hended =>
    rename_i q s h
    refine ownSession_active (h := { h with state := .active s }) rfl rfl ?_
    rcases hacks with ⟨-, hboot, -⟩ | hstate
    · exact hboot.trans (hc.boot h hh)
    · exact hown h s hh hstate
  | commitRefused haccepts hh hnone hwhy =>
    rename_i q s h e
    obtain ⟨-, -, -, -, -, h', hh', -, hboot⟩ := haccepts
    cases hh.symm.trans hh'
    exact ownSession_active (h := { h with state := .active s }) rfl rfl (hboot.trans (hc.boot h hh))
  | recommitted _ _ => exact hown
  | ended _ _ _ hrelease =>
    refine OwnSession.released ?_ hrelease
    exact ownSession_inactive rfl (by simp)
  | endedIdle _ _ _ _ hrelease =>
    refine OwnSession.released ?_ hrelease
    exact ownSession_inactive rfl (by simp)
  | ponged _ _ _ =>
    unfold touch
    dsimp only
    split <;> exact hown

theorem FadeStep.ownSession (hstep : FadeStep r r₁) (hown : OwnSession r) : OwnSession r₁ := by
  cases hstep with
  | kept _ hboot _ hh _ _ _ => exact hown.congr hh hboot
  | lost _ _ _ _ _ hh₁ _ _ => exact ownSession_inactive hh₁ (by simp)

theorem next_ownSession (hc : Coherent r) (hown : OwnSession r) (c : ReceiverCall) : OwnSession (r.next c) := by
  by_cases hcontrol : ∃ frame peer nowMs, c = .control frame peer nowMs
  · obtain ⟨frame, peer, nowMs, rfl⟩ := hcontrol
    exact (handleControlAt_cases hc frame peer nowMs).ownSession hc hown
  · push Not at hcontrol
    exact (next_fades hc hcontrol).ownSession hown

theorem OwnSession.receiverBoot {s : SessionId} (hown : OwnSession r) (hc : Coherent r)
    (hactive : r.activeSession = some s) : s.receiverBoot = r.localBoot := by
  obtain ⟨h, hh, hstate⟩ := hc.handshake s hactive
  exact hown h s hh hstate

end OwnSession

/-! ### Motions -/

/-- The point is in range of the active display. -/
def ReceiverSessionRuntime.inRange (r : ReceiverSessionRuntime) (x y : Int32) : Bool :=
  (r.mapActivePointer x y).isOk

/-- What a motion does not touch. -/
def streamPart (r : ReceiverSessionRuntime) :=
  (r.binding, r.localBoot, r.activeSession, r.activeDisplay, r.inputGate, r.highestAppliedSequence)

/-- **The session goes on**, and of the pointer no more is known than before and by the motion `motion`. -/
structure Glides (motion : Option MotionFrame) (r r₁ : ReceiverSessionRuntime) : Prop where
  succeeds : r₁.injector.Succeeds
  same : streamPart r₁ = streamPart r
  pending : ∀ f, r₁.pendingMotion = some f → r.pendingMotion = some f ∨ motion = some f
  shown : r₁.highestMotionSequence = r.highestMotionSequence ∨ ∃ f, motion = some f ∧
    f.requiredReliableSequence ≤ r.highestAppliedSequence ∧ r₁.highestMotionSequence = f.sequence

section Motions

variable {r : ReceiverSessionRuntime}

theorem glides_refl (motion : Option MotionFrame) (hi : r.injector.Succeeds) : Glides motion r r :=
  ⟨hi, rfl, fun _ hf => Or.inl hf, Or.inl rfl⟩

theorem applyMotion_succeeds {frame : MotionFrame} (hrange : r.inRange frame.x frame.y = true)
    (hi : r.injector.Succeeds) (hneeds : frame.requiredReliableSequence ≤ r.highestAppliedSequence) :
    (r.applyMotion frame).1 = .ok () ∧ Glides (some frame) r (r.applyMotion frame).2 := by
  unfold applyMotion
  cases hmap : r.mapActivePointer frame.x frame.y with
  | error e => simp [inRange, hmap, Except.isOk, Except.toBool] at hrange
  | ok p =>
    obtain ⟨x, y⟩ := p
    obtain ⟨i, hsubmit, hi'⟩ := hi.submitReady (.mouseMove x y (r.pressed.updatePointer x y).dragButton)
    dsimp only
    rw [hsubmit]
    exact ⟨rfl, hi', rfl, fun _ hf => Or.inl hf, Or.inr ⟨frame, rfl, hneeds, rfl⟩⟩

/-- The motion which waits is flushed, if it is due. -/
theorem flushPendingMotion_succeeds (hrange : ∀ f, r.pendingMotion = some f → r.inRange f.x f.y = true)
    (hi : r.injector.Succeeds) :
    r.flushPendingMotion.1 = .ok () ∧ Glides r.pendingMotion r r.flushPendingMotion.2 := by
  unfold flushPendingMotion
  split
  · exact ⟨rfl, glides_refl _ hi⟩
  rename_i frame hpending
  split
  · exact ⟨rfl, glides_refl _ hi⟩
  rename_i hdue
  dsimp only
  split
  · obtain ⟨hok, hglides⟩ :=
      applyMotion_succeeds (r := { r with pendingMotion := none }) (hrange frame hpending) hi
      (UInt64.not_lt.mp hdue)
    rw [hpending]
    refine ⟨hok, hglides.succeeds, hglides.same, ?_, ?_⟩
    · intro f hf
      rcases hglides.pending f hf with hnone | hsome
      · cases hnone
      · exact Or.inr hsome
    · exact hglides.shown
  · exact ⟨rfl, hi, rfl, by simp, Or.inl rfl⟩

/-- **A motion frame of the session** is taken, whatever its number and the input which it requires. -/
theorem handleMotionAt_succeeds {frame : MotionFrame} {peer : AuthenticatedPeer} {display : ReceiverDisplayLayout}
    (hbound : r.binding = some peer) (hrole : peer.role = .controller) (hzero : frame.sequence ≠ 0)
    (hactive : r.activeSession = some frame.sessionId) (hboot : frame.sessionId.receiverBoot = r.localBoot)
    (hdisplay : r.activeDisplay = some display) (hid : frame.displayId = display.displayId)
    (hrev : frame.layoutRevision = display.layoutRevision) (hrange : r.inRange frame.x frame.y = true)
    (hi : r.injector.Succeeds) (nowMs : UInt64) :
    (∃ disposition, (r.handleMotionAt frame peer nowMs).1 = .ok disposition) ∧
      Glides (some frame) r (r.handleMotionAt frame peer nowMs).2 := by
  unfold handleMotionAt
  rw [if_neg (by simp [hbound, hrole]), if_neg (by simp [hzero, hactive, hboot])]
  split
  · exact ⟨⟨_, rfl⟩, glides_refl _ hi⟩
  split
  · rename_i hnone
    cases hnone.symm.trans hdisplay
  rename_i display' hdisplay'
  cases hdisplay'.symm.trans hdisplay
  rw [if_neg (by simp [hid, hrev])]
  cases hmap : display.map frame.x frame.y with
  | error e =>
      simp [inRange, mapActivePointer, hdisplay, hmap, Except.isOk, Except.toBool, Except.mapError] at hrange
  | ok p =>
    dsimp only
    split
    · split
      · exact ⟨⟨_, rfl⟩, hi, rfl, fun f hf => Or.inr hf, Or.inl rfl⟩
      · exact ⟨⟨_, rfl⟩, hi, rfl, fun f hf => Or.inl hf, Or.inl rfl⟩
    · rename_i hdue
      obtain ⟨hok, hglides⟩ := applyMotion_succeeds (r := { r with lastActivityMs := some nowMs }) hrange hi
        (UInt64.not_lt.mp hdue)
      revert hok hglides
      cases applyMotion { r with lastActivityMs := some nowMs } frame with
      | mk answer r₁ =>
      rintro hok hglides
      dsimp only at hok
      subst hok
      exact ⟨⟨_, rfl⟩, hglides.succeeds, hglides.same, hglides.pending, hglides.shown⟩

end Motions

/-! ### Input -/

section Input

variable {r : ReceiverSessionRuntime} {frame : CriticalFrame} {peer : AuthenticatedPeer} {mapped : CriticalEvent}
  {pointer : Option (Int32 × Int32)}

/-- The gate takes an admitted frame whose number has a successor. -/
theorem Admitted.accept_next (h : Admitted r frame peer mapped pointer)
    (hboot : frame.sessionId.receiverBoot = r.inputGate.localBoot) {next : UInt64}
    (hnext : checkedAdd frame.sequence 1 = some next) :
    r.inputGate.accept frame = (.ok (), { r.inputGate with active := some (frame.sessionId, next) }) := by
  unfold InputSessionGate.accept
  rw [h.valid, h.gate]
  dsimp only
  rw [if_neg (by simp [hboot]), if_neg (by simp), hnext]

theorem Admitted.accept_last (h : Admitted r frame peer mapped pointer)
    (hboot : frame.sessionId.receiverBoot = r.inputGate.localBoot) (hnone : checkedAdd frame.sequence 1 = none) :
    r.inputGate.accept frame = (.error (.invalidField "sequence"), r.inputGate) := by
  unfold InputSessionGate.accept
  rw [h.valid, h.gate]
  dsimp only
  rw [if_neg (by simp [hboot]), if_neg (by simp), hnone]

/-- **An input frame which passes its checks** is applied, and the motion which waited is flushed. -/
theorem handleInputAt_succeeds (h : Admitted r frame peer mapped pointer)
    (hboot : frame.sessionId.receiverBoot = r.inputGate.localBoot) {next : UInt64}
    (hnext : frame.sequence.toNat + 1 = next.toNat) (hi : r.injector.Succeeds) (nowMs : UInt64) :
    ∃ i, i.Succeeds ∧ r.handleInputAt frame peer nowMs =
      (afterInput r frame (inputCommands r.pressed mapped pointer).2 i next nowMs).flushPendingMotion := by
  obtain ⟨i, hsubmit, hi'⟩ := submitAll_succeeds (inputCommands r.pressed mapped pointer).1 hi
  refine ⟨i, hi', ?_⟩
  unfold handleInputAt
  rw [if_neg (by simp [h.bound, h.role]), if_neg (by simp [h.fresh]), h.mapped,
    h.accept_next hboot (checkedAdd_eq_some.mpr hnext)]
  dsimp only
  unfold applyInput
  dsimp only
  rw [hsubmit]
  rfl

/-- The last number of all is refused, for its successor. -/
theorem handleInputAt_exhausted (h : Admitted r frame peer mapped pointer)
    (hboot : frame.sessionId.receiverBoot = r.inputGate.localBoot) (hlast : frame.sequence = u64Max)
    (nowMs : UInt64) :
    r.handleInputAt frame peer nowMs = (.error (.protocol (.invalidField "sequence")), r) := by
  have hnone : checkedAdd frame.sequence 1 = none := by
    rw [hlast]
    rfl
  unfold handleInputAt
  rw [if_neg (by simp [h.bound, h.role]), if_neg (by simp [h.fresh]), h.mapped, h.accept_last hboot hnone]

end Input

/-! ### The other calls -/

section Others

variable {r r₁ : ReceiverSessionRuntime} {s : SessionId}

/-- **A control frame during which the session goes on** changes nothing of its stream, and asks the injector at
most whether it is ready. -/
theorem ControlStep.goesOn {frame : ControlFrame} {peer : AuthenticatedPeer} {nowMs : UInt64}
    {answer : Except SessionRuntimeError (Option ControlFrame)}
    (hstep : ControlStep r frame peer nowMs (answer, r₁))
    (hactive : r.activeSession = some s) (hactive₁ : r₁.activeSession = some s) :
    streamPart r₁ = streamPart r ∧ r₁.pendingMotion = r.pendingMotion ∧
      r₁.highestMotionSequence = r.highestMotionSequence ∧
      (r₁.injector = r.injector ∨ ∃ answer, r.injector.readiness = (answer, r₁.injector)) := by
  cases hstep with
  | refused _ _ => exact ⟨rfl, rfl, rfl, Or.inl rfl⟩
  | helloFailed hreach _ | helloRefused hreach _ | greeted hreach _ => cases hactive.symm.trans hreach.2.2
  | unready _ heq => exact ⟨rfl, rfl, rfl, Or.inr ⟨_, heq⟩⟩
  | unknownLayout _ heq _ => exact ⟨rfl, rfl, rfl, Or.inr ⟨_, heq⟩⟩
  | prepareRefused _ heq _ _ _ => exact ⟨rfl, rfl, rfl, Or.inr ⟨_, heq⟩⟩
  | prepared _ heq _ _ _ => exact ⟨rfl, rfl, rfl, Or.inr ⟨_, heq⟩⟩
  | activated _ _ _ hnone _ _ _ => cases hactive.symm.trans hnone
  | commitRefused _ _ hnone _ => cases hactive.symm.trans hnone
  | recommitted _ _ => exact ⟨rfl, rfl, rfl, Or.inl rfl⟩
  | ended _ _ _ hrelease =>
    rw [hrelease.activeSession] at hactive₁
    cases hactive₁
  | endedIdle _ hnone _ _ _ => cases hactive.symm.trans hnone
  | ponged _ _ _ =>
    unfold touch
    dsimp only
    split
    · exact ⟨rfl, rfl, rfl, Or.inl rfl⟩
    · exact ⟨rfl, rfl, rfl, Or.inl rfl⟩

theorem ControlStep.glides {frame : ControlFrame} {peer : AuthenticatedPeer} {nowMs : UInt64}
    {answer : Except SessionRuntimeError (Option ControlFrame)}
    (hstep : ControlStep r frame peer nowMs (answer, r₁))
    (hi : r.injector.Succeeds) (hactive : r.activeSession = some s) (hactive₁ : r₁.activeSession = some s) :
    Glides none r r₁ := by
  obtain ⟨hsame, hpending, hshown, hinjector⟩ := hstep.goesOn hactive hactive₁
  refine ⟨?_, hsame, fun f hf => Or.inl (hpending.symm.trans hf), Or.inl hshown⟩
  rcases hinjector with heq | ⟨answer', hready⟩
  · rw [heq]
    exact hi
  · obtain ⟨i, heq, hi'⟩ := hi.answer
    cases heq.symm.trans hready
    exact hi'

theorem LoseStep.glides {answer : Except SessionRuntimeError Bool} (hstep : LoseStep r (answer, r₁))
    (hi : r.injector.Succeeds) (hactive₁ : r₁.activeSession = some s) : Glides none r r₁ := by
  cases hstep with
  | kept => exact glides_refl none hi
  | lost _ _ hrelease =>
    rw [hrelease.activeSession] at hactive₁
    cases hactive₁

theorem LayoutStep.glides {displayLayouts : List ReceiverDisplayLayout} {answer : Except SessionRuntimeError Bool}
    (hstep : LayoutStep r displayLayouts (answer, r₁)) (hi : r.injector.Succeeds)
    (hactive : r.activeSession = some s) (hactive₁ : r₁.activeSession = some s) : Glides none r r₁ := by
  cases hstep with
  | current _ => exact ⟨hi, rfl, fun _ hf => Or.inl hf, Or.inl rfl⟩
  | lost _ _ _ hrelease =>
    rw [hrelease.activeSession] at hactive₁
    cases hactive₁
  | cleared _ hnone _ => cases hactive.symm.trans hnone

/-- **Every call but input and motion**, as long as the session goes on. -/
theorem next_glides (hc : Coherent r) (hi : r.injector.Succeeds) {c : ReceiverCall}
    (hinput : ∀ frame peer nowMs, c ≠ .input frame peer nowMs)
    (hmotion : ∀ frame peer nowMs, c ≠ .motion frame peer nowMs)
    (hactive : r.activeSession = some s) (hactive₁ : (r.next c).activeSession = some s) :
    Glides none r (r.next c) := by
  cases c with
  | control frame peer nowMs => exact (handleControlAt_cases hc frame peer nowMs).glides hi hactive hactive₁
  | input frame peer nowMs => exact absurd rfl (hinput frame peer nowMs)
  | motion frame peer nowMs => exact absurd rfl (hmotion frame peer nowMs)
  | expire nowMs => exact (expireIfNeeded_cases hc nowMs).glides hi hactive₁
  | streamClosed peer => exact (inputStreamClosed_cases hc peer).glides hi hactive₁
  | layouts displayLayouts => exact (updateDisplayLayouts_cases hc displayLayouts).glides hi hactive hactive₁
  | modifiers enabled control alt «meta» => exact ⟨hi, rfl, fun _ hf => Or.inl hf, Or.inl rfl⟩

end Others

end MyKvm.Receiver
