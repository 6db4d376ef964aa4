import MyKvm.Receiver.InputSteps

/-!
# MyKvm.Receiver.Coherence — the parts of the receiver agree after every call

Each outcome of a call keeps `Coherent`, so every run does (`run_coherent`).
-/

namespace MyKvm.Receiver

open MyKvm.Lib MyKvm.Protocol ReceiverSessionRuntime

section Coherence

variable {r : ReceiverSessionRuntime}

theorem ReleaseStep.coherent {answer : Except SessionRuntimeError Unit} {r₁ : ReceiverSessionRuntime}
    (hstep : ReleaseStep r (answer, r₁)) (hc : Coherent r) : Coherent r₁ := by
  cases hstep with
  | released _ => exact { hc with }
  | failed _ _ _ _ => exact { hc with }

theorem Coherent.lostIn {h : ReceiverHandshake} (hc : Coherent r) (hh : r.handshake = some h) (s : SessionId) :
    Coherent (lostIn r h s) where
  gate := rfl
  handshake := by simp [MyKvm.Receiver.lostIn]
  bound := fun _ => rfl
  display := by simp [MyKvm.Receiver.lostIn]
  lease := by simp [MyKvm.Receiver.lostIn]
  pending := by simp [MyKvm.Receiver.lostIn]
  boot := by
    rintro h' heq
    cases heq
    exact hc.boot h hh
  gateBoot := hc.gateBoot

/-- The handshake may move while no session is active. -/
theorem Coherent.withHandshake {h : ReceiverHandshake} (hc : Coherent r) (hh : r.handshake = some h)
    (hnone : r.activeSession = none) (state : ReceiverState) : Coherent (withHandshake r h state) :=
  { hc with
    handshake := by simp [MyKvm.Receiver.withHandshake, hnone]
    bound := fun _ => rfl
    boot := by
      rintro h' heq
      cases heq
      exact hc.boot h hh }

theorem ControlStep.coherent {frame : ControlFrame} {peer : AuthenticatedPeer} {nowMs : UInt64}
    {answer : Except SessionRuntimeError (Option ControlFrame)} {r₁ : ReceiverSessionRuntime}
    (hstep : ControlStep r frame peer nowMs (answer, r₁)) (hc : Coherent r) : Coherent r₁ := by
  cases hstep with
  | refused _ _ => exact hc
  | helloFailed _ hrelease => exact hrelease.coherent hc
  | helloRefused _ hrelease => exact hrelease.coherent hc
  | greeted hreach hrelease =>
    rename_i bootId capabilities r₂
    have hc₂ := hrelease.coherent hc
    have hnone₂ : r₂.activeSession = none := by
      cases hrelease with
      | released _ => exact hreach.2.2
    exact
      { hc₂ with
        handshake := by simp [boundTo, hnone₂]
        bound := fun _ => rfl
        display := by simp [boundTo, hnone₂]
        lease := by simp [boundTo, hnone₂]
        pending := by simp [boundTo]
        boot := by
          rintro h heq
          cases heq
          rfl }
  | unready _ _ => exact { hc with }
  | unknownLayout _ _ _ => exact { hc with }
  | prepareRefused _ _ _ _ _ => exact { hc with }
  | prepared hbound hready hfind hh hawaits =>
    rename_i q rev display i layout h boot
    have hnone := hc.activeSession_eq_none hh (hawaits.not_active)
    have hc' : Coherent { r with injector := i, preparedDisplay := some layout } := { hc with }
    exact hc'.withHandshake hh hnone _
  | activated hbound hh hacks hnone hdisplay hpressed hended =>
    rename_i q s h
    have hc' := hc.withHandshake hh hnone (.active s)
    exact
      { hc' with
        gate := rfl
        handshake := by
          rintro s' heq
          cases heq
          exact ⟨_, rfl, rfl⟩
        display := fun _ => hdisplay
        lease := fun _ => rfl
        pending := by simp [activeIn] }
  | commitRefused haccepts hh hnone hwhy => exact hc.withHandshake hh hnone _
  | recommitted _ _ => exact hc.touched nowMs
  | ended hbound hactive hh hrelease =>
    rename_i s reason h answer
    refine hrelease.coherent ?_
    exact
      { gate := rfl
        handshake := by simp [endedBy]
        bound := fun _ => rfl
        display := by simp [endedBy]
        lease := by simp [endedBy]
        pending := by simp [endedBy]
        boot := by
          rintro h' heq
          cases heq
          exact hc.boot h hh
        gateBoot := hc.gateBoot }
  | endedIdle hbound hnone hh hstate hrelease => exact hrelease.coherent (hc.withHandshake hh hnone _)
  | ponged _ _ _ =>
    unfold touch
    dsimp only
    split
    · exact hc.touched nowMs
    · exact hc

theorem ApplyStep.coherent {frame : MotionFrame} {answer : Except SessionRuntimeError Unit}
    {r₁ : ReceiverSessionRuntime} (hstep : ApplyStep r frame (answer, r₁)) (hc : Coherent r) : Coherent r₁ := by
  cases hstep with
  | refused _ => exact hc
  | failed hposted hh hrelease =>
    rename_i i h error answer
    have hc' : Coherent { r with injector := i, lastFault := some (.injector error) } := { hc with }
    exact hrelease.coherent (hc'.lostIn hh _)
  | moved _ _ => exact { hc with }

theorem FlushStep.coherent {answer : Except SessionRuntimeError Unit} {r₁ : ReceiverSessionRuntime}
    (hstep : FlushStep r (answer, r₁)) (hc : Coherent r) : Coherent r₁ := by
  cases hstep with
  | kept => exact hc
  | dropped => exact hc.withoutPending
  | applied _ _ _ happly => exact happly.coherent hc.withoutPending

theorem MotionStep.coherent {frame : MotionFrame} {nowMs : UInt64}
    {answer : Except SessionRuntimeError MotionDisposition} {r₁ : ReceiverSessionRuntime}
    (hstep : MotionStep r frame nowMs (answer, r₁)) (hc : Coherent r) : Coherent r₁ := by
  cases hstep with
  | refused _ => exact hc
  | stale => exact hc
  | buffered hactive hpending =>
    refine { hc.touched nowMs with pending := ?_ }
    intro f hf
    rcases hpending with heq | heq
    · cases heq.symm.trans hf
      exact hactive
    · exact hc.pending f (heq.symm.trans hf)
  | applied hactive happly => exact happly.coherent (hc.touched nowMs)

theorem InputStep.coherent {frame : CriticalFrame} {peer : AuthenticatedPeer} {nowMs : UInt64}
    {answer : Except SessionRuntimeError Unit} {r₁ : ReceiverSessionRuntime}
    (hstep : InputStep r frame peer nowMs (answer, r₁)) (hc : Coherent r) : Coherent r₁ := by
  cases hstep with
  | refused _ => exact hc
  | failed hadmitted hsubmit hh hrelease =>
    rename_i mapped pointer error i h answer
    have hc' : Coherent { r with injector := i, lastFault := some (.injector error) } := { hc with }
    exact hrelease.coherent (hc'.lostIn hh _)
  | applied hadmitted hsubmit hnext hflush =>
    exact hflush.coherent (hc.afterInput (hadmitted.active hc) _ _ _ _)

theorem LoseStep.coherent {answer : Except SessionRuntimeError Bool} {r₁ : ReceiverSessionRuntime}
    (hstep : LoseStep r (answer, r₁)) (hc : Coherent r) : Coherent r₁ := by
  cases hstep with
  | kept => exact hc
  | lost hactive hh hrelease => exact hrelease.coherent { hc.lostIn hh _ with }

theorem Coherent.undisplayed (hc : Coherent r) (hnone : r.activeSession = none) : Coherent (undisplayed r) :=
  { hc with
    display := by simp [MyKvm.Receiver.undisplayed, hnone]
    lease := by simp [MyKvm.Receiver.undisplayed, hnone]
    pending := by simp [MyKvm.Receiver.undisplayed] }

theorem LayoutStep.coherent {displayLayouts : List ReceiverDisplayLayout}
    {answer : Except SessionRuntimeError Bool}
    {r₁ : ReceiverSessionRuntime} (hstep : LayoutStep r displayLayouts (answer, r₁)) (hc : Coherent r) :
    Coherent r₁ := by
  cases hstep with
  | current _ => exact { hc with }
  | lost hprepared hactive hh hrelease =>
    rename_i preparedDisplay h s answer
    have hc' : Coherent { r with displayLayouts, preparedDisplay } := { hc with }
    exact hrelease.coherent ((hc'.lostIn hh s).undisplayed rfl)
  | cleared hprepared hnone hrelease =>
    rename_i preparedDisplay answer
    have hc' : Coherent { r with displayLayouts, preparedDisplay } := { hc with }
    exact hrelease.coherent (hc'.undisplayed hnone)

/-- **Every call keeps the parts of the receiver coherent.** -/
theorem next_coherent (r : ReceiverSessionRuntime) (c : ReceiverCall) (hc : Coherent r) : Coherent (r.next c) := by
  cases c with
  | control frame peer nowMs => exact (handleControlAt_cases hc frame peer nowMs).coherent hc
  | input frame peer nowMs => exact (handleInputAt_cases hc frame peer nowMs).coherent hc
  | motion frame peer nowMs => exact (handleMotionAt_cases hc frame peer nowMs).coherent hc
  | expire nowMs => exact (expireIfNeeded_cases hc nowMs).coherent hc
  | streamClosed peer => exact (inputStreamClosed_cases hc peer).coherent hc
  | layouts displayLayouts => exact (updateDisplayLayouts_cases hc displayLayouts).coherent hc
  | modifiers enabled control alt «meta» => exact { hc with }

theorem run_coherent (localBoot : BootId) (injector : Injector) (displayLayouts : List ReceiverDisplayLayout)
    (calls : List ReceiverCall) :
    Coherent (run next (newWithDisplayLayouts localBoot injector displayLayouts) calls) :=
  run_invariant (fun r c hc => next_coherent r c hc)
    (newWithDisplayLayouts_coherent localBoot injector displayLayouts) calls

/-! ### The calls which are not control frames -/

/-- **What a call other than a control frame leaves**: the session goes on as it was, or it is lost, and the
handshake and the gate have ended it. -/
inductive FadeStep (r : ReceiverSessionRuntime) : ReceiverSessionRuntime → Prop
  | kept {r₁ : ReceiverSessionRuntime} : r₁.binding = r.binding → r₁.localBoot = r.localBoot →
      (r₁.preparedDisplay = r.preparedDisplay ∨ r₁.preparedDisplay = none) → r₁.handshake = r.handshake →
      r₁.activeSession = r.activeSession → r₁.inputGate.ended = r.inputGate.ended →
      (r₁.activeDisplay = r.activeDisplay ∨ r.activeSession = none) → FadeStep r r₁
  | lost {r₁ : ReceiverSessionRuntime} {h : ReceiverHandshake} {s : SessionId} : r₁.binding = r.binding →
      r₁.localBoot = r.localBoot → (r₁.preparedDisplay = r.preparedDisplay ∨ r₁.preparedDisplay = none) →
      r.handshake = some h → r.activeSession = some s → r₁.handshake = some { h with state := .ended s } →
      r₁.activeSession = none → r₁.inputGate.ended = some s → FadeStep r r₁

/-- What `FadeStep` reads of a receiver. -/
def sessionPart (r : ReceiverSessionRuntime) :=
  (r.binding, r.localBoot, r.preparedDisplay, r.handshake, r.activeSession, r.inputGate.ended, r.activeDisplay)

theorem FadeStep.of_sessionPart {r' r₁ : ReceiverSessionRuntime} (h : FadeStep r' r₁)
    (hsame : sessionPart r' = sessionPart r) : FadeStep r r₁ := by
  simp only [sessionPart, Prod.mk.injEq] at hsame
  obtain ⟨h₁, h₂, h₃, h₄, h₅, h₆, h₇⟩ := hsame
  cases h with
  | kept hbinding hboot hprepared hh hactive hended hdisplay =>
    rw [h₁, h₂, h₃, h₄, h₅, h₆, h₇] at *
    exact .kept hbinding hboot hprepared hh hactive hended hdisplay
  | lost hbinding hboot hprepared hh hactive hh₁ hnone hended =>
    rw [h₁, h₂, h₃, h₄, h₅] at *
    exact .lost hbinding hboot hprepared hh hactive hh₁ hnone hended

theorem fades_of_sessionPart {r₁ : ReceiverSessionRuntime} (hsame : sessionPart r₁ = sessionPart r) :
    FadeStep r r₁ := by
  simp only [sessionPart, Prod.mk.injEq] at hsame
  obtain ⟨h₁, h₂, h₃, h₄, h₅, h₆, h₇⟩ := hsame
  exact .kept h₁ h₂ (Or.inl h₃) h₄ h₅ h₆ (Or.inl h₇)

theorem touch_sessionPart (frame : ControlFrame) (nowMs : UInt64) :
    sessionPart (r.touch frame nowMs) = sessionPart r := by
  unfold touch
  split
  · split <;> rfl
  · split <;> rfl
  · rfl

theorem touch_activeSession (frame : ControlFrame) (nowMs : UInt64) :
    (r.touch frame nowMs).activeSession = r.activeSession := by
  unfold touch
  split
  · split <;> rfl
  · split <;> rfl
  · rfl

/-- A release touches neither the session nor the displays. -/
theorem ReleaseStep.fades {r₁ r₂ : ReceiverSessionRuntime} {answer : Except SessionRuntimeError Unit}
    (hstep : ReleaseStep r₁ (answer, r₂)) (h : FadeStep r r₁) : FadeStep r r₂ := by
  cases hstep with
  | released _ | failed _ _ _ _ =>
    cases h with
    | kept hbinding hboot hprepared hh hactive hended hdisplay =>
      exact .kept hbinding hboot hprepared hh hactive hended hdisplay
    | lost hbinding hboot hprepared hh hactive hh₁ hnone hended =>
      exact .lost hbinding hboot hprepared hh hactive hh₁ hnone hended

theorem ApplyStep.fades {frame : MotionFrame} {answer : Except SessionRuntimeError Unit}
    {r₁ : ReceiverSessionRuntime}
    (hstep : ApplyStep r frame (answer, r₁)) (hactive : r.activeSession = some frame.sessionId) :
    FadeStep r r₁ := by
  cases hstep with
  | refused _ => exact fades_of_sessionPart rfl
  | failed _ hh hrelease => exact hrelease.fades (.lost rfl rfl (Or.inl rfl) hh hactive rfl rfl rfl)
  | moved _ _ => exact fades_of_sessionPart rfl

theorem FlushStep.fades {answer : Except SessionRuntimeError Unit} {r₁ : ReceiverSessionRuntime}
    (hstep : FlushStep r (answer, r₁)) (hc : Coherent r) : FadeStep r r₁ := by
  cases hstep with
  | kept => exact fades_of_sessionPart rfl
  | dropped => exact fades_of_sessionPart rfl
  | applied hpending _ _ happly => exact (happly.fades (hc.pending _ hpending)).of_sessionPart rfl

theorem MotionStep.fades {frame : MotionFrame} {nowMs : UInt64}
    {answer : Except SessionRuntimeError MotionDisposition}
    {r₁ : ReceiverSessionRuntime} (hstep : MotionStep r frame nowMs (answer, r₁)) : FadeStep r r₁ := by
  cases hstep with
  | refused _ => exact fades_of_sessionPart rfl
  | stale => exact fades_of_sessionPart rfl
  | buffered _ _ => exact fades_of_sessionPart rfl
  | applied hactive happly => exact (happly.fades hactive).of_sessionPart rfl

theorem InputStep.fades {frame : CriticalFrame} {peer : AuthenticatedPeer} {nowMs : UInt64}
    {answer : Except SessionRuntimeError Unit} {r₁ : ReceiverSessionRuntime}
    (hstep : InputStep r frame peer nowMs (answer, r₁)) (hc : Coherent r) : FadeStep r r₁ := by
  cases hstep with
  | refused _ => exact fades_of_sessionPart rfl
  | failed hadmitted hsubmit hh hrelease =>
    exact hrelease.fades (.lost rfl rfl (Or.inl rfl) hh (hadmitted.active hc) rfl rfl rfl)
  | applied hadmitted hsubmit hnext hflush =>
    exact (hflush.fades (hc.afterInput (hadmitted.active hc) _ _ _ _)).of_sessionPart rfl

theorem LoseStep.fades {answer : Except SessionRuntimeError Bool} {r₁ : ReceiverSessionRuntime}
    (hstep : LoseStep r (answer, r₁)) : FadeStep r r₁ := by
  cases hstep with
  | kept => exact fades_of_sessionPart rfl
  | lost hactive hh hrelease =>
    exact hrelease.fades (.lost rfl rfl (Or.inl rfl) hh hactive rfl rfl rfl)

theorem LayoutStep.fades {displayLayouts : List ReceiverDisplayLayout} {answer : Except SessionRuntimeError Bool}
    {r₁ : ReceiverSessionRuntime} (hstep : LayoutStep r displayLayouts (answer, r₁)) : FadeStep r r₁ := by
  cases hstep with
  | current hprepared => exact .kept rfl rfl hprepared rfl rfl rfl (Or.inl rfl)
  | lost hprepared hactive hh hrelease => exact hrelease.fades (.lost rfl rfl hprepared hh hactive rfl rfl rfl)
  | cleared hprepared hnone hrelease => exact hrelease.fades (.kept rfl rfl hprepared rfl rfl rfl (Or.inr hnone))

theorem next_fades (hc : Coherent r) {c : ReceiverCall}
    (hother : ∀ frame peer nowMs, c ≠ .control frame peer nowMs) :
    FadeStep r (r.next c) := by
  cases c with
  | control frame peer nowMs => exact absurd rfl (hother frame peer nowMs)
  | input frame peer nowMs => exact (handleInputAt_cases hc frame peer nowMs).fades hc
  | motion frame peer nowMs => exact (handleMotionAt_cases hc frame peer nowMs).fades
  | expire nowMs => exact (expireIfNeeded_cases hc nowMs).fades
  | streamClosed peer => exact (inputStreamClosed_cases hc peer).fades
  | layouts displayLayouts => exact (updateDisplayLayouts_cases hc displayLayouts).fades
  | modifiers enabled control alt «meta» => exact fades_of_sessionPart rfl

end Coherence

end MyKvm.Receiver
