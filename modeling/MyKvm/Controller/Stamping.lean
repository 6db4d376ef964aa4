import MyKvm.Controller.Stages

/-!
# MyKvm.Controller.Stamping — the numbers of an active session

What the stamps of a controller read (`stampPart`) changes by the stamps alone: any other call of an active
controller leaves it as it is, or leaves the session (`exec_stampPart`).  `nextInput_eq_ok` and `nextMotion_eq_ok`
say what is stamped.
-/

namespace MyKvm.Controller

open MyKvm.Lib MyKvm.Protocol MyKvm.Routing ControllerRuntime

/-- What the stamps read. -/
def stampPart (c : ControllerRuntime) := (c.handshake.activeSession, c.inputSequence, c.motionSequence, c.display)

section Stamps

variable {c c' : ControllerRuntime}

/-- The next number, and for a button or a scroll the newest motion. -/
theorem nextInput_eq_ok {event : CriticalEvent} {frame : CriticalFrame} (h : c.nextInput event = (.ok frame, c')) :
    c.handshake.activeSession = some frame.sessionId ∧ frame.event = stampEvent c.motionSequence event ∧
      (needsMotion event = true → c.motionSequence ≠ 0) ∧ c.inputSequence.toNat + 1 = frame.sequence.toNat ∧
      c' = { c with inputSequence := frame.sequence } := by
  unfold nextInput at h
  cases hactive : c.handshake.activeSession with
  | none =>
    rw [hactive] at h
    cases h
  | some s =>
    rw [hactive] at h
    dsimp only at h
    by_cases hmotion : needsMotion event = true ∧ c.motionSequence = 0
    · rw [if_pos hmotion] at h
      cases h
    rw [if_neg hmotion] at h
    cases hnext : checkedAdd c.inputSequence 1 with
    | none =>
      rw [hnext] at h
      cases h
    | some sequence =>
      rw [hnext] at h
      cases h
      exact ⟨rfl, rfl, fun hneeds hzero => hmotion ⟨hneeds, hzero⟩, checkedAdd_eq_some.mp hnext, rfl⟩

theorem nextInput_eq_error {event : CriticalEvent} {e : ControllerRuntimeError}
    (h : c.nextInput event = (.error e, c')) :
    c' = c := by
  unfold nextInput at h
  split at h
  · exact (Prod.mk.inj h).2.symm
  split at h
  · exact (Prod.mk.inj h).2.symm
  split at h
  · exact (Prod.mk.inj h).2.symm
  · cases h

/-- The next number, and the newest input. -/
theorem nextMotion_eq_ok {x y : Int32} {frame : MotionFrame} (h : c.nextMotion x y = (.ok frame, c')) :
    c.handshake.activeSession = some frame.sessionId ∧ c.display = some (frame.displayId, frame.layoutRevision) ∧
      c.motionSequence.toNat + 1 = frame.sequence.toNat ∧ frame.requiredReliableSequence = c.inputSequence ∧
      frame.x = x ∧ frame.y = y ∧ c' = { c with motionSequence := frame.sequence } := by
  unfold nextMotion at h
  cases hactive : c.handshake.activeSession with
  | none =>
    rw [hactive] at h
    cases h
  | some s =>
    rw [hactive] at h
    cases hdisplay : c.display with
    | none =>
      rw [hdisplay] at h
      cases h
    | some d =>
      rw [hdisplay] at h
      dsimp only at h
      cases hnext : checkedAdd c.motionSequence 1 with
      | none =>
        rw [hnext] at h
        cases h
      | some sequence =>
        rw [hnext] at h
        cases h
        exact ⟨rfl, rfl, checkedAdd_eq_some.mp hnext, rfl, rfl, rfl, rfl⟩

theorem nextMotion_eq_error {x y : Int32} {e : ControllerRuntimeError} (h : c.nextMotion x y = (.error e, c')) :
    c' = c := by
  unfold nextMotion at h
  split at h
  · exact (Prod.mk.inj h).2.symm
  split at h
  · exact (Prod.mk.inj h).2.symm
  split at h
  · exact (Prod.mk.inj h).2.symm
  · cases h

end Stamps

/-! ### The other calls -/

section Others

variable {ν : Type} {boot : BootId} {localPeerId : String} {c : ControllerRuntime} {s : SessionId}
    {d : String × UInt64}

/-- The controller left the session, or stamps as before. -/
def LeftOr (c c' : ControllerRuntime) : Prop := c'.handshake.activeSession = none ∨ stampPart c' = stampPart c

theorem forget_left (c' : ControllerRuntime) (hstate : c'.handshake.state = .ended) : LeftOr c (forget c') := by
  refine Or.inl (ControllerHandshake.activeSession_eq_none ?_)
  intro s heq
  cases hstate.symm.trans heq

theorem failWith_left (c' : ControllerRuntime) (e : ControllerRuntimeError) (w : World ν) :
    LeftOr c (c'.failWith e w).2.1 := Or.inl rfl

/-- An active handshake stays active in what it answers. -/
theorem handleControl_stampPart (h : Fits boot localPeerId c (.active s d)) (frame : ControlFrame) (nowMs : UInt64)
    (w : World ν) : LeftOr c (c.handleControl frame nowMs w).2.1 := by
  obtain ⟨hrouter, hstate, hrequest, hpending, hdisplay⟩ := h.stage
  unfold handleControl
  cases frame with
  | ready q receiverBoot inputReady display rev =>
    have hstep := c.handshake.handle_cases (.ready q receiverBoot inputReady display rev) w
    dsimp only
    unfold handleReady
    cases hout : c.handshake.handle (.ready q receiverBoot inputReady display rev) w with
    | mk answer out =>
    rw [hout] at hstep
    cases hstep with
    | refused _ _ _ => exact failWith_left _ _ _
    | readied hawaits _ _ _ _ => cases hstate.symm.trans hawaits
  | commitAck s' =>
    dsimp only
    unfold handleCommitAck
    rw [hrequest]
    exact Or.inr rfl
  | pong s' sequence highest =>
    have hstep := c.handshake.handle_cases (.pong s' sequence highest) w
    dsimp only
    cases hout : c.handshake.handle (.pong s' sequence highest) w with
    | mk answer out =>
    rw [hout] at hstep
    cases hstep with
    | refused _ _ _ => exact failWith_left _ _ _
    | ponged _ _ _ => exact Or.inr rfl
  | reject code detail => exact failWith_left _ _ _
  | _ => exact failWith_left _ _ _

theorem advance_stampPart (h : Fits boot localPeerId c (.active s d)) (nowMs : UInt64) (keysReleased : Bool)
    (w : World ν) : LeftOr c (c.advance nowMs keysReleased w).2.1 := by
  have hstep := c.router.advance_cases nowMs keysReleased w
  obtain ⟨⟨peer, hrouter⟩, -⟩ := h.stage
  unfold ControllerRuntime.advance
  cases hout : c.router.advance nowMs keysReleased w with
  | mk answer out =>
  rw [hout] at hstep
  cases hstep with
  | idle _ _ => exact Or.inr rfl
  | left _ _ _ =>
    dsimp only
    rw [routeEffects_leave h (by simp)]
    exact forget_left _ rfl
  | waits hpreparing _ _ => cases hrouter.symm.trans hpreparing
  | commits hpreparing _ _ _ _ _ _ => cases hrouter.symm.trans hpreparing

theorem goLocal_activeSession (h : Fits boot localPeerId c (.active s d)) (reason : ReturnReason) (w : World ν) :
    (c.goLocal reason w).2.1.handshake.activeSession = none := by
  have hleave := routeEffects_leave h (by simp) reason (c.router.returned reason)
  have heq : (c.goLocal reason w).2.1 = (routeEffects { c with router := c.router.returned reason } []
      (c.router.state.leaveEffects reason)).2 := rfl
  rw [heq, hleave]
  rfl

theorem begin_stampPart (h : Fits boot localPeerId c (.active s d)) (peerId targetDisplay : String)
    (layoutRevision nowMs : UInt64) (w : World ν) :
    LeftOr c (c.begin peerId targetDisplay layoutRevision nowMs w).2.1 := by
  have hstep := c.router.goRemote_cases peerId nowMs w
  have hremote : c.router.state.isLocal ≠ true := by
    intro hlocal
    cases h.isLocal_iff.mp hlocal
  unfold ControllerRuntime.begin
  cases hout : c.router.goRemote peerId nowMs w with
  | mk answer out =>
  rw [hout] at hstep
  cases hstep with
  | refused _ => exact Or.inr rfl
  | again _ => exact Or.inr rfl
  | failed hlocal _ _ _ => exact absurd hlocal hremote
  | prepared hlocal _ _ _ _ _ _ _ => exact absurd hlocal hremote

theorem ping_stampPart : LeftOr c c.ping.2 := by
  refine Or.inr ?_
  unfold ControllerRuntime.ping ControllerHandshake.ping
  cases hactive : c.handshake.activeSession with
  | none => rfl
  | some s =>
    dsimp only
    cases checkedAdd c.handshake.pingSequence 1 <;> rfl

/-- **Every call but the stamps** leaves the session, or stamps on as before. -/
theorem exec_stampPart (h : Fits boot localPeerId c (.active s d)) {call : ControllerCall}
    (hinput : ∀ event, call ≠ .nextInput event) (hmotion : ∀ x y, call ≠ .nextMotion x y) (w : World ν) :
    LeftOr c (call.exec c w).2.1 := by
  cases call with
  | begin peerId targetDisplay layoutRevision nowMs => exact begin_stampPart h _ _ _ _ w
  | control frame nowMs => exact handleControl_stampPart h frame nowMs w
  | advance nowMs keysReleased => exact advance_stampPart h nowMs keysReleased w
  | goLocal reason => exact Or.inl (goLocal_activeSession h reason w)
  | gameMode enabled => exact Or.inr rfl
  | nextInput event => exact absurd rfl (hinput event)
  | nextMotion x y => exact absurd rfl (hmotion x y)
  | ping => exact ping_stampPart

end Others

end MyKvm.Controller
