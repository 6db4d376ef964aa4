import MyKvm.Controller.Client

/-!
# MyKvm.Controller.Display — the display of a session

A controller binds the display at its `Prepare`, and stamps every motion with it.

* `exec_display`: no other call changes the display; `poll_display`, `sendInput_display`, `sendMotion_display` and
  `goLocal_display`: nor does any operation of the client but `begin`.
* `begin_display`: a `begin` which succeeds binds its target.
-/

namespace MyKvm.Controller

open MyKvm.Lib MyKvm.Protocol MyKvm.Routing ControllerRuntime Fallible ControllerClient

section Calls

variable {ν : Type} (c : ControllerRuntime) (w : World ν)

theorem endAfterFailedAck_display : (endAfterFailedAck c w).2.1.display = c.display := by
  unfold endAfterFailedAck
  by_cases hactive : c.handshake.activeSession.isSome = true
  · rw [if_pos hactive]
    dsimp only
    cases c.handshake.end "late-or-cancelled-ack" with
    | mk answer handshake => cases answer <;> rfl
  · rw [if_neg hactive]
    rfl

theorem handleReady_display (frame : ControlFrame) : (c.handleReady frame w).2.1.display = c.display := by
  unfold handleReady
  dsimp only
  split
  · rfl
  split
  · rfl
  split <;> rfl

theorem handleCommitAck_display (frame : ControlFrame) (sessionId : SessionId) (nowMs : UInt64) :
    (c.handleCommitAck frame sessionId nowMs w).2.1.display = c.display := by
  unfold handleCommitAck
  split
  · split
    · rfl
    split
    · rfl
    dsimp only
    split
    · exact endAfterFailedAck_display _ _
    · rfl
  · rfl

theorem routeEffect_display (effect : RouteEffect) : (c.routeEffect effect).2.display = c.display := by
  cases effect with
  | commit request session =>
    unfold routeEffect
    dsimp only
    split
    · rfl
    split
    · rfl
    split <;> rfl
  | «end» session reason =>
    unfold routeEffect
    dsimp only
    split
    · split <;> rfl
    · rfl
  | cancel request => rfl
  | prepare peer request => rfl

theorem routeEffects_display (actions : List ControllerAction) (effects : List RouteEffect) :
    (routeEffects c actions effects).2.display = c.display := by
  induction effects generalizing c actions with
  | nil => rfl
  | cons effect effects ih =>
    have hone := routeEffect_display c effect
    unfold routeEffects
    split
    · rename_i heq
      rwa [heq] at hone
    · rename_i heq
      rw [heq] at hone
      rw [ih, hone]

/-- **Only `begin` binds a display.** -/
theorem exec_display (call : ControllerCall) (h : ∀ peer display rev now, call ≠ .begin peer display rev now) :
    (call.exec c w).2.1.display = c.display := by
  cases call with
  | begin peer display rev now => exact absurd rfl (h peer display rev now)
  | control frame nowMs =>
    cases frame with
    | ready _ _ _ _ _ => exact handleReady_display c w _
    | commitAck sessionId => exact handleCommitAck_display c w _ sessionId nowMs
    | pong _ _ _ =>
      show (c.handleControl _ nowMs w).2.1.display = _
      unfold handleControl
      dsimp only
      split <;> rfl
    | _ => rfl
  | advance nowMs keysReleased =>
    show (c.advance nowMs keysReleased w).2.1.display = _
    unfold ControllerRuntime.advance
    split
    · rfl
    · exact routeEffects_display _ _ _
  | goLocal reason => exact routeEffects_display _ _ _
  | gameMode enabled => rfl
  | nextInput event =>
    show (c.nextInput event).2.display = _
    unfold nextInput
    split
    · rfl
    split
    · rfl
    split <;> rfl
  | nextMotion x y =>
    show (c.nextMotion x y).2.display = _
    unfold nextMotion
    split
    · rfl
    split
    · rfl
    split <;> rfl
  | ping =>
    show (c.ping).2.display = _
    unfold ControllerRuntime.ping
    split <;> rfl

/-- A `begin` which answers without an error, from the local state, binds its display. -/
theorem begin_binds {peerId targetDisplay : String} {layoutRevision nowMs : UInt64}
    {actions : List ControllerAction}
    (hlocal : c.canBegin = true) (h : (c.begin peerId targetDisplay layoutRevision nowMs w).1 = .ok actions) :
    (c.begin peerId targetDisplay layoutRevision nowMs w).2.1.display = some (targetDisplay, layoutRevision) := by
  have hroute := c.router.goRemote_cases peerId nowMs w
  unfold ControllerRuntime.begin at h ⊢
  revert h
  generalize c.router.goRemote peerId nowMs w = out at hroute
  intro h
  cases hroute with
  | refused hdrift => cases h
  | again hremote =>
    unfold canBegin at hlocal
    rw [hremote] at hlocal
    cases hlocal
  | failed _ _ _ _ => cases h
  | prepared _ _ _ _ _ _ _ _ =>
    dsimp only at h ⊢
    split
    · rfl
    · rename_i heq
      rw [heq] at h
      cases h

end Calls

/-! ### Operations -/

/-- The display is bound like this. -/
def BoundTo (d : Option (String × UInt64)) (s : ClientSetting) : Prop := s.client.runtime.display = d

section Operations

variable {d : Option (String × UInt64)} {ε : Type}

theorem transportCall_display (call : TransportCall) : Keeps (BoundTo d) (transportCall call) := by
  apply keeps_act
  intro s hs
  dsimp only
  split <;> exact hs

theorem disconnect_display : Keeps (BoundTo d) disconnect := keeps_act fun _ hs => hs

theorem note_display (n : ClientNote) : Keeps (BoundTo d) (note n) := keeps_act fun _ hs => hs

theorem setNextPing_display (nextPingMs : Option UInt64) : Keeps (BoundTo d) (setNextPing nextPingMs) :=
  keeps_act fun _ hs => hs

theorem withRuntime_display (call : ControllerCall)
    (h : ∀ peer display rev now, call ≠ .begin peer display rev now) :
    Keeps (BoundTo d) (withRuntime fun c w => call.exec c w) :=
  keeps_act fun s hs => (exec_display s.client.runtime s.world call h).trans hs

theorem sendControls_display (actions : List ControllerAction) : Keeps (BoundTo d) (sendControls actions) := by
  induction actions with
  | nil => exact keeps_pure _
  | cons action actions ih =>
    cases action with
    | sendControl frame => exact (transportCall_display _).bind fun _ => ih
    | openInput t => exact ih
    | closeInput => exact ih

theorem failTransport_display : Keeps (BoundTo d) failTransport := by
  refine (withRuntime_display (.goLocal .networkFailed) (by simp)).bind fun answer => ?_
  have hrest : Keeps (BoundTo d) (do disconnect; setNextPing none) :=
    disconnect_display.bind fun _ => setNextPing_display none
  cases answer with
  | ok actions => exact (sendControls_display actions).bind fun _ => hrest
  | error e => exact (keeps_pure ()).bind fun _ => hrest

theorem perform_display (action : ControllerAction) : Keeps (BoundTo d) (perform action) := by
  cases action with
  | sendControl frame => exact transportCall_display _
  | openInput t => exact transportCall_display _
  | closeInput => exact disconnect_display.bind fun _ => keeps_pure _

theorem apply_display (actions : List ControllerAction) : Keeps (BoundTo d) (apply actions) := by
  induction actions with
  | nil => exact keeps_pure _
  | cons action actions ih =>
    refine (perform_display action).bind fun answer => ?_
    cases answer with
    | error e => exact failTransport_display.bind fun _ => keeps_throw _
    | ok u => exact ih

theorem pollPing_display (nowMs : UInt64) : Keeps (BoundTo d) (pollPing nowMs) := by
  refine keeps_get.bind fun s => ?_
  split
  · exact setNextPing_display none
  refine (setNextPing_display _).bind fun _ => ?_
  split
  · exact keeps_pure _
  refine Keeps.bind (keeps_act fun s hs => ?_) fun answer => ?_
  · exact (exec_display s.client.runtime s.world .ping (by simp)).trans hs
  cases answer with
  | error e => exact keeps_throw _
  | ok action => exact (apply_display _).bind fun _ => setNextPing_display _

theorem takeFrame_display (nowMs : UInt64) : Keeps (BoundTo d) (takeFrame nowMs) := by
  refine Keeps.bind (keeps_act fun s hs => ?_) fun taken => ?_
  · unfold ControllerClient.tryRecv
    split <;> exact hs
  cases taken with
  | ok frame =>
    refine (withRuntime_display (.control frame nowMs) (by simp)).bind fun answer => ?_
    refine (note_display _).bind fun _ => ?_
    cases answer with
    | error e => exact disconnect_display.bind fun _ => keeps_throw _
    | ok actions => exact (apply_display actions).bind fun _ => keeps_pure _
  | error e =>
    cases e with
    | empty => exact keeps_pure _
    | disconnected => exact failTransport_display.bind fun _ => keeps_throw _

theorem drainRest_display (nowMs : UInt64) (n : ℕ) : Keeps (BoundTo d) (drainRest nowMs n) := by
  induction n with
  | zero => exact keeps_pure _
  | succ n ih =>
    refine (takeFrame_display nowMs).bind fun more => ?_
    split
    · exact ih
    · exact keeps_pure _

theorem offer_runtime (c : ControllerClient) (frame : ControlFrame) : (c.offer frame).runtime = c.runtime := by
  unfold ControllerClient.offer
  split <;> rfl

theorem drain_display (nowMs : UInt64) (arrivals : List (List ControlFrame)) :
    Keeps (BoundTo d) (drain nowMs arrivals) := by
  induction arrivals with
  | nil => exact keeps_get.bind fun s => drainRest_display nowMs _
  | cons arrived arrivals ih =>
    refine Keeps.bind (keeps_act fun s hs => ?_) fun _ => ?_
    · have hsame : (arrived.foldl offer s.client).runtime = s.client.runtime := by
        generalize s.client = c
        induction arrived generalizing c with
        | nil => rfl
        | cons frame frames ih => exact (ih _).trans (offer_runtime c frame)
      exact (congrArg ControllerRuntime.display hsame).trans hs
    refine (takeFrame_display nowMs).bind fun more => ?_
    split
    · exact ih
    · exact keeps_pure _

theorem poll_display (nowMs : UInt64) (keysReleased : Bool) (arrivals : List (List ControlFrame)) :
    Keeps (BoundTo d) (poll nowMs keysReleased arrivals) := by
  refine Keeps.bind (keeps_act fun s hs => hs) fun overflowed => ?_
  have hdrained : ∀ f : _ → ClientM Unit, (∀ answer, Keeps (BoundTo d) (f answer)) →
      Keeps (BoundTo d) (drain nowMs arrivals >>= fun _ =>
        (withRuntime fun c w => c.advance nowMs keysReleased w) >>= f) := fun f hf =>
    (drain_display nowMs arrivals).bind fun _ =>
      (withRuntime_display (.advance nowMs keysReleased) (by simp)).bind hf
  cases overflowed with
  | true =>
    refine failTransport_display.bind fun _ => (keeps_throw _).bind fun _ => hdrained _ fun answer => ?_
    cases answer with
    | error e => exact failTransport_display.bind fun _ => keeps_throw _
    | ok actions => exact (apply_display actions).bind fun _ => pollPing_display nowMs
  | false =>
    refine hdrained _ fun answer => ?_
    cases answer with
    | error e => exact failTransport_display.bind fun _ => keeps_throw _
    | ok actions => exact (apply_display actions).bind fun _ => pollPing_display nowMs

theorem sendInput_display (event : CriticalEvent) : Keeps (BoundTo d) (sendInput event) := by
  refine Keeps.bind (keeps_act fun s hs => ?_) fun answer => ?_
  · exact (exec_display s.client.runtime s.world (.nextInput event) (by simp)).trans hs
  cases answer with
  | error e => exact keeps_throw _
  | ok frame =>
    refine (transportCall_display _).bind fun answer => ?_
    cases answer with
    | error e => exact failTransport_display.bind fun _ => keeps_throw _
    | ok u => exact keeps_pure _

theorem sendMotion_display (x y : Int32) : Keeps (BoundTo d) (sendMotion x y) := by
  refine Keeps.bind (keeps_act fun s hs => ?_) fun answer => ?_
  · exact (exec_display s.client.runtime s.world (.nextMotion x y) (by simp)).trans hs
  cases answer with
  | error e => exact keeps_throw _
  | ok frame =>
    refine (transportCall_display _).bind fun answer => ?_
    cases answer with
    | error e => exact failTransport_display.bind fun _ => keeps_throw _
    | ok u => exact keeps_pure _

theorem goLocal_display (reason : ReturnReason) : Keeps (BoundTo d) (ControllerClient.goLocal reason) := by
  refine (withRuntime_display (.goLocal reason) (by simp)).bind fun answer => ?_
  cases answer with
  | error e => exact keeps_throw _
  | ok actions => exact (apply_display actions).bind fun _ => setNextPing_display none

/-- **A `begin` which succeeds binds its target.** -/
theorem begin_display (target : ControllerTarget) (nowMs : UInt64) (s : ClientSetting) :
    Ensures (ControllerClient.begin target nowMs) s
      (fun _ s' => BoundTo (some (target.targetDisplay, target.layoutRevision)) s') (fun _ _ => True) := by
  apply Ensures.bind_get
  by_cases hlocal : s.client.runtime.canBegin = true
  · rw [if_neg (by simp [hlocal])]
    refine Ensures.bind_act (Ensures.bind_act ?_)
    refine Ensures.bind (Q := fun _ s' => s'.client.runtime = s.client.runtime) (ensures_act ?_) ?_
    · dsimp only
      split <;> rfl
    intro answer s' hsame
    cases answer with
    | error e => exact ensures_throw trivial
    | ok u =>
      refine Ensures.bind_act ?_
      have hlocal' : s'.client.runtime.canBegin = true := by rwa [hsame]
      dsimp only
      cases hanswer :
        (s'.client.runtime.begin target.peerId target.targetDisplay target.layoutRevision nowMs s'.world).1 with
      | error e => exact Ensures.bind (ensures_act (Q := fun _ _ => True) trivial) fun _ _ _ =>
          ensures_throw trivial
      | ok actions =>
        have hbound := begin_binds s'.client.runtime s'.world hlocal' hanswer
        have hrest := (apply_display (d := some (target.targetDisplay, target.layoutRevision)) actions).bind
          fun _ => pollPing_display nowMs
        refine Ensures.mono (hrest _ ?_) (fun _ _ h => h) fun _ _ _ => trivial
        exact hbound
  · rw [if_pos (by simp [hlocal])]
    exact ensures_throw trivial

end Operations

end MyKvm.Controller
