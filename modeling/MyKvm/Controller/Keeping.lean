import MyKvm.Controller.Standing

/-!
# MyKvm.Controller.Keeping — what the router keeps, the client keeps

The controller changes its router by the router's own operations only, and the client its controller by the
controller's. So an assertion about the router and the world has to be proved for the six operations of the router.

* `Routed.exec`: from the operations of the router to the calls of the controller.
* `Durable.poll`, `Durable.sendInput`, …: from the calls of the controller to the operations of the client.
* `begin_home`: a `begin` which fails comes home.
-/

namespace MyKvm.Controller

open MyKvm.Lib MyKvm.Protocol MyKvm.Routing ControllerRuntime Fallible ControllerClient

/-! ### From the router to the controller -/

section Routed

variable {ν : Type} {J : Router → World ν → Prop} {c : ControllerRuntime} {w : World ν}

/-- The operations of the router keep the assertion, and so does the random source;
`goRemote` is left to `begin`. -/
structure Routed (J : Router → World ν → Prop) : Prop where
  ready : ∀ r w request session, J r w →
    J (Router.ready r request session w).2.1 (Router.ready r request session w).2.2
  advance : ∀ r w nowMs keysReleased, J r w →
    J (Router.advance r nowMs keysReleased w).2.1 (Router.advance r nowMs keysReleased w).2.2
  commitAck : ∀ r w request session nowMs, J r w →
    J (Router.commitAck r request session nowMs w).2.1 (Router.commitAck r request session nowMs w).2.2
  goLocal : ∀ r w reason, J r w → J (Router.goLocal r reason w).2.1 (Router.goLocal r reason w).2.2
  gameMode : ∀ r w enabled, J r w → J (r.setGameMode enabled) w
  random : ∀ r w, J r w → J r (World.fillRandom w).2

namespace Routed

variable (hJ : Routed J)

include hJ

theorem failWith (h : J c.router w) (e : ControllerRuntimeError) :
    J (c.failWith e w).2.1.router (c.failWith e w).2.2 := hJ.goLocal c.router w .networkFailed h

theorem handshake (h : J c.router w) (frame : ControlFrame) : J c.router (c.handshake.handle frame w).2.2 := by
  unfold ControllerHandshake.handle
  split
  · exact h
  split
  · split
    · unfold SessionId.generate
      have hrandom := hJ.random c.router w h
      cases hfill : w.fillRandom with
      | mk bytes w' =>
      rw [hfill] at hrandom
      cases bytes with
      | none => exact hrandom
      | some bytes =>
        dsimp only
        by_cases hzero : bytes = zero16
        · rw [if_pos hzero]
          exact hrandom
        · rw [if_neg hzero]
          exact hrandom
    · exact h
  · split <;> exact h
  · split <;> exact h
  · exact h
  · exact h

theorem endAfterFailedAck (h : J c.router w) :
    J (c.endAfterFailedAck w).2.1.router (c.endAfterFailedAck w).2.2 := by
  unfold ControllerRuntime.endAfterFailedAck
  split
  rename_i actions c' heq
  have hsame : c'.router = c.router := by
    split at heq
    · split at heq <;> cases heq <;> rfl
    · cases heq
      rfl
  have hlocal := hJ.goLocal c'.router w .emergency (by rwa [hsame])
  exact hlocal

theorem handleReady (h : J c.router w) (frame : ControlFrame) :
    J (c.handleReady frame w).2.1.router (c.handleReady frame w).2.2 := by
  have hhandled := hJ.handshake h frame
  unfold ControllerRuntime.handleReady
  split
  · rename_i heq
    rw [heq] at hhandled
    exact hJ.goLocal c.router _ .networkFailed hhandled
  · rename_i handshake w₁ heq
    rw [heq] at hhandled
    split
    · exact hJ.goLocal c.router _ .networkFailed hhandled
    · rename_i request sessionId hprepared
      have hready := hJ.ready c.router w₁ request (sessionToken sessionId) hhandled
      dsimp only
      split
      · rename_i heq
        rw [heq] at hready
        exact hJ.goLocal _ _ .networkFailed hready
      · rename_i heq
        rw [heq] at hready
        exact hready

theorem handleCommitAck (h : J c.router w) (frame : ControlFrame) (sessionId : SessionId) (nowMs : UInt64) :
    J (c.handleCommitAck frame sessionId nowMs w).2.1.router (c.handleCommitAck frame sessionId nowMs w).2.2 := by
  have hhandled := hJ.handshake h frame
  unfold ControllerRuntime.handleCommitAck
  split
  · rename_i request pending _ _
    split
    · exact hJ.failWith h _
    split
    · rename_i heq
      rw [heq] at hhandled
      exact hJ.goLocal c.router _ .networkFailed hhandled
    · rename_i handshake w₁ heq
      rw [heq] at hhandled
      have hacked := hJ.commitAck c.router w₁ request (sessionToken sessionId) nowMs hhandled
      dsimp only
      split
      · rename_i heq
        rw [heq] at hacked
        exact hJ.endAfterFailedAck hacked
      · rename_i heq
        rw [heq] at hacked
        exact hacked
  · exact h

theorem handleControl (h : J c.router w) (frame : ControlFrame) (nowMs : UInt64) :
    J (c.handleControl frame nowMs w).2.1.router (c.handleControl frame nowMs w).2.2 := by
  have hhandled := hJ.handshake h frame
  unfold ControllerRuntime.handleControl
  split
  · exact hJ.handleReady h _
  · exact hJ.handleCommitAck h _ _ nowMs
  · split
    · rename_i heq
      rw [heq] at hhandled
      exact hJ.goLocal c.router _ .networkFailed hhandled
    · rename_i heq
      rw [heq] at hhandled
      exact hhandled
  · exact hJ.goLocal c.router _ .networkFailed hhandled
  · exact hJ.failWith h _

omit hJ in
theorem routeEffect_router (c : ControllerRuntime) (effect : RouteEffect) :
    (c.routeEffect effect).2.router = c.router := by
  cases effect with
  | commit request session =>
    unfold ControllerRuntime.routeEffect
    dsimp only
    split
    · rfl
    split
    · rfl
    split <;> rfl
  | «end» session reason =>
    unfold ControllerRuntime.routeEffect
    dsimp only
    split
    · split <;> rfl
    · rfl
  | cancel request => rfl
  | prepare peer request => rfl

omit hJ in
/-- The effects of the router do not come back to it. -/
theorem routeEffects_router (c : ControllerRuntime) (actions : List ControllerAction)
    (effects : List RouteEffect) :
    (ControllerRuntime.routeEffects c actions effects).2.router = c.router := by
  induction effects generalizing c actions with
  | nil => rfl
  | cons effect effects ih =>
    have hone := routeEffect_router c effect
    unfold ControllerRuntime.routeEffects
    split
    · rename_i heq
      rwa [heq] at hone
    · rename_i heq
      rw [heq] at hone
      rw [ih, hone]

/-- **From the router to the controller**: every call but `begin`. -/
theorem exec (h : J c.router w) (call : ControllerCall)
    (hcall : ∀ peer display rev now, call ≠ .begin peer display rev now) :
    J (call.exec c w).2.1.router (call.exec c w).2.2 := by
  cases call with
  | begin peer display rev now => exact absurd rfl (hcall peer display rev now)
  | control frame nowMs => exact hJ.handleControl h frame nowMs
  | advance nowMs keysReleased =>
    have hadvance := hJ.advance c.router w nowMs keysReleased h
    show J (c.advance nowMs keysReleased w).2.1.router (c.advance nowMs keysReleased w).2.2
    unfold ControllerRuntime.advance
    split
    · rename_i heq
      rw [heq] at hadvance
      exact hadvance
    · rename_i effects router w' heq
      rw [heq] at hadvance
      dsimp only
      rw [routeEffects_router]
      exact hadvance
  | goLocal reason =>
    have hlocal := hJ.goLocal c.router w reason h
    show J (c.goLocal reason w).2.1.router (c.goLocal reason w).2.2
    unfold ControllerRuntime.goLocal
    dsimp only
    rw [routeEffects_router]
    exact hlocal
  | gameMode enabled => exact hJ.gameMode c.router w enabled h
  | nextInput event =>
    show J (c.nextInput event).2.router w
    unfold ControllerRuntime.nextInput
    split
    · exact h
    split
    · exact h
    split <;> exact h
  | nextMotion x y =>
    show J (c.nextMotion x y).2.router w
    unfold ControllerRuntime.nextMotion
    split
    · exact h
    split
    · exact h
    split <;> exact h
  | ping =>
    show J c.ping.2.router w
    unfold ControllerRuntime.ping
    split <;> exact h

/-- A `begin`, from an assertion which `goRemote` turns into this one. -/
theorem begin {J₀ : Router → World ν → Prop}
    (hremote : ∀ r w peer nowMs,
      J₀ r w → J (Router.goRemote r peer nowMs w).2.1 (Router.goRemote r peer nowMs w).2.2)
    (h : J₀ c.router w) (peerId targetDisplay : String) (layoutRevision nowMs : UInt64) :
    J (c.begin peerId targetDisplay layoutRevision nowMs w).2.1.router
      (c.begin peerId targetDisplay layoutRevision nowMs w).2.2 := by
  have hgone := hremote c.router w peerId nowMs h
  unfold ControllerRuntime.begin
  split
  · rename_i heq
    rw [heq] at hgone
    exact hgone
  · rename_i effects router w' heq
    rw [heq] at hgone
    dsimp only
    split
    · split
      · exact hgone
      · exact hJ.goLocal router w' .networkFailed hgone
    · exact hgone

end Routed

end Routed

/-! ### From the controller to the client -/

section Durable

variable {I : ControllerRuntime → World ClientNote → Prop}

/-- An assertion about the controller and the world, at a client. -/
abbrev At (I : ControllerRuntime → World ClientNote → Prop) (s : ClientSetting) : Prop :=
  I s.client.runtime s.world

/-- Neither a turn of the outside breaks the assertion, nor a note. -/
structure Stable (I : ControllerRuntime → World ClientNote → Prop) : Prop where
  pass : ∀ c w, I c w → I c w.pass.2
  note : ∀ c w n, I c w → I c (w.record (.note n))

/-- No call but `begin` breaks it either. -/
structure Durable (I : ControllerRuntime → World ClientNote → Prop) : Prop extends Stable I where
  call : ∀ c w (call : ControllerCall), (∀ peer display rev now, call ≠ .begin peer display rev now) → I c w →
    I (call.exec c w).2.1 (call.exec c w).2.2

theorem Stable.transportCall (hI : Stable I) (call : TransportCall) : Keeps (At I) (transportCall call) := by
  apply keeps_act
  intro s hs
  dsimp only
  split
  · exact hI.note _ _ _ (hI.pass _ _ hs)
  · exact hI.note _ _ _ (hI.pass _ _ hs)

theorem Stable.disconnect (hI : Stable I) : Keeps (At I) disconnect :=
  keeps_act fun _ hs => hI.note _ _ _ (hI.pass _ _ hs)

theorem setNextPing_keeps (nextPingMs : Option UInt64) : Keeps (At I) (setNextPing nextPingMs) :=
  keeps_act fun _ hs => hs

namespace Durable

variable (hI : Durable I)

include hI

theorem withRuntime (call : ControllerCall) (hcall : ∀ peer display rev now, call ≠ .begin peer display rev now) :
    Keeps (At I) (withRuntime fun c w => call.exec c w) :=
  keeps_act fun s hs => hI.call s.client.runtime s.world call hcall hs

theorem sendControls (actions : List ControllerAction) : Keeps (At I) (sendControls actions) := by
  induction actions with
  | nil => exact keeps_pure _
  | cons action actions ih =>
    cases action with
    | sendControl frame => exact (hI.transportCall _).bind fun _ => ih
    | openInput t => exact ih
    | closeInput => exact ih

theorem failTransport : Keeps (At I) failTransport := by
  refine (hI.withRuntime (.goLocal .networkFailed) (by simp)).bind fun answer => ?_
  have hrest : Keeps (At I) (do disconnect; setNextPing none) := hI.disconnect.bind fun _ => setNextPing_keeps none
  cases answer with
  | ok actions => exact (hI.sendControls actions).bind fun _ => hrest
  | error e => exact (keeps_pure ()).bind fun _ => hrest

theorem perform (action : ControllerAction) : Keeps (At I) (perform action) := by
  cases action with
  | sendControl frame => exact hI.transportCall _
  | openInput t => exact hI.transportCall _
  | closeInput => exact hI.disconnect.bind fun _ => keeps_pure _

theorem apply (actions : List ControllerAction) : Keeps (At I) (apply actions) := by
  induction actions with
  | nil => exact keeps_pure _
  | cons action actions ih =>
    refine (hI.perform action).bind fun answer => ?_
    cases answer with
    | error e => exact hI.failTransport.bind fun _ => keeps_throw _
    | ok u => exact ih

theorem pollPing (nowMs : UInt64) : Keeps (At I) (pollPing nowMs) := by
  refine keeps_get.bind fun s => ?_
  split
  · exact setNextPing_keeps none
  refine (setNextPing_keeps _).bind fun _ => ?_
  split
  · exact keeps_pure _
  refine Keeps.bind (keeps_act fun s hs => hI.call s.client.runtime s.world .ping (by simp) hs) fun answer => ?_
  cases answer with
  | error e => exact keeps_throw _
  | ok action => exact (hI.apply _).bind fun _ => setNextPing_keeps _

theorem takeFrame (nowMs : UInt64) : Keeps (At I) (takeFrame nowMs) := by
  refine Keeps.bind (keeps_act fun s hs => ?_) fun taken => ?_
  · unfold ControllerClient.tryRecv
    split <;> exact hs
  cases taken with
  | ok frame =>
    refine (hI.withRuntime (.control frame nowMs) (by simp)).bind fun answer => ?_
    refine Keeps.bind (keeps_act fun s hs => hI.note _ _ _ hs) fun _ => ?_
    cases answer with
    | error e => exact hI.disconnect.bind fun _ => keeps_throw _
    | ok actions => exact (hI.apply actions).bind fun _ => keeps_pure _
  | error e =>
    cases e with
    | empty => exact keeps_pure _
    | disconnected => exact hI.failTransport.bind fun _ => keeps_throw _

theorem drainRest (nowMs : UInt64) (n : ℕ) : Keeps (At I) (drainRest nowMs n) := by
  induction n with
  | zero => exact keeps_pure _
  | succ n ih =>
    refine (hI.takeFrame nowMs).bind fun more => ?_
    split
    · exact ih
    · exact keeps_pure _

theorem drain (nowMs : UInt64) (arrivals : List (List ControlFrame)) : Keeps (At I) (drain nowMs arrivals) := by
  induction arrivals with
  | nil => exact keeps_get.bind fun s => hI.drainRest nowMs _
  | cons arrived arrivals ih =>
    refine Keeps.bind (keeps_act fun s hs => ?_) fun _ => ?_
    · show I (arrived.foldl ControllerClient.offer s.client).runtime s.world
      rw [foldl_offer_runtime]
      exact hs
    refine (hI.takeFrame nowMs).bind fun more => ?_
    split
    · exact ih
    · exact keeps_pure _

theorem poll (nowMs : UInt64) (keysReleased : Bool) (arrivals : List (List ControlFrame)) :
    Keeps (At I) (poll nowMs keysReleased arrivals) := by
  refine Keeps.bind (keeps_act fun s hs => hs) fun overflowed => ?_
  -- `f` is what is done with the answer of the router
  have hdrained : ∀ f : Except ControllerRuntimeError (List ControllerAction) → ClientM Unit,
      (∀ e, f (.error e) = (do ControllerClient.failTransport; throw (.runtime e))) →
      (∀ actions, f (.ok actions) = (do ControllerClient.apply actions; ControllerClient.pollPing nowMs)) →
      Keeps (At I) (ControllerClient.drain nowMs arrivals >>= fun _ =>
        (ControllerClient.withRuntime fun c w => c.advance nowMs keysReleased w) >>= f) := by
    intro f herror hok
    refine (hI.drain nowMs arrivals).bind fun _ =>
      (hI.withRuntime (.advance nowMs keysReleased) (by simp)).bind fun answer => ?_
    cases answer with
    | error e =>
      rw [herror]
      exact hI.failTransport.bind fun _ => keeps_throw _
    | ok actions =>
      rw [hok]
      exact (hI.apply actions).bind fun _ => hI.pollPing nowMs
  cases overflowed with
  | true =>
    exact hI.failTransport.bind fun _ => (keeps_throw _).bind fun _ => hdrained _ (fun _ => rfl) fun _ => rfl
  | false => exact hdrained _ (fun _ => rfl) fun _ => rfl

theorem sendInput (event : CriticalEvent) : Keeps (At I) (sendInput event) := by
  refine Keeps.bind (keeps_act fun s hs =>
    hI.call s.client.runtime s.world (.nextInput event) (by simp) hs) fun answer => ?_
  cases answer with
  | error e => exact keeps_throw _
  | ok frame =>
    refine (hI.transportCall _).bind fun answer => ?_
    cases answer with
    | error e => exact hI.failTransport.bind fun _ => keeps_throw _
    | ok u => exact keeps_pure _

theorem sendMotion (x y : Int32) : Keeps (At I) (sendMotion x y) := by
  refine Keeps.bind (keeps_act fun s hs =>
    hI.call s.client.runtime s.world (.nextMotion x y) (by simp) hs) fun answer => ?_
  cases answer with
  | error e => exact keeps_throw _
  | ok frame =>
    refine (hI.transportCall _).bind fun answer => ?_
    cases answer with
    | error e => exact hI.failTransport.bind fun _ => keeps_throw _
    | ok u => exact keeps_pure _

theorem goLocal (reason : ReturnReason) : Keeps (At I) (goLocal reason) := by
  refine (hI.withRuntime (.goLocal reason) (by simp)).bind fun answer => ?_
  cases answer with
  | error e => exact keeps_throw _
  | ok actions => exact (hI.apply actions).bind fun _ => setNextPing_keeps none

/-- A `begin`, from an assertion which the controller's own one turns into this one. -/
theorem begin {I₀ : ControllerRuntime → World ClientNote → Prop} (hI₀ : Stable I₀)
    (hweaker : ∀ c w, I₀ c w → I c w) (hbegin : ∀ c w peer display rev now, I₀ c w →
      I (c.begin peer display rev now w).2.1 (c.begin peer display rev now w).2.2) (target : ControllerTarget)
    (nowMs : UInt64) {s : ClientSetting} (h : At I₀ s) : At I ((begin target nowMs).exec s).2 := by
  refine Ensures.always (Ensures.bind_get ?_)
  split
  · exact ensures_throw (hweaker _ _ h)
  refine Ensures.bind_act (Ensures.bind_act ?_)
  have hcall := hI₀.transportCall (.connect target)
    { s with client := { s.client with overflowed := false, inbound := [], nextPingMs := none } } h
  refine (hcall.mono (fun _ _ hs => hs) fun _ _ hs => hweaker _ _ hs).bind fun answer s' hs' => ?_
  cases answer with
  | error e => exact ensures_throw (hweaker _ _ hs')
  | ok u =>
    refine Ensures.bind_act ?_
    have hbegun :=
      hbegin s'.client.runtime s'.world target.peerId target.targetDisplay target.layoutRevision nowMs hs'
    dsimp only
    split
    · exact (hI.disconnect.bind fun _ => keeps_throw _) _ hbegun
    · exact ((hI.apply _).bind fun _ => hI.pollPing nowMs) _ hbegun

end Durable

end Durable

/-! ### Failing -/

/-- **A `begin` which fails** leaves the controller at home. -/
theorem begin_home {boot : BootId} {localPeerId : String} {s : ClientSetting} (h : Coherent boot localPeerId s)
    (hlocal : s.client.runtime.canBegin = true) (target : ControllerTarget) (nowMs : UInt64) :
    Ensures (begin target nowMs) s (fun _ _ => True) (fun _ s' => Settled boot localPeerId False .home s') := by
  obtain ⟨st, σ, hheld, hadmits⟩ := h
  have hclear : Held boot localPeerId False st σ
      { s with client := { s.client with overflowed := false, inbound := [], nextPingMs := none } } :=
        hheld.client rfl
  apply Ensures.bind_get
  rw [if_neg (by simp [hlocal])]
  obtain rfl : st = .home := hheld.fits.isLocal_iff.mp (by simpa [canBegin] using hlocal)
  refine Ensures.bind_act (Ensures.bind_act ?_)
  refine (transportCall_held hclear (.connect target) fun _ => rfl).bind fun answer s' h' => ?_
  cases answer with
  | error e => exact ensures_throw ⟨σ, h', hadmits⟩
  | ok u =>
    refine (withRuntime_held h' (.begin target.peerId target.targetDisplay target.layoutRevision nowMs)).bind ?_
    rintro answer s₂ ⟨st', hstep, hheld'⟩
    cases answer with
    | error e =>
      have hclose : Held boot localPeerId False .home σ s₂ →
          Ensures (do disconnect; throw (.runtime e) : ClientM Unit) s₂ (fun _ _ => True)
            (fun _ s' => Settled boot localPeerId False .home s') := fun hhome =>
        (disconnect_settled hhome (Standing.IsFree.not_acknowledged hadmits)).bind fun _ _ hs => ensures_throw hs
      cases hstep with
      | refused _ _ _ _ => exact hclose (hheld'.mono False.elim)
      | failed _ _ _ => exact hclose (hheld'.mono False.elim)
    | ok actions =>
      have hinactive : st'.activeSession = none := by
        cases hstep with
        | stays _ _ _ => rfl
        | begun _ _ => rfl
        | left hne _ _ _ => exact absurd rfl hne
      have happly : Ensures (ControllerClient.apply actions) s₂ _ (Failed boot localPeerId fun _ _ => False) :=
        apply_settled hheld' (hstep.hands (by simp) hadmits)
      refine (happly.mono (fun _ _ hs => hs) fun _ _ he => ?_).bind fun _ s₃ hs₃ => ?_
      · obtain ⟨σ', hheld₃, hadmits'⟩ := he.resolve_right (fun hfalse => hfalse.2)
        exact ⟨σ', hheld₃.mono False.elim, hadmits'⟩
      · -- a session which is not active is not pinged
        obtain ⟨σ', hheld₃, -⟩ := hs₃
        have hresting : s₃.client.runtime.isActive = false := by
          unfold ControllerRuntime.isActive
          rw [hheld₃.fits.activeSession, hinactive]
          rfl
        refine Ensures.bind_get ?_
        rw [if_pos (by simp [hresting])]
        exact ensures_act trivial

end MyKvm.Controller
