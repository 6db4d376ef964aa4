import MyKvm.Controller.Standing
import MyKvm.Controller.Coherence

/-!
# MyKvm.Controller.FailClosed — a control error gives the input back

* `handleControl_error`: a control frame which fails, whatever the controller was doing, leaves the input with the
  local machine, unless it is a `CommitAck` which finds nothing pending.
* `fails_closed`: so does every `poll` which fails, and every frame which the transport refuses; a stamp which
  fails changes nothing.
-/

namespace MyKvm.Controller

open MyKvm.Lib MyKvm.Protocol MyKvm.Routing ControllerRuntime Fallible ControllerClient

/-- Input is with the local machine. -/
structure InputIsLocal (c : ControllerRuntime) (gate : LocalOverride) : Prop where
  gate : gate.isLocal = true
  router : c.router.state.isLocal = true
  session : c.handshake.activeSession = none

section

variable {boot : BootId} {localPeerId : String}

theorem inputIsLocal_of_fits {c : ControllerRuntime} {gate : LocalOverride} (hfits : Fits boot localPeerId c .home)
    (hgate : gate.isLocal = true) : InputIsLocal c gate :=
  ⟨hgate, hfits.isLocal_iff.mpr rfl, hfits.activeSession⟩

theorem AtHome.inputIsLocal {s : ClientSetting} (h : AtHome boot localPeerId s) :
    InputIsLocal s.client.runtime s.world.gate :=
  let ⟨_, hheld, _⟩ := h
  inputIsLocal_of_fits hheld.fits (hheld.gate trivial)

/-- A `CommitAck` finds something pending. -/
def FindsPending (c : ControllerRuntime) (frame : ControlFrame) : Prop :=
  ∀ session, frame = .commitAck session → c.pendingRequest.isSome = true ∧ c.pendingSession.isSome = true

/-- **A control frame which fails** comes home, from every stage. -/
theorem handleControl_error {c : ControllerRuntime} {st : Stage} (h : Fits boot localPeerId c st)
    {frame : ControlFrame}
    (hpending : FindsPending c frame) (nowMs : UInt64) {ν : Type} (w : World ν) {e : ControllerRuntimeError}
    (he : (c.handleControl frame nowMs w).1 = .error e) :
    InputIsLocal (c.handleControl frame nowMs w).2.1 (c.handleControl frame nowMs w).2.2.gate := by
  obtain ⟨st', hstep, hfits⟩ := handleControl_steps h frame nowMs w
  rw [he] at hstep
  cases hstep with
  | rejected _ hgate => exact inputIsLocal_of_fits hfits hgate
  | refused _ hrefused _ _ =>
    obtain ⟨-, ⟨session, rfl⟩, hnone⟩ := hrefused frame nowMs rfl
    obtain ⟨hrequest, hsession⟩ := hpending session rfl
    have hstage := h.stage
    cases st with
    | home => simp [hstage.2.2.1] at hrequest
    | active s d => simp [hstage.2.2.1] at hrequest
    | awaitReady q d =>
      obtain ⟨p, -, -, -, -, -, hnothing, -⟩ := hstage
      simp [hnothing] at hrequest
    | ready q s d | committed q s d => simp [Stage.request, Stage.session] at hnone

end

/-- **The controller fails closed.**  In every state which a run of the controller reaches, a control frame which
fails leaves the gate and the router local and no session active, unless it is a `CommitAck` which finds nothing
pending.  In every run of the client, so does a `poll` which fails, unless it strays, and a frame which the
transport refuses; a frame which cannot be stamped changes nothing. -/
theorem fails_closed (localBoot : BootId) (localPeerId : String) :
    (∀ c, ControllerRuntime.newWithOverride localBoot localPeerId = .ok c →
      ∀ g moments entropy moves frame nowMs e,
      let s := run ControllerSetting.next (ControllerSetting.start c g moments entropy) moves
      FindsPending s.controller frame → (s.controller.handleControl frame nowMs s.world).1 = .error e →
      InputIsLocal (s.controller.handleControl frame nowMs s.world).2.1
        (s.controller.handleControl frame nowMs s.world).2.2.gate) ∧
    ∀ transport client, ControllerClient.newWithOverride transport localBoot localPeerId = .ok client →
      ∀ g moments entropy calls,
      let s := run ClientSetting.next (ClientSetting.start client g moments entropy) calls
      (∀ nowMs keysReleased arrivals e, ((poll nowMs keysReleased arrivals).exec s).1 = .error e →
        let s' := ((poll nowMs keysReleased arrivals).exec s).2
        InputIsLocal s'.client.runtime s'.world.gate ∨ Strays e s') ∧
      (∀ event e, ((sendInput event).exec s).1 = .error e →
        let s' := ((sendInput event).exec s).2
        (∃ error, e = .transport error) ∧ InputIsLocal s'.client.runtime s'.world.gate ∨
          (∃ error, e = .runtime error) ∧ s' = s) ∧
      ∀ x y e, ((sendMotion x y).exec s).1 = .error e →
        let s' := ((sendMotion x y).exec s).2
        (∃ error, e = .transport error) ∧ InputIsLocal s'.client.runtime s'.world.gate ∨
          (∃ error, e = .runtime error) ∧ s' = s := by
  constructor
  · intro c hnew g moments entropy moves frame nowMs e s hpending he
    obtain ⟨st, hfits, -, -⟩ : Invariant localBoot localPeerId s :=
      run_invariant (fun s m => next_fits s m) ⟨.home, newWithOverride_fits hnew, trivial, trivial⟩ moves
    exact handleControl_error hfits hpending nowMs s.world he
  · intro transport client hnew g moments entropy calls s
    obtain ⟨c, hc, rfl⟩ := newWithOverride_eq_ok hnew
    have hcoherent : Coherent localBoot localPeerId s :=
      run_invariant (fun s call => next_coherent s call)
        ⟨.home, .clear, ⟨newWithOverride_fits hc, False.elim, rfl⟩, trivial⟩ calls
    have hnotSent : ∀ e s', NotSent localBoot localPeerId s e s' →
        (∃ error, e = .transport error) ∧ InputIsLocal s'.client.runtime s'.world.gate ∨
          (∃ error, e = .runtime error) ∧ s' = s :=
      fun e s' h => h.imp (fun ⟨herror, hhome⟩ => ⟨herror, hhome.inputIsLocal⟩) id
    refine ⟨?_, ?_, ?_⟩
    · intro nowMs keysReleased arrivals e he
      exact ((poll_coherent hcoherent nowMs keysReleased arrivals).error he).imp AtHome.inputIsLocal And.right
    · intro event e he
      exact hnotSent e _ ((sendInput_coherent hcoherent event).error he)
    · intro x y e he
      exact hnotSent e _ ((sendMotion_coherent hcoherent x y).error he)

namespace Sample

def target : ControllerTarget := ⟨"mac", "10.0.0.2:4433", 2, "left", 1⟩

def client : ControllerClient :=
  { runtime := controller, transport := [], inbound := [], overflowed := false, nextPingMs := none }

/-- A handover up to the `Commit`. -/
def commits : List ClientCall := [.begin target 0, .offer (.ready 3 (boot 2) true "left" 1), .poll 0 true []]

/-- A whole handover. -/
def activates : List ClientCall := commits ++ [.offer (.commitAck session), .poll 2 true []]

def clientRun (calls : List ClientCall) : ClientSetting :=
  run ClientSetting.next (ClientSetting.start client ⟨1⟩ [] [some session.nonce]) calls

/-- A `Reject` waits for an active client. -/
def rejected : ClientSetting := clientRun (activates ++ [.offer (.reject "busy" "")])

end Sample

/-- An active client takes a `Reject`, and input comes back. -/
theorem fails_closed_reject :
    InputIsLocal ((poll 3 true []).exec Sample.rejected).2.client.runtime
      ((poll 3 true []).exec Sample.rejected).2.world.gate := by
  unfold Sample.rejected Sample.clientRun
  have hpoll := ((fails_closed (Sample.boot 1) "windows").2 [] Sample.client rfl ⟨1⟩ [] [some Sample.session.nonce]
    (Sample.activates ++ [.offer (.reject "busy" "")])).1 3 true [] (.runtime (.protocol .invalidTransition))
    (by decide +kernel)
  refine hpoll.resolve_right ?_
  rintro (⟨hnotActive, -⟩ | ⟨hexhausted, -⟩)
  · cases hnotActive
  · cases hexhausted

/-- A button before the first motion cannot be stamped; the session stays active, and the gate remote. -/
theorem not_fails_closed_stamp :
    ¬ ∀ e, ((sendInput (.button .left true 0 0 0)).exec (Sample.clientRun Sample.activates)).1 = .error e →
      InputIsLocal ((sendInput (.button .left true 0 0 0)).exec
        (Sample.clientRun Sample.activates)).2.client.runtime
        ((sendInput (.button .left true 0 0 0)).exec (Sample.clientRun Sample.activates)).2.world.gate := by
  intro h
  have hlocal := (h (.runtime (.protocol (.invalidField "motion_sequence"))) (by decide +kernel)).gate
  revert hlocal
  decide +kernel

end MyKvm.Controller
