import MyKvm.Controller.Stages
import MyKvm.Lib.Machine

/-!
# MyKvm.Controller.Coherence — the parts of the controller agree after every call

Runs of the controller: any calls, any frames, any port answers, any random bytes, and `request_local` anywhere.
The log notes every action which a call asks for.

* `next_fits`: after every call the controller is at a stage.
* `Story`: what the stage says about the log, and `InOrder`: every input stream was asked for after the draw of its
  session, its `Commit` and an active capture, in this order, and with no other one in between.
* `controller_coherence`: the two together.
-/

namespace MyKvm.Controller

open MyKvm.Lib MyKvm.Protocol MyKvm.Routing ControllerRuntime

/-- A call, or an emergency between the calls. -/
inductive ControllerMove where
  | call (c : ControllerCall)
  | requestLocal
  deriving DecidableEq

/-- The controller in its world. -/
structure ControllerSetting where
  controller : ControllerRuntime
  world : World ControllerAction
  deriving DecidableEq

/-- Notes the actions, first to last. -/
def noteActions (w : World ControllerAction) (actions : List ControllerAction) : World ControllerAction :=
  { w with log := (actions.map Event.note).reverse ++ w.log }

/-- The actions of an answer; an error asks for none. -/
def actionsOf : Except ControllerRuntimeError (List ControllerAction) → List ControllerAction
  | .ok actions => actions
  | .error _ => []

namespace ControllerSetting

def next (s : ControllerSetting) : ControllerMove → ControllerSetting
  | .call c =>
    let (answer, controller, world) := c.exec s.controller s.world
    { controller, world := noteActions world (actionsOf answer) }
  | .requestLocal => { s with world := s.world.requestLocal }

def start (c : ControllerRuntime) (g : LocalOverride) (moments : List Moment)
    (entropy : List (Option (Vector UInt8 16))) : ControllerSetting :=
  { controller := c, world := World.start g moments entropy }

end ControllerSetting

/-! ### The story of an input stream -/

/-- The log of the controller. -/
abbrev ControllerLog := List (Event ControllerAction)

/-- No input stream is asked for. -/
def NoOpens (log : ControllerLog) : Prop := ∀ s, .note (.openInput s) ∉ log

/-- The session was drawn, and no input stream asked for since. -/
def Drawn (s : SessionId) (log : ControllerLog) : Prop :=
  ∃ recent old, log = recent ++ .randomFilled (some s.nonce) :: old ∧ NoOpens recent

/-- The session was committed to, after it was drawn. -/
def Committed (q : UInt64) (s : SessionId) (log : ControllerLog) : Prop :=
  ∃ recent old, log = recent ++ .note (.sendControl (.commit q s)) :: old ∧ NoOpens recent ∧ Drawn s old

/-- Capture was activated, after the session was committed to. -/
def Opening (s : SessionId) (log : ControllerLog) : Prop :=
  ∃ q recent old, log = recent ++ .activateCapture (.ok ()) :: old ∧ NoOpens recent ∧ Committed q s old

/-- Every input stream was asked for in order. -/
def InOrder : ControllerLog → Prop
  | [] => True
  | e :: log => InOrder log ∧ ∀ s, e = .note (.openInput s) → Opening s log

/-- What the stage says about the log. -/
def Story (log : ControllerLog) : Stage → Prop
  | .ready _ s _ => Drawn s log
  | .committed q s _ => Committed q s log
  | _ => True

section Story

theorem NoOpens.append {a b : ControllerLog} (ha : NoOpens a) (hb : NoOpens b) : NoOpens (a ++ b) := by
  intro s hmem
  exact (List.mem_append.mp hmem).elim (ha s) (hb s)

theorem noOpens_of_harmless {recent : ControllerLog} (h : World.Harmless recent) : NoOpens recent :=
  fun _ hmem => h _ hmem

theorem Drawn.grow {s : SessionId} {log recent : ControllerLog} (h : Drawn s log) (hnone : NoOpens recent) :
    Drawn s (recent ++ log) := by
  obtain ⟨newer, old, rfl, hnewer⟩ := h
  exact ⟨recent ++ newer, old, by rw [List.append_assoc], hnone.append hnewer⟩

theorem Committed.grow {q : UInt64} {s : SessionId} {log recent : ControllerLog} (h : Committed q s log)
    (hnone : NoOpens recent) : Committed q s (recent ++ log) := by
  obtain ⟨newer, old, rfl, hnewer, hdrawn⟩ := h
  exact ⟨recent ++ newer, old, by rw [List.append_assoc], hnone.append hnewer, hdrawn⟩

theorem Story.grow {log recent : ControllerLog} {st : Stage} (h : Story log st) (hnone : NoOpens recent) :
    Story (recent ++ log) st := by
  cases st with
  | ready q s d => exact Drawn.grow h hnone
  | committed q s d => exact Committed.grow h hnone
  | _ => trivial

theorem InOrder.grow {log recent : ControllerLog} (h : InOrder log) (hnone : NoOpens recent) :
    InOrder (recent ++ log) := by
  induction recent with
  | nil => exact h
  | cons e recent ih =>
    refine ⟨ih (fun s hmem => hnone s (List.mem_cons_of_mem _ hmem)), ?_⟩
    rintro s rfl
    exact absurd List.mem_cons_self (hnone s)

theorem InOrder.opening {s : SessionId} {recent old : ControllerLog}
    (h : InOrder (recent ++ .note (.openInput s) :: old)) :
    Opening s old := by
  induction recent with
  | nil => exact h.2 s rfl
  | cons e recent ih => exact ih h.1

theorem InOrder.suffix {recent old : ControllerLog} (h : InOrder (recent ++ old)) : InOrder old := by
  induction recent with
  | nil => exact h
  | cons e recent ih => exact ih h.1

/-- **At most once for each draw**: no session is opened more often than its nonce was drawn. -/
theorem InOrder.count_le (s : SessionId) (log : ControllerLog) (h : InOrder log) :
    log.count (.note (.openInput s)) ≤ log.count (.randomFilled (some s.nonce)) := by
  by_cases hmem : .note (.openInput s) ∈ log
  · obtain ⟨newer, rest, hlog, hnewer⟩ := List.eq_append_cons_of_mem hmem
    subst hlog
    obtain ⟨q, a, rest₁, rfl, ha, b, rest₂, rfl, hb, d, old, rfl, hd⟩ := h.opening
    -- no other stream was asked for between the draw and this one
    have hle := InOrder.count_le s old h.suffix.1.suffix.1.suffix.1.suffix.1
    have hcount : ∀ {l : ControllerLog}, NoOpens l → l.count (.note (.openInput s)) = 0 :=
      fun hnone => List.count_eq_zero_of_not_mem (hnone s)
    simp [List.count_append, List.count_eq_zero_of_not_mem hnewer, hcount ha, hcount hb, hcount hd]
    omega
  · rw [List.count_eq_zero_of_not_mem hmem]
    exact Nat.zero_le _
termination_by log.length

/-! ### One call -/

/-- The log after a drift and the notes of the actions, none of which opens an input stream. -/
theorem drifts_log {w w' : World ControllerAction} (hdrift : w.Drifts w') {actions : List ControllerAction}
    (hactions : ∀ s, .openInput s ∉ actions) :
    ∃ recent, (noteActions w' actions).log = recent ++ w.log ∧ NoOpens recent := by
  obtain ⟨recent, hharm, hext⟩ := hdrift
  refine ⟨(actions.map Event.note).reverse ++ recent, ?_, NoOpens.append ?_ (noOpens_of_harmless hharm)⟩
  · simp [noteActions, hext.log]
  · intro s hmem
    simp only [List.mem_reverse, List.mem_map] at hmem
    obtain ⟨action, hmem, heq⟩ := hmem
    cases heq
    exact hactions s hmem

theorem reserves_log {n : UInt64} {w w₁ w' : World ControllerAction} (hreserves : w.Reserves n w₁)
    (hdrift : w₁.Drifts w') {actions : List ControllerAction} (hactions : ∀ s, .openInput s ∉ actions) :
    ∃ recent, (noteActions w' actions).log = recent ++ w.log ∧ NoOpens recent := by
  obtain ⟨recent, hlog, hnone⟩ := drifts_log hdrift hactions
  obtain ⟨old, hharm, hext⟩ := hreserves
  refine ⟨recent ++ .reserved n :: old, by simp [hlog, hext.log], hnone.append ?_⟩
  intro s hmem
  rcases List.mem_cons.mp hmem with heq | hmem
  · cases heq
  · exact noOpens_of_harmless hharm s hmem

theorem farewell_opens_none (reason : String) (st : Stage) (s : SessionId) :
    .openInput s ∉ st.farewell reason := by
  cases st <;> simp [Stage.farewell]

variable {boot : BootId} {localPeerId : String}

/-- **One call** keeps the order, and moves the story with the stage. -/
theorem ControllerStep.story {w w' : World ControllerAction} {st st' : Stage} {call : ControllerCall}
    {answer : Except ControllerRuntimeError (List ControllerAction)}
    (hstep : ControllerStep boot localPeerId w st call (answer, st', w')) (horder : InOrder w.log)
    (hstory : Story w.log st) :
    InOrder (noteActions w' (actionsOf answer)).log ∧ Story (noteActions w' (actionsOf answer)).log st' := by
  have hquiet : (∃ recent, (noteActions w' (actionsOf answer)).log = recent ++ w.log ∧ NoOpens recent) →
      InOrder (noteActions w' (actionsOf answer)).log ∧ Story (noteActions w' (actionsOf answer)).log st := by
    rintro ⟨recent, hlog, hnone⟩
    rw [hlog]
    exact ⟨horder.grow hnone, hstory.grow hnone⟩
  cases hstep with
  | stays hdrift _ _ => exact hquiet (drifts_log hdrift (by simp [actionsOf]))
  | pinged => exact hquiet (drifts_log (World.Drifts.refl w) (by simp [actionsOf]))
  | refused hdrift _ _ _ => exact hquiet (drifts_log hdrift (by simp [actionsOf]))
  | failed hreserves hdrift _ => exact hquiet (reserves_log hreserves hdrift (by simp [actionsOf]))
  | begun hreserves hdrift => exact ⟨(hquiet (reserves_log hreserves hdrift (by simp [actionsOf]))).1, trivial⟩
  | ackFailed hdrift _ => exact ⟨(hquiet (drifts_log hdrift (by simp [actionsOf]))).1, trivial⟩
  | rejected hdrift _ => exact ⟨(hquiet (drifts_log hdrift (by simp [actionsOf]))).1, trivial⟩
  | left _ _ hdrift _ => exact ⟨(hquiet (drifts_log hdrift (farewell_opens_none _ st))).1, trivial⟩
  | returned hdrift _ => exact ⟨(hquiet (drifts_log hdrift (by simp [actionsOf]))).1, trivial⟩
  | readied hdraws =>
    refine ⟨(hquiet (drifts_log hdraws.drifts (by simp [actionsOf]))).1, ?_⟩
    obtain ⟨recent, hharm, hmem, hext⟩ := hdraws
    obtain ⟨newer, older, rfl⟩ := List.append_of_mem hmem
    refine ⟨newer, older ++ w.log, by simp [noteActions, actionsOf, hext.log], ?_⟩
    exact fun s' hmem' => noOpens_of_harmless hharm s' (List.mem_append_left _ hmem')
  | committed hdrift =>
    refine ⟨(hquiet (drifts_log hdrift (by simp [actionsOf]))).1, ?_⟩
    obtain ⟨recent, hharm, hext⟩ := hdrift
    refine ⟨[], recent ++ w.log, by simp [noteActions, actionsOf, hext.log], by simp [NoOpens], ?_⟩
    exact Drawn.grow hstory (noOpens_of_harmless hharm)
  | opened hcaptures =>
    rename_i q nowMs s d
    obtain ⟨recent, hharm, hmem, hext, -⟩ := hcaptures
    have hlog : (noteActions w' [.openInput s]).log = .note (.openInput s) ::
      (.activated q :: recent ++ w.log) := by
      simp [noteActions, hext.log]
    have hnone : NoOpens (.activated q :: recent) := by
      intro s' hmem'
      rcases List.mem_cons.mp hmem' with heq | hmem'
      · cases heq
      · exact noOpens_of_harmless hharm s' hmem'
    refine ⟨?_, trivial⟩
    rw [actionsOf, hlog]
    refine ⟨horder.grow hnone, ?_⟩
    rintro s' heq
    cases heq
    obtain ⟨newer, older, rfl⟩ := List.append_of_mem hmem
    refine ⟨q, .activated q :: newer, older ++ w.log, by simp, ?_, Committed.grow hstory ?_⟩
    · exact fun s' hmem' => hnone s' (by
        rcases List.mem_cons.mp hmem' with heq | hmem'
        · cases heq
        · exact List.mem_cons_of_mem _ (List.mem_append_left _ hmem'))
    · exact fun s' hmem' => noOpens_of_harmless hharm s' (List.mem_append_right _ (List.mem_cons_of_mem _ hmem'))

end Story

/-! ### Runs -/

/-- What holds of a controller and its world between the calls. -/
def Invariant (boot : BootId) (localPeerId : String) (s : ControllerSetting) : Prop :=
  ∃ st, Fits boot localPeerId s.controller st ∧ InOrder s.world.log ∧ Story s.world.log st

theorem newWithOverride_fits {localBoot : BootId} {localPeerId : String} {c : ControllerRuntime}
    (hnew : newWithOverride localBoot localPeerId = .ok c) : Fits localBoot localPeerId c .home := by
  unfold newWithOverride at hnew
  cases hh : ControllerHandshake.new localBoot localPeerId with
  | error e =>
    rw [hh] at hnew
    cases hnew
  | ok h =>
    rw [hh] at hnew
    obtain rfl := Except.ok.inj hnew
    obtain ⟨_, hboot, hrest⟩ := bind_eq_ok.mp hh
    obtain ⟨_, _, heq⟩ := bind_eq_ok.mp hrest
    obtain rfl := Except.ok.inj heq
    exact fits_home ⟨refuseIf_eq_ok.mp hboot, rfl, rfl⟩ rfl (Or.inl rfl) rfl rfl rfl rfl

theorem next_fits {boot : BootId} {localPeerId : String} (s : ControllerSetting) (m : ControllerMove)
    (h : Invariant boot localPeerId s) : Invariant boot localPeerId (s.next m) := by
  obtain ⟨st, hfits, horder, hstory⟩ := h
  cases m with
  | requestLocal =>
    have hnone : NoOpens [Event.requestLocal] := by simp [NoOpens]
    exact ⟨st, hfits, horder.grow hnone, hstory.grow hnone⟩
  | call call =>
    obtain ⟨st', hstep, hfits'⟩ := exec_steps hfits call s.world
    obtain ⟨horder', hstory'⟩ := hstep.story horder hstory
    exact ⟨st', hfits', horder', hstory'⟩

/-- **Controller coherence.**  After every call of every run: the router is remote with a token exactly when the
handshake is active in a session with this token; a local router has a resting handshake, nothing pending and fresh
sequences; a request is pending only while the router prepares; and every input stream was asked for after the draw
of its session, its `Commit` and an active capture, in this order, so at most once for each draw of the session. -/
theorem controller_coherence (localBoot : BootId) (localPeerId : String) (c : ControllerRuntime)
    (hnew : newWithOverride localBoot localPeerId = .ok c) (g : LocalOverride) (moments : List Moment)
    (entropy : List (Option (Vector UInt8 16))) (moves : List ControllerMove) :
    let s := run ControllerSetting.next (ControllerSetting.start c g moments entropy) moves
    (∀ token, (∃ peer, s.controller.router.state = .remoteActive peer token) ↔
      ∃ session, s.controller.handshake.state = .active session ∧ sessionToken session = token) ∧
    (s.controller.router.state.isLocal = true →
      (s.controller.handshake.state = .idle ∨ s.controller.handshake.state = .ended) ∧
      s.controller.pendingRequest = none ∧ s.controller.pendingSession = none ∧
      s.controller.inputSequence = 0 ∧ s.controller.motionSequence = 0) ∧
    (∀ q, s.controller.pendingRequest = some q → ∃ p, s.controller.router.state = .preparingRemote p) ∧
    (∀ session recent old, s.world.log = recent ++ .note (.openInput session) :: old → Opening session old) ∧
    ∀ session, s.world.log.count (.note (.openInput session)) ≤
      s.world.log.count (.randomFilled (some session.nonce)) := by
  intro s
  obtain ⟨st, hfits, horder, -⟩ : Invariant localBoot localPeerId s :=
    run_invariant (fun s m => next_fits s m) ⟨.home, newWithOverride_fits hnew, trivial, trivial⟩ moves
  have hstage := hfits.stage
  refine ⟨?_, ?_, ?_, ?_, fun session => horder.count_le session _⟩
  · intro token
    constructor
    · rintro ⟨peer, hrouter⟩
      cases st with
      | active session d =>
        obtain ⟨⟨peer', hrouter'⟩, hstate, -⟩ := hstage
        cases hrouter.symm.trans hrouter'
        exact ⟨session, hstate, rfl⟩
      | home => simp [Matches, hrouter] at hstage
      | awaitReady q d | ready q session d | committed q session d => simp [Matches, hrouter] at hstage
    · rintro ⟨session, hstate, rfl⟩
      obtain ⟨d, rfl⟩ := hfits.of_active hstate
      exact hstage.1
  · intro hlocal
    obtain rfl := hfits.isLocal_iff.mp hlocal
    exact hstage.2
  · intro q hpending
    cases st with
    | home => cases hstage.2.2.1.symm.trans hpending
    | active session d => cases hstage.2.2.1.symm.trans hpending
    | awaitReady q' d | ready q' session d | committed q' session d =>
      obtain ⟨p, hrouter, -⟩ := hstage
      exact ⟨p, hrouter⟩
  · intro session recent old hlog
    rw [hlog] at horder
    exact horder.opening

namespace Sample

def boot (n : UInt8) : BootId := ⟨Vector.replicate 16 n⟩

def session : SessionId := ⟨boot 1, boot 2, Vector.replicate 16 7⟩

def controller : ControllerRuntime :=
  { router := Router.withGate, handshake := ⟨boot 1, "windows", .idle, 0, 0, 0⟩, pendingRequest := none,
    pendingSession := none, inputSequence := 0, motionSequence := 0, display := none }

/-- A handover, from the default gate to the acknowledgement. -/
def handover : List ControllerMove :=
  [.call (.begin "mac" "left" 1 0), .call (.control (.ready 3 (boot 2) true "left" 1) 0), .call (.advance 1 true),
    .call (.control (.commitAck session) 2)]

def setting : ControllerSetting := ControllerSetting.start controller ⟨1⟩ [] [some session.nonce]

end Sample

/-- A whole handover: its input stream was asked for in order. -/
theorem controller_coherence_handover :
    Opening Sample.session (run ControllerSetting.next Sample.setting Sample.handover).world.log.tail :=
  (controller_coherence (Sample.boot 1) "windows" Sample.controller rfl ⟨1⟩ [] [some Sample.session.nonce]
    Sample.handover).2.2.2.1 Sample.session [] _ (by decide)

end MyKvm.Controller
