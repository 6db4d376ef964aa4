import MyKvm.System.Run

/-!
# MyKvm.System.Agreement — both sides agree on the session and on its display

`Phase` says what is on its way between the two sides, and what the receiver has done, at each stage of the
controller. A `Prepare` with a fresh request is the last frame of its queue; when its `Ready` arrives, both queues
are empty and the receiver is prepared for nothing else; when its `CommitAck` arrives, the session is the newest
one which the receiver activated, and an active controller sends nothing which activates another.

`next_agrees`: every move keeps the phase.  `handshake_agreement` reads the agreement off it.
-/

namespace MyKvm.System

open MyKvm.Lib MyKvm.Protocol MyKvm.Routing
open MyKvm.Controller
  (Stage ControllerStep ControllerRuntime ControllerCall ControllerAction ControllerRuntimeError)
open MyKvm.Controller.ControllerRuntime (Fits)
open MyKvm.Receiver
  (ReceiverSessionRuntime ReceiverCall ReceiverDisplayLayout AuthenticatedPeer SessionRuntimeError
  ControlStep FadeStep)

/-- The request which a frame asks or answers for. -/
def requestOf : ControlFrame → Option UInt64
  | .prepare q _ _ | .ready q _ _ _ _ => some q
  | _ => none

/-- No frame is about the request. -/
def NoneFor (q : UInt64) (frames : List ControlFrame) : Prop := ∀ f ∈ frames, requestOf f ≠ some q

/-- The receiver is prepared for the request; its display is the one which was asked for, or gone. -/
def PreparedFor (q : UInt64) (d : String × UInt64) (r : ReceiverSessionRuntime) : Prop :=
  ∃ h boot, r.handshake = some h ∧ h.state = .prepared boot q ∧ r.activeSession = none ∧
    ∀ layout, r.preparedDisplay = some layout → displayKey layout = d

/-- The `Prepare` is the last frame on its way, or its `Ready` is, or neither is. -/
def AwaitsReady (q : UInt64) (d : String × UInt64) (s : Parties) : Prop :=
  (∃ older, s.toReceiver = older ++ [.prepare q d.1 d.2] ∧ NoneFor q older ∧ NoneFor q s.toController) ∨
  (s.toReceiver = [] ∧ NoneFor q s.toController) ∨
  ∃ older receiverBoot, s.toReceiver = [] ∧ s.toController = older ++ [.ready q receiverBoot true d.1 d.2] ∧
    NoneFor q older ∧ PreparedFor q d s.receiver

/-- The `Commit` is on its way, or its `CommitAck` is, or neither is. -/
def AwaitsAck (q : UInt64) (session : SessionId) (d : String × UInt64) (s : Parties) : Prop :=
  (s.toReceiver = [.commit q session] ∧ s.toController = [] ∧ PreparedFor q d s.receiver) ∨
  (s.toReceiver = [] ∧ .commitAck session ∉ s.toController) ∨
  (s.toReceiver = [] ∧ s.toController = [.commitAck session] ∧ s.activated.head? = some (session, some d))

/-- What is on its way at the stage of the controller. -/
def Phase (s : Parties) : Stage → Prop
  | .home => True
  | .awaitReady q d => AwaitsReady q d s
  | .ready q _ d => s.toReceiver = [] ∧ s.toController = [] ∧ PreparedFor q d s.receiver
  | .committed q session d => AwaitsAck q session d s
  | .active session d =>
    (∀ f ∈ s.toReceiver, ∃ pinged sequence, f = .ping pinged sequence) ∧ s.activated.head? = some (session, some d)

/-- What holds at every stage: the requests on their way were reserved before, and the active session of the
receiver is the newest one it activated. -/
structure Sound (boot : BootId) (localPeerId : String) (s : Parties) (st : Stage) : Prop where
  fits : Fits boot localPeerId s.controller st
  coherent : Receiver.Coherent s.receiver
  newest : ∀ session, s.receiver.activeSession = some session → s.activated.head?.map Prod.fst = some session
  stale : ∀ f ∈ s.toReceiver ++ s.toController, ∀ q, requestOf f = some q → q.toNat / 2 ≤ s.world.gate.generation

section Steps

variable {boot : BootId} {localPeerId : String} {s : Parties} {st st' : Stage}

theorem NoneFor.tail {q : UInt64} {f : ControlFrame} {frames : List ControlFrame} (h : NoneFor q (f :: frames)) :
    NoneFor q frames := fun g hg => h g (List.mem_cons_of_mem _ hg)

theorem NoneFor.append {q : UInt64} {a b : List ControlFrame} (ha : NoneFor q a) (hb : NoneFor q b) :
    NoneFor q (a ++ b) :=
  fun f hf => (List.mem_append.mp hf).elim (ha f) (hb f)

theorem noneFor_nil (q : UInt64) : NoneFor q [] := by simp [NoneFor]

theorem noneFor_reject (q : UInt64) (code detail : String) : NoneFor q [.reject code detail] := by
  simp [NoneFor, requestOf]

/-- The phase reads the channels, the receiver and what it activated. -/
theorem Phase.congr {s' : Parties} (h : Phase s st) (hto : s'.toReceiver = s.toReceiver)
    (hback : s'.toController = s.toController) (hreceiver : s'.receiver = s.receiver)
    (hactivated : s'.activated = s.activated) : Phase s' st := by
  cases st with
  | home => trivial
  | _ => simpa only [Phase, AwaitsReady, AwaitsAck, hto, hback, hreceiver, hactivated] using h

/-! ### The controller -/

/-- An answer which the controller has taken is not missed. -/
theorem Phase.dropAnswer {f : ControlFrame} {rest : List ControlFrame} (h : Phase s st)
    (htaken : s.toController = f :: rest) :
    Phase { s with toController := rest } st := by
  cases st with
  | home => trivial
  | active session d => exact h
  | ready q session d =>
    obtain ⟨-, hnone, -⟩ := h
    cases htaken.symm.trans hnone
  | awaitReady q d =>
    rcases h with ⟨older, hto, holder, hnone⟩ | ⟨hto, hnone⟩ | ⟨older, receiverBoot, hto, hback, holder, hprepared⟩
    · exact Or.inl ⟨older, hto, holder, (htaken ▸ hnone).tail⟩
    · exact Or.inr (Or.inl ⟨hto, (htaken ▸ hnone).tail⟩)
    · cases older with
      | nil =>
        obtain ⟨rfl, rfl⟩ := List.cons_eq_cons.mp (htaken.symm.trans hback)
        exact Or.inr (Or.inl ⟨hto, noneFor_nil q⟩)
      | cons g older =>
        obtain ⟨rfl, rfl⟩ := List.cons_eq_cons.mp (htaken.symm.trans hback)
        exact Or.inr (Or.inr ⟨older, receiverBoot, hto, rfl, holder.tail, hprepared⟩)
  | committed q session d =>
    rcases h with ⟨-, hback, -⟩ | ⟨hto, hnone⟩ | ⟨hto, hback, -⟩
    · cases htaken.symm.trans hback
    · exact Or.inr (Or.inl ⟨hto, fun hmem => hnone (htaken ▸ List.mem_cons_of_mem _ hmem)⟩)
    · obtain ⟨rfl, rfl⟩ := List.cons_eq_cons.mp (htaken.symm.trans hback)
      exact Or.inr (Or.inl ⟨hto, by simp⟩)

theorem farewell_sent (reason : String) (st : Stage) (f : ControlFrame)
    (hf : f ∈ sentFrames (.ok (st.farewell reason))) :
    requestOf f = none := by
  cases st with
  | active session d =>
    obtain rfl : f = .endSession session reason := by simpa [sentFrames, Stage.farewell] using hf
    rfl
  | _ => simp [sentFrames, Stage.farewell] at hf

/-- A request which is sent was reserved before. -/
theorem sent_stale {w w' : World Unit} {call : ControllerCall}
    {answer : Except ControllerRuntimeError (List ControllerAction)}
    (hstep : ControllerStep boot localPeerId w st call (answer, st', w')) {f : ControlFrame}
    (hf : f ∈ sentFrames answer) {q : UInt64} (hq : requestOf f = some q) : q.toNat / 2 ≤ w'.gate.generation := by
  cases hstep with
  | stays _ _ _ | refused _ _ _ _ | failed _ _ _ | readied _ | rejected _ _ | returned _ _ =>
      simp [sentFrames] at hf
  | opened _ => simp [sentFrames] at hf
  | pinged | committed _ | ackFailed _ _ =>
    obtain rfl := List.mem_singleton.mp hf
    cases hq
  | begun hreserves hdrift =>
    rcases List.mem_cons.mp hf with rfl | hf
    · cases hq
    · obtain rfl := List.mem_singleton.mp hf
      obtain rfl := Option.some.inj hq
      exact hreserves.fresh.2.trans hdrift.generation_le
  | left _ _ _ _ =>
    rw [farewell_sent _ _ f hf] at hq
    cases hq

theorem afterCall_sound (h : Sound boot localPeerId s st) (call : ControllerCall) :
    ∃ st' answer w', ControllerStep boot localPeerId s.world st call (answer, st', w') ∧
      (s.afterCall call).toReceiver = s.toReceiver ++ sentFrames answer ∧
      Sound boot localPeerId (s.afterCall call) st' := by
  obtain ⟨st', hstep, hfits⟩ := Controller.exec_steps h.fits call s.world
  refine ⟨st', _, _, hstep, rfl, hfits, h.coherent, h.newest, ?_⟩
  intro f hf q hq
  have hmem : f ∈ s.toReceiver ++ s.toController ∨ f ∈ sentFrames (call.exec s.controller s.world).1 := by
    have hf' : f ∈ (s.toReceiver ++ sentFrames (call.exec s.controller s.world).1) ++ s.toController := hf
    simp only [List.mem_append] at hf' ⊢
    tauto
  rcases hmem with hold | hnew
  · exact (h.stale f hold q hq).trans hstep.generation_le
  · exact sent_stale hstep hnew hq

/-- A fresh request: nothing on its way is about it. -/
theorem noneFor_fresh (h : Sound boot localPeerId s st) {q : UInt64}
    (hfresh : s.world.gate.generation < q.toNat / 2)
    {frames : List ControlFrame} (hframes : ∀ f ∈ frames, f ∈ s.toReceiver ++ s.toController) :
    NoneFor q frames := by
  intro f hf hq
  have := h.stale f (hframes f hf) q hq
  omega

/-- **A call of the controller** keeps the phase. -/
theorem call_phase (h : Sound boot localPeerId s st) {w' : World Unit} {call : ControllerCall}
    {answer : Except ControllerRuntimeError (List ControllerAction)}
    (hstep : ControllerStep boot localPeerId s.world st call (answer, st', w'))
    (hcall : ∀ frame nowMs, call ≠ .control frame nowMs) (hphase : Phase s st) :
    Phase { s with toReceiver := s.toReceiver ++ sentFrames answer } st' := by
  have hsilent : sentFrames answer = [] → Phase { s with toReceiver := s.toReceiver ++ sentFrames answer } st := by
    intro hnone
    rw [hnone, List.append_nil]
    exact hphase
  cases hstep with
  | stays _ _ _ => exact hsilent rfl
  | refused _ _ _ _ => exact hsilent rfl
  | failed _ _ _ | returned _ _ | left _ _ _ _ => trivial
  | pinged =>
    obtain ⟨hpings, hnewest⟩ := hphase
    refine ⟨fun f hf => (List.mem_append.mp hf).elim (hpings f) fun hf => ?_, hnewest⟩
    exact ⟨_, _, List.mem_singleton.mp hf⟩
  | begun hreserves _ =>
    rename_i targetDisplay layoutRevision nowMs q w₁
    refine Or.inl ⟨s.toReceiver ++ [.hello boot localPeerId .controller requiredCapabilities], ?_, ?_, ?_⟩
    · simp [sentFrames]
    · refine (noneFor_fresh h hreserves.fresh.1 fun f hf => List.mem_append_left _ hf).append ?_
      simp [NoneFor, requestOf]
    · exact noneFor_fresh h hreserves.fresh.1 fun f hf => List.mem_append_right _ hf
  | committed _ =>
    obtain ⟨hto, hback, hprepared⟩ := hphase
    exact Or.inl ⟨by rw [hto]; rfl, hback, hprepared⟩
  | readied _ => exact absurd rfl (hcall _ _)
  | opened _ => exact absurd rfl (hcall _ _)
  | ackFailed _ _ => exact absurd rfl (hcall _ _)
  | rejected _ _ => exact absurd rfl (hcall _ _)

/-- **A frame which the controller takes** keeps the phase. -/
theorem took_phase {w' : World Unit} {f : ControlFrame} {rest : List ControlFrame} {nowMs : UInt64}
    {answer : Except ControllerRuntimeError (List ControllerAction)}
    (hstep : ControllerStep boot localPeerId s.world st (.control f nowMs) (answer, st', w'))
    (htaken : s.toController = f :: rest) (hphase : Phase s st) :
    Phase { s with toController := rest, toReceiver := s.toReceiver ++ sentFrames answer } st' := by
  have hsilent : sentFrames answer = [] →
      Phase { s with toController := rest, toReceiver := s.toReceiver ++ sentFrames answer } st := by
    intro hnone
    rw [hnone, List.append_nil]
    exact hphase.dropAnswer htaken
  cases hstep with
  | stays _ _ _ => exact hsilent rfl
  | refused _ _ _ _ => exact hsilent rfl
  | rejected _ _ | ackFailed _ _ | left _ _ _ _ => trivial
  | readied _ =>
    rename_i q session d
    -- the `Ready` of this request is the last frame of its queue
    rcases hphase with ⟨older, -, -, hnone⟩ | ⟨-, hnone⟩ | ⟨older, receiverBoot, hto, hback, holder, hprepared⟩
    · exact absurd rfl (hnone _ (htaken ▸ List.mem_cons_self))
    · exact absurd rfl (hnone _ (htaken ▸ List.mem_cons_self))
    · cases older with
      | nil =>
        obtain ⟨-, rfl⟩ := List.cons_eq_cons.mp (htaken.symm.trans hback)
        exact ⟨by rw [hto]; rfl, rfl, hprepared⟩
      | cons g older =>
        obtain ⟨rfl, -⟩ := List.cons_eq_cons.mp (htaken.symm.trans hback)
        exact absurd rfl (holder _ List.mem_cons_self)
  | opened _ =>
    rename_i q session d
    rcases hphase with ⟨-, hback, -⟩ | ⟨-, hnone⟩ | ⟨hto, -, hnewest⟩
    · cases htaken.symm.trans hback
    · exact absurd (htaken ▸ List.mem_cons_self) hnone
    · refine ⟨?_, hnewest⟩
      simp [hto, sentFrames]

/-! ### The receiver -/

variable {r r' : ReceiverSessionRuntime} {debug : SessionRuntimeError → String}

theorem PreparedFor.fade {q : UInt64} {d : String × UInt64} (h : PreparedFor q d r) (hfade : FadeStep r r') :
    PreparedFor q d r' := by
  obtain ⟨hs, boot, hh, hstate, hnone, hdisplay⟩ := h
  cases hfade with
  | kept _ _ hprepared hh' hactive _ _ =>
    refine ⟨hs, boot, hh'.trans hh, hstate, hactive.trans hnone, ?_⟩
    intro layout hlayout
    rcases hprepared with hsame | hgone
    · exact hdisplay layout (hsame.symm.trans hlayout)
    · cases hgone.symm.trans hlayout
  | lost _ _ _ _ hactive _ _ _ => cases hnone.symm.trans hactive

theorem Phase.receiver (h : Phase s st) (hprepared : ∀ q d, PreparedFor q d s.receiver → PreparedFor q d r') :
    Phase { s with receiver := r' } st := by
  cases st with
  | home => trivial
  | active session d => exact h
  | ready q session d => exact ⟨h.1, h.2.1, hprepared q d h.2.2⟩
  | awaitReady q d =>
    refine h.imp id (Or.imp id ?_)
    rintro ⟨older, receiverBoot, hto, hback, holder, hwas⟩
    exact ⟨older, receiverBoot, hto, hback, holder, hprepared q d hwas⟩
  | committed q session d =>
    refine h.imp ?_ id
    rintro ⟨hto, hback, hwas⟩
    exact ⟨hto, hback, hprepared q d hwas⟩

/-- Only a `Prepare` is answered by a `Ready`. -/
theorem response_request {f g : ControlFrame} {peer : AuthenticatedPeer} {nowMs : UInt64}
    {answer : Except SessionRuntimeError (Option ControlFrame)} (hstep : ControlStep r f peer nowMs (answer, r'))
    (hg : g ∈ responseFrames debug answer) {q : UInt64} (hq : requestOf g = some q) : requestOf f = some q := by
  have hreject : ∀ e, g ∈ responseFrames debug (.error e) → requestOf f = some q := by
    intro e hmem
    obtain rfl := List.mem_singleton.mp hmem
    cases hq
  have hreleased : ∀ answer : Except SessionRuntimeError Unit,
    g ∈ responseFrames debug (answer.map fun _ => none) →
      requestOf f = some q := by
    intro answer hmem
    cases answer with
    | error e => exact hreject e hmem
    | ok u => simp [responseFrames, Except.map] at hmem
  cases hstep with
  | refused _ _ | helloFailed _ _ | helloRefused _ _ | unready _ _ | unknownLayout _ _ _ | prepareRefused _ _ _ _ _
  | commitRefused _ _ _ _ => exact hreject _ hg
  | greeted _ _ => simp [responseFrames] at hg
  | prepared _ _ _ _ _ =>
    obtain rfl : g = _ := by simpa [responseFrames] using hg
    exact hq
  | activated _ _ _ _ _ _ _ | recommitted _ _ | ponged _ _ _ =>
    obtain rfl : g = _ := by simpa [responseFrames] using hg
    cases hq
  | ended _ _ _ _ | endedIdle _ _ _ _ _ => exact hreleased _ hg

/-- Only a `Commit` activates a session. -/
theorem noteActivation_eq {f : ControlFrame} {peer : AuthenticatedPeer} {nowMs : UInt64}
    {answer : Except SessionRuntimeError (Option ControlFrame)} (hstep : ControlStep r f peer nowMs (answer, r'))
    (hf : ∀ q session, f ≠ .commit q session) (activated : List (SessionId × Option (String × UInt64))) :
    noteActivation r r' activated = activated := by
  have hkept : r'.activeSession = r.activeSession → noteActivation r r' activated = activated := by
    intro hsame
    unfold noteActivation
    rw [hsame]
    cases r.activeSession <;> simp
  cases hstep with
  | refused _ _ | unready _ _ | unknownLayout _ _ _ | prepareRefused _ _ _ _ _ | prepared _ _ _ _ _ =>
      exact hkept rfl
  | helloFailed _ hrelease | helloRefused _ hrelease | greeted _ hrelease => exact hkept hrelease.activeSession
  | endedIdle _ _ _ _ hrelease => exact hkept hrelease.activeSession
  | ended _ _ _ hrelease =>
    have hnone : r'.activeSession = none := hrelease.activeSession
    simp [noteActivation, hnone]
  | ponged _ _ _ => exact hkept (Receiver.touch_activeSession _ _)
  | activated _ _ _ _ _ _ _ => exact absurd rfl (hf _ _)
  | commitRefused _ _ _ _ => exact absurd rfl (hf _ _)
  | recommitted _ _ => exact absurd rfl (hf _ _)

/-- What the receiver notes is the newest session it activated. -/
theorem noteActivation_newest {activated : List (SessionId × Option (String × UInt64))}
    (h : ∀ session, r.activeSession = some session → activated.head?.map Prod.fst = some session)
    (session : SessionId) (hactive : r'.activeSession = some session) :
    (noteActivation r r' activated).head?.map Prod.fst = some session := by
  unfold noteActivation
  rw [hactive]
  dsimp only
  split
  · rename_i hsame
    exact h session hsame
  · rfl

/-- **A `Prepare` which arrives last** is answered by its `Ready`, or by nothing about its request. -/
theorem prepare_answered (hc : Receiver.Coherent s.receiver) {q nowMs : UInt64} {d : String × UInt64}
    {answer : Except SessionRuntimeError (Option ControlFrame)}
    (hstep : ControlStep s.receiver (.prepare q d.1 d.2) s.peer nowMs (answer, r'))
    (hnone : NoneFor q s.toController) {activated : List (SessionId × Option (String × UInt64))} :
    AwaitsReady q d { s with
      toReceiver := [], receiver := r', toController := s.toController ++ responseFrames debug answer,
        activated } := by
  have hreject : ∀ e, answer = .error e → AwaitsReady q d { s with
      toReceiver := [], receiver := r', toController := s.toController ++ responseFrames debug answer,
        activated } := by
    rintro e rfl
    exact Or.inr (Or.inl ⟨rfl, hnone.append (noneFor_reject q _ _)⟩)
  cases hstep with
  | refused _ _ => exact hreject _ rfl
  | unready _ _ => exact hreject _ rfl
  | unknownLayout _ _ _ => exact hreject _ rfl
  | prepareRefused _ _ _ _ _ => exact hreject _ rfl
  | prepared _ _ hfind hh hawaits =>
    refine Or.inr (Or.inr ⟨s.toController, _, rfl, rfl, hnone, _, _, rfl, rfl, ?_, ?_⟩)
    · exact hc.activeSession_eq_none hh hawaits.not_active
    · rintro layout' ⟨⟩
      obtain ⟨hdisplay, hrev⟩ := Receiver.Watched.findLayout_eq_some hfind
      exact Prod.ext hdisplay hrev

/-- **A `Commit` which arrives at the prepared receiver** activates its session on the
prepared display, or nothing. -/
theorem commit_answered {q nowMs : UInt64} {session : SessionId} {d : String × UInt64}
    {answer : Except SessionRuntimeError (Option ControlFrame)}
    (hstep : ControlStep s.receiver (.commit q session) s.peer nowMs (answer, r')) (hback : s.toController = [])
    (hprepared : PreparedFor q d s.receiver) :
    AwaitsAck q session d { s with
      toReceiver := [], receiver := r', toController := s.toController ++ responseFrames debug answer
      activated := noteActivation s.receiver r' s.activated } := by
  have hreject : ∀ e, answer = .error e → AwaitsAck q session d { s with
      toReceiver := [], receiver := r', toController := s.toController ++ responseFrames debug answer
      activated := noteActivation s.receiver r' s.activated } := by
    rintro e rfl
    refine Or.inr (Or.inl ⟨rfl, ?_⟩)
    simp [hback, responseFrames]
  obtain ⟨h, receiverBoot, hh, hstate, hnone, hdisplay⟩ := hprepared
  cases hstep with
  | refused _ _ => exact hreject _ rfl
  | commitRefused _ _ _ _ => exact hreject _ rfl
  | recommitted _ hactive => cases hnone.symm.trans hactive
  | activated _ _ _ _ hsome _ _ =>
    obtain ⟨layout, hlayout⟩ := Option.isSome_iff_exists.mp hsome
    refine Or.inr (Or.inr ⟨rfl, by simp [hback, responseFrames], ?_⟩)
    have hkey := hdisplay layout hlayout
    simp [noteActivation, Receiver.activeIn, Receiver.withHandshake, hnone, hlayout, hkey]

/-- **A frame which the receiver takes** keeps the phase. -/
theorem frame_phase (hc : Receiver.Coherent s.receiver) {f : ControlFrame} {rest : List ControlFrame}
    {nowMs : UInt64} {answer : Except SessionRuntimeError (Option ControlFrame)} (hhead : s.toReceiver = f :: rest)
    (hstep : ControlStep s.receiver f s.peer nowMs (answer, r')) (hphase : Phase s st) :
    Phase { s with
      toReceiver := rest, receiver := r', toController := s.toController ++ responseFrames debug answer
      activated := noteActivation s.receiver r' s.activated } st := by
  cases st with
  | home => trivial
  | ready q session d =>
    obtain ⟨hto, -⟩ := hphase
    cases hhead.symm.trans hto
  | awaitReady q d =>
    rcases hphase with ⟨older, hto, holder, hnone⟩ | ⟨hto, -⟩ | ⟨older, receiverBoot, hto, -⟩
    · cases older with
      | nil =>
        obtain ⟨rfl, rfl⟩ := List.cons_eq_cons.mp (hhead.symm.trans hto)
        exact prepare_answered hc hstep hnone
      | cons g older =>
        obtain ⟨rfl, rfl⟩ := List.cons_eq_cons.mp (hhead.symm.trans hto)
        refine Or.inl ⟨older, rfl, holder.tail, hnone.append ?_⟩
        exact fun response hresponse hq => holder f List.mem_cons_self (response_request hstep hresponse hq)
    · cases hhead.symm.trans hto
    · cases hhead.symm.trans hto
  | committed q session d =>
    rcases hphase with ⟨hto, hback, hprepared⟩ | ⟨hto, -⟩ | ⟨hto, -⟩
    · obtain ⟨rfl, rfl⟩ := List.cons_eq_cons.mp (hhead.symm.trans hto)
      exact commit_answered hstep hback hprepared
    · cases hhead.symm.trans hto
    · cases hhead.symm.trans hto
  | active session d =>
    obtain ⟨hpings, hnewest⟩ := hphase
    obtain ⟨pinged, sequence, rfl⟩ := hpings f (hhead ▸ List.mem_cons_self)
    refine ⟨fun g hg => hpings g (hhead ▸ List.mem_cons_of_mem _ hg), ?_⟩
    exact (congrArg List.head? (noteActivation_eq hstep (by simp) s.activated)).trans hnewest

/-- A frame which is refused on the way keeps the phase. -/
theorem refused_phase {f : ControlFrame} {rest response : List ControlFrame} (hhead : s.toReceiver = f :: rest)
    (hresponse : ∀ g ∈ response, ∃ code detail, g = .reject code detail) (hphase : Phase s st) :
    Phase { s with toReceiver := rest, toController := s.toController ++ response } st := by
  have hnoneFor : ∀ q, NoneFor q response := by
    intro q g hg
    obtain ⟨code, detail, rfl⟩ := hresponse g hg
    simp [requestOf]
  cases st with
  | home => trivial
  | ready q session d =>
    obtain ⟨hto, -⟩ := hphase
    cases hhead.symm.trans hto
  | awaitReady q d =>
    rcases hphase with ⟨older, hto, holder, hnone⟩ | ⟨hto, -⟩ | ⟨older, receiverBoot, hto, -⟩
    · cases older with
      | nil =>
        obtain ⟨rfl, rfl⟩ := List.cons_eq_cons.mp (hhead.symm.trans hto)
        exact Or.inr (Or.inl ⟨rfl, hnone.append (hnoneFor q)⟩)
      | cons g older =>
        obtain ⟨rfl, rfl⟩ := List.cons_eq_cons.mp (hhead.symm.trans hto)
        exact Or.inl ⟨older, rfl, holder.tail, hnone.append (hnoneFor q)⟩
    · cases hhead.symm.trans hto
    · cases hhead.symm.trans hto
  | committed q session d =>
    rcases hphase with ⟨hto, hback, -⟩ | ⟨hto, -⟩ | ⟨hto, -⟩
    · obtain ⟨rfl, rfl⟩ := List.cons_eq_cons.mp (hhead.symm.trans hto)
      refine Or.inr (Or.inl ⟨rfl, ?_⟩)
      rw [hback, List.nil_append]
      intro hmem
      obtain ⟨code, detail, heq⟩ := hresponse _ hmem
      cases heq
    · cases hhead.symm.trans hto
    · cases hhead.symm.trans hto
  | active session d =>
    obtain ⟨hpings, hnewest⟩ := hphase
    exact ⟨fun g hg => hpings g (hhead ▸ List.mem_cons_of_mem _ hg), hnewest⟩

/-- A lost connection keeps the phase. -/
theorem reconnect_phase (hphase : Phase s st) (peer : AuthenticatedPeer) :
    Phase { s with peer, toReceiver := [], toController := [] } st := by
  cases st with
  | home => trivial
  | ready q session d => exact ⟨rfl, rfl, hphase.2.2⟩
  | awaitReady q d => exact Or.inr (Or.inl ⟨rfl, noneFor_nil q⟩)
  | committed q session d => exact Or.inr (Or.inl ⟨rfl, by simp⟩)
  | active session d => exact ⟨by simp, hphase.2⟩

end Steps

/-! ### Runs -/

/-- What holds between the moves. -/
def Agrees (boot : BootId) (localPeerId : String) (s : Parties) : Prop :=
  ∃ st, Sound boot localPeerId s st ∧ Phase s st

section Runs

variable {boot : BootId} {localPeerId : String} {debug : SessionRuntimeError → String}

theorem Agrees.controller (h : Agrees boot localPeerId s) (call : ControllerCall) :
    Agrees boot localPeerId (s.next debug (.controller call)) := by
  obtain ⟨st, hsound, hphase⟩ := h
  by_cases hcontrol : ∃ frame nowMs, call = .control frame nowMs
  · obtain ⟨frame, nowMs, rfl⟩ := hcontrol
    exact ⟨st, hsound, hphase⟩
  · push Not at hcontrol
    have hnext : s.next debug (.controller call) = s.afterCall call := by
      cases call with
      | control frame nowMs => exact absurd rfl (hcontrol frame nowMs)
      | _ => rfl
    rw [hnext]
    obtain ⟨st', answer, w', hstep, hto, hsound'⟩ := afterCall_sound hsound call
    exact ⟨st', hsound', (call_phase hsound hstep hcontrol hphase).congr hto rfl rfl rfl⟩

theorem Agrees.controllerTakes (h : Agrees boot localPeerId s) (nowMs : UInt64) :
    Agrees boot localPeerId (s.next debug (.controllerTakes nowMs)) := by
  obtain ⟨st, hsound, hphase⟩ := h
  unfold Parties.next
  cases htaken : s.toController with
  | nil => exact ⟨st, hsound, hphase⟩
  | cons f rest =>
    have hrest : Sound boot localPeerId { s with toController := rest } st := by
      refine ⟨hsound.fits, hsound.coherent, hsound.newest, fun g hg => hsound.stale g ?_⟩
      rw [htaken]
      rcases List.mem_append.mp hg with hg | hg
      · exact List.mem_append_left _ hg
      · exact List.mem_append_right _ (List.mem_cons_of_mem _ hg)
    obtain ⟨st', answer, w', hstep, hto, hsound'⟩ := afterCall_sound hrest (.control f nowMs)
    exact ⟨st', hsound', (took_phase (s := s) hstep htaken hphase).congr hto rfl rfl rfl⟩

/-- What the receiver answers is for the request of the frame. -/
theorem Agrees.receiverTakes (h : Agrees boot localPeerId s) (nowMs : UInt64) :
    Agrees boot localPeerId (s.next debug (.receiverTakes nowMs)) := by
  obtain ⟨st, hsound, hphase⟩ := h
  unfold Parties.next
  cases hhead : s.toReceiver with
  | nil => exact ⟨st, hsound, hphase⟩
  | cons f rest =>
    have hstep := Receiver.handleControlAt_cases hsound.coherent f s.peer nowMs
    refine ⟨st, ⟨hsound.fits, Receiver.next_coherent _ (.control f s.peer nowMs) hsound.coherent,
      noteActivation_newest hsound.newest, ?_⟩, frame_phase hsound.coherent hhead hstep hphase⟩
    intro g hg q hq
    have hg' : g ∈ rest ∨ g ∈ s.toController ∨
        g ∈ responseFrames debug (s.receiver.handleControlAt f s.peer nowMs).1 := by
      simpa [Parties.afterFrame] using hg
    rcases hg' with hg' | hg' | hg'
    · exact hsound.stale g (by simp [hhead, hg']) q hq
    · exact hsound.stale g (by simp [hg']) q hq
    · exact hsound.stale f (by simp [hhead]) q (response_request hstep hg' hq)

/-- A frame which is refused outright is answered by a `Reject`, or not at all. -/
theorem Agrees.receiverRefuses (h : Agrees boot localPeerId s) (answer : Option (String × String)) :
    Agrees boot localPeerId (s.next debug (.receiverRefuses answer)) := by
  obtain ⟨st, hsound, hphase⟩ := h
  unfold Parties.next
  cases hhead : s.toReceiver with
  | nil => exact ⟨st, hsound, hphase⟩
  | cons f rest =>
    have hreject : ∀ g ∈ (answer.map fun text => ControlFrame.reject text.1 text.2).toList,
        ∃ code detail, g = .reject code detail := by
      cases answer with
      | none => simp
      | some text =>
        intro g hg
        exact ⟨text.1, text.2, by simpa using hg⟩
    refine ⟨st, ⟨hsound.fits, hsound.coherent, hsound.newest, ?_⟩, refused_phase hhead hreject hphase⟩
    intro g hg q hq
    rcases List.mem_append.mp hg with hg | hg
    · exact hsound.stale g (by simp [hhead, hg]) q hq
    rcases List.mem_append.mp hg with hg | hg
    · exact hsound.stale g (by simp [hg]) q hq
    · obtain ⟨code, detail, rfl⟩ := hreject g hg
      cases hq

theorem Agrees.receiver (h : Agrees boot localPeerId s) (call : ReceiverCall) :
    Agrees boot localPeerId (s.next debug (.receiver call)) := by
  obtain ⟨st, hsound, hphase⟩ := h
  by_cases hcontrol : ∃ frame peer nowMs, call = .control frame peer nowMs
  · obtain ⟨frame, peer, nowMs, rfl⟩ := hcontrol
    exact ⟨st, hsound, hphase⟩
  · push Not at hcontrol
    have hnext : s.next debug (.receiver call) = { s with receiver := s.receiver.next call } := by
      cases call with
      | control frame peer nowMs => exact absurd rfl (hcontrol frame peer nowMs)
      | _ => rfl
    rw [hnext]
    have hfade := Receiver.next_fades hsound.coherent hcontrol
    refine ⟨st, ⟨hsound.fits, Receiver.next_coherent _ call hsound.coherent, ?_, hsound.stale⟩,
      hphase.receiver fun q d hprepared => hprepared.fade hfade⟩
    intro session hactive
    cases hfade with
    | kept _ _ _ _ hsame _ _ => exact hsound.newest session (hsame.symm.trans hactive)
    | lost _ _ _ _ _ _ hnone _ => cases hnone.symm.trans hactive

theorem Agrees.requestLocal (h : Agrees boot localPeerId s) :
    Agrees boot localPeerId (s.next debug .requestLocal) := by
  obtain ⟨st, hsound, hphase⟩ := h
  refine ⟨st, ⟨hsound.fits, hsound.coherent, hsound.newest, fun f hf q hq => ?_⟩, hphase.congr rfl rfl rfl rfl⟩
  exact (hsound.stale f hf q hq).trans s.world.requestLocal_drifts.generation_le

theorem Agrees.reconnect (h : Agrees boot localPeerId s) (peer : AuthenticatedPeer) :
    Agrees boot localPeerId (s.next debug (.reconnect peer)) := by
  obtain ⟨st, hsound, hphase⟩ := h
  exact ⟨st, ⟨hsound.fits, hsound.coherent, hsound.newest, by simp [Parties.next]⟩, reconnect_phase hphase peer⟩

theorem next_agrees (s : Parties) (move : PartyMove) (h : Agrees boot localPeerId s) :
    Agrees boot localPeerId (s.next debug move) := by
  cases move with
  | controller call => exact h.controller call
  | controllerTakes nowMs => exact h.controllerTakes nowMs
  | receiverTakes nowMs => exact h.receiverTakes nowMs
  | receiverRefuses answer => exact h.receiverRefuses answer
  | receiver call => exact h.receiver call
  | requestLocal => exact h.requestLocal
  | reconnect peer => exact h.reconnect peer

/-- What an active controller stamps on a motion. -/
theorem nextMotion_stamps {c : ControllerRuntime} {session : SessionId} {d : String × UInt64} {x y : Int32}
    {frame : MotionFrame} (hactive : c.handshake.activeSession = some session) (hdisplay : c.display = some d)
    (hframe : (c.nextMotion x y).1 = .ok frame) :
    frame.sessionId = session ∧ (frame.displayId, frame.layoutRevision) = d := by
  unfold ControllerRuntime.nextMotion at hframe
  rw [hactive, hdisplay] at hframe
  dsimp only at hframe
  split at hframe
  · cases hframe
  · cases hframe
    exact ⟨rfl, rfl⟩

/-- **Handshake agreement.**  In every run, whenever the controller is remote with a token: it is active in a
session with this token, the receiver has activated this session, and no other one since; every motion which the
controller stamps is for this session, on the display with which the receiver activated it; and if the receiver is
active too, it is in the same session, so never in a newer one. -/
theorem handshake_agreement (localBoot : BootId) (localPeerId : String) (c : ControllerRuntime)
    (hnew : ControllerRuntime.newWithOverride localBoot localPeerId = .ok c) (receiverBoot : BootId)
    (injector : Injector) (displayLayouts : List ReceiverDisplayLayout) (peer : AuthenticatedPeer)
    (debug : SessionRuntimeError → String) (g : LocalOverride) (moments : List Moment)
    (entropy : List (Option (Vector UInt8 16))) (moves : List PartyMove) :
    let s := run (Parties.next debug) (Parties.start c
      (ReceiverSessionRuntime.newWithDisplayLayouts receiverBoot injector displayLayouts) peer g moments
        entropy) moves
    ∀ remote token, s.controller.router.state = .remoteActive remote token →
      ∃ session display, s.controller.handshake.state = .active session ∧ Controller.sessionToken session = token ∧
        s.activated.head? = some (session, some display) ∧
        (∀ x y frame, (s.controller.nextMotion x y).1 = .ok frame →
          frame.sessionId = session ∧ (frame.displayId, frame.layoutRevision) = display) ∧
        ∀ other, s.receiver.activeSession = some other → other = session := by
  intro s remote token hremote
  have hstart : Agrees localBoot localPeerId (Parties.start c
      (ReceiverSessionRuntime.newWithDisplayLayouts receiverBoot injector displayLayouts) peer g
        moments entropy) :=
    ⟨.home, ⟨Controller.newWithOverride_fits hnew, Receiver.newWithDisplayLayouts_coherent _ _ _,
      by simp [Parties.start, ReceiverSessionRuntime.newWithDisplayLayouts], by simp [Parties.start]⟩, trivial⟩
  obtain ⟨st, hsound, hphase⟩ : Agrees localBoot localPeerId s :=
    run_invariant (fun s move => next_agrees s move) hstart moves
  have hstage := hsound.fits.stage
  cases st with
  | home =>
    have hlocal := hstage.1
    rw [hremote] at hlocal
    cases hlocal
  | awaitReady q d | ready q session d | committed q session d =>
    obtain ⟨p, hpreparing, -⟩ := hstage
    cases hremote.symm.trans hpreparing
  | active session d =>
    obtain ⟨⟨remote', hremote'⟩, hstate, -, -, hdisplay⟩ := hstage
    cases hremote.symm.trans hremote'
    obtain ⟨-, hnewest⟩ := hphase
    refine ⟨session, d, hstate, rfl, hnewest, ?_, ?_⟩
    · intro x y frame hframe
      exact nextMotion_stamps (Controller.ControllerHandshake.activeSession_eq_some.mpr hstate) hdisplay hframe
    · intro other hother
      have hfirst := hsound.newest other hother
      rw [hnewest] at hfirst
      exact (Option.some.inj hfirst).symm

end Runs

namespace Sample

/-- A handover, frame by frame. -/
def handover : List PartyMove :=
  [.controller (.begin "mac" "left" 1 0), .receiverTakes 0, .receiverTakes 0, .controllerTakes 0,
    .controller (.advance 1 true), .receiverTakes 1, .controllerTakes 2]

def joined : Parties :=
  run (Parties.next fun _ => "")
    (Parties.start Controller.Sample.controller Receiver.Sample.receiver Receiver.Sample.peer ⟨1⟩
    [] [some Controller.Sample.session.nonce]) handover

end Sample

/-- After a whole handover the receiver has activated the session of the controller. -/
theorem handshake_agreement_handover :
    ∃ session display, Sample.joined.controller.handshake.state = .active session ∧
      Sample.joined.activated.head? = some (session, some display) := by
  have hremote : Sample.joined.controller.router.state =
      .remoteActive "mac" (Controller.sessionToken Controller.Sample.session) := by decide +kernel
  obtain ⟨session, display, hstate, -, hnewest, -⟩ := handshake_agreement (Controller.Sample.boot 1) "windows"
    Controller.Sample.controller rfl (Receiver.Sample.boot 2) _ _ Receiver.Sample.peer (fun _ => "") ⟨1⟩ []
    [some Controller.Sample.session.nonce] Sample.handover "mac" _ hremote
  exact ⟨session, display, hstate, hnewest⟩

end MyKvm.System
