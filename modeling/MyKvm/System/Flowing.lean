import MyKvm.Receiver.Atomic
import MyKvm.System.Stream

/-!
# MyKvm.System.Flowing — a session which goes on

`Flowing` is what holds while the session goes on: what is on its way fits the counters of both sides (`Flight`),
and each frame on its way passes every check of the receiver which does not read a counter.  The moves of the
parties and the stamps keep it, and so do the arrivals, which are accepted.

A motion may be off the display, unless it is said to be on it (`onDisplay`): then it is refused, and changes
nothing.
-/

namespace MyKvm.System

open MyKvm.Lib MyKvm.Protocol MyKvm.Routing
open MyKvm.Controller (Stage ControllerRuntime ControllerCall LeftOr stampPart)
open MyKvm.Controller.ControllerRuntime (Fits)
open MyKvm.Receiver
  (ReceiverSessionRuntime ReceiverCall ReceiverDisplayLayout criticalMotionSnapshot Coherent Lockstep
  OwnSession Glides streamPart Admitted)

/-- The numbers of the frames on their way. -/
def wireNumbers : Feed.Numbers CriticalFrame MotionFrame where
  number frame := frame.sequence.toNat
  mark frame := (criticalMotionSnapshot frame.event).elim 0 (·.1.toNat)
  stamp frame := frame.sequence.toNat
  needs frame := frame.requiredReliableSequence.toNat

/-- The reliable frame passes the checks which read no counter. -/
structure FrameFits (session : SessionId) (r : ReceiverSessionRuntime) (frame : CriticalFrame) : Prop where
  session : frame.sessionId = session
  valid : validateCritical frame = .ok ()
  inRange : eventInRange r frame.event = true

/-- The motion frame passes the checks which read no counter. -/
structure MotionFits (onDisplay : Prop) (session : SessionId) (r : ReceiverSessionRuntime)
    (frame : MotionFrame) : Prop where
  session : frame.sessionId = session
  display : r.activeDisplay.map displayKey = some (frame.displayId, frame.layoutRevision)
  sequence : frame.sequence ≠ 0
  inRange : onDisplay → r.inRange frame.x frame.y = true

/-- What is on its way, between the counters of both sides. -/
structure OnTheWay (onDisplay : Prop) (session : SessionId) (c : ControllerRuntime) (r : ReceiverSessionRuntime)
    (reliable : List CriticalFrame) (motions : List MotionFrame) : Prop where
  flight : Feed.Flight wireNumbers reliable motions c.inputSequence.toNat c.motionSequence.toNat
    r.highestAppliedSequence.toNat r.highestMotionSequence.toNat
  caught : r.highestAppliedSequence.toNat + reliable.length = c.inputSequence.toNat ∨
    (reliable = [] ∧ c.inputSequence = u64Max)
  reliableFits : ∀ frame ∈ reliable, FrameFits session r frame
  motionsFit : ∀ frame ∈ motions, MotionFits onDisplay session r frame
  pending : ∀ frame, r.pendingMotion = some frame → frame ∈ motions ∧ r.inRange frame.x frame.y = true

structure Flowing (onDisplay : Prop) (boot : BootId) (localPeerId : String) (session : SessionId)
    (s : Stream) : Prop where
  fits : ∃ d, Fits boot localPeerId s.parties.controller (.active session d)
  coherent : Coherent s.parties.receiver
  lockstep : Lockstep s.parties.receiver
  own : OwnSession s.parties.receiver
  inSession : InSession session s.parties
  display : s.parties.receiver.activeDisplay.map displayKey = s.parties.controller.display
  succeeds : s.parties.receiver.injector.Succeeds
  onTheWay : OnTheWay onDisplay session s.parties.controller s.parties.receiver s.reliable s.motions

/-- **The session goes on**, and the events are on the display; the motions too, where `onDisplay` says so. -/
def Proceeds (onDisplay : Prop) (debug : Receiver.SessionRuntimeError → String) (session : SessionId) (s : Stream)
    (move : StreamMove) : Prop :=
  match move with
  | .party _ => InSession session (s.next debug move).parties
  | .input event => eventInRange s.parties.receiver event = true ∧ InSession session (s.next debug move).parties
  | .motion x y => (onDisplay → s.parties.receiver.inRange x y = true) ∧
      InSession session (s.next debug move).parties
  | .deliver _ | .deliverMotion _ _ => True

theorem Goes.proceeds {onDisplay : Prop} {debug : Receiver.SessionRuntimeError → String}
    {session : SessionId} {s : Stream}
    {move : StreamMove} (h : Goes debug session s move) : Proceeds onDisplay debug session s move := by
  cases move with
  | motion x y => exact ⟨fun _ => h.1, h.2⟩
  | _ => exact h

/-! ### What is on its way -/

section OnTheWay

variable {onDisplay : Prop} {session : SessionId} {c c' : ControllerRuntime} {r r' : ReceiverSessionRuntime}
  {reliable : List CriticalFrame} {motions : List MotionFrame}

theorem inRange_congr (h : r'.activeDisplay = r.activeDisplay) (x y : Int32) : r'.inRange x y = r.inRange x y := by
  simp [ReceiverSessionRuntime.inRange, ReceiverSessionRuntime.mapActivePointer, h]

theorem FrameFits.congr {frame : CriticalFrame} (hf : FrameFits session r frame)
    (h : r'.activeDisplay = r.activeDisplay) : FrameFits session r' frame := by
  refine ⟨hf.session, hf.valid, ?_⟩
  have hrange := hf.inRange
  simp only [eventInRange, inRange_congr h] at hrange ⊢
  exact hrange

theorem MotionFits.congr {frame : MotionFrame} (hf : MotionFits onDisplay session r frame)
    (h : r'.activeDisplay = r.activeDisplay) : MotionFits onDisplay session r' frame :=
  ⟨hf.session, by rw [h]; exact hf.display, hf.sequence, by rw [inRange_congr h]; exact hf.inRange⟩

/-- The controller goes on stamping as before. -/
theorem OnTheWay.congr (h : OnTheWay onDisplay session c r reliable motions) (hsame : stampPart c' = stampPart c) :
    OnTheWay onDisplay session c' r reliable motions := by
  simp only [stampPart, Prod.mk.injEq] at hsame
  obtain ⟨-, hinput, hmotion, -⟩ := hsame
  refine ⟨?_, ?_, h.reliableFits, h.motionsFit, h.pending⟩
  · rw [hinput, hmotion]
    exact h.flight
  · rw [hinput]
    exact h.caught

/-- The receiver goes on; a motion which it shows was sent, and the input it requires was taken. -/
theorem OnTheWay.glides {motion : Option MotionFrame} (h : OnTheWay onDisplay session c r reliable motions)
    (hglides : Glides motion r r')
    (hmotion : ∀ frame, motion = some frame → frame ∈ motions ∧ r.inRange frame.x frame.y = true) :
    OnTheWay onDisplay session c r' reliable motions := by
  have hsame := hglides.same
  simp only [streamPart, Prod.mk.injEq] at hsame
  obtain ⟨-, -, -, hdisplay, -, happlied⟩ := hsame
  refine ⟨?_, ?_, fun frame hf => (h.reliableFits frame hf).congr hdisplay,
    fun frame hf => (h.motionsFit frame hf).congr hdisplay, ?_⟩
  · rw [happlied]
    rcases hglides.shown with heq | ⟨frame, hframe, hneeds, heq⟩
    · rw [heq]
      exact h.flight
    · rw [heq]
      exact h.flight.shown (hmotion frame hframe).1 (UInt64.le_iff_toNat_le.mp hneeds)
  · rw [happlied]
    exact h.caught
  · intro frame hpending
    rw [inRange_congr hdisplay]
    rcases hglides.pending frame hpending with hold | hnew
    · exact h.pending frame hold
    · exact hmotion frame hnew

/-- The receiver took the frame at the head. -/
theorem OnTheWay.take {frame : CriticalFrame} (h : OnTheWay onDisplay session c r (frame :: reliable) motions)
    (happlied : r'.highestAppliedSequence = frame.sequence)
    (hmotion : r'.highestMotionSequence.toNat = max r.highestMotionSequence.toNat (wireNumbers.mark frame))
    (hdisplay : r'.activeDisplay = r.activeDisplay) (hpending : r'.pendingMotion = r.pendingMotion) :
    OnTheWay onDisplay session c r' reliable motions := by
  have hnumber : frame.sequence.toNat = r.highestAppliedSequence.toNat + 1 := h.flight.head.1
  refine ⟨?_, Or.inl ?_, ?_, fun f hf => (h.motionsFit f hf).congr hdisplay, ?_⟩
  · have htake := h.flight.take
    rw [← hnumber, ← happlied, ← hmotion] at htake
    exact htake
  · rcases h.caught with hcaught | ⟨hnone, -⟩
    · rw [List.length_cons] at hcaught
      rw [happlied]
      omega
    · cases hnone
  · intro f hf
    exact (h.reliableFits f (List.mem_cons_of_mem _ hf)).congr hdisplay
  · intro f hf
    rw [inRange_congr hdisplay]
    exact h.pending f (hpending.symm.trans hf)

/-- A stamped frame is on its way. -/
theorem OnTheWay.sendInput {event : CriticalEvent} {frame : CriticalFrame}
    (h : OnTheWay onDisplay session c r reliable motions)
    (hstamped : c.nextInput event = (.ok frame, c')) (hactive : c.handshake.activeSession = some session)
    (hvalid : validateCritical frame = .ok ()) (hrange : eventInRange r event = true) :
    OnTheWay onDisplay session c' r (reliable ++ [frame]) motions := by
  obtain ⟨hsession, hevent, hneeds, hnext, rfl⟩ := Controller.nextInput_eq_ok hstamped
  have hbound := toNat_lt_size frame.sequence
  -- the last number of all has no successor
  have hcaught : r.highestAppliedSequence.toNat + reliable.length = c.inputSequence.toNat := by
    rcases h.caught with heq | ⟨-, hlast⟩
    · exact heq
    · rw [hlast, u64Max_toNat] at hnext
      omega
  have hmark : wireNumbers.mark frame ≠ 0 → wireNumbers.mark frame = c.motionSequence.toNat := by
    simp only [wireNumbers, hevent]
    cases event with
    | key keyCode scanCode extended down =>
      intro hzero
      exact absurd rfl hzero
    | button button down x y motionSequence => exact fun _ => rfl
    | scroll deltaX deltaY x y motionSequence => exact fun _ => rfl
  have hflight := h.flight.sendItem hcaught hnext.symm hmark
  rw [hnext] at hflight
  refine ⟨hflight, Or.inl ?_, ?_, h.motionsFit, h.pending⟩
  · show r.highestAppliedSequence.toNat + (reliable ++ [frame]).length = frame.sequence.toNat
    rw [List.length_append, List.length_singleton]
    omega
  · intro f hf
    rcases List.mem_append.mp hf with hf | hf
    · exact h.reliableFits f hf
    · obtain rfl := List.mem_singleton.mp hf
      refine ⟨(Option.some.inj (hactive.symm.trans hsession)).symm, hvalid, ?_⟩
      rw [hevent]
      cases event <;> exact hrange

theorem OnTheWay.sendMotion {x y : Int32} {frame : MotionFrame}
    (h : OnTheWay onDisplay session c r reliable motions)
    (hstamped : c.nextMotion x y = (.ok frame, c')) (hactive : c.handshake.activeSession = some session)
    (hdisplay : r.activeDisplay.map displayKey = c.display) (hrange : onDisplay → r.inRange x y = true) :
    OnTheWay onDisplay session c' r reliable (frame :: motions) := by
  obtain ⟨hsession, hshown, hnext, hneeds, rfl, rfl, rfl⟩ := Controller.nextMotion_eq_ok hstamped
  have hflight := h.flight.sendSample (b := frame) hnext.symm (congrArg UInt64.toNat hneeds)
  rw [hnext] at hflight
  refine ⟨hflight, h.caught, h.reliableFits, ?_,
    fun f hf => ⟨List.mem_cons_of_mem _ (h.pending f hf).1, (h.pending f hf).2⟩⟩
  intro f hf
  rcases List.mem_cons.mp hf with rfl | hf
  · refine ⟨(Option.some.inj (hactive.symm.trans hsession)).symm, hdisplay.trans hshown, ?_, hrange⟩
    intro hzero
    rw [hzero] at hnext
    cases hnext
  · exact h.motionsFit f hf

end OnTheWay

/-! ### The moves of the parties -/

section Moves

variable {onDisplay : Prop} {boot : BootId} {localPeerId : String} {debug : Receiver.SessionRuntimeError → String}
  {session : SessionId} {s : Stream}

/-- The controller moved, and the session goes on. -/
theorem Flowing.moveController (h : Flowing onDisplay boot localPeerId session s) {parties : Parties}
    (hreceiver : parties.receiver = s.parties.receiver) (hfits : ∃ st, Fits boot localPeerId parties.controller st)
    (hleft : LeftOr s.parties.controller parties.controller) (hin : InSession session parties) :
    Flowing onDisplay boot localPeerId session { s with parties } := by
  have hsame : stampPart parties.controller = stampPart s.parties.controller := by
    rcases hleft with hnone | hsame
    · cases hnone.symm.trans hin.1
    · exact hsame
  have hdisplay : parties.controller.display = s.parties.controller.display := by
    simp only [stampPart, Prod.mk.injEq] at hsame
    exact hsame.2.2.2
  obtain ⟨st, hst⟩ := hfits
  obtain ⟨d, rfl⟩ := hst.of_active (Controller.ControllerHandshake.activeSession_eq_some.mp hin.1)
  refine ⟨⟨d, hst⟩, ?_, ?_, ?_, hin, ?_, ?_, ?_⟩
  · rw [hreceiver]
    exact h.coherent
  · rw [hreceiver]
    exact h.lockstep
  · rw [hreceiver]
    exact h.own
  · rw [hreceiver, hdisplay]
    exact h.display
  · rw [hreceiver]
    exact h.succeeds
  · show OnTheWay onDisplay session parties.controller parties.receiver s.reliable s.motions
    rw [hreceiver]
    exact h.onTheWay.congr hsame

/-- The receiver moved, and the session goes on. -/
theorem Flowing.moveReceiver (h : Flowing onDisplay boot localPeerId session s) (motion : Option MotionFrame)
    {parties : Parties}
    (hcontroller : parties.controller = s.parties.controller) (hcoherent : Coherent parties.receiver)
    (hlockstep : Lockstep parties.receiver) (hown : OwnSession parties.receiver)
    (hglides : Glides motion s.parties.receiver parties.receiver)
    (hmotion : ∀ frame, motion = some frame → frame ∈ s.motions ∧
      s.parties.receiver.inRange frame.x frame.y = true)
    (hin : InSession session parties) : Flowing onDisplay boot localPeerId session { s with parties } := by
  have hsame := hglides.same
  simp only [streamPart, Prod.mk.injEq] at hsame
  obtain ⟨-, -, -, hdisplay, -, -⟩ := hsame
  refine ⟨?_, hcoherent, hlockstep, hown, hin, ?_, hglides.succeeds, ?_⟩
  · rw [hcontroller]
    exact h.fits
  · rw [hcontroller, hdisplay]
    exact h.display
  · show OnTheWay onDisplay session parties.controller parties.receiver s.reliable s.motions
    rw [hcontroller]
    exact h.onTheWay.glides hglides hmotion

/-- A call of the controller which stamps nothing. -/
theorem Flowing.call (h : Flowing onDisplay boot localPeerId session s) (call : ControllerCall)
    (hinput : ∀ event, call ≠ .nextInput event) (hmotion : ∀ x y, call ≠ .nextMotion x y) {parties : Parties}
    (hcontroller : parties.controller = (call.exec s.parties.controller s.parties.world).2.1)
    (hreceiver : parties.receiver = s.parties.receiver) (hin : InSession session parties) :
    Flowing onDisplay boot localPeerId session { s with parties } := by
  obtain ⟨d, hfits⟩ := h.fits
  obtain ⟨st, -, hfits'⟩ := Controller.exec_steps hfits call s.parties.world
  refine h.moveController hreceiver ?_ ?_ hin
  · rw [hcontroller]
    exact ⟨st, hfits'⟩
  · rw [hcontroller]
    exact Controller.exec_stampPart hfits hinput hmotion s.parties.world

/-- What the receiver keeps by itself, whatever it is called with. -/
theorem Flowing.receiver_next (h : Flowing onDisplay boot localPeerId session s) (call : ReceiverCall) :
    Coherent (s.parties.receiver.next call) ∧ Lockstep (s.parties.receiver.next call) ∧
      OwnSession (s.parties.receiver.next call) :=
  ⟨Receiver.next_coherent _ call h.coherent, Receiver.next_lockstep h.coherent h.lockstep call,
    Receiver.next_ownSession h.coherent h.own call⟩

/-- A call of the receiver which takes no input and no motion. -/
theorem Flowing.receiverCall (h : Flowing onDisplay boot localPeerId session s) (call : ReceiverCall)
    (hinput : ∀ frame peer nowMs, call ≠ .input frame peer nowMs)
    (hmotion : ∀ frame peer nowMs, call ≠ .motion frame peer nowMs) {parties : Parties}
    (hcontroller : parties.controller = s.parties.controller)
    (hreceiver : parties.receiver = s.parties.receiver.next call) (hin : InSession session parties) :
    Flowing onDisplay boot localPeerId session { s with parties } := by
  have hactive := hin.2.1
  rw [hreceiver] at hactive
  have hglides := Receiver.next_glides h.coherent h.succeeds hinput hmotion h.inSession.2.1 hactive
  have hkept := h.receiver_next call
  rw [← hreceiver] at hglides hkept
  obtain ⟨hcoherent, hlockstep, hown⟩ := hkept
  exact h.moveReceiver none hcontroller hcoherent hlockstep hown hglides (by simp) hin

/-- Nothing moved but the control frames, the world or the peer. -/
theorem Flowing.idle (h : Flowing onDisplay boot localPeerId session s) {parties : Parties}
    (hcontroller : parties.controller = s.parties.controller) (hreceiver : parties.receiver = s.parties.receiver)
    (hin : InSession session parties) : Flowing onDisplay boot localPeerId session { s with parties } := by
  obtain ⟨d, hfits⟩ := h.fits
  refine h.moveController hreceiver ?_ (Or.inr ?_) hin
  · rw [hcontroller]
    exact ⟨_, hfits⟩
  · rw [hcontroller]

theorem party_flowing (h : Flowing onDisplay boot localPeerId session s) {move : PartyMove}
    (hbypass : move.bypasses = false) (hin : InSession session (s.parties.next debug move)) :
    Flowing onDisplay boot localPeerId session { s with parties := s.parties.next debug move } := by
  cases move with
  | controller call =>
    have hinput : ∀ event, call ≠ .nextInput event := by
      rintro event rfl
      cases hbypass
    have hmotion : ∀ x y, call ≠ .nextMotion x y := by
      rintro x y rfl
      cases hbypass
    cases call with
    | control frame nowMs => exact h
    | _ => exact h.call _ hinput hmotion rfl rfl hin
  | controllerTakes nowMs =>
    unfold Parties.next at hin ⊢
    cases htaken : s.parties.toController with
    | nil => exact h
    | cons f rest =>
      rw [htaken] at hin
      exact h.call (.control f nowMs) (by simp) (by simp) rfl rfl hin
  | receiverTakes nowMs =>
    unfold Parties.next at hin ⊢
    cases hhead : s.parties.toReceiver with
    | nil => exact h
    | cons f rest =>
      rw [hhead] at hin
      exact h.receiverCall (.control f s.parties.peer nowMs) (by simp) (by simp) rfl rfl hin
  | receiverRefuses answer =>
    unfold Parties.next at hin ⊢
    cases hhead : s.parties.toReceiver with
    | nil => exact h
    | cons f rest =>
      rw [hhead] at hin
      exact h.idle rfl rfl hin
  | receiver call =>
    have hinput : ∀ frame peer nowMs, call ≠ .input frame peer nowMs := by
      rintro frame peer nowMs rfl
      cases hbypass
    have hmotion : ∀ frame peer nowMs, call ≠ .motion frame peer nowMs := by
      rintro frame peer nowMs rfl
      cases hbypass
    cases call with
    | control frame peer nowMs => exact h
    | _ => exact h.receiverCall _ hinput hmotion rfl rfl hin
  | requestLocal => exact h.idle rfl rfl hin
  | reconnect peer => exact h.idle rfl rfl hin

/-! ### Stamping -/

/-- A transport which fails ends the session. -/
theorem failTransport_left {d : String × UInt64} {controller : ControllerRuntime}
    (hfits : Fits boot localPeerId controller (.active session d)) :
    ¬ InSession session ((s.withController controller).failTransport).parties := by
  intro hin
  have hnone : ((s.withController controller).failTransport).parties.controller.handshake.activeSession = none :=
    Controller.goLocal_activeSession hfits .networkFailed s.parties.world
  cases hnone.symm.trans hin.1

/-- An event is stamped, and on its way if its session goes on. -/
theorem sendInput_flowing (h : Flowing onDisplay boot localPeerId session s) {event : CriticalEvent}
    (hrange : eventInRange s.parties.receiver event = true) (hin : InSession session (s.sendInput event).parties) :
    Flowing onDisplay boot localPeerId session (s.sendInput event) := by
  obtain ⟨d, hfits⟩ := h.fits
  have hfits' := (Controller.nextInput_fits hfits event).1
  unfold Stream.sendInput at hin ⊢
  cases hstamped : s.parties.controller.nextInput event with
  | mk answer controller =>
  rw [hstamped] at hin hfits'
  cases answer with
  | error e =>
    obtain rfl := Controller.nextInput_eq_error hstamped
    exact h
  | ok frame =>
    dsimp only at hin hfits' ⊢
    cases hvalid : validateCritical frame with
    | error e =>
      rw [hvalid] at hin
      exact absurd hin (failTransport_left hfits')
    | ok u =>
      rw [hvalid] at hin
      obtain ⟨-, -, -, -, heq⟩ := Controller.nextInput_eq_ok hstamped
      have hway := h.onTheWay.sendInput hstamped h.inSession.1 hvalid hrange
      refine ⟨⟨d, hfits'⟩, h.coherent, h.lockstep, h.own, hin, ?_, h.succeeds, hway⟩
      show s.parties.receiver.activeDisplay.map displayKey = controller.display
      rw [heq]
      exact h.display

theorem sendMotion_flowing (h : Flowing onDisplay boot localPeerId session s) {x y : Int32}
    (hrange : onDisplay → s.parties.receiver.inRange x y = true)
    (hin : InSession session (s.sendMotion x y).parties) :
    Flowing onDisplay boot localPeerId session (s.sendMotion x y) := by
  obtain ⟨d, hfits⟩ := h.fits
  have hfits' := (Controller.nextMotion_fits hfits x y).1
  unfold Stream.sendMotion at hin ⊢
  cases hstamped : s.parties.controller.nextMotion x y with
  | mk answer controller =>
  rw [hstamped] at hin hfits'
  cases answer with
  | error e =>
    obtain rfl := Controller.nextMotion_eq_error hstamped
    exact h
  | ok frame =>
    dsimp only at hin hfits' ⊢
    cases hvalid : validateMotion frame with
    | error e =>
      rw [hvalid] at hin
      exact absurd hin (failTransport_left hfits')
    | ok u =>
      rw [hvalid] at hin
      obtain ⟨-, -, -, -, -, -, heq⟩ := Controller.nextMotion_eq_ok hstamped
      have hway := h.onTheWay.sendMotion hstamped h.inSession.1 h.display hrange
      refine ⟨⟨d, hfits'⟩, h.coherent, h.lockstep, h.own, hin, ?_, h.succeeds, hway⟩
      show s.parties.receiver.activeDisplay.map displayKey = controller.display
      rw [heq]
      exact h.display

/-! ### Arrivals -/

/-- The events which are on their way are mapped. -/
theorem mapEvent_of_inRange {r : ReceiverSessionRuntime} {event : CriticalEvent}
    (h : eventInRange r event = true) :
    ∃ mapped pointer, r.mapEvent event = .ok (mapped, pointer) := by
  unfold ReceiverSessionRuntime.mapEvent
  unfold eventInRange at h
  cases hsnapshot : criticalMotionSnapshot event with
  | none => exact ⟨_, _, rfl⟩
  | some snapshot =>
    obtain ⟨sequence, x, y⟩ := snapshot
    rw [hsnapshot] at h
    dsimp only
    cases hmap : r.mapActivePointer x y with
    | error e => simp [ReceiverSessionRuntime.inRange, hmap, Except.isOk, Except.toBool] at h
    | ok p => exact ⟨_, _, rfl⟩

/-- **The frame which arrives** passes every check but the one of its successor. -/
theorem head_admitted (h : Flowing onDisplay boot localPeerId session s) {frame : CriticalFrame}
    {rest : List CriticalFrame} (hhead : s.reliable = frame :: rest) :
    ∃ mapped pointer, Admitted s.parties.receiver frame s.parties.peer mapped pointer := by
  have hflight := h.onTheWay.flight
  rw [hhead] at hflight
  obtain ⟨hnumber, hmark⟩ := hflight.head
  have hfits : FrameFits session s.parties.receiver frame := h.onTheWay.reliableFits frame (by simp [hhead])
  obtain ⟨-, hactive, hbinding⟩ := h.inSession
  obtain ⟨mapped, pointer, hmapped⟩ := mapEvent_of_inRange hfits.inRange
  refine ⟨mapped, pointer, hbinding, h.lockstep.role _ hbinding, ?_, hmapped, ?_, hfits.valid⟩
  · -- no motion which was shown is newer than the one the event carries
    unfold ReceiverSessionRuntime.isStaleSnapshot
    cases hsnapshot : criticalMotionSnapshot frame.event with
    | none => rfl
    | some snapshot =>
      obtain ⟨sequence, x, y⟩ := snapshot
      have hmark' : sequence.toNat ≠ 0 → s.parties.receiver.highestMotionSequence.toNat ≤ sequence.toNat := by
        simpa [wireNumbers, hsnapshot] using hmark
      by_cases hzero : sequence = 0
      · simp [hzero]
      · have hle := hmark' (fun heq => hzero (UInt64.toNat_inj.mp heq))
        simpa [hzero] using UInt64.le_iff_toNat_le.mpr hle
  · -- the gate expects the successor of the highest applied sequence
    have hsession := h.coherent.gate.trans hactive
    obtain ⟨⟨session', n⟩, hgate, hsame⟩ := Option.map_eq_some_iff.mp hsession
    obtain rfl : session' = session := hsame
    have hn := h.lockstep.gate _ _ hgate
    have hsequence : n = frame.sequence := UInt64.toNat_inj.mp (hn.symm.trans hnumber.symm)
    rw [hgate, hfits.session, hsequence]

theorem head_receiverBoot (h : Flowing onDisplay boot localPeerId session s) {frame : CriticalFrame}
    {rest : List CriticalFrame}
    (hhead : s.reliable = frame :: rest) :
    frame.sessionId.receiverBoot = s.parties.receiver.inputGate.localBoot := by
  have hfits : FrameFits session s.parties.receiver frame := h.onTheWay.reliableFits frame (by simp [hhead])
  rw [hfits.session, h.own.receiverBoot h.coherent h.inSession.2.1, h.coherent.gateBoot]

/-- **A reliable frame is accepted**, and the session goes on. -/
theorem deliver_accepted (h : Flowing onDisplay boot localPeerId session s) {frame : CriticalFrame}
    {rest : List CriticalFrame}
    (hhead : s.reliable = frame :: rest) (hlast : frame.sequence ≠ u64Max) (nowMs : UInt64) :
    (s.parties.receiver.handleInputAt frame s.parties.peer nowMs).1 = .ok () ∧
      Flowing onDisplay boot localPeerId session ({ s with reliable := rest }.withReceiver
        (s.parties.receiver.handleInputAt frame s.parties.peer nowMs).2) := by
  obtain ⟨mapped, pointer, hadmitted⟩ := head_admitted h hhead
  obtain ⟨next, hnext⟩ := exists_checkedAdd_one hlast
  obtain ⟨i, hi, heq⟩ := Receiver.handleInputAt_succeeds hadmitted (head_receiverBoot h hhead)
    (checkedAdd_eq_some.mp hnext) h.succeeds nowMs
  -- the receiver after the event, before the motion which waited for it
  generalize hr : Receiver.afterInput s.parties.receiver frame
    (Receiver.inputCommands s.parties.receiver.pressed mapped pointer).2 i next nowMs = r at heq
  have hdisplay : r.activeDisplay = s.parties.receiver.activeDisplay := by rw [← hr]; rfl
  have hafter : OnTheWay onDisplay session s.parties.controller r rest s.motions := by
    have hway := h.onTheWay
    rw [hhead] at hway
    refine hway.take ?_ ?_ hdisplay ?_
    · rw [← hr]
      rfl
    · rw [← hr]
      exact Receiver.raiseMotion_toNat _ _
    · rw [← hr]
      rfl
  have hrange : ∀ f, r.pendingMotion = some f → r.inRange f.x f.y = true := fun f hf => (hafter.pending f hf).2
  have hi' : r.injector.Succeeds := by
    rw [← hr]
    exact hi
  obtain ⟨hok, hglides⟩ := Receiver.flushPendingMotion_succeeds hrange hi'
  have hsame := hglides.same
  simp only [streamPart, Prod.mk.injEq] at hsame
  obtain ⟨hbinding', -, hactive', hdisplay', -, -⟩ := hsame
  obtain ⟨hactive, hreceiver, hbinding⟩ := h.inSession
  rw [heq]
  refine ⟨hok, ?_⟩
  have hcall : r.flushPendingMotion.2 = s.parties.receiver.next (.input frame s.parties.peer nowMs) := by
    rw [← heq]
    rfl
  have hkept := h.receiver_next (.input frame s.parties.peer nowMs)
  rw [← hcall] at hkept
  obtain ⟨hcoherent, hlockstep, hown⟩ := hkept
  refine ⟨h.fits, hcoherent, hlockstep, hown, ⟨hactive, ?_, ?_⟩, ?_, hglides.succeeds,
    hafter.glides hglides hafter.pending⟩
  · show r.flushPendingMotion.2.activeSession = some session
    rw [hactive', ← hr]
    exact hreceiver
  · show r.flushPendingMotion.2.binding = some s.parties.peer
    rw [hbinding', ← hr]
    exact hbinding
  · show r.flushPendingMotion.2.activeDisplay.map displayKey = s.parties.controller.display
    rw [hdisplay', hdisplay]
    exact h.display

/-- **The last number of all** is refused: it has no successor.  It was the last frame on its way. -/
theorem deliver_exhausted (h : Flowing onDisplay boot localPeerId session s) {frame : CriticalFrame}
    {rest : List CriticalFrame}
    (hhead : s.reliable = frame :: rest) (hlast : frame.sequence = u64Max) (nowMs : UInt64) :
    s.parties.receiver.handleInputAt frame s.parties.peer nowMs =
        (.error (.protocol (.invalidField "sequence")), s.parties.receiver) ∧
      Flowing onDisplay boot localPeerId session { s with reliable := rest } := by
  obtain ⟨mapped, pointer, hadmitted⟩ := head_admitted h hhead
  refine ⟨Receiver.handleInputAt_exhausted hadmitted (head_receiverBoot h hhead) hlast nowMs, ?_⟩
  have hway := h.onTheWay
  have hflight := hway.flight
  rw [hhead] at hflight
  obtain ⟨hnumber, -⟩ := hflight.head
  have hbound := toNat_lt_size s.parties.controller.inputSequence
  have hnumber' : frame.sequence.toNat = s.parties.receiver.highestAppliedSequence.toNat + 1 := hnumber
  rw [hlast, u64Max_toNat] at hnumber'
  have hcaught : s.parties.receiver.highestAppliedSequence.toNat + (rest.length + 1) =
      s.parties.controller.inputSequence.toNat := by
    rcases hway.caught with hcaught | ⟨hnone, -⟩
    · rwa [hhead, List.length_cons] at hcaught
    · cases hnone.symm.trans hhead
  obtain rfl : rest = [] := List.length_eq_zero_iff.mp (by omega)
  have hinput : s.parties.controller.inputSequence = u64Max := by
    refine UInt64.toNat_inj.mp ?_
    rw [u64Max_toNat, ← hcaught, List.length_nil]
    omega
  exact ⟨h.fits, h.coherent, h.lockstep, h.own, h.inSession, h.display, h.succeeds,
    hflight.drop, Or.inr ⟨rfl, hinput⟩, by simp, hway.motionsFit, hway.pending⟩

/-- **A motion frame on the display is taken**, and the session goes on. -/
theorem deliverMotion_taken (h : Flowing onDisplay boot localPeerId session s) {frame : MotionFrame}
    (hsent : frame ∈ s.motions) (hrange : s.parties.receiver.inRange frame.x frame.y = true) (nowMs : UInt64) :
    (∃ disposition, (s.parties.receiver.handleMotionAt frame s.parties.peer nowMs).1 = .ok disposition) ∧
      Flowing onDisplay boot localPeerId session
        (s.withReceiver (s.parties.receiver.handleMotionAt frame s.parties.peer nowMs).2) := by
  obtain ⟨hsession, hdisplay, hzero, -⟩ := h.onTheWay.motionsFit frame hsent
  obtain ⟨hactive, hreceiver, hbinding⟩ := h.inSession
  obtain ⟨display, hlayout, hkey⟩ := Option.map_eq_some_iff.mp hdisplay
  obtain ⟨hid, hrev⟩ := Prod.mk.inj hkey
  have hboot : frame.sessionId.receiverBoot = s.parties.receiver.localBoot := by
    rw [hsession]
    exact h.own.receiverBoot h.coherent hreceiver
  obtain ⟨hok, hglides⟩ := Receiver.handleMotionAt_succeeds hbinding (h.lockstep.role _ hbinding) hzero
    (by rw [hsession]; exact hreceiver) hboot hlayout hid.symm hrev.symm hrange h.succeeds nowMs
  have hsame := hglides.same
  simp only [streamPart, Prod.mk.injEq] at hsame
  obtain ⟨hbinding', -, hactive', -⟩ := hsame
  obtain ⟨hcoherent, hlockstep, hown⟩ := h.receiver_next (.motion frame s.parties.peer nowMs)
  refine ⟨hok, h.moveReceiver (some frame) rfl hcoherent hlockstep hown hglides ?_ ⟨hactive, ?_, ?_⟩⟩
  · intro f hf
    obtain rfl := Option.some.inj hf
    exact ⟨hsent, hrange⟩
  · exact hactive'.trans hreceiver
  · exact hbinding'.trans hbinding

/-- A motion frame off the display changes nothing. -/
theorem deliverMotion_outOfRange {frame : MotionFrame}
    (hrange : s.parties.receiver.inRange frame.x frame.y = false) (nowMs : UInt64) :
    s.withReceiver (s.parties.receiver.handleMotionAt frame s.parties.peer nowMs).2 = s := by
  obtain ⟨answer, -, -, -, heq⟩ := Receiver.handleMotionAt_outOfRange hrange s.parties.peer nowMs
  rw [heq]
  rfl

end Moves

end MyKvm.System
