import MyKvm.Controller.Stamping
import MyKvm.Lib.Flight
import MyKvm.Receiver.Admission
import MyKvm.System.Agreement

/-!
# MyKvm.System.Stream — input and motion on their way

The two parties with their input channels.  The controller stamps an event or a motion; what its encoder takes is
on its way, and what it refuses fails the transport.  The reliable frames arrive in order and once; of the motion
frames which were sent, any arrives at any time, as often as it likes.  Between these, anything else happens to the
parties, as in `MyKvm.System.Run`.
-/

namespace MyKvm.System

open MyKvm.Lib MyKvm.Protocol MyKvm.Routing
open MyKvm.Controller (Stage ControllerRuntime ControllerCall LeftOr stampPart)
open MyKvm.Controller.ControllerRuntime (Fits)
open MyKvm.Receiver
  (ReceiverSessionRuntime ReceiverCall ReceiverDisplayLayout criticalMotionSnapshot Coherent Lockstep
  OwnSession Glides streamPart)

structure Stream where
  parties : Parties
  /-- The reliable frames on their way, oldest first. -/
  reliable : List CriticalFrame
  /-- Every motion frame which was sent, newest first. -/
  motions : List MotionFrame
  deriving DecidableEq

inductive StreamMove where
  | party (move : PartyMove)
  | input (event : CriticalEvent)
  | motion (x y : Int32)
  /-- The next reliable frame arrives. -/
  | deliver (nowMs : UInt64)
  /-- A motion frame arrives. -/
  | deliverMotion (frame : MotionFrame) (nowMs : UInt64)
  deriving DecidableEq

/-- The moves which would go around the channels. -/
def PartyMove.bypasses : PartyMove → Bool
  | .controller (.nextInput _) | .controller (.nextMotion _ _) => true
  | .receiver (.input _ _ _) | .receiver (.motion _ _ _) => true
  | _ => false

namespace Stream

def withController (s : Stream) (controller : ControllerRuntime) : Stream :=
  { s with parties := { s.parties with controller } }

def withReceiver (s : Stream) (receiver : ReceiverSessionRuntime) : Stream :=
  { s with parties := { s.parties with receiver } }

def failTransport (s : Stream) : Stream := { s with parties := s.parties.afterCall (.goLocal .networkFailed) }

def sendInput (s : Stream) (event : CriticalEvent) : Stream :=
  match s.parties.controller.nextInput event with
  | (.error _, controller) => s.withController controller
  | (.ok frame, controller) =>
    match validateCritical frame with
    | .error _ => (s.withController controller).failTransport
    | .ok () => { s.withController controller with reliable := s.reliable ++ [frame] }

def sendMotion (s : Stream) (x y : Int32) : Stream :=
  match s.parties.controller.nextMotion x y with
  | (.error _, controller) => s.withController controller
  | (.ok frame, controller) =>
    match validateMotion frame with
    | .error _ => (s.withController controller).failTransport
    | .ok () => { s.withController controller with motions := frame :: s.motions }

def next (debug : Receiver.SessionRuntimeError → String) (s : Stream) : StreamMove → Stream
  | .party move => if move.bypasses then s else { s with parties := s.parties.next debug move }
  | .input event => s.sendInput event
  | .motion x y => s.sendMotion x y
  | .deliver nowMs =>
    match s.reliable with
    | [] => s
    | frame :: rest =>
      { s with reliable := rest }.withReceiver (s.parties.receiver.handleInputAt frame s.parties.peer nowMs).2
  | .deliverMotion frame nowMs =>
    if frame ∈ s.motions then
      s.withReceiver (s.parties.receiver.handleMotionAt frame s.parties.peer nowMs).2 else s

def start (parties : Parties) : Stream := { parties, reliable := [], motions := [] }

theorem next_bypasses {debug : Receiver.SessionRuntimeError → String} {s : Stream} {move : PartyMove}
    (h : move.bypasses = true) : s.next debug (.party move) = s := by
  unfold next
  dsimp only
  rw [if_pos h]

theorem next_party {debug : Receiver.SessionRuntimeError → String} {s : Stream} {move : PartyMove}
    (h : move.bypasses = false) :
    s.next debug (.party move) = { s with parties := s.parties.next debug move } := by
  unfold next
  dsimp only
  rw [if_neg (by simp [h])]

theorem next_deliver {debug : Receiver.SessionRuntimeError → String} {s : Stream} {frame : CriticalFrame}
    {rest : List CriticalFrame} (h : s.reliable = frame :: rest) (nowMs : UInt64) :
    s.next debug (.deliver nowMs) = { s with reliable := rest }.withReceiver
      (s.parties.receiver.handleInputAt frame s.parties.peer nowMs).2 := by
  unfold next
  dsimp only
  rw [h]

theorem next_deliverMotion {debug : Receiver.SessionRuntimeError → String} {s : Stream} {frame : MotionFrame}
    (h : frame ∈ s.motions) (nowMs : UInt64) : s.next debug (.deliverMotion frame nowMs) =
      s.withReceiver (s.parties.receiver.handleMotionAt frame s.parties.peer nowMs).2 := by
  unfold next
  dsimp only
  rw [if_pos h]

theorem next_unsent {debug : Receiver.SessionRuntimeError → String} {s : Stream} {frame : MotionFrame}
    (h : frame ∉ s.motions) (nowMs : UInt64) : s.next debug (.deliverMotion frame nowMs) = s := by
  unfold next
  dsimp only
  rw [if_neg h]

end Stream

/-! ### The runs of an active session -/

/-- The session is active on both sides of one connection. -/
def InSession (session : SessionId) (p : Parties) : Prop :=
  p.controller.handshake.activeSession = some session ∧ p.receiver.activeSession = some session ∧
    p.receiver.binding = some p.peer

instance (session : SessionId) (p : Parties) : Decidable (InSession session p) :=
  inferInstanceAs (Decidable (_ ∧ _ ∧ _))

/-- The session was just opened: nothing of it was stamped or taken yet.  The injector succeeds from now on. -/
structure Opened (session : SessionId) (p : Parties) : Prop where
  inSession : InSession session p
  inputSequence : p.controller.inputSequence = 0
  motionSequence : p.controller.motionSequence = 0
  highestApplied : p.receiver.highestAppliedSequence = 0
  highestMotion : p.receiver.highestMotionSequence = 0
  pendingMotion : p.receiver.pendingMotion = none
  succeeds : p.receiver.injector.Succeeds

/-- The point of the event is in range of the active display. -/
def eventInRange (r : ReceiverSessionRuntime) (event : CriticalEvent) : Bool :=
  (criticalMotionSnapshot event).all fun (_, x, y) => r.inRange x y

/-- **The session goes on**: no move but the arrival of a frame ends it, and coordinates are in range.  An
arrival is under no condition. -/
def Goes (debug : Receiver.SessionRuntimeError → String) (session : SessionId) (s : Stream)
    (move : StreamMove) : Prop :=
  match move with
  | .party _ => InSession session (s.next debug move).parties
  | .input event => eventInRange s.parties.receiver event = true ∧ InSession session (s.next debug move).parties
  | .motion x y => s.parties.receiver.inRange x y = true ∧ InSession session (s.next debug move).parties
  | .deliver _ | .deliverMotion _ _ => True

instance decidableGoes (debug : Receiver.SessionRuntimeError → String) (session : SessionId) (s : Stream) :
    ∀ move, Decidable (Goes debug session s move)
  | .party _ => inferInstanceAs (Decidable (InSession _ _))
  | .input _ => inferInstanceAs (Decidable (_ ∧ InSession _ _))
  | .motion _ _ => inferInstanceAs (Decidable (_ ∧ InSession _ _))
  | .deliver _ => .isTrue trivial
  | .deliverMotion _ _ => .isTrue trivial

/-! ### Before the session was opened -/

/-- The newest session which the receiver activated has its display as long as it is active. -/
def Shows (p : Parties) : Prop :=
  ∀ session, p.receiver.activeSession = some session →
    p.activated.head? = some (session, p.receiver.activeDisplay.map displayKey)

/-- What the two parties promise each other, with what the receiver keeps for itself. -/
structure Joined (boot : BootId) (localPeerId : String) (p : Parties) : Prop where
  agrees : Agrees boot localPeerId p
  coherent : Coherent p.receiver
  lockstep : Lockstep p.receiver
  own : OwnSession p.receiver
  shows : Shows p

section Joined

variable {boot : BootId} {localPeerId : String} {debug : Receiver.SessionRuntimeError → String} {p : Parties}

/-- What a move does to the receiver: nothing, a control frame whose activation is noted, or another call. -/
theorem next_receiver (debug : Receiver.SessionRuntimeError → String) (p : Parties) (move : PartyMove) :
    ((p.next debug move).receiver = p.receiver ∧ (p.next debug move).activated = p.activated) ∨
      (∃ frame nowMs, (p.next debug move).receiver = p.receiver.next (.control frame p.peer nowMs) ∧
        (p.next debug move).activated = noteActivation p.receiver (p.next debug move).receiver p.activated) ∨
      ∃ call, move = .receiver call ∧ (∀ frame peer nowMs, call ≠ .control frame peer nowMs) ∧
        (p.next debug move).receiver = p.receiver.next call ∧ (p.next debug move).activated = p.activated := by
  cases move with
  | controller call =>
    cases call with
    | _ => exact Or.inl ⟨rfl, rfl⟩
  | controllerTakes nowMs =>
    unfold Parties.next
    cases p.toController with
    | nil => exact Or.inl ⟨rfl, rfl⟩
    | cons f rest => exact Or.inl ⟨rfl, rfl⟩
  | receiverTakes nowMs =>
    unfold Parties.next
    cases p.toReceiver with
    | nil => exact Or.inl ⟨rfl, rfl⟩
    | cons f rest => exact Or.inr (Or.inl ⟨f, nowMs, rfl, rfl⟩)
  | receiverRefuses answer =>
    unfold Parties.next
    cases p.toReceiver with
    | nil => exact Or.inl ⟨rfl, rfl⟩
    | cons f rest => exact Or.inl ⟨rfl, rfl⟩
  | receiver call =>
    cases call with
    | control frame peer nowMs => exact Or.inl ⟨rfl, rfl⟩
    | _ => exact Or.inr (Or.inr ⟨_, rfl, by simp, rfl, rfl⟩)
  | requestLocal => exact Or.inl ⟨rfl, rfl⟩
  | reconnect peer => exact Or.inl ⟨rfl, rfl⟩

theorem next_shows (hc : Coherent p.receiver) (h : Shows p) (move : PartyMove) : Shows (p.next debug move) := by
  rcases next_receiver debug p move with ⟨hreceiver, hactivated⟩ | ⟨frame, nowMs, hreceiver, hactivated⟩ |
    ⟨call, -, hother, hreceiver, hactivated⟩
  · intro session hactive
    rw [hreceiver] at hactive
    rw [hreceiver, hactivated]
    exact h session hactive
  · intro session hactive
    rw [hactivated, hreceiver]
    rw [hreceiver] at hactive
    unfold noteActivation
    rw [hactive]
    dsimp only
    split
    · rename_i hsame
      have hstep := Receiver.handleControlAt_cases hc frame p.peer nowMs
      have hkept := (hstep.goesOn hsame hactive).1
      simp only [streamPart, Prod.mk.injEq] at hkept
      have hdisplay : (p.receiver.next (.control frame p.peer nowMs)).activeDisplay = p.receiver.activeDisplay :=
        hkept.2.2.2.1
      rw [hdisplay]
      exact h session hsame
    · rfl
  · intro session hactive
    rw [hreceiver] at hactive
    rw [hreceiver, hactivated]
    have hfade := Receiver.next_fades hc hother
    cases hfade with
    | kept _ _ _ _ hsame _ hdisplay =>
      rw [hsame] at hactive
      rcases hdisplay with hdisplay | hnone
      · rw [hdisplay]
        exact h session hactive
      · cases hnone.symm.trans hactive
    | lost _ _ _ _ _ _ hnone _ => cases hnone.symm.trans hactive

theorem next_joined (p : Parties) (move : PartyMove) (h : Joined boot localPeerId p) :
    Joined boot localPeerId (p.next debug move) := by
  have hnext : (p.next debug move).receiver = p.receiver ∨
    ∃ c, (p.next debug move).receiver = p.receiver.next c := by
    rcases next_receiver debug p move with ⟨heq, -⟩ | ⟨frame, nowMs, heq, -⟩ | ⟨call, -, -, heq, -⟩
    · exact Or.inl heq
    · exact Or.inr ⟨_, heq⟩
    · exact Or.inr ⟨_, heq⟩
  refine ⟨next_agrees p move h.agrees, ?_, ?_, ?_, next_shows h.coherent h.shows move⟩
  · rcases hnext with heq | ⟨c, heq⟩
    · rw [heq]
      exact h.coherent
    · rw [heq]
      exact Receiver.next_coherent _ c h.coherent
  · rcases hnext with heq | ⟨c, heq⟩
    · rw [heq]
      exact h.lockstep
    · rw [heq]
      exact Receiver.next_lockstep h.coherent h.lockstep c
  · rcases hnext with heq | ⟨c, heq⟩
    · rw [heq]
      exact h.own
    · rw [heq]
      exact Receiver.next_ownSession h.coherent h.own c

theorem start_joined {c : ControllerRuntime} (hnew : ControllerRuntime.newWithOverride boot localPeerId = .ok c)
    (receiverBoot : BootId) (injector : Injector) (displayLayouts : List ReceiverDisplayLayout)
    (peer : Receiver.AuthenticatedPeer) (g : LocalOverride) (moments : List Moment)
    (entropy : List (Option (Vector UInt8 16))) :
    Joined boot localPeerId (Parties.start c
      (ReceiverSessionRuntime.newWithDisplayLayouts receiverBoot injector displayLayouts) peer g moments
        entropy) := by
  have hcoherent := Receiver.newWithDisplayLayouts_coherent receiverBoot injector displayLayouts
  refine ⟨⟨.home, ⟨Controller.newWithOverride_fits hnew, hcoherent, ?_, ?_⟩, trivial⟩, hcoherent,
    Receiver.newWithDisplayLayouts_lockstep _ _ _, ?_, ?_⟩
  · simp [Parties.start, ReceiverSessionRuntime.newWithDisplayLayouts]
  · simp [Parties.start]
  · simp [OwnSession, Parties.start, ReceiverSessionRuntime.newWithDisplayLayouts]
  · simp [Shows, Parties.start, ReceiverSessionRuntime.newWithDisplayLayouts]

end Joined

end MyKvm.System
