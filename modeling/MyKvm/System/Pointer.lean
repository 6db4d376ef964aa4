import MyKvm.System.Delivery
import MyKvm.System.Pointing

/-!
# MyKvm.System.Pointer — the pointer converges

The stream of `MyKvm.System.Stream`, with every frame which has arrived (`Pointer`); a motion off the display has
no mapped position and does not count.  In a session which goes on, in which every event is on the display and the
last number of all does not arrive, the pointer is where the newest of these frames puts it as soon as every
reliable frame has arrived (`pointer_converges`): then no motion waits any more.

The last number of all is refused, and so is an event off the display, with every event after it; the points which
they carry are lost (`not_pointer_converges`).
-/

namespace MyKvm.System

open MyKvm.Lib MyKvm.Protocol MyKvm.Routing
open MyKvm.Controller (Stage ControllerRuntime ControllerCall LeftOr stampPart)
open MyKvm.Controller.ControllerRuntime (Fits)
open MyKvm.Receiver
  (ReceiverSessionRuntime ReceiverCall ReceiverDisplayLayout criticalMotionSnapshot Coherent Lockstep
  OwnSession streamPart)
open MyKvm.Lib.Feed (Entry Settles IsNewest)

/-- A stream, and the frames which have arrived, newest first. -/
structure Pointer where
  stream : Stream
  arrived : List (Entry CriticalFrame MotionFrame)

/-- The frame which arrives by a move, if it is an event or on the display. -/
def arrival (s : Stream) : StreamMove → List (Entry CriticalFrame MotionFrame)
  | .deliver _ => (s.reliable.head?.map Entry.item).toList
  | .deliverMotion frame _ =>
    if frame ∈ s.motions ∧ s.parties.receiver.inRange frame.x frame.y = true then [.sample frame] else []
  | _ => []

namespace Pointer

def next (debug : Receiver.SessionRuntimeError → String) (p : Pointer) (move : StreamMove) : Pointer :=
  { stream := p.stream.next debug move, arrived := arrival p.stream move ++ p.arrived }

def start (parties : Parties) : Pointer := { stream := .start parties, arrived := [] }

theorem run_stream (debug : Receiver.SessionRuntimeError → String) (p : Pointer) (moves : List StreamMove) :
    (run (next debug) p moves).stream = run (Stream.next debug) p.stream moves :=
  @run_project _ _ _ _ (Stream.next debug) stream (fun _ _ => rfl) p moves

end Pointer

/-- The session goes on. -/
def GoesOn (debug : Receiver.SessionRuntimeError → String) (session : SessionId) (p : Pointer)
    (move : StreamMove) : Prop :=
  match move with
  | .party _ | .input _ | .motion _ _ => InSession session (p.stream.next debug move).parties
  | .deliver _ | .deliverMotion _ _ => True

instance decidableGoesOn (debug : Receiver.SessionRuntimeError → String) (session : SessionId) (p : Pointer) :
    ∀ move, Decidable (GoesOn debug session p move)
  | .party _ | .input _ | .motion _ _ => inferInstanceAs (Decidable (InSession _ _))
  | .deliver _ | .deliverMotion _ _ => .isTrue trivial

/-- An event which is stamped is on the display. -/
def OnDisplay (p : Pointer) : StreamMove → Prop
  | .input event => eventInRange p.stream.parties.receiver event = true
  | _ => True

instance decidableOnDisplay (p : Pointer) : ∀ move, Decidable (OnDisplay p move)
  | .input _ => inferInstanceAs (Decidable (_ = true))
  | .party _ | .motion _ _ | .deliver _ | .deliverMotion _ _ => .isTrue trivial

/-- The number of a reliable frame which arrives has a successor. -/
def HasSuccessor (p : Pointer) : StreamMove → Prop
  | .deliver _ => ∀ frame ∈ p.stream.reliable.head?, frame.sequence ≠ u64Max
  | _ => True

instance decidableHasSuccessor (p : Pointer) : ∀ move, Decidable (HasSuccessor p move)
  | .deliver _ => inferInstanceAs (Decidable (∀ frame ∈ p.stream.reliable.head?, frame.sequence ≠ u64Max))
  | .party _ | .input _ | .motion _ _ | .deliverMotion _ _ => .isTrue trivial

/-- The session goes on, and no event is refused. -/
def Regular (debug : Receiver.SessionRuntimeError → String) (session : SessionId) (p : Pointer)
    (move : StreamMove) : Prop :=
  GoesOn debug session p move ∧ OnDisplay p move ∧ HasSuccessor p move

instance (debug : Receiver.SessionRuntimeError → String) (session : SessionId) (p : Pointer) (move : StreamMove) :
    Decidable (Regular debug session p move) := inferInstanceAs (Decidable (_ ∧ _))

theorem Regular.proceeds {debug : Receiver.SessionRuntimeError → String} {session : SessionId} {p : Pointer}
    {move : StreamMove} (h : Regular debug session p move) : Proceeds False debug session p.stream move := by
  obtain ⟨hgoes, hdisplay, -⟩ := h
  cases move with
  | input event => exact ⟨hdisplay, hgoes⟩
  | motion x y => exact ⟨fun hfalse => absurd hfalse not_false, hgoes⟩
  | _ => exact hgoes

/-! ### What the parties leave alone -/

/-- What the pointer depends on. -/
def pointerPart (r : ReceiverSessionRuntime) :=
  (streamPart r, r.pendingMotion, r.highestMotionSequence, r.injector.posted)

section Others

variable {boot : BootId} {localPeerId : String} {debug : Receiver.SessionRuntimeError → String}
    {session : SessionId}
  {s : Stream} {r : ReceiverSessionRuntime}

theorem controlStep_pointerPart {frame : ControlFrame} {peer : Receiver.AuthenticatedPeer} {nowMs : UInt64}
    {answer : Except Receiver.SessionRuntimeError (Option ControlFrame)} {r₁ : ReceiverSessionRuntime}
    (hstep : Receiver.ControlStep r frame peer nowMs (answer, r₁)) (hactive : r.activeSession = some session)
    (hactive₁ : r₁.activeSession = some session) : pointerPart r₁ = pointerPart r := by
  obtain ⟨hsame, hpending, hshown, hinjector⟩ := hstep.goesOn hactive hactive₁
  have hposted : r₁.injector.posted = r.injector.posted := by
    rcases hinjector with heq | ⟨answer, hready⟩
    · rw [heq]
    · exact Injector.posted_of_readiness hready
  unfold pointerPart
  rw [hsame, hpending, hshown, hposted]

theorem loseStep_pointerPart {answer : Except Receiver.SessionRuntimeError Bool} {r₁ : ReceiverSessionRuntime}
    (hstep : Receiver.LoseStep r (answer, r₁)) (hactive : r₁.activeSession = some session) :
    pointerPart r₁ = pointerPart r := by
  cases hstep with
  | kept => rfl
  | lost _ _ hrelease =>
    rw [hrelease.activeSession] at hactive
    cases hactive

theorem layoutStep_pointerPart {displayLayouts : List ReceiverDisplayLayout}
    {answer : Except Receiver.SessionRuntimeError Bool} {r₁ : ReceiverSessionRuntime}
    (hstep : Receiver.LayoutStep r displayLayouts (answer, r₁)) (hactive : r.activeSession = some session)
    (hactive₁ : r₁.activeSession = some session) : pointerPart r₁ = pointerPart r := by
  cases hstep with
  | current _ => rfl
  | lost _ _ _ hrelease =>
    rw [hrelease.activeSession] at hactive₁
    cases hactive₁
  | cleared _ hnone _ => cases hactive.symm.trans hnone

/-- Every call but input and motion, as long as the session goes on. -/
theorem next_pointerPart (hc : Coherent r) {call : ReceiverCall}
    (hinput : ∀ frame peer nowMs, call ≠ .input frame peer nowMs)
    (hmotion : ∀ frame peer nowMs, call ≠ .motion frame peer nowMs) (hactive : r.activeSession = some session)
    (hactive₁ : (r.next call).activeSession = some session) : pointerPart (r.next call) = pointerPart r := by
  cases call with
  | control frame peer nowMs =>
    exact controlStep_pointerPart (Receiver.handleControlAt_cases hc frame peer nowMs) hactive hactive₁
  | input frame peer nowMs => exact absurd rfl (hinput frame peer nowMs)
  | motion frame peer nowMs => exact absurd rfl (hmotion frame peer nowMs)
  | expire nowMs => exact loseStep_pointerPart (Receiver.expireIfNeeded_cases hc nowMs) hactive₁
  | streamClosed peer => exact loseStep_pointerPart (Receiver.inputStreamClosed_cases hc peer) hactive₁
  | layouts displayLayouts =>
    exact layoutStep_pointerPart (Receiver.updateDisplayLayouts_cases hc displayLayouts) hactive hactive₁
  | modifiers enabled control alt «meta» => rfl

/-- A move of the parties does not touch what the controller stamps. -/
theorem party_stampPart (h : Flowing False boot localPeerId session s) {move : PartyMove}
    (hbypass : move.bypasses = false) (hin : InSession session (s.parties.next debug move)) :
    stampPart (s.parties.next debug move).controller = stampPart s.parties.controller := by
  obtain ⟨d, hfits⟩ := h.fits
  have hcall : ∀ call : ControllerCall, (∀ event, call ≠ .nextInput event) → (∀ x y, call ≠ .nextMotion x y) →
      (call.exec s.parties.controller s.parties.world).2.1.handshake.activeSession = some session →
      stampPart (call.exec s.parties.controller s.parties.world).2.1 = stampPart s.parties.controller := by
    intro call hinput hmotion hactive
    rcases Controller.exec_stampPart hfits hinput hmotion s.parties.world with hnone | hsame
    · cases hnone.symm.trans hactive
    · exact hsame
  cases move with
  | controller call =>
    have hinput : ∀ event, call ≠ .nextInput event := by
      rintro event rfl
      cases hbypass
    have hmotion : ∀ x y, call ≠ .nextMotion x y := by
      rintro x y rfl
      cases hbypass
    cases call with
    | control frame nowMs => rfl
    | _ => exact hcall _ hinput hmotion hin.1
  | controllerTakes nowMs =>
    unfold Parties.next at hin ⊢
    cases htaken : s.parties.toController with
    | nil => rfl
    | cons f rest =>
      rw [htaken] at hin
      exact hcall (.control f nowMs) (by simp) (by simp) hin.1
  | receiverTakes nowMs =>
    unfold Parties.next
    cases s.parties.toReceiver with
    | nil => rfl
    | cons f rest => rfl
  | receiverRefuses answer =>
    unfold Parties.next
    cases s.parties.toReceiver with
    | nil => rfl
    | cons f rest => rfl
  | receiver call => cases call <;> rfl
  | requestLocal => rfl
  | reconnect peer => rfl

theorem party_pointerPart (h : Flowing False boot localPeerId session s) {move : PartyMove}
    (hbypass : move.bypasses = false)
    (hin : InSession session (s.parties.next debug move)) :
    pointerPart (s.parties.next debug move).receiver = pointerPart s.parties.receiver := by
  have hactive := h.inSession.2.1
  have hactive₁ := hin.2.1
  rcases next_receiver debug s.parties move with ⟨heq, -⟩ | ⟨frame, nowMs, heq, -⟩ | ⟨call, rfl, hcontrol, heq, -⟩
  · rw [heq]
  · rw [heq] at hactive₁ ⊢
    exact next_pointerPart h.coherent (by simp) (by simp) hactive hactive₁
  · rw [heq] at hactive₁ ⊢
    refine next_pointerPart h.coherent ?_ ?_ hactive hactive₁
    · rintro frame peer nowMs rfl
      cases hbypass
    · rintro frame peer nowMs rfl
      cases hbypass

end Others

/-! ### The invariant -/

/-- What is on its way is numbered without a gap, and the pointer is where the newest frame puts it. -/
structure Tracked (boot : BootId) (localPeerId : String) (session : SessionId) (base : Option (Int32 × Int32))
    (p : Pointer) : Prop where
  flowing : Flowing False boot localPeerId session p.stream
  caught : p.stream.parties.receiver.highestAppliedSequence.toNat + p.stream.reliable.length =
    p.stream.parties.controller.inputSequence.toNat
  needs : ∀ f ∈ p.stream.motions, f.requiredReliableSequence ≤ p.stream.parties.controller.inputSequence
  distinct : ∀ f ∈ p.stream.motions, ∀ g ∈ p.stream.motions, f.sequence = g.sequence → f = g
  carries : ∀ frame ∈ p.stream.reliable, criticalMotionSnapshot frame.event ≠ none → wireNumbers.mark frame ≠ 0
  pointed : Pointed base p.stream.parties.receiver p.arrived

section Steps

variable {boot : BootId} {localPeerId : String} {debug : Receiver.SessionRuntimeError → String}
    {session : SessionId}
  {base : Option (Int32 × Int32)} {p : Pointer}

theorem Pointed.of_pointerPart {r r₁ : ReceiverSessionRuntime} {arrived : List (Entry CriticalFrame MotionFrame)}
    (h : Pointed base r arrived) (hsame : pointerPart r₁ = pointerPart r) : Pointed base r₁ arrived := by
  simp only [pointerPart, streamPart, Prod.mk.injEq] at hsame
  obtain ⟨⟨-, -, -, hdisplay, -, -⟩, hpending, hshown, hposted⟩ := hsame
  exact h.congr hdisplay hposted hshown hpending

theorem party_tracked (h : Tracked boot localPeerId session base p) {move : PartyMove}
    (hbypass : move.bypasses = false) (hin : InSession session (p.stream.parties.next debug move)) :
    Tracked boot localPeerId session base
      { p with stream := { p.stream with parties := p.stream.parties.next debug move } } := by
  have hflowing := party_flowing h.flowing hbypass hin
  have hpart := party_pointerPart h.flowing hbypass hin
  have hpointed := h.pointed.of_pointerPart hpart
  have hstamps := party_stampPart h.flowing hbypass hin
  simp only [stampPart, pointerPart, streamPart, Prod.mk.injEq] at hstamps hpart
  obtain ⟨-, hinput, -, -⟩ := hstamps
  obtain ⟨⟨-, -, -, -, -, happlied⟩, -, -, -⟩ := hpart
  refine ⟨hflowing, ?_, ?_, h.distinct, h.carries, hpointed⟩
  · show (p.stream.parties.next debug move).receiver.highestAppliedSequence.toNat + p.stream.reliable.length =
      (p.stream.parties.next debug move).controller.inputSequence.toNat
    rw [happlied, hinput]
    exact h.caught
  · show ∀ f ∈ p.stream.motions,
      f.requiredReliableSequence ≤ (p.stream.parties.next debug move).controller.inputSequence
    rw [hinput]
    exact h.needs

/-- An event is stamped: with the next number, and a button or a scroll with a motion. -/
theorem sendInput_tracked (h : Tracked boot localPeerId session base p) {event : CriticalEvent}
    (hrange : eventInRange p.stream.parties.receiver event = true)
    (hin : InSession session (p.stream.sendInput event).parties) :
    Tracked boot localPeerId session base { p with stream := p.stream.sendInput event } := by
  have hflowing := sendInput_flowing h.flowing hrange hin
  obtain ⟨d, hfits⟩ := h.flowing.fits
  have hfits' := (Controller.nextInput_fits hfits event).1
  unfold Stream.sendInput at hin hflowing ⊢
  cases hstamped : p.stream.parties.controller.nextInput event with
  | mk answer controller =>
  rw [hstamped] at hin hflowing hfits'
  cases answer with
  | error e =>
    obtain rfl := Controller.nextInput_eq_error hstamped
    exact h
  | ok frame =>
    dsimp only at hin hflowing hfits' ⊢
    cases hvalid : validateCritical frame with
    | error e =>
      rw [hvalid] at hin
      exact absurd hin (failTransport_left hfits')
    | ok u =>
      rw [hvalid] at hflowing
      obtain ⟨-, hevent, hneeds, hnext, rfl⟩ := Controller.nextInput_eq_ok hstamped
      have hnext' : p.stream.parties.controller.inputSequence.toNat < frame.sequence.toNat := by omega
      refine ⟨hflowing, ?_, ?_, h.distinct, ?_, h.pointed⟩
      · have hcaught := h.caught
        show p.stream.parties.receiver.highestAppliedSequence.toNat + (p.stream.reliable ++ [frame]).length =
          frame.sequence.toNat
        rw [List.length_append, List.length_singleton]
        omega
      · intro f hf
        have hle := UInt64.le_iff_toNat_le.mp (h.needs f hf)
        exact UInt64.le_iff_toNat_le.mpr (hle.trans hnext'.le)
      · intro f hf hsome
        rcases List.mem_append.mp hf with hf | hf
        · exact h.carries f hf hsome
        · obtain rfl := List.mem_singleton.mp hf
          have hmark : ∀ sequence : UInt64, sequence ≠ 0 → sequence.toNat ≠ 0 := by
            intro sequence hne hzero
            exact hne (UInt64.toNat_inj.mp hzero)
          simp only [wireNumbers, hevent] at hsome ⊢
          cases event with
          | key keyCode scanCode extended down => exact absurd rfl hsome
          | button button down x y motionSequence => exact hmark _ (hneeds rfl)
          | scroll deltaX deltaY x y motionSequence => exact hmark _ (hneeds rfl)

/-- A motion is stamped: with a new number, and the newest input. -/
theorem sendMotion_tracked (h : Tracked boot localPeerId session base p) {x y : Int32}
    (hin : InSession session (p.stream.sendMotion x y).parties) :
    Tracked boot localPeerId session base { p with stream := p.stream.sendMotion x y } := by
  have hflowing := sendMotion_flowing h.flowing (fun hfalse => absurd hfalse not_false) hin
  obtain ⟨d, hfits⟩ := h.flowing.fits
  have hfits' := (Controller.nextMotion_fits hfits x y).1
  unfold Stream.sendMotion at hin hflowing ⊢
  cases hstamped : p.stream.parties.controller.nextMotion x y with
  | mk answer controller =>
  rw [hstamped] at hin hflowing hfits'
  cases answer with
  | error e =>
    obtain rfl := Controller.nextMotion_eq_error hstamped
    exact h
  | ok frame =>
    dsimp only at hin hflowing hfits' ⊢
    cases hvalid : validateMotion frame with
    | error e =>
      rw [hvalid] at hin
      exact absurd hin (failTransport_left hfits')
    | ok u =>
      rw [hvalid] at hflowing
      obtain ⟨-, -, hnext, hneeds, -, -, rfl⟩ := Controller.nextMotion_eq_ok hstamped
      have hnew : ∀ f ∈ p.stream.motions, f.sequence ≠ frame.sequence := by
        intro f hf heq
        have hle : f.sequence.toNat ≤ p.stream.parties.controller.motionSequence.toNat :=
          h.flowing.onTheWay.flight.stamp_le f hf
        rw [heq] at hle
        omega
      refine ⟨hflowing, h.caught, ?_, ?_, h.carries, h.pointed⟩
      · intro f hf
        rcases List.mem_cons.mp hf with rfl | hf
        · exact UInt64.le_of_eq hneeds
        · exact h.needs f hf
      · intro f hf g hg heq
        rcases List.mem_cons.mp hf with hf | hf
        · rcases List.mem_cons.mp hg with hg | hg
          · rw [hf, hg]
          · rw [hf] at heq
            exact absurd heq.symm (hnew g hg)
        · rcases List.mem_cons.mp hg with hg | hg
          · rw [hg] at heq
            exact absurd heq (hnew f hf)
          · exact h.distinct f hf g hg heq

/-- The next reliable frame arrives. -/
theorem deliver_tracked (h : Tracked boot localPeerId session base p) {frame : CriticalFrame}
    {rest : List CriticalFrame}
    (hhead : p.stream.reliable = frame :: rest) (hlast : frame.sequence ≠ u64Max) (nowMs : UInt64) :
    Tracked boot localPeerId session base
      { stream := { p.stream with reliable := rest }.withReceiver
          (p.stream.parties.receiver.handleInputAt frame p.stream.parties.peer nowMs).2
        arrived := .item frame :: p.arrived } := by
  obtain ⟨hok, hflowing⟩ := deliver_accepted h.flowing hhead hlast nowMs
  have hflight := h.flowing.onTheWay.flight
  rw [hhead] at hflight
  obtain ⟨hnumber, hmark⟩ := hflight.head
  have hcarries : ∀ f ∈ p.stream.reliable, criticalMotionSnapshot f.event ≠ none →
    wireNumbers.mark f ≠ 0 := h.carries
  rw [hhead] at hcarries
  have hpointed := handleInputAt_pointed h.flowing.coherent h.pointed (hcarries frame List.mem_cons_self) hmark hok
  refine ⟨hflowing, ?_, h.needs, h.distinct, fun f hf => hcarries f (List.mem_cons_of_mem frame hf), hpointed⟩
  have happlied :
      (p.stream.parties.receiver.handleInputAt frame p.stream.parties.peer nowMs).2.highestAppliedSequence =
      frame.sequence := handleInputAt_applied h.flowing.coherent hok
  have hcaught := h.caught
  rw [hhead, List.length_cons] at hcaught
  have hnumber' : frame.sequence.toNat = p.stream.parties.receiver.highestAppliedSequence.toNat + 1 := hnumber
  show (p.stream.parties.receiver.handleInputAt frame p.stream.parties.peer nowMs).2.highestAppliedSequence.toNat +
    rest.length = _
  rw [happlied, hnumber']
  show _ = p.stream.parties.controller.inputSequence.toNat
  omega

/-- A motion frame which was sent arrives. -/
theorem deliverMotion_tracked (h : Tracked boot localPeerId session base p) {frame : MotionFrame}
    (hsent : frame ∈ p.stream.motions) (hrange : p.stream.parties.receiver.inRange frame.x frame.y = true)
    (nowMs : UInt64) :
    Tracked boot localPeerId session base
      { stream := p.stream.withReceiver
          (p.stream.parties.receiver.handleMotionAt frame p.stream.parties.peer nowMs).2
        arrived := .sample frame :: p.arrived } := by
  obtain ⟨⟨disposition, hok⟩, hflowing⟩ := deliverMotion_taken h.flowing hsent hrange nowMs
  have hone : ∀ f, p.stream.parties.receiver.pendingMotion = some f → f.sequence = frame.sequence → f = frame :=
    fun f hf heq => h.distinct f (h.flowing.onTheWay.pending f hf).1 frame hsent heq
  have hpointed := handleMotionAt_pointed h.flowing.lockstep h.pointed hone hok
  refine ⟨hflowing, ?_, h.needs, h.distinct, h.carries, hpointed⟩
  have hcaught := h.caught
  have happlied :
      (p.stream.parties.receiver.handleMotionAt frame p.stream.parties.peer nowMs).2.highestAppliedSequence =
      p.stream.parties.receiver.highestAppliedSequence := by
    rcases handleMotionAt_taken hok with ⟨-, heq⟩ | ⟨-, heq⟩ | ⟨-, -, happly, heq⟩
    · rw [heq]
    · rw [heq]
    · rw [heq]
      have hsame := (applyMotion_moved happly).2.2.2
      simp only [streamPart, Prod.mk.injEq] at hsame
      exact hsame.2.2.2.2.2
  show (p.stream.parties.receiver.handleMotionAt frame p.stream.parties.peer
    nowMs).2.highestAppliedSequence.toNat + p.stream.reliable.length = _
  rw [happlied]
  exact hcaught

theorem Pointer.next_bypasses {move : PartyMove} (hbypass : move.bypasses = true) :
    p.next debug (.party move) = p := by
  unfold Pointer.next
  rw [Stream.next_bypasses hbypass]
  rfl

theorem Pointer.next_party {move : PartyMove} (hbypass : move.bypasses = false) :
    p.next debug (.party move) =
      { p with stream := { p.stream with parties := p.stream.parties.next debug move } } := by
  unfold Pointer.next
  rw [Stream.next_party hbypass]
  rfl

theorem Pointer.next_deliver_nil (hnone : p.stream.reliable = []) (nowMs : UInt64) :
    p.next debug (.deliver nowMs) = p := by
  unfold Pointer.next Stream.next arrival
  dsimp only
  rw [hnone]
  rfl

theorem Pointer.next_deliver {frame : CriticalFrame} {rest : List CriticalFrame}
    (hhead : p.stream.reliable = frame :: rest) (nowMs : UInt64) :
    p.next debug (.deliver nowMs) =
      { stream := { p.stream with reliable := rest }.withReceiver
          (p.stream.parties.receiver.handleInputAt frame p.stream.parties.peer nowMs).2
        arrived := .item frame :: p.arrived } := by
  have harrives : arrival p.stream (.deliver nowMs) = [.item frame] := by
    unfold arrival
    dsimp only
    rw [hhead]
    rfl
  unfold Pointer.next
  rw [Stream.next_deliver hhead, harrives]
  rfl

theorem Pointer.next_deliverMotion {frame : MotionFrame} (hsent : frame ∈ p.stream.motions)
    (hrange : p.stream.parties.receiver.inRange frame.x frame.y = true) (nowMs : UInt64) :
    p.next debug (.deliverMotion frame nowMs) =
      { stream := p.stream.withReceiver
          (p.stream.parties.receiver.handleMotionAt frame p.stream.parties.peer nowMs).2
        arrived := .sample frame :: p.arrived } := by
  unfold Pointer.next arrival
  rw [Stream.next_deliverMotion hsent]
  dsimp only
  rw [if_pos ⟨hsent, hrange⟩]
  rfl

/-- A motion which was never sent, or is off the display. -/
theorem Pointer.next_deliverMotion_idle {frame : MotionFrame}
    (hnot : ¬ (frame ∈ p.stream.motions ∧ p.stream.parties.receiver.inRange frame.x frame.y = true))
    (nowMs : UInt64) : p.next debug (.deliverMotion frame nowMs) = p := by
  have hstream : p.stream.next debug (.deliverMotion frame nowMs) = p.stream := by
    by_cases hsent : frame ∈ p.stream.motions
    · rw [Stream.next_deliverMotion hsent]
      exact deliverMotion_outOfRange (Bool.eq_false_iff.mpr fun hrange => hnot ⟨hsent, hrange⟩) nowMs
    · exact Stream.next_unsent hsent nowMs
  unfold Pointer.next arrival
  rw [hstream]
  dsimp only
  rw [if_neg hnot]
  rfl

/-- **Every move** of a session which goes on. -/
theorem next_tracked (p : Pointer) (move : StreamMove) (h : Tracked boot localPeerId session base p)
    (hgoes : Regular debug session p move) : Tracked boot localPeerId session base (p.next debug move) := by
  obtain ⟨hgoes, hdisplay, hnumbered⟩ := hgoes
  cases move with
  | party move =>
    by_cases hbypass : move.bypasses = true
    · rw [Pointer.next_bypasses hbypass]
      exact h
    · have hfalse : move.bypasses = false := Bool.not_eq_true _ ▸ hbypass
      unfold GoesOn at hgoes
      dsimp only at hgoes
      rw [Stream.next_party hfalse] at hgoes
      rw [Pointer.next_party hfalse]
      exact party_tracked h hfalse hgoes
  | input event => exact sendInput_tracked h hdisplay hgoes
  | motion x y => exact sendMotion_tracked h hgoes
  | deliver nowMs =>
    cases hhead : p.stream.reliable with
    | nil =>
      rw [Pointer.next_deliver_nil hhead]
      exact h
    | cons frame rest =>
      rw [Pointer.next_deliver hhead]
      exact deliver_tracked h hhead (hnumbered frame (by rw [hhead]; rfl)) nowMs
  | deliverMotion frame nowMs =>
    by_cases hcounts : frame ∈ p.stream.motions ∧ p.stream.parties.receiver.inRange frame.x frame.y = true
    · rw [Pointer.next_deliverMotion hcounts.1 hcounts.2]
      exact deliverMotion_tracked h hcounts.1 hcounts.2 nowMs
    · rw [Pointer.next_deliverMotion_idle hcounts]
      exact h

/-- **Nothing waits** once every reliable frame has arrived. -/
theorem Tracked.pending_none (h : Tracked boot localPeerId session base p) (hall : p.stream.reliable = []) :
    p.stream.parties.receiver.pendingMotion = none := by
  by_contra hne
  obtain ⟨f, hf⟩ := Option.ne_none_iff_exists'.mp hne
  have hwaits := UInt64.lt_iff_toNat_lt.mp (h.flowing.lockstep.waits f hf)
  have hneeds := UInt64.le_iff_toNat_le.mp (h.needs f (h.flowing.onTheWay.pending f hf).1)
  have hcaught := h.caught
  rw [hall, List.length_nil] at hcaught
  omega

theorem Opened.tracked {parties : Parties} (hopened : Opened session parties)
    (h : Joined boot localPeerId parties) :
    Tracked boot localPeerId session (lastPoint parties.receiver.injector.posted) (Pointer.start parties) := by
  refine ⟨hopened.flowing h, ?_, by simp [Pointer.start, Stream.start], by simp [Pointer.start, Stream.start],
    by simp [Pointer.start, Stream.start], none, ?_, rfl⟩
  · show parties.receiver.highestAppliedSequence.toNat + 0 = parties.controller.inputSequence.toNat
    rw [hopened.highestApplied, hopened.inputSequence]
    rfl
  · show Settles wireNumbers [] parties.receiver.highestMotionSequence.toNat none parties.receiver.pendingMotion
    rw [hopened.highestMotion, hopened.pendingMotion]
    exact Feed.settles_nil

end Steps

/-- **The pointer converges.**  After any handshake which opened a session with an injector which succeeds, in
every run in which it goes on, every event is on the display and the last number of all does not arrive: once every
reliable frame which was sent has arrived, the last position which was posted is the mapped point of the newest
frame which has arrived. -/
theorem pointer_converges (localBoot : BootId) (localPeerId : String) (c : ControllerRuntime)
    (hnew : ControllerRuntime.newWithOverride localBoot localPeerId = .ok c) (receiverBoot : BootId)
    (injector : Injector) (displayLayouts : List ReceiverDisplayLayout) (peer : Receiver.AuthenticatedPeer)
    (debug : Receiver.SessionRuntimeError → String) (g : LocalOverride) (moments : List Moment)
    (entropy : List (Option (Vector UInt8 16))) (handshake : List PartyMove) (session : SessionId)
    (moves : List StreamMove) :
    let opened := run (Parties.next debug) (Parties.start c
      (ReceiverSessionRuntime.newWithDisplayLayouts receiverBoot injector displayLayouts) peer g moments
        entropy) handshake
    let p := run (Pointer.next debug) (Pointer.start opened) moves
    Opened session opened → Meets (Pointer.next debug) (Regular debug session) (Pointer.start opened) moves →
      p.stream.reliable = [] →
      ∀ entry, IsNewest wireNumbers p.arrived entry → PointsAt p.stream.parties.receiver entry := by
  intro opened p hopened hgoes hall entry hnewest
  have hjoined : Joined localBoot localPeerId opened :=
    run_invariant (fun p move => next_joined p move)
      (start_joined hnew receiverBoot injector displayLayouts peer g moments entropy) handshake
  have htracked : Tracked localBoot localPeerId session (lastPoint opened.receiver.injector.posted) p :=
    run_keeps (fun p move => next_tracked p move) (hopened.tracked hjoined) hgoes
  obtain ⟨shown, hsettles, hpoints⟩ := htracked.pointed
  rw [htracked.pending_none hall] at hsettles
  rw [hsettles.shown_eq hnewest] at hpoints
  exact hpoints

/-- The drag of the two motions ends where its last button is. -/
theorem pointer_converges_drag :
    PointsAt (run (Pointer.next fun _ => "") (Pointer.start Sample.joined) Sample.drag).stream.parties.receiver
      (.item ⟨Controller.Sample.session, 2, .button .left false 9 9 2⟩) := by
  refine pointer_converges (Controller.Sample.boot 1) "windows" Controller.Sample.controller rfl
    (Receiver.Sample.boot 2) ⟨[], []⟩ [Receiver.Sample.layout "left",
      Receiver.Sample.layout "right"] Receiver.Sample.peer
    (fun _ => "") ⟨1⟩ [] [some Controller.Sample.session.nonce] Sample.handover
      Controller.Sample.session Sample.drag
    Sample.joined_opened (by decide +kernel) (by decide +kernel) _ ?_
  refine ⟨[.sample (Sample.moved 2 1 9 9)], [.sample (Sample.moved 1 0 5 5),
    .item ⟨Controller.Sample.session, 1, .button .left true 5 5 1⟩, .sample (Sample.moved 2 1 9 9)], ?_, by decide,
    by decide, by decide⟩
  rfl

/-! ### The last number -/

section LastNumber

variable {boot : BootId} {localPeerId : String} {debug : Receiver.SessionRuntimeError → String}
    {session : SessionId}
  {base : Option (Int32 × Int32)} {p q : Pointer}

/-- What `n` keystrokes leave of a stream which was empty. -/
structure Typed (boot : BootId) (localPeerId : String) (session : SessionId) (base : Option (Int32 × Int32))
    (p : Pointer) (n : ℕ) (q : Pointer) : Prop where
  tracked : Tracked boot localPeerId session base q
  reliable : q.stream.reliable = []
  count : q.stream.parties.controller.inputSequence.toNat = n
  motions : q.stream.motions = p.stream.motions
  motionSequence : q.stream.parties.controller.motionSequence = p.stream.parties.controller.motionSequence
  arrived : ∀ entry ∈ q.arrived, entry ∈ p.arrived ∨ wireNumbers.rank entry = 0

/-- One more keystroke. -/
theorem Typed.more {n : ℕ} (h : Typed boot localPeerId session base p n q) (hn : n + 2 < 2 ^ 64) :
    Meets (Pointer.next debug) (Regular debug session) q keystroke ∧
      Typed boot localPeerId session base p (n + 1) (run (Pointer.next debug) q keystroke) := by
  have hsequence : (UInt64.ofNat (n + 1)).toNat = n + 1 := UInt64.toNat_ofNat_of_lt' (show n + 1 < 2 ^ 64 by omega)
  generalize UInt64.ofNat (n + 1) = sequence at hsequence
  have hnext : q.stream.parties.controller.inputSequence.toNat + 1 = sequence.toNat := by
    rw [h.count, hsequence]
  obtain ⟨hgoes, -, hempty, hcount, hreliable⟩ :=
    keystroke_flowing debug h.tracked.flowing h.reliable sequence hnext
  have hsent : q.stream.next debug (.input (.key 65 30 false true)) = _ := sendInput_key h.tracked.flowing hnext
  have harrives : arrival (q.stream.next debug (.input (.key 65 30 false true))) (.deliver 0) =
      [.item ⟨session, sequence, .key 65 30 false true⟩] := by
    unfold arrival
    dsimp only
    rw [hreliable]
    rfl
  have hlast : sequence ≠ u64Max := by
    rintro rfl
    rw [u64Max_toNat] at hsequence
    omega
  have hmeets : Meets (Pointer.next debug) (Regular debug session) q keystroke := by
    refine ⟨⟨hgoes.1.2, rfl, trivial⟩, ⟨trivial, trivial, ?_⟩, trivial⟩
    show ∀ frame ∈ (q.stream.next debug (.input (.key 65 30 false true))).reliable.head?, frame.sequence ≠ u64Max
    rw [hreliable]
    intro frame hframe
    obtain rfl := Option.some.inj hframe
    exact hlast
  refine ⟨hmeets, run_keeps (fun p move => next_tracked p move) h.tracked hmeets, hempty, ?_, ?_, ?_, ?_⟩
  · exact (congrArg UInt64.toNat hcount).trans hsequence
  · show ((q.stream.next debug (.input (.key 65 30 false true))).next debug (.deliver 0)).motions =
      p.stream.motions
    rw [Stream.next_deliver hreliable, hsent]
    exact h.motions
  · show ((q.stream.next debug (.input (.key 65 30 false true))).next debug
      (.deliver 0)).parties.controller.motionSequence = p.stream.parties.controller.motionSequence
    rw [Stream.next_deliver hreliable, hsent]
    exact h.motionSequence
  · show ∀ entry ∈ arrival (q.stream.next debug (.input (.key 65 30 false true))) (.deliver 0) ++
      ([] ++ q.arrived), entry ∈ p.arrived ∨ wireNumbers.rank entry = 0
    rw [harrives]
    intro entry hentry
    rcases List.mem_cons.mp hentry with rfl | hentry
    · exact Or.inr rfl
    · exact h.arrived entry hentry

/-- Many keystrokes. -/
theorem keystrokes_typed (h : Tracked boot localPeerId session base p) (hempty : p.stream.reliable = [])
    (hzero : p.stream.parties.controller.inputSequence = 0) (n : ℕ) (hn : n + 1 < 2 ^ 64) :
    Meets (Pointer.next debug) (Regular debug session) p (keystrokes n) ∧
      Typed boot localPeerId session base p n (run (Pointer.next debug) p (keystrokes n)) := by
  induction n with
  | zero => exact ⟨trivial, h, hempty, congrArg UInt64.toNat hzero, rfl, rfl, fun entry hentry => Or.inl hentry⟩
  | succ n ih =>
    obtain ⟨hgoes, htyped⟩ := ih (by omega)
    obtain ⟨hgoes', htyped'⟩ := htyped.more hn
    rw [keystrokes, run_append]
    exact ⟨(meets_append (Pointer.next debug) _ _ _ _).mpr ⟨hgoes, hgoes'⟩, htyped'⟩

/-- A button goes down, and its frame arrives. -/
def click : List StreamMove := [.input (.button .left true 5 5 0), .deliver 0]

/-- A click is stamped with the next number and the newest motion. -/
theorem sendInput_click {onDisplay : Prop} {s : Stream} (h : Flowing onDisplay boot localPeerId session s)
    {sequence : UInt64}
    (hnext : s.parties.controller.inputSequence.toNat + 1 = sequence.toNat)
    (hmotion : s.parties.controller.motionSequence = 1) :
    s.sendInput (.button .left true 5 5 0) =
      { s.withController { s.parties.controller with inputSequence := sequence } with
        reliable := s.reliable ++ [⟨session, sequence, .button .left true 5 5 1⟩] } := by
  obtain ⟨d, hfits⟩ := h.fits
  have hvalid : validateCritical ⟨session, sequence, .button .left true 5 5 1⟩ = .ok () := by
    have hsequence : sequence ≠ 0 := by
      rintro rfl
      cases hnext
    refine bind_eq_ok.mpr ⟨(), validateSession_eq_ok.mpr (hfits.session session rfl).1, ?_⟩
    exact bind_eq_ok.mpr ⟨(), validateNonzero_eq_ok.mpr hsequence, rfl⟩
  have hstamped : s.parties.controller.nextInput (.button .left true 5 5 0) =
      (.ok ⟨session, sequence, .button .left true 5 5 1⟩,
        { s.parties.controller with inputSequence := sequence }) := by
    have hadd : checkedAdd s.parties.controller.inputSequence 1 = some sequence := checkedAdd_eq_some.mpr hnext
    unfold ControllerRuntime.nextInput
    rw [h.inSession.1]
    dsimp only
    rw [if_neg (by simp [hmotion]), hadd, hmotion]
    rfl
  unfold Stream.sendInput
  rw [hstamped]
  dsimp only
  rw [hvalid]

/-- A click with the last number, at the point of a motion which was sent, arrives and changes nothing. -/
theorem click_lost (debug : Receiver.SessionRuntimeError → String)
    (h : Flowing True boot localPeerId session q.stream)
    (hempty : q.stream.reliable = []) (hnext : q.stream.parties.controller.inputSequence.toNat + 1 = u64Max.toNat)
    (hmotion : q.stream.parties.controller.motionSequence = 1) {frame : MotionFrame}
    (hframe : frame ∈ q.stream.motions) (hx : frame.x = 5) (hy : frame.y = 5) :
    Meets (Pointer.next debug) (fun p move => GoesOn debug session p move ∧ OnDisplay p move) q click ∧
      (run (Pointer.next debug) q click).stream.reliable = [] ∧
      (run (Pointer.next debug) q click).stream.parties.receiver = q.stream.parties.receiver ∧
      (run (Pointer.next debug) q click).arrived =
        .item ⟨session, u64Max, .button .left true 5 5 1⟩ :: q.arrived := by
  have hsent : q.stream.next debug (.input (.button .left true 5 5 0)) = _ := sendInput_click h hnext hmotion
  rw [hempty] at hsent
  have hrange : eventInRange q.stream.parties.receiver (.button .left true 5 5 0) = true := by
    have hfits := (h.onTheWay.motionsFit frame hframe).inRange trivial
    rw [hx, hy] at hfits
    exact hfits
  have hin : InSession session (q.stream.next debug (.input (.button .left true 5 5 0))).parties := by
    rw [hsent]
    exact h.inSession
  have hreliable : (q.stream.next debug (.input (.button .left true 5 5 0))).reliable =
      [⟨session, u64Max, .button .left true 5 5 1⟩] := by rw [hsent]; rfl
  obtain ⟨hrefused, -⟩ :=
    deliver_exhausted (next_flowing _ (.input (.button .left true 5 5 0)) h ⟨hrange, hin⟩) hreliable rfl 0
  have hlast : run (Pointer.next debug) q click =
      { stream := { q.stream.next debug (.input (.button .left true 5 5 0)) with reliable := [] }
        arrived := .item ⟨session, u64Max, .button .left true 5 5 1⟩ :: q.arrived } := by
    show (q.next debug (.input (.button .left true 5 5 0))).next debug (.deliver 0) = _
    unfold Pointer.next arrival
    dsimp only
    rw [Stream.next_deliver hreliable, hreliable, hrefused]
    rfl
  refine ⟨⟨⟨hin, hrange⟩, ⟨trivial, trivial⟩, trivial⟩, ?_⟩
  rw [hlast, hsent]
  exact ⟨rfl, rfl, rfl⟩

end LastNumber

/-- What `pointer_converges` says of the runs whose steps all meet `P`. -/
def ConvergesWhile (P : (Receiver.SessionRuntimeError → String) → SessionId → Pointer → StreamMove → Prop) :
    Prop :=
  ∀ (localBoot : BootId) (localPeerId : String) (c : ControllerRuntime)
    (_ : ControllerRuntime.newWithOverride localBoot localPeerId = .ok c) (receiverBoot : BootId)
    (injector : Injector) (displayLayouts : List ReceiverDisplayLayout) (peer : Receiver.AuthenticatedPeer)
    (debug : Receiver.SessionRuntimeError → String) (g : LocalOverride) (moments : List Moment)
    (entropy : List (Option (Vector UInt8 16))) (handshake : List PartyMove) (session : SessionId)
    (moves : List StreamMove),
    let opened := run (Parties.next debug) (Parties.start c
      (ReceiverSessionRuntime.newWithDisplayLayouts receiverBoot injector displayLayouts) peer g moments
        entropy) handshake
    let p := run (Pointer.next debug) (Pointer.start opened) moves
    Opened session opened → Meets (Pointer.next debug) (P debug session) (Pointer.start opened) moves →
      p.stream.reliable = [] →
      ∀ entry, IsNewest wireNumbers p.arrived entry → PointsAt p.stream.parties.receiver entry

namespace Sample

/-- What the sample would say. -/
theorem converges {P : (Receiver.SessionRuntimeError → String) → SessionId → Pointer → StreamMove → Prop}
    (hclaim : ConvergesWhile P) (moves : List StreamMove)
    (hmeets : Meets (Pointer.next fun _ => "") (P (fun _ => "") Controller.Sample.session)
      (Pointer.start joined) moves)
    (hall : (run (Pointer.next fun _ => "") (Pointer.start joined) moves).stream.reliable = [])
    {entry : Entry CriticalFrame MotionFrame}
    (hnewest : IsNewest wireNumbers (run (Pointer.next fun _ => "") (Pointer.start joined) moves).arrived entry) :
    PointsAt (run (Pointer.next fun _ => "") (Pointer.start joined) moves).stream.parties.receiver entry :=
  hclaim (Controller.Sample.boot 1) "windows" Controller.Sample.controller rfl (Receiver.Sample.boot 2) ⟨[], []⟩
    [Receiver.Sample.layout "left", Receiver.Sample.layout "right"] Receiver.Sample.peer (fun _ => "") ⟨1⟩ []
    [some Controller.Sample.session.nonce] handover Controller.Sample.session moves joined_opened hmeets
      hall entry hnewest

theorem joined_joined : Joined (Controller.Sample.boot 1) "windows" joined :=
  run_invariant (fun p move => next_joined p move) (start_joined rfl (Receiver.Sample.boot 2) ⟨[], []⟩
    [Receiver.Sample.layout "left", Receiver.Sample.layout "right"] Receiver.Sample.peer ⟨1⟩ []
    [some Controller.Sample.session.nonce]) handover

/-- A click off the display, and one on it. -/
def offDisplay : List StreamMove :=
  [.motion 5 5, .deliverMotion (moved 1 0 5 5) 0, .input (.button .left true 5000 5000 0), .deliver 0,
    .input (.button .right true 7 7 0), .deliver 0]

end Sample

/-- **A click off the display stops the stream**: it is refused, and so is every event after it. -/
theorem not_converges_offDisplay :
    ¬ ConvergesWhile fun debug session p move => GoesOn debug session p move ∧ HasSuccessor p move := by
  intro hclaim
  have hnewest : IsNewest wireNumbers
      (run (Pointer.next fun _ => "") (Pointer.start Sample.joined) Sample.offDisplay).arrived
      (.item ⟨Controller.Sample.session, 2, .button .right true 7 7 1⟩) :=
    ⟨[], [.item ⟨Controller.Sample.session, 1, .button .left true 5000 5000 1⟩, .sample (Sample.moved 1 0 5 5)],
      rfl,
      by decide, by decide, by decide⟩
  obtain ⟨x, y, point, hpoint, hmap, hlast⟩ :=
    Sample.converges hclaim Sample.offDisplay (by decide +kernel) (by decide +kernel) hnewest
  obtain ⟨rfl, rfl⟩ : (7 : Int32) = x ∧
    (7 : Int32) = y := by simpa [framePoint, criticalMotionSnapshot] using hpoint
  have hmapped := congrArg Except.toOption hmap
  rw [show (ReceiverSessionRuntime.mapActivePointer _ 7 7).toOption = some (7, 7) by decide +kernel] at hmapped
  rw [show lastPoint _ = some (5, 5) by decide +kernel] at hlast
  obtain rfl := Option.some.inj hmapped
  exact absurd hlast (by decide)

/-- **The point of the last number of all is lost.**  After a motion which does not arrive and `2 ^ 64 - 2`
keystrokes, a click carries the last number: the gate refuses it, and nothing was ever posted at its point. -/
theorem not_converges_lastNumber :
    ¬ ConvergesWhile fun debug session p move => GoesOn debug session p move ∧ OnDisplay p move := by
  intro hclaim
  have hstart :
      Tracked (Controller.Sample.boot 1) "windows" Controller.Sample.session none (Pointer.start Sample.joined) :=
    Sample.joined_opened.tracked Sample.joined_joined
  have hmoved : Regular (fun _ => "") Controller.Sample.session (Pointer.start Sample.joined) (.motion 5 5) := by
    decide +kernel
  have hone : Tracked (Controller.Sample.boot 1) "windows" Controller.Sample.session none
      ((Pointer.start Sample.joined).next (fun _ => "") (.motion 5 5)) := next_tracked _ _ hstart hmoved
  have hdisplayed : Flowing True (Controller.Sample.boot 1) "windows" Controller.Sample.session
      ((Stream.start Sample.joined).next (fun _ => "") (.motion 5 5)) := by
    have hgoes : Goes (fun _ => "") Controller.Sample.session (Stream.start Sample.joined) (.motion 5 5) := by
      decide +kernel
    exact next_flowing _ _ (Sample.joined_opened.flowing Sample.joined_joined) hgoes.proceeds
  have hmotions : ((Pointer.start Sample.joined).next (fun _ => "") (.motion 5 5)).stream.motions =
      [Sample.moved 1 0 5 5] := by decide +kernel
  obtain ⟨n, hn⟩ : ∃ n, n + 2 = 2 ^ 64 := ⟨2 ^ 64 - 2, by omega⟩
  obtain ⟨hgoes, htyped⟩ : Meets (Pointer.next fun _ => "") _ _ _ ∧ _ :=
    keystrokes_typed hone (by decide +kernel) (by decide +kernel) n (by omega)
  have hflowing : Flowing True (Controller.Sample.boot 1) "windows" Controller.Sample.session
      (run (Pointer.next fun _ => "") ((Pointer.start Sample.joined).next (fun _ => "") (.motion 5 5))
        (keystrokes n)).stream := by
    rw [Pointer.run_stream]
    exact (keystrokes_flowing (fun _ => "") hdisplayed (by decide +kernel) (by decide +kernel) n (by omega)).2.1
  generalize hq : run (Pointer.next fun _ => "") ((Pointer.start Sample.joined).next (fun _ => "") (.motion 5 5))
    (keystrokes n) = q at htyped hflowing
  have hnext : q.stream.parties.controller.inputSequence.toNat + 1 = u64Max.toNat := by
    rw [htyped.count, u64Max_toNat]
    omega
  have hframe : Sample.moved 1 0 5 5 ∈ q.stream.motions := by
    rw [htyped.motions, hmotions]
    exact List.mem_cons_self
  obtain ⟨hclick, hempty, hreceiver, harrived⟩ := click_lost (fun _ => "") hflowing htyped.reliable hnext
    (htyped.motionSequence.trans (by decide +kernel)) hframe rfl rfl
  have hrun :
      run (Pointer.next fun _ => "") (Pointer.start Sample.joined) (.motion 5 5 :: (keystrokes n ++ click)) =
      run (Pointer.next fun _ => "") q click := by
    rw [run_cons, run_append, hq]
  have hmeets : Meets (Pointer.next fun _ => "")
      (fun p move => GoesOn (fun _ => "") Controller.Sample.session p move ∧ OnDisplay p move)
      (Pointer.start Sample.joined) (.motion 5 5 :: (keystrokes n ++ click)) := by
    refine ⟨⟨hmoved.1, trivial⟩, (meets_append _ _ _ _ _).mpr ⟨?_, ?_⟩⟩
    · exact meets_keeps (I := fun _ => True) (fun p move _ h => ⟨trivial, h.1, h.2.1⟩) trivial hgoes
    · rw [hq]
      exact hclick
  -- nothing which has arrived before carries a point
  have hnothing : ∀ entry ∈ q.arrived, wireNumbers.rank entry = 0 := by
    intro entry hentry
    rcases htyped.arrived entry hentry with hold | hzero
    · cases hold
    · exact hzero
  have hnewest : IsNewest wireNumbers (run (Pointer.next fun _ => "") q click).arrived
      (.item ⟨Controller.Sample.session, u64Max, .button .left true 5 5 1⟩) := by
    refine ⟨[], q.arrived, harrived, by decide, ?_, by simp⟩
    intro o ho
    refine Or.inl ?_
    rw [hnothing o ho]
    decide
  have hpoints := Sample.converges hclaim (.motion 5 5 :: (keystrokes n ++ click)) hmeets
  rw [hrun] at hpoints
  obtain ⟨x, y, point, -, -, hposted⟩ := hpoints hempty hnewest
  obtain ⟨shown, hsettles, hshown⟩ := htyped.tracked.pointed
  rw [hsettles.shown_eq_none (Feed.newest_eq_none hnothing)] at hshown
  have hnone : lastPoint q.stream.parties.receiver.injector.posted = none := hshown
  rw [← hreceiver] at hnone
  cases hnone.symm.trans hposted

/-- The more runs, the more is said. -/
theorem ConvergesWhile.mono
    {P Q : (Receiver.SessionRuntimeError → String) → SessionId → Pointer → StreamMove → Prop}
    (h : ConvergesWhile P) (hpq : ∀ debug session p move, Q debug session p move → P debug session p move) :
    ConvergesWhile Q := by
  intro localBoot localPeerId c hnew receiverBoot injector displayLayouts peer debug g moments entropy
    handshake session moves opened p hopened hmeets
  have hmeets' : Meets (Pointer.next debug) (P debug session) (Pointer.start opened) moves :=
    meets_keeps (I := fun _ => True) (fun p move _ hq => ⟨trivial, hpq debug session p move hq⟩) trivial hmeets
  exact h localBoot localPeerId c hnew receiverBoot injector displayLayouts peer debug g moments entropy
    handshake session moves hopened hmeets'

/-- **Not every session which goes on converges**, and both conditions are needed. -/
theorem not_pointer_converges :
    ¬ ConvergesWhile GoesOn ∧
      (¬ ConvergesWhile fun debug session p move => GoesOn debug session p move ∧ HasSuccessor p move) ∧
      ¬ ConvergesWhile fun debug session p move => GoesOn debug session p move ∧ OnDisplay p move := by
  refine ⟨fun hclaim => not_converges_offDisplay ?_, not_converges_offDisplay, not_converges_lastNumber⟩
  exact hclaim.mono fun debug session p move h => h.1

end MyKvm.System
