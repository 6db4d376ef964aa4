import MyKvm.System.Flowing

/-!
# MyKvm.System.Delivery — no false rejects

After any handshake which opened a session, in every run in which it goes on, what arrives is accepted
(`no_false_rejects`).

The numbers of the controller go one further than the gate: the last one is refused for want of a successor
(`not_no_false_rejects`).
-/

namespace MyKvm.System

open MyKvm.Lib MyKvm.Protocol MyKvm.Routing
open MyKvm.Controller (ControllerRuntime)
open MyKvm.Receiver (ReceiverSessionRuntime ReceiverDisplayLayout)

/-! ### Runs -/

/-- **An arrival is accepted**: every reliable frame, and no motion frame ends the session. -/
def Accepts (session : SessionId) (s : Stream) : StreamMove → Prop
  | .deliver nowMs => ∀ frame rest, s.reliable = frame :: rest →
      (s.parties.receiver.handleInputAt frame s.parties.peer nowMs).1 = .ok ()
  | .deliverMotion frame nowMs => frame ∈ s.motions →
      (s.parties.receiver.handleMotionAt frame s.parties.peer nowMs).2.activeSession = some session
  | _ => True

/-- **An arrival is accepted unless the numbers are exhausted**, and the session goes on.  A motion frame is
answered; the reliable frame with the last number of all is refused, and changes nothing. -/
def AcceptsNumbered (session : SessionId) (s : Stream) : StreamMove → Prop
  | .deliver nowMs => ∀ frame rest, s.reliable = frame :: rest →
      (frame.sequence ≠ u64Max → (s.parties.receiver.handleInputAt frame s.parties.peer nowMs).1 = .ok () ∧
        (s.parties.receiver.handleInputAt frame s.parties.peer nowMs).2.activeSession = some session) ∧
      (frame.sequence = u64Max → s.parties.receiver.handleInputAt frame s.parties.peer nowMs =
        (.error (.protocol (.invalidField "sequence")), s.parties.receiver))
  | .deliverMotion frame nowMs => frame ∈ s.motions →
      (∃ disposition, (s.parties.receiver.handleMotionAt frame s.parties.peer nowMs).1 = .ok disposition) ∧
        (s.parties.receiver.handleMotionAt frame s.parties.peer nowMs).2.activeSession = some session
  | _ => True

section Runs

variable {onDisplay : Prop} {boot : BootId} {localPeerId : String} {debug : Receiver.SessionRuntimeError → String}
  {session : SessionId} {s : Stream} {p : Parties}

/-- **Every move** of a session which goes on keeps it flowing. -/
theorem next_flowing (s : Stream) (move : StreamMove) (h : Flowing onDisplay boot localPeerId session s)
    (hgoes : Proceeds onDisplay debug session s move) :
    Flowing onDisplay boot localPeerId session (s.next debug move) := by
  cases move with
  | party move =>
    cases hbypass : move.bypasses with
    | true =>
      rw [Stream.next_bypasses hbypass]
      exact h
    | false =>
      unfold Proceeds at hgoes
      dsimp only at hgoes
      rw [Stream.next_party hbypass] at hgoes ⊢
      exact party_flowing h hbypass hgoes
  | input event => exact sendInput_flowing h hgoes.1 hgoes.2
  | motion x y => exact sendMotion_flowing h hgoes.1 hgoes.2
  | deliver nowMs =>
    cases hhead : s.reliable with
    | nil =>
      have hidle : s.next debug (.deliver nowMs) = s := by
        unfold Stream.next
        dsimp only
        rw [hhead]
      rw [hidle]
      exact h
    | cons frame rest =>
      rw [Stream.next_deliver hhead]
      by_cases hlast : frame.sequence = u64Max
      · obtain ⟨hrefused, hflowing⟩ := deliver_exhausted h hhead hlast nowMs
        rw [hrefused]
        exact hflowing
      · exact (deliver_accepted h hhead hlast nowMs).2
  | deliverMotion frame nowMs =>
    by_cases hsent : frame ∈ s.motions
    · rw [Stream.next_deliverMotion hsent]
      by_cases hrange : s.parties.receiver.inRange frame.x frame.y = true
      · exact (deliverMotion_taken h hsent hrange nowMs).2
      · rw [deliverMotion_outOfRange (Bool.not_eq_true _ ▸ hrange)]
        exact h
    · rw [Stream.next_unsent hsent]
      exact h

/-- **What arrives is accepted**, while every motion is on the display. -/
theorem Flowing.acceptsNumbered (h : Flowing True boot localPeerId session s) (move : StreamMove) :
    AcceptsNumbered session s move := by
  cases move with
  | party move | input event | motion x y => trivial
  | deliver nowMs =>
    intro frame rest hhead
    refine ⟨fun hlast => ?_, fun hlast => (deliver_exhausted h hhead hlast nowMs).1⟩
    obtain ⟨hok, hflowing⟩ := deliver_accepted h hhead hlast nowMs
    exact ⟨hok, hflowing.inSession.2.1⟩
  | deliverMotion frame nowMs =>
    intro hsent
    obtain ⟨hok, hflowing⟩ :=
      deliverMotion_taken h hsent ((h.onTheWay.motionsFit frame hsent).inRange trivial) nowMs
    exact ⟨hok, hflowing.inSession.2.1⟩

/-- A session which was just opened flows. -/
theorem Opened.flowing (hopened : Opened session p) (h : Joined boot localPeerId p) :
    Flowing onDisplay boot localPeerId session (Stream.start p) := by
  obtain ⟨st, hsound, hphase⟩ := h.agrees
  obtain ⟨hactive, hreceiver, hbinding⟩ := hopened.inSession
  obtain ⟨d, rfl⟩ := hsound.fits.of_active (Controller.ControllerHandshake.activeSession_eq_some.mp hactive)
  obtain ⟨-, -, -, -, hdisplay⟩ := hsound.fits.stage
  have hshown : p.receiver.activeDisplay.map displayKey = some d := by
    have hnewest := (h.shows session hreceiver).symm.trans hphase.2
    exact (Prod.mk.inj (Option.some.inj hnewest)).2
  refine ⟨⟨d, hsound.fits⟩, h.coherent, h.lockstep, h.own, hopened.inSession, hshown.trans hdisplay.symm,
    hopened.succeeds, ⟨?_, Or.inl ?_, by simp [Stream.start], by simp [Stream.start], ?_⟩⟩
  · show Feed.Flight wireNumbers [] [] p.controller.inputSequence.toNat p.controller.motionSequence.toNat
      p.receiver.highestAppliedSequence.toNat p.receiver.highestMotionSequence.toNat
    rw [hopened.highestApplied, hopened.highestMotion]
    exact Feed.flight_nil wireNumbers _ _
  · show p.receiver.highestAppliedSequence.toNat + 0 = p.controller.inputSequence.toNat
    rw [hopened.highestApplied, hopened.inputSequence]
    rfl
  · intro frame hpending
    cases hopened.pendingMotion.symm.trans hpending

/-- **No false rejects.**  After any handshake which opened a session, in every run in which it goes on (the
reliable frames arrive in order and once, the motion frames at any time, any number of times or never):
every reliable frame is accepted, up to the last number which has a successor, and no motion frame is
refused or ends the session. -/
theorem no_false_rejects (localBoot : BootId) (localPeerId : String) (c : ControllerRuntime)
    (hnew : ControllerRuntime.newWithOverride localBoot localPeerId = .ok c) (receiverBoot : BootId)
    (injector : Injector) (displayLayouts : List ReceiverDisplayLayout) (peer : Receiver.AuthenticatedPeer)
    (debug : Receiver.SessionRuntimeError → String) (g : LocalOverride) (moments : List Moment)
    (entropy : List (Option (Vector UInt8 16))) (handshake : List PartyMove) (session : SessionId)
    (moves : List StreamMove) :
    let p := run (Parties.next debug) (Parties.start c
      (ReceiverSessionRuntime.newWithDisplayLayouts receiverBoot injector displayLayouts) peer g moments
        entropy) handshake
    Opened session p → Meets (Stream.next debug) (Goes debug session) (Stream.start p) moves →
      Meets (Stream.next debug) (AcceptsNumbered session) (Stream.start p) moves := by
  intro p hopened hgoes
  have hjoined : Joined localBoot localPeerId p :=
    run_invariant (fun p move => next_joined p move)
      (start_joined hnew receiverBoot injector displayLayouts peer g moments entropy) handshake
  have hflowing : Flowing True localBoot localPeerId session (Stream.start p) := hopened.flowing hjoined
  exact meets_keeps (fun s move h hgoes => ⟨next_flowing s move h hgoes.proceeds, h.acceptsNumbered move⟩)
    hflowing hgoes

end Runs

namespace Sample

theorem joined_opened : Opened Controller.Sample.session joined :=
  ⟨by decide +kernel, by decide +kernel, by decide +kernel, by decide +kernel, by decide +kernel,
    by decide +kernel, by decide +kernel⟩

/-- A motion of the session, on the display of the handover. -/
def moved (sequence required : UInt64) (x y : Int32) : MotionFrame :=
  ⟨Controller.Sample.session, "left", 1, sequence, required, x, y⟩

/-- A drag whose second motion arrives before its button, and whose first one after it. -/
def drag : List StreamMove :=
  [.motion 5 5, .input (.button .left true 5 5 0), .motion 9 9, .deliverMotion (moved 2 1 9 9) 0, .deliver 0,
    .deliverMotion (moved 1 0 5 5) 0, .input (.button .left false 9 9 0), .deliver 0,
    .deliverMotion (moved 2 1 9 9) 0]

end Sample

theorem no_false_rejects_drag :
    Meets (Stream.next fun _ => "") (AcceptsNumbered Controller.Sample.session)
      (Stream.start Sample.joined) Sample.drag :=
  no_false_rejects (Controller.Sample.boot 1) "windows" Controller.Sample.controller rfl
    (Receiver.Sample.boot 2) _ _
    Receiver.Sample.peer (fun _ => "") ⟨1⟩ [] [some Controller.Sample.session.nonce] Sample.handover
    Controller.Sample.session Sample.drag Sample.joined_opened (by decide +kernel)

/-! ### The last number -/

section LastNumber

variable {onDisplay : Prop} {boot : BootId} {localPeerId : String} {session : SessionId} {s : Stream}

/-- A key goes down, and its frame arrives. -/
def keystroke : List StreamMove := [.input (.key 65 30 false true), .deliver 0]

def keystrokes : ℕ → List StreamMove
  | 0 => []
  | n + 1 => keystrokes n ++ keystroke

/-- A key is stamped with the next number. -/
theorem sendInput_key (h : Flowing onDisplay boot localPeerId session s) {sequence : UInt64}
    (hnext : s.parties.controller.inputSequence.toNat + 1 = sequence.toNat) :
    s.sendInput (.key 65 30 false true) =
      { s.withController { s.parties.controller with inputSequence := sequence } with
        reliable := s.reliable ++ [⟨session, sequence, .key 65 30 false true⟩] } := by
  obtain ⟨d, hfits⟩ := h.fits
  have hvalid : validateCritical ⟨session, sequence, .key 65 30 false true⟩ = .ok () := by
    have hsequence : sequence ≠ 0 := by
      rintro rfl
      cases hnext
    refine bind_eq_ok.mpr ⟨(), validateSession_eq_ok.mpr (hfits.session session rfl).1, ?_⟩
    exact bind_eq_ok.mpr ⟨(), validateNonzero_eq_ok.mpr hsequence, rfl⟩
  have hstamped : s.parties.controller.nextInput (.key 65 30 false true) =
      (.ok ⟨session, sequence, .key 65 30 false true⟩,
        { s.parties.controller with inputSequence := sequence }) := by
    have hadd : checkedAdd s.parties.controller.inputSequence 1 = some sequence := checkedAdd_eq_some.mpr hnext
    unfold ControllerRuntime.nextInput
    rw [h.inSession.1]
    dsimp only
    rw [if_neg (by simp [ControllerRuntime.needsMotion]), hadd]
    rfl
  unfold Stream.sendInput
  rw [hstamped]
  dsimp only
  rw [hvalid]

/-- **A keystroke** takes the next number. -/
theorem keystroke_flowing (debug : Receiver.SessionRuntimeError → String)
    (h : Flowing onDisplay boot localPeerId session s) (hempty : s.reliable = []) (sequence : UInt64)
    (hnext : s.parties.controller.inputSequence.toNat + 1 = sequence.toNat) :
    Meets (Stream.next debug) (Goes debug session) s keystroke ∧
      Flowing onDisplay boot localPeerId session (run (Stream.next debug) s keystroke) ∧
      (run (Stream.next debug) s keystroke).reliable = [] ∧
      (run (Stream.next debug) s keystroke).parties.controller.inputSequence = sequence ∧
      (s.next debug (.input (.key 65 30 false true))).reliable = [⟨session, sequence, .key 65 30 false true⟩] := by
  have hgoes : Goes debug session s (.input (.key 65 30 false true)) := by
    refine ⟨rfl, ?_⟩
    show InSession session (s.sendInput (.key 65 30 false true)).parties
    rw [sendInput_key h hnext]
    exact h.inSession
  have hflowing : Flowing onDisplay boot localPeerId session (s.next debug (.input (.key 65 30 false true))) :=
    next_flowing s _ h hgoes.proceeds
  have hcount : (s.next debug (.input (.key 65 30 false true))).parties.controller.inputSequence = sequence := by
    show (s.sendInput (.key 65 30 false true)).parties.controller.inputSequence = sequence
    rw [sendInput_key h hnext]
    rfl
  have hreliable : (s.next debug (.input (.key 65 30 false true))).reliable =
      [⟨session, sequence, .key 65 30 false true⟩] := by
    show (s.sendInput (.key 65 30 false true)).reliable = _
    rw [sendInput_key h hnext]
    show s.reliable ++ [_] = _
    rw [hempty]
    rfl
  have hdelivered : Flowing onDisplay boot localPeerId session
      ((s.next debug (.input (.key 65 30 false true))).next debug (.deliver 0)) :=
    next_flowing _ (.deliver 0) hflowing trivial
  have hrun : run (Stream.next debug) s keystroke =
      (s.next debug (.input (.key 65 30 false true))).next debug (.deliver 0) := rfl
  rw [hrun]
  refine ⟨⟨hgoes, trivial, trivial⟩, hdelivered, ?_, ?_, hreliable⟩
  · rw [Stream.next_deliver hreliable]
    rfl
  · rw [Stream.next_deliver hreliable]
    exact hcount

/-- So do many. -/
theorem keystrokes_flowing (debug : Receiver.SessionRuntimeError → String)
    (h : Flowing onDisplay boot localPeerId session s)
    (hempty : s.reliable = []) (hzero : s.parties.controller.inputSequence = 0) (n : ℕ) (hn : n < 2 ^ 64) :
    Meets (Stream.next debug) (Goes debug session) s (keystrokes n) ∧
      Flowing onDisplay boot localPeerId session (run (Stream.next debug) s (keystrokes n)) ∧
      (run (Stream.next debug) s (keystrokes n)).reliable = [] ∧
      (run (Stream.next debug) s (keystrokes n)).parties.controller.inputSequence.toNat = n := by
  induction n with
  | zero => exact ⟨trivial, h, hempty, congrArg UInt64.toNat hzero⟩
  | succ n ih =>
    obtain ⟨hgoes, hflowing, hreliable, hcount⟩ := ih (by omega)
    have hsequence : (UInt64.ofNat (n + 1)).toNat = n + 1 := UInt64.toNat_ofNat_of_lt' hn
    obtain ⟨hgoes', hflowing', hreliable', hcount', -⟩ := keystroke_flowing debug hflowing hreliable
      (UInt64.ofNat (n + 1)) (by rw [hcount, hsequence])
    rw [keystrokes, run_append]
    refine ⟨(meets_append (Stream.next debug) _ _ _ _).mpr ⟨hgoes, hgoes'⟩, hflowing', hreliable', ?_⟩
    rw [hcount', hsequence]

end LastNumber

/-- **The last number of all is refused.**  After `2 ^ 64 - 2` keystrokes the controller stamps another one, and
the gate has no successor for its number. -/
theorem not_no_false_rejects :
    ¬ ∀ (localBoot : BootId) (localPeerId : String) (c : ControllerRuntime)
      (_ : ControllerRuntime.newWithOverride localBoot localPeerId = .ok c) (receiverBoot : BootId)
      (injector : Injector) (displayLayouts : List ReceiverDisplayLayout) (peer : Receiver.AuthenticatedPeer)
      (debug : Receiver.SessionRuntimeError → String) (g : LocalOverride) (moments : List Moment)
      (entropy : List (Option (Vector UInt8 16))) (handshake : List PartyMove) (session : SessionId)
      (moves : List StreamMove),
      let p := run (Parties.next debug) (Parties.start c
        (ReceiverSessionRuntime.newWithDisplayLayouts receiverBoot injector displayLayouts) peer g moments
          entropy) handshake
      Opened session p → Meets (Stream.next debug) (Goes debug session) (Stream.start p) moves →
        Meets (Stream.next debug) (Accepts session) (Stream.start p) moves := by
  intro hclaim
  have hjoined : Joined (Controller.Sample.boot 1) "windows" Sample.joined :=
    run_invariant (fun p move => next_joined p move) (start_joined rfl (Receiver.Sample.boot 2) ⟨[], []⟩
      [Receiver.Sample.layout "left", Receiver.Sample.layout "right"] Receiver.Sample.peer ⟨1⟩ []
      [some Controller.Sample.session.nonce]) Sample.handover
  have hstart :
      Flowing True (Controller.Sample.boot 1) "windows" Controller.Sample.session (Stream.start Sample.joined) :=
    Sample.joined_opened.flowing hjoined
  obtain ⟨n, hn⟩ : ∃ n, n + 2 = 2 ^ 64 := ⟨2 ^ 64 - 2, by omega⟩
  obtain ⟨hgoes, hflowing, hreliable, hcount⟩ := keystrokes_flowing (fun _ => "") hstart rfl
    Sample.joined_opened.inputSequence n (by omega)
  obtain ⟨hgoes', -, -, -, hsent⟩ := keystroke_flowing (fun _ => "") hflowing hreliable u64Max
    (by rw [hcount, u64Max_toNat]; omega)
  have hmeets : Meets (Stream.next fun _ => "") (Accepts Controller.Sample.session) (Stream.start Sample.joined)
      (keystrokes n ++ keystroke) := hclaim (Controller.Sample.boot 1) "windows" Controller.Sample.controller rfl
    (Receiver.Sample.boot 2) ⟨[], []⟩ [Receiver.Sample.layout "left",
      Receiver.Sample.layout "right"] Receiver.Sample.peer
    (fun _ => "") ⟨1⟩ [] [some Controller.Sample.session.nonce] Sample.handover Controller.Sample.session
    (keystrokes n ++ keystroke) Sample.joined_opened
    ((meets_append _ _ _ _ _).mpr ⟨hgoes, hgoes'⟩)
  obtain ⟨-, -, haccepts, -⟩ := (meets_append _ _ _ _ _).mp hmeets
  have hok := haccepts _ _ hsent
  have hnumbered := (next_flowing _ _ hflowing hgoes'.1.proceeds).acceptsNumbered (.deliver 0)
  have hrefused := (hnumbered _ _ hsent).2 rfl
  rw [hrefused] at hok
  cases hok

end MyKvm.System
