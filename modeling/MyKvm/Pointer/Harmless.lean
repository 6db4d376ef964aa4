import MyKvm.Pointer.Roaming
import MyKvm.Protocol.Wire

/-!
# MyKvm.Pointer.Harmless — what a captured event does to its session

A captured button, wheel or key becomes a critical frame, which the transport refuses if it does not pass the check
of the protocol; and a transport which refuses a frame ends the session.

* `processWindowsHookEvent_cases`: a captured event is dropped, returns control, or is sent.
* `sendInput_cases`: what is sent is one frame, and nothing else is handed over.
* `validateCritical_stamped`: which events the check lets pass, once they are stamped.
* `captured_events_valid`: what follows for every state which a run reaches.
-/

namespace MyKvm.Pointer

open MyKvm.Lib MyKvm.Lib.Coordinate MyKvm.Protocol MyKvm.Routing MyKvm.Controller MyKvm.Layout MyKvm.Hook Fallible
open ControllerClient (transportCall disconnect setNextPing withRuntime stamped sendControls failTransport)

/-! ### What is handed over -/

/-- The critical frame which is handed to the transport. -/
def handedFrame : ClientNote → Option CriticalFrame
  | .called (.sendInput frame) _ => some frame
  | _ => none

/-- The critical frames which an operation hands to the transport, first to last. -/
def handedFrames (old new : ClientSetting) : List CriticalFrame :=
  ((new.world.notes.take (new.world.notes.length - old.world.notes.length)).reverse).filterMap handedFrame

theorem handedFrames_eq {old new : ClientSetting} (recent : List ClientNote)
    (h : new.world.notes = recent ++ old.world.notes) :
    handedFrames old new = recent.reverse.filterMap handedFrame := by
  unfold handedFrames
  rw [h, List.length_append, Nat.add_sub_cancel, List.take_left]

/-- There are more notes, without a critical frame. -/
def HandsNone (notes : List ClientNote) (s : ClientSetting) : Prop :=
  ∃ recent, s.world.notes = recent ++ notes ∧ recent.filterMap handedFrame = []

section Silent

variable {notes : List ClientNote}

theorem HandsNone.same {s s' : ClientSetting} (h : HandsNone notes s) (hnotes : s'.world.notes = s.world.notes) :
    HandsNone notes s' := by
  unfold HandsNone
  rwa [hnotes]

theorem HandsNone.note {s s' : ClientSetting} (h : HandsNone notes s) {n : ClientNote} (hn : handedFrame n = none)
    (hnotes : s'.world.notes = n :: s.world.notes) : HandsNone notes s' := by
  obtain ⟨recent, hrecent, hnone⟩ := h
  refine ⟨n :: recent, by rw [hnotes, hrecent]; rfl, ?_⟩
  rw [List.filterMap_cons, hn]
  exact hnone

theorem transportCall_silent {call : TransportCall} (h : ∀ frame, call ≠ .sendInput frame) :
    Keeps (HandsNone notes) (transportCall call) := by
  apply keeps_act
  intro s hs
  have hpass : s.world.pass.2.notes = s.world.notes := s.world.pass_drifts.notes
  have hnone : ∀ answer, handedFrame (.called call answer) = none := by
    intro answer
    cases call with
    | sendInput frame => exact absurd rfl (h frame)
    | _ => rfl
  dsimp only
  split
  · exact hs.note (hnone _) (congrArg _ hpass)
  · exact hs.note (hnone _) (congrArg _ hpass)

theorem disconnect_silent : Keeps (HandsNone notes) disconnect :=
  keeps_act fun s hs => hs.note rfl (congrArg _ s.world.pass_drifts.notes)

theorem setNextPing_silent (nextPingMs : Option UInt64) : Keeps (HandsNone notes) (setNextPing nextPingMs) :=
  keeps_act fun _ hs => hs

theorem goLocal_runtime_silent (reason : ReturnReason) :
    Keeps (HandsNone notes) (withRuntime fun c w => c.goLocal reason w) :=
  keeps_act fun s hs => hs.same (s.client.runtime.router.goLocal_drifts reason s.world).notes

theorem sendControls_silent (actions : List ControllerAction) :
    Keeps (HandsNone notes) (sendControls actions) := by
  induction actions with
  | nil => exact keeps_pure _
  | cons action actions ih =>
    cases action with
    | sendControl frame => exact (transportCall_silent (by simp)).bind fun _ => ih
    | openInput t => exact ih
    | closeInput => exact ih

theorem failTransport_silent : Keeps (HandsNone notes) failTransport := by
  refine (goLocal_runtime_silent .networkFailed).bind fun answer => ?_
  have hrest : Keeps (HandsNone notes) (do disconnect; setNextPing none) :=
    disconnect_silent.bind fun _ => setNextPing_silent none
  cases answer with
  | ok actions => exact (sendControls_silent actions).bind fun _ => hrest
  | error e => exact (keeps_pure ()).bind fun _ => hrest

theorem apply_silent (actions : List ControllerAction) :
    Keeps (HandsNone notes) (ControllerClient.apply actions) := by
  induction actions with
  | nil => exact keeps_pure _
  | cons action actions ih =>
    have hperform : Keeps (HandsNone notes) (ControllerClient.perform action) := by
      cases action with
      | sendControl frame => exact transportCall_silent (by simp)
      | openInput t => exact transportCall_silent (by simp)
      | closeInput => exact disconnect_silent.bind fun _ => keeps_pure _
    refine hperform.bind fun answer => ?_
    cases answer with
    | error e => exact failTransport_silent.bind fun _ => keeps_throw _
    | ok u => exact ih

/-- **A return** hands no critical frame over. -/
theorem goLocal_silent (reason : ReturnReason) : Keeps (HandsNone notes) (ControllerClient.goLocal reason) := by
  refine (goLocal_runtime_silent reason).bind fun answer => ?_
  cases answer with
  | error e => exact keeps_throw _
  | ok actions => exact (apply_silent actions).bind fun _ => setNextPing_silent none

end Silent

/-! ### Sending -/

/-- The queue of the transport has room: the next call is not refused. -/
def Takes (s : ClientSetting) : Prop := ∀ e, s.client.transport.head? ≠ some (.error e)

theorem requestLocals_log (n : ℕ) (w : World ClientNote) :
    (World.requestLocals n w).log = List.replicate n .requestLocal ++ w.log := by
  induction n generalizing w with
  | zero => rfl
  | succ n ih => rw [World.requestLocals, ih, List.replicate_succ', List.append_assoc]; rfl

/-- A turn of the outside is seen by nobody but the gate. -/
theorem pass_log (w : World ClientNote) : ∃ n, w.pass.2.log = List.replicate n .requestLocal ++ w.log := by
  unfold World.pass
  split
  · exact ⟨0, rfl⟩
  · exact ⟨_, requestLocals_log _ _⟩

/-- What is left of the session by an event which was handed over as `frame`, if the transport takes it. -/
def Goes (s : ClientSetting) (c : ControllerRuntime) (s' : ClientSetting) : Prop :=
  s'.client.runtime = c ∧ ∃ n note, s'.world.log = .note note :: (List.replicate n .requestLocal ++ s.world.log)

/-- **A stamped event** is handed over, and nothing else; a transport which takes it leaves the rest alone. -/
theorem sendInput_ok {s : ClientSetting} {event : CriticalEvent} {frame : CriticalFrame} {c : ControllerRuntime}
    (hnext : s.client.runtime.nextInput event = (.ok frame, c)) :
    handedFrames s ((ControllerClient.sendInput event).exec s).2 = [frame] ∧
      (Takes s → Goes s c ((ControllerClient.sendInput event).exec s).2) := by
  have hkept : Ensures (ControllerClient.sendInput event) s
      (fun _ s' => handedFrames s s' = [frame] ∧ (Takes s → Goes s c s'))
      (fun _ s' => handedFrames s s' = [frame] ∧ (Takes s → Goes s c s')) := by
    refine Ensures.bind_act ?_
    dsimp only
    rw [hnext]
    have hhanded : ∀ {s' : ClientSetting} {answer : Except String Unit},
        HandsNone (.called (.sendInput frame) answer :: s.world.notes) s' → handedFrames s s' = [frame] := by
      rintro s' answer ⟨recent, hrecent, hnone⟩
      have hnotes : s'.world.notes = (recent ++ [.called (.sendInput frame) answer]) ++ s.world.notes := by
        rw [hrecent, List.append_assoc]
        rfl
      rw [handedFrames_eq _ hnotes, List.filterMap_reverse, List.filterMap_append, hnone]
      rfl
    have hcall : Ensures (transportCall (.sendInput frame)) { s with client := { s.client with runtime := c } }
        (fun answer s' => s'.world.notes = .called (.sendInput frame) answer :: s.world.notes ∧
          (Takes s → answer = .ok () ∧ Goes s c s'))
        (fun _ s' => handedFrames s s' = [frame] ∧ (Takes s → Goes s c s')) := by
      obtain ⟨n, hlog⟩ := pass_log s.world
      apply ensures_act
      dsimp only
      split
      · exact ⟨congrArg _ s.world.pass_drifts.notes, fun _ => ⟨rfl, rfl, n, _, congrArg _ hlog⟩⟩
      · rename_i answer transport hscript
        refine ⟨congrArg _ s.world.pass_drifts.notes, fun htakes => ⟨?_, rfl, n, _, congrArg _ hlog⟩⟩
        cases answer with
        | ok u => rfl
        | error e => exact absurd (congrArg List.head? hscript) (htakes e)
    refine Ensures.bind hcall ?_
    rintro answer s' ⟨hnotes, hgoes⟩
    have hnone : HandsNone (.called (.sendInput frame) answer :: s.world.notes) s' := ⟨[], hnotes, rfl⟩
    cases answer with
    | ok u => exact ensures_pure ⟨hhanded hnone, fun htakes => (hgoes htakes).2⟩
    | error e =>
      refine Ensures.bind (Ensures.mono (failTransport_silent s' hnone) (fun _ _ h => h) ?_) ?_
      · intro e s'' h
        exact ⟨hhanded h, fun htakes => by cases (hgoes htakes).1⟩
      · intro u s'' h
        exact ensures_throw ⟨hhanded h, fun htakes => by cases (hgoes htakes).1⟩
  exact hkept.always (I := fun s' => handedFrames s s' = [frame] ∧ (Takes s → Goes s c s'))

/-- An event which cannot be stamped is dropped. -/
theorem sendInput_error {s : ClientSetting} {event : CriticalEvent} {e : ControllerRuntimeError}
    {c : ControllerRuntime} (hnext : s.client.runtime.nextInput event = (.error e, c)) :
    ((ControllerClient.sendInput event).exec s).2 = s := by
  have hdropped : Ensures (ControllerClient.sendInput event) s (fun _ s' => s' = s) (fun _ s' => s' = s) := by
    refine Ensures.bind_act ?_
    dsimp only
    rw [hnext, nextInput_eq_error hnext]
    exact ensures_throw rfl
  exact hdropped.always (I := (· = s))

/-! ### What the check says -/

/-- An event which says nothing: no key, or no notch. -/
def IsEmpty : CriticalEvent → Prop
  | .key keyCode scanCode _ _ => keyCode = 0 ∧ scanCode = 0
  | .button _ _ _ _ _ => False
  | .scroll deltaX deltaY _ _ _ => deltaX = 0 ∧ deltaY = 0

/-- **The check of a stamped event**, in a session which has moved. -/
theorem validateCritical_stamped {sid : SessionId} (hsid : sid.Valid) {sequence motionSequence : UInt64}
    (hsequence : sequence ≠ 0) (hmotion : motionSequence ≠ 0) (event : CriticalEvent) :
    validateCritical ⟨sid, sequence, ControllerRuntime.stampEvent motionSequence event⟩ = .ok () ↔
    ¬ IsEmpty event := by
  cases event with
  | key keyCode scanCode extended down =>
    simp [validateCritical, bind_eq_ok, ControllerRuntime.stampEvent, IsEmpty, hsid, hsequence]
  | button button down x y m =>
    simp [validateCritical, bind_eq_ok, ControllerRuntime.stampEvent, IsEmpty, hsid, hsequence, hmotion]
  | scroll deltaX deltaY x y m =>
    simp [validateCritical, bind_eq_ok, ControllerRuntime.stampEvent, IsEmpty, hsid, hsequence, hmotion]

namespace CaptureSetting

variable {F : Type} [Coordinate F] {s : CaptureSetting F}

/-- A session is active, and its first motion was sent. -/
structure InSession (s : CaptureSetting F) : Prop where
  pointer : s.capture.active.isSome = true
  session : s.setting.client.runtime.isActive = true
  motion : s.setting.client.runtime.motionSequence ≠ 0

/-- The event was dropped without effect, or became a frame which passes the check and is encoded. -/
def Harmless (codec : Codec CriticalFrame) (s s' : CaptureSetting F) : Prop :=
  s' = s ∨ ∃ frame, handedFrames s.setting s'.setting = [frame] ∧ validateCritical frame = .ok () ∧
    ∃ bytes, encodeCritical codec frame = .ok bytes

/-- The session goes on: it is still active, and the pointer is where it was. -/
def GoesOn (s s' : CaptureSetting F) : Prop :=
  s'.setting.client.runtime.handshake.activeSession = s.setting.client.runtime.handshake.activeSession ∧
    s'.capture = s.capture

theorem callbacks_eq {old new : ClientSetting} (recent : List (Event ClientNote))
    (h : new.world.log = recent ++ old.world.log) : callbacks old new = recent.reverse := by
  unfold callbacks
  rw [h, List.length_append, Nat.add_sub_cancel, List.take_left]

/-- The callbacks are the only events which the thread sees. -/
theorem foldl_observe_quiet (c : Capturing F) {events : List (Event ClientNote)}
    (h : ∀ e ∈ events, e = .requestLocal ∨ ∃ n, e = .note n) : events.foldl Capturing.observe c = c := by
  induction events with
  | nil => rfl
  | cons e events ih =>
    have hone : c.observe e = c := by
      rcases h e List.mem_cons_self with rfl | ⟨n, rfl⟩ <;> rfl
    rw [List.foldl_cons, hone]
    exact ih fun e he => h e (List.mem_cons_of_mem _ he)

/-- An event which cannot be stamped changes nothing. -/
theorem sendInput_of_error (hidle : s.capture.candidate = none) (active : ActiveTarget F) {event : CriticalEvent}
    {e : ControllerRuntimeError} {c : ControllerRuntime}
    (hnext : s.setting.client.runtime.nextInput event = (.error e, c)) : s.sendInput active event = s := by
  have hsame := sendInput_error hnext
  have hnone : callbacks s.setting s.setting = [] := callbacks_eq [] rfl
  unfold sendInput perform
  dsimp only
  rw [hsame, hnext, hnone]
  show ({ s with capture := { s.capture with candidate := none } } : CaptureSetting F) = s
  rw [← hidle]

/-- **A stamped event** becomes one frame, and if the transport takes it, the session goes on. -/
theorem sendInput_of_ok (hidle : s.capture.candidate = none) (active : ActiveTarget F) {event : CriticalEvent}
    {frame : CriticalFrame} {c : ControllerRuntime}
    (hnext : s.setting.client.runtime.nextInput event = (.ok frame, c)) :
    handedFrames s.setting (s.sendInput active event).setting = [frame] ∧
      (Takes s.setting → GoesOn s (s.sendInput active event)) := by
  obtain ⟨hhanded, hgoes⟩ := sendInput_ok hnext
  refine ⟨hhanded, fun htakes => ?_⟩
  obtain ⟨hruntime, n, note, hlog⟩ := hgoes htakes
  obtain ⟨-, -, -, -, hc⟩ := nextInput_eq_ok hnext
  constructor
  · show ((ControllerClient.sendInput event).exec s.setting).2.client.runtime.handshake.activeSession = _
    rw [hruntime, hc]
  · have hcallbacks := callbacks_eq (.note note :: List.replicate n .requestLocal) hlog
    have hquiet : ∀ e ∈ (.note note :: List.replicate n .requestLocal : List (Event ClientNote)).reverse,
        e = .requestLocal ∨ ∃ n, e = .note n := by
      intro e he
      rcases List.mem_cons.mp (List.mem_reverse.mp he) with rfl | he
      · exact Or.inr ⟨note, rfl⟩
      · exact Or.inl (List.eq_of_mem_replicate he)
    unfold sendInput perform
    dsimp only
    rw [hcallbacks, foldl_observe_quiet _ hquiet]
    show { s.capture with candidate := none } = s.capture
    rw [← hidle]

/-- The library packs the frames which are handed over. -/
def Packs (codec : Codec CriticalFrame) (s s' : CaptureSetting F) : Prop :=
  ∀ frame ∈ handedFrames s.setting s'.setting, codec.Carries packCriticalFrame ⟨inputMagic, protocolMajor, frame⟩

/-- **An event of an active session** is harmless unless it is empty, and is stamped. -/
theorem sendInput_harmless (h : s.InSession) (hidle : s.capture.candidate = none)
    (hvalid : ∀ sid, s.setting.client.runtime.handshake.activeSession = some sid → sid.Valid)
    (codec : Codec CriticalFrame) (active : ActiveTarget F) {event : CriticalEvent}
    (hpacks : Packs codec s (s.sendInput active event)) :
    (Harmless codec s (s.sendInput active event) ↔
        ¬ (IsEmpty event ∧ s.setting.client.runtime.inputSequence ≠ u64Max)) ∧
      (Takes s.setting → GoesOn s (s.sendInput active event)) := by
  cases hnext : s.setting.client.runtime.nextInput event with
  | mk answer c =>
  cases answer with
  | error e =>
    have hsame := sendInput_of_error hidle active hnext
    rw [hsame]
    refine ⟨⟨fun _ => ?_, fun _ => Or.inl rfl⟩, fun _ => ⟨rfl, rfl⟩⟩
    rintro ⟨-, hmax⟩
    obtain ⟨sid, hsid⟩ := Option.isSome_iff_exists.mp h.session
    obtain ⟨next, hadd⟩ := exists_checkedAdd_one hmax
    unfold ControllerRuntime.nextInput at hnext
    rw [hsid] at hnext
    dsimp only at hnext
    rw [if_neg (fun hzero => h.motion hzero.2), hadd] at hnext
    cases hnext
  | ok frame =>
    obtain ⟨hhanded, hgoes⟩ := sendInput_of_ok hidle active hnext
    obtain ⟨hsid, hevent, -, hsequence, -⟩ := nextInput_eq_ok hnext
    have hstamped : frame = ⟨frame.sessionId, frame.sequence,
        ControllerRuntime.stampEvent s.setting.client.runtime.motionSequence event⟩ := by rw [← hevent]
    have hpositive : frame.sequence ≠ 0 := by
      intro hzero
      rw [hzero] at hsequence
      exact absurd hsequence (Nat.succ_ne_zero _)
    have hcheck := validateCritical_stamped (hvalid _ hsid) hpositive h.motion event
    rw [← hstamped] at hcheck
    have hmax : s.setting.client.runtime.inputSequence ≠ u64Max := by
      intro hmax
      have hlt := toNat_lt_size frame.sequence
      rw [hmax, u64Max_toNat] at hsequence
      omega
    refine ⟨⟨?_, ?_⟩, hgoes⟩
    · rintro (hsame | ⟨frame', hhanded', hok, -⟩) ⟨hempty, -⟩
      · rw [hsame, handedFrames_eq [] rfl] at hhanded
        cases hhanded
      · cases hhanded.symm.trans hhanded'
        exact hcheck.mp hok hempty
    · intro hnot
      have hok := hcheck.mpr fun hempty => hnot ⟨hempty, hmax⟩
      have hmem : frame ∈ handedFrames s.setting (s.sendInput active event).setting := by
        rw [hhanded]
        exact List.mem_singleton_self frame
      obtain ⟨payload, hencode, -⟩ := encodeCritical_eq_ok hok (hpacks frame hmem)
      exact Or.inr ⟨frame, hhanded, hok, _, hencode⟩

/-! ### The events of the hooks -/

/-- The events which ask for something which the wire cannot say: a wheel which moves less than a notch, and a key
without any code; or they are a screen switch hotkey, which returns control. -/
def Faulty (s : CaptureSetting F) (event : WindowsHookEvent) (seen : Seen) : Prop :=
  s.setting.world.gate.isLocal = false ∧
    match event with
    | .mouse message _ _ mouseData =>
      message ∈ [wmMousewheel, wmMousehwheel] ∧ -120 < (highWord mouseData).toInt16 ∧
        (highWord mouseData).toInt16 < 120 ∧
        s.setting.client.runtime.inputSequence ≠ u64Max
    | .key message keyCode scanCode _ modifiers =>
      (keyDown message && screenSwitchHotkeysMatchVk seen.screenSwitchHotkeys keyCode.toUInt16 modifiers) = true ∨
        (keyCode = 0 ∧ scanCode = 0) ∧ s.setting.client.runtime.inputSequence ≠ u64Max

/-- The division drops whatever is less than a notch, on both sides of zero. -/
theorem notches_eq_zero (delta : Int16) : (delta / 120).toInt32 = 0 ↔ -120 < delta ∧ delta < 120 := by
  have hlow := delta.le_toInt
  have hhigh := delta.toInt_lt
  have hdiv : delta.toInt.tdiv 120 = if 0 ≤ delta.toInt then delta.toInt / 120 else -(-delta.toInt / 120) := by
    split
    · exact Int.tdiv_eq_ediv_of_nonneg ‹_›
    · rw [← Int.tdiv_eq_ediv_of_nonneg (by omega), Int.neg_tdiv, Int.neg_neg]
  have hsmall : (delta.toInt.tdiv 120).bmod (2 ^ 16) = delta.toInt.tdiv 120 := by
    rw [hdiv]
    refine Int.bmod_eq_of_le ?_ ?_ <;> split <;> omega
  rw [← Int32.toInt_inj, Int16.toInt_toInt32, Int16.toInt_div, Int16.lt_iff_toInt_lt, Int16.lt_iff_toInt_lt,
    show (120 : Int16).toInt = 120 from rfl, show (-120 : Int16).toInt = -120 from rfl,
    show (0 : Int32).toInt = 0 from rfl, hsmall, hdiv]
  split <;> omega

/-- The wheel messages, and what is empty among them. -/
theorem scrollDelta_cases (message mouseData : UInt32) :
    (scrollDelta message mouseData = none ∧ message ∉ [wmMousewheel, wmMousehwheel]) ∨
      ∃ deltaX deltaY, scrollDelta message mouseData = some (deltaX, deltaY) ∧
        message ∈ [wmMousewheel, wmMousehwheel] ∧
        (deltaX = 0 ∧ deltaY = 0 ↔ -120 < (highWord mouseData).toInt16 ∧ (highWord mouseData).toInt16 < 120) := by
  have hzero := notches_eq_zero (highWord mouseData).toInt16
  unfold scrollDelta
  dsimp only
  by_cases hhorizontal : message = wmMousehwheel
  · rw [if_pos hhorizontal]
    exact Or.inr ⟨_, _, rfl, by simp [hhorizontal], by rw [← hzero]; simp⟩
  rw [if_neg hhorizontal]
  by_cases hvertical : message = wmMousewheel
  · rw [if_pos hvertical]
    exact Or.inr ⟨_, _, rfl, by simp [hvertical], by rw [← hzero]; simp⟩
  · rw [if_neg hvertical]
    exact Or.inl ⟨rfl, by simp [hhorizontal, hvertical]⟩

/-- A button message is none of the wheel. -/
theorem mouseButton_wheel {message mouseData : UInt32} (h : (mouseButton message mouseData).isSome = true) :
    message ∉ [wmMousewheel, wmMousehwheel] := by
  intro hmem
  rcases List.mem_cons.mp hmem with rfl | hmem
  · cases h
  · rw [List.mem_singleton.mp hmem] at h
    cases h

/-- What a captured event comes to: nothing, a return, or an event which is sent; it is empty just where the
captured one is faulty. -/
inductive Outcome (s : CaptureSetting F) (event : WindowsHookEvent) (seen : Seen) (s' : CaptureSetting F) : Prop
  | dropped : s' = s → ¬ Faulty s event seen → Outcome s event seen s'
  | returned : s' = s.releaseRemoteControl .user → Faulty s event seen → Outcome s event seen s'
  | sent (active : ActiveTarget F) (critical : CriticalEvent) : s' = s.sendInput active critical →
      (Faulty s event seen ↔ IsEmpty critical ∧ s.setting.client.runtime.inputSequence ≠ u64Max) →
      Outcome s event seen s'

/-- **A mouse event** is dropped, or sent. -/
theorem processMouse_outcome (hactive : s.capture.active.isSome = true) (hremote : s.capture.remoteActive = true)
    (message mouseData : UInt32) (x y : Int32) (seen : Seen) (hmove : message ≠ wmMousemove) :
    Outcome s (.mouse message x y mouseData) seen
      (s.processWindowsHookEvent (.mouse message x y mouseData) seen) := by
  obtain ⟨active, hsome⟩ := Option.isSome_iff_exists.mp hactive
  unfold processWindowsHookEvent
  dsimp only
  rw [hremote, Bool.and_true]
  by_cases hgate : s.setting.world.gate.isLocal = true
  · rw [if_pos hgate]
    refine .dropped rfl fun hfaulty => ?_
    exact Bool.noConfusion (hgate.symm.trans hfaulty.1)
  rw [if_neg hgate, if_neg hmove]
  have hremoteGate : s.setting.world.gate.isLocal = false := by simpa using hgate
  by_cases hbutton : (mouseButton message mouseData).isSome = true
  · rw [if_pos hbutton]
    obtain ⟨⟨button, down⟩, heq⟩ := Option.isSome_iff_exists.mp hbutton
    unfold handleWindowsMouseButton
    rw [hsome, heq]
    refine .sent active _ rfl ⟨fun hfaulty => ?_, fun hempty => hempty.1.elim⟩
    exact absurd hfaulty.2.1 (mouseButton_wheel hbutton)
  rw [if_neg hbutton]
  rcases scrollDelta_cases message mouseData with ⟨hnone, hnot⟩ | ⟨deltaX, deltaY, hdelta, hmem, hzero⟩
  · rw [if_neg hnot]
    exact .dropped rfl fun hfaulty => hnot hfaulty.2.1
  · rw [if_pos hmem]
    unfold handleWindowsScroll
    rw [hsome, hdelta]
    refine .sent active _ rfl ⟨?_, ?_⟩
    · rintro ⟨-, -, hlow, hhigh, hmax⟩
      exact ⟨hzero.mpr ⟨hlow, hhigh⟩, hmax⟩
    · rintro ⟨hempty, hmax⟩
      obtain ⟨hlow, hhigh⟩ := hzero.mp hempty
      exact ⟨hremoteGate, hmem, hlow, hhigh, hmax⟩

/-- **A key event** is dropped, returns control, or is sent. -/
theorem processKey_outcome (hactive : s.capture.active.isSome = true) (message keyCode scanCode flags : UInt32)
    (modifiers : HotkeyModifiers) (seen : Seen) :
    Outcome s (.key message keyCode scanCode flags modifiers) seen
      (s.processWindowsHookEvent (.key message keyCode scanCode flags modifiers) seen) := by
  obtain ⟨active, hsome⟩ := Option.isSome_iff_exists.mp hactive
  unfold processWindowsHookEvent
  dsimp only
  by_cases hgate : s.setting.world.gate.isLocal = true
  · rw [if_pos hgate]
    refine .dropped rfl fun hfaulty => ?_
    exact Bool.noConfusion (hgate.symm.trans hfaulty.1)
  rw [if_neg hgate]
  have hremoteGate : s.setting.world.gate.isLocal = false := by simpa using hgate
  by_cases hswitch :
      (keyDown message && screenSwitchHotkeysMatchVk seen.screenSwitchHotkeys keyCode.toUInt16 modifiers) =
      true
  · rw [if_pos hswitch]
    exact .returned rfl ⟨hremoteGate, Or.inl hswitch⟩
  rw [if_neg hswitch, hsome]
  cases hkey : v2KeyEvent keyCode scanCode flags (keyDown message) with
  | none =>
    refine .dropped rfl ?_
    rintro ⟨-, hpressed | ⟨⟨rfl, rfl⟩, -⟩⟩
    · exact hswitch hpressed
    · cases hkey
  | some event =>
    obtain ⟨hcode, hscan, rfl⟩ := v2KeyEvent_eq_some.mp hkey
    have hzero : ∀ {v : UInt32}, v.toNat < 2 ^ 16 → (v.toUInt16 = 0 ↔ v = 0) := by
      intro v hv
      rw [← UInt16.toNat_inj, ← UInt32.toNat_inj, UInt32.toNat_toUInt16, Nat.mod_eq_of_lt hv]
      rfl
    refine .sent active _ rfl ⟨?_, ?_⟩
    · rintro ⟨-, hpressed | ⟨⟨hcode', hscan'⟩, hmax⟩⟩
      · exact absurd hpressed hswitch
      · exact ⟨⟨(hzero hcode).mpr hcode', (hzero hscan).mpr hscan'⟩, hmax⟩
    · rintro ⟨⟨hcode', hscan'⟩, hmax⟩
      exact ⟨hremoteGate, Or.inr ⟨⟨(hzero hcode).mp hcode', (hzero hscan).mp hscan'⟩, hmax⟩⟩

/-- A move of the pointer; every other event is captured. -/
def IsMove : WindowsHookEvent → Prop
  | .mouse message _ _ _ => message = wmMousemove
  | .key _ _ _ _ _ => False

theorem process_outcome (hactive : s.capture.active.isSome = true) (hremote : s.capture.remoteActive = true)
    {event : WindowsHookEvent} (hmove : ¬ IsMove event) (seen : Seen) :
    Outcome s event seen (s.processWindowsHookEvent event seen) := by
  cases event with
  | mouse message x y mouseData => exact processMouse_outcome hactive hremote message mouseData x y seen hmove
  | key message keyCode scanCode flags modifiers =>
    exact processKey_outcome hactive message keyCode scanCode flags modifiers seen

/-- **A return** ends the session without a frame. -/
theorem releaseRemoteControl_returns {boot : BootId} {localPeerId : String}
    (h : Coherent boot localPeerId s.setting)
    (hsession : s.setting.client.runtime.isActive = true) (reason : ReturnReason) :
    handedFrames s.setting (s.releaseRemoteControl reason).setting = [] ∧ s.releaseRemoteControl reason ≠ s := by
  have hsilent : HandsNone s.setting.world.notes ((ControllerClient.goLocal reason).exec s.setting).2 :=
    (goLocal_silent reason).exec ⟨[], rfl, rfl⟩
  have hhome : AtHome boot localPeerId ((ControllerClient.goLocal reason).exec s.setting).2 :=
    (goLocal_coherent h reason).always
  have hsetting : (s.releaseRemoteControl reason).setting =
    ((ControllerClient.goLocal reason).exec s.setting).2 := by
    have hperform : (s.perform none (ControllerClient.goLocal reason)).2.setting =
        ((ControllerClient.goLocal reason).exec s.setting).2 := rfl
    unfold releaseRemoteControl
    split
    · rename_i heq
      rw [← hperform, heq]
    · rename_i heq
      rw [← hperform, heq]
      rfl
  constructor
  · obtain ⟨recent, hnotes, hnone⟩ := hsilent
    rw [hsetting, handedFrames_eq recent hnotes, List.filterMap_reverse, hnone]
    rfl
  · intro hsame
    rw [hsame] at hsetting
    rw [← hsetting] at hhome
    have hended := hhome.inputIsLocal.session
    unfold ControllerRuntime.isActive at hsession
    rw [hended] at hsession
    cases hsession

end CaptureSetting

/-- **Captured events are valid on the wire.**  In every run of the capture thread from a new client, while a
session is active and after its first motion, a captured button, wheel or key is dropped without effect, or becomes
a frame which passes the check of the protocol and is encoded, if and only if it is not faulty; and if the
transport has room, the session then goes on. -/
theorem captured_events_valid {F : Type} [Coordinate F] (transport : List (Except String Unit))
    (localBoot : BootId) (localPeerId : String) (client : ControllerClient)
    (hnew : ControllerClient.newWithOverride transport localBoot localPeerId = .ok client) (g : LocalOverride)
    (moments : List Moment) (entropy : List (Option (Vector UInt8 16))) (calls : List CaptureCall) :
    let s : CaptureSetting F :=
      run CaptureSetting.next (CaptureSetting.start (ClientSetting.start client g moments entropy)) calls
    s.InSession → ∀ event seen codec, ¬ CaptureSetting.IsMove event →
      let s' := s.processWindowsHookEvent event seen
      CaptureSetting.Packs codec s s' →
      (CaptureSetting.Harmless codec s s' ↔ ¬ CaptureSetting.Faulty s event seen) ∧
        (¬ CaptureSetting.Faulty s event seen → Takes s.setting → CaptureSetting.GoesOn s s') := by
  intro s hsession event seen codec hmove s' hpacks
  obtain ⟨c, hc, rfl⟩ := newWithOverride_eq_ok hnew
  have hcoherent : Coherent localBoot localPeerId s.setting :=
    run_invariant (I := fun s : CaptureSetting F => Coherent localBoot localPeerId s.setting)
      (fun s call h => CaptureSetting.next_setting next_coherent h call)
      ⟨.home, .clear, ⟨newWithOverride_fits hc, False.elim, rfl⟩, trivial⟩ calls
  have hkept : CaptureSetting.Kept False s :=
    run_invariant (I := CaptureSetting.Kept False) (fun s call h => CaptureSetting.next_kept h False.elim)
      ⟨⟨fun _ h => (by cases h), fun _ h => (by cases h), fun _ h => (by cases h), rfl⟩, rfl,
        fun _ h => (by cases h)⟩
      calls
  have hvalid : ∀ sid, s.setting.client.runtime.handshake.activeSession = some sid → sid.Valid := by
    intro sid hsid
    obtain ⟨st, σ, hheld, -⟩ := hcoherent
    have hstage := hheld.fits.activeSession
    rw [hsid] at hstage
    cases st with
    | active t d =>
      cases hstage
      exact (hheld.fits.session _ rfl).1
    | _ => cases hstage
  have hremote : s.capture.remoteActive = true := hkept.carries.remote.trans hsession.pointer
  have houtcome : CaptureSetting.Outcome s event seen s' :=
    CaptureSetting.process_outcome hsession.pointer hremote hmove seen
  cases houtcome with
  | dropped hsame hnot =>
      exact ⟨⟨fun _ => hnot, fun _ => Or.inl hsame⟩, fun _ _ => by rw [hsame]; exact ⟨rfl, rfl⟩⟩
  | returned heq hfaulty =>
    obtain ⟨hnone, hchanged⟩ := CaptureSetting.releaseRemoteControl_returns hcoherent hsession.session .user
    refine ⟨⟨?_, fun hnot => absurd hfaulty hnot⟩, fun hnot => absurd hfaulty hnot⟩
    rintro (hsame | ⟨frame, hhanded, -⟩) -
    · exact hchanged (heq.symm.trans hsame)
    · rw [heq, hnone] at hhanded
      cases hhanded
  | sent active critical heq hiff =>
    rw [heq] at hpacks ⊢
    obtain ⟨hharmless, hgoes⟩ := CaptureSetting.sendInput_harmless hsession hkept.idle hvalid codec active hpacks
    rw [hiff]
    exact ⟨hharmless, fun _ => hgoes⟩

section Examples

/-- The frame of a click in the middle of the screen. -/
def sampleClick : CriticalFrame := ⟨Sample.session, 1, .button .left true 960 540 1⟩

/-- A press of the left button. -/
theorem captured_events_valid_click :
    let s := sampleRun sampleSession
    let s' := s.processWindowsHookEvent (.mouse wmLbuttondown 0 0 0) sampleSeen
    CaptureSetting.Harmless (Codec.single (packEnvelope packCriticalFrame)
      ⟨inputMagic, protocolMajor, sampleClick⟩) s s' := by
  intro s s'
  have hsession : s.InSession := ⟨by decide +kernel, by decide +kernel, by decide +kernel⟩
  have hhanded : handedFrames s.setting s'.setting = [sampleClick] := by decide +kernel
  refine ((captured_events_valid [] (Sample.boot 1) "windows" Sample.client rfl ⟨1⟩ [] [some Sample.session.nonce]
    sampleSession hsession (.mouse wmLbuttondown 0 0 0) sampleSeen _
    (show ¬ wmLbuttondown = wmMousemove by decide) ?_).1).mpr ?_
  · intro frame hframe
    change frame ∈ handedFrames s.setting s'.setting at hframe
    rw [hhanded] at hframe
    rw [List.mem_singleton.mp hframe]
    exact Codec.single_carries _ _
  · rintro ⟨-, hwheel, -⟩
    revert hwheel
    decide

/-- What the transport answers to a frame which does not pass the check. -/
def sampleRefusal : String := "invalid critical input frame: InvalidField(\"scroll_delta\")"

/-- The frame of half a notch. -/
def sampleHalfNotch : CriticalFrame := ⟨Sample.session, 1, .scroll 0 0 960 540 1⟩

/-- The same session; the transport refuses the first input. -/
def sampleRefusing : CaptureSetting ℚ :=
  run CaptureSetting.next (CaptureSetting.start (ClientSetting.start
    { Sample.client with transport := List.replicate 6 (.ok ()) ++ [.error sampleRefusal] } ⟨1⟩ []
    [some Sample.session.nonce])) sampleSession

/-- The wheel is turned by half a notch: the frame does not pass the check, and the session ends. -/
theorem not_captured_events_valid :
    let s := sampleRefusing
    let s' := s.processWindowsHookEvent (.mouse wmMousewheel 0 0 0x003C0000) sampleSeen
    ¬ CaptureSetting.Harmless
      (Codec.single (packEnvelope packCriticalFrame) ⟨inputMagic, protocolMajor, sampleHalfNotch⟩) s s' ∧
      s.setting.client.runtime.isActive = true ∧ s'.setting.client.runtime.isActive = false := by
  intro s s'
  have hhanded : handedFrames s.setting s'.setting = [sampleHalfNotch] := by decide +kernel
  refine ⟨?_, by decide +kernel, by decide +kernel⟩
  rintro (hsame | ⟨frame, hframe, hvalid, -⟩)
  · rw [hsame] at hhanded
    revert hhanded
    decide +kernel
  · cases hhanded.symm.trans hframe
    revert hvalid
    decide +kernel

end Examples

end MyKvm.Pointer
