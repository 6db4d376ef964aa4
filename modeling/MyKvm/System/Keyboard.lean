import MyKvm.Receiver.Telling
import MyKvm.System.Pointer

/-!
# MyKvm.System.Keyboard — the keys and buttons converge

The stream of `MyKvm.System.Pointer`, with the events which were put on their way and those which were taken
(`Keyboard`). In a session which goes on, in which every event is on the display and the last number of all does
not arrive, the events are taken in the order in which they were typed, each of them once; and the device was told
what they say, command by command, and of the motions nothing but moves of the pointer (`keyboard_converges`).
-/

namespace MyKvm.System

open MyKvm.Lib MyKvm.Lib.Held MyKvm.Protocol MyKvm.Routing
open MyKvm.Controller (ControllerRuntime)
open MyKvm.Lib.Feed (Entry)
open MyKvm.Receiver
  (ReceiverSessionRuntime ReceiverCall ReceiverDisplayLayout PressedState KeySource Target Gesture
  Admitted Coherent Steers Unpressed Safe stroke deviceHeld frozen freeze gesture keyInHand buttonInHand Scanned
  Holds Mapped ModifierMapping Told eventPoint)

/-- An event which was taken: as it was typed, with the modifier mapping of that moment, and as it was mapped. -/
structure Taken where
  event : CriticalEvent
  mapping : ModifierMapping
  mapped : CriticalEvent

structure Keyboard where
  pointer : Pointer
  /-- The events which were put on their way, oldest first. -/
  typed : List CriticalEvent
  /-- The events which were taken, oldest first. -/
  taken : List Taken

/-- The event which a move puts on its way. -/
def putOn (s : Stream) : StreamMove → List CriticalEvent
  | .input event =>
    match (s.parties.controller.nextInput event).1 with
    | .error _ => []
    | .ok frame =>
      match validateCritical frame with
      | .error _ => []
      | .ok () => [frame.event]
  | _ => []

/-- The event which a move brings to the device. -/
def landing (s : Stream) : StreamMove → List Taken
  | .deliver _ =>
    match s.reliable with
    | [] => []
    | frame :: _ =>
      match s.parties.receiver.mapEvent frame.event with
      | .error _ => []
      | .ok (mapped, _) => [⟨frame.event, s.parties.receiver.modifierMapping, mapped⟩]
  | _ => []

namespace Keyboard

def next (debug : Receiver.SessionRuntimeError → String) (k : Keyboard) (move : StreamMove) : Keyboard where
  pointer := k.pointer.next debug move
  typed := k.typed ++ putOn k.pointer.stream move
  taken := k.taken ++ landing k.pointer.stream move

def start (parties : Parties) : Keyboard := { pointer := .start parties, typed := [], taken := [] }

def receiver (k : Keyboard) : ReceiverSessionRuntime := k.pointer.stream.parties.receiver

/-- The notes are beside the run: below them it is the run of the pointer. -/
theorem run_pointer (debug : Receiver.SessionRuntimeError → String) (k : Keyboard) (moves : List StreamMove) :
    (run (next debug) k moves).pointer = run (Pointer.next debug) k.pointer moves :=
  @run_project _ _ _ _ (Pointer.next debug) pointer (fun _ _ => rfl) k moves

end Keyboard

/-! ### The invariant -/

/-- The pointer is moved to where a motion which has arrived points on the display. -/
def Steered (display : Option ReceiverDisplayLayout) (arrived : List (Entry CriticalFrame MotionFrame))
    (x y : Int32) : Prop :=
  ∃ frame, Entry.sample frame ∈ arrived ∧ ∃ d ∈ display, d.map frame.x frame.y = .ok (x, y)

/-- The ledger says what the events which were taken say, and so does the device. -/
structure Held (base : List InputCommand) (display : Option ReceiverDisplayLayout)
    (arrived : List (Entry CriticalFrame MotionFrame)) (taken : List Taken)
    (r : ReceiverSessionRuntime) : Prop where
  holds : Holds (taken.map Taken.mapped) r.pressed
  mapped : ∀ event ∈ taken, Mapped display event.mapping event.event event.mapped
  shows : r.activeDisplay = display
  pending : ∀ frame ∈ r.pendingMotion, Entry.sample frame ∈ arrived
  told : ∃ log, r.injector.posted = log.reverse ++ base ∧ Lawful stroke log r.pressed.targets ∧
    Told (Steered display arrived) (taken.map Taken.mapped) log

section Held

variable {base : List InputCommand} {display : Option ReceiverDisplayLayout}
  {arrived arrived₁ : List (Entry CriticalFrame MotionFrame)} {taken : List Taken}
  {r r₁ : ReceiverSessionRuntime}

/-- More has arrived. -/
theorem Held.arrives (h : Held base display arrived taken r) (hmore : ∀ entry ∈ arrived, entry ∈ arrived₁) :
    Held base display arrived₁ taken r := by
  obtain ⟨log, hlog, hlawful, htold⟩ := h.told
  refine ⟨h.holds, h.mapped, h.shows, fun frame hframe => hmore _ (h.pending frame hframe), log, hlog, hlawful, ?_⟩
  refine htold.mono fun x y hsteered => ?_
  obtain ⟨frame, hframe, hpoint⟩ := hsteered
  exact ⟨frame, hmore _ hframe, hpoint⟩

/-- A motion moves the pointer only. -/
theorem Held.steers (h : Held base display arrived taken r) {motion : Option MotionFrame}
    (hsteers : Steers motion r r₁) (hmotion : ∀ frame ∈ motion, Entry.sample frame ∈ arrived) :
    Held base display arrived taken r₁ := by
  obtain ⟨hgrips, hdisplay, hpending, hposted⟩ := hsteers
  obtain ⟨log, hlog, hlawful, htold⟩ := h.told
  refine ⟨h.holds.sameGrips hgrips, h.mapped, hdisplay.trans h.shows, ?_, ?_⟩
  · intro frame hframe
    exact (hpending frame hframe).elim (h.pending frame) (hmotion frame)
  have hlawful₁ : Lawful stroke log r₁.pressed.targets := hlawful.congr hgrips.mem_targets
  rcases hposted with hsame | ⟨frame, hframe, x, y, hpoint, hmoved⟩
  · exact ⟨log, hsame.trans hlog, hlawful₁, htold⟩
  · obtain ⟨d, hd, hat⟩ := Receiver.mapActivePointer_eq_ok hpoint
    refine ⟨log ++ [.mouseMove x y r.pressed.dragButton], ?_, hlawful₁.none (by simp [stroke]), ?_⟩
    · rw [hmoved, hlog]
      simp
    · rw [h.holds.dragButton]
      exact htold.moved ⟨frame, hmotion frame hframe, d, h.shows.symm.trans hd, hat⟩

/-- **An input frame which is applied.** -/
theorem Held.applied (h : Held base display arrived taken r) {frame : CriticalFrame}
    {peer : Receiver.AuthenticatedPeer} {mapped : CriticalEvent} {pointer : Option (Int32 × Int32)}
    (hadmitted : Admitted r frame peer mapped pointer) {i : Injector}
    (hsubmit : Receiver.submitAll (Receiver.inputCommands r.pressed mapped pointer).1 r.injector = (.ok (), i))
    (next nowMs : UInt64) :
    Held base display arrived (taken ++ [⟨frame.event, r.modifierMapping, mapped⟩])
      (Receiver.afterInput r frame (Receiver.inputCommands r.pressed mapped pointer).2 i next nowMs) := by
  obtain ⟨hmapped, hpointer⟩ := Receiver.mapEvent_mapped hadmitted.mapped
  rw [h.shows] at hmapped
  obtain ⟨log, hlog, hlawful, htold⟩ := h.told
  refine ⟨?_, ?_, h.shows, h.pending, ?_⟩
  · rw [List.map_append, List.map_singleton]
    exact h.holds.inputCommands mapped pointer
  · intro event hevent
    rcases List.mem_append.mp hevent with hevent | hevent
    · exact h.mapped event hevent
    · rw [List.mem_singleton.mp hevent]
      exact hmapped
  · refine ⟨log ++ (Receiver.inputCommands r.pressed mapped pointer).1, ?_,
      h.holds.listed.inputCommands_lawful hlawful mapped pointer, ?_⟩
    · rcases Receiver.submitAll_cases (Receiver.inputCommands r.pressed mapped pointer).1 r.injector with
        ⟨-, hposted⟩ | ⟨e, _, _, _, hfailed, _⟩
      · rw [hsubmit] at hposted
        show i.posted = _
        rw [hposted, hlog]
        simp
      · rw [hsubmit] at hfailed
        cases hfailed
    · rw [List.map_append, List.map_singleton, hpointer]
      exact htold.event (Receiver.inputCommands_tells h.holds mapped)

theorem Held.deliver (h : Held base display arrived taken r) (hc : Coherent r) {frame : CriticalFrame}
    {peer : Receiver.AuthenticatedPeer} {nowMs : UInt64} (hok : (r.handleInputAt frame peer nowMs).1 = .ok ()) :
    ∃ mapped pointer, r.mapEvent frame.event = .ok (mapped, pointer) ∧
      Held base display arrived (taken ++ [⟨frame.event, r.modifierMapping, mapped⟩])
        (r.handleInputAt frame peer nowMs).2 := by
  have hstep := Receiver.handleInputAt_cases hc frame peer nowMs
  revert hok
  generalize r.handleInputAt frame peer nowMs = out at hstep
  intro hok
  cases hstep with
  | refused _ => cases hok
  | failed _ _ _ _ => cases hok
  | applied hadmitted hsubmit hnext hflush =>
    rename_i mapped pointer i next
    obtain ⟨answer, r₁⟩ := out
    obtain rfl : answer = .ok () := hok
    exact ⟨mapped, pointer, hadmitted.mapped,
      (h.applied hadmitted hsubmit next nowMs).steers hflush.steers h.pending⟩

end Held

/-- What has arrived is taken in order, and the device holds what it says. -/
structure Typing (boot : BootId) (localPeerId : String) (session : SessionId) (base : List InputCommand)
    (display : Option ReceiverDisplayLayout) (k : Keyboard) : Prop where
  tracked : Tracked boot localPeerId session (lastPoint base) k.pointer
  inOrder : k.typed = k.taken.map Taken.event ++ k.pointer.stream.reliable.map CriticalFrame.event
  held : Held base display k.pointer.arrived k.taken k.receiver

section Steps

variable {boot : BootId} {localPeerId : String} {debug : Receiver.SessionRuntimeError → String}
    {session : SessionId}
  {base : List InputCommand} {display : Option ReceiverDisplayLayout} {k : Keyboard}

/-- A move of the parties, as long as the session goes on, moves no key and no button. -/
theorem party_steers {s : Stream} (h : Flowing False boot localPeerId session s) {move : PartyMove}
    (hbypass : move.bypasses = false) (hin : InSession session (s.parties.next debug move)) :
    Steers none s.parties.receiver (s.parties.next debug move).receiver := by
  have hactive := h.inSession.2.1
  have hactive₁ := hin.2.1
  have hpart := party_pointerPart h hbypass hin
  simp only [pointerPart, Receiver.streamPart, Prod.mk.injEq] at hpart
  obtain ⟨⟨-, -, -, hdisplay, -, -⟩, hpending, -, hposted⟩ := hpart
  refine Receiver.steers_of_eq ?_ hdisplay hpending hposted
  rcases next_receiver debug s.parties move with ⟨heq, -⟩ | ⟨frame, nowMs, heq, -⟩ | ⟨call, rfl, hcontrol, heq, -⟩
  · rw [heq]
  · rw [heq] at hactive₁ ⊢
    exact Receiver.next_pressed h.coherent (by simp) (by simp) hactive hactive₁
  · rw [heq] at hactive₁ ⊢
    refine Receiver.next_pressed h.coherent ?_ ?_ hactive hactive₁
    · rintro frame peer nowMs rfl
      cases hbypass
    · rintro frame peer nowMs rfl
      cases hbypass

/-- An event is put at the end of what is on its way, and the receiver is left alone. -/
theorem sendInput_puts (s : Stream) (event : CriticalEvent) :
    (s.sendInput event).reliable.map CriticalFrame.event = s.reliable.map CriticalFrame.event ++
      putOn s (.input event) ∧
      (s.sendInput event).parties.receiver = s.parties.receiver := by
  unfold Stream.sendInput putOn
  dsimp only
  cases s.parties.controller.nextInput event with
  | mk answer controller =>
  cases answer with
  | error e => exact ⟨(List.append_nil _).symm, rfl⟩
  | ok frame =>
    dsimp only
    cases validateCritical frame with
    | error e => exact ⟨(List.append_nil _).symm, rfl⟩
    | ok u => exact ⟨by simp, rfl⟩

theorem sendMotion_puts (s : Stream) (x y : Int32) :
    (s.sendMotion x y).reliable = s.reliable ∧ (s.sendMotion x y).parties.receiver = s.parties.receiver := by
  unfold Stream.sendMotion
  cases s.parties.controller.nextMotion x y with
  | mk answer controller =>
  cases answer with
  | error e => exact ⟨rfl, rfl⟩
  | ok frame =>
    dsimp only
    cases validateMotion frame with
    | error e => exact ⟨rfl, rfl⟩
    | ok u => exact ⟨rfl, rfl⟩

/-- Nothing is typed and nothing taken. -/
theorem Typing.quiet {k₁ : Keyboard} (h : Typing boot localPeerId session base display k)
    (htracked : Tracked boot localPeerId session (lastPoint base) k₁.pointer) (htyped : k₁.typed = k.typed ++ [])
    (htaken : k₁.taken = k.taken ++ []) (hreliable : k₁.pointer.stream.reliable = k.pointer.stream.reliable)
    (hheld : Held base display k₁.pointer.arrived k.taken k₁.receiver) :
    Typing boot localPeerId session base display k₁ := by
  rw [List.append_nil] at htyped htaken
  refine ⟨htracked, ?_, ?_⟩
  · rw [htyped, htaken, hreliable]
    exact h.inOrder
  · rw [htaken]
    exact hheld

theorem Typing.party (h : Typing boot localPeerId session base display k) {move : PartyMove}
    (htracked : Tracked boot localPeerId session (lastPoint base) (k.next debug (.party move)).pointer)
    (hgoes : GoesOn debug session k.pointer (.party move)) :
    Typing boot localPeerId session base display (k.next debug (.party move)) := by
  by_cases hbypass : move.bypasses = true
  · have hidle : k.pointer.stream.next debug (.party move) = k.pointer.stream := Stream.next_bypasses hbypass
    refine h.quiet htracked rfl rfl (congrArg Stream.reliable hidle) ?_
    show Held base display k.pointer.arrived k.taken (k.pointer.stream.next debug _).parties.receiver
    rw [hidle]
    exact h.held
  · have hfalse : move.bypasses = false := Bool.not_eq_true _ ▸ hbypass
    have hnext : k.pointer.stream.next debug (.party move) =
        { k.pointer.stream with parties := k.pointer.stream.parties.next debug move } := Stream.next_party hfalse
    unfold GoesOn at hgoes
    dsimp only at hgoes
    rw [hnext] at hgoes
    have hreliable : (k.pointer.stream.next debug (.party move)).reliable =
      k.pointer.stream.reliable := by rw [hnext]
    refine h.quiet htracked rfl rfl hreliable ?_
    show Held base display k.pointer.arrived k.taken (k.pointer.stream.next debug _).parties.receiver
    rw [hnext]
    exact h.held.steers (party_steers h.tracked.flowing hfalse hgoes) fun frame hnone => (by cases hnone)

theorem Typing.input (h : Typing boot localPeerId session base display k) {event : CriticalEvent}
    (htracked : Tracked boot localPeerId session (lastPoint base) (k.next debug (.input event)).pointer) :
    Typing boot localPeerId session base display (k.next debug (.input event)) := by
  obtain ⟨hputs, hreceiver⟩ := sendInput_puts k.pointer.stream event
  refine ⟨htracked, ?_, ?_⟩
  · show k.typed ++ putOn k.pointer.stream (.input event) =
      (k.taken ++ []).map Taken.event ++ (k.pointer.stream.sendInput event).reliable.map CriticalFrame.event
    rw [hputs, List.append_nil, ← List.append_assoc, ← h.inOrder]
  · show Held base display k.pointer.arrived (k.taken ++ []) (k.pointer.stream.sendInput event).parties.receiver
    rw [hreceiver, List.append_nil]
    exact h.held

theorem Typing.motion (h : Typing boot localPeerId session base display k) {x y : Int32}
    (htracked : Tracked boot localPeerId session (lastPoint base) (k.next debug (.motion x y)).pointer) :
    Typing boot localPeerId session base display (k.next debug (.motion x y)) := by
  obtain ⟨hputs, hreceiver⟩ := sendMotion_puts k.pointer.stream x y
  refine h.quiet htracked rfl rfl hputs ?_
  show Held base display k.pointer.arrived k.taken (k.pointer.stream.sendMotion x y).parties.receiver
  rw [hreceiver]
  exact h.held

/-- **An event arrives**: it is the next one which was typed. -/
theorem Typing.deliver (h : Typing boot localPeerId session base display k) {nowMs : UInt64}
    (htracked : Tracked boot localPeerId session (lastPoint base) (k.next debug (.deliver nowMs)).pointer)
    (hnumbered : HasSuccessor k.pointer (.deliver nowMs)) :
    Typing boot localPeerId session base display (k.next debug (.deliver nowMs)) := by
  cases hhead : k.pointer.stream.reliable with
  | nil =>
    have hidle : k.next debug (.deliver nowMs) = k := by
      unfold Keyboard.next Pointer.next Stream.next putOn landing arrival
      dsimp only
      rw [hhead]
      simp
    rw [hidle]
    exact h
  | cons frame rest =>
    have hlast : frame.sequence ≠ u64Max := hnumbered frame (by rw [hhead]; rfl)
    obtain ⟨hok, -⟩ := deliver_accepted h.tracked.flowing hhead hlast nowMs
    obtain ⟨mapped, pointer, hmapped, hheld⟩ := h.held.deliver h.tracked.flowing.coherent hok
    have hlanding : landing k.pointer.stream (.deliver nowMs) =
        [⟨frame.event, k.receiver.modifierMapping, mapped⟩] := by
      unfold landing
      dsimp only
      rw [hhead]
      dsimp only
      unfold Keyboard.receiver at hmapped
      rw [hmapped]
      rfl
    refine ⟨htracked, ?_, ?_⟩
    · show k.typed ++ [] = (k.taken ++ landing k.pointer.stream (.deliver nowMs)).map Taken.event ++
        (k.pointer.stream.next debug (.deliver nowMs)).reliable.map CriticalFrame.event
      rw [hlanding, Stream.next_deliver hhead, List.append_nil, h.inOrder, hhead]
      show _ = _ ++ rest.map CriticalFrame.event
      simp
    · show Held base display (arrival k.pointer.stream (.deliver nowMs) ++ k.pointer.arrived)
        (k.taken ++ landing k.pointer.stream (.deliver nowMs))
        (k.pointer.stream.next debug (.deliver nowMs)).parties.receiver
      rw [hlanding, Stream.next_deliver hhead]
      exact hheld.arrives fun entry hentry => List.mem_append_right _ hentry

/-- **A motion arrives**: it moves the pointer, or it waits, or it is off the display. -/
theorem Typing.deliverMotion (h : Typing boot localPeerId session base display k) {frame : MotionFrame}
    {nowMs : UInt64}
    (htracked : Tracked boot localPeerId session (lastPoint base)
      (k.next debug (.deliverMotion frame nowMs)).pointer) :
    Typing boot localPeerId session base display (k.next debug (.deliverMotion frame nowMs)) := by
  have hreliable : (k.pointer.stream.next debug (.deliverMotion frame nowMs)).reliable =
      k.pointer.stream.reliable := by
    unfold Stream.next
    dsimp only
    split <;> rfl
  refine h.quiet htracked rfl rfl hreliable ?_
  show Held base display (arrival k.pointer.stream (.deliverMotion frame nowMs) ++ k.pointer.arrived) k.taken
    (k.pointer.stream.next debug (.deliverMotion frame nowMs)).parties.receiver
  have hheld :
      Held base display (arrival k.pointer.stream (.deliverMotion frame nowMs) ++ k.pointer.arrived) k.taken
      k.receiver := h.held.arrives fun entry hentry => List.mem_append_right _ hentry
  by_cases hsent : frame ∈ k.pointer.stream.motions
  · rw [Stream.next_deliverMotion hsent]
    by_cases hrange : k.pointer.stream.parties.receiver.inRange frame.x frame.y = true
    · obtain ⟨⟨disposition, hok⟩, -⟩ := deliverMotion_taken h.tracked.flowing hsent hrange nowMs
      have hstep :=
        Receiver.handleMotionAt_cases h.tracked.flowing.coherent frame k.pointer.stream.parties.peer nowMs
      rw [← Prod.mk.eta (p := k.pointer.stream.parties.receiver.handleMotionAt _ _ _), hok] at hstep
      refine hheld.steers hstep.steers fun f hf => ?_
      obtain rfl : frame = f := Option.some.inj hf
      refine List.mem_append_left _ ?_
      unfold arrival
      dsimp only
      rw [if_pos ⟨hsent, hrange⟩]
      exact List.mem_singleton.mpr rfl
    · rw [deliverMotion_outOfRange (Bool.not_eq_true _ ▸ hrange)]
      exact hheld
  · rw [Stream.next_unsent hsent]
    exact hheld

/-- **Every move** of a session which goes on. -/
theorem next_typing (k : Keyboard) (move : StreamMove) (h : Typing boot localPeerId session base display k)
    (hregular : Regular debug session k.pointer move) :
    Typing boot localPeerId session base display (k.next debug move) := by
  have htracked := next_tracked k.pointer move h.tracked hregular
  obtain ⟨hgoes, -, hnumbered⟩ := hregular
  cases move with
  | party move => exact h.party htracked hgoes
  | input event => exact h.input htracked
  | motion x y => exact h.motion htracked
  | deliver nowMs => exact h.deliver htracked hnumbered
  | deliverMotion frame nowMs => exact h.deliverMotion htracked

end Steps

/-! ### The start -/

/-- What the receiver keeps from before the session. -/
structure Settled (boot : BootId) (localPeerId : String) (p : Parties) : Prop where
  joined : Joined boot localPeerId p
  safe : Safe p.receiver
  unpressed : Unpressed p.receiver

section Start

variable {boot : BootId} {localPeerId : String} {debug : Receiver.SessionRuntimeError → String}
    {session : SessionId}
  {p : Parties}

theorem next_settled (p : Parties) (move : PartyMove) (h : Settled boot localPeerId p) :
    Settled boot localPeerId (p.next debug move) := by
  have hcoherent := h.joined.coherent
  refine ⟨next_joined p move h.joined, ?_, ?_⟩
  · rcases next_receiver debug p move with ⟨heq, -⟩ | ⟨frame, nowMs, heq, -⟩ | ⟨call, -, -, heq, -⟩
    · exact heq ▸ h.safe
    · exact heq ▸ (Receiver.next_safe _ _ ⟨hcoherent, h.safe⟩).2
    · exact heq ▸ (Receiver.next_safe _ _ ⟨hcoherent, h.safe⟩).2
  · rcases next_receiver debug p move with ⟨heq, -⟩ | ⟨frame, nowMs, heq, -⟩ | ⟨call, -, -, heq, -⟩
    · exact heq ▸ h.unpressed
    · exact heq ▸ Receiver.next_unpressed hcoherent h.unpressed _
    · exact heq ▸ Receiver.next_unpressed hcoherent h.unpressed _

theorem start_settled {c : ControllerRuntime} (hnew : ControllerRuntime.newWithOverride boot localPeerId = .ok c)
    (receiverBoot : BootId) (answers : List PortAnswer) (displayLayouts : List ReceiverDisplayLayout)
    (peer : Receiver.AuthenticatedPeer) (g : LocalOverride) (moments : List Moment)
    (entropy : List (Option (Vector UInt8 16))) :
    Settled boot localPeerId (Parties.start c
      (ReceiverSessionRuntime.newWithDisplayLayouts receiverBoot { answers, posted := [] } displayLayouts)
        peer g moments
      entropy) := by
  refine ⟨start_joined hnew receiverBoot _ displayLayouts peer g moments entropy, ?_,
    Receiver.unpressed_of_none rfl⟩
  exact ⟨fun t ht => (List.not_mem_nil ht).elim, fun _ => Or.inl rfl⟩

/-- **The device holds nothing** when a session is opened, and the ledger says so. -/
theorem Opened.typing (hopened : Opened session p) (h : Settled boot localPeerId p) :
    Typing boot localPeerId session p.receiver.injector.posted p.receiver.activeDisplay (Keyboard.start p) ∧
      deviceHeld p.receiver.injector.posted = [] := by
  have hactive : p.receiver.activeSession.isSome := Option.isSome_iff_exists.mpr ⟨_, hopened.inSession.2.1⟩
  have hempty := h.unpressed hactive hopened.highestApplied
  have hnone : deviceHeld p.receiver.injector.posted = [] := by
    refine List.eq_nil_iff_forall_not_mem.mpr fun t ht => ?_
    have hcovered := h.safe.covered t ht
    rw [hempty] at hcovered
    exact List.not_mem_nil hcovered
  have hkeys : p.receiver.pressed.keys = [] := by
    unfold PressedState.targets at hempty
    exact List.map_eq_nil_iff.mp (List.append_eq_nil_iff.mp hempty).1
  have hbuttons : p.receiver.pressed.buttons = [] := by
    unfold PressedState.targets at hempty
    exact List.map_eq_nil_iff.mp (List.append_eq_nil_iff.mp hempty).2
  have hholds : Holds [] p.receiver.pressed := by
    refine ⟨⟨?_, ?_⟩, ?_, ?_⟩
    · rw [hkeys]
      exact List.nodup_nil
    · rw [hbuttons]
      exact List.nodup_nil
    · intro source code
      rw [hkeys]
      simp [frozen]
    · intro button
      rw [hempty]
      simp [buttonInHand]
  refine ⟨⟨hopened.tracked h.joined, rfl, ?_⟩, hnone⟩
  show Held p.receiver.injector.posted p.receiver.activeDisplay [] [] p.receiver
  refine ⟨hholds, by simp, rfl, ?_, [], rfl, ?_, .nothing⟩
  · rw [hopened.pendingMotion]
    intro frame hframe
    cases hframe
  · rw [hempty]
    exact lawful_nil

end Start

/-! ### The result -/

/-- **The device is in the hands of the controller**: it was told what the events which were taken say, and holds
what they have left down.  `base` is what was posted before the session was opened. -/
structure InHand (base : List InputCommand) (display : Option ReceiverDisplayLayout) (k : Keyboard) : Prop where
  /-- An event was taken as the gesture it is, with the key which the modifier mapping puts for it, at
  its point on the display of the session. -/
  mapped : ∀ event ∈ k.taken, Mapped display event.mapping event.event event.mapped
  /-- Nothing else was posted, but moves of the pointer to the points of motions; and every target was
  pressed and released in turn. -/
  told : ∃ log, k.receiver.injector.posted = log.reverse ++ base ∧
    Told (Steered display k.pointer.arrived) (k.taken.map Taken.mapped) log ∧ ∀ t, Alternates (edges stroke t log)
  /-- A key is down as long as a source is frozen to it. -/
  keys : ∀ code, .key code ∈ deviceHeld k.receiver.injector.posted ↔
    ∃ source, frozen (k.taken.map Taken.mapped) source = some code
  /-- A source has a target as long as its key is down in the hand. -/
  sources : (∀ event ∈ k.taken, Scanned (gesture event.event)) →
    ∀ source, (frozen (k.taken.map Taken.mapped) source).isSome =
      keyInHand (k.taken.map (gesture ∘ Taken.event)) source
  buttons : ∀ button, .button button ∈ deviceHeld k.receiver.injector.posted ↔
    buttonInHand (k.taken.map (gesture ∘ Taken.event)) button = true

theorem Held.inHand {base : List InputCommand} {display : Option ReceiverDisplayLayout} {k : Keyboard}
    (h : Held base display k.pointer.arrived k.taken k.receiver) (hbase : deviceHeld base = []) :
    InHand base display k := by
  obtain ⟨log, hposted, hlawful, htold⟩ := h.told
  have hdown : ∀ t, t ∈ deviceHeld k.receiver.injector.posted ↔ t ∈ k.receiver.pressed.targets := by
    intro t
    unfold deviceHeld at hbase ⊢
    rw [hposted, held_append hbase]
    exact hlawful.held t
  have hgestures : (k.taken.map Taken.mapped).map gesture = k.taken.map (gesture ∘ Taken.event) := by
    rw [List.map_map]
    exact List.map_congr_left fun event hevent => (h.mapped event hevent).gesture
  refine ⟨h.mapped, ⟨log, hposted, htold, hlawful.alternates⟩, ?_, ?_, ?_⟩
  · intro code
    rw [hdown, PressedState.key_mem_targets]
    constructor
    · rintro ⟨⟨source, code'⟩, hmem, rfl⟩
      exact ⟨source, (h.holds.freezes source code').mp hmem⟩
    · rintro ⟨source, hsource⟩
      exact ⟨⟨source, code⟩, (h.holds.freezes source code).mpr hsource, rfl⟩
  · intro hscanned source
    have hscanned' : ∀ event ∈ k.taken.map Taken.mapped, Scanned (gesture event) := by
      intro event hevent
      obtain ⟨pair, hpair, rfl⟩ := List.mem_map.mp hevent
      rw [(h.mapped pair hpair).gesture]
      exact hscanned pair hpair
    rw [Receiver.frozen_isSome _ hscanned', hgestures]
  · intro button
    rw [hdown, h.holds.buttons, hgestures]

/-- **The keys and buttons converge.**  After any handshake which opened a session with an injector which succeeds,
in every run in which it goes on, every event is on the display and the last number of all does not arrive: the
events are taken in the order in which they were typed, each of them once; what the device was told since then is
what they say, and moves of the pointer to motions which have arrived; and it holds what they have left down. -/
theorem keyboard_converges (localBoot : BootId) (localPeerId : String) (c : ControllerRuntime)
    (hnew : ControllerRuntime.newWithOverride localBoot localPeerId = .ok c) (receiverBoot : BootId)
    (answers : List PortAnswer) (displayLayouts : List ReceiverDisplayLayout) (peer : Receiver.AuthenticatedPeer)
    (debug : Receiver.SessionRuntimeError → String) (g : LocalOverride) (moments : List Moment)
    (entropy : List (Option (Vector UInt8 16))) (handshake : List PartyMove) (session : SessionId)
    (moves : List StreamMove) :
    let opened := run (Parties.next debug) (Parties.start c
      (ReceiverSessionRuntime.newWithDisplayLayouts receiverBoot { answers, posted := [] } displayLayouts) peer g
      moments entropy) handshake
    let k := run (Keyboard.next debug) (Keyboard.start opened) moves
    Opened session opened →
      Meets (Keyboard.next debug) (fun k => Regular debug session k.pointer) (Keyboard.start opened) moves →
      k.typed = k.taken.map Taken.event ++ k.pointer.stream.reliable.map CriticalFrame.event ∧
        InHand opened.receiver.injector.posted opened.receiver.activeDisplay k := by
  intro opened k hopened hgoes
  have hsettled : Settled localBoot localPeerId opened :=
    run_invariant (fun p move => next_settled p move)
      (start_settled hnew receiverBoot answers displayLayouts peer g moments entropy) handshake
  obtain ⟨hstart, hempty⟩ := hopened.typing hsettled
  have htyping :
      Typing localBoot localPeerId session opened.receiver.injector.posted opened.receiver.activeDisplay k :=
    run_keeps (fun k move => next_typing k move) hstart hgoes
  exact ⟨htyping.inOrder, htyping.held.inHand hempty⟩

namespace Sample

/-- A key is held while a button is clicked; its release has not arrived. -/
def typing : List StreamMove :=
  [.input (.key 65 30 false true), .motion 5 5, .input (.button .left true 5 5 0), .deliver 0, .deliver 0,
    .input (.key 65 30 false true), .input (.button .left false 5 5 0), .deliver 0, .deliver 0,
    .input (.key 65 30 false false)]

end Sample

/-- The key is still down, and the button is not. -/
theorem keyboard_converges_typing :
    InHand [] Sample.joined.receiver.activeDisplay
      (run (Keyboard.next fun _ => "") (Keyboard.start Sample.joined) Sample.typing) :=
  (keyboard_converges (Controller.Sample.boot 1) "windows" Controller.Sample.controller rfl
    (Receiver.Sample.boot 2) [] [Receiver.Sample.layout "left",
      Receiver.Sample.layout "right"] Receiver.Sample.peer
    (fun _ => "") ⟨1⟩ [] [some Controller.Sample.session.nonce] Sample.handover
      Controller.Sample.session Sample.typing
    Sample.joined_opened (by decide +kernel)).2

end MyKvm.System
