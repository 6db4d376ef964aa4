import MyKvm.Receiver.Coherence

/-!
# MyKvm.Receiver.Displays — the active display is the one promised

`Watched` is the receiver with what it has promised: the displays of its `Ready`s, and the one which it had last
answered to the request of the `Commit` which activated its session.

A `Prepare` which the handshake refuses has already replaced the prepared display.  `Confirms` leaves these out
(and the repeated `Commit` of a handshake which went ahead of its receiver, when it names another request); in a
run of the other calls the active display is the promised one.
-/

namespace MyKvm.Receiver

open MyKvm.Lib MyKvm.Protocol ReceiverSessionRuntime

structure Watched where
  receiver : ReceiverSessionRuntime
  /-- The `Ready`s, newest first: the request, the display and its layout revision. -/
  answered : List (UInt64 × String × UInt64)
  /-- The session activated last, with the display of the newest `Ready` for the
  request which its `Commit` named. -/
  promised : Option (SessionId × Option (String × UInt64))

namespace Watched

/-- Notes the answer to a control frame. -/
def answer (w : Watched) (frame : ControlFrame)
    (out : Except SessionRuntimeError (Option ControlFrame) × ReceiverSessionRuntime) : Watched where
  receiver := out.2
  answered := match out.1 with
    | .ok (some (.ready q _ _ display rev)) => (q, display, rev) :: w.answered
    | _ => w.answered
  promised := match frame with
    | .commit q s =>
      if w.receiver.activeSession = none ∧ out.2.activeSession = some s then some (s, w.answered.lookup q)
        else w.promised
    | _ => w.promised

def next (w : Watched) : ReceiverCall → Watched
  | .control frame peer nowMs => w.answer frame (w.receiver.handleControlAt frame peer nowMs)
  | c => { w with receiver := w.receiver.next c }

/-- The receiver at its start: nothing is promised. -/
def start (r : ReceiverSessionRuntime) : Watched := { receiver := r, answered := [], promised := none }

/-- The display of the newest `Ready`. -/
def newest (w : Watched) : Option (String × UInt64) := w.answered.head?.map (·.2)

/-- **Display agreement**: the display of the active session is the one promised to it. -/
def DisplayAgrees (w : Watched) : Prop :=
  ∀ s, w.receiver.activeSession = some s → ∃ layout, w.receiver.activeDisplay = some layout ∧
    w.promised = some (s, some (layout.displayId, layout.layoutRevision))

/-- No session is active, and the handshake is past its `Ready`: it refuses a `Prepare`. -/
def InHandover (r : ReceiverSessionRuntime) : Prop :=
  r.activeSession = none ∧
    ∃ h, r.handshake = some h ∧ ((∃ boot q, h.state = .prepared boot q) ∨ ∃ s, h.state = .active s)

/-- The call confirms what was promised: a `Prepare` during the handover finds no display, or asks for
the promised one; a `Commit` which the handshake, active without the receiver, takes again names a
request with the promised display. -/
def Confirms (w : Watched) : ReceiverCall → Prop
  | .control (.prepare _ targetDisplay layoutRevision) peer _ =>
    peer.role = .controller → w.receiver.binding = some peer → w.receiver.injector.readiness.1 = .ok () →
      InHandover w.receiver →
      w.receiver.findLayout targetDisplay layoutRevision = none ∨ w.newest = some (targetDisplay, layoutRevision)
  | .control (.commit q s) peer _ =>
    peer.role = .controller → w.receiver.binding = some peer → w.receiver.activeSession = none →
      (∃ h, w.receiver.handshake = some h ∧ h.state = .active s) → w.receiver.preparedDisplay.isSome = true →
      w.receiver.pressed.isEmpty = true → w.receiver.inputGate.ended ≠ some s → w.answered.lookup q = w.newest
  | _ => True

/-- The invariant: the prepared request was answered last, and during a handover the prepared
display is the promised one. -/
structure Agreed (w : Watched) : Prop where
  answered : ∀ h boot q, w.receiver.handshake = some h → h.state = .prepared boot q →
    w.answered.head?.map (·.1) = some q
  shown : InHandover w.receiver → ∀ layout, w.receiver.preparedDisplay = some layout →
    w.newest = some (layout.displayId, layout.layoutRevision)
  active : DisplayAgrees w

section Agreed

variable {w : Watched} {r₁ : ReceiverSessionRuntime}

theorem findLayout_eq_some {r : ReceiverSessionRuntime} {targetDisplay : String} {layoutRevision : UInt64}
    {layout : ReceiverDisplayLayout} (h : r.findLayout targetDisplay layoutRevision = some layout) :
    layout.displayId = targetDisplay ∧ layout.layoutRevision = layoutRevision := by
  have hfound := List.find?_some h
  simpa using hfound

/-- An answer which is no `Ready`, to a frame which activates nothing, changes the receiver only. -/
theorem Agreed.steady {frame : ControlFrame} {answer : Except SessionRuntimeError (Option ControlFrame)}
    (hanswer : ∀ q boot inputReady display rev, answer ≠ .ok (some (.ready q boot inputReady display rev)))
    (hactive : w.receiver.activeSession = none → r₁.activeSession = none) (h : Agreed { w with receiver := r₁ }) :
    Agreed (w.answer frame (answer, r₁)) := by
  have hanswered : (w.answer frame (answer, r₁)).answered = w.answered := by
    unfold Watched.answer
    dsimp only
    split
    · exact absurd rfl (hanswer _ _ _ _ _)
    · rfl
  have hpromised : (w.answer frame (answer, r₁)).promised = w.promised := by
    unfold Watched.answer
    dsimp only
    split
    · rw [if_neg]
      rintro ⟨hnone, hsome⟩
      rw [hactive hnone] at hsome
      cases hsome
    · rfl
  have hsame : w.answer frame (answer, r₁) = { w with receiver := r₁ } := by
    rw [← hanswered, ← hpromised]
    rfl
  rwa [hsame]

/-- The request answered last finds its own answer. -/
theorem lookup_eq_newest {q : UInt64} (h : w.answered.head?.map (·.1) = some q) :
    w.answered.lookup q = w.newest := by
  unfold newest
  cases hanswered : w.answered with
  | nil => simp [hanswered] at h
  | cons p older =>
    rw [hanswered] at h
    obtain rfl : p.1 = q := Option.some.inj h
    exact List.lookup_cons_self

/-- Outside a handover there is nothing to agree on. -/
theorem agreed_of_settled {h : ReceiverHandshake} (hnone : r₁.activeSession = none) (hh : r₁.handshake = some h)
    (hstate : (∃ boot, h.state = .idle boot) ∨ ∃ s, h.state = .ended s) : Agreed { w with receiver := r₁ } := by
  refine ⟨?_, ?_, ?_⟩
  · intro h' boot q hh' hprepared
    cases hh.symm.trans hh'
    rcases hstate with ⟨boot', heq⟩ | ⟨s, heq⟩ <;> cases heq.symm.trans hprepared
  · rintro ⟨-, h', hh', hhandover⟩
    cases hh.symm.trans hh'
    rcases hstate with ⟨boot', heq⟩ | ⟨s, heq⟩ <;> simp [heq] at hhandover
  · intro s hsome
    cases hnone.symm.trans hsome

@[simp] theorem next_receiver (w : Watched) (c : ReceiverCall) : (w.next c).receiver = w.receiver.next c := by
  cases c <;> rfl

/-- What a call other than a control frame leaves still agrees. -/
theorem Agreed.fade (h : Agreed w) (hfade : FadeStep w.receiver r₁) : Agreed { w with receiver := r₁ } := by
  cases hfade with
  | kept _ _ hprepared hh hactive _ hdisplay =>
    refine ⟨fun h' boot q hh' => h.answered h' boot q (hh.symm.trans hh'), ?_, ?_⟩
    · rintro ⟨hnone, h', hh', hstate⟩ layout hsome
      refine h.shown ⟨hactive.symm.trans hnone, h', hh.symm.trans hh', hstate⟩ layout ?_
      rcases hprepared with heq | heq
      · exact heq.symm.trans hsome
      · cases heq.symm.trans hsome
    · intro s hsome
      have hsome' := hactive.symm.trans hsome
      rcases hdisplay with heq | hnone
      · obtain ⟨layout, hlayout, hpromised⟩ := h.active s hsome'
        exact ⟨layout, heq.trans hlayout, hpromised⟩
      · cases hnone.symm.trans hsome'
  | lost _ _ _ _ _ hh₁ hnone _ => exact agreed_of_settled hnone hh₁ (Or.inr ⟨_, rfl⟩)

/-- A `Prepare` refused during the handover asked for what was promised. -/
theorem Agreed.prepareRefused (h : Agreed w) {q rev : UInt64} {display : String} {peer : AuthenticatedPeer}
    {nowMs : UInt64} {i : Injector} {layout : ReceiverDisplayLayout}
    (hconfirms : Confirms w (.control (.prepare q display rev) peer nowMs)) (hrole : peer.role = .controller)
    (hbound : w.receiver.binding = some peer) (hready : w.receiver.injector.readiness = (.ok (), i))
    (hfind : w.receiver.findLayout display rev = some layout) :
    Agreed { w with receiver := { w.receiver with injector := i, preparedDisplay := some layout } } := by
  obtain ⟨rfl, rfl⟩ := findLayout_eq_some hfind
  refine ⟨h.answered, ?_, h.active⟩
  rintro hhandover layout' ⟨⟩
  rcases hconfirms hrole hbound (by rw [hready]) hhandover with hnone | hnewest
  · cases hnone.symm.trans hfind
  · exact hnewest

/-- A `Prepare` which is answered promises the display it found. -/
theorem agreed_prepared {q rev : UInt64} {display : String} {i : Injector} {layout : ReceiverDisplayLayout}
    {hs : ReceiverHandshake} {boot : BootId} (hnone : w.receiver.activeSession = none)
    (hfind : w.receiver.findLayout display rev = some layout) :
    Agreed (w.answer (.prepare q display rev) (.ok (some (hs.readyFor q display rev)),
      withHandshake { w.receiver with injector := i, preparedDisplay := some layout } hs (.prepared boot q))) := by
  obtain ⟨rfl, rfl⟩ := findLayout_eq_some hfind
  refine ⟨?_, ?_, ?_⟩
  · rintro h' boot' q' ⟨⟩ ⟨⟩
    rfl
  · rintro - layout' ⟨⟩
    rfl
  · intro s hsome
    cases hnone.symm.trans hsome

/-- A `Commit` which activates its session shows the promised display. -/
theorem Agreed.activated (h : Agreed w) {q nowMs : UInt64} {s : SessionId} {peer : AuthenticatedPeer}
    {hs : ReceiverHandshake} (hconfirms : Confirms w (.control (.commit q s) peer nowMs))
    (hrole : peer.role = .controller) (hbound : w.receiver.binding = some peer)
    (hh : w.receiver.handshake = some hs) (hacks : Acks hs q s) (hnone : w.receiver.activeSession = none)
    (hprepared : w.receiver.preparedDisplay.isSome = true) (hpressed : w.receiver.pressed.isEmpty = true)
    (hended : w.receiver.inputGate.ended ≠ some s) :
    Agreed (w.answer (.commit q s) (.ok (some (.commitAck s)),
      activeIn (withHandshake w.receiver hs (.active s)) s nowMs)) := by
  obtain ⟨layout, hlayout⟩ := Option.isSome_iff_exists.mp hprepared
  have hhandover : InHandover w.receiver := by
    refine ⟨hnone, hs, hh, ?_⟩
    rcases hacks with ⟨hstate, -, -⟩ | hstate
    · exact Or.inl ⟨_, _, hstate⟩
    · exact Or.inr ⟨_, hstate⟩
  have hlookup : w.answered.lookup q = w.newest := by
    rcases hacks with ⟨hstate, -, -⟩ | hstate
    · exact lookup_eq_newest (h.answered hs _ q hh hstate)
    · exact hconfirms hrole hbound hnone ⟨hs, hh, hstate⟩ hprepared hpressed hended
  have hpromised := hlookup.trans (h.shown hhandover layout hlayout)
  refine ⟨?_, ?_, ?_⟩
  · rintro h' boot' q' ⟨⟩ ⟨⟩
  · rintro ⟨hnone', -⟩
    cases hnone'
  · rintro s' ⟨⟩
    refine ⟨layout, hlayout, ?_⟩
    show (if w.receiver.activeSession = none ∧ some s = some s then some (s, w.answered.lookup q)
      else w.promised) = _
    rw [if_pos ⟨hnone, rfl⟩, hpromised]

theorem released_ne_some (answer : Except SessionRuntimeError Unit) (response : ControlFrame) :
    (answer.map fun _ => (none : Option ControlFrame)) ≠ .ok (some response) := by
  cases answer <;> simp [Except.map]

theorem ControlStep.agreed {frame : ControlFrame} {peer : AuthenticatedPeer} {nowMs : UInt64}
    {answer : Except SessionRuntimeError (Option ControlFrame)}
    (hstep : ControlStep w.receiver frame peer nowMs (answer, r₁)) (hc : Coherent w.receiver)
    (hrole : peer.role = .controller) (hconfirms : Confirms w (.control frame peer nowMs)) (h : Agreed w) :
    Agreed (w.answer frame (answer, r₁)) := by
  cases hstep with
  | refused _ _ => exact .steady (by simp) id h
  | helloFailed hreach hrelease | helloRefused hreach hrelease =>
    exact .steady (by simp) (fun hnone => hrelease.activeSession.trans hnone)
      (h.fade (hrelease.fades (fades_of_sessionPart rfl)))
  | greeted hreach hrelease =>
    have hnone := hrelease.activeSession.trans hreach.2.2
    exact .steady (by simp) (fun _ => hnone) (agreed_of_settled hnone rfl (Or.inl ⟨_, rfl⟩))
  | unready _ hready => exact .steady (by simp) id (h.fade (fades_of_sessionPart rfl))
  | unknownLayout _ hready _ =>
    exact .steady (by simp) id (h.fade (.kept rfl rfl (Or.inr rfl) rfl rfl rfl (Or.inl rfl)))
  | prepareRefused hbound hready hfind _ _ =>
    exact .steady (by simp) id (h.prepareRefused hconfirms hrole hbound hready hfind)
  | prepared _ hready hfind hh hawaits =>
      exact agreed_prepared (hc.activeSession_eq_none hh hawaits.not_active) hfind
  | activated hbound hh hacks hnone hprepared hpressed hended =>
    exact h.activated hconfirms hrole hbound hh hacks hnone hprepared hpressed hended
  | commitRefused haccepts hh hnone _ =>
    -- the handshake went ahead: what is prepared stays what was promised
    obtain ⟨-, -, -, -, -, h', hh', hstate, -⟩ := haccepts
    refine .steady (by simp) id ⟨?_, fun _ => h.shown ⟨hnone, h', hh', Or.inl ⟨_, _, hstate⟩⟩, h.active⟩
    rintro h'' boot q' ⟨⟩ ⟨⟩
  | recommitted _ hactive => exact .steady (by simp) id (h.fade (fades_of_sessionPart rfl))
  | ended _ hactive hh hrelease =>
    refine .steady (fun _ _ _ _ _ => released_ne_some _ _)
      (fun hnone => by rw [hnone] at hactive; cases hactive) ?_
    exact h.fade (hrelease.fades (.lost rfl rfl (Or.inl rfl) hh hactive rfl rfl rfl))
  | endedIdle _ hnone hh _ hrelease =>
    have hnone₁ := hrelease.activeSession.trans hnone
    exact .steady (fun _ _ _ _ _ => released_ne_some _ _) (fun _ => hnone₁)
      (agreed_of_settled hnone₁ hrelease.handshake (Or.inr ⟨_, rfl⟩))
  | ponged _ _ _ =>
    exact .steady (by simp) (fun hnone => (touch_activeSession _ _).trans hnone)
      (h.fade (fades_of_sessionPart (touch_sessionPart _ _)))

theorem next_agreed (hc : Coherent w.receiver) {c : ReceiverCall} (hconfirms : Confirms w c) (h : Agreed w) :
    Agreed (w.next c) := by
  by_cases hcontrol : ∃ frame peer nowMs, c = .control frame peer nowMs
  · obtain ⟨frame, peer, nowMs, rfl⟩ := hcontrol
    by_cases hrole : peer.role = .controller
    · exact ControlStep.agreed (handleControlAt_cases hc frame peer nowMs) hc hrole hconfirms h
    · change Agreed (w.answer frame (w.receiver.handleControlAt frame peer nowMs))
      rw [handleControlAt_of_role hrole]
      exact .steady (by simp) id h
  · push Not at hcontrol
    have hfade := h.fade (next_fades hc hcontrol)
    cases c with
    | control frame peer nowMs => exact absurd rfl (hcontrol frame peer nowMs)
    | _ => exact hfade

end Agreed

/-- **Display agreement.**  In every run whose calls confirm what was promised, the active display is, after every
call, the one of the `Ready` which answered the request of the activating `Commit`. -/
theorem run_displayAgrees (localBoot : BootId) (injector : Injector) (displayLayouts : List ReceiverDisplayLayout)
    (calls : List ReceiverCall)
    (hconfirms : Meets next Confirms (start (newWithDisplayLayouts localBoot injector displayLayouts)) calls) :
    DisplayAgrees (run next (start (newWithDisplayLayouts localBoot injector displayLayouts)) calls) := by
  have hstart : Coherent (newWithDisplayLayouts localBoot injector displayLayouts) ∧
      Agreed (start (newWithDisplayLayouts localBoot injector displayLayouts)) := by
    refine ⟨newWithDisplayLayouts_coherent _ _ _, ?_, ?_, ?_⟩
    · rintro h boot q ⟨⟩
    · rintro ⟨-, h, ⟨⟩, -⟩
    · rintro s ⟨⟩
  have hrun := run_keeps (I := fun w : Watched => Coherent w.receiver ∧ Agreed w)
    (fun w c h hconfirms => ⟨next_receiver w c ▸ next_coherent w.receiver c h.1, next_agreed h.1 hconfirms h.2⟩)
    hstart hconfirms
  exact hrun.2.active

/-- A run which confirms what was promised: the handover of the left display. -/
theorem run_displayAgrees_handover :
    DisplayAgrees (run next (start Sample.receiver) [Sample.control Sample.hello,
      Sample.control (.prepare 7 "left" 1), Sample.control (.commit 7 (Sample.session 3))]) := by
  refine run_displayAgrees _ _ _ _ ⟨trivial, ?_, ?_, trivial⟩
  · rintro - - - ⟨-, h, hh, hstate⟩
    have hidle : h.state = .idle (Sample.boot 1) := by
      obtain rfl := Option.some.inj hh
      rfl
    rcases hstate with ⟨boot, q, heq⟩ | ⟨s, heq⟩ <;> cases hidle.symm.trans heq
  · rintro - - - ⟨h, hh, hstate⟩
    have hprepared : h.state = .prepared (Sample.boot 1) 7 := by
      obtain rfl := Option.some.inj hh
      rfl
    cases hprepared.symm.trans hstate

/-- A refused `Prepare` between a `Ready` and its `Commit` replaces the display: the session was promised the left
one, and is active on the right one. -/
theorem not_displayAgrees_refused :
    let w := run next (start Sample.receiver) [Sample.control Sample.hello,
      Sample.control (.prepare 7 "left" 1), Sample.control (.prepare 8 "right" 1),
      Sample.control (.commit 7 (Sample.session 3))]
    w.receiver.activeSession = some (Sample.session 3) ∧
    w.promised = some (Sample.session 3, some ("left", 1)) ∧
    w.receiver.activeDisplay = some (Sample.layout "right") ∧ ¬ DisplayAgrees w := by
  refine ⟨by decide, by decide, by decide, fun h => ?_⟩
  obtain ⟨layout, hlayout, hpromised⟩ := h (Sample.session 3) (by decide)
  have hright : layout = Sample.layout "right" := Option.some.inj (hlayout.symm.trans (by decide))
  subst hright
  revert hpromised
  decide

end Watched

end MyKvm.Receiver
