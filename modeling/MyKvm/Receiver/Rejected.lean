import MyKvm.Receiver.Coherence

/-!
# MyKvm.Receiver.Rejected — what a rejected control frame leaves behind

Most rejections leave the receiver as it was.  Three do not: a `Prepare` has replaced the prepared display before
the handshake, or the missing layout, turns it away; a `Commit` has moved the handshake before the gate or the
ledger turns it away; and a `Hello` has released everything before its own check.  `Keeps` names the frames which
are none of these.
-/

namespace MyKvm.Receiver

open MyKvm.Lib MyKvm.Protocol ReceiverSessionRuntime

/-- What a rejected frame is expected to leave alone. -/
structure Untouched (r r₁ : ReceiverSessionRuntime) : Prop where
  handshake : r₁.handshake = r.handshake
  preparedDisplay : r₁.preparedDisplay = r.preparedDisplay
  activeDisplay : r₁.activeDisplay = r.activeDisplay
  inputGate : r₁.inputGate = r.inputGate
  pressed : r₁.pressed = r.pressed
  binding : r₁.binding = r.binding
  pendingMotion : r₁.pendingMotion = r.pendingMotion
  lastActivityMs : r₁.lastActivityMs = r.lastActivityMs

theorem Untouched.rfl {r : ReceiverSessionRuntime} : Untouched r r := by constructor <;> exact Eq.refl _

/-- The frame changes nothing before it can be rejected. -/
def Keeps (r : ReceiverSessionRuntime) (frame : ControlFrame) (peer : AuthenticatedPeer) : Prop :=
  match frame with
  | .hello _ peerId .controller _ => ReachesRelease r peerId peer → r.pressed.isEmpty = true
  | .prepare _ targetDisplay layoutRevision =>
    peer.role = .controller → r.binding = some peer → r.findLayout targetDisplay layoutRevision = r.preparedDisplay
  | .commit q s => ¬ AcceptsCommit r q s peer
  | _ => True

section Rejected

variable {r r₁ : ReceiverSessionRuntime}

theorem TurnsAway.keeps {frame : ControlFrame} {peer : AuthenticatedPeer} (h : TurnsAway r frame peer) :
    Keeps r frame peer := by
  cases frame with
  | hello bootId peerId role capabilities =>
    cases role with
    | controller => exact fun hreach => absurd hreach h
    | receiver => trivial
  | prepare q display rev =>
    intro hrole hbound
    rcases h with hwrong | hwrong
    · exact absurd hrole hwrong
    · exact absurd hbound hwrong
  | commit q s => exact h
  | _ => trivial

theorem PressedState.isEmpty_iff {s : PressedState} : s.isEmpty = true ↔ s = .empty := by
  obtain ⟨keys, buttons⟩ := s
  simp [PressedState.isEmpty, PressedState.empty]

/-- A release which worked changes the ledger only. -/
theorem ReleaseStep.untouched_iff (hstep : ReleaseStep r (.ok (), r₁)) :
    Untouched r r₁ ↔ r.pressed.isEmpty = true := by
  rw [PressedState.isEmpty_iff]
  cases hstep with
  | released _ =>
    constructor
    · exact fun h => h.pressed.symm
    · intro h
      constructor <;> first | exact Eq.refl _ | exact h.symm

/-- A `Prepare` which is turned away has replaced the prepared display. -/
theorem untouched_prepared_iff (i : Injector) (display : Option ReceiverDisplayLayout) :
    Untouched r { r with injector := i, preparedDisplay := display } ↔ display = r.preparedDisplay := by
  constructor
  · exact fun h => h.preparedDisplay
  · rintro rfl
    constructor <;> exact Eq.refl _

/-- A `Commit` which is turned away after the handshake took it has moved the handshake. -/
theorem not_untouched_committed {q : UInt64} {s : SessionId} {peer : AuthenticatedPeer} {h : ReceiverHandshake}
    (haccepts : AcceptsCommit r q s peer) (hh : r.handshake = some h) :
    ¬ Untouched r (withHandshake r h (.active s)) := by
  intro huntouched
  obtain ⟨-, -, -, -, -, h', hh', hstate, -⟩ := haccepts
  cases hh.symm.trans hh'
  have hsame : some ({ h with state := .active s } : ReceiverHandshake) = some h := huntouched.handshake.trans hh
  have hactive : h.state = .active s := by rw [← Option.some.inj hsame]
  cases hactive.symm.trans hstate

theorem ControlStep.untouched_iff {frame : ControlFrame} {peer : AuthenticatedPeer} {nowMs : UInt64}
    {answer : Except SessionRuntimeError (Option ControlFrame)} {e : SessionRuntimeError}
    (hstep : ControlStep r frame peer nowMs (answer, r₁)) (hrole : peer.role = .controller)
    (hanswer : answer = .error e) (he : ∀ error, e ≠ .injector error) : Untouched r r₁ ↔ Keeps r frame peer := by
  cases hstep with
  | refused _ haway => exact iff_of_true .rfl haway.keeps
  | helloFailed _ _ | unready _ _ =>
    cases hanswer
    exact absurd (Eq.refl _) (he _)
  | helloRefused hreach hrelease =>
    rw [hrelease.untouched_iff]
    exact ⟨fun hempty _ => hempty, fun hkeeps => hkeeps hreach⟩
  | unknownLayout hbound _ hfind =>
    rw [untouched_prepared_iff, ← hfind]
    exact ⟨fun hsame _ _ => hsame, fun hkeeps => hkeeps hrole hbound⟩
  | prepareRefused hbound _ hfind _ _ =>
    rw [untouched_prepared_iff, ← hfind]
    exact ⟨fun hsame _ _ => hsame, fun hkeeps => hkeeps hrole hbound⟩
  | commitRefused haccepts hh _ _ =>
    exact iff_of_false (not_untouched_committed haccepts hh) (fun hkeeps => hkeeps haccepts)
  | ended _ _ _ hrelease | endedIdle _ _ _ _ hrelease =>
    -- an `EndSession` which is taken fails by its release only
    cases hrelease with
    | released _ => cases hanswer
    | failed _ _ _ _ =>
      cases hanswer
      exact absurd (Eq.refl _) (he _)
  | greeted _ _ | prepared _ _ _ _ _ | activated _ _ _ _ _ _ _ | recommitted _ _ | ponged _ _ _ => cases hanswer

end Rejected

/-- **Rejected frames.**  In every reachable state, a frame which is rejected by the receiver itself leaves it as
it was exactly when the frame changes nothing before its rejection. -/
theorem rejected_untouched_iff (localBoot : BootId) (injector : Injector)
    (displayLayouts : List ReceiverDisplayLayout)
    (calls : List ReceiverCall) (frame : ControlFrame) (peer : AuthenticatedPeer) (nowMs : UInt64)
    (e : SessionRuntimeError) :
    let r := run next (newWithDisplayLayouts localBoot injector displayLayouts) calls
    (r.handleControlAt frame peer nowMs).1 = .error e → (∀ error, e ≠ .injector error) →
      (Untouched r (r.handleControlAt frame peer nowMs).2 ↔ Keeps r frame peer) := by
  intro r hanswer he
  have hc : Coherent r := run_coherent localBoot injector displayLayouts calls
  by_cases hrole : peer.role = .controller
  · exact (handleControlAt_cases hc frame peer nowMs).untouched_iff hrole hanswer he
  · rw [handleControlAt_of_role hrole]
    exact iff_of_true .rfl (turnsAway_of_role hrole).keeps

/-- A `Prepare` for an unknown display, after one which was answered: rejected, and
the prepared display is gone. -/
theorem rejected_prepare_touches :
    let r := run next Sample.receiver [Sample.control Sample.hello, Sample.control (.prepare 1 "left" 1)]
    (r.handleControlAt (.prepare 2 "unknown" 1) Sample.peer 0).1 =
      .error (.protocol (.invalidField "layout_revision")) ∧
    r.preparedDisplay = some (Sample.layout "left") ∧
    (r.handleControlAt (.prepare 2 "unknown" 1) Sample.peer 0).2.preparedDisplay = none ∧
    ¬ Untouched r (r.handleControlAt (.prepare 2 "unknown" 1) Sample.peer 0).2 := by
  refine ⟨by decide, by decide, by decide, fun h => ?_⟩
  have hdisplay := h.preparedDisplay
  revert hdisplay
  decide

/-- The same rejection, without a `Prepare` before it, leaves the receiver as it was. -/
theorem rejected_untouched_bound :
    let r := run next Sample.receiver [Sample.control Sample.hello]
    Untouched r (r.handleControlAt (.prepare 2 "unknown" 1) Sample.peer 0).2 :=
  (rejected_untouched_iff _ _ _ [Sample.control Sample.hello] (.prepare 2 "unknown" 1) Sample.peer 0
    (.protocol (.invalidField "layout_revision")) (by decide) (by simp)).mpr (fun _ _ => by decide)

end MyKvm.Receiver
