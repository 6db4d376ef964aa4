import MyKvm.Receiver.Lockstep

/-!
# MyKvm.Receiver.Teardown — what each end of a session clears

A session ends at the request of its controller, with its display, or because it is lost: its lease expires, its
stream closes, its injector fails.  Each end closes the gate and the handshake and drops the motion which waits; a
session which is lost leaves its display behind (`next_display`), and a later `updateDisplayLayouts` reports the
end of a session which is no more.
-/

namespace MyKvm.Receiver

open MyKvm.Lib MyKvm.Protocol ReceiverSessionRuntime

/-- No session is active in any part, and nothing of it is left. -/
structure Cleared (r : ReceiverSessionRuntime) : Prop where
  session : r.activeSession = none
  gate : r.inputGate.active = none
  handshake : ∀ h s, r.handshake = some h → h.state ≠ .active s
  display : r.activeDisplay = none
  pending : r.pendingMotion = none

/-- The call is an `EndSession` or brings new layouts. -/
def ByRequest : ReceiverCall → Prop
  | .control (.endSession _ _) _ _ => True
  | .layouts _ => True
  | _ => False

/-- `updateDisplayLayouts` reports an ended session, or records the fault of one. -/
def ReportsLoss (r : ReceiverSessionRuntime) (displayLayouts : List ReceiverDisplayLayout) : Prop :=
  (r.updateDisplayLayouts displayLayouts).1 = .ok true ∨
    ((r.updateDisplayLayouts displayLayouts).2.lastFault = some .layoutChanged ∧ r.lastFault ≠ some .layoutChanged)

section Teardown

variable {r r₁ : ReceiverSessionRuntime}

/-! ### One end -/

/-- Whatever ended the session, its gate is closed and nothing waits. -/
theorem Coherent.closed (hc : Coherent r) (hnone : r.activeSession = none) :
    r.inputGate.active = none ∧ r.pendingMotion = none := by
  refine ⟨Option.map_eq_none_iff.mp (hc.gate.trans hnone), ?_⟩
  cases hpending : r.pendingMotion with
  | none => rfl
  | some f => cases hnone.symm.trans (hc.pending f hpending)

theorem ReleaseStep.activeDisplay {answer : Except SessionRuntimeError Unit} (hstep : ReleaseStep r (answer, r₁)) :
    r₁.activeDisplay = r.activeDisplay := by
  cases hstep <;> rfl

theorem ApplyStep.activeDisplay {frame : MotionFrame} {answer : Except SessionRuntimeError Unit}
    (hstep : ApplyStep r frame (answer, r₁)) : r₁.activeDisplay = r.activeDisplay := by
  cases hstep with
  | refused _ => rfl
  | failed _ _ hrelease => exact hrelease.activeDisplay
  | moved _ _ => rfl

/-- Input, motion, the lease and the stream leave the active display alone. -/
theorem next_display (hc : Coherent r) {c : ReceiverCall}
    (hcontrol : ∀ frame peer nowMs, c ≠ .control frame peer nowMs)
    (hlayouts : ∀ displayLayouts, c ≠ .layouts displayLayouts) : (r.next c).activeDisplay = r.activeDisplay := by
  have hlose : ∀ {out : Except SessionRuntimeError Bool × ReceiverSessionRuntime}, LoseStep r out →
      out.2.activeDisplay = r.activeDisplay := by
    intro out hstep
    cases hstep with
    | kept => rfl
    | lost _ _ hrelease => exact hrelease.activeDisplay
  cases c with
  | control frame peer nowMs => exact absurd rfl (hcontrol frame peer nowMs)
  | layouts displayLayouts => exact absurd rfl (hlayouts displayLayouts)
  | input frame peer nowMs =>
    have hstep := handleInputAt_cases hc frame peer nowMs
    unfold next
    dsimp only
    generalize r.handleInputAt frame peer nowMs = out at hstep ⊢
    cases hstep with
    | refused _ => rfl
    | failed _ _ _ hrelease => exact hrelease.activeDisplay
    | applied hadmitted hsubmit hnext hflush =>
      cases hflush with
      | kept => rfl
      | dropped => rfl
      | applied _ _ _ happly => exact happly.activeDisplay
  | motion frame peer nowMs =>
    have hstep := handleMotionAt_cases hc frame peer nowMs
    unfold next
    dsimp only
    generalize r.handleMotionAt frame peer nowMs = out at hstep ⊢
    cases hstep with
    | refused _ => rfl
    | stale => rfl
    | buffered _ _ => rfl
    | applied _ happly => exact happly.activeDisplay
  | expire nowMs => exact hlose (expireIfNeeded_cases hc nowMs)
  | streamClosed peer => exact hlose (inputStreamClosed_cases hc peer)
  | modifiers enabled control alt «meta» => rfl

/-- What a control frame does to the active session and its display. -/
theorem ControlStep.ends {frame : ControlFrame} {peer : AuthenticatedPeer} {nowMs : UInt64}
    {answer : Except SessionRuntimeError (Option ControlFrame)}
    (hstep : ControlStep r frame peer nowMs (answer, r₁)) :
    (∃ s reason h, frame = .endSession s reason ∧ r.activeSession = some s ∧ r₁.activeDisplay = none ∧
        r₁.handshake = some h ∧ h.state = .ended s) ∨
      r₁.activeSession = r.activeSession ∧ (r₁.activeDisplay = r.activeDisplay ∨ r₁.activeDisplay = none) ∨
      r₁.activeSession.isSome := by
  cases hstep with
  | refused _ _ | unready _ _ | unknownLayout _ _ _ | prepareRefused _ _ _ _ _ | prepared _ _ _ _ _
  | commitRefused _ _ _ _ | recommitted _ _ => exact Or.inr (Or.inl ⟨rfl, Or.inl rfl⟩)
  | helloFailed _ hrelease | helloRefused _ hrelease =>
    exact Or.inr (Or.inl ⟨hrelease.activeSession, Or.inl hrelease.activeDisplay⟩)
  | greeted _ hrelease => exact Or.inr (Or.inl ⟨hrelease.activeSession, Or.inr rfl⟩)
  | activated _ _ _ _ _ _ _ => exact Or.inr (Or.inr rfl)
  | ended hbound hactive hh hrelease =>
    exact Or.inl ⟨_, _, _, rfl, hactive, hrelease.activeDisplay, hrelease.handshake, rfl⟩
  | endedIdle _ _ _ _ hrelease => exact Or.inr (Or.inl ⟨hrelease.activeSession, Or.inl hrelease.activeDisplay⟩)
  | ponged hbound hh hstate =>
    rename_i s sequence h
    have hsame := touch_sessionPart (r := r) (.ping s sequence) nowMs
    simp only [sessionPart, Prod.mk.injEq] at hsame
    exact Or.inr (Or.inl ⟨hsame.2.2.2.2.1, Or.inl hsame.2.2.2.2.2.2⟩)

/-- After a control frame without a session: it was the `EndSession`, or there was none before. -/
theorem control_ends (hc : Coherent r) {frame : ControlFrame} {peer : AuthenticatedPeer} {nowMs : UInt64}
    (hends : (r.next (.control frame peer nowMs)).activeSession = none) :
    (∃ s reason h, frame = .endSession s reason ∧ r.activeSession = some s ∧
        (r.next (.control frame peer nowMs)).activeDisplay = none ∧
        (r.next (.control frame peer nowMs)).handshake = some h ∧ h.state = .ended s) ∨
      r.activeSession = none ∧ ((r.next (.control frame peer nowMs)).activeDisplay = r.activeDisplay ∨
        (r.next (.control frame peer nowMs)).activeDisplay = none) := by
  have hstep : ControlStep r frame peer nowMs
      ((r.handleControlAt frame peer nowMs).1, r.next (.control frame peer nowMs)) :=
    handleControlAt_cases hc frame peer nowMs
  rcases hstep.ends with hend | ⟨hsame, hdisplay⟩ | hsome
  · exact Or.inl hend
  · exact Or.inr ⟨hsame.symm.trans hends, hdisplay⟩
  · rw [hends] at hsome
    cases hsome

/-- After new layouts without a session: it was lost with its display, or there was none before. -/
theorem layouts_ends (hc : Coherent r) {displayLayouts : List ReceiverDisplayLayout}
    (hends : (r.next (.layouts displayLayouts)).activeSession = none) :
    (∃ s h, r.activeSession = some s ∧ (r.next (.layouts displayLayouts)).activeDisplay = none ∧
        (r.next (.layouts displayLayouts)).handshake = some h ∧ h.state = .ended s) ∨
      r.activeSession = none ∧ ((r.next (.layouts displayLayouts)).activeDisplay = r.activeDisplay ∨
        (r.next (.layouts displayLayouts)).activeDisplay = none) := by
  have hstep := updateDisplayLayouts_cases hc displayLayouts
  unfold next at hends ⊢
  dsimp only at hends ⊢
  generalize r.updateDisplayLayouts displayLayouts = out at hstep hends ⊢
  cases hstep with
  | current _ => exact Or.inr ⟨hends, Or.inl rfl⟩
  | lost _ hactive _ hrelease =>
    exact Or.inl ⟨_, _, hactive, hrelease.activeDisplay, hrelease.handshake, rfl⟩
  | cleared _ hnone hrelease => exact Or.inr ⟨hnone, Or.inr hrelease.activeDisplay⟩

/-- **An end by request clears everything.** -/
theorem cleared_of_byRequest (hc : Coherent r) {s : SessionId} (hactive : r.activeSession = some s)
    {c : ReceiverCall}
    (hrequest : ByRequest c) (hends : (r.next c).activeSession = none) : Cleared (r.next c) := by
  obtain ⟨hgate, hpending⟩ := (next_coherent r c hc).closed hends
  suffices hrest : (r.next c).activeDisplay = none ∧ ∃ h, (r.next c).handshake = some h ∧ h.state = .ended s by
    obtain ⟨hdisplay, h, hh, hstate⟩ := hrest
    refine ⟨hends, hgate, fun h' s' hh' => ?_, hdisplay, hpending⟩
    cases hh.symm.trans hh'
    simp [hstate]
  cases c with
  | control frame peer nowMs =>
    rcases control_ends hc hends with ⟨s', reason, h, rfl, hactive', hdisplay, hh, hstate⟩ | ⟨hnone, -⟩
    · cases hactive.symm.trans hactive'
      exact ⟨hdisplay, h, hh, hstate⟩
    · cases hactive.symm.trans hnone
  | layouts displayLayouts =>
    rcases layouts_ends hc hends with ⟨s', h, hactive', hdisplay, hh, hstate⟩ | ⟨hnone, -⟩
    · cases hactive.symm.trans hactive'
      exact ⟨hdisplay, h, hh, hstate⟩
    · cases hactive.symm.trans hnone
  | input _ _ _ | motion _ _ _ | expire _ | streamClosed _ | modifiers _ _ _ _ => exact hrequest.elim

/-- **A lost session leaves its display.** -/
theorem byRequest_of_cleared (hc : Coherent r) {s : SessionId} (hactive : r.activeSession = some s)
    {c : ReceiverCall}
    (hends : (r.next c).activeSession = none) (hcleared : (r.next c).activeDisplay = none) : ByRequest c := by
  by_contra hlost
  have hdisplay : (r.next c).activeDisplay = r.activeDisplay := by
    cases c with
    | control frame peer nowMs =>
      rcases control_ends hc hends with ⟨s', reason, h, rfl, -, -, -, -⟩ | ⟨hnone, -⟩
      · exact absurd trivial hlost
      · cases hactive.symm.trans hnone
    | layouts displayLayouts => exact absurd trivial hlost
    | input _ _ _ | motion _ _ _ | expire _ | streamClosed _ | modifiers _ _ _ _ =>
      exact next_display hc (by simp) (by simp)
  have hsome := hc.display (Option.isSome_iff_exists.mpr ⟨s, hactive⟩)
  rw [← hdisplay, hcleared] at hsome
  cases hsome

/-! ### New layouts without a session -/

theorem releaseLoop_firstError (commands : List InputCommand) (firstError : Option PortError)
    (lastFault lastFault' : Option SessionFault) (i : Injector) :
    (releaseLoop commands firstError lastFault i).1 = (releaseLoop commands firstError lastFault' i).1 := by
  induction commands generalizing firstError lastFault lastFault' i with
  | nil => rfl
  | cons command commands ih =>
    rw [releaseLoop, releaseLoop]
    cases i.submitReady command with
    | mk answer i₁ =>
    cases answer with
    | error e => rfl
    | ok u => exact ih _ _ _ _

/-- What a release answers depends on the ledger and the injector. -/
theorem releasePressed_congr {r' : ReceiverSessionRuntime} (hpressed : r'.pressed = r.pressed)
    (hinjector : r'.injector = r.injector) : r'.releasePressed.1 = r.releasePressed.1 := by
  have herror := releaseLoop_firstError r.pressed.releaseAll.1 none r'.lastFault r.lastFault r.injector
  unfold releasePressed
  rw [hpressed, hinjector]
  dsimp only
  generalize releaseLoop r.pressed.releaseAll.1 none r'.lastFault r.injector = out' at herror ⊢
  generalize releaseLoop r.pressed.releaseAll.1 none r.lastFault r.injector = out at herror ⊢
  obtain ⟨firstError', lastFault', i'⟩ := out'
  obtain ⟨firstError, lastFault, i⟩ := out
  obtain rfl : firstError' = firstError := herror
  cases firstError' <;> rfl

/-- **Without a session** a loss is reported exactly when a display is left, the layouts drop it, and the release
succeeds. -/
theorem reportsLoss_iff (hnone : r.activeSession = none) (displayLayouts : List ReceiverDisplayLayout) :
    ReportsLoss r displayLayouts ↔
      r.activeDisplay.all displayLayouts.contains = false ∧ r.releasePressed.1 = .ok () := by
  unfold ReportsLoss updateDisplayLayouts
  cases hcurrent : r.activeDisplay.all displayLayouts.contains with
  | true =>
    simp only [if_true, reduceCtorEq, false_and, iff_false, not_or, not_and, Decidable.not_not]
    refine ⟨by simp, fun h => ?_⟩
    split at h <;> exact h
  | false =>
    simp only [Bool.false_eq_true, if_false, true_and]
    generalize hr' : (if r.preparedDisplay.all displayLayouts.contains then { r with displayLayouts }
      else { r with displayLayouts, preparedDisplay := none }) = r'
    have hsame : r'.activeSession = none ∧ r'.pressed = r.pressed ∧ r'.injector = r.injector := by
      rw [← hr']
      split <;> exact ⟨hnone, rfl, rfl⟩
    obtain ⟨hnone', hpressed, hinjector⟩ := hsame
    have hanswer : (undisplayed r').releasePressed.1 = r.releasePressed.1 :=
      releasePressed_congr hpressed hinjector
    rw [loseDisplay_none hnone', ← hanswer]
    have hrelease := releasePressed_cases (undisplayed r')
    unfold releaseAndReport
    cases hout : (undisplayed r').releasePressed with
    | mk answer r₂ =>
    rw [hout] at hrelease
    cases answer with
    | ok u => simp
    | error e =>
      cases hrelease with
      | failed e fault _ _ => simp

/-! ### Runs -/

/-- Without a session no display is active. -/
def Undisplayed (r : ReceiverSessionRuntime) : Prop := r.activeSession = none → r.activeDisplay = none

theorem next_undisplayed (hc : Coherent r) {c : ReceiverCall}
    (hrequest : r.activeSession.isSome → (r.next c).activeSession = none → ByRequest c) (h : Undisplayed r) :
    Undisplayed (r.next c) := by
  intro hends
  rcases Option.eq_none_or_eq_some r.activeSession with hnone | ⟨s, hactive⟩
  · have hdisplay := h hnone
    cases c with
    | control frame peer nowMs =>
      rcases control_ends hc hends with ⟨s', reason, h', -, hactive, -, -, -⟩ | ⟨-, hsame | hcleared⟩
      · cases hnone.symm.trans hactive
      · exact hsame.trans hdisplay
      · exact hcleared
    | layouts displayLayouts =>
      rcases layouts_ends hc hends with ⟨s', h', hactive, -, -, -⟩ | ⟨-, hsame | hcleared⟩
      · cases hnone.symm.trans hactive
      · exact hsame.trans hdisplay
      · exact hcleared
    | input _ _ _ | motion _ _ _ | expire _ | streamClosed _ | modifiers _ _ _ _ =>
      exact (next_display hc (by simp) (by simp)).trans hdisplay
  · have hsome : r.activeSession.isSome := Option.isSome_iff_exists.mpr ⟨s, hactive⟩
    exact (cleared_of_byRequest hc hactive (hrequest hsome hends) hends).display

end Teardown

/-- **Teardown.**  In every reachable state: a call which ends the active session clears everything if and only if
it is an `EndSession` or brings new layouts; and `updateDisplayLayouts` reports a loss without a session, unless no
display outside the new layouts is left or the release fails.  In a run in which every session ends by request, it
reports a loss only with a session. -/
theorem teardown_clears (localBoot : BootId) (injector : Injector) (displayLayouts : List ReceiverDisplayLayout)
    (calls : List ReceiverCall) :
    let r := run next (newWithDisplayLayouts localBoot injector displayLayouts) calls
    (∀ s c, r.activeSession = some s → (r.next c).activeSession = none → (Cleared (r.next c) ↔ ByRequest c)) ∧
      (∀ layouts, (ReportsLoss r layouts → r.activeSession.isSome) ↔
        r.activeSession.isSome ∨ r.activeDisplay.all layouts.contains = true ∨ r.releasePressed.1 ≠ .ok ()) ∧
      (Meets next (fun r c => r.activeSession.isSome → (r.next c).activeSession = none → ByRequest c)
          (newWithDisplayLayouts localBoot injector displayLayouts) calls →
        ∀ layouts, ReportsLoss r layouts → r.activeSession.isSome) := by
  intro r
  have hc : Coherent r := run_coherent localBoot injector displayLayouts calls
  refine ⟨fun s c hactive hends => ⟨fun h => ?_, fun h => ?_⟩, fun layouts => ?_,
    fun hmeets layouts hreports => ?_⟩
  · exact byRequest_of_cleared hc hactive hends h.display
  · exact cleared_of_byRequest hc hactive h hends
  · rcases Option.eq_none_or_eq_some r.activeSession with hnone | ⟨s, hactive⟩
    · rw [reportsLoss_iff hnone layouts, hnone]
      simp only [Option.isSome_none, Bool.false_eq_true, imp_false, false_or, not_and]
      cases r.activeDisplay.all layouts.contains <;> simp
    · simp [hactive]
  · have hdisplayed : Coherent r ∧ Undisplayed r := by
      refine run_keeps (I := fun r => Coherent r ∧ Undisplayed r) ?_ ?_ hmeets
      · rintro r' c ⟨hc', h⟩ hrequest
        exact ⟨next_coherent r' c hc', next_undisplayed hc' hrequest h⟩
      · exact ⟨newWithDisplayLayouts_coherent _ _ _, fun _ => rfl⟩
    by_contra hinactive
    have hnone : r.activeSession = none := by simpa using hinactive
    have hleft := ((reportsLoss_iff hnone layouts).mp hreports).1
    rw [hdisplayed.2 hnone] at hleft
    cases hleft

/-- A session is lost when its lease expires; its display is still active, and the layouts which drop it report the
end of a session which is no more. -/
theorem not_cleared_expired :
    let r := run next Sample.receiver (Sample.opening 3 ++ [.expire 3000])
    r.activeSession = none ∧ r.activeDisplay = some (Sample.layout "left") ∧ ¬ Cleared r ∧
      (r.updateDisplayLayouts [Sample.layout "right"]).1 = .ok true ∧
      (r.updateDisplayLayouts [Sample.layout "right"]).2.lastFault = some .layoutChanged := by
  refine ⟨by decide +kernel, by decide +kernel, fun h => ?_, by decide +kernel, by decide +kernel⟩
  have hdisplay := h.display
  revert hdisplay
  decide +kernel

end MyKvm.Receiver
