import MyKvm.Controller.Display
import MyKvm.Controller.FailClosed
import MyKvm.Controller.Stamping
import MyKvm.Pointer.Capturing

/-!
# MyKvm.Pointer.Roaming — the pointer and the display of its session

The receiver takes every position on the display which the session was prepared for, and that is the screen at
which the pointer entered.  The pointer may roam to another screen of the remote machine; the display stays.

* `Carries`: whatever pointer the capture thread holds is on its screen, and as long as no move roams, that screen
  is the display.  `observe_carries`: the callbacks keep this.
* `next_kept`: so does every call, and the positions sent meanwhile are on the screen of the pointer.
* `roaming_display_agreement`: what follows for every run.
-/

namespace MyKvm.Pointer

open MyKvm.Lib MyKvm.Lib.Coordinate MyKvm.Protocol MyKvm.Routing MyKvm.Controller MyKvm.Layout MyKvm.Hook Fallible

variable {F : Type} [Coordinate F]

/-- The display is the screen of the pointer. -/
def Shown (d : Option (String × UInt64)) (active : ActiveTarget F) : Prop :=
  d = some (active.currentScreenId, screenLayoutRevision active.currentScreen)

/-- The pointer is on its screen, and while `steady` holds, that is the display. -/
def Follows (steady : Prop) (d : Option (String × UInt64)) (active : ActiveTarget F) : Prop :=
  Placed active ∧ (steady → Shown d active)

/-- The position is on the screen, and while `steady` holds, that is the display. -/
def Pointed.Agrees (steady : Prop) (p : Pointed) : Prop :=
  Contains p.screen p.x p.y ∧ (steady → p.display = some (p.screen.id, screenLayoutRevision p.screen))

/-- What a pointer which follows the display says of its position. -/
theorem Follows.agrees {steady : Prop} {d : Option (String × UInt64)} {active : ActiveTarget F}
    (h : Follows steady d active) :
    Pointed.Agrees steady ⟨active.currentScreen, d, round active.x, round active.y⟩ := by
  refine ⟨h.1.contains, fun hsteady => ?_⟩
  rw [h.1.named]
  exact h.2 hsteady

/-- Every pointer of the capture thread follows the display. -/
structure Carries (steady : Prop) (d : Option (String × UInt64)) (c : Capturing F) : Prop where
  active : ∀ a, c.active = some a → Follows steady d a
  pending : ∀ p, c.pending = some p → Follows steady d p.active
  candidate : ∀ p, c.candidate = some p → Follows steady d p.active
  remote : c.remoteActive = c.active.isSome

section Callbacks

variable {steady : Prop} {d : Option (String × UInt64)} {c : Capturing F}

theorem restore_carries (hcandidate : ∀ p, c.candidate = some p → Follows steady d p.active) :
    Carries steady d c.restore :=
  ⟨fun _ h => (by cases h), fun _ h => (by cases h), hcandidate, rfl⟩

/-- **A callback** moves the pointers, and changes none. -/
theorem observe_carries (h : Carries steady d c) (e : Event ClientNote) : Carries steady d (c.observe e) := by
  unfold Capturing.observe
  split
  · unfold Capturing.prepareCapture
    split
    · exact ⟨h.active, h.pending, fun _ hnone => (by cases hnone), h.remote⟩
    · exact ⟨h.active, h.candidate, fun _ hnone => (by cases hnone), h.remote⟩
  · unfold Capturing.activateCapture
    split
    · exact h
    · rename_i p hpending
      refine ⟨?_, fun _ hnone => (by cases hnone), h.candidate, rfl⟩
      rintro a ⟨⟩
      exact h.pending p hpending
  · exact restore_carries h.candidate
  · exact h

theorem foldl_observe_carries (h : Carries steady d c) (events : List (Event ClientNote)) :
    Carries steady d (events.foldl Capturing.observe c) := by
  induction events generalizing c with
  | nil => exact h
  | cons e events ih => exact ih (observe_carries h e)

end Callbacks

namespace CaptureSetting

/-- Between two calls: nothing is offered, every pointer follows the display, and so did
every position which was sent. -/
structure Kept (steady : Prop) (s : CaptureSetting F) : Prop where
  carries : Carries steady s.setting.client.runtime.display s.capture
  idle : s.capture.candidate = none
  sent : ∀ p ∈ s.sent, p.Agrees steady

variable {steady : Prop} {s : CaptureSetting F}

theorem Kept.restore (h : Kept steady s) : Kept steady s.restore := by
  refine ⟨restore_carries ?_, h.idle, h.sent⟩
  intro p hp
  cases h.idle.symm.trans hp

/-- Other pointers, which follow the display as well. -/
theorem Kept.withCapture (h : Kept steady s) {c : Capturing F}
    (hcarries : Carries steady s.setting.client.runtime.display c) (hidle : c.candidate = none) :
    Kept steady { s with capture := c } := ⟨hcarries, hidle, h.sent⟩

/-- An operation under one display. -/
theorem perform_kept {α : Type} (h : Kept steady s) {operation : ClientM α}
    (hdisplay : ∀ d, Keeps (BoundTo d) operation) :
    Kept steady (s.perform none operation).2 ∧ (s.perform none operation).2.sent = s.sent ∧
      (s.perform none operation).2.setting.client.runtime.display = s.setting.client.runtime.display := by
  have hsame : (operation.exec s.setting).2.client.runtime.display = s.setting.client.runtime.display :=
    (hdisplay _).exec rfl
  have hcarries : Carries steady s.setting.client.runtime.display { s.capture with candidate := none } :=
    ⟨h.carries.active, h.carries.pending, fun _ hnone => (by cases hnone), h.carries.remote⟩
  have hfold := foldl_observe_carries hcarries (callbacks s.setting (operation.exec s.setting).2)
  rw [← hsame] at hfold
  refine ⟨⟨?_, rfl, h.sent⟩, rfl, hsame⟩
  exact ⟨hfold.active, hfold.pending, fun _ hnone => (by cases hnone), hfold.remote⟩

/-! ### Starting and ending -/

/-- **A start** binds the display to the screen at which the pointer enters. -/
theorem beginV2Controller_kept (h : Kept steady s) {active : ActiveTarget F} (hplaced : Placed active)
    (crossedEdge : Bool) (nowMs : UInt64) : Kept steady (s.beginV2Controller active crossedEdge nowMs) := by
  unfold beginV2Controller
  split
  · exact h
  rename_i hfree
  have hpending : s.capture.pending = none := by
    rw [Bool.or_eq_true, not_or] at hfree
    simpa using hfree.1
  have hactive : s.capture.active = none := by
    rw [Bool.or_eq_true, not_or, h.carries.remote] at hfree
    simpa using hfree.2
  have hbinds := begin_display (controllerTarget active) nowMs s.setting
  unfold Ensures at hbinds
  unfold perform
  dsimp only
  split at hbinds
  · rename_i setting heq
    rw [heq]
    have hcarries : Carries steady setting.client.runtime.display
        { s.capture with candidate := some ⟨active, crossedEdge⟩ } := by
      refine ⟨?_, ?_, ?_, h.carries.remote⟩
      · intro a ha
        cases hactive.symm.trans ha
      · intro p hp
        cases hpending.symm.trans hp
      · rintro p ⟨⟩
        exact ⟨hplaced, fun _ => hbinds⟩
    have hfold := foldl_observe_carries hcarries (callbacks s.setting setting)
    exact ⟨⟨hfold.active, hfold.pending, fun _ hnone => (by cases hnone), hfold.remote⟩, rfl, h.sent⟩
  · rename_i e setting heq
    rw [heq]
    exact ⟨restore_carries fun _ hnone => (by cases hnone), rfl, h.sent⟩

theorem releaseRemoteControl_kept (h : Kept steady s) (reason : ReturnReason) :
    Kept steady (s.releaseRemoteControl reason) := by
  have hperform := (perform_kept h fun d => goLocal_display (d := d) reason).1
  unfold releaseRemoteControl
  split
  · rename_i heq
    rwa [heq] at hperform
  · rename_i heq
    rw [heq] at hperform
    exact hperform.restore

/-! ### Sending -/

theorem Kept.withSent (h : Kept steady s) {pointed : List Pointed} (hpointed : ∀ p ∈ pointed, p.Agrees steady) :
    Kept steady { s with sent := pointed ++ s.sent } := by
  refine ⟨h.carries, h.idle, fun p hp => ?_⟩
  rcases List.mem_append.mp hp with hp | hp
  · exact hpointed p hp
  · exact h.sent p hp

/-- The position of a motion which was stamped. -/
def motionPointed (screen : Screen) : Except ControllerRuntimeError MotionFrame → List Pointed
  | .ok frame => [⟨screen, some (frame.displayId, frame.layoutRevision), frame.x, frame.y⟩]
  | .error _ => []

/-- The position of an input which was stamped; the receiver takes it on the display. -/
def inputPointed (screen : Screen) (display : Option (String × UInt64)) :
    Except ControllerRuntimeError CriticalFrame → List Pointed
  | .ok frame => (eventPosition frame.event).toList.map fun (x, y) => ⟨screen, display, x, y⟩
  | .error _ => []

/-- **A motion** is stamped with the display, at the position of the pointer. -/
theorem sendMotion_kept (h : Kept steady s) {active : ActiveTarget F}
    (hfollows : Follows steady s.setting.client.runtime.display active) : Kept steady (s.sendMotion active) := by
  have hpointed : ∀ p ∈ motionPointed active.currentScreen
      (s.setting.client.runtime.nextMotion (round active.x) (round active.y)).1, p.Agrees steady := by
    cases hnext : s.setting.client.runtime.nextMotion (round active.x) (round active.y) with
    | mk answer c =>
      cases answer with
      | error e =>
        intro p hp
        cases hp
      | ok frame =>
        obtain ⟨-, hdisplay, -, -, hx, hy, -⟩ := nextMotion_eq_ok hnext
        intro p hp
        rw [List.mem_singleton.mp hp, ← hdisplay, hx, hy]
        exact hfollows.agrees
  have hperform := (perform_kept h fun d => sendMotion_display (d := d) (round active.x) (round active.y)).1
  unfold sendMotion
  dsimp only
  split
  · rename_i sequence s' heq
    rw [heq] at hperform
    have hcarries :
        Carries steady s'.setting.client.runtime.display { s'.capture with motionSequence := sequence } :=
      ⟨hperform.carries.active, hperform.carries.pending, hperform.carries.candidate, hperform.carries.remote⟩
    exact (hperform.withCapture hcarries hperform.idle).withSent hpointed
  · rename_i heq
    rw [heq] at hperform
    exact hperform.withSent hpointed

/-- An event at the position of the pointer, or at none. -/
def AtPointer (active : ActiveTarget F) (event : CriticalEvent) : Prop :=
  ∀ x y, eventPosition event = some (x, y) → x = round active.x ∧ y = round active.y

theorem eventPosition_stampEvent (motionSequence : UInt64) (event : CriticalEvent) :
    eventPosition (ControllerRuntime.stampEvent motionSequence event) = eventPosition event := by
  cases event <;> rfl

/-- **An input** has the position of the pointer, which the receiver takes on the display. -/
theorem sendInput_kept (h : Kept steady s) {active : ActiveTarget F} {event : CriticalEvent}
    (hfollows : Follows steady s.setting.client.runtime.display active) (hat : AtPointer active event) :
    Kept steady (s.sendInput active event) := by
  have hpointed : ∀ p ∈ inputPointed active.currentScreen s.setting.client.runtime.display
      (s.setting.client.runtime.nextInput event).1, p.Agrees steady := by
    cases hnext : s.setting.client.runtime.nextInput event with
    | mk answer c =>
      cases answer with
      | error e =>
        intro p hp
        cases hp
      | ok frame =>
        obtain ⟨-, hevent, -⟩ := nextInput_eq_ok hnext
        intro p hp
        obtain ⟨⟨x, y⟩, hposition, rfl⟩ := List.mem_map.mp hp
        rw [Option.mem_toList, hevent, eventPosition_stampEvent] at hposition
        obtain ⟨rfl, rfl⟩ := hat x y hposition
        exact hfollows.agrees
  exact (perform_kept h fun d => sendInput_display (d := d) event).1.withSent hpointed

theorem drainV2Controller_kept (h : Kept steady s) (nowMs : UInt64) (keysReleased : Bool)
    (arrivals : List (List ControlFrame)) : Kept steady (s.drainV2Controller nowMs keysReleased arrivals) := by
  have hperform := (perform_kept h fun d => poll_display (d := d) nowMs keysReleased arrivals).1
  unfold drainV2Controller
  split
  · exact h
  split
  · rename_i heq
    rwa [heq] at hperform
  · rename_i s' heq
    rw [heq] at hperform
    split
    · cases hactive : s'.capture.active with
      | none => exact hperform.restore
      | some active => exact sendMotion_kept hperform (hperform.carries.active active hactive)
    · exact hperform

/-! ### Moving -/

/-- The move takes the pointer to another screen of the remote machine. -/
def roams (s : CaptureSetting F) : CaptureCall → Bool
  | .hook (.mouse message x y _) seen =>
    message = wmMousemove && !(s.setting.world.gate.isLocal && s.capture.remoteActive) &&
      match s.moved (ofInt32 x) (ofInt32 y) with
      | some (active, _, _) => (active.neighbor seen.layout).isSome
      | none => false
  | _ => false

/-- A move which is taken. -/
theorem roams_move {x y : Int32} {mouseData : UInt32} {seen : Seen} {active : ActiveTarget F} {dx dy : F}
    (hgate : (s.setting.world.gate.isLocal && s.capture.remoteActive) = false)
    (hmoved : s.moved (ofInt32 x) (ofInt32 y) = some (active, dx, dy)) :
    s.roams (.hook (.mouse wmMousemove x y mouseData) seen) = (active.neighbor seen.layout).isSome := by
  show (_ && !(s.setting.world.gate.isLocal && s.capture.remoteActive) && _) = _
  rw [hgate, hmoved]
  rfl

/-- Nothing else roams. -/
theorem roams_eq_true {call : CaptureCall} (h : s.roams call = true) :
    ∃ x y mouseData seen active dx dy, call = .hook (.mouse wmMousemove x y mouseData) seen ∧
      (s.setting.world.gate.isLocal && s.capture.remoteActive) = false ∧
      s.moved (ofInt32 x) (ofInt32 y) = some (active, dx, dy) := by
  unfold roams at h
  split at h
  · rename_i message x y mouseData seen
    rw [Bool.and_eq_true, Bool.and_eq_true, Bool.not_eq_true'] at h
    obtain ⟨⟨hmove, hgate⟩, hsome⟩ := h
    obtain rfl := of_decide_eq_true hmove
    split at hsome
    · rename_i active dx dy hmoved
      exact ⟨x, y, mouseData, seen, active, dx, dy, rfl, hgate, hmoved⟩
    · cases hsome
  · cases h

/-- The pointer which moves is the one of the session. -/
theorem moved_eq_some {x y dx dy : F} {active : ActiveTarget F} (h : s.moved x y = some (active, dx, dy)) :
    ∃ old, s.capture.active = some old ∧ active = old.accumulate dx dy := by
  unfold moved at h
  split at h
  · cases h
  rename_i old hactive
  dsimp only at h
  split at h
  · cases h
  split at h
  · cases h
  · cases h
    exact ⟨old, hactive, rfl⟩

/-- The pointer of the session, elsewhere. -/
theorem Kept.withActive (h : Kept steady s) (hsome : s.capture.active.isSome = true) {active : ActiveTarget F}
    (hfollows : Follows steady s.setting.client.runtime.display active) :
    Kept steady { s with capture := { s.capture with active := some active } } := by
  refine h.withCapture ⟨?_, h.carries.pending, h.carries.candidate, h.carries.remote.trans hsome⟩ h.idle
  rintro a ⟨⟩
  exact hfollows

/-- **A move which does not roam** leaves the pointer on its screen. -/
theorem moveRemote_kept (h : Kept steady s) {old active : ActiveTarget F} {dx dy : F} {seen : Seen}
    (hold : s.capture.active = some old) (hactive : active = old.accumulate dx dy)
    (hstay : steady → active.neighbor seen.layout = none) : Kept steady (s.moveRemote active dx dy seen) := by
  obtain ⟨hplaced, hshown⟩ := h.carries.active old hold
  have hsome : s.capture.active.isSome = true := by rw [hold]; rfl
  have hmoved : Placed (updateActiveRemoteScreen active dx dy seen.layout).2.clamped := by
    rw [hactive]
    have hsized : Sized (old.accumulate dx dy).currentScreen := hplaced.sized
    exact update_placed hsized hplaced.named dx dy seen.layout
  have hscreen : steady → Shown s.setting.client.runtime.display
      (updateActiveRemoteScreen active dx dy seen.layout).2 := by
    intro hsteady
    rcases update_cases active dx dy seen.layout with ⟨-, hscreen, hid⟩ | ⟨screen, hneighbor, -⟩
    · unfold Shown
      rw [hscreen, hid, hactive]
      exact hshown hsteady
    · cases (hstay hsteady).symm.trans hneighbor
  have hreturn : ∀ pinned, updateActiveRemoteScreen active dx dy seen.layout = (true, pinned) →
      Placed pinned := by
    intro pinned heq
    rw [update_returns heq, hactive]
    have hsized : Sized (old.accumulate dx dy).currentScreen := hplaced.sized
    exact ActiveTarget.pinToEntryEdge_placed hsized hplaced.named
  unfold moveRemote
  split
  · rename_i pinned heq
    rw [heq] at hscreen
    exact releaseRemoteControl_kept (h.withActive hsome ⟨hreturn pinned heq, hscreen⟩) .user
  · rename_i reached heq
    rw [heq] at hmoved hscreen
    have hfollows : Follows steady s.setting.client.runtime.display reached.clamped := ⟨hmoved, hscreen⟩
    have hkept := h.withActive hsome hfollows
    dsimp only
    split
    · exact sendMotion_kept hkept hfollows
    · exact hkept

theorem moveLocal_kept (h : Kept steady s) (x y : F) (seen : Seen) : Kept steady (s.moveLocal x y seen) := by
  have hkept : Kept steady { s with capture := { s.capture with lastPoint := some (x, y) } } :=
    h.withCapture ⟨h.carries.active, h.carries.pending, h.carries.candidate, h.carries.remote⟩ h.idle
  unfold moveLocal
  dsimp only
  split
  · rename_i active hcrossing
    exact beginV2Controller_kept hkept (crossingTarget_placed hcrossing) true seen.nowMs
  · exact hkept

theorem unmoved_kept (h : Kept steady s) (x y : F) : Kept steady (s.unmoved x y) := by
  unfold unmoved
  dsimp only
  split
  · exact h
  · exact h.withCapture ⟨h.carries.active, h.carries.pending, h.carries.candidate, h.carries.remote⟩ h.idle

/-- **Every event of a hook**, as long as no move roams. -/
theorem processWindowsHookEvent_kept (h : Kept steady s) {event : WindowsHookEvent} {seen : Seen}
    (hstay : steady → s.roams (.hook event seen) = false) :
    Kept steady (s.processWindowsHookEvent event seen) := by
  cases event with
  | mouse message x y mouseData =>
    unfold processWindowsHookEvent
    dsimp only
    split
    · exact h
    rename_i hgate
    split
    · rename_i hmove
      unfold handleWindowsMouseMove
      split
      · exact moveLocal_kept h _ _ seen
      split
      · exact unmoved_kept h _ _
      · rename_i active dx dy hmoved
        obtain ⟨old, hold, hactive⟩ := moved_eq_some hmoved
        refine moveRemote_kept h hold hactive fun hsteady => ?_
        have hnone := hstay hsteady
        rw [hmove, roams_move (Bool.eq_false_iff.mpr hgate) hmoved] at hnone
        simpa using hnone
    split
    · unfold handleWindowsMouseButton
      split
      · rename_i active button down hactive hbutton
        refine sendInput_kept h (h.carries.active active hactive) ?_
        rintro x y ⟨⟩
        exact ⟨rfl, rfl⟩
      · exact h
    split
    · unfold handleWindowsScroll
      split
      · rename_i active deltaX deltaY hactive hdelta
        refine sendInput_kept h (h.carries.active active hactive) ?_
        rintro x y ⟨⟩
        exact ⟨rfl, rfl⟩
      · exact h
    · exact h
  | key message keyCode scanCode flags modifiers =>
    unfold processWindowsHookEvent
    dsimp only
    split
    · exact h
    split
    · exact releaseRemoteControl_kept h .user
    split
    · rename_i active event hactive hevent
      refine sendInput_kept h (h.carries.active active hactive) ?_
      obtain ⟨-, -, rfl⟩ := v2KeyEvent_eq_some.mp hevent
      rintro x y ⟨⟩
    · exact h

/-- **Every call**, as long as no move roams. -/
theorem next_kept {call : CaptureCall} (h : Kept steady s) (hstay : steady → s.roams call = false) :
    Kept steady (s.next call) := by
  cases call with
  | goMac target nowMs =>
    show Kept steady (s.goMac target nowMs)
    unfold goMac
    split
    · exact h
    · exact beginV2Controller_kept h (enter_placed target _ _) false nowMs
  | hook event seen => exact processWindowsHookEvent_kept h hstay
  | drain nowMs keysReleased arrivals => exact drainV2Controller_kept h nowMs keysReleased arrivals
  | release reason => exact releaseRemoteControl_kept h reason
  | gameMode enabled => exact ⟨h.carries, h.idle, h.sent⟩
  | offer frame =>
    refine ⟨?_, h.idle, h.sent⟩
    have hsame : (s.setting.client.offer frame).runtime = s.setting.client.runtime := offer_runtime _ frame
    show Carries steady (s.setting.client.offer frame).runtime.display s.capture
    rw [hsame]
    exact h.carries
  | requestLocal => exact ⟨h.carries, h.idle, h.sent⟩

/-- What a motion adds to the positions which were sent. -/
theorem sendMotion_sent (active : ActiveTarget F) :
    ∃ pointed, (s.sendMotion active).sent = pointed ++ s.sent ∧ ∀ p ∈ pointed,
      p.screen = active.currentScreen ∧ p.display = s.setting.client.runtime.display := by
  refine ⟨motionPointed active.currentScreen
    (s.setting.client.runtime.nextMotion (round active.x) (round active.y)).1, ?_, ?_⟩
  · unfold sendMotion
    dsimp only
    split
    · rename_i heq
      exact congrArg _ (congrArg (fun out => out.2.sent) heq).symm
    · rename_i heq
      exact congrArg _ (congrArg (fun out => out.2.sent) heq).symm
  · intro p hp
    cases hnext : s.setting.client.runtime.nextMotion (round active.x) (round active.y) with
    | mk answer c =>
      rw [hnext] at hp
      cases answer with
      | error e => cases hp
      | ok frame =>
        rw [List.mem_singleton.mp hp]
        exact ⟨rfl, (nextMotion_eq_ok hnext).2.1.symm⟩

/-- **A move which roams** is sent for a screen which is not the display. -/
theorem roams_disagrees (h : Kept True s) {call : CaptureCall} (hroams : s.roams call = true) :
    ∃ pointed, (s.next call).sent = pointed ++ s.sent ∧
      ∀ p ∈ pointed, p.display ≠ some (p.screen.id, screenLayoutRevision p.screen) := by
  obtain ⟨x, y, mouseData, seen, active, dx, dy, rfl, hgate, hmoved⟩ := roams_eq_true hroams
  rw [roams_move hgate hmoved] at hroams
  obtain ⟨old, hold, hactive⟩ := moved_eq_some hmoved
  obtain ⟨screen, hneighbor⟩ := Option.isSome_iff_exists.mp hroams
  have hother : screen.id ≠ old.currentScreenId := by
    unfold ActiveTarget.neighbor at hneighbor
    split at hneighbor
    · cases hneighbor
    · have hfound := List.find?_some hneighbor
      have hid := of_decide_eq_true (Bool.and_eq_true_iff.mp hfound).1
      rwa [hactive] at hid
  have hroamed : updateActiveRemoteScreen active dx dy seen.layout = (false, active.roamTo screen) := by
    rcases update_cases active dx dy seen.layout with ⟨hnone, -⟩ | ⟨screen', hneighbor', heq⟩
    · cases hnone.symm.trans hneighbor
    · cases hneighbor.symm.trans hneighbor'
      exact heq
  have hnext : s.next (.hook (.mouse wmMousemove x y mouseData) seen) = s.moveRemote active dx dy seen := by
    unfold next processWindowsHookEvent handleWindowsMouseMove
    dsimp only
    rw [hgate, hold, hmoved]
    rfl
  rw [hnext]
  unfold moveRemote
  rw [hroamed]
  dsimp only
  split
  · obtain ⟨pointed, hsent, hpointed⟩ := sendMotion_sent
      (s := { s with capture := { s.capture with active := some (active.roamTo screen).clamped } })
      (active.roamTo screen).clamped
    refine ⟨pointed, hsent, fun p hp heq => hother ?_⟩
    obtain ⟨hscreen, hdisplay⟩ := hpointed p hp
    have hshown : s.setting.client.runtime.display = _ := (h.carries.active old hold).2 trivial
    rw [hdisplay, hscreen] at heq
    exact (Prod.mk.inj (Option.some.inj (heq.symm.trans hshown))).1
  · exact ⟨[], rfl, fun p hp => (by cases hp)⟩

end CaptureSetting

/-- **The pointer and the display of its session.**  In every run of the capture thread, every position which is
sent is on the screen of the pointer.  If no move takes the pointer to another screen of the remote machine, that
screen is the display which the session was prepared for, in the same revision; and the first move which does is
sent for a screen which is not. -/
theorem roaming_display_agreement (setting : ClientSetting) (calls : List CaptureCall) :
    let start : CaptureSetting F := CaptureSetting.start setting
    let s := run CaptureSetting.next start calls
    (∀ p ∈ s.sent, Contains p.screen p.x p.y) ∧
      (Meets CaptureSetting.next (fun s call => s.roams call = false) start calls →
        (∀ p ∈ s.sent, p.display = some (p.screen.id, screenLayoutRevision p.screen)) ∧
        ∀ call, s.roams call = true → ∃ pointed, (s.next call).sent = pointed ++ s.sent ∧
          ∀ p ∈ pointed, p.display ≠ some (p.screen.id, screenLayoutRevision p.screen)) := by
  intro start s
  have hstart : ∀ steady, CaptureSetting.Kept steady start := fun steady =>
    ⟨⟨fun _ h => (by cases h), fun _ h => (by cases h), fun _ h => (by cases h), rfl⟩, rfl,
      fun _ h => (by cases h)⟩
  constructor
  · intro p hp
    have hkept : CaptureSetting.Kept False s :=
      run_invariant (I := CaptureSetting.Kept False) (fun s call h => CaptureSetting.next_kept h False.elim)
        (hstart False) calls
    exact (hkept.sent p hp).1
  · intro hmeets
    have hkept : CaptureSetting.Kept True s :=
      run_keeps (I := CaptureSetting.Kept True) (fun s call h hstay => CaptureSetting.next_kept h fun _ => hstay)
        (hstart True) hmeets
    exact ⟨fun p hp => (hkept.sent p hp).2 trivial, fun call hroams => CaptureSetting.roams_disagrees hkept hroams⟩

section Examples

def sampleScreen (deviceId id : String) (x y : Int32) : Screen :=
  ⟨id, deviceId, id, x, y, 1920, 1080, 0x3FF0000000000000, false⟩

def samplePeer : Device :=
  ⟨"peer-device", "client",
    [sampleScreen "peer-device" "peer-device-scr-1" 1920 0,
      sampleScreen "peer-device" "peer-device-scr-2" 1920 1080]⟩

/-- A remote machine with two screens, one above the other. -/
def sampleLayout : SizedLayout := ⟨⟨[samplePeer], "peer-device"⟩, by decide⟩

/-- The upper one, to the right of the local screen. -/
def sampleTarget : InputTarget where
  deviceId := "peer-device"
  targetAddr := "10.0.0.2:47834"
  protocolVersion := 2
  screenId := "scr-1"
  localScreen := sampleScreen "local-device" "local-display-1" 0 0
  layoutLocalScreen := sampleScreen "local-device" "local-display-1" 0 0
  remoteScreen := sampleScreen "peer-device" "peer-device-scr-1" 1920 0
  edge := .right
  sized := by decide

def sampleSeen : Seen := ⟨sampleLayout, [sampleTarget], ⟨"", "", "", ""⟩, true, 0⟩

def sampleRevision : UInt64 := screenLayoutRevision (sampleScreen "peer-device" "scr-1" 1920 0)

/-- A session to the upper screen, up to its first motion. -/
def sampleSession : List CaptureCall :=
  [.goMac sampleTarget 0, .offer (.ready 3 (Sample.boot 2) true "scr-1" sampleRevision), .drain 0 true [],
    .offer (.commitAck Sample.session), .drain 2 true []]

def sampleStart : ClientSetting := ClientSetting.start Sample.client ⟨1⟩ [] [some Sample.session.nonce]

/-- The local pointer is moved by a hook; it is kept at (1919, 540) else. -/
def sampleMove (x y : Int32) : CaptureCall := .hook (.mouse wmMousemove x y 0) sampleSeen

def sampleRun (calls : List CaptureCall) : CaptureSetting ℚ :=
  run CaptureSetting.next (CaptureSetting.start sampleStart) calls

/-- A session without roaming. -/
theorem roaming_display_agreement_inside :
    ∀ p ∈ (sampleRun (sampleSession ++ [sampleMove 1925 545])).sent,
      p.display = some (p.screen.id, screenLayoutRevision p.screen) :=
  ((roaming_display_agreement (F := ℚ) sampleStart (sampleSession ++ [sampleMove 1925 545])).2
    (by decide +kernel)).1

/-- From the middle of the upper screen the pointer is moved onto the lower one, and is sent for the upper one. -/
theorem not_roaming_display_agreement :
    ¬ ∀ p ∈ (sampleRun (sampleSession ++ [sampleMove 1919 1085])).sent,
      p.display = some (p.screen.id, screenLayoutRevision p.screen) := by decide +kernel

end Examples

end MyKvm.Pointer
