import MyKvm.Pointer.Capturing

/-!
# MyKvm.Pointer.CaptureThread — the capture thread and the desktop

The thread of `Pointer.Capturing`, together with what it takes from the desktop: the cursor, which it hides while a
remote machine is controlled, and the focus, which it moves to a window of its own before it asks for a session.

* `Seat.observe`: what a port callback does to the pointer and to the desktop.
* `next_core`: as far as the pointer goes, this is the thread of `Pointer.Capturing`.
* `LoopStep`: the parts of the loop of the thread.
-/

namespace MyKvm.Pointer.Windows

open MyKvm.Lib MyKvm.Lib.Coordinate MyKvm.Protocol MyKvm.Routing MyKvm.Controller MyKvm.Layout MyKvm.Hook Fallible

/-- The desktop: the display counter of the cursor, which is seen while the counter is not negative, and the window
which has the focus.  Windows are numbered; zero is none. -/
structure Desktop where
  displayCounter : ℤ
  cursorHideCalls : ℕ
  foreground : ℕ
  /-- The windows there are, and whether Windows lets the thread choose among them. -/
  windows : List ℕ
  granted : Bool
  focusWindow : ℕ
  previousForeground : ℕ
  deriving DecidableEq

namespace Desktop

/-- The loop of `hide_windows_cursor_if_needed`. -/
def hideRounds : ℕ → Desktop → Desktop
  | 0, d => d
  | n + 1, d =>
    let d := { d with displayCounter := d.displayCounter - 1, cursorHideCalls := d.cursorHideCalls + 1 }
    if d.displayCounter < 0 then d else hideRounds n d

def hideWindowsCursorIfNeeded (d : Desktop) : Desktop := if d.cursorHideCalls ≠ 0 then d else hideRounds 8 d

def showWindowsCursorIfNeeded (d : Desktop) : Desktop :=
  { d with displayCounter := d.displayCounter + d.cursorHideCalls, cursorHideCalls := 0 }

/-- `prepare_windows_focus`, where it succeeds. -/
def prepareWindowsFocus (d : Desktop) : Desktop :=
  if d.foreground = 0 then d else { d with previousForeground := d.foreground, foreground := d.focusWindow }

def restoreWindowsForeground (d : Desktop) : Desktop :=
  let previous := d.previousForeground
  let d := { d with previousForeground := 0 }
  if previous ≠ 0 ∧ previous ∈ d.windows ∧ d.granted then { d with foreground := previous } else d

end Desktop

/-- The pointer, and the desktop. -/
structure Seat (F : Type) where
  capture : Capturing F
  desktop : Desktop

variable {F : Type} [Coordinate F]

namespace Seat

/-- `restore_windows_capture_state` -/
def restore (s : Seat F) : Seat F :=
  { capture := s.capture.restore, desktop := s.desktop.showWindowsCursorIfNeeded.restoreWindowsForeground }

/-- The callback which the log notes. -/
def observe (s : Seat F) : Event ClientNote → Seat F
  | .activateCapture (.ok ()) =>
    { capture := s.capture.activateCapture
      desktop := if s.capture.pending.isSome then s.desktop.hideWindowsCursorIfNeeded else s.desktop }
  | .requestLocalRestore => s.restore
  | .prepareFocus (.ok ()) => { s with desktop := s.desktop.prepareWindowsFocus }
  | e => { s with capture := s.capture.observe e }

@[simp] theorem observe_capture (s : Seat F) (e : Event ClientNote) :
    (s.observe e).capture = s.capture.observe e := by
  unfold observe
  split <;> rfl

theorem foldl_observe_capture (s : Seat F) (events : List (Event ClientNote)) :
    (events.foldl observe s).capture = events.foldl Capturing.observe s.capture := by
  induction events generalizing s with
  | nil => rfl
  | cons e events ih => rw [List.foldl_cons, List.foldl_cons, ih, observe_capture]

end Seat

/-- The thread. -/
structure CaptureThread (F : Type) where
  core : CaptureSetting F
  desktop : Desktop

namespace CaptureThread

variable (t : CaptureThread F)

def seat : Seat F := ⟨t.core.capture, t.desktop⟩

def withCapture (capture : Capturing F) : CaptureThread F := { t with core := { t.core with capture } }

def restore : CaptureThread F :=
  { core := t.core.restore, desktop := t.desktop.showWindowsCursorIfNeeded.restoreWindowsForeground }

/-- An operation of the controller, whose port offers the candidate. -/
def perform {α : Type} (candidate : Option (PendingWindowsTarget F)) (operation : ClientM α) :
    Except ControllerClientError α × CaptureThread F :=
  let (answer, core) := t.core.perform candidate operation
  let seat := (CaptureSetting.callbacks t.core.setting core.setting).foldl Seat.observe
    ⟨{ t.core.capture with candidate }, t.desktop⟩
  (answer, { core, desktop := seat.desktop })

/-! ### Starting and ending -/

def beginV2Controller (active : ActiveTarget F) (crossedEdge : Bool) (nowMs : UInt64) : CaptureThread F :=
  if t.core.capture.pending.isSome || t.core.capture.remoteActive then t else
  match t.perform (some ⟨active, crossedEdge⟩)
      (ControllerClient.begin (CaptureSetting.controllerTarget active) nowMs) with
  | (.ok (), t) => t.withCapture { t.core.capture with motionSequence := 0 }
  | (.error _, t) => t.restore

/-- `GoMac`: the pointer enters the selected screen in the middle. -/
def goMac (target : InputTarget) (nowMs : UInt64) : CaptureThread F :=
  if t.core.capture.active.isSome then t else t.beginV2Controller (centeredActiveTarget target) false nowMs

def releaseRemoteControl (reason : ReturnReason) : CaptureThread F :=
  match t.perform none (ControllerClient.goLocal reason) with
  | (.ok (), t) => t
  | (.error _, t) => t.restore

/-! ### Sending -/

def sendMotion (active : ActiveTarget F) : CaptureThread F :=
  { core := t.core.sendMotion active
    desktop := (t.perform none (ControllerClient.sendMotion (round active.x) (round active.y))).2.desktop }

def sendInput (active : ActiveTarget F) (event : CriticalEvent) : CaptureThread F :=
  { core := t.core.sendInput active event,
    desktop := (t.perform none (ControllerClient.sendInput event)).2.desktop }

def drainV2Controller (nowMs : UInt64) (keysReleased : Bool) (arrivals : List (List ControlFrame)) :
    CaptureThread F :=
  if t.core.capture.pending.isNone && !t.core.capture.remoteActive then t else
  match t.perform none (ControllerClient.poll nowMs keysReleased arrivals) with
  | (.error _, t) => t
  | (.ok (), t) =>
    if t.core.capture.remoteActive && t.core.capture.motionSequence = 0 then
      match t.core.capture.active with
      | none => t.restore
      | some active => t.sendMotion active
    else t

/-! ### The events of the hooks -/

def moveRemote (active : ActiveTarget F) (dx dy : F) (seen : Seen) : CaptureThread F :=
  match updateActiveRemoteScreen active dx dy seen.layout with
  | (true, active) => (t.withCapture { t.core.capture with active := some active }).releaseRemoteControl .user
  | (false, active) =>
    let active := active.clamped
    let t := t.withCapture { t.core.capture with active := some active }
    if seen.due then t.sendMotion active else t

/-- As for `CaptureSetting.moveLocal`, a crossing goes on here, which in the source waits
for a lock it holds itself. -/
def moveLocal (x y : F) (seen : Seen) : CaptureThread F :=
  let (dx, dy) := match t.core.capture.lastPoint with
    | some (px, py) => (x - px, y - py)
    | none => (zero, zero)
  let t := t.withCapture { t.core.capture with lastPoint := some (x, y) }
  match crossingTarget seen.targets x y dx dy with
  | some active => t.beginV2Controller active true seen.nowMs
  | none => t

def handleWindowsMouseMove (x y : F) (seen : Seen) : CaptureThread F :=
  if t.core.capture.active.isNone then t.moveLocal x y seen else
  match t.core.moved x y with
  | none => { t with core := t.core.unmoved x y }
  | some (active, dx, dy) => t.moveRemote active dx dy seen

def handleWindowsMouseButton (message mouseData : UInt32) : CaptureThread F :=
  match t.core.capture.active, mouseButton message mouseData with
  | some active, some (button, down) =>
    t.sendInput active (.button button down (round active.x) (round active.y) t.core.capture.motionSequence)
  | _, _ => t

def handleWindowsScroll (message mouseData : UInt32) : CaptureThread F :=
  match t.core.capture.active, scrollDelta message mouseData with
  | some active, some (deltaX, deltaY) =>
    t.sendInput active (.scroll deltaX deltaY (round active.x) (round active.y) t.core.capture.motionSequence)
  | _, _ => t

def processWindowsHookEvent (event : WindowsHookEvent) (seen : Seen) : CaptureThread F :=
  match event with
  | .mouse message x y mouseData =>
    if t.core.setting.world.gate.isLocal && t.core.capture.remoteActive then t
    else if message = wmMousemove then t.handleWindowsMouseMove (ofInt32 x) (ofInt32 y) seen
    else if (mouseButton message mouseData).isSome then t.handleWindowsMouseButton message mouseData
    else if message ∈ [wmMousewheel, wmMousehwheel] then t.handleWindowsScroll message mouseData
    else t
  | .key message keyCode scanCode flags modifiers =>
    if t.core.setting.world.gate.isLocal then t
    else if keyDown message && screenSwitchHotkeysMatchVk seen.screenSwitchHotkeys keyCode.toUInt16 modifiers then
      t.releaseRemoteControl .user
    else
      match t.core.capture.active, v2KeyEvent keyCode scanCode flags (keyDown message) with
      | some active, some event => t.sendInput active event
      | _, _ => t

/-- What happens to the thread, as `Pointer.Capturing` has it. -/
def next : CaptureCall → CaptureThread F
  | .goMac target nowMs => t.goMac target nowMs
  | .hook event seen => t.processWindowsHookEvent event seen
  | .drain nowMs keysReleased arrivals => t.drainV2Controller nowMs keysReleased arrivals
  | .release reason => t.releaseRemoteControl reason
  | .gameMode enabled => { t with core := t.core.next (.gameMode enabled) }
  | .offer frame => { t with core := t.core.next (.offer frame) }
  | .requestLocal => { t with core := t.core.next .requestLocal }

/-! ### The loop -/

end CaptureThread

/-- Where a request to switch the screen leads; a screen which is entered is entered in the middle. -/
inductive SwitchOutcome where
  | enter (target : InputTarget)
  | «return»
  | localMove
  | noop

/-- The parts of the loop, and what other threads and the user do. -/
inductive LoopStep where
  /-- The target is the one which is selected, if it can be controlled. -/
  | controlAction (action : ControlHotkeyAction) (selected : Option InputTarget) (nowMs : UInt64)
  | hookEvent (event : WindowsHookEvent) (seen : Seen)
  /-- Whether the desktop of the input is the default one. -/
  | desktopCheck (isDefault : Bool)
  | switchRequest (outcome : SwitchOutcome) (nowMs : UInt64)
  | drain (nowMs : UInt64) (keysReleased : Bool) (arrivals : List (List ControlFrame))
  | gameMode (enabled : Bool)
  | offer (frame : ControlFrame)
  | requestLocal
  /-- Somebody else changes the focus, or the windows. -/
  | focus (foreground : ℕ) (windows : List ℕ) (granted : Bool)

def LoopStep.isFocus : LoopStep → Bool
  | .focus _ _ _ => true
  | _ => false

namespace CaptureThread

def drainControlAction (t : CaptureThread F) (action : ControlHotkeyAction) (selected : Option InputTarget)
    (nowMs : UInt64) : CaptureThread F :=
  match action with
  | .goLocal => t.releaseRemoteControl .user
  | .emergencyLocal => t.releaseRemoteControl .emergency
  | .goMac =>
    if t.core.capture.remoteActive || t.core.capture.pending.isSome then t else
    match selected with
    | some target => t.goMac target nowMs
    | none => t

def drainSwitchRequest (t : CaptureThread F) (outcome : SwitchOutcome) (nowMs : UInt64) : CaptureThread F :=
  if t.core.capture.remoteActive || t.core.capture.pending.isSome then t.releaseRemoteControl .user else
  match outcome with
  | .enter target => t.goMac target nowMs
  | .return => t.releaseRemoteControl .user
  | .localMove | .noop => t

def step (t : CaptureThread F) : LoopStep → CaptureThread F
  | .controlAction action selected nowMs => t.drainControlAction action selected nowMs
  | .hookEvent event seen => t.processWindowsHookEvent event seen
  | .desktopCheck isDefault => if isDefault then t else t.releaseRemoteControl .user
  | .switchRequest outcome nowMs => t.drainSwitchRequest outcome nowMs
  | .drain nowMs keysReleased arrivals => t.drainV2Controller nowMs keysReleased arrivals
  | .gameMode enabled => t.next (.gameMode enabled)
  | .offer frame => t.next (.offer frame)
  | .requestLocal => t.next .requestLocal
  | .focus foreground windows granted => { t with desktop := { t.desktop with foreground, windows, granted } }

/-- After the loop. -/
def stop (t : CaptureThread F) : CaptureThread F := t.releaseRemoteControl .user

/-- A thread which has just started, on a desktop from which nothing is taken. -/
def start (setting : ClientSetting) (displayCounter : ℤ) (foreground focusWindow : ℕ) (windows : List ℕ)
    (granted : Bool) : CaptureThread F :=
  { core := CaptureSetting.start setting
    desktop :=
      { displayCounter, cursorHideCalls := 0, foreground, windows, granted, focusWindow,
        previousForeground := 0 } }

/-! ### The pointer -/

section Core

variable (t : CaptureThread F)

theorem perform_fst {α : Type} (candidate : Option (PendingWindowsTarget F)) (operation : ClientM α) :
    (t.perform candidate operation).1 = (t.core.perform candidate operation).1 := rfl

theorem perform_core {α : Type} (candidate : Option (PendingWindowsTarget F)) (operation : ClientM α) :
    (t.perform candidate operation).2.core = (t.core.perform candidate operation).2 := rfl

theorem beginV2Controller_core (active : ActiveTarget F) (crossedEdge : Bool) (nowMs : UInt64) :
    (t.beginV2Controller active crossedEdge nowMs).core = t.core.beginV2Controller active crossedEdge nowMs := by
  unfold beginV2Controller CaptureSetting.beginV2Controller
  split
  · rfl
  generalize ControllerClient.begin (CaptureSetting.controllerTarget active) nowMs = operation
  have hanswer := t.perform_fst (some ⟨active, crossedEdge⟩) operation
  have hcore := t.perform_core (some ⟨active, crossedEdge⟩) operation
  cases hmine : t.perform (some ⟨active, crossedEdge⟩) operation with
  | mk answer t' =>
  cases htheirs : t.core.perform (some ⟨active, crossedEdge⟩) operation with
  | mk answer' core' =>
  rw [hmine, htheirs] at hanswer hcore
  obtain rfl := hanswer
  obtain rfl := hcore
  cases answer <;> rfl

theorem goMac_core (target : InputTarget) (nowMs : UInt64) :
    (t.goMac target nowMs).core = t.core.goMac target nowMs := by
  unfold goMac CaptureSetting.goMac
  split
  · rfl
  · exact t.beginV2Controller_core _ _ _

theorem releaseRemoteControl_core (reason : ReturnReason) :
    (t.releaseRemoteControl reason).core = t.core.releaseRemoteControl reason := by
  unfold releaseRemoteControl CaptureSetting.releaseRemoteControl
  generalize ControllerClient.goLocal reason = operation
  have hanswer := t.perform_fst none operation
  have hcore := t.perform_core none operation
  cases hmine : t.perform none operation with
  | mk answer t' =>
  cases htheirs : t.core.perform none operation with
  | mk answer' core' =>
  rw [hmine, htheirs] at hanswer hcore
  obtain rfl := hanswer
  obtain rfl := hcore
  cases answer <;> rfl

theorem drainV2Controller_core (nowMs : UInt64) (keysReleased : Bool) (arrivals : List (List ControlFrame)) :
    (t.drainV2Controller nowMs keysReleased arrivals).core =
      t.core.drainV2Controller nowMs keysReleased arrivals := by
  unfold drainV2Controller CaptureSetting.drainV2Controller
  split
  · rfl
  generalize ControllerClient.poll nowMs keysReleased arrivals = operation
  have hanswer := t.perform_fst none operation
  have hcore := t.perform_core none operation
  cases hmine : t.perform none operation with
  | mk answer t' =>
  cases htheirs : t.core.perform none operation with
  | mk answer' core' =>
  rw [hmine, htheirs] at hanswer hcore
  obtain rfl := hanswer
  obtain rfl := hcore
  cases answer with
  | error e => rfl
  | ok u =>
    dsimp only
    split
    · cases t'.core.capture.active <;> rfl
    · rfl

theorem moveRemote_core (active : ActiveTarget F) (dx dy : F) (seen : Seen) :
    (t.moveRemote active dx dy seen).core = t.core.moveRemote active dx dy seen := by
  unfold moveRemote CaptureSetting.moveRemote
  obtain ⟨back, active'⟩ := updateActiveRemoteScreen active dx dy seen.layout
  cases back with
  | true => exact releaseRemoteControl_core _ _
  | false =>
    dsimp only [withCapture]
    split <;> rfl

theorem moveLocal_core (x y : F) (seen : Seen) : (t.moveLocal x y seen).core = t.core.moveLocal x y seen := by
  unfold moveLocal CaptureSetting.moveLocal
  dsimp only [withCapture]
  generalize crossingTarget seen.targets x y _ _ = crossing
  cases crossing with
  | some active => exact beginV2Controller_core (t.withCapture _) active true seen.nowMs
  | none => rfl

theorem handleWindowsMouseMove_core (x y : F) (seen : Seen) :
    (t.handleWindowsMouseMove x y seen).core = t.core.handleWindowsMouseMove x y seen := by
  unfold handleWindowsMouseMove CaptureSetting.handleWindowsMouseMove
  split
  · exact t.moveLocal_core x y seen
  cases t.core.moved x y with
  | none => rfl
  | some move => exact t.moveRemote_core move.1 move.2.1 move.2.2 seen

theorem processWindowsHookEvent_core (event : WindowsHookEvent) (seen : Seen) :
    (t.processWindowsHookEvent event seen).core = t.core.processWindowsHookEvent event seen := by
  cases event with
  | mouse message x y mouseData =>
    unfold processWindowsHookEvent CaptureSetting.processWindowsHookEvent
    dsimp only
    split
    · rfl
    split
    · exact t.handleWindowsMouseMove_core _ _ seen
    split
    · unfold handleWindowsMouseButton CaptureSetting.handleWindowsMouseButton
      cases t.core.capture.active with
      | none => rfl
      | some active => cases mouseButton message mouseData <;> rfl
    split
    · unfold handleWindowsScroll CaptureSetting.handleWindowsScroll
      cases t.core.capture.active with
      | none => rfl
      | some active => cases scrollDelta message mouseData <;> rfl
    · rfl
  | key message keyCode scanCode flags modifiers =>
    unfold processWindowsHookEvent CaptureSetting.processWindowsHookEvent
    dsimp only
    split
    · rfl
    split
    · exact releaseRemoteControl_core _ _
    cases t.core.capture.active with
    | none => rfl
    | some active => cases v2KeyEvent keyCode scanCode flags (keyDown message) <;> rfl

/-- **As far as the pointer goes**, this is the thread of `Pointer.Capturing`. -/
theorem next_core (call : CaptureCall) : (t.next call).core = t.core.next call := by
  cases call with
  | goMac target nowMs => exact t.goMac_core target nowMs
  | hook event seen => exact t.processWindowsHookEvent_core event seen
  | drain nowMs keysReleased arrivals => exact t.drainV2Controller_core nowMs keysReleased arrivals
  | release reason => exact t.releaseRemoteControl_core reason
  | gameMode enabled => rfl
  | offer frame => rfl
  | requestLocal => rfl

end Core

end CaptureThread

end MyKvm.Pointer.Windows
