import MyKvm.Controller.Client
import MyKvm.Pointer.Events
import MyKvm.Pointer.Target

/-!
# MyKvm.Pointer.Capturing — the capture thread with a controller

The thread takes the events of the hooks and turns the controller.  It holds the pointer, of which the controller
knows nothing but the display it was given at the start; the port callbacks of the controller take a pointer which
waits into use, and put it away again.

`next_setting`: what the operations of the client keep, the thread keeps.

The callbacks are read from the log of the world (`observe`).  Whenever a position is sent, `sent` notes it
together with the screen of the pointer and the display of the session.
-/

namespace MyKvm.Pointer

open MyKvm.Lib MyKvm.Lib.Coordinate MyKvm.Protocol MyKvm.Routing MyKvm.Controller MyKvm.Layout MyKvm.Hook Fallible

/-- A pointer which waits for its session. -/
structure PendingWindowsTarget (F : Type) where
  active : ActiveTarget F
  crossedEdge : Bool

/-- The part of the capture context which the pointer is about; `candidate` is what
the port of this call offers. -/
structure Capturing (F : Type) where
  active : Option (ActiveTarget F)
  pending : Option (PendingWindowsTarget F)
  candidate : Option (PendingWindowsTarget F)
  remoteActive : Bool
  anchor : Option (F × F)
  lastPoint : Option (F × F)
  justCrossed : Bool
  motionSequence : UInt64

/-- A position which was sent, the screen of the pointer then, and the display of the session. -/
structure Pointed where
  screen : Screen
  display : Option (String × UInt64)
  x : Int32
  y : Int32
  deriving DecidableEq

structure CaptureSetting (F : Type) where
  setting : ClientSetting
  capture : Capturing F
  sent : List Pointed

/-- What an event of a hook meets: the settings, the screens next to the local ones, and the clock,
by which a motion may be due. -/
structure Seen where
  layout : SizedLayout
  targets : List InputTarget
  screenSwitchHotkeys : ScreenSwitchHotkeys
  due : Bool
  nowMs : UInt64

/-- The position in an event. -/
def eventPosition : CriticalEvent → Option (Int32 × Int32)
  | .key _ _ _ _ => none
  | .button _ _ x y _ | .scroll _ _ x y _ => some (x, y)

variable {F : Type} [Coordinate F]

namespace Capturing

def idle : Capturing F :=
  { active := none, pending := none, candidate := none, remoteActive := false, anchor := none, lastPoint := none,
    justCrossed := false, motionSequence := 0 }

/-- `restore_windows_capture_state` -/
def restore (c : Capturing F) : Capturing F :=
  { c with
    pending := none, active := none, motionSequence := 0, remoteActive := false, justCrossed := false,
      anchor := none,
    lastPoint := none }

/-- `prepare_capture`, where it succeeds: the candidate waits. -/
def prepareCapture (c : Capturing F) : Capturing F :=
  if c.pending.isSome || c.active.isSome then { c with candidate := none } else
  { c with pending := c.candidate, candidate := none }

/-- `activate_capture`, where it succeeds: the pointer which waits is used. -/
def activateCapture (c : Capturing F) : Capturing F :=
  match c.pending with
  | none => c
  | some p =>
    { c with
      pending := none, active := some p.active, anchor := some (localAnchorPoint p.active),
      justCrossed := p.crossedEdge, remoteActive := true }

/-- The callback which the log notes. -/
def observe (c : Capturing F) : Event ClientNote → Capturing F
  | .prepareCapture (.ok ()) => c.prepareCapture
  | .activateCapture (.ok ()) => c.activateCapture
  | .requestLocalRestore => c.restore
  | _ => c

end Capturing

namespace CaptureSetting

variable (s : CaptureSetting F)

def restore : CaptureSetting F := { s with capture := s.capture.restore }

/-- The callbacks of an operation, first to last. -/
def callbacks (old new : ClientSetting) : List (Event ClientNote) :=
  (new.world.log.take (new.world.log.length - old.world.log.length)).reverse

/-- An operation of the controller, whose port offers the candidate. -/
def perform {α : Type} (candidate : Option (PendingWindowsTarget F)) (operation : ClientM α) :
    Except ControllerClientError α × CaptureSetting F :=
  let (answer, setting) := operation.exec s.setting
  let capture := (callbacks s.setting setting).foldl Capturing.observe { s.capture with candidate }
  (answer, { s with setting, capture := { capture with candidate := none } })

/-! ### Starting and ending -/

/-- What the controller is asked to prepare for the pointer. -/
def controllerTarget (active : ActiveTarget F) : ControllerTarget where
  peerId := active.target.deviceId
  addr := active.target.targetAddr
  protocolVersion := active.target.protocolVersion
  targetDisplay := active.currentScreenId
  layoutRevision := screenLayoutRevision active.currentScreen

def beginV2Controller (active : ActiveTarget F) (crossedEdge : Bool) (nowMs : UInt64) : CaptureSetting F :=
  if s.capture.pending.isSome || s.capture.remoteActive then s else
  match s.perform (some ⟨active, crossedEdge⟩) (ControllerClient.begin (controllerTarget active) nowMs) with
  | (.ok (), s) => { s with capture := { s.capture with motionSequence := 0 } }
  | (.error _, s) => s.restore

/-- `GoMac`: the pointer enters the selected screen in the middle. -/
def goMac (target : InputTarget) (nowMs : UInt64) : CaptureSetting F :=
  if s.capture.active.isSome then s else s.beginV2Controller (centeredActiveTarget target) false nowMs

def releaseRemoteControl (reason : ReturnReason) : CaptureSetting F :=
  match s.perform none (ControllerClient.goLocal reason) with
  | (.ok (), s) => s
  | (.error _, s) => s.restore

/-! ### Sending -/

/-- `send_v2_windows_motion`, for the rounded position of the pointer. -/
def sendMotion (active : ActiveTarget F) : CaptureSetting F :=
  let pointed := match (s.setting.client.runtime.nextMotion (round active.x) (round active.y)).1 with
    | .ok frame => [⟨active.currentScreen, some (frame.displayId, frame.layoutRevision), frame.x, frame.y⟩]
    | .error _ => []
  match s.perform none (ControllerClient.sendMotion (round active.x) (round active.y)) with
  | (.ok sequence, s) =>
    { s with capture := { s.capture with motionSequence := sequence }, sent := pointed ++ s.sent }
  | (.error _, s) => { s with sent := pointed ++ s.sent }

/-- `send_v2_windows_input`; the receiver takes the position on the display of the session. -/
def sendInput (active : ActiveTarget F) (event : CriticalEvent) : CaptureSetting F :=
  let runtime := s.setting.client.runtime
  let pointed := match (runtime.nextInput event).1 with
    | .ok frame =>
      (eventPosition frame.event).toList.map fun (x, y) => ⟨active.currentScreen, runtime.display, x, y⟩
    | .error _ => []
  let s := (s.perform none (ControllerClient.sendInput event)).2
  { s with sent := pointed ++ s.sent }

/-- `drain_v2_controller_windows`: a turn of the controller, and the first motion of a new session. -/
def drainV2Controller (nowMs : UInt64) (keysReleased : Bool) (arrivals : List (List ControlFrame)) :
    CaptureSetting F :=
  if s.capture.pending.isNone && !s.capture.remoteActive then s else
  match s.perform none (ControllerClient.poll nowMs keysReleased arrivals) with
  | (.error _, s) => s
  | (.ok (), s) =>
    if s.capture.remoteActive && s.capture.motionSequence = 0 then
      match s.capture.active with
      | none => s.restore
      | some active => s.sendMotion active
    else s

/-! ### The events of the hooks -/

/-- The pointer which a move of the local one to `x` and `y` leads to, with the delta, if the move is taken at all:
a tenth of a pixel is none, and the first move after a crossing is swallowed. -/
def moved (x y : F) : Option (ActiveTarget F × F × F) :=
  match s.capture.active with
  | none => none
  | some active =>
    let anchor := s.capture.anchor.getD (x, y)
    let dx := x - anchor.1
    let dy := y - anchor.2
    let tenth : F := ofInt32 1 / ofInt32 10
    if abs dx < tenth && abs dy < tenth then none
    else if s.capture.justCrossed then none
    else some (active.accumulate dx dy, dx, dy)

/-- A move which is not taken; a swallowed one is no longer the first. -/
def unmoved (x y : F) : CaptureSetting F :=
  let anchor := s.capture.anchor.getD (x, y)
  let tenth : F := ofInt32 1 / ofInt32 10
  if abs (x - anchor.1) < tenth && abs (y - anchor.2) < tenth then s
  else { s with capture := { s.capture with justCrossed := false } }

/-- A move of the remote pointer. -/
def moveRemote (active : ActiveTarget F) (dx dy : F) (seen : Seen) : CaptureSetting F :=
  match updateActiveRemoteScreen active dx dy seen.layout with
  | (true, active) => { s with capture := { s.capture with active := some active } }.releaseRemoteControl .user
  | (false, active) =>
    let active := active.clamped
    let s : CaptureSetting F := { s with capture := { s.capture with active := some active } }
    if seen.due then s.sendMotion active else s

/-- A move of the local pointer, which may cross to a remote screen.  In the source a crossing does not come back:
`handle_windows_mouse_move` holds the lock of `active`, which `prepare_capture` and `restore_windows_capture_state`
take again.  Here the crossing goes on, so that what holds in every run here holds in those of the source. -/
def moveLocal (x y : F) (seen : Seen) : CaptureSetting F :=
  let (dx, dy) := match s.capture.lastPoint with
    | some (px, py) => (x - px, y - py)
    | none => (zero, zero)
  let s : CaptureSetting F := { s with capture := { s.capture with lastPoint := some (x, y) } }
  match crossingTarget seen.targets x y dx dy with
  | some active => s.beginV2Controller active true seen.nowMs
  | none => s

def handleWindowsMouseMove (x y : F) (seen : Seen) : CaptureSetting F :=
  if s.capture.active.isNone then s.moveLocal x y seen else
  match s.moved x y with
  | none => s.unmoved x y
  | some (active, dx, dy) => s.moveRemote active dx dy seen

def handleWindowsMouseButton (message mouseData : UInt32) : CaptureSetting F :=
  match s.capture.active, mouseButton message mouseData with
  | some active, some (button, down) =>
    s.sendInput active (.button button down (round active.x) (round active.y) s.capture.motionSequence)
  | _, _ => s

def handleWindowsScroll (message mouseData : UInt32) : CaptureSetting F :=
  match s.capture.active, scrollDelta message mouseData with
  | some active, some (deltaX, deltaY) =>
    s.sendInput active (.scroll deltaX deltaY (round active.x) (round active.y) s.capture.motionSequence)
  | _, _ => s

def processWindowsHookEvent (event : WindowsHookEvent) (seen : Seen) : CaptureSetting F :=
  match event with
  | .mouse message x y mouseData =>
    if s.setting.world.gate.isLocal && s.capture.remoteActive then s
    else if message = wmMousemove then s.handleWindowsMouseMove (ofInt32 x) (ofInt32 y) seen
    else if (mouseButton message mouseData).isSome then s.handleWindowsMouseButton message mouseData
    else if message ∈ [wmMousewheel, wmMousehwheel] then s.handleWindowsScroll message mouseData
    else s
  | .key message keyCode scanCode flags modifiers =>
    if s.setting.world.gate.isLocal then s
    else if keyDown message && screenSwitchHotkeysMatchVk seen.screenSwitchHotkeys keyCode.toUInt16 modifiers then
      s.releaseRemoteControl .user
    else
      match s.capture.active, v2KeyEvent keyCode scanCode flags (keyDown message) with
      | some active, some event => s.sendInput active event
      | _, _ => s

end CaptureSetting

/-! ### Runs -/

/-- What happens to the capture thread; the last three are done by other threads. -/
inductive CaptureCall where
  | goMac (target : InputTarget) (nowMs : UInt64)
  | hook (event : WindowsHookEvent) (seen : Seen)
  | drain (nowMs : UInt64) (keysReleased : Bool) (arrivals : List (List ControlFrame))
  | release (reason : ReturnReason)
  | gameMode (enabled : Bool)
  | offer (frame : ControlFrame)
  | requestLocal

namespace CaptureSetting

def next (s : CaptureSetting F) : CaptureCall → CaptureSetting F
  | .goMac target nowMs => s.goMac target nowMs
  | .hook event seen => s.processWindowsHookEvent event seen
  | .drain nowMs keysReleased arrivals => s.drainV2Controller nowMs keysReleased arrivals
  | .release reason => s.releaseRemoteControl reason
  | .gameMode enabled => { s with setting := s.setting.next (.gameMode enabled) }
  | .offer frame => { s with setting := s.setting.next (.offer frame) }
  | .requestLocal => { s with setting := s.setting.next .requestLocal }

/-- A capture thread whose pointer is at home. -/
def start (setting : ClientSetting) : CaptureSetting F := { setting, capture := Capturing.idle, sent := [] }

section Client

variable {s : CaptureSetting F} {I : ClientSetting → Prop}

theorem beginV2Controller_setting (hI : ∀ c call, I c → I (c.next call)) (h : I s.setting)
    (active : ActiveTarget F)
    (crossedEdge : Bool) (nowMs : UInt64) : I (s.beginV2Controller active crossedEdge nowMs).setting := by
  have hbegin : I (s.perform (some ⟨active, crossedEdge⟩)
      (ControllerClient.begin (controllerTarget active) nowMs)).2.setting := hI s.setting (.begin _ nowMs) h
  unfold beginV2Controller
  split
  · exact h
  split
  · rename_i heq
    rwa [heq] at hbegin
  · rename_i heq
    rwa [heq] at hbegin

theorem releaseRemoteControl_setting (hI : ∀ c call, I c → I (c.next call)) (h : I s.setting)
    (reason : ReturnReason) :
    I (s.releaseRemoteControl reason).setting := by
  have hrelease : I (s.perform none (ControllerClient.goLocal reason)).2.setting :=
    hI s.setting (.goLocal reason) h
  unfold releaseRemoteControl
  split
  · rename_i heq
    rwa [heq] at hrelease
  · rename_i heq
    rwa [heq] at hrelease

theorem sendMotion_setting (hI : ∀ c call, I c → I (c.next call)) (h : I s.setting) (active : ActiveTarget F) :
    I (s.sendMotion active).setting := by
  have hsend : I (s.perform none (ControllerClient.sendMotion (round active.x) (round active.y))).2.setting :=
    hI s.setting (.sendMotion _ _) h
  unfold sendMotion
  dsimp only
  split
  · rename_i heq
    rwa [heq] at hsend
  · rename_i heq
    rwa [heq] at hsend

theorem sendInput_setting (hI : ∀ c call, I c → I (c.next call)) (h : I s.setting) (active : ActiveTarget F)
    (event : CriticalEvent) : I (s.sendInput active event).setting := hI s.setting (.sendInput event) h

theorem drainV2Controller_setting (hI : ∀ c call, I c → I (c.next call)) (h : I s.setting) (nowMs : UInt64)
    (keysReleased : Bool) (arrivals : List (List ControlFrame)) :
    I (s.drainV2Controller nowMs keysReleased arrivals).setting := by
  have hpoll : I (s.perform none (ControllerClient.poll nowMs keysReleased arrivals)).2.setting :=
    hI s.setting (.poll nowMs keysReleased arrivals) h
  unfold drainV2Controller
  split
  · exact h
  split
  · rename_i heq
    rwa [heq] at hpoll
  · rename_i heq
    rw [heq] at hpoll
    split
    · split
      · exact hpoll
      · exact sendMotion_setting hI hpoll _
    · exact hpoll

theorem handleWindowsMouseMove_setting (hI : ∀ c call, I c → I (c.next call)) (h : I s.setting) (x y : F)
    (seen : Seen) :
    I (s.handleWindowsMouseMove x y seen).setting := by
  have hother : ∀ capture, I ({ s with capture := capture } : CaptureSetting F).setting := fun _ => h
  unfold handleWindowsMouseMove
  split
  · unfold moveLocal
    dsimp only
    split
    · exact beginV2Controller_setting hI (hother _) _ true seen.nowMs
    · exact h
  split
  · unfold unmoved
    dsimp only
    split <;> exact h
  · unfold moveRemote
    split
    · exact releaseRemoteControl_setting hI (hother _) .user
    · dsimp only
      split
      · exact sendMotion_setting hI (hother _) _
      · exact h

theorem processWindowsHookEvent_setting (hI : ∀ c call, I c → I (c.next call)) (h : I s.setting)
    (event : WindowsHookEvent) (seen : Seen) : I (s.processWindowsHookEvent event seen).setting := by
  unfold processWindowsHookEvent
  split
  · split
    · exact h
    split
    · exact handleWindowsMouseMove_setting hI h _ _ seen
    split
    · unfold handleWindowsMouseButton
      split
      · exact sendInput_setting hI h _ _
      · exact h
    split
    · unfold handleWindowsScroll
      split
      · exact sendInput_setting hI h _ _
      · exact h
    · exact h
  · split
    · exact h
    split
    · exact releaseRemoteControl_setting hI h .user
    split
    · exact sendInput_setting hI h _ _
    · exact h

/-- **The thread does nothing to the client** but call its operations. -/
theorem next_setting (hI : ∀ c call, I c → I (c.next call)) (h : I s.setting) (call : CaptureCall) :
    I (s.next call).setting := by
  cases call with
  | goMac target nowMs =>
    show I (s.goMac target nowMs).setting
    unfold goMac
    split
    · exact h
    · exact beginV2Controller_setting hI h _ false nowMs
  | hook event seen => exact processWindowsHookEvent_setting hI h event seen
  | drain nowMs keysReleased arrivals => exact drainV2Controller_setting hI h nowMs keysReleased arrivals
  | release reason => exact releaseRemoteControl_setting hI h reason
  | gameMode enabled => exact hI s.setting (.gameMode enabled) h
  | offer frame => exact hI s.setting (.offer frame) h
  | requestLocal => exact hI s.setting .requestLocal h

end Client

end CaptureSetting

end MyKvm.Pointer
