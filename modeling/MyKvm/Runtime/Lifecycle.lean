import MyKvm.Lib.Machine
import MyKvm.Runtime.Commands
import MyKvm.Settings.Normal

/-!
# MyKvm.Runtime.Lifecycle — no thread is forgotten, and none is stale

Every thread which runs is one whose signal is kept, and it was started for the layout and the transport there are.

* `Posted`, `Ready`, `Staffed`, `Tended`: what holds within a command, and between two of them.
* `Ready.startDiscovery`, `Staffed.startInput`, `Staffed.startClipboard`, `Loose.halt`: the parts of the commands.
* `Stored.demands_normalized`: a layout which is read from the file asks for what it asked for when it was saved.
* `next_tended`: every command.
* `runtime_tended`: what follows for every run.
-/

namespace MyKvm.Runtime

open MyKvm.Lib MyKvm.Protocol MyKvm.Settings
open MyKvm.Clipboard (ClipboardSyncEngine)
open MyKvm.Hook (ControlHotkeys)
open MyKvm.Receiver (PeerRole)

/-! ### What a layout asks for -/

structure Demands where
  captures : Bool
  receives : Bool
  hotkeys : ControlHotkeys
  clipboardSync : Bool
  remoteRole : Option PeerRole
  textLimit : ℕ
  deriving DecidableEq

def demands (layout : LayoutState) : Demands where
  captures := controllerModeEnabled layout.machineRole layout.inputMode
  receives := receiverModeEnabled layout.machineRole layout.inputMode
  hotkeys := layout.controlHotkeys
  clipboardSync := layout.clipboardSync
  remoteRole := remoteRole layout.machineRole
  textLimit := normalizeClipboardTextLimitBytes layout.clipboardTextLimitBytes

/-- A change which does not matter to the runtime changes nothing of it. -/
theorem demands_of_not_changed {previous next : LayoutState}
    (h : runtimeRelevantLayoutChanged previous next = false) :
    demands next = demands previous := by
  unfold runtimeRelevantLayoutChanged at h
  simp only [Bool.or_eq_false_iff, decide_eq_false_iff_not, ne_eq, not_not] at h
  obtain ⟨⟨⟨⟨⟨⟨⟨hmode, hrole⟩, hsync⟩, -⟩, hlimit⟩, hhotkeys⟩, -⟩, -⟩ := h
  unfold demands
  rw [hmode, hrole, hsync, hlimit, hhotkeys]

/-! ### The threads there are -/

namespace Work

def isTransport : Work → Bool
  | .transport => true
  | _ => false

def isDiscovery : Work → Bool
  | .discovery _ => true
  | _ => false

def isCapture : Work → Bool
  | .capture _ _ => true
  | _ => false

def isClipboard : Work → Bool
  | .clipboard _ _ => true
  | _ => false

/-- What the thread took along is what there is. -/
def Current (s : AppRuntime) : Work → Prop
  | .transport => True
  | .discovery t => s.transportIndex = some t
  | .capture hotkeys t =>
    (demands s.layout).captures = true ∧ hotkeys = (demands s.layout).hotkeys ∧ s.transportIndex = some t
  | .clipboard role t =>
    (demands s.layout).clipboardSync = true ∧ (demands s.layout).remoteRole = some role ∧
    s.transportIndex = some t ∧
      s.clipboardSyncEngine.map (·.textLimit) = some (demands s.layout).textLimit

/-- Nothing but a transport does without one. -/
theorem Current.transport {s : AppRuntime} {w : Work} (h : w.Current s) (hnone : s.quicTransport = none) :
    w = .transport := by
  have hindex : s.transportIndex = none := by
    unfold AppRuntime.transportIndex
    rw [hnone]
    rfl
  cases w with
  | transport => rfl
  | discovery t =>
    unfold Current at h
    rw [hindex] at h
    cases h
  | capture hotkeys t =>
    obtain ⟨-, -, h⟩ := h
    rw [hindex] at h
    cases h
  | clipboard role t =>
    obtain ⟨-, -, h, -⟩ := h
    rw [hindex] at h
    cases h

theorem Current.congr {s s' : AppRuntime} {w : Work} (h : w.Current s)
    (hdemands : demands s'.layout = demands s.layout) (htransport : s'.transportIndex = s.transportIndex)
    (hengine : s'.clipboardSyncEngine = s.clipboardSyncEngine) :
    w.Current s' := by
  cases w with
  | transport => trivial
  | discovery t | capture hotkeys t | clipboard role t =>
    unfold Current at h ⊢
    simp only [hdemands, htransport, hengine]
    exact h

end Work

/-- The threads which run are those whose signals are kept. -/
structure Posted (s : AppRuntime) : Prop where
  transport : Manned Work.isTransport s.workers s.transportIndex
  discovery : Manned Work.isDiscovery s.workers s.discoveryStop
  capture : Manned Work.isCapture s.workers s.inputStop
  clipboard : Manned Work.isClipboard s.workers s.clipboardStop

/-- Besides, discovery uses the transport there is. -/
structure Loose (s : AppRuntime) : Prop extends Posted s where
  discovers : ∀ i t, Live s.workers i (.discovery t) → s.transportIndex = some t

/-- Besides, every thread is current, and the state of the clipboard is that of its thread. -/
structure Ready (s : AppRuntime) : Prop extends Posted s where
  current : ∀ i w, Live s.workers i w → w.Current s
  engine : s.clipboardSyncEngine.isSome = s.clipboardStop.isSome
  receiving : s.clipboardReceiveEnabled = s.clipboardStop.isSome
  resend : s.clipboardResendRequested = true → s.clipboardStop.isSome = true

/-- Besides, input is received only if the layout says so. -/
structure Staffed (s : AppRuntime) : Prop extends Ready s where
  input : s.inputReceiveEnabled = true → (demands s.layout).receives = true

/-- Besides, nothing is captured and no clipboard is shared by a runtime which is stopped. -/
structure Tended (s : AppRuntime) : Prop extends Staffed s where
  stopped : s.started = false → s.inputStop = none ∧ s.clipboardStop = none

/-- Nothing is captured, and no clipboard is shared. -/
structure Dormant (s : AppRuntime) : Prop where
  input : s.inputStop = none
  clipboard : s.clipboardStop = none
  engine : s.clipboardSyncEngine = none
  receiving : s.clipboardReceiveEnabled = false
  resend : s.clipboardResendRequested = false

section Parts

variable {s s' : AppRuntime}

/-! ### Changes of the layout -/

theorem Ready.congr (h : Ready s) (hworkers : s'.workers = s.workers) (hquic : s'.quicTransport = s.quicTransport)
    (hdiscovery : s'.discoveryStop = s.discoveryStop) (hinput : s'.inputStop = s.inputStop)
    (hclipboard : s'.clipboardStop = s.clipboardStop) (hengine : s'.clipboardSyncEngine = s.clipboardSyncEngine)
    (hreceive : s'.clipboardReceiveEnabled = s.clipboardReceiveEnabled)
    (hresend : s'.clipboardResendRequested = true → s.clipboardStop.isSome = true)
    (hdemands : demands s'.layout = demands s.layout) : Ready s' := by
  have hindex : s'.transportIndex = s.transportIndex := by rw [AppRuntime.transportIndex, hquic]; rfl
  refine ⟨⟨?_, ?_, ?_, ?_⟩, ?_, ?_, ?_, ?_⟩
  · rw [hworkers, hindex]
    exact h.transport
  · rw [hworkers, hdiscovery]
    exact h.discovery
  · rw [hworkers, hinput]
    exact h.capture
  · rw [hworkers, hclipboard]
    exact h.clipboard
  · intro i w hlive
    rw [hworkers] at hlive
    exact (h.current i w hlive).congr hdemands hindex hengine
  · rw [hengine, hclipboard]
    exact h.engine
  · rw [hreceive, hclipboard]
    exact h.receiving
  · rw [hclipboard]
    exact hresend

/-- A layout which asks for the same. -/
theorem Ready.withLayout (h : Ready s) {layout : LayoutState} (hdemands : demands layout = demands s.layout) :
    Ready { s with layout } := h.congr rfl rfl rfl rfl rfl rfl rfl h.resend hdemands

theorem Ready.loose (h : Ready s) : Loose s := ⟨h.toPosted, fun i t hlive => h.current i (.discovery t) hlive⟩

/-- Any layout. -/
theorem Loose.withLayout (h : Loose s) (layout : LayoutState) : Loose { s with layout } :=
  ⟨⟨h.transport, h.discovery, h.capture, h.clipboard⟩, h.discovers⟩

/-- A runtime which captures nothing and shares no clipboard. -/
theorem Loose.idle (h : Loose s) (hdormant : Dormant s) : Ready s := by
  obtain ⟨hinput, hclipboard, hengine, hreceive, hresend⟩ := hdormant
  have hcapture := h.capture
  have hshares := h.clipboard
  rw [hinput] at hcapture
  rw [hclipboard] at hshares
  refine ⟨h.toPosted, fun i w hlive => ?_, ?_, ?_, ?_⟩
  · cases w with
    | transport => trivial
    | discovery t => exact h.discovers i t hlive
    | capture hotkeys t => cases hcapture.free hlive
    | clipboard role t => cases hshares.free hlive
  · rw [hengine, hclipboard]
    rfl
  · rw [hreceive, hclipboard]
    rfl
  · intro hrequest
    rw [hresend] at hrequest
    cases hrequest

/-! ### Starting -/

theorem demands_showTransport (layout : LayoutState) (actualPort : UInt16) (handle : TransportHandle) :
    demands (AppRuntime.showTransport layout actualPort handle) = demands layout := rfl

theorem Ready.startQuicTransport (h : Ready s) (quic : Except String (UInt16 × String)) :
    Ready (s.startQuicTransport quic).2 ∧ (s.startQuicTransport quic).2.layout = s.layout ∧
      (s.startQuicTransport quic).2.discoveryStop = s.discoveryStop ∧
      (s.startQuicTransport quic).2.inputReceiveEnabled = s.inputReceiveEnabled ∧
      ∀ handle, (s.startQuicTransport quic).1 = .ok handle →
        (s.startQuicTransport quic).2.transportIndex = some handle.index := by
  unfold AppRuntime.startQuicTransport
  split
  · rename_i handle hhandle
    refine ⟨h, rfl, rfl, rfl, ?_⟩
    intro handle' hok
    cases hok
    unfold AppRuntime.transportIndex
    rw [hhandle]
    rfl
  · rename_i hnone
    split
    · exact ⟨h, rfl, rfl, rfl, fun _ hok => by cases hok⟩
    · rename_i port publicKey
      refine ⟨?_, rfl, rfl, rfl, ?_⟩
      · have htransport := h.transport
        have hindex : s.transportIndex = none := by
          unfold AppRuntime.transportIndex
          rw [hnone]
          rfl
        rw [hindex] at htransport
        refine ⟨⟨manned_start htransport rfl, h.discovery.start_other rfl, h.capture.start_other rfl,
          h.clipboard.start_other rfl⟩, ?_, h.engine, h.receiving, h.resend⟩
        intro i w hlive
        rcases live_start.mp hlive with hold | ⟨-, rfl⟩
        · -- without a transport there was no other thread
          rw [(h.current i w hold).transport hnone]
          trivial
        · trivial
      · intro handle hok
        cases hok
        rfl

/-- **Discovery** starts, or has been started; at any rate the layout says whether input is received. -/
theorem Ready.startDiscovery (h : Ready s) (sockets : Sockets) :
    Staffed (s.startDiscovery sockets).2 ∧
      demands (s.startDiscovery sockets).2.layout = demands s.layout ∧
      (s.startDiscovery sockets).2.inputReceiveEnabled = (demands s.layout).receives := by
  have hset : Staffed { s with
      inputReceiveEnabled := receiverModeEnabled s.layout.machineRole s.layout.inputMode } :=
    ⟨h.congr rfl rfl rfl rfl rfl rfl rfl h.resend rfl, id⟩
  unfold AppRuntime.startDiscovery
  dsimp only
  split
  · exact ⟨hset, rfl, rfl⟩
  rename_i hfree
  split
  · exact ⟨hset, rfl, rfl⟩
  rename_i actualPort _
  obtain ⟨hready, hlayout, hdiscovery, hflag, hindex⟩ := hset.toReady.startQuicTransport sockets.quic
  dsimp only at hlayout hdiscovery hflag
  split
  · rename_i s₁ heq
    rw [heq] at hready hlayout hflag
    have hsame : demands s₁.layout = demands s.layout := congrArg demands hlayout
    refine ⟨⟨hready, fun hreceives => ?_⟩, hsame, hflag⟩
    rw [hsame]
    exact hflag.symm.trans hreceives
  · rename_i handle s₁ heq
    rw [heq] at hready hlayout hdiscovery hflag hindex
    have hsame : demands (AppRuntime.showTransport s₁.layout actualPort handle) = demands s.layout :=
      (demands_showTransport _ _ _).trans (congrArg demands hlayout)
    have hshown : Staffed { s₁ with layout := AppRuntime.showTransport s₁.layout actualPort handle } :=
      ⟨hready.withLayout rfl, fun hreceives => by rw [hsame]; exact hflag.symm.trans hreceives⟩
    split
    · exact ⟨hshown, hsame, hflag⟩
    · have hnone : s₁.discoveryStop = none := by
        rw [hdiscovery]
        simpa using hfree
      have hpost := hready.discovery
      rw [hnone] at hpost
      refine ⟨⟨⟨⟨hready.transport.start_other rfl, manned_start hpost rfl, hready.capture.start_other rfl,
        hready.clipboard.start_other rfl⟩, ?_, hready.engine, hready.receiving, hready.resend⟩, hshown.input⟩,
        hsame, hflag⟩
      intro i w hlive
      rcases live_start.mp hlive with hold | ⟨-, rfl⟩
      · exact (hready.current i w hold).congr rfl rfl rfl
      · exact hindex handle rfl

/-- **The capture thread**, unless it is late. -/
theorem Staffed.startInput (h : Staffed s) {readiness : Readiness} (hready : readiness ≠ .late) :
    Staffed (s.startInput readiness) := by
  have hset : Staffed { s with
      inputReceiveEnabled := receiverModeEnabled s.layout.machineRole s.layout.inputMode } :=
    ⟨h.toReady.congr rfl rfl rfl rfl rfl rfl rfl h.resend rfl, id⟩
  unfold AppRuntime.startInput
  dsimp only
  split
  · rename_i hcaptures
    split
    · exact hset
    rename_i hfree
    split
    · exact hset
    rename_i handle hhandle
    unfold AppRuntime.startV2ControllerRuntime
    cases readiness with
    | late => exact absurd rfl hready
    | failed => exact ⟨h.toReady.congr rfl rfl rfl rfl rfl rfl rfl h.resend rfl, id⟩
    | ready =>
      have hpost := h.capture
      have hnone : s.inputStop = none := by simpa using hfree
      have hindex : s.transportIndex = some handle.index := by
        unfold AppRuntime.transportIndex
        rw [hhandle]
        rfl
      rw [hnone] at hpost
      refine ⟨⟨⟨h.transport.start_other rfl, h.discovery.start_other rfl, manned_start hpost rfl,
        h.clipboard.start_other rfl⟩, ?_, h.engine, h.receiving, h.resend⟩, id⟩
      intro i w hlive
      rcases live_start.mp hlive with hold | ⟨-, rfl⟩
      · exact (h.current i w hold).congr rfl rfl rfl
      · exact ⟨hcaptures, rfl, hindex⟩
  · exact hset

theorem Posted.stopClipboard (h : Posted s) : Posted s.stopClipboard :=
  ⟨h.transport.tell_other h.clipboard (by intro w; cases w <;> simp [Work.isTransport, Work.isClipboard]),
    h.discovery.tell_other h.clipboard (by intro w; cases w <;> simp [Work.isDiscovery, Work.isClipboard]),
    h.capture.tell_other h.clipboard (by intro w; cases w <;> simp [Work.isCapture, Work.isClipboard]),
    manned_tell h.clipboard⟩

theorem Staffed.stopClipboard (h : Staffed s) : Staffed s.stopClipboard := by
  have hposted := h.toPosted.stopClipboard
  refine ⟨⟨hposted, fun i w hlive => ?_, rfl, rfl, fun hrequest => by cases hrequest⟩, h.input⟩
  have hcurrent := h.current i w (live_tell.mp hlive).1
  cases w with
  | clipboard role t => cases hposted.clipboard.free hlive
  | transport | discovery t | capture hotkeys t => exact hcurrent

/-- **The clipboard thread**, with an engine of its own. -/
theorem Staffed.startClipboard (h : Staffed s) (localPeerId : LayoutState → String) (bootId : Except String BootId)
    (clipboardRevision : UInt64) : Staffed (s.startClipboard localPeerId bootId clipboardRevision) := by
  unfold AppRuntime.startClipboard
  split
  · exact h.stopClipboard
  rename_i hsync
  split
  · exact h
  rename_i hfree
  have hnone : s.clipboardStop = none := by simpa using hfree
  split
  · rename_i role bootId hrole
    split
    · exact h
    · rename_i engine hengine
      split
      · refine ⟨h.toReady.congr rfl rfl rfl rfl rfl ?_ rfl h.resend rfl, h.input⟩
        have hgone := h.engine
        rw [hnone] at hgone
        exact (Option.not_isSome_iff_eq_none.mp (by rw [hgone]; simp)).symm
      · rename_i handle hhandle
        have hpost := h.clipboard
        have hindex : s.transportIndex = some handle.index := by
          unfold AppRuntime.transportIndex
          rw [hhandle]
          rfl
        rw [hnone] at hpost
        refine ⟨⟨⟨h.transport.start_other rfl, h.discovery.start_other rfl, h.capture.start_other rfl,
          manned_start hpost rfl⟩, ?_, rfl, rfl, fun _ => rfl⟩, h.input⟩
        intro i w hlive
        rcases live_start.mp hlive with hold | ⟨-, rfl⟩
        · have hcurrent := h.current i w hold
          cases w with
          | clipboard role t => cases hpost.free hold
          | transport | discovery t | capture hotkeys t => exact hcurrent
        · have hshared : s.layout.clipboardSync = true := by simpa using hsync
          refine ⟨hshared, hrole, hindex, ?_⟩
          unfold ClipboardSyncEngine.new at hengine
          split at hengine
          · cases hengine
          split at hengine
          · cases hengine
          · cases hengine
            rfl
  · exact h

theorem Staffed.startStages (h : Staffed s) (localPeerId : LayoutState → String) {turn : Turn}
    (hready : turn.readiness ≠ .late) : Staffed (s.startStages localPeerId turn) :=
  (h.startInput hready).startClipboard localPeerId _ _

/-! ### Stopping -/

theorem Loose.stopDiscovery (h : Loose s) : Loose s.stopDiscovery := by
  have htold : Manned Work.isTransport (tell s.workers s.discoveryStop) s.transportIndex :=
    h.transport.tell_other h.discovery (by intro w; cases w <;> simp [Work.isTransport, Work.isDiscovery])
  have hcapture : Manned Work.isCapture (tell s.workers s.discoveryStop) s.inputStop :=
    h.capture.tell_other h.discovery (by intro w; cases w <;> simp [Work.isCapture, Work.isDiscovery])
  have hclipboard : Manned Work.isClipboard (tell s.workers s.discoveryStop) s.clipboardStop :=
    h.clipboard.tell_other h.discovery (by intro w; cases w <;> simp [Work.isClipboard, Work.isDiscovery])
  have hdiscovery : Manned Work.isDiscovery s.stopDiscovery.workers none :=
    (manned_tell h.discovery).tell_other htold (by intro w; cases w <;> simp [Work.isTransport, Work.isDiscovery])
  refine ⟨⟨manned_tell htold, hdiscovery, ?_, ?_⟩, fun i t hlive => by cases hdiscovery.free hlive⟩
  · exact hcapture.tell_other htold (by intro w; cases w <;> simp [Work.isTransport, Work.isCapture])
  · exact hclipboard.tell_other htold (by intro w; cases w <;> simp [Work.isTransport, Work.isClipboard])

theorem Posted.stopInput (h : Posted s) : Posted s.stopInput :=
  ⟨h.transport.tell_other h.capture (by intro w; cases w <;> simp [Work.isTransport, Work.isCapture]),
    h.discovery.tell_other h.capture (by intro w; cases w <;> simp [Work.isDiscovery, Work.isCapture]),
    manned_tell h.capture,
    h.clipboard.tell_other h.capture (by intro w; cases w <;> simp [Work.isClipboard, Work.isCapture])⟩

/-- **Whatever the layout has become**, the two threads which depend on it are told to stop. -/
theorem Loose.halt (h : Loose s) : Ready s.stopInput.stopClipboard :=
  have hposted := h.toPosted.stopInput.stopClipboard
  Loose.idle ⟨hposted, fun i t hlive => h.discovers i t (live_tell.mp (live_tell.mp hlive).1).1⟩
    ⟨rfl, rfl, rfl, rfl, rfl⟩

/-! ### The commands -/

variable (localPeerId : LayoutState → String)

theorem startDiscovery_stops (s : AppRuntime) (sockets : Sockets) :
    (s.startDiscovery sockets).2.inputStop = s.inputStop ∧
      (s.startDiscovery sockets).2.clipboardStop = s.clipboardStop ∧
      (s.startDiscovery sockets).2.started = s.started := by
  have hquic : ∀ s : AppRuntime, (s.startQuicTransport sockets.quic).2.inputStop = s.inputStop ∧
      (s.startQuicTransport sockets.quic).2.clipboardStop = s.clipboardStop ∧
      (s.startQuicTransport sockets.quic).2.started = s.started := by
    intro s
    unfold AppRuntime.startQuicTransport
    split
    · exact ⟨rfl, rfl, rfl⟩
    split <;> exact ⟨rfl, rfl, rfl⟩
  unfold AppRuntime.startDiscovery
  dsimp only
  split
  · exact ⟨rfl, rfl, rfl⟩
  split
  · exact ⟨rfl, rfl, rfl⟩
  have hset := hquic { s with inputReceiveEnabled := receiverModeEnabled s.layout.machineRole s.layout.inputMode }
  split
  · rename_i heq
    rw [heq] at hset
    exact hset
  · rename_i heq
    rw [heq] at hset
    split <;> exact hset

theorem startStages_started (s : AppRuntime) (turn : Turn) :
    (s.startStages localPeerId turn).started = s.started := by
  have hinput : (s.startInput turn.readiness).started = s.started := by
    unfold AppRuntime.startInput AppRuntime.startV2ControllerRuntime
    dsimp only
    split
    · split
      · rfl
      split
      · rfl
      cases turn.readiness <;> rfl
    · rfl
  unfold AppRuntime.startStages AppRuntime.startClipboard
  split
  · exact hinput
  split
  · exact hinput
  split
  · split
    · exact hinput
    split <;> exact hinput
  · exact hinput

/-- A restart, from any layout; a runtime which is stopped has to be ready by itself. -/
theorem Loose.restart (h : Loose s) {turn : Turn} (hready : turn.readiness ≠ .late) (hstarted : s.started = true) :
    Tended (s.restartRuntimeIfRunning localPeerId turn).2 := by
  obtain ⟨hstaffed, -, -⟩ := h.halt.startDiscovery turn.sockets
  have hstill : (s.stopInput.stopClipboard.startDiscovery turn.sockets).2.started = true :=
    (startDiscovery_stops _ _).2.2.trans hstarted
  unfold AppRuntime.restartRuntimeIfRunning
  rw [if_neg (by simp [hstarted])]
  split
  · rename_i s₁ heq
    rw [heq] at hstaffed hstill
    exact ⟨hstaffed, fun hstopped => by cases hstopped.symm.trans hstill⟩
  · rename_i s₁ heq
    rw [heq] at hstaffed hstill
    have hrun := startStages_started localPeerId s₁ turn
    exact ⟨hstaffed.startStages localPeerId hready,
      fun hstopped => by cases (hstopped.symm.trans hrun).trans hstill⟩

theorem Ready.boot (h : Ready s) {turn : Turn} (hready : turn.readiness ≠ .late) :
    Tended (s.boot localPeerId turn) := by
  obtain ⟨hstaffed, -, -⟩ := h.startDiscovery turn.sockets
  have hstages := hstaffed.startStages localPeerId hready
  exact ⟨⟨hstages.toReady.congr rfl rfl rfl rfl rfl rfl rfl hstages.resend rfl, hstages.input⟩, fun hstopped => by
    cases hstopped⟩

/-- **Stopping**: but for the transport and discovery, nothing runs; the receiver goes on as its mode says. -/
theorem Loose.stopRuntimeInner (h : Loose s) (sockets : Sockets) :
    Tended (s.stopRuntimeInner sockets).2 ∧ (s.stopRuntimeInner sockets).2.inputStop = none ∧
      (s.stopRuntimeInner sockets).2.clipboardStop = none ∧
      (s.stopRuntimeInner sockets).2.inputReceiveEnabled = (demands s.layout).receives := by
  obtain ⟨hstaffed, -, hreceives⟩ := h.halt.startDiscovery sockets
  obtain ⟨hinput, hclipboard, -⟩ := startDiscovery_stops s.stopInput.stopClipboard sockets
  unfold AppRuntime.stopRuntimeInner
  split
  · rename_i heq
    rw [heq] at hstaffed hreceives hinput hclipboard
    exact ⟨⟨hstaffed, fun _ => ⟨hinput, hclipboard⟩⟩, hinput, hclipboard, hreceives⟩
  · rename_i heq
    rw [heq] at hstaffed hreceives hinput hclipboard
    exact ⟨⟨⟨hstaffed.toReady.congr rfl rfl rfl rfl rfl rfl rfl hstaffed.resend rfl, hstaffed.input⟩,
      fun _ => ⟨hinput, hclipboard⟩⟩, hinput, hclipboard, hreceives⟩

theorem Tended.withLayout (h : Tended s) {layout : LayoutState} (hdemands : demands layout = demands s.layout) :
    Tended { s with layout } :=
  ⟨⟨h.toReady.withLayout hdemands, fun hreceives => by rw [hdemands]; exact h.input hreceives⟩, h.stopped⟩

theorem Tended.withOverride (h : Tended s) (controllerLocalOverride : Routing.LocalOverride) :
    Tended { s with controllerLocalOverride } :=
  ⟨⟨h.toReady.congr rfl rfl rfl rfl rfl rfl rfl h.resend rfl, h.input⟩, h.stopped⟩

theorem Tended.dormant (h : Tended s) (hstopped : s.started = false) : Dormant s := by
  obtain ⟨hinput, hclipboard⟩ := h.stopped hstopped
  have hengine := h.engine
  have hreceiving := h.receiving
  rw [hclipboard] at hengine hreceiving
  refine ⟨hinput, hclipboard, Option.not_isSome_iff_eq_none.mp (by rw [hengine]; simp), hreceiving, ?_⟩
  rw [Bool.eq_false_iff]
  intro hrequest
  have hsome := h.resend hrequest
  rw [hclipboard] at hsome
  cases hsome

theorem Tended.startDiscovery (h : Tended s) (sockets : Sockets) : Tended (s.startDiscovery sockets).2 := by
  obtain ⟨hstaffed, -, -⟩ := h.toReady.startDiscovery sockets
  obtain ⟨hinput, hclipboard, hstarted⟩ := startDiscovery_stops s sockets
  refine ⟨hstaffed, fun hstopped => ?_⟩
  obtain ⟨hin, hclip⟩ := h.stopped (hstarted.symm.trans hstopped)
  exact ⟨hinput.trans hin, hclipboard.trans hclip⟩

/-- **A layout which was saved**: if it matters, the threads which depend on it are started anew. -/
theorem Loose.applySavedLayout (h : Loose s) (hdormant : s.started = false → Dormant s)
    {previous saved : LayoutState}
    (hsame : runtimeRelevantLayoutChanged previous saved = false → Tended s) {turn : Turn}
    (hready : turn.readiness ≠ .late) : Tended (s.applySavedLayout localPeerId previous saved turn).2 := by
  unfold AppRuntime.applySavedLayout
  split
  · have hloose : Loose (if transportPortChanged previous saved then s.stopDiscovery else s) := by
      split
      · exact h.stopDiscovery
      · exact h
    have hidle : (if transportPortChanged previous saved then s.stopDiscovery else s).started = false →
        Dormant (if transportPortChanged previous saved then s.stopDiscovery else s) := by
      split
      · intro hstopped
        obtain ⟨hinput, hclipboard, hengine, hreceiving, hresend⟩ := hdormant hstopped
        exact ⟨hinput, hclipboard, hengine, hreceiving, hresend⟩
      · exact hdormant
    dsimp only
    generalize (if transportPortChanged previous saved then s.stopDiscovery else s) = s₁ at hloose hidle ⊢
    have hrestart : Tended (s₁.restartRuntimeIfRunning localPeerId turn).2 ∨
        s₁.started = false ∧ s₁.restartRuntimeIfRunning localPeerId turn = (.ok (), s₁) := by
      by_cases hrun : s₁.started = true
      · exact Or.inl (hloose.restart localPeerId hready hrun)
      · refine Or.inr ⟨by simpa using hrun, ?_⟩
        unfold AppRuntime.restartRuntimeIfRunning
        rw [if_pos (by simpa using hrun)]
    rcases hrestart with htended | ⟨hstopped, hnothing⟩
    · split
      · rename_i heq
        rw [heq] at htended
        exact htended
      · rename_i heq
        rw [heq] at htended
        split
        · exact htended
        · exact htended.startDiscovery turn.sockets
    · -- a runtime which is stopped is ready for any layout
      rw [hnothing]
      dsimp only
      rw [if_neg (by simp [hstopped])]
      have hasleep := hidle hstopped
      obtain ⟨hstaffed, -, -⟩ := (hloose.idle hasleep).startDiscovery turn.sockets
      obtain ⟨hinput, hclipboard, -⟩ := startDiscovery_stops s₁ turn.sockets
      exact ⟨hstaffed, fun _ => ⟨hinput.trans hasleep.input, hclipboard.trans hasleep.clipboard⟩⟩
  · rename_i hnot
    exact hsame (Bool.eq_false_iff.mpr hnot)

theorem Tended.saveLayout (h : Tended s) (incoming : LayoutState)
    (checked written : Except String Unit) {turn : Turn}
    (hready : turn.readiness ≠ .late) : Tended (s.saveLayout localPeerId incoming checked written turn).2 := by
  have hdormant : s.started = false → Dormant s := h.dormant
  unfold AppRuntime.saveLayout
  split
  · dsimp only
    split
    · have hlocal := h.withOverride s.controllerLocalOverride.requestLocal
      refine (hlocal.loose.withLayout _).applySavedLayout localPeerId (fun hstopped => ?_)
        (fun hsame => hlocal.withLayout (demands_of_not_changed hsame)) hready
      obtain ⟨hinput, hclipboard, hengine, hreceiving, hresend⟩ := hdormant hstopped
      exact ⟨hinput, hclipboard, hengine, hreceiving, hresend⟩
    · refine (h.loose.withLayout _).applySavedLayout localPeerId (fun hstopped => ?_)
        (fun hsame => h.withLayout (demands_of_not_changed hsame)) hready
      obtain ⟨hinput, hclipboard, hengine, hreceiving, hresend⟩ := hdormant hstopped
      exact ⟨hinput, hclipboard, hengine, hreceiving, hresend⟩
  · exact h
  · exact h

theorem Tended.resetPairing (h : Tended s) (written replaced : Except String Unit) {turn : Turn}
    (hready : turn.readiness ≠ .late) : Tended (s.resetPairing localPeerId written replaced turn).2 := by
  have hcleared : Tended { s with layout := { s.layout with
      pairedControllers := [], trustedPeers := s.layout.trustedPeers.filter (·.role ≠ "controller") } } :=
    h.withLayout rfl
  unfold AppRuntime.resetPairing
  dsimp only
  split
  · exact hcleared
  split
  · exact hcleared
  · by_cases hrun : s.started = true
    · exact hcleared.loose.restart localPeerId hready hrun
    · unfold AppRuntime.restartRuntimeIfRunning
      rw [if_pos (by simpa using hrun)]
      exact hcleared

/-- A client which is paired receives. -/
theorem Tended.completePairing (h : Tended s) (clusterId pairSecret : String)
    (controller : Discovery.PairedController) (trustedPeers : List Discovery.TrustedPeerRecord) :
    Tended (s.completePairing clusterId pairSecret controller trustedPeers) := by
  unfold AppRuntime.completePairing
  split
  · exact h
  rename_i hclient
  have hrole : s.layout.machineRole = "client" := by simpa using hclient
  have hposted := h.toPosted
  refine ⟨⟨⟨⟨hposted.transport, hposted.discovery, hposted.capture, hposted.clipboard⟩,
    fun i w hlive => ?_, h.engine, h.receiving, h.resend⟩, fun _ => ?_⟩, h.stopped⟩
  · have hcurrent := h.current i w hlive
    cases w with
    | capture hotkeys t =>
      -- a client captures nothing
      have hcaptures : controllerModeEnabled s.layout.machineRole s.layout.inputMode = true := hcurrent.1
      rw [hrole] at hcaptures
      cases hcaptures
    | transport | discovery t | clipboard role t => exact hcurrent
  · show receiverModeEnabled s.layout.machineRole "receive" = true
    rw [hrole]
    rfl

end Parts

/-! ### Runs -/

/-- The file holds what is in use: the layout in it is not taken for a demo of an old version and has
devices, and its role, its mode, its hotkeys and what it says of the clipboard are those of the
runtime, the mode one there is. -/
structure Stored (s : AppRuntime) (disk : LayoutState) : Prop where
  kept : isOldDemoLayout disk = false
  devices : disk.devices ≠ []
  machineRole : disk.machineRole = s.layout.machineRole
  inputMode : disk.inputMode = s.layout.inputMode
  mode : s.layout.inputMode = "control" ∨ s.layout.inputMode = "receive"
  controlHotkeys : disk.controlHotkeys = s.layout.controlHotkeys
  clipboardSync : disk.clipboardSync = s.layout.clipboardSync
  clipboardTextLimitBytes : disk.clipboardTextLimitBytes = s.layout.clipboardTextLimitBytes

/-- The capture thread answers in time, and the file, if it is read, holds what is in use. -/
def Orderly (s : AppRuntime) : Command → Prop
  | .boot turn | .saveLayout _ _ _ turn | .resetPairing _ _ turn => turn.readiness ≠ .late
  | .startRuntime saved _ _ turn | .toggleRuntime saved _ _ turn =>
    turn.readiness ≠ .late ∧ ∀ disk ∈ saved, Stored s disk
  | .loadAppState saved _ _ => ∀ disk ∈ saved, Stored s disk
  | _ => True

/-! ### The file -/

/-- Which role it is survives the normalisation. -/
theorem normalizeMachineRole_eq_iff {machineRole role : String} (hrole : role ∈ ["server", "client"]) :
    normalizeMachineRole machineRole = role ↔ machineRole = role := by
  unfold normalizeMachineRole oneOf
  split
  · exact Iff.rfl
  · rename_i hnone
    constructor
    · rintro rfl
      simp at hrole
    · rintro rfl
      exact absurd hrole hnone

theorem normalizeMachineRole_eq_server (machineRole : String) :
    normalizeMachineRole machineRole = "server" ↔ machineRole = "server" :=
  normalizeMachineRole_eq_iff (by simp)

theorem normalizeMachineRole_eq_client (machineRole : String) :
    normalizeMachineRole machineRole = "client" ↔ machineRole = "client" :=
  normalizeMachineRole_eq_iff (by simp)

theorem normalizeInputMode_of_mode {inputMode : String} (hmode : inputMode = "control" ∨ inputMode = "receive") :
    normalizeInputMode inputMode = inputMode := by
  rcases hmode with rfl | rfl <;> rfl

theorem remoteRole_normalizeMachineRole (machineRole : String) :
    remoteRole (normalizeMachineRole machineRole) = remoteRole machineRole := by
  unfold remoteRole
  simp only [normalizeMachineRole_eq_server, normalizeMachineRole_eq_client]

/-- Nothing of what the runtime asks for is taken from the devices. -/
theorem demands_mergeLocalRuntimeDeviceFields (incoming current : LayoutState) :
    demands (mergeLocalRuntimeDeviceFields incoming current) = demands incoming := by
  unfold mergeLocalRuntimeDeviceFields
  split
  · rfl
  · split <;> rfl

theorem demands_mergeDiskLayoutIntoRuntime (disk current : LayoutState) :
    demands (mergeDiskLayoutIntoRuntime disk current) = demands disk := by
  unfold mergeDiskLayoutIntoRuntime
  rw [demands_mergeLocalRuntimeDeviceFields]
  split <;> split <;> rfl

/-- A stored layout which is read asks for what it asked for when it was saved. -/
theorem Stored.demands_normalized {s : AppRuntime} {saved disk native : LayoutState} {entropy : Entropy}
    (h : Stored s saved)
    (hdisk : normalizeSavedLayout entropy saved native = some disk) : demands disk = demands s.layout := by
  unfold normalizeSavedLayout at hdisk
  rw [if_neg (by simp [h.kept, h.devices])] at hdisk
  obtain ⟨device, -, rfl⟩ := Option.map_eq_some_iff.mp hdisk
  have hmode : normalizeInputMode saved.inputMode = s.layout.inputMode := by
    rw [h.inputMode]
    exact normalizeInputMode_of_mode h.mode
  unfold demands mergedLayout controllerModeEnabled receiverModeEnabled
  simp only [hmode, h.machineRole, h.controlHotkeys, h.clipboardSync, h.clipboardTextLimitBytes,
    remoteRole_normalizeMachineRole, normalizeMachineRole_eq_server, normalizeMachineRole_eq_client,
    normalizeClipboardTextLimitBytes_idem]

section Runs

variable {s : AppRuntime} (localPeerId : LayoutState → String)

theorem Tended.refresh (h : Tended s) {saved : Option LayoutState} {entropy : Entropy} {native : LayoutState}
    (hstored : ∀ disk ∈ saved, Stored s disk) : Tended (s.refreshLayoutFromDisk saved entropy native) := by
  unfold AppRuntime.refreshLayoutFromDisk
  split
  · rename_i disk hdisk
    obtain ⟨layout, hlayout, hnormalized⟩ := Option.bind_eq_some_iff.mp hdisk
    have hsame : demands (mergeDiskLayoutIntoRuntime disk s.layout) = demands s.layout := by
      rw [demands_mergeDiskLayoutIntoRuntime]
      exact (hstored layout hlayout).demands_normalized hnormalized
    exact h.withLayout hsame
  · exact h

/-- **Every command.** -/
theorem next_tended (h : Tended s) {command : Command} (horderly : Orderly s command) :
    Tended (s.next localPeerId command) := by
  cases command with
  | boot turn => exact h.toReady.boot localPeerId horderly
  | startRuntime saved entropy native turn => exact (h.refresh horderly.2).toReady.boot localPeerId horderly.1
  | stopRuntime sockets => exact (h.loose.stopRuntimeInner sockets).1
  | toggleRuntime saved entropy native turn =>
    show Tended (if s.started then (s.stopRuntimeInner turn.sockets).2
      else s.startRuntimeInner localPeerId saved entropy native turn)
    split
    · exact (h.loose.stopRuntimeInner turn.sockets).1
    · exact (h.refresh horderly.2).toReady.boot localPeerId horderly.1
  | saveLayout incoming checked written turn => exact h.saveLayout localPeerId incoming checked written horderly
  | resetPairing written replaced turn => exact h.resetPairing localPeerId written replaced horderly
  | startDiscovery sockets => exact h.startDiscovery sockets
  | loadAppState saved entropy native => exact h.refresh horderly
  | resendClipboard =>
    show Tended s.resendClipboard.2
    unfold AppRuntime.resendClipboard
    split
    · exact h
    split
    · exact h
    rename_i hruns
    split
    · exact h
    · refine ⟨⟨h.toReady.congr rfl rfl rfl rfl rfl rfl rfl (fun _ => ?_) rfl, h.input⟩, h.stopped⟩
      cases hstop : s.clipboardStop with
      | none => exact absurd (by rw [hstop]; rfl) hruns
      | some i => rfl
  | takeResend =>
    exact ⟨⟨h.toReady.congr rfl rfl rfl rfl rfl rfl rfl (fun hrequest => by cases hrequest) rfl, h.input⟩,
      h.stopped⟩
  | completePairing clusterId pairSecret controller trustedPeers =>
    exact h.completePairing clusterId pairSecret controller trustedPeers
  | presence devices pairedControllers trustedPeers => exact h.withLayout rfl
  | clipboardTarget target =>
      exact ⟨⟨h.toReady.congr rfl rfl rfl rfl rfl rfl rfl h.resend rfl, h.input⟩, h.stopped⟩
  | emergencyLocal => exact h.withOverride _

end Runs

theorem new_tended (layout : LayoutState) : Tended (AppRuntime.new layout) :=
  ⟨⟨⟨⟨manned_nil, manned_nil, manned_nil, manned_nil⟩,
    fun i w hlive => by simp [Live, AppRuntime.new] at hlive, rfl, rfl,
    fun hrequest => by cases hrequest⟩, fun hreceives => by cases hreceives⟩, fun _ => ⟨rfl, rfl⟩⟩

section Examples

def sampleEntropy : Entropy := ⟨List.replicate 16 3, List.replicate 32 4, rfl, rfl⟩

/-- A controller. -/
def sampleServer : LayoutState :=
  { detectLocalLayout ⟨some "desk", none, "windows", 47833, [], sampleEntropy⟩ with machineRole := "server" }

/-- Everything succeeds. -/
def sampleTurn : Turn :=
  ⟨⟨.ok 47833, .ok (47834, "key"), .ok ()⟩, .ready, .ok ⟨Vector.replicate 16 1⟩, 1⟩

/-- The controller starts, reads its file, and becomes a receiver. -/
def sampleCommands : List Command :=
  [.boot sampleTurn, .loadAppState (some sampleServer) sampleEntropy sampleServer,
    .saveLayout { sampleServer with machineRole := "client", inputMode := "receive" } (.ok ()) (.ok ())
    sampleTurn]

/-- A capture thread which is late runs on after a stop. -/
example :
    let s := run (AppRuntime.next fun _ => "desk") (AppRuntime.new sampleServer)
      [.boot { sampleTurn with readiness := .late }, .stopRuntime sampleTurn.sockets]
    s.started = false ∧ s.workers[2]? = some (.capture ControlHotkeys.default 0, false) := ⟨rfl, rfl⟩

end Examples

end MyKvm.Runtime
