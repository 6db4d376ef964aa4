import MyKvm.Lib.Latest
import MyKvm.Receiver.Typing
import MyKvm.System.Flowing

/-!
# MyKvm.System.Pointing — where the pointer was put last

The last command which carries a point (`lastPoint`) is the mapped point of the newest frame which has arrived, up
to the motion which waits: `Pointed`.  An input frame which is applied keeps it, and so does a motion frame which
is taken, with the two comparisons of the stale filter and of the one place to wait.
-/

namespace MyKvm.System

open MyKvm.Lib MyKvm.Protocol MyKvm.Receiver ReceiverSessionRuntime
open MyKvm.Lib.Feed (Entry Settles)

/-- The point of a frame. -/
def framePoint : Entry CriticalFrame MotionFrame → Option (Int32 × Int32)
  | .item frame => (criticalMotionSnapshot frame.event).map (·.2)
  | .sample frame => some (frame.x, frame.y)

/-- The position which a command carries. -/
def commandPoint : InputCommand → Option (Int32 × Int32)
  | .mouseMove x y _ => some (x, y)
  | .mouseButton _ _ x y => some (x, y)
  | _ => none

/-- The last position which was posted; `posted` has the newest command first. -/
def lastPoint (posted : List InputCommand) : Option (Int32 × Int32) := posted.findSome? commandPoint

/-- The pointer is at the mapped point of the frame. -/
def PointsAt (r : ReceiverSessionRuntime) (entry : Entry CriticalFrame MotionFrame) : Prop :=
  ∃ x y point, framePoint entry = some (x, y) ∧ r.mapActivePointer x y = .ok point ∧
    lastPoint r.injector.posted = some point

/-- The pointer is at the mapped point of the frame which is shown, or still at `base`. -/
def Shown (base : Option (Int32 × Int32)) (r : ReceiverSessionRuntime) :
    Option (Entry CriticalFrame MotionFrame) → Prop
  | none => lastPoint r.injector.posted = base
  | some entry => PointsAt r entry

/-- **The pointer is where the newest frame puts it**, of those which have arrived,
up to the motion which waits. -/
def Pointed (base : Option (Int32 × Int32)) (r : ReceiverSessionRuntime)
    (arrived : List (Entry CriticalFrame MotionFrame)) : Prop :=
  ∃ shown, Settles wireNumbers arrived r.highestMotionSequence.toNat shown r.pendingMotion ∧ Shown base r shown

/-! ### The commands of an event -/

section Commands

variable {r : ReceiverSessionRuntime} {event mapped : CriticalEvent} {pointer : Option (Int32 × Int32)}

theorem lastPoint_cons_of_some {command : InputCommand} {point : Int32 × Int32}
    (h : commandPoint command = some point)
    (posted : List InputCommand) : lastPoint (command :: posted) = some point := by
  unfold lastPoint
  rw [List.findSome?_cons, h]

theorem lastPoint_cons_of_none {command : InputCommand} (h : commandPoint command = none)
    (posted : List InputCommand) :
    lastPoint (command :: posted) = lastPoint posted := by
  unfold lastPoint
  rw [List.findSome?_cons, h]

/-- The strokes of a key carry no position. -/
theorem lastPoint_applyKey (s : PressedState) (keyCode scanCode : UInt16) (extended down : Bool)
    (posted : List InputCommand) :
    lastPoint ((s.applyKey keyCode scanCode extended down).1.reverse ++ posted) = lastPoint posted := by
  unfold PressedState.applyKey
  dsimp only
  split
  · split
    · rfl
    · split
      · rfl
      · exact lastPoint_cons_of_none rfl posted
  · split
    · rfl
    · split
      · rfl
      · exact lastPoint_cons_of_none rfl posted

/-- A click carries its point, and where there is none to post the pointer is moved there. -/
theorem lastPoint_applyButton (s : PressedState) (button : MouseButton) (down : Bool) (x y : Int32) :
    (s.applyButton button down x y).1 = [] ∨
    (s.applyButton button down x y).1 = [.mouseButton button down x y] := by
  unfold PressedState.applyButton
  split
  · split
    · exact Or.inl rfl
    · exact Or.inr rfl
  · split
    · exact Or.inr rfl
    · exact Or.inl rfl

/-- An event without a point leaves the pointer, and one with a point puts it there. -/
theorem lastPoint_inputCommands (h : r.mapEvent event = .ok (mapped, pointer)) (pressed : PressedState)
    (posted : List InputCommand) :
    lastPoint ((inputCommands pressed mapped pointer).1.reverse ++ posted) = pointer.or (lastPoint posted) := by
  rcases mapEvent_cases h with ⟨hnone, rfl, rfl⟩ | ⟨sequence, x, y, x', y', hsome, hmap, rfl, rfl⟩
  · cases event with
    | key keyCode scanCode extended down =>
      obtain ⟨keyCode', hkey⟩ : ∃ keyCode', r.remapEvent (.key keyCode scanCode extended down) =
          .key keyCode' scanCode extended down := by
        unfold remapEvent
        dsimp only
        split
        · exact ⟨_, rfl⟩
        · exact ⟨_, rfl⟩
      have hcommands : (inputCommands pressed (r.remapEvent (.key keyCode scanCode extended down)) none).1 =
          (pressed.applyKey keyCode' scanCode extended down).1 := by
        rw [hkey]
        unfold inputCommands
        dsimp only
        split
        · rename_i heq
          cases heq
        · rfl
      rw [hcommands]
      exact lastPoint_applyKey pressed keyCode' scanCode extended down posted
    | button button down x y motionSequence => cases hnone
    | scroll deltaX deltaY x y motionSequence => cases hnone
  · cases event with
    | key keyCode scanCode extended down => cases hsome
    | button button down x y motionSequence =>
      show lastPoint
        ((inputCommands pressed (.button button down x' y' motionSequence) (some (x', y'))).1.reverse ++
        posted) = some (x', y')
      unfold inputCommands
      dsimp only
      rcases lastPoint_applyButton (pressed.updatePointer x' y') (mouseButton button) down x' y' with hnone | hone
      · simp only [PressedState.apply, List.nil_append]
        rw [hnone]
        exact lastPoint_cons_of_some rfl posted
      · simp only [PressedState.apply, List.nil_append]
        rw [hone]
        exact lastPoint_cons_of_some rfl posted
    | scroll deltaX deltaY x y motionSequence =>
      show lastPoint (.scroll deltaX deltaY :: .mouseMove x' y' pressed.dragButton :: posted) = some (x', y')
      rw [lastPoint_cons_of_none rfl]
      exact lastPoint_cons_of_some rfl posted

end Commands

/-! ### The two operations -/

section Operations

variable {base : Option (Int32 × Int32)} {r r₁ : ReceiverSessionRuntime}
  {arrived : List (Entry CriticalFrame MotionFrame)}

theorem mapActivePointer_congr (h : r₁.activeDisplay = r.activeDisplay) (x y : Int32) :
    r₁.mapActivePointer x y = r.mapActivePointer x y := by
  unfold mapActivePointer
  rw [h]

theorem PointsAt.congr {entry : Entry CriticalFrame MotionFrame} (h : PointsAt r entry)
    (hdisplay : r₁.activeDisplay = r.activeDisplay) (hposted : r₁.injector.posted = r.injector.posted) :
    PointsAt r₁ entry := by
  obtain ⟨x, y, point, hpoint, hmap, hlast⟩ := h
  exact ⟨x, y, point, hpoint, (mapActivePointer_congr hdisplay x y).trans hmap, hposted ▸ hlast⟩

theorem Shown.congr {shown : Option (Entry CriticalFrame MotionFrame)} (h : Shown base r shown)
    (hdisplay : r₁.activeDisplay = r.activeDisplay) (hposted : r₁.injector.posted = r.injector.posted) :
    Shown base r₁ shown := by
  cases shown with
  | none => exact (congrArg lastPoint hposted).trans h
  | some entry => exact PointsAt.congr h hdisplay hposted

/-- Nothing was shown and nothing waits for another reason. -/
theorem Pointed.congr (h : Pointed base r arrived) (hdisplay : r₁.activeDisplay = r.activeDisplay)
    (hposted : r₁.injector.posted = r.injector.posted) (htop : r₁.highestMotionSequence = r.highestMotionSequence)
    (hpending : r₁.pendingMotion = r.pendingMotion) : Pointed base r₁ arrived := by
  obtain ⟨shown, hsettles, hpoints⟩ := h
  refine ⟨shown, ?_, hpoints.congr hdisplay hposted⟩
  rw [htop, hpending]
  exact hsettles

/-- **A motion which is submitted** puts the pointer to its point. -/
theorem applyMotion_moved {frame : MotionFrame} (hok : (r.applyMotion frame).1 = .ok ()) :
    PointsAt (r.applyMotion frame).2 (.sample frame) ∧
      (r.applyMotion frame).2.highestMotionSequence = frame.sequence ∧
      (r.applyMotion frame).2.pendingMotion = r.pendingMotion ∧
      streamPart (r.applyMotion frame).2 = streamPart r := by
  unfold applyMotion at hok ⊢
  cases hmap : r.mapActivePointer frame.x frame.y with
  | error e =>
    rw [hmap] at hok
    cases hok
  | ok p =>
    obtain ⟨x, y⟩ := p
    rw [hmap] at hok
    have hsubmit := r.injector.submitReady_cases (.mouseMove x y (r.pressed.updatePointer x y).dragButton)
    dsimp only at hok ⊢
    cases hi : r.injector.submitReady (.mouseMove x y (r.pressed.updatePointer x y).dragButton) with
    | mk answer i =>
    rw [hi] at hok hsubmit
    cases answer with
    | error e => cases hok
    | ok u =>
      obtain ⟨-, hposted⟩ := hsubmit.resolve_right (fun h => by obtain ⟨⟨_, h⟩, -⟩ := h; cases h)
      refine ⟨⟨frame.x, frame.y, (x, y), rfl, hmap, ?_⟩, rfl, rfl, rfl⟩
      show lastPoint i.posted = some (x, y)
      rw [hposted]
      exact lastPoint_cons_of_some rfl _

/-- The motion which waits is shown if it is due and newer, and dropped if it is due and not. -/
theorem flushPendingMotion_pointed (h : Pointed base r arrived) (hok : r.flushPendingMotion.1 = .ok ()) :
    Pointed base r.flushPendingMotion.2 arrived := by
  unfold flushPendingMotion at hok ⊢
  cases hpending : r.pendingMotion with
  | none => exact h
  | some frame =>
    obtain ⟨shown, hsettles, hpoints⟩ := h
    rw [hpending] at hsettles hok
    dsimp only at hok ⊢
    by_cases hwaits : r.highestAppliedSequence < frame.requiredReliableSequence
    · rw [if_pos hwaits]
      exact ⟨shown, hpending ▸ hsettles, hpoints⟩
    rw [if_neg hwaits] at hok ⊢
    by_cases hnew : r.highestMotionSequence < frame.sequence
    · rw [if_pos hnew] at hok ⊢
      obtain ⟨hpoint, htop, hnone, -⟩ := applyMotion_moved hok
      refine ⟨some (.sample frame), ?_, hpoint⟩
      rw [htop, hnone]
      exact hsettles.flushed (UInt64.lt_iff_toNat_lt.mp hnew)
    · rw [if_neg hnew]
      refine ⟨shown, hsettles.dropped ?_, hpoints.congr rfl rfl⟩
      exact UInt64.le_iff_toNat_le.mp (UInt64.not_lt.mp hnew)

theorem flushPendingMotion_streamPart (hok : r.flushPendingMotion.1 = .ok ()) :
    streamPart r.flushPendingMotion.2 = streamPart r := by
  unfold flushPendingMotion at hok ⊢
  cases hpending : r.pendingMotion with
  | none => rfl
  | some frame =>
    rw [hpending] at hok
    dsimp only at hok ⊢
    by_cases hwaits : r.highestAppliedSequence < frame.requiredReliableSequence
    · rw [if_pos hwaits]
    rw [if_neg hwaits] at hok ⊢
    by_cases hnew : r.highestMotionSequence < frame.sequence
    · rw [if_pos hnew] at hok ⊢
      exact (applyMotion_moved hok).2.2.2
    · rw [if_neg hnew]
      rfl

/-- What was applied last is the frame. -/
theorem handleInputAt_applied (hc : Coherent r) {frame : CriticalFrame} {peer : AuthenticatedPeer} {nowMs : UInt64}
    (hok : (r.handleInputAt frame peer nowMs).1 = .ok ()) :
    (r.handleInputAt frame peer nowMs).2.highestAppliedSequence = frame.sequence := by
  have htaken := handleInputAt_taken hc frame peer nowMs
  generalize r.handleInputAt frame peer nowMs = out at hok htaken
  generalize appliedCommands r frame peer = commands at htaken
  cases htaken with
  | refused => cases hok
  | broken hrelease => cases hok
  | applied hadmitted hsubmit hnext =>
    have hsame := flushPendingMotion_streamPart hok
    simp only [streamPart, Prod.mk.injEq] at hsame
    exact hsame.2.2.2.2.2

/-- **An input frame which is applied**, and which carries no older motion than the one shown. -/
theorem handleInputAt_pointed (hc : Coherent r) (h : Pointed base r arrived) {frame : CriticalFrame}
    {peer : AuthenticatedPeer}
    {nowMs : UInt64} (hcarries : criticalMotionSnapshot frame.event ≠ none → wireNumbers.mark frame ≠ 0)
    (hmark : wireNumbers.mark frame ≠ 0 → r.highestMotionSequence.toNat ≤ wireNumbers.mark frame)
    (hok : (r.handleInputAt frame peer nowMs).1 = .ok ()) :
    Pointed base (r.handleInputAt frame peer nowMs).2 (.item frame :: arrived) := by
  have htaken := handleInputAt_taken hc frame peer nowMs
  generalize r.handleInputAt frame peer nowMs = out at hok htaken
  generalize appliedCommands r frame peer = commands at htaken
  cases htaken with
  | refused => cases hok
  | broken hrelease => cases hok
  | applied hadmitted hsubmit hnext =>
    rename_i mapped pointer i next
    refine flushPendingMotion_pointed ?_ hok
    obtain ⟨shown, hsettles, hpoints⟩ := h
    have hposted : i.posted = (inputCommands r.pressed mapped pointer).1.reverse ++ r.injector.posted := by
      rcases submitAll_cases (inputCommands r.pressed mapped pointer).1 r.injector with ⟨-, hdone⟩ |
        ⟨e, _, _, _, hfailed, _⟩
      · rw [hsubmit] at hdone
        exact hdone
      · rw [hsubmit] at hfailed
        cases hfailed
    have hlast := lastPoint_inputCommands hadmitted.mapped r.pressed r.injector.posted
    rw [← hposted] at hlast
    have htop : (r.raiseMotion frame.event).toNat = max r.highestMotionSequence.toNat (wireNumbers.mark frame) :=
      raiseMotion_toNat r frame.event
    rcases mapEvent_cases hadmitted.mapped with ⟨hnone, rfl, rfl⟩ | ⟨sequence, x, y, x', y', hsome, hmap, rfl, rfl⟩
    · -- a key leaves the pointer where it is
      have hzero : wireNumbers.mark frame = 0 := by simp [wireNumbers, hnone]
      have hsame : r.raiseMotion frame.event = r.highestMotionSequence := by
        refine UInt64.toNat_inj.mp ?_
        rw [htop, hzero]
        exact Nat.max_zero _
      refine ⟨shown, ?_, ?_⟩
      · show Settles wireNumbers _ (r.raiseMotion frame.event).toNat shown r.pendingMotion
        rw [hsame]
        exact hsettles.bare hzero
      · cases shown with
        | none => exact hlast.trans hpoints
        | some entry =>
          obtain ⟨x, y, point, hpoint, hmap, hold⟩ := hpoints
          exact ⟨x, y, point, hpoint, hmap, hlast.trans hold⟩
    · have hsnapshot : wireNumbers.mark frame ≠ 0 := hcarries (by rw [hsome]; exact Option.some_ne_none _)
      have hraised : (r.raiseMotion frame.event).toNat = wireNumbers.mark frame := by
        rw [htop]
        exact max_eq_right (hmark hsnapshot)
      refine ⟨some (.item frame), ?_, ?_⟩
      · show Settles wireNumbers _ (r.raiseMotion frame.event).toNat (some (.item frame)) r.pendingMotion
        rw [hraised]
        exact hsettles.item hsnapshot (hmark hsnapshot)
      · refine ⟨x, y, (x', y'), ?_, hmap, hlast⟩
        show (criticalMotionSnapshot frame.event).map (·.2) = some (x, y)
        rw [hsome]
        rfl

/-- What a motion frame which is taken meets, with the comparisons which decide it. -/
theorem handleMotionAt_taken {frame : MotionFrame} {peer : AuthenticatedPeer} {nowMs : UInt64}
    {disposition : MotionDisposition} (hok : (r.handleMotionAt frame peer nowMs).1 = .ok disposition) :
    (frame.sequence ≤ r.highestMotionSequence ∧ (r.handleMotionAt frame peer nowMs).2 = r) ∨
      (r.highestMotionSequence < frame.sequence ∧ (r.handleMotionAt frame peer nowMs).2 =
        { r with
          lastActivityMs := some nowMs
          pendingMotion :=
            if r.pendingMotion.all (fun pending => pending.sequence < frame.sequence) then some frame
            else r.pendingMotion }) ∨
      (r.highestMotionSequence < frame.sequence ∧ frame.requiredReliableSequence ≤ r.highestAppliedSequence ∧
        (applyMotion { r with lastActivityMs := some nowMs } frame).1 = .ok () ∧
        (r.handleMotionAt frame peer nowMs).2 =
        (applyMotion { r with lastActivityMs := some nowMs } frame).2) := by
  generalize hout : r.handleMotionAt frame peer nowMs = out at hok ⊢
  unfold handleMotionAt at hout
  split at hout
  · cases hout.symm ▸ hok
  split at hout
  · cases hout.symm ▸ hok
  split at hout
  · rename_i hstale
    exact Or.inl ⟨hstale, hout ▸ rfl⟩
  rename_i hnew
  have hlt := UInt64.not_le.mp hnew
  split at hout
  · cases hout.symm ▸ hok
  split at hout
  · cases hout.symm ▸ hok
  split at hout
  · cases hout.symm ▸ hok
  dsimp only at hout
  split at hout
  · refine Or.inr (Or.inl ⟨hlt, ?_⟩)
    split at hout
    · rename_i hall
      rw [if_pos hall, ← hout]
    · rename_i hall
      rw [if_neg hall, ← hout]
  · rename_i hdue
    refine Or.inr (Or.inr ⟨hlt, UInt64.not_lt.mp hdue, ?_⟩)
    cases happly : applyMotion { r with lastActivityMs := some nowMs } frame with
    | mk answer r₁ =>
    rw [happly] at hout
    cases answer with
    | error e => cases hout.symm ▸ hok
    | ok u => exact ⟨rfl, hout ▸ rfl⟩

/-- **A motion frame which is taken**, whenever it arrives; two motions of one number are one. -/
theorem handleMotionAt_pointed (hl : Lockstep r) (h : Pointed base r arrived) {frame : MotionFrame}
    {peer : AuthenticatedPeer} {nowMs : UInt64} {disposition : MotionDisposition}
    (hone : ∀ f, r.pendingMotion = some f → f.sequence = frame.sequence → f = frame)
    (hok : (r.handleMotionAt frame peer nowMs).1 = .ok disposition) :
    Pointed base (r.handleMotionAt frame peer nowMs).2 (.sample frame :: arrived) := by
  obtain ⟨shown, hsettles, hpoints⟩ := h
  rcases handleMotionAt_taken hok with ⟨hstale, heq⟩ | ⟨hnew, heq⟩ | ⟨hnew, hdue, happlied, heq⟩
  · rw [heq]
    exact ⟨shown, hsettles.stale (UInt64.le_iff_toNat_le.mp hstale), hpoints⟩
  · have hlt : r.highestMotionSequence.toNat < frame.sequence.toNat := UInt64.lt_iff_toNat_lt.mp hnew
    rw [heq]
    refine ⟨shown, ?_, hpoints.congr rfl rfl⟩
    cases hpending : r.pendingMotion with
    | none =>
      rw [hpending] at hsettles
      exact hsettles.waits hlt (by simp)
    | some f =>
      rw [hpending] at hsettles
      by_cases hnewer : f.sequence < frame.sequence
      · simp only [Option.all_some, hnewer, decide_true, if_true]
        refine hsettles.waits hlt ?_
        intro f' hf'
        obtain rfl := Option.some.inj hf'
        exact UInt64.lt_iff_toNat_lt.mp hnewer
      · simp only [Option.all_some, hnewer, decide_false, Bool.false_eq_true, if_false]
        exact hsettles.outdone hlt (UInt64.le_iff_toNat_le.mp (UInt64.not_lt.mp hnewer))
  · obtain ⟨hpoint, htop, hpending, -⟩ := applyMotion_moved happlied
    rw [heq]
    refine ⟨some (.sample frame), ?_, hpoint⟩
    rw [htop, hpending]
    refine hsettles.due (UInt64.lt_iff_toNat_lt.mp hnew) ?_
    intro f hf hsame
    -- what waits is not due
    have hnot := hl.waits f hf
    rw [hone f hf (UInt64.toNat_inj.mp hsame)] at hnot
    exact absurd hdue (UInt64.not_le.mpr hnot)

end Operations

end MyKvm.System
