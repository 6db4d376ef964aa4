import MyKvm.Receiver.Chronicle

/-!
# MyKvm.Receiver.Ordering — motion and input in order

What `Kept` says of the log of an activation, in the words of the protocol: motion frames get newer, none comes
before the input which it requires, the pointer leads every action, and no position is undone by an older motion.
-/

namespace MyKvm.Receiver.Chronicle

open MyKvm.Lib MyKvm.Protocol ReceiverSessionRuntime

/-- **Motion ordering.**  In every run, of the newest activation:
the log is everything the injector got while the session is active;
the motion sequences of the submitted frames increase;
a frame which requires a reliable sequence comes after the event with this sequence;
an event with a position starts with the pointer at this position;
and after such an event no motion is submitted which is not newer than it. -/
theorem motion_ordering (localBoot : BootId) (injector : Injector) (displayLayouts : List ReceiverDisplayLayout)
    (calls : List ReceiverCall) :
    let w := run next (start (newWithDisplayLayouts localBoot injector displayLayouts)) calls
    (w.receiver.activeSession.isSome → w.receiver.injector.posted = w.log.flatMap Happening.posts ++ w.before) ∧
      w.submitted.Pairwise (fun newer older => older.frame.sequence < newer.frame.sequence) ∧
      (∀ newer motion older, w.log = newer ++ .sample motion :: older →
        motion.frame.requiredReliableSequence = 0 ∨
          ∃ event ∈ Feed.items older, event.frame.sequence = motion.frame.requiredReliableSequence) ∧
      (∀ event ∈ w.applied, event.Leads) ∧
      ∀ newer event older, w.log = newer ++ .item event :: older →
        ∀ sequence x y, criticalMotionSnapshot event.frame.event = some (sequence, x, y) →
          ∀ motion ∈ Feed.samples newer, sequence < motion.frame.sequence := by
  intro w
  have hlogged : Logged w := (run_kept localBoot injector displayLayouts calls).logged
  refine ⟨hlogged.posted, hlogged.lawful.pairwise, ?_, hlogged.leads, ?_⟩
  · intro newer motion older hsplit
    have hlawful := hlogged.lawful
    rw [hsplit] at hlawful
    rcases hlawful.needs_met with hzero | ⟨event, hevent, heq⟩
    · exact Or.inl (UInt64.toNat_inj.mp hzero)
    · exact Or.inr ⟨event, hevent, UInt64.toNat_inj.mp heq⟩
  · intro newer event older hsplit sequence x y hsnapshot motion hmotion
    have hlawful := hlogged.lawful
    rw [hsplit] at hlawful
    have hnewer := hlawful.newer_than_mark motion hmotion
    have hmark : frameNumbers.mark event = sequence.toNat := by simp [frameNumbers, hsnapshot]
    rw [hmark] at hnewer
    exact UInt64.lt_iff_toNat_lt.mpr hnewer

end MyKvm.Receiver.Chronicle
