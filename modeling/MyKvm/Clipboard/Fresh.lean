import MyKvm.Clipboard.Convergence

/-!
# MyKvm.Clipboard.Fresh — whether a new copy reaches the peer

An engine which is made anew starts its clock again, while the other engine keeps the order of the newest
operation.  A new copy is applied if its order is above that one, and is acknowledged either way.

* `Pair.Sound.rank_lt`: without a new engine, the clock of the copying side is ahead of all that both sides know.
* `fresh_copy_applied`: when a copy reaches the peer.
-/

namespace MyKvm.Clipboard

open MyKvm.Lib MyKvm.Protocol LastWriter

namespace Pair

variable {clipboardTextDigest : String → Digest} {pair : Pair}

/-- Everything which was sent was delivered and acknowledged. -/
def Delivered (pair : Pair) : Prop := ∀ side, ∀ o ∈ (pair side).sent, o ∈ (pair side.other).acknowledged

instance : Decidable pair.Delivered := inferInstanceAs (Decidable (∀ side, ∀ o ∈ (pair side).sent, _))

theorem run_localPeer (side : Side) (calls : List PairCall) :
    (run (next clipboardTextDigest) pair calls side).engine.localPeer = (pair side).engine.localPeer :=
  run_invariant (I := fun pair' : Pair => (pair' side).engine.localPeer = (pair side).engine.localPeer)
    (fun _ _ h => (next_localPeer side).trans h) rfl calls

theorem mem_run_sent {side : Side} {o : ClipboardBulkOperation} (ho : o ∈ (pair side).sent)
    (calls : List PairCall) :
    o ∈ (run (next clipboardTextDigest) pair calls side).sent :=
  run_invariant (I := fun pair' : Pair => o ∈ (pair' side).sent) (fun _ _ h => mem_next_sent h) ho calls

/-- **The clock is ahead**: when the sides know of nothing but the operations before the
copy, the copy is the newest. -/
theorem Sound.rank_lt {pair' : Pair} (h : pair.Sound) (h' : pair'.Sound) {side : Side}
    (hclock : (pair side).engine.lamport ≠ u64Max) (hdelivered : pair.Delivered)
    (hother : ∀ o ∈ (pair' side.other).sent, o ∈ (pair side.other).sent)
    (hknown : ∀ o ∈ (pair' side.other).acknowledged, o ∈ (pair side).sent) :
    (pair' side.other).engine.rank < (pair side).engine.nextOrder := by
  obtain ⟨r, horder, -, hnewest⟩ := (h'.site side.other).newest
  rw [Site.rank_eq horder]
  cases r with
  | none => exact WithBot.bot_lt_coe _
  | some e =>
    obtain ⟨o, ho, rfl⟩ := List.mem_map.mp (hnewest.mem e rfl)
    have hmem : o ∈ (pair side).known := by
      rcases List.mem_append.mp ho with ho | ho
      · have hback := hdelivered side.other o (hother o ho)
        rw [Side.other_other] at hback
        exact List.mem_append_right _ hback
      · exact List.mem_append_left _ (hknown o ho)
    have hle := (h.site side).clock o hmem
    have hnext : (pair side).engine.nextOrder.lamport.toNat = (pair side).engine.lamport.toNat + 1 :=
      saturatingAdd_one_toNat hclock
    refine WithBot.coe_lt_coe.mpr (OperationOrder.lt_of_lamport ?_)
    show (Operation.order o).lamport.toNat < _
    omega

end Pair

/-- **When a new copy reaches the peer.**  In every history, engines being made anew or not, a copy (or a manual
resend) is sent, and after whatever else happens it is delivered.  It is acknowledged; and it is applied exactly if
its order is above the one which the engine of the peer then holds.  That is so in every history without a new
engine in which the clocks do not reach their end, if all earlier operations were delivered and acknowledged before
the copy and no other one was sent until its delivery. -/
theorem fresh_copy_applied (clipboardTextDigest : String → Digest) (engines : Side → ClipboardSyncEngine)
    (hmade : ∀ side, Made (engines side)) (hdistinct : (engines .left).localPeer ≠ (engines .right).localPeer)
    (history between : List PairCall) (side : Side) (imageAllowed manualResend : Bool)
    (systemRevision appliedRevision : UInt64) (content : ClipboardContent) :
    let copy := PairCall.observe side imageAllowed manualResend systemRevision content
    let pair := run (Pair.next clipboardTextDigest) (Pair.start engines) history
    let copied := pair.next clipboardTextDigest copy
    let operation := Operation.make clipboardTextDigest (pair side).engine.nextOrder systemRevision content
    let pair' := run (Pair.next clipboardTextDigest) copied between
    let final := pair'.next clipboardTextDigest (.deliver side.other operation true true appliedRevision)
    (copied side).sent = operation :: (pair side).sent → content.isValid = true →
    content.bytes.utf8ByteSize ≤ (pair' side.other).engine.limit content →
      operation ∈ (final side.other).acknowledged ∧
      (((final side.other).written = content :: (pair' side.other).written ∧
          (final side.other).engine.currentOrder = some (Operation.order operation) ∧
          (final side.other).engine.currentDigest = some (Operation.digest operation)) ↔
        (pair' side.other).engine.rank < (pair side).engine.nextOrder) ∧
      (Meets (Pair.next clipboardTextDigest) Pair.Steady (Pair.start engines) (history ++ copy :: between) →
        pair.Delivered → (∀ side, (pair' side).sent = (copied side).sent) →
        operation ∉ (pair' side.other).acknowledged →
        (pair' side.other).engine.rank < (pair side).engine.nextOrder) := by
  intro copy pair copied operation pair' final hsent hvalid hlimit
  have hname : ∀ side, (pair' side).engine.localPeer = (engines side).localPeer := by
    intro side
    rw [Pair.run_localPeer, Pair.next_localPeer, Pair.run_localPeer]
    rfl
  have horder : Operation.order operation = (pair side).engine.nextOrder := Operation.order_make ..
  have hcontent : Operation.content operation = content := Operation.content_make ..
  have howner : (pair side).engine.localPeer = (engines side).localPeer := Pair.run_localPeer side history
  have hfits : fits (pair side).engine.localPeer maxPeerIdBytes = true := by
    rw [howner]
    exact (Site.start_sound (hmade side)).peer
  have hwire : validateClipboardBulk clipboardTextDigest operation = .ok () :=
    validateClipboardBulk_make hfits (saturatingAdd_one_ne_zero _) (saturatingAdd_one_ne_zero _) hvalid
  have hfrom : ClipboardSyncEngine.isFrom operation (pair' side).engine.localPeer
      (pair' side.other).engine.localPeer = true := by
    have hpeers : (engines side).localPeer ≠ (engines side.other).localPeer := by
      cases side with
      | left => exact hdistinct
      | right => exact hdistinct.symm
    have horigin : (Operation.order operation).originPeer = (engines side).localPeer := by
      rw [horder]
      exact howner
    unfold ClipboardSyncEngine.isFrom
    simp [horigin, hname, hpeers]
  have hmem : operation ∈ (pair' side).sent := by
    apply Pair.mem_run_sent
    rw [hsent]
    exact List.mem_cons_self
  have hfinal : final side.other =
      (pair' side.other).deliver clipboardTextDigest (pair' side).engine.localPeer operation true true
        appliedRevision := by
    show Pair.next clipboardTextDigest pair' _ side.other = _
    unfold Pair.next
    dsimp only
    rw [Side.other_other, if_pos hmem, Function.update_self]
  rw [Site.deliver_valid hfrom hwire (by rw [hcontent]; exact hlimit), horder, hcontent] at hfinal
  refine ⟨?_, ?_, ?_⟩
  · rw [hfinal]
    split_ifs
    · exact List.mem_cons_self
    · exact List.mem_cons_self
  · rw [hfinal]
    split_ifs with hlt
    · refine ⟨fun _ => hlt, fun _ => ⟨rfl, rfl, rfl⟩⟩
    · refine ⟨fun h => ?_, fun h => absurd h hlt⟩
      exact absurd h.1 (by simp)
  · intro hsteady hdelivered hsilent hfirst
    obtain ⟨hbefore, hcopy, hafter⟩ := (meets_append _ _ _ _ _).mp hsteady
    have hsound : pair.Sound :=
      run_keeps (I := Pair.Sound) (fun _ _ h => Pair.next_sound h) (Pair.start_sound hmade hdistinct) hbefore
    have hsound' : pair'.Sound :=
      run_keeps (I := Pair.Sound) (fun _ _ h => Pair.next_sound h) (Pair.next_sound hsound hcopy) hafter
    refine hsound.rank_lt hsound' (hcopy.2 side) hdelivered ?_ ?_
    · intro o ho
      rw [hsilent] at ho
      have hother : copied side.other = pair side.other := Function.update_of_ne side.other_ne ..
      rwa [hother] at ho
    · intro o ho
      have hback := hsound'.known side.other o ho
      rw [Side.other_other, hsilent, hsent] at hback
      rcases List.mem_cons.mp hback with rfl | hback
      · exact absurd ho hfirst
      · exact hback

section Examples

/-- The left side copies twice, and both copies are delivered. -/
def sampleHistory : List PairCall :=
  [.observe .left false false 2 (.text "A"),
    .deliver .right (sampleOperation 1 "a-peer" (sampleBoot 1) 1 2 "A") true true 2,
    .observe .left false false 3 (.text "B"),
    .deliver .right (sampleOperation 2 "a-peer" (sampleBoot 1) 2 3 "B") true true 3]

/-- The third copy is applied. -/
theorem fresh_copy_applied_third :
    (sampleRun (sampleHistory ++ [.observe .left false false 4 (.text "Z"),
        .deliver .right (sampleOperation 3 "a-peer" (sampleBoot 1) 3 4 "Z") true true 4]) .right).written =
      [.text "Z", .text "B", .text "A"] := by
  have h :=
    fresh_copy_applied sampleDigest sampleEngines sampleEngines_made (by decide) sampleHistory [] .left false
    false 4 4 (.text "Z") (by decide +kernel) (by decide) (by decide +kernel)
  exact (h.2.1.mpr (h.2.2 (by decide +kernel) (by decide +kernel) (fun _ => rfl) (by decide +kernel))).1

/-- The same with a new engine on the left side: everything before was delivered, the copy is sent and
acknowledged, and the right side keeps what it had. -/
theorem not_fresh_copy_applied :
    let pair := sampleRun (sampleHistory ++ [.recreate .left (sampleBoot 3) 3 (1024 * 1024)])
    let copied := pair.next sampleDigest (.observe .left false false 4 (.text "Z"))
    let operation := sampleOperation 1 "a-peer" (sampleBoot 3) 1 4 "Z"
    let final := copied.next sampleDigest (.deliver .right operation true true 4)
    pair.Delivered ∧ (copied .left).sent = operation :: (pair .left).sent ∧
      operation ∈ (final .right).acknowledged ∧ (final .right).written = [.text "B", .text "A"] ∧
      (final .right).engine.currentDigest ≠ some (Operation.digest operation) := by decide +kernel

end Examples

end MyKvm.Clipboard
