import MyKvm.Clipboard.Steps

/-!
# MyKvm.Clipboard.Handler — an operation of the peer, all of it or nothing

The handler between the decision, the slow write and the commit, in a world which the write may change even when it
fails.  `handle_refines` says that the engine sees of the world the two answers only.

* `handle_cases`: what the handler does: it never asks the engine, or the answer is one of `receive`.
* `handle_all_or_nothing`: what does not end in a commit leaves everything of the engine but its clock.
-/

namespace MyKvm.Clipboard

open MyKvm.Lib MyKvm.Protocol ClipboardSyncEngine

/-- The two callbacks of the handler. -/
structure Callbacks (σ : Type) where
  writeContent : ClipboardContent → σ → Bool × σ
  revisionAfterWrite : σ → UInt64

section Handler

variable {σ : Type} (clipboardTextDigest : String → Digest) (codec : Codec ClipboardBulkOperation)
  (callbacks : Callbacks σ) (payload : List UInt8) (authenticatedPeer localPeerId : String) (imageAllowed : Bool)

/-- `handle_v2_clipboard_operation`, with the world beside the shared engine. -/
def handleV2ClipboardOperation (s : σ × Option ClipboardSyncEngine) : Bool × σ × Option ClipboardSyncEngine :=
  match decodeClipboardBulk clipboardTextDigest codec payload with
  | .error _ => (false, s)
  | .ok operation =>
    if isFrom operation authenticatedPeer localPeerId = false then (false, s)
    else
      match s.2 with
      | none => (false, s)
      | some engine =>
        match decideRemote clipboardTextDigest imageAllowed operation engine with
        | (some .ignoreDuplicate, engine) => (true, s.1, some engine)
        | (some .ignoreStale, engine) => (true, s.1, some engine)
        | (some .apply, engine) =>
          let (written, world) := callbacks.writeContent (Operation.content operation) s.1
          if written then
            (true, world, some (engine.commitRemote operation (callbacks.revisionAfterWrite world)))
          else (false, world, some engine)
        | (_, engine) => (false, s.1, some engine)

/-- How the handler judges the payload; `none` is what it refuses before the engine sees it. -/
def judge (syncEngine : Option ClipboardSyncEngine) : Option RemoteClipboardDecision :=
  match decodeClipboardBulk clipboardTextDigest codec payload, syncEngine with
  | .ok operation, some engine =>
    if isFrom operation authenticatedPeer localPeerId = false then none
    else (decideRemote clipboardTextDigest imageAllowed operation engine).1
  | _, _ => none

variable {clipboardTextDigest codec callbacks payload authenticatedPeer localPeerId imageAllowed}

/-- What the replication rests on: everything of the engine which a call may change, but its clock. -/
def ClipboardSyncEngine.replica (engine : ClipboardSyncEngine) :
    Option OperationOrder × Option Digest × Option (UInt64 × Digest × ClipboardOperationId) × UInt64 :=
  (engine.currentOrder, engine.currentDigest, engine.appliedRemoteEcho, engine.lastLocalRevision)

/-- The decision does not look at the clock. -/
theorem decideRemote_heard (operation : ClipboardBulkOperation) (engine : ClipboardSyncEngine) :
    (decideRemote clipboardTextDigest imageAllowed operation (engine.heard operation)).1 =
      (decideRemote clipboardTextDigest imageAllowed operation engine).1 := by
  unfold decideRemote considerRemote considerRemoteImage
  cases operation with
  | text operation =>
    have hlimit : (engine.heard (.text operation)).textLimit = engine.textLimit := rfl
    simp only [hlimit]
    split_ifs <;> rfl
  | image operation =>
    dsimp only
    split_ifs <;> rfl

/-- **What the handler does**: it refuses, or the operation is old, or it writes and then commits. -/
theorem handle_cases (world : σ) (syncEngine : Option ClipboardSyncEngine) :
    let answer :=
      handleV2ClipboardOperation clipboardTextDigest codec callbacks payload authenticatedPeer localPeerId
      imageAllowed (world, syncEngine)
    let judged := judge clipboardTextDigest codec payload authenticatedPeer localPeerId imageAllowed
    (answer = (false, world, syncEngine) ∧ judged syncEngine ≠ some .apply) ∨
      ∃ operation engine, decodeClipboardBulk clipboardTextDigest codec payload = .ok operation ∧
        isFrom operation authenticatedPeer localPeerId = true ∧ syncEngine = some engine ∧
        judged (some (engine.heard operation)) = judged (some engine) ∧
        ((judged (some engine) ≠ some .apply ∧ Operation.order operation ≤ engine.rank ∧
            answer = (true, world, some (engine.heard operation))) ∨
          (judged (some engine) = some .apply ∧
            let written := callbacks.writeContent (Operation.content operation) world
            answer = if written.1 then
                (true, written.2,
                  some ((engine.heard operation).commitRemote operation (callbacks.revisionAfterWrite written.2)))
              else (false, written.2, some (engine.heard operation)))) := by
  unfold handleV2ClipboardOperation judge
  cases decodeClipboardBulk clipboardTextDigest codec payload with
  | error error => exact .inl ⟨rfl, by simp⟩
  | ok operation =>
    dsimp only
    by_cases hfrom : isFrom operation authenticatedPeer localPeerId = false
    · rw [if_pos hfrom]
      refine .inl ⟨rfl, ?_⟩
      cases syncEngine with
      | none => simp
      | some engine => simp [hfrom]
    cases syncEngine with
    | none =>
      rw [if_neg hfrom]
      exact .inl ⟨rfl, by simp⟩
    | some engine =>
      simp only [if_neg hfrom]
      have hjudged := @decideRemote_heard clipboardTextDigest imageAllowed operation engine
      rcases decideRemote_cases clipboardTextDigest imageAllowed operation engine with (hnone | hreject) |
        hcompared
      · rw [hnone]
        exact .inl ⟨rfl, by simp⟩
      · rw [hreject]
        exact .inl ⟨rfl, by simp⟩
      refine .inr ⟨operation, engine, rfl, Bool.eq_true_of_not_eq_false hfrom, rfl, hjudged, ?_⟩
      rw [hcompared]
      rcases engine.compareRemote_eq (Operation.order operation) with ⟨happly, -⟩ | ⟨hold | hold, hle⟩
      · rw [happly]
        exact .inr ⟨rfl, rfl⟩
      · rw [hold]
        exact .inl ⟨by simp, hle, rfl⟩
      · rw [hold]
        exact .inl ⟨by simp, hle, rfl⟩

/-- **Refinement.**  Of the world the answer and the engine depend on what the two callbacks return only. -/
theorem handle_refines {operation : ClipboardBulkOperation}
    (hdecode : decodeClipboardBulk clipboardTextDigest codec payload = .ok operation) (world : σ)
    (syncEngine : Option ClipboardSyncEngine) :
    let answer :=
      handleV2ClipboardOperation clipboardTextDigest codec callbacks payload authenticatedPeer localPeerId
      imageAllowed (world, syncEngine)
    let written := callbacks.writeContent (Operation.content operation) world
    (answer.1, answer.2.2) =
      handleV2ClipboardOperationWithRevision clipboardTextDigest codec payload authenticatedPeer localPeerId
        imageAllowed (fun _ => written.1) (callbacks.revisionAfterWrite written.2) syncEngine := by
  unfold handleV2ClipboardOperation handleV2ClipboardOperationWithRevision
  rw [hdecode]
  dsimp only
  by_cases hfrom : isFrom operation authenticatedPeer localPeerId = false
  · rw [if_pos hfrom, if_pos hfrom]
  rw [if_neg hfrom, if_neg hfrom]
  cases syncEngine with
  | none => rfl
  | some engine =>
    dsimp only
    unfold receive
    rcases decideRemote_cases clipboardTextDigest imageAllowed operation engine with (hnone | hreject) | hcompared
    · rw [hnone]
    · rw [hreject]
    rw [hcompared]
    rcases engine.compareRemote_eq (Operation.order operation) with ⟨happly, -⟩ | ⟨hold | hold, -⟩
    · rw [happly]
      cases hwrite : (callbacks.writeContent (Operation.content operation) world).1 <;> simp
    · rw [hold]
    · rw [hold]

/-- **All or nothing.**  An operation which is not acknowledged leaves everything but the clock as it was, and is
judged the next time as it was this time; after a failed write it applies again.  What is acknowledged was
committed, or nothing newer than what is there.  What a peer sends under another name has no effect. -/
theorem handle_all_or_nothing (world : σ) (syncEngine : Option ClipboardSyncEngine) :
    let answer :=
      handleV2ClipboardOperation clipboardTextDigest codec callbacks payload authenticatedPeer localPeerId
      imageAllowed (world, syncEngine)
    let judged := judge clipboardTextDigest codec payload authenticatedPeer localPeerId imageAllowed
    let decoded := decodeClipboardBulk clipboardTextDigest codec payload
    (answer.1 = false →
        answer.2.2.map replica = syncEngine.map replica ∧ judged answer.2.2 = judged syncEngine) ∧
      (∀ operation, decoded = .ok operation → judged syncEngine = some .apply →
        (callbacks.writeContent (Operation.content operation) world).1 = false →
          answer.1 = false ∧ judged answer.2.2 = some .apply) ∧
      (answer.1 = true → ∃ operation engine, decoded = .ok operation ∧ syncEngine = some engine ∧
        (Operation.order operation ≤ engine.rank ∨
          (callbacks.writeContent (Operation.content operation) world).1 = true ∧
            answer.2.2 = some ((engine.heard operation).commitRemote operation
              (callbacks.revisionAfterWrite (callbacks.writeContent (Operation.content operation) world).2)))) ∧
      (∀ operation, decoded = .ok operation → (Operation.order operation).originPeer ≠ authenticatedPeer →
        answer = (false, world, syncEngine)) := by
  intro answer judged decoded
  rcases @handle_cases _ clipboardTextDigest codec callbacks payload authenticatedPeer localPeerId
    imageAllowed world syncEngine with
    ⟨hanswer, hjudged⟩ | ⟨operation, engine, hdecode, hfrom, rfl, hagain, hdone⟩
  · have hanswer : answer = (false, world, syncEngine) := hanswer
    refine ⟨fun _ => ?_, fun _ _ happly => absurd happly hjudged, fun h => ?_, fun _ _ _ => hanswer⟩
    · rw [hanswer]
      exact ⟨rfl, rfl⟩
    · rw [hanswer] at h
      cases h
  have hdecode : decoded = .ok operation := hdecode
  have hsame : ∀ operation', decoded = .ok operation' → operation' = operation := fun operation' h =>
    Except.ok.inj (h.symm.trans hdecode)
  have horigin : (Operation.order operation).originPeer = authenticatedPeer :=
    eq_of_beq (Bool.and_eq_true_iff.mp hfrom).1
  have hforeign : ∀ operation', decoded = .ok operation' →
      (Operation.order operation').originPeer ≠ authenticatedPeer → answer = (false, world, some engine) := by
    intro operation' h hother
    rw [hsame operation' h] at hother
    exact absurd horigin hother
  rcases hdone with ⟨hjudged, hold, hanswer⟩ | ⟨happly, hanswer⟩
  · have hanswer : answer = (true, world, some (engine.heard operation)) := hanswer
    refine ⟨fun h => ?_, fun operation' h happly _ => ?_, fun _ => ⟨operation, engine, hdecode, rfl, .inl hold⟩,
      hforeign⟩
    · rw [hanswer] at h
      cases h
    · exact absurd happly hjudged
  · dsimp only at hanswer
    cases hwrite : (callbacks.writeContent (Operation.content operation) world).1 with
    | true =>
      rw [hwrite, if_pos rfl] at hanswer
      have hacknowledged : answer.1 = true := congrArg Prod.fst hanswer
      refine ⟨fun h => ?_, fun operation' h _ hfailed => ?_, fun _ => ?_, hforeign⟩
      · rw [hacknowledged] at h
        cases h
      · rw [hsame operation' h, hwrite] at hfailed
        cases hfailed
      · exact ⟨operation, engine, hdecode, rfl, .inr ⟨hwrite, congrArg (fun x => x.2.2) hanswer⟩⟩
    | false =>
      rw [hwrite, if_neg Bool.false_ne_true] at hanswer
      have hrefused : answer.1 = false := congrArg Prod.fst hanswer
      have hengine : answer.2.2 = some (engine.heard operation) := congrArg (fun x => x.2.2) hanswer
      have hagain : judged answer.2.2 = judged (some engine) := by
        rw [hengine]
        exact hagain
      refine ⟨fun _ => ⟨?_, hagain⟩, fun _ _ happly _ => ⟨hrefused, hagain.trans happly⟩, fun h => ?_, hforeign⟩
      · rw [hengine]
        rfl
      · rw [hrefused] at h
        cases h

end Handler

end MyKvm.Clipboard
