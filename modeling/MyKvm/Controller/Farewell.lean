import MyKvm.Controller.FailClosed

/-!
# MyKvm.Controller.Farewell — which sessions are ended, and when

What the automaton of `Standing` says about the log, in terms of its notes:

* `standing_acknowledged`: an acknowledged session is active until its `EndSession` is handed over or a frame is
  rejected; until then the connection stays open.
* `standing_committed`: a session which was committed to and not acknowledged since is not ended; it is given up by
  closing the connection.
* `standing_owned`: only a session which was committed to is ended.

`abandoned_sessions_ended`: so it is in every run of the client.
-/

namespace MyKvm.Controller

open MyKvm.Lib MyKvm.Protocol MyKvm.Routing ControllerRuntime Fallible ControllerClient

/-! ### Notes -/

/-- The connection is closed. -/
def Closes (n : ClientNote) : Prop := ∃ answer, n = .called .disconnect answer

/-- An `EndSession` for the session is handed to the control stream. -/
def Ends (s : SessionId) (n : ClientNote) : Prop :=
  ∃ reason answer, n = .called (.sendControl (.endSession s reason)) answer

/-- A `Commit` of the session is handed to the control stream. -/
def Commits (s : SessionId) (n : ClientNote) : Prop := ∃ q answer, n = .called (.sendControl (.commit q s)) answer

/-- The `CommitAck` of the session is taken. -/
def Acknowledges (s : SessionId) (n : ClientNote) : Prop := ∃ actions, n = .took (.commitAck s) (.ok actions)

/-- A control frame is rejected. -/
def Rejects (n : ClientNote) : Prop := ∃ frame e, n = .took frame (.error e)

/-- The notes, newest first, end the session or reject a frame, while the connection is still open. -/
def SaysGoodbye (s : SessionId) (notes : List ClientNote) : Prop :=
  ∃ newer n older, notes = newer ++ n :: older ∧ (Ends s n ∨ Rejects n) ∧ ∀ m ∈ older, ¬ Closes m

namespace Standing

/-- The session which the log is about. -/
def session : Standing → Option SessionId
  | .clear => none
  | .committed s | .acknowledged s | .dismissed s => some s

/-! ### One note -/

/-- What a note can do. -/
inductive Follows : Standing → ClientNote → Standing → Prop
  | commits {σ : Standing} {s : SessionId} {n : ClientNote} : σ.IsFree → Commits s n → Follows σ n (.committed s)
  | acknowledges {s : SessionId} {n : ClientNote} : Acknowledges s n → Follows (.committed s) n (.acknowledged s)
  | ends {σ : Standing} {s : SessionId} {n : ClientNote} : σ = .acknowledged s ∨ σ = .dismissed s → Ends s n →
      Follows σ n .clear
  | closes {σ σ' : Standing} {n : ClientNote} : Closes n → (∀ s, σ ≠ .acknowledged s) →
      σ' = .clear ∨ ((∃ s, σ = .dismissed s) ∧ σ' = σ) → Follows σ n σ'
  | rejects {s : SessionId} {n : ClientNote} : Rejects n → Follows (.acknowledged s) n (.dismissed s)
  | quiet {σ : Standing} {n : ClientNote} :
      ¬ Closes n → (∀ s, ¬ Ends s n) → (Rejects n → ∀ s, σ ≠ .acknowledged s) →
      Follows σ n σ

theorem after_follows {σ σ' : Standing} {n : ClientNote} (h : σ.after n = some σ') : Follows σ n σ' := by
  have hquiet : some σ = some σ' → ¬ Closes n → (∀ s, ¬ Ends s n) → ¬ Rejects n → Follows σ n σ' := by
    rintro ⟨⟩ hcloses hends hrejects
    exact .quiet hcloses hends fun hn => absurd hn hrejects
  cases n with
  | took frame answer =>
    cases answer with
    | error e =>
      have hrejects : Rejects (.took frame (.error e)) := ⟨frame, e, rfl⟩
      obtain ⟨σ₁, hafter, hack, hwas⟩ := σ.after_error frame e
      obtain rfl : σ₁ = σ' := Option.some.inj (hafter.symm.trans h)
      rcases hwas with rfl | ⟨s, rfl, rfl⟩
      · exact .quiet (by simp [Closes]) (by simp [Ends]) fun _ => hack
      · exact .rejects hrejects
    | ok actions =>
      cases frame with
      | commitAck t =>
        simp only [after] at h
        split at h
        · rename_i hσ
          subst hσ
          obtain rfl := Option.some.inj h
          exact .acknowledges ⟨actions, rfl⟩
        · cases h
      | _ => exact hquiet h (by simp [Closes]) (by simp [Ends]) (by simp [Rejects])
  | called call answer =>
    cases call with
    | disconnect =>
      have hcloses : Closes (.called .disconnect answer) := ⟨answer, rfl⟩
      cases σ with
      | acknowledged s => cases h
      | dismissed s => exact .closes hcloses (by simp) (Or.inr ⟨⟨s, rfl⟩, (Option.some.inj h).symm⟩)
      | _ => exact .closes hcloses (by simp) (Or.inl (Option.some.inj h).symm)
    | sendControl frame =>
      cases frame with
      | commit q t =>
        have hcommits : Commits t (.called (.sendControl (.commit q t)) answer) := ⟨q, answer, rfl⟩
        cases σ with
        | clear | dismissed s =>
          obtain rfl := Option.some.inj h
          exact .commits trivial hcommits
        | _ => cases h
      | endSession t reason =>
        simp only [after] at h
        split at h
        · rename_i hσ
          obtain rfl := Option.some.inj h
          exact .ends hσ ⟨reason, answer, rfl⟩
        · cases h
      | _ => exact hquiet h (by simp [Closes]) (by simp [Ends]) (by simp [Rejects])
    | _ => exact hquiet h (by simp [Closes]) (by simp [Ends]) (by simp [Rejects])

theorem after_acknowledged {s : SessionId} {n : ClientNote} {σ : Standing}
    (h : (acknowledged s).after n = some σ) :
    Ends s n ∨ Rejects n ∨ (σ = .acknowledged s ∧ ¬ Closes n ∧ ¬ Ends s n ∧ ¬ Rejects n) := by
  cases after_follows h with
  | commits hfree _ => exact hfree.elim
  | ends hσ hends =>
    obtain rfl : s = _ := by simpa using hσ
    exact Or.inl hends
  | closes _ hack _ => exact absurd rfl (hack s)
  | rejects hrejects => exact Or.inr (Or.inl hrejects)
  | quiet hcloses hends hrejects =>
    exact Or.inr (Or.inr ⟨rfl, hcloses, hends s, fun hn => hrejects hn s rfl⟩)

/-- A session which is not acknowledged is neither ended nor acknowledged by any other note. -/
theorem after_unacknowledged {s : SessionId} {n : ClientNote} {σ σ' : Standing} (h : σ.after n = some σ')
    (hack : σ ≠ .acknowledged s) (hdismissed : σ ≠ .dismissed s) (hn : ¬ Acknowledges s n) :
    ¬ Ends s n ∧ σ' ≠ .acknowledged s ∧ σ' ≠ .dismissed s ∧ (σ = .committed s → σ' = .committed s ∨ Closes n) := by
  cases after_follows h with
  | commits hfree hcommits =>
    obtain ⟨q, answer, rfl⟩ := hcommits
    refine ⟨by simp [Ends], by simp, by simp, ?_⟩
    rintro rfl
    exact hfree.elim
  | acknowledges hacks =>
    rename_i t
    have hne : t ≠ s := by
      rintro rfl
      exact hn hacks
    obtain ⟨actions, rfl⟩ := hacks
    exact ⟨by simp [Ends], by simp [hne], by simp, by simp [hne]⟩
  | ends hσ hends =>
    rename_i t
    have hne : t ≠ s := by
      rintro rfl
      exact hσ.elim hack hdismissed
    obtain ⟨reason, answer, rfl⟩ := hends
    refine ⟨by simp [Ends, hne], by simp, by simp, ?_⟩
    rintro rfl
    simp at hσ
  | closes hcloses _ hσ' =>
    have hends : ¬ Ends s n := by
      obtain ⟨answer, rfl⟩ := hcloses
      simp [Ends]
    rcases hσ' with rfl | ⟨-, rfl⟩
    · exact ⟨hends, by simp, by simp, fun _ => Or.inr hcloses⟩
    · exact ⟨hends, hack, hdismissed, fun _ => Or.inr hcloses⟩
  | rejects hrejects =>
    rename_i t
    have hne : t ≠ s := by
      rintro rfl
      exact hack rfl
    obtain ⟨frame, e, rfl⟩ := hrejects
    exact ⟨by simp [Ends], by simp, by simp [hne], by simp⟩
  | quiet _ hends _ => exact ⟨hends s, hack, hdismissed, Or.inl⟩

/-- The session of the log changes with a `Commit` only. -/
theorem after_session {s : SessionId} {n : ClientNote} {σ σ' : Standing} (h : σ.after n = some σ')
    (hs : σ'.session = some s) : σ.session = some s ∨ Commits s n := by
  cases after_follows h with
  | commits _ hcommits =>
    cases hs
    exact Or.inr hcommits
  | acknowledges _ | rejects _ => exact Or.inl hs
  | ends _ _ => cases hs
  | closes _ _ hσ' =>
    rcases hσ' with rfl | ⟨-, rfl⟩
    · cases hs
    · exact Or.inl hs
  | quiet _ _ _ => exact Or.inl hs

end Standing

/-! ### The whole log -/

theorem standing_acknowledged {s : SessionId} {n : ClientNote} (hn : Acknowledges s n)
    {recent old : List ClientNote} {σ : Standing} (h : standing (recent ++ n :: old) = some σ) :
    (σ = .acknowledged s ∧ ∀ m ∈ recent, ¬ Closes m ∧ ¬ Ends s m ∧ ¬ Rejects m) ∨ SaysGoodbye s recent := by
  induction recent generalizing σ with
  | nil =>
    obtain ⟨σ₀, -, hafter⟩ := standing_cons_eq_some h
    obtain ⟨actions, rfl⟩ := hn
    simp only [Standing.after] at hafter
    split at hafter
    · exact Or.inl ⟨(Option.some.inj hafter).symm, by simp⟩
    · cases hafter
  | cons m recent ih =>
    obtain ⟨σ₀, h₀, hafter⟩ := standing_cons_eq_some h
    rcases ih h₀ with ⟨rfl, hquiet⟩ | ⟨newer, m', older, rfl, hsays, hopen⟩
    · rcases Standing.after_acknowledged hafter with hends | hrejects | ⟨hσ, hm⟩
      · exact Or.inr ⟨[], m, recent, rfl, Or.inl hends, fun k hk => (hquiet k hk).1⟩
      · exact Or.inr ⟨[], m, recent, rfl, Or.inr hrejects, fun k hk => (hquiet k hk).1⟩
      · exact Or.inl ⟨hσ, List.forall_mem_cons.mpr ⟨hm, hquiet⟩⟩
    · exact Or.inr ⟨m :: newer, m', older, rfl, hsays, hopen⟩

theorem standing_committed {s : SessionId} {n : ClientNote} (hn : Commits s n) {recent old : List ClientNote}
    (hack : ∀ m ∈ recent, ¬ Acknowledges s m) {σ : Standing} (h : standing (recent ++ n :: old) = some σ) :
    (∀ m ∈ recent, ¬ Ends s m) ∧ σ ≠ .acknowledged s ∧ σ ≠ .dismissed s ∧
    (σ = .committed s ∨ ∃ m ∈ recent, Closes m) := by
  induction recent generalizing σ with
  | nil =>
    obtain ⟨σ₀, -, hafter⟩ := standing_cons_eq_some h
    obtain ⟨q, answer, rfl⟩ := hn
    have hσ : σ = .committed s := by
      cases σ₀ with
      | clear | dismissed t => exact (Option.some.inj hafter).symm
      | _ => cases hafter
    subst hσ
    exact ⟨by simp, by simp, by simp, Or.inl rfl⟩
  | cons m recent ih =>
    obtain ⟨hm, hrecent⟩ := List.forall_mem_cons.mp hack
    obtain ⟨σ₀, h₀, hafter⟩ := standing_cons_eq_some h
    obtain ⟨hends, hack₀, hdismissed₀, hcommitted⟩ := ih hrecent h₀
    obtain ⟨hends', hack', hdismissed', hstays⟩ := Standing.after_unacknowledged hafter hack₀ hdismissed₀ hm
    refine ⟨List.forall_mem_cons.mpr ⟨hends', hends⟩, hack', hdismissed', ?_⟩
    rcases hcommitted with hσ₀ | ⟨k, hk, hcloses⟩
    · exact (hstays hσ₀).imp id fun hcloses => ⟨m, List.mem_cons_self, hcloses⟩
    · exact Or.inr ⟨k, List.mem_cons_of_mem _ hk, hcloses⟩

theorem standing_session {s : SessionId} {notes : List ClientNote} {σ : Standing} (h : standing notes = some σ)
    (hs : σ.session = some s) : ∃ n ∈ notes, Commits s n := by
  induction notes generalizing σ with
  | nil =>
    cases h
    cases hs
  | cons n notes ih =>
    obtain ⟨σ₀, h₀, hafter⟩ := standing_cons_eq_some h
    rcases Standing.after_session hafter hs with hs₀ | hcommits
    · obtain ⟨m, hm, hcommits⟩ := ih h₀ hs₀
      exact ⟨m, List.mem_cons_of_mem _ hm, hcommits⟩
    · exact ⟨n, List.mem_cons_self, hcommits⟩

/-- Only a session which was committed to is ended. -/
theorem standing_ends {s : SessionId} {n : ClientNote} (hn : Ends s n) {recent old : List ClientNote}
    {σ : Standing} (h : standing (recent ++ n :: old) = some σ) : ∃ m ∈ old, Commits s m := by
  obtain ⟨σ', h'⟩ := standing_append h
  obtain ⟨σ₀, h₀, hafter⟩ := standing_cons_eq_some h'
  obtain ⟨reason, answer, rfl⟩ := hn
  simp only [Standing.after] at hafter
  split at hafter
  · rename_i hσ₀
    exact standing_session h₀ (by rcases hσ₀ with rfl | rfl <;> rfl)
  · cases hafter

theorem Stage.Admits.of_acknowledged {st : Stage} {s : SessionId} (h : st.Admits (.acknowledged s)) :
    ∃ d, st = .active s d := by
  cases st with
  | active t d =>
    obtain rfl : s = t := by simpa [Stage.Admits] using h
    exact ⟨d, rfl⟩
  | committed q t d => cases h
  | _ => exact h.elim

theorem Stage.Admits.of_committed {st : Stage} {s : SessionId} (h : st.Admits (.committed s)) :
    ∃ q d, st = .committed q s d := by
  cases st with
  | committed q t d =>
    cases h
    exact ⟨q, d, rfl⟩
  | active t d => simp [Stage.Admits] at h
  | _ => exact h.elim

/-! ### Runs -/

/-- **Abandoned sessions are ended.**  In every run of the client: after a `CommitAck` was taken its session is
active and the connection open, until an `EndSession` for it is handed over, or a control frame rejected, before
the connection is closed; a session which was committed to and not acknowledged since is not ended, and given up
only by closing the connection; and every `EndSession` is for a session which was committed to. -/
theorem abandoned_sessions_ended (localBoot : BootId) (localPeerId : String)
    (transport : List (Except String Unit)) (client : ControllerClient)
    (hnew : ControllerClient.newWithOverride transport localBoot localPeerId = .ok client)
    (g : LocalOverride) (moments : List Moment) (entropy : List (Option (Vector UInt8 16)))
    (calls : List ClientCall) :
    let s := run ClientSetting.next (ClientSetting.start client g moments entropy) calls
    (∀ session n recent old, s.world.notes = recent ++ n :: old → Acknowledges session n →
      (s.client.runtime.handshake.state = .active session ∧
        ∀ m ∈ recent, ¬ Closes m ∧ ¬ Ends session m ∧ ¬ Rejects m) ∨ SaysGoodbye session recent) ∧
    (∀ session n recent old, s.world.notes = recent ++ n :: old → Commits session n →
      (∀ m ∈ recent, ¬ Acknowledges session m) → (∀ m ∈ recent, ¬ Ends session m) ∧
        (s.client.runtime.handshake.state = .awaitCommitAck session ∨ ∃ m ∈ recent, Closes m)) ∧
    ∀ session n recent old, s.world.notes = recent ++ n :: old → Ends session n →
    ∃ m ∈ old, Commits session m := by
  intro s
  obtain ⟨c, hc, rfl⟩ := newWithOverride_eq_ok hnew
  obtain ⟨st, σ, hheld, hadmits⟩ : Coherent localBoot localPeerId s :=
    run_invariant (fun s call => next_coherent s call)
      ⟨.home, .clear, ⟨newWithOverride_fits hc, False.elim, rfl⟩, trivial⟩ calls
  have hnotes := hheld.notes
  refine ⟨?_, ?_, ?_⟩
  · intro session n recent old hlog hn
    rw [hlog] at hnotes
    refine (standing_acknowledged hn hnotes).imp ?_ id
    rintro ⟨rfl, hquiet⟩
    obtain ⟨d, rfl⟩ := hadmits.of_acknowledged
    exact ⟨hheld.fits.stage.2.1, hquiet⟩
  · intro session n recent old hlog hn hack
    rw [hlog] at hnotes
    obtain ⟨hends, -, -, hcommitted⟩ := standing_committed hn hack hnotes
    refine ⟨hends, hcommitted.imp ?_ id⟩
    rintro rfl
    obtain ⟨q, d, rfl⟩ := hadmits.of_committed
    obtain ⟨p, -, -, -, -, hstate, -⟩ := hheld.fits.stage
    exact hstate
  · intro session n recent old hlog hn
    rw [hlog] at hnotes
    exact standing_ends hn hnotes

namespace Sample

/-- The user returns, from an active session. -/
def returns : List ClientCall := activates ++ [.goLocal .user]

/-- The user returns, before the `CommitAck` arrives. -/
def gaveUp : ClientSetting := clientRun (commits ++ [.goLocal .user])

end Sample

/-- A return from an active session: its `EndSession` goes out before the connection is closed. -/
theorem abandoned_sessions_ended_returns :
    SaysGoodbye Sample.session ((Sample.clientRun Sample.returns).world.notes.take 3) := by
  have hended :=
    (abandoned_sessions_ended (Sample.boot 1) "windows" [] Sample.client rfl ⟨1⟩ [] [some Sample.session.nonce]
    Sample.returns).1 Sample.session (.took (.commitAck Sample.session) (.ok [.openInput Sample.session]))
    ((Sample.clientRun Sample.returns).world.notes.take 3) ((Sample.clientRun Sample.returns).world.notes.drop 4)
    (by decide +kernel) ⟨_, rfl⟩
  refine hended.resolve_left ?_
  rintro ⟨hactive, -⟩
  revert hactive
  decide +kernel

/-- An `EndSession` for some session is handed to the control stream. -/
def endsAny : ClientNote → Bool
  | .called (.sendControl (.endSession _ _)) _ => true
  | _ => false

/-- A session which was committed to is left without an `EndSession` while its `CommitAck` is awaited. -/
theorem not_abandoned_sessions_ended_committed :
    ¬ ((Sample.clientRun Sample.commits).client.runtime.handshake.state = .awaitCommitAck Sample.session →
      Sample.gaveUp.client.runtime.handshake.state ≠ .awaitCommitAck Sample.session →
      ∃ n ∈ Sample.gaveUp.world.notes, Ends Sample.session n) := by
  intro h
  obtain ⟨n, hn, reason, answer, rfl⟩ := h (by decide +kernel) (by decide +kernel)
  have hnotes : Sample.gaveUp.world.notes.any endsAny = false := by decide +kernel
  exact absurd (List.any_eq_false.mp hnotes _ hn) (by simp [endsAny])

end MyKvm.Controller
