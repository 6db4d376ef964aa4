import MyKvm.Controller.Client
import MyKvm.Controller.Stages
import MyKvm.Lib.Machine

/-!
# MyKvm.Controller.Standing — what the log of the client says about its session

`Standing` reads the log of the client like an automaton: a session is committed to, acknowledged, and ended by its
`EndSession`; once a frame was rejected it is dismissed.  The automaton stops at a note which is out of order, such
as a `disconnect` under an acknowledged session or an `EndSession` for any other.

* `ControllerStep.hands`, `ControllerStep.took`: the actions of a step fit the log.
* `Settled`: the controller is at a stage, and the log agrees with it.  Every operation of the client keeps it;
  `failTransport` comes home.
* `next_coherent`: so does every call.
-/

namespace MyKvm.Controller

open MyKvm.Lib MyKvm.Protocol MyKvm.Routing ControllerRuntime Fallible ControllerClient

inductive Standing where
  | clear
  | committed (session : SessionId)
  | acknowledged (session : SessionId)
  | dismissed (session : SessionId)
  deriving DecidableEq

namespace Standing

/-- The next note; none when it is out of order. -/
def after (σ : Standing) : ClientNote → Option Standing
  | .called (.sendControl (.commit _ s)) _ =>
    match σ with
    | .clear | .dismissed _ => some (.committed s)
    | _ => none
  | .called (.sendControl (.endSession s _)) _ =>
    if σ = .acknowledged s ∨ σ = .dismissed s then some .clear else none
  | .called .disconnect _ =>
    match σ with
    | .acknowledged _ => none
    | .dismissed s => some (.dismissed s)
    | _ => some .clear
  | .took (.commitAck s) (.ok _) => if σ = .committed s then some (.acknowledged s) else none
  | .took _ (.error _) =>
    match σ with
    | .acknowledged s => some (.dismissed s)
    | _ => some σ
  | _ => some σ

/-- Nothing is owed: no session is committed to, or its frame was rejected. -/
def IsFree : Standing → Prop
  | .clear | .dismissed _ => True
  | _ => False

theorem IsFree.not_acknowledged {σ : Standing} (h : σ.IsFree) (s : SessionId) : σ ≠ .acknowledged s := by
  rintro rfl
  exact h

theorem after_commit {σ : Standing} (h : σ.IsFree) (q : UInt64) (s : SessionId) (answer : Except String Unit) :
    σ.after (.called (.sendControl (.commit q s)) answer) = some (.committed s) := by
  cases σ with
  | clear | dismissed t => rfl
  | _ => exact h.elim

theorem after_disconnect {σ : Standing} (h : ∀ s, σ ≠ .acknowledged s) (answer : Except String Unit) :
    ∃ σ', σ.after (.called .disconnect answer) = some σ' ∧ σ'.IsFree := by
  cases σ with
  | acknowledged s => exact absurd rfl (h s)
  | _ => exact ⟨_, rfl, trivial⟩

theorem after_error (σ : Standing) (frame : ControlFrame) (e : ControllerRuntimeError) :
    ∃ σ', σ.after (.took frame (.error e)) = some σ' ∧ (∀ s, σ' ≠ .acknowledged s) ∧
      (σ' = σ ∨ ∃ s, σ = .acknowledged s ∧ σ' = .dismissed s) := by
  cases σ with
  | acknowledged s => exact ⟨.dismissed s, by cases frame <;> rfl, by simp, Or.inr ⟨s, rfl, rfl⟩⟩
  | clear | committed s | dismissed s => exact ⟨_, by cases frame <;> rfl, by simp, Or.inl rfl⟩

end Standing

/-- What the notes, newest first, say. -/
def standing : List ClientNote → Option Standing
  | [] => some .clear
  | n :: notes => (standing notes).bind (·.after n)

theorem standing_cons {n : ClientNote} {notes : List ClientNote} {σ σ' : Standing} (h : standing notes = some σ)
    (hafter : σ.after n = some σ') : standing (n :: notes) = some σ' := by
  rw [standing, h]
  exact hafter

theorem standing_cons_eq_some {n : ClientNote} {notes : List ClientNote} {σ' : Standing}
    (h : standing (n :: notes) = some σ') : ∃ σ, standing notes = some σ ∧ σ.after n = some σ' :=
  Option.bind_eq_some_iff.mp h

theorem standing_append {recent old : List ClientNote} {σ : Standing} (h : standing (recent ++ old) = some σ) :
    ∃ σ', standing old = some σ' := by
  induction recent generalizing σ with
  | nil => exact ⟨σ, h⟩
  | cons n recent ih =>
    obtain ⟨σ', h', -⟩ := standing_cons_eq_some h
    exact ih h'

/-! ### Actions -/

/-- The call of the transport which hands an action over. -/
def ControllerAction.toCall : ControllerAction → TransportCall
  | .sendControl frame => .sendControl frame
  | .openInput _ => .openInput
  | .closeInput => .disconnect

namespace Stage

/-- What the log may say at the stage. -/
def Admits : Stage → Standing → Prop
  | .committed _ s _, σ => σ = .committed s
  | .active s _, σ => σ = .acknowledged s ∨ σ = .dismissed s
  | _, σ => σ.IsFree

/-- The actions fit the log, at every step of handing them over. -/
def Hands (st : Stage) : List ControllerAction → Standing → Prop
  | [], σ => st.Admits σ
  | action :: actions, σ =>
    ∃ σ', (∀ answer, σ.after (.called action.toCall answer) = some σ') ∧ st.Admits σ' ∧ st.Hands actions σ'

/-- Saying goodbye fits the log, and comes home. -/
theorem hands_farewell {st : Stage} {σ : Standing} (h : st.Admits σ) (reason : String) :
    home.Hands (st.farewell reason) σ := by
  have hclose : (∀ s, σ ≠ .acknowledged s) → home.Hands [.closeInput] σ := by
    intro hack
    obtain ⟨σ', hafter, hfree⟩ := Standing.after_disconnect hack (.ok ())
    exact ⟨σ', fun _ => hafter, hfree, hfree⟩
  cases st with
  | home => exact h
  | awaitReady q d | ready q s d => exact hclose (Standing.IsFree.not_acknowledged h)
  | committed q s d =>
    obtain rfl : σ = .committed s := h
    exact hclose (by simp)
  | active s d =>
    refine ⟨.clear, fun answer => if_pos h, trivial, .clear, fun _ => rfl, trivial, trivial⟩

/-- A `CommitAck` without a request is dismissed where it is. -/
theorem admits_unpaired {st : Stage} {frame : ControlFrame} {σ : Standing} (hunpaired : Unpaired st frame)
    (h : st.Admits σ) (e : ControllerRuntimeError) :
    ∃ σ₁ σ₂, σ.after (.took frame (.error e)) = some σ₁ ∧ σ₁.after (.called .disconnect (.ok ())) = some σ₂ ∧
      st.Admits σ₂ := by
  obtain ⟨⟨t, rfl⟩, hnone⟩ := hunpaired
  cases st with
  | ready q s d => simp [request, session] at hnone
  | committed q s d => simp [request, session] at hnone
  | home | awaitReady q d =>
    cases σ with
    | clear | dismissed s => exact ⟨_, _, rfl, rfl, trivial⟩
    | _ => exact h.elim
  | active s d =>
    rcases h with rfl | rfl
    · exact ⟨.dismissed s, .dismissed s, rfl, rfl, Or.inr rfl⟩
    · exact ⟨.dismissed s, .dismissed s, rfl, rfl, Or.inr rfl⟩

end Stage

section Settled

variable {ν : Type} {boot : BootId} {localPeerId : String}

/-- **The actions of a step** fit the log. -/
theorem ControllerStep.hands {w w' : World ν} {st st' : Stage} {call : ControllerCall}
    {actions : List ControllerAction}
    {σ : Standing} (hstep : ControllerStep boot localPeerId w st call (.ok actions, st', w'))
    (hcall : ∀ frame nowMs, call ≠ .control frame nowMs) (h : st.Admits σ) : st'.Hands actions σ := by
  cases hstep with
  | stays _ _ _ => exact h
  | pinged => exact ⟨σ, fun _ => rfl, h, h⟩
  | begun _ _ => exact ⟨σ, fun _ => rfl, h, σ, fun _ => rfl, h, h⟩
  | committed _ => exact ⟨_, Standing.after_commit h _ _, rfl, rfl⟩
  | left _ _ _ _ => exact Stage.hands_farewell h _
  | returned _ _ => exact h
  | readied _ => exact absurd rfl (hcall _ _)
  | opened _ => exact absurd rfl (hcall _ _)
  | ackFailed _ _ => exact absurd rfl (hcall _ _)

/-- A frame which is taken fits the log, and so do the actions it leads to. -/
theorem ControllerStep.took {w w' : World ν} {st st' : Stage} {frame : ControlFrame} {nowMs : UInt64}
    {actions : List ControllerAction} {σ : Standing}
    (hstep : ControllerStep boot localPeerId w st (.control frame nowMs) (.ok actions, st', w'))
    (h : st.Admits σ) :
    ∃ σ', σ.after (.took frame (.ok actions)) = some σ' ∧ st'.Hands actions σ' := by
  cases hstep with
  | stays _ _ hack =>
    refine ⟨σ, ?_, h⟩
    cases frame with
    | commitAck s => exact absurd rfl (hack s nowMs)
    | _ => rfl
  | readied _ => exact ⟨σ, rfl, h⟩
  | opened _ => exact ⟨_, if_pos h, _, fun _ => rfl, Or.inl rfl, Or.inl rfl⟩
  | ackFailed _ _ => exact ⟨_, if_pos h, .clear, fun _ => if_pos (Or.inl rfl), trivial, .clear, fun _ => rfl,
      trivial, trivial⟩
  | left _ hcall _ _ => rcases hcall with ⟨_, _, hcall⟩ | ⟨_, hcall⟩ <;> cases hcall

/-! ### Steps -/

/-- The controller is at the stage, the log says so much, and if `L` the gate is local. -/
structure Held (boot : BootId) (localPeerId : String) (L : Prop) (st : Stage) (σ : Standing) (s : ClientSetting) :
    Prop where
  fits : Fits boot localPeerId s.client.runtime st
  gate : L → s.world.gate.isLocal = true
  notes : standing s.world.notes = some σ

/-- The log agrees with the stage. -/
def Settled (boot : BootId) (localPeerId : String) (L : Prop) (st : Stage) (s : ClientSetting) : Prop :=
  ∃ σ, Held boot localPeerId L st σ s ∧ st.Admits σ

/-- What holds of a client between the calls. -/
def Coherent (boot : BootId) (localPeerId : String) (s : ClientSetting) : Prop :=
  ∃ st, Settled boot localPeerId False st s

/-- The controller is at home, and the gate is local. -/
abbrev AtHome (boot : BootId) (localPeerId : String) (s : ClientSetting) : Prop :=
  Settled boot localPeerId True .home s

variable {L : Prop} {st : Stage} {σ σ' : Standing} {s : ClientSetting}
    {E : ControllerClientError → ClientSetting → Prop}

theorem Held.mono (h : Held boot localPeerId L st σ s) {L' : Prop} (hL : L' → L) :
    Held boot localPeerId L' st σ s :=
  ⟨h.fits, fun hl => h.gate (hL hl), h.notes⟩

theorem Settled.coherent (h : Settled boot localPeerId L st s) : Coherent boot localPeerId s :=
  let ⟨σ, hheld, hadmits⟩ := h
  ⟨st, σ, hheld.mono False.elim, hadmits⟩

/-- A note which fits the log. -/
theorem Held.record (h : Held boot localPeerId L st σ s) {w : World ClientNote} (hdrift : s.world.Drifts w)
    {n : ClientNote}
    (hafter : σ.after n = some σ') {client : ControllerClient} (hruntime : client.runtime = s.client.runtime) :
    Held boot localPeerId L st σ' { client, world := w.record (.note n) } := by
  refine ⟨hruntime ▸ h.fits, fun hl => hdrift.isLocal (h.gate hl), ?_⟩
  rw [World.record_notes, hdrift.notes]
  exact standing_cons h.notes hafter

/-- The inbox, the ping and the transport do not matter. -/
theorem Held.client (h : Held boot localPeerId L st σ s) {client : ControllerClient}
    (hruntime : client.runtime = s.client.runtime) : Held boot localPeerId L st σ { s with client } :=
  ⟨hruntime ▸ h.fits, h.gate, h.notes⟩

theorem Settled.client (h : Settled boot localPeerId L st s) {client : ControllerClient}
    (hruntime : client.runtime = s.client.runtime) : Settled boot localPeerId L st { s with client } :=
  let ⟨σ, hheld, hadmits⟩ := h
  ⟨σ, hheld.client hruntime, hadmits⟩

theorem transportCall_held (h : Held boot localPeerId L st σ s) (call : TransportCall)
    (hafter : ∀ answer, σ.after (.called call answer) = some σ') :
    Ensures (transportCall call) s (fun _ s' => Held boot localPeerId L st σ' s') E := by
  apply ensures_act
  dsimp only
  split
  · exact h.record s.world.pass_drifts (hafter _) rfl
  · exact h.record s.world.pass_drifts (hafter _) rfl

theorem disconnect_held (h : Held boot localPeerId L st σ s)
    (hafter : σ.after (.called .disconnect (.ok ())) = some σ') :
    Ensures disconnect s (fun _ s' => Held boot localPeerId L st σ' s' ∧
      s'.world.notes = .called .disconnect (.ok ()) :: s.world.notes) E :=
  ensures_act ⟨h.record s.world.pass_drifts hafter rfl, congrArg _ s.world.pass_drifts.notes⟩

theorem note_held (h : Held boot localPeerId L st σ s) {n : ClientNote} (hafter : σ.after n = some σ') :
    Ensures (note n) s (fun _ s' => Held boot localPeerId L st σ' s' ∧ s'.world.notes = n :: s.world.notes) E :=
  ensures_act ⟨h.record (World.Drifts.refl s.world) hafter rfl, rfl⟩

theorem setNextPing_settled (h : Settled boot localPeerId L st s) (nextPingMs : Option UInt64) :
    Ensures (setNextPing nextPingMs) s (fun _ s' => Settled boot localPeerId L st s') E :=
  ensures_act (h.client rfl)

/-- A call of the controller is a step of the machine of the stages. -/
theorem withRuntime_held (h : Held boot localPeerId L st σ s) (call : ControllerCall) :
    Ensures (withRuntime fun c w => call.exec c w) s (fun answer s' => ∃ st',
      ControllerStep boot localPeerId s.world st call (answer, st', s'.world) ∧
        Held boot localPeerId (s'.world.gate.isLocal = true) st' σ s') E := by
  obtain ⟨st', hstep, hfits⟩ := exec_steps h.fits call s.world
  refine ensures_act ⟨st', hstep, hfits, id, ?_⟩
  exact (congrArg standing hstep.notes).trans h.notes

/-! ### Failing -/

/-- Only the `EndSession` is handed over; closing comes after. -/
theorem sendControls_held (h : Held boot localPeerId L .home σ s) (hadmits : st.Admits σ) (reason : String) :
    Ensures (sendControls (st.farewell reason)) s
      (fun _ s' => ∃ σ', Held boot localPeerId L .home σ' s' ∧ ∀ t, σ' ≠ .acknowledged t) E := by
  cases st with
  | home | awaitReady q d | ready q t d =>
    exact ensures_pure ⟨σ, h, Standing.IsFree.not_acknowledged hadmits⟩
  | committed q t d =>
    obtain rfl : σ = .committed t := hadmits
    exact ensures_pure ⟨_, h, by simp⟩
  | active t d =>
    have hafter : ∀ answer, σ.after (.called (.sendControl (.endSession t reason)) answer) = some .clear :=
      fun _ => if_pos hadmits
    exact (transportCall_held h _ hafter).bind fun _ _ h' => ensures_pure ⟨.clear, h', by simp⟩

theorem disconnect_settled (h : Held boot localPeerId L .home σ s) (hack : ∀ t, σ ≠ .acknowledged t) :
    Ensures disconnect s (fun _ s' => Settled boot localPeerId L .home s') E := by
  obtain ⟨σ', hafter, hfree⟩ := Standing.after_disconnect hack (.ok ())
  exact (disconnect_held h hafter).mono (fun _ _ h' => ⟨σ', h'.1, hfree⟩) fun _ _ he => he

/-- **`failTransport` comes home**, and never fails. -/
theorem failTransport_settled (h : Settled boot localPeerId L st s) :
    Ensures failTransport s (fun _ s' => AtHome boot localPeerId s') E := by
  obtain ⟨σ, hheld, hadmits⟩ := h
  have hclose : ∀ s', (∃ σ', Held boot localPeerId True .home σ' s' ∧ ∀ t, σ' ≠ .acknowledged t) →
      Ensures (do disconnect; setNextPing none) s' (fun _ s'' => AtHome boot localPeerId s'') E := by
    rintro s' ⟨σ', hheld', hack⟩
    exact (disconnect_settled hheld' hack).bind fun _ s'' hhome => setNextPing_settled hhome none
  refine (withRuntime_held hheld (.goLocal .networkFailed)).bind ?_
  rintro answer s' ⟨st', hstep, hheld'⟩
  cases hstep with
  | stays _ hcall _ => exact absurd rfl (hcall _)
  | refused _ _ _ hcall => exact absurd rfl (hcall _)
  | left _ _ _ hgate =>
    exact (sendControls_held (hheld'.mono fun _ => hgate) hadmits _).bind fun _ s'' hfree => hclose s'' hfree
  | returned _ hgate =>
    exact (sendControls_held (hheld'.mono fun _ => hgate) hadmits (returnReason .networkFailed)).bind
      fun _ s'' hfree => hclose s'' hfree

/-- What an operation which fails leaves: the controller is at home, unless the failure strays. -/
def Failed (boot : BootId) (localPeerId : String) (strays : ControllerClientError → ClientSetting → Prop)
    (e : ControllerClientError) (s : ClientSetting) : Prop :=
  AtHome boot localPeerId s ∨ Coherent boot localPeerId s ∧ strays e s

variable {strays : ControllerClientError → ClientSetting → Prop}

theorem Failed.coherent {e : ControllerClientError} (h : Failed boot localPeerId strays e s) :
    Coherent boot localPeerId s :=
  h.elim Settled.coherent And.left

/-- `failTransport`, and then the error. -/
theorem failTransport_throw {α : Type} {Q : α → ClientSetting → Prop} (h : Settled boot localPeerId L st s)
    (e : ControllerClientError) :
    Ensures (do failTransport; throw e : ClientM α) s Q (Failed boot localPeerId strays) :=
  (failTransport_settled h).bind fun _ _ hhome => ensures_throw (Or.inl hhome)

/-! ### Handing over -/

theorem perform_held (h : Held boot localPeerId L st σ s) (action : ControllerAction)
    (hafter : ∀ answer, σ.after (.called action.toCall answer) = some σ') :
    Ensures (perform action) s (fun _ s' => Held boot localPeerId L st σ' s') E := by
  cases action with
  | sendControl frame => exact transportCall_held h _ hafter
  | openInput t => exact transportCall_held h _ hafter
  | closeInput => exact (disconnect_held h (hafter _)).bind fun _ _ h' => ensures_pure h'.1

/-- **Actions which fit the log** are handed over; a transport which refuses one leads home. -/
theorem apply_settled {actions : List ControllerAction} (h : Held boot localPeerId L st σ s)
    (hhands : st.Hands actions σ) :
    Ensures (apply actions) s (fun _ s' => Settled boot localPeerId L st s') (Failed boot localPeerId strays) := by
  induction actions generalizing σ s with
  | nil => exact ensures_pure ⟨σ, h, hhands⟩
  | cons action actions ih =>
    obtain ⟨σ', hafter, hadmits, hrest⟩ := hhands
    refine (perform_held h action hafter).bind fun answer s' h' => ?_
    cases answer with
    | error e => exact failTransport_throw ⟨σ', h', hadmits⟩ _
    | ok u => exact ih h' hrest

/-! ### The ping -/

/-- The ping sequence of the session is exhausted. -/
def Exhausted (e : ControllerClientError) (s : ClientSetting) : Prop :=
  e = .runtime (.protocol (.invalidField "sequence")) ∧ s.client.runtime.handshake.pingSequence = u64Max

/-- Only an exhausted sequence keeps an active controller from pinging. -/
theorem ping_error {c : ControllerRuntime} {e : ControllerRuntimeError} (hactive : c.isActive = true)
    (he : c.ping.1 = .error e) :
    e = .protocol (.invalidField "sequence") ∧ c.ping.2 = c ∧ c.handshake.pingSequence = u64Max := by
  obtain ⟨t, ht⟩ := Option.isSome_iff_exists.mp hactive
  unfold ControllerRuntime.ping ControllerHandshake.ping at he ⊢
  rw [ht] at he ⊢
  dsimp only at he ⊢
  cases hadd : checkedAdd c.handshake.pingSequence 1 with
  | some sequence =>
    rw [hadd] at he
    cases he
  | none =>
    rw [hadd] at he
    refine ⟨(Except.error.inj he).symm, rfl, UInt64.toNat_inj.mp ?_⟩
    have hge := checkedAdd_eq_none.mp hadd
    have hlt := toNat_lt_size c.handshake.pingSequence
    rw [u64Max_toNat]
    rw [UInt64.toNat_one] at hge
    omega

theorem pollPing_coherent (h : Coherent boot localPeerId s) (nowMs : UInt64) :
    Ensures (pollPing nowMs) s (fun _ s' => Coherent boot localPeerId s') (Failed boot localPeerId Exhausted) := by
  obtain ⟨st, hsettled⟩ := h
  apply Ensures.bind_get
  by_cases hactive : s.client.runtime.isActive = true
  · rw [if_neg (by simp [hactive])]
    apply Ensures.bind_act
    split
    · exact ensures_pure ⟨st, hsettled.client rfl⟩
    · obtain ⟨σ, hheld, hadmits⟩ := hsettled
      obtain ⟨st', hstep, hfits⟩ := ping_steps hheld.fits s.world
      apply Ensures.bind_act
      dsimp only
      cases hping : s.client.runtime.ping.1 with
      | error e =>
        obtain ⟨rfl, hsame, hmax⟩ := ping_error hactive hping
        refine ensures_throw (Or.inr ⟨⟨st, σ, hheld.client hsame, hadmits⟩, rfl, ?_⟩)
        exact (congrArg (fun c => c.handshake.pingSequence) hsame).trans hmax
      | ok action =>
        rw [hping] at hstep
        have hheld' : ∀ client : ControllerClient, client.runtime = s.client.runtime.ping.2 →
            Held boot localPeerId False st' σ { s with client } :=
          fun client hc => ⟨by rw [hc]; exact hfits, hheld.gate, hheld.notes⟩
        refine (apply_settled (hheld' _ rfl) (hstep.hands (by simp) hadmits)).bind fun _ s' hs' => ?_
        exact (setNextPing_settled hs' _).mono (fun _ _ hs'' => ⟨st', hs''⟩) fun _ _ he => he
  · rw [if_pos (by simpa using hactive)]
    exact (setNextPing_settled hsettled none).mono (fun _ _ hs' => ⟨st, hs'⟩) fun _ _ he => he

/-! ### The inbox -/

/-- The last frame was a `CommitAck` for which nothing was pending, or the ping sequence is exhausted. -/
def Strays (e : ControllerClientError) (s : ClientSetting) : Prop :=
  (e = .runtime .notActive ∧ ∃ t notes,
    s.world.notes = .called .disconnect (.ok ()) :: .took (.commitAck t) (.error .notActive) :: notes) ∨
  Exhausted e s

theorem Failed.strays_of_exhausted {e : ControllerClientError} (h : Failed boot localPeerId Exhausted e s) :
    Failed boot localPeerId Strays e s :=
  h.imp id fun ⟨hs, he⟩ => ⟨hs, Or.inr he⟩

theorem takeFrame_coherent (h : Coherent boot localPeerId s) (nowMs : UInt64) :
    Ensures (takeFrame nowMs) s (fun _ s' => Coherent boot localPeerId s') (Failed boot localPeerId Strays) := by
  obtain ⟨st, σ, hheld, hadmits⟩ := h
  apply Ensures.bind_act
  unfold tryRecv
  cases s.client.inbound with
  | nil => exact ensures_pure ⟨st, σ, hheld.client rfl, hadmits⟩
  | cons frame rest =>
    have hheld₀ : Held boot localPeerId False st σ { s with client := { s.client with inbound := rest } } :=
      hheld.client rfl
    refine (withRuntime_held hheld₀ (.control frame nowMs)).bind ?_
    rintro answer s' ⟨st', hstep, hheld'⟩
    cases answer with
    | ok actions =>
      obtain ⟨σ', hafter, hhands⟩ := hstep.took hadmits
      refine (note_held hheld' hafter).bind fun _ s'' hs'' => ?_
      exact (apply_settled hs''.1 hhands).bind fun _ s''' hs''' => ensures_pure hs'''.coherent
    | error e =>
      cases hstep with
      | rejected _ hgate =>
        obtain ⟨σ', hafter, hack, -⟩ := σ.after_error frame e
        have hhome' : Held boot localPeerId True .home σ s' := hheld'.mono fun _ => hgate
        refine (note_held hhome' hafter).bind fun _ s'' hs'' => ?_
        exact (disconnect_settled hs''.1 hack).bind fun _ s''' hhome => ensures_throw (Or.inl hhome)
      | refused _ hrefused _ _ =>
        obtain ⟨rfl, hunpaired⟩ := hrefused frame nowMs rfl
        obtain ⟨σ₁, σ₂, hafter₁, hafter₂, hadmits'⟩ := Stage.admits_unpaired hunpaired hadmits .notActive
        refine (note_held hheld' hafter₁).bind fun _ s'' hs'' => ?_
        refine (disconnect_held hs''.1 hafter₂).bind fun _ s''' hs''' => ?_
        have hcoherent : Coherent boot localPeerId s''' := ⟨st, σ₂, hs'''.1.mono False.elim, hadmits'⟩
        refine ensures_throw (Or.inr ⟨hcoherent, ?_⟩)
        obtain ⟨⟨t, rfl⟩, -⟩ := hunpaired
        exact Or.inl ⟨rfl, t, _, hs'''.2.trans (congrArg _ hs''.2)⟩

theorem drainRest_coherent (h : Coherent boot localPeerId s) (nowMs : UInt64) (n : ℕ) :
    Ensures (drainRest nowMs n) s (fun _ s' => Coherent boot localPeerId s') (Failed boot localPeerId Strays) := by
  induction n generalizing s with
  | zero => exact ensures_pure h
  | succ n ih =>
    refine (takeFrame_coherent h nowMs).bind fun more s' h' => ?_
    cases more with
    | false => exact ensures_pure h'
    | true => exact ih h'

/-- Frames which arrive do not matter. -/
theorem foldl_offer_runtime (c : ControllerClient) (frames : List ControlFrame) :
    (frames.foldl offer c).runtime = c.runtime := by
  induction frames generalizing c with
  | nil => rfl
  | cons frame frames ih =>
    rw [List.foldl_cons, ih]
    unfold offer
    split <;> rfl

theorem drain_coherent (h : Coherent boot localPeerId s) (nowMs : UInt64) (arrivals : List (List ControlFrame)) :
    Ensures (drain nowMs arrivals) s (fun _ s' => Coherent boot localPeerId s')
      (Failed boot localPeerId Strays) := by
  induction arrivals generalizing s with
  | nil => exact Ensures.bind_get (drainRest_coherent h nowMs _)
  | cons arrived arrivals ih =>
    obtain ⟨st, hsettled⟩ := h
    have harrived : Settled boot localPeerId False st { s with client := arrived.foldl offer s.client } :=
      hsettled.client (foldl_offer_runtime s.client arrived)
    refine Ensures.bind_act ((takeFrame_coherent harrived.coherent nowMs).bind fun more s' h' => ?_)
    cases more with
    | false => exact ensures_pure h'
    | true => exact ih h'

/-! ### Operations -/

theorem poll_coherent (h : Coherent boot localPeerId s) (nowMs : UInt64) (keysReleased : Bool)
    (arrivals : List (List ControlFrame)) :
    Ensures (poll nowMs keysReleased arrivals) s (fun _ s' => Coherent boot localPeerId s')
      (Failed boot localPeerId Strays) := by
  obtain ⟨st, hsettled⟩ := h
  have hseen : Settled boot localPeerId False st { s with client := { s.client with overflowed := false } } :=
    hsettled.client rfl
  apply Ensures.bind_act
  dsimp only
  split
  · exact (failTransport_settled hseen).bind fun _ _ hhome => ensures_throw_bind (Or.inl hhome)
  · refine (drain_coherent hseen.coherent nowMs arrivals).bind fun _ s' h' => ?_
    obtain ⟨st', σ, hheld, hadmits⟩ := h'
    refine (withRuntime_held hheld (.advance nowMs keysReleased)).bind ?_
    rintro answer s'' ⟨st'', hstep, hheld'⟩
    cases answer with
    | error e =>
      cases hstep with
      | refused _ _ hcall _ => exact absurd rfl (hcall _ _)
    | ok actions =>
      refine (apply_settled hheld' (hstep.hands (by simp) hadmits)).bind fun _ s''' hs''' => ?_
      exact (pollPing_coherent hs'''.coherent nowMs).mono (fun _ _ hs => hs) fun _ _ he => he.strays_of_exhausted

theorem begin_coherent (h : Coherent boot localPeerId s) (target : ControllerTarget) (nowMs : UInt64) :
    Ensures (begin target nowMs) s (fun _ s' => Coherent boot localPeerId s')
      (fun _ s' => Coherent boot localPeerId s') := by
  obtain ⟨st, σ, hheld, hadmits⟩ := h
  have hclear : Held boot localPeerId False st σ
      { s with client := { s.client with overflowed := false, inbound := [], nextPingMs := none } } :=
        hheld.client rfl
  apply Ensures.bind_get
  split
  · exact ensures_throw ⟨st, σ, hheld, hadmits⟩
  rename_i hlocal
  obtain rfl : st = .home := hheld.fits.isLocal_iff.mp (by simpa [canBegin] using hlocal)
  apply Ensures.bind_act
  apply Ensures.bind_act
  refine (transportCall_held hclear (.connect target) fun _ => rfl).bind fun answer s' h' => ?_
  cases answer with
  | error e => exact ensures_throw ⟨.home, σ, h', hadmits⟩
  | ok u =>
    refine (withRuntime_held h' (.begin target.peerId target.targetDisplay target.layoutRevision nowMs)).bind ?_
    rintro answer s'' ⟨st', hstep, hheld'⟩
    cases answer with
    | error e =>
      have hclose : Held boot localPeerId False .home σ s'' →
          Ensures (do disconnect; throw (.runtime e) : ClientM Unit) s'' (fun _ s' => Coherent boot localPeerId s')
            (fun _ s' => Coherent boot localPeerId s') := fun hhome =>
        (disconnect_settled hhome (Standing.IsFree.not_acknowledged hadmits)).bind fun _ _ hs =>
          ensures_throw hs.coherent
      cases hstep with
      | refused _ _ _ _ => exact hclose (hheld'.mono False.elim)
      | failed _ _ _ => exact hclose (hheld'.mono False.elim)
    | ok actions =>
      have happly : Ensures (ControllerClient.apply actions) s'' _ (Failed boot localPeerId Exhausted) :=
        apply_settled hheld' (hstep.hands (by simp) hadmits)
      refine (happly.mono (fun _ _ hs => hs) fun _ _ he => he.coherent).bind fun _ s''' hs''' => ?_
      exact (pollPing_coherent hs'''.coherent nowMs).mono (fun _ _ hs => hs) fun _ _ he => he.coherent

/-- How a stamped frame fails: the stamp changes nothing, and the transport leads home. -/
def NotSent (boot : BootId) (localPeerId : String) (s : ClientSetting) (e : ControllerClientError)
    (s' : ClientSetting) : Prop :=
  (∃ error, e = .transport error) ∧ AtHome boot localPeerId s' ∨ (∃ error, e = .runtime error) ∧ s' = s

theorem sendInput_coherent (h : Coherent boot localPeerId s) (event : CriticalEvent) :
    Ensures (sendInput event) s (fun _ s' => Coherent boot localPeerId s') (NotSent boot localPeerId s) := by
  obtain ⟨st, σ, hheld, hadmits⟩ := h
  obtain ⟨hfits, hsame⟩ := nextInput_fits hheld.fits event
  apply Ensures.bind_act
  dsimp only
  cases hout : (s.client.runtime.nextInput event).1 with
  | error e =>
    rw [hsame e hout]
    exact ensures_throw (Or.inr ⟨⟨e, rfl⟩, rfl⟩)
  | ok frame =>
    have hheld' : Held boot localPeerId False st σ { s with client := { s.client with
      runtime := (s.client.runtime.nextInput event).2 } } := ⟨hfits, hheld.gate, hheld.notes⟩
    refine (transportCall_held hheld' (.sendInput frame) fun _ => rfl).bind fun answer s' h' => ?_
    cases answer with
    | error e => exact (failTransport_settled ⟨σ, h', hadmits⟩).bind fun _ _ hhome =>
        ensures_throw (Or.inl ⟨⟨e, rfl⟩, hhome⟩)
    | ok u => exact ensures_pure ⟨st, σ, h', hadmits⟩

theorem sendMotion_coherent (h : Coherent boot localPeerId s) (x y : Int32) :
    Ensures (sendMotion x y) s (fun _ s' => Coherent boot localPeerId s') (NotSent boot localPeerId s) := by
  obtain ⟨st, σ, hheld, hadmits⟩ := h
  obtain ⟨hfits, hsame⟩ := nextMotion_fits hheld.fits x y
  apply Ensures.bind_act
  dsimp only
  cases hout : (s.client.runtime.nextMotion x y).1 with
  | error e =>
    rw [hsame e hout]
    exact ensures_throw (Or.inr ⟨⟨e, rfl⟩, rfl⟩)
  | ok frame =>
    have hheld' : Held boot localPeerId False st σ { s with client := { s.client with
      runtime := (s.client.runtime.nextMotion x y).2 } } := ⟨hfits, hheld.gate, hheld.notes⟩
    refine (transportCall_held hheld' (.sendMotion frame) fun _ => rfl).bind fun answer s' h' => ?_
    cases answer with
    | error e => exact (failTransport_settled ⟨σ, h', hadmits⟩).bind fun _ _ hhome =>
        ensures_throw (Or.inl ⟨⟨e, rfl⟩, hhome⟩)
    | ok u => exact ensures_pure ⟨st, σ, h', hadmits⟩

theorem goLocal_coherent (h : Coherent boot localPeerId s) (reason : ReturnReason) :
    Ensures (ControllerClient.goLocal reason) s (fun _ s' => AtHome boot localPeerId s')
      (fun _ s' => AtHome boot localPeerId s') := by
  obtain ⟨st, σ, hheld, hadmits⟩ := h
  refine (withRuntime_held hheld (.goLocal reason)).bind ?_
  rintro answer s' ⟨st', hstep, hheld'⟩
  have hhome : st' = .home ∧ s'.world.gate.isLocal = true ∧ ∃ actions, answer = .ok actions := by
    cases hstep with
    | stays _ hcall _ => exact absurd rfl (hcall _)
    | refused _ _ _ hcall => exact absurd rfl (hcall _)
    | left _ _ _ hgate => exact ⟨rfl, hgate, _, rfl⟩
    | returned _ hgate => exact ⟨rfl, hgate, _, rfl⟩
  obtain ⟨rfl, hgate, actions, rfl⟩ := hhome
  have hheld'' : Held boot localPeerId True .home σ s' := hheld'.mono fun _ => hgate
  have happly : Ensures (ControllerClient.apply actions) s' _ (Failed boot localPeerId fun _ _ => False) :=
    apply_settled hheld'' (hstep.hands (by simp) hadmits)
  refine (happly.mono (fun _ _ hs => hs) fun _ _ he => ?_).bind fun _ s'' hs => setNextPing_settled hs none
  exact he.elim id fun hfalse => hfalse.2.elim

/-! ### Runs -/

/-- **Every call keeps the client coherent.** -/
theorem next_coherent (s : ClientSetting) (call : ClientCall) (h : Coherent boot localPeerId s) :
    Coherent boot localPeerId (s.next call) := by
  have hnotSent : ∀ e s', NotSent boot localPeerId s e s' → Coherent boot localPeerId s' := by
    rintro e s' (⟨-, hhome⟩ | ⟨-, rfl⟩)
    · exact hhome.coherent
    · exact h
  cases call with
  | begin target nowMs => exact (begin_coherent h target nowMs).always
  | poll nowMs keysReleased arrivals =>
    exact ((poll_coherent h nowMs keysReleased arrivals).mono (fun _ _ hs => hs) fun _ _ he => he.coherent).always
  | sendInput event => exact ((sendInput_coherent h event).mono (fun _ _ hs => hs) hnotSent).always
  | sendMotion x y => exact ((sendMotion_coherent h x y).mono (fun _ _ hs => hs) hnotSent).always
  | goLocal reason => exact (goLocal_coherent h reason).always.coherent
  | gameMode enabled =>
    obtain ⟨st, σ, hheld, hadmits⟩ := h
    exact ⟨st, σ, ⟨setGameMode_fits hheld.fits enabled, hheld.gate, hheld.notes⟩, hadmits⟩
  | offer frame =>
    obtain ⟨st, hsettled⟩ := h
    exact ⟨st, hsettled.client (foldl_offer_runtime s.client [frame])⟩
  | requestLocal =>
    obtain ⟨st, σ, hheld, hadmits⟩ := h
    exact ⟨st, σ, ⟨hheld.fits, False.elim, hheld.notes⟩, hadmits⟩

theorem newWithOverride_eq_ok {transport : List (Except String Unit)} {client : ControllerClient}
    (hnew : ControllerClient.newWithOverride transport boot localPeerId = .ok client) :
    ∃ c, ControllerRuntime.newWithOverride boot localPeerId = .ok c ∧ client =
      { runtime := c, transport, inbound := [], overflowed := false, nextPingMs := none } := by
  unfold ControllerClient.newWithOverride at hnew
  cases hc : ControllerRuntime.newWithOverride boot localPeerId with
  | error e =>
    rw [hc] at hnew
    cases hnew
  | ok c =>
    rw [hc] at hnew
    exact ⟨c, rfl, (Except.ok.inj hnew).symm⟩

end Settled

end MyKvm.Controller
