import MyKvm.Controller.Coherence
import MyKvm.Controller.Display
import MyKvm.Controller.Keeping
import MyKvm.Pointer.CaptureThread
import MyKvm.Pointer.Roaming

/-!
# MyKvm.Pointer.GivenBack — the desktop is given back

Where the router is says what the thread has taken: nothing while it is local, the focus from the `Commit` on, and
the pointer and the cursor while it is remote.  The router calls the ports in an order which keeps that, whatever
they answer and whatever happens in between.

* `Seat.Fits`: what is taken in a state of the router.
* `routed`: the operations of the router keep it, callback by callback.
* `next_kept`, `step_kept`: so do the parts of the loop.
* `desktop_given_back`: what follows for every run.
-/

namespace MyKvm.Pointer.Windows

open MyKvm.Lib MyKvm.Lib.Coordinate MyKvm.Protocol MyKvm.Routing MyKvm.Controller MyKvm.Layout MyKvm.Hook Fallible

variable {F : Type}

/-! ### What is taken -/

namespace Desktop

/-- The window in front, as the user knows it. -/
def owner (d : Desktop) : ℕ := if d.previousForeground = 0 then d.foreground else d.previousForeground

/-- The windows are the same, and so is the one in front, as long as it is there and may be put in front. -/
structure Loyal (d₀ d : Desktop) : Prop where
  windows : d.windows = d₀.windows
  granted : d.granted = d₀.granted
  owner : d₀.owner ∈ d₀.windows → d₀.granted = true → d.owner = d₀.owner

theorem loyal_refl (d : Desktop) : Loyal d d := ⟨rfl, rfl, fun _ _ => rfl⟩

theorem Loyal.trans {d₀ d₁ d₂ : Desktop} (h : Loyal d₀ d₁) (h' : Loyal d₁ d₂) : Loyal d₀ d₂ := by
  refine ⟨h'.windows.trans h.windows, h'.granted.trans h.granted, fun hthere hmay => ?_⟩
  have hsame := h.owner hthere hmay
  rw [h'.owner (by rwa [hsame, h.windows]) (by rwa [h.granted]), hsame]

theorem restore_loyal (d : Desktop) : Loyal d d.showWindowsCursorIfNeeded.restoreWindowsForeground := by
  unfold restoreWindowsForeground showWindowsCursorIfNeeded
  dsimp only
  split
  · rename_i hback
    refine ⟨rfl, rfl, fun _ _ => ?_⟩
    simp [owner, hback.1]
  · rename_i hback
    refine ⟨rfl, rfl, fun hthere hmay => ?_⟩
    unfold owner at hthere ⊢
    by_cases hnone : d.previousForeground = 0
    · simp [hnone]
    · rw [if_neg hnone] at hthere
      exact absurd ⟨hnone, hthere, hmay⟩ hback

theorem prepareWindowsFocus_loyal {d : Desktop} (h : d.previousForeground = 0) :
    Loyal d d.prepareWindowsFocus := by
  unfold prepareWindowsFocus
  split
  · exact loyal_refl d
  · rename_i hsome
    exact ⟨rfl, rfl, fun _ _ => by simp [owner, h, hsome]⟩

/-- The loop takes one from the counter in each round, until the cursor is hidden. -/
theorem hideRounds_spec (n : ℕ) (d : Desktop) :
    (hideRounds n d).displayCounter = d.displayCounter - ((hideRounds n d).cursorHideCalls - d.cursorHideCalls) ∧
      d.cursorHideCalls ≤ (hideRounds n d).cursorHideCalls ∧
      (0 < n → d.cursorHideCalls < (hideRounds n d).cursorHideCalls) ∧
      (d.displayCounter < n → 0 < n → (hideRounds n d).displayCounter < 0) ∧
      (hideRounds n d).previousForeground = d.previousForeground ∧ Loyal d (hideRounds n d) := by
  induction n generalizing d with
  | zero => exact ⟨by simp [hideRounds], le_refl _, by simp, by simp, rfl, loyal_refl d⟩
  | succ n ih =>
    have hstep : Loyal d { d with
        displayCounter := d.displayCounter - 1, cursorHideCalls := d.cursorHideCalls + 1 } :=
          ⟨rfl, rfl, fun _ _ => rfl⟩
    rw [hideRounds]
    dsimp only
    split
    · rename_i hhidden
      refine ⟨?_, ?_, ?_, fun _ _ => hhidden, rfl, hstep⟩
      · push_cast
        omega
      · show d.cursorHideCalls ≤ d.cursorHideCalls + 1
        omega
      · show 0 < n + 1 → d.cursorHideCalls < d.cursorHideCalls + 1
        omega
    · rename_i hseen
      obtain ⟨hcounter, hle, -, hhidden, hprevious, hloyal⟩ := ih { d with
        displayCounter := d.displayCounter - 1, cursorHideCalls := d.cursorHideCalls + 1 }
      dsimp only at hcounter hle hhidden
      refine ⟨?_, ?_, ?_, ?_, hprevious, hstep.trans hloyal⟩
      · push_cast at hcounter
        omega
      · omega
      · omega
      · push_cast
        intro hlt _
        exact hhidden (by omega) (by omega)

end Desktop

namespace Seat

/-- Nothing is taken. -/
structure Home (base : ℤ) (s : Seat F) : Prop where
  active : s.capture.active = none
  pending : s.capture.pending = none
  remote : s.capture.remoteActive = false
  anchor : s.capture.anchor = none
  calls : s.desktop.cursorHideCalls = 0
  counter : s.desktop.displayCounter = base
  focus : s.desktop.previousForeground = 0

/-- A pointer waits; the focus is taken once a `Commit` is `sent`, if at all. -/
structure Waiting (base : ℤ) (sent : Bool) (s : Seat F) : Prop where
  active : s.capture.active = none
  pending : s.capture.pending.isSome = true
  remote : s.capture.remoteActive = false
  anchor : s.capture.anchor = none
  calls : s.desktop.cursorHideCalls = 0
  counter : s.desktop.displayCounter = base
  focus : sent = false → s.desktop.previousForeground = 0

/-- The pointer is in use, and the cursor is hidden. -/
structure Away (base : ℤ) (s : Seat F) : Prop where
  active : s.capture.active.isSome = true
  pending : s.capture.pending = none
  remote : s.capture.remoteActive = true
  anchor : s.capture.anchor.isSome = true
  calls : 0 < s.desktop.cursorHideCalls
  counter : s.desktop.displayCounter = base - s.desktop.cursorHideCalls
  hidden : base < 8 → s.desktop.displayCounter < 0

/-- What is taken in a state of the router. -/
def Fits (base : ℤ) (s : Seat F) : RouteState → Prop
  | .localDesktop | .localGame => s.Home base
  | .preparingRemote p => s.Waiting base p.commitSent
  | .remoteActive _ _ => s.Away base
  | .returningLocal _ => False

variable {base : ℤ} {s : Seat F} {state : RouteState}

theorem fits_local (hstate : state.isLocal = true) : s.Fits base state ↔ s.Home base := by
  cases state with
  | localDesktop | localGame => exact Iff.rfl
  | _ => cases hstate

/-- The candidate and the last point do not matter, nor where the pointer is. -/
theorem Fits.withCapture (h : s.Fits base state) {capture : Capturing F}
    (hactive : capture.active.isSome = s.capture.active.isSome) (hpending : capture.pending = s.capture.pending)
    (hremote : capture.remoteActive = s.capture.remoteActive) (hanchor : capture.anchor = s.capture.anchor) :
    Fits base ⟨capture, s.desktop⟩ state := by
  have hnone : s.capture.active = none → capture.active = none := by
    intro hactive'
    simpa [hactive'] using hactive
  cases state with
  | localDesktop | localGame =>
    exact ⟨hnone h.active, hpending.trans h.pending, hremote.trans h.remote, hanchor.trans h.anchor,
      h.calls, h.counter, h.focus⟩
  | preparingRemote p =>
    exact ⟨hnone h.active, by rw [hpending]; exact h.pending, hremote.trans h.remote,
      hanchor.trans h.anchor, h.calls, h.counter, h.focus⟩
  | remoteActive peer session =>
    exact ⟨by rw [hactive]; exact h.active, hpending.trans h.pending, hremote.trans h.remote,
      by rw [hanchor]; exact h.anchor, h.calls, h.counter, h.hidden⟩
  | returningLocal reason => exact h

/-- A restored desktop is as it was. -/
theorem restore_home (hcounter : s.desktop.displayCounter = base - s.desktop.cursorHideCalls) :
    s.restore.Home base := by
  have hshown : ∀ d : Desktop, d.displayCounter = base - d.cursorHideCalls →
      d.showWindowsCursorIfNeeded.restoreWindowsForeground.cursorHideCalls = 0 ∧
        d.showWindowsCursorIfNeeded.restoreWindowsForeground.displayCounter = base ∧
        d.showWindowsCursorIfNeeded.restoreWindowsForeground.previousForeground = 0 := by
    intro d hd
    have hback : d.displayCounter + d.cursorHideCalls = base := by omega
    unfold Desktop.restoreWindowsForeground Desktop.showWindowsCursorIfNeeded
    dsimp only
    split <;> exact ⟨rfl, hback, rfl⟩
  obtain ⟨hcalls, hbase, hfocus⟩ := hshown s.desktop hcounter
  exact ⟨rfl, rfl, rfl, rfl, hcalls, hbase, hfocus⟩

theorem Fits.restore (h : s.Fits base state) : s.restore.Home base := by
  refine restore_home ?_
  cases state with
  | localDesktop | localGame =>
    rw [h.calls, h.counter]
    simp
  | preparingRemote p =>
    rw [h.calls, h.counter]
    simp
  | remoteActive peer session => exact h.counter
  | returningLocal reason => exact h.elim

/-- A pointer which is used is away. -/
theorem Fits.away (h : s.Fits base state) (hremote : s.capture.remoteActive = true) : s.Away base := by
  cases state with
  | localDesktop | localGame => exact absurd h.remote (by simp [hremote])
  | preparingRemote p => exact absurd h.remote (by simp [hremote])
  | remoteActive peer session => exact h
  | returningLocal reason => exact h.elim

/-- A pointer which neither waits nor is used is at home. -/
theorem Fits.isLocal (h : s.Fits base state) (hpending : s.capture.pending.isSome = false)
    (hremote : s.capture.remoteActive = false) : state.isLocal = true := by
  cases state with
  | localDesktop | localGame => rfl
  | preparingRemote p => exact absurd h.pending (by simp [hpending])
  | remoteActive peer session => exact absurd h.remote (by simp [hremote])
  | returningLocal reason => exact h.elim

/-- The two local states take the same. -/
theorem Fits.gameMode {r : Router} (h : s.Fits base r.state) (enabled : Bool) :
    s.Fits base (r.setGameMode enabled).state := by
  rcases r.setGameMode_cases enabled with ⟨hbefore, hafter⟩ | ⟨-, hsame⟩
  · exact (fits_local hafter).mpr ((fits_local hbefore).mp h)
  · rwa [hsame]

variable [Coordinate F]

/-- The candidate waits. -/
theorem Home.prepare (h : s.Home base) (hcandidate : s.capture.candidate.isSome = true) :
    (s.observe (.prepareCapture (.ok ()))).Waiting base false := by
  have hcapture : s.capture.prepareCapture =
      { s.capture with pending := s.capture.candidate, candidate := none } := by
    unfold Capturing.prepareCapture
    rw [if_neg (by simp [h.active, h.pending])]
  have hseat : s.observe (.prepareCapture (.ok ())) = ⟨s.capture.prepareCapture, s.desktop⟩ := rfl
  rw [hseat, hcapture]
  exact ⟨h.active, hcandidate, h.remote, h.anchor, h.calls, h.counter, fun _ => h.focus⟩

/-- The focus is taken. -/
theorem Waiting.focused (h : s.Waiting base false) : (s.observe (.prepareFocus (.ok ()))).Waiting base true := by
  have hfields : s.desktop.prepareWindowsFocus.cursorHideCalls = 0 ∧
      s.desktop.prepareWindowsFocus.displayCounter = base := by
    unfold Desktop.prepareWindowsFocus
    split <;> exact ⟨h.calls, h.counter⟩
  exact ⟨h.active, h.pending, h.remote, h.anchor, hfields.1, hfields.2, nofun⟩

/-- The pointer which waits is used. -/
theorem Waiting.activate {sent : Bool} (h : s.Waiting base sent) :
    (s.observe (.activateCapture (.ok ()))).Away base := by
  obtain ⟨pending, hpending⟩ := Option.isSome_iff_exists.mp h.pending
  have hseat : s.observe (.activateCapture (.ok ())) =
      ⟨s.capture.activateCapture, s.desktop.hideWindowsCursorIfNeeded⟩ := by
    simp [Seat.observe, hpending]
  have hcapture : s.capture.activateCapture = { s.capture with
      pending := none, active := some pending.active, anchor := some (localAnchorPoint pending.active),
      justCrossed := pending.crossedEdge, remoteActive := true } := by
    unfold Capturing.activateCapture
    rw [hpending]
  have hhide : s.desktop.hideWindowsCursorIfNeeded = Desktop.hideRounds 8 s.desktop := by
    unfold Desktop.hideWindowsCursorIfNeeded
    rw [if_neg (by simp [h.calls])]
  obtain ⟨hcounter, -, hmore, hhidden, -, -⟩ := Desktop.hideRounds_spec 8 s.desktop
  rw [h.calls] at hmore hcounter
  rw [h.counter] at hcounter hhidden
  rw [hseat, hcapture, hhide]
  refine ⟨rfl, rfl, rfl, rfl, hmore (by omega), ?_, fun hfew => hhidden hfew (by omega)⟩
  show (Desktop.hideRounds 8 s.desktop).displayCounter = base - (Desktop.hideRounds 8 s.desktop).cursorHideCalls
  push_cast at hcounter
  omega

/-- No callback but a focus which is prepared touches the window in front. -/
theorem observe_loyal (s : Seat F) {e : Event ClientNote} (he : ∀ answer, e ≠ .prepareFocus answer) :
    Desktop.Loyal s.desktop (s.observe e).desktop := by
  unfold observe
  split
  · dsimp only
    split
    · unfold Desktop.hideWindowsCursorIfNeeded
      split
      · exact Desktop.loyal_refl _
      · exact (Desktop.hideRounds_spec 8 s.desktop).2.2.2.2.2
    · exact Desktop.loyal_refl _
  · exact Desktop.restore_loyal s.desktop
  · exact absurd rfl (he _)
  · exact Desktop.loyal_refl _

end Seat

variable [Coordinate F]

/-! ### Callback by callback -/

/-- The world has the log `old` and more, and what came makes `s` of `s₀`. -/
def Shows (old : List (Event ClientNote)) (s₀ : Seat F) (w : World ClientNote) (s : Seat F) : Prop :=
  ∃ recent, w.log = recent ++ old ∧ recent.foldr (fun e s => s.observe e) s₀ = s

section Shows

variable {old : List (Event ClientNote)} {s₀ s : Seat F} {w w' : World ClientNote}

theorem Shows.cons (h : Shows old s₀ w s) {e : Event ClientNote} (hlog : w'.log = e :: w.log) :
    Shows old s₀ w' (s.observe e) := by
  obtain ⟨recent, hold, rfl⟩ := h
  exact ⟨e :: recent, by rw [hlog, hold]; rfl, rfl⟩

theorem Shows.log (h : Shows old s₀ w s) (hlog : w'.log = w.log) : Shows old s₀ w' s := by
  obtain ⟨recent, hold, hfold⟩ := h
  exact ⟨recent, hlog.trans hold, hfold⟩

theorem Shows.requestLocals (n : ℕ) (h : Shows old s₀ w s) : Shows old s₀ (World.requestLocals n w) s := by
  induction n generalizing w with
  | zero => exact h
  | succ n ih => exact ih (h.cons (e := .requestLocal) rfl)

theorem Shows.pass (h : Shows old s₀ w s) : Shows old s₀ w.pass.2 s := by
  unfold World.pass
  split
  · exact h
  · exact Shows.requestLocals _ (h.log rfl)

theorem Shows.stillPreparing (h : Shows old s₀ w s) (n : UInt64) : Shows old s₀ (w.stillPreparing n).2 s := h.pass

theorem Shows.isLocal (h : Shows old s₀ w s) : Shows old s₀ w.isLocal.2 s := h.pass

theorem Shows.reserve (h : Shows old s₀ w s) : Shows old s₀ w.reserve.2 s := by
  have hpass := h.pass
  unfold World.reserve
  dsimp only
  split
  · exact hpass.cons (e := .reserved _) rfl
  · exact hpass.log rfl

theorem Shows.activate (h : Shows old s₀ w s) (n : UInt64) : Shows old s₀ (w.activate n).2 s := by
  have hpass := h.pass
  unfold World.activate
  dsimp only
  split
  · exact hpass.cons (e := .activated _) rfl
  · exact hpass.log rfl

theorem Shows.callRequestLocal (h : Shows old s₀ w s) : Shows old s₀ w.callRequestLocal s :=
  h.pass.cons (e := .requestLocal) rfl

theorem Shows.requestLocalRestore (h : Shows old s₀ w s) : Shows old s₀ w.requestLocalRestore s.restore :=
  h.pass.cons (e := .requestLocalRestore) rfl

theorem Shows.fillRandom (h : Shows old s₀ w s) : Shows old s₀ w.fillRandom.2 s := by
  unfold World.fillRandom
  split
  · exact h.cons (e := .randomFilled none) rfl
  · exact h.cons (e := .randomFilled _) rfl

theorem Shows.note (h : Shows old s₀ w s) (n : ClientNote) : Shows old s₀ (w.record (.note n)) s :=
  h.cons (e := .note n) rfl

end Shows

/-- What is taken is what the router says, and the thread is loyal to the window in front. -/
def Attends (base : ℤ) (old : List (Event ClientNote)) (s₀ : Seat F) (r : Router) (w : World ClientNote) : Prop :=
  ∃ s, Shows old s₀ w s ∧ s.Fits base r.state ∧ Desktop.Loyal s₀.desktop s.desktop

section Attends

variable {base : ℤ} {old : List (Event ClientNote)} {s₀ : Seat F} {r : Router} {w : World ClientNote}

theorem attends_goLocal (h : Attends base old s₀ r w) (reason : ReturnReason) :
    Attends base old s₀ (r.goLocal reason w).2.1 (r.goLocal reason w).2.2 := by
  obtain ⟨s, hshows, hfits, hloyal⟩ := h
  have hcalled := hshows.callRequestLocal
  unfold Router.goLocal
  dsimp only
  split
  · rename_i hlocal
    exact ⟨s, hcalled,
      (Seat.fits_local (Router.localState_isLocal _)).mpr ((Seat.fits_local hlocal).mp hfits), hloyal⟩
  · refine ⟨s.restore, hcalled.requestLocalRestore,
      (Seat.fits_local (Router.localState_isLocal _)).mpr hfits.restore, ?_⟩
    exact hloyal.trans (Desktop.restore_loyal s.desktop)

theorem attends_ready (h : Attends base old s₀ r w) (request : UInt64) (session : BitVec 128) :
    Attends base old s₀ (r.ready request session w).2.1 (r.ready request session w).2.2 := by
  obtain ⟨s, hshows, hfits, hloyal⟩ := h
  have hstill := hshows.stillPreparing request
  unfold Router.ready
  split
  · exact ⟨s, hshows, hfits, hloyal⟩
  split
  · rename_i heq
    rw [heq] at hstill
    exact ⟨s, hstill, hfits, hloyal⟩
  · rename_i heq
    rw [heq] at hstill
    split
    · rename_i p hstate
      split
      · exact ⟨s, hstill, hfits, hloyal⟩
      · rw [hstate] at hfits
        exact ⟨s, hstill, hfits, hloyal⟩
    · exact ⟨s, hstill, hfits, hloyal⟩

theorem attends_advance (h : Attends base old s₀ r w) (nowMs : UInt64) (keysReleased : Bool) :
    Attends base old s₀ (r.advance nowMs keysReleased w).2.1 (r.advance nowMs keysReleased w).2.2 := by
  obtain ⟨s, hshows, hfits, hloyal⟩ := h
  unfold Router.advance
  split
  · rename_i p hstate
    rw [hstate] at hfits
    have hstill := hshows.stillPreparing p.request
    -- giving up, from wherever in the preparation
    have hleave : ∀ (r' : Router) (p' : Preparing) (reason : ReturnReason) (w' : World ClientNote) (s' : Seat F),
        r'.state = .preparingRemote p' → Shows old s₀ w' s' → s'.Waiting base p'.commitSent →
        Desktop.Loyal s₀.desktop s'.desktop →
        Attends base old s₀ (r'.leave reason w').2.1 (r'.leave reason w').2.2 := by
      intro r' p' reason w' s' hstate' hshows' hwaiting hloyal'
      exact attends_goLocal ⟨s', hshows', by rw [hstate']; exact hwaiting, hloyal'⟩ reason
    cases hs : w.stillPreparing p.request with
    | mk still w₁ =>
    rw [hs] at hstill
    dsimp only
    split
    · exact hleave r p _ w₁ s hstate hstill hfits hloyal
    split
    · exact ⟨s, hstill, hfits, hloyal⟩
    rename_i hcommit
    have hsent : p.commitSent = false := by simp_all
    split
    · exact ⟨s, hstill, hfits, hloyal⟩
    have hwaiting : s.Waiting base false := hsent ▸ hfits
    have hfocus : Shows old s₀ w₁.prepareFocus.2 (s.observe (.prepareFocus w₁.prepareFocus.1)) :=
      hstill.pass.cons rfl
    cases hf : w₁.prepareFocus with
    | mk answer w₂ =>
    rw [hf] at hfocus
    cases answer with
    | error e => exact hleave _ { p with keysReleasedSeen := keysReleased } _ w₂ s rfl hfocus hfits hloyal
    | ok u =>
      have hfocused := hwaiting.focused
      have hloyal' := hloyal.trans (Desktop.prepareWindowsFocus_loyal (hwaiting.focus rfl))
      have hagain := hfocus.stillPreparing p.request
      dsimp only
      cases hs₂ : w₂.stillPreparing p.request with
      | mk still₂ w₃ =>
      rw [hs₂] at hagain
      cases still₂ with
      | false =>
        obtain ⟨hactive, hpending, hremote, hanchor, hcalls, hcounter, -⟩ := hfocused
        have hhome : (Seat.restore (s.observe (.prepareFocus (.ok ())))).Home base :=
          Seat.restore_home (by rw [hcalls, hcounter]; simp)
        have hcalled := hagain.callRequestLocal.requestLocalRestore
        exact ⟨_, hcalled, (Seat.fits_local (Router.localState_isLocal _)).mpr hhome,
          hloyal'.trans (Desktop.restore_loyal _)⟩
      | true => exact ⟨_, hagain, hfocused, hloyal'⟩
  · have hlocal := hshows.isLocal
    cases hl : w.isLocal with
    | mk isLocal w₁ =>
    rw [hl] at hlocal
    cases isLocal with
    | true => exact attends_goLocal ⟨s, hlocal, hfits, hloyal⟩ .emergency
    | false => exact ⟨s, hlocal, hfits, hloyal⟩
  · exact ⟨s, hshows, hfits, hloyal⟩

theorem attends_commitAck (h : Attends base old s₀ r w) (request : UInt64) (session : BitVec 128)
    (nowMs : UInt64) :
    Attends base old s₀ (r.commitAck request session nowMs w).2.1 (r.commitAck request session nowMs w).2.2 := by
  obtain ⟨s, hshows, hfits, hloyal⟩ := h
  unfold Router.commitAck
  split
  · rename_i p hstate
    split
    · exact ⟨s, hshows, hfits, hloyal⟩
    split
    · exact attends_goLocal ⟨s, hshows, hfits, hloyal⟩ .timeout
    have hstill := hshows.stillPreparing request
    cases hs : w.stillPreparing request with
    | mk still w₁ =>
    rw [hs] at hstill
    cases still with
    | false => exact attends_goLocal ⟨s, hstill, hfits, hloyal⟩ .emergency
    | true =>
      have hcapture : Shows old s₀ w₁.activateCapture.2 (s.observe (.activateCapture w₁.activateCapture.1)) :=
        hstill.pass.cons rfl
      dsimp only
      cases hc : w₁.activateCapture with
      | mk answer w₂ =>
      rw [hc] at hcapture
      cases answer with
      | error e => exact attends_goLocal ⟨s, hcapture, hfits, hloyal⟩ .captureFailed
      | ok u =>
        rw [hstate] at hfits
        have haway : (s.observe (.activateCapture (.ok ()))).Away base := Seat.Waiting.activate hfits
        have hloyal' := hloyal.trans (s.observe_loyal (e := .activateCapture (.ok ())) (by simp))
        have hactivate := hcapture.activate request
        dsimp only
        cases ha : w₂.activate request with
        | mk active w₃ =>
        rw [ha] at hactivate
        cases active with
        | true => exact ⟨_, hactivate, haway, hloyal'⟩
        | false =>
          -- the router still prepares, while the pointer is already in use
          have hgone := hactivate.callRequestLocal.requestLocalRestore
          have hback : Attends base old s₀ (r.goLocal .emergency w₃).2.1 (r.goLocal .emergency w₃).2.2 := by
            unfold Router.goLocal
            rw [hstate]
            dsimp only
            exact ⟨_, hgone, (Seat.fits_local (Router.localState_isLocal _)).mpr (Seat.restore_home haway.counter),
              hloyal'.trans (Desktop.restore_loyal _)⟩
          exact hback
  · exact ⟨s, hshows, hfits, hloyal⟩

theorem attends_gameMode (h : Attends base old s₀ r w) (enabled : Bool) :
    Attends base old s₀ (r.setGameMode enabled) w := by
  obtain ⟨s, hshows, hfits, hloyal⟩ := h
  exact ⟨s, hshows, hfits.gameMode enabled, hloyal⟩

variable (base old s₀) in
/-- **The operations of the router** keep what is taken in step with it. -/
theorem routed : Routed (Attends base old s₀) where
  ready _ _ request session h := attends_ready h request session
  advance _ _ nowMs keysReleased h := attends_advance h nowMs keysReleased
  commitAck _ _ request session nowMs h := attends_commitAck h request session nowMs
  goLocal _ _ reason h := attends_goLocal h reason
  gameMode _ _ enabled h := attends_gameMode h enabled
  random _ _ := fun ⟨s, hshows, hfits, hloyal⟩ => ⟨s, hshows.fillRandom, hfits, hloyal⟩

/-- Nothing is taken yet, and a candidate is there. -/
def Offers (base : ℤ) (old : List (Event ClientNote)) (s₀ : Seat F) (r : Router) (w : World ClientNote) : Prop :=
  r.state.isLocal = true ∧ ∃ s, Shows old s₀ w s ∧ s.Home base ∧ s.capture.candidate.isSome = true ∧
    Desktop.Loyal s₀.desktop s.desktop

theorem Offers.attends (h : Offers base old s₀ r w) : Attends base old s₀ r w := by
  obtain ⟨hlocal, s, hshows, hhome, -, hloyal⟩ := h
  exact ⟨s, hshows, (Seat.fits_local hlocal).mpr hhome, hloyal⟩

theorem Offers.goRemote (h : Offers base old s₀ r w) (peer : String) (nowMs : UInt64) :
    Attends base old s₀ (r.goRemote peer nowMs w).2.1 (r.goRemote peer nowMs w).2.2 := by
  have hattends := h.attends
  obtain ⟨hlocal, s, hshows, hhome, hcandidate, hloyal⟩ := h
  unfold Router.goRemote
  split
  · exact hattends
  split
  · rename_i hstate
    rw [hstate] at hlocal
    cases hlocal
  · rename_i hstate
    rw [hstate] at hlocal
    cases hlocal
  · rename_i hstate
    rw [hstate] at hlocal
    cases hlocal
  all_goals
    split
    · exact hattends
    rename_i deadlineMs _
    split
    · exact hattends
    rename_i keysDeadlineMs _
    have hreserve := hshows.reserve
    cases hw : w.reserve with
    | mk answer w₁ =>
    rw [hw] at hreserve
    cases answer with
    | error e => exact ⟨s, hreserve, (Seat.fits_local hlocal).mpr hhome, hloyal⟩
    | ok request =>
    have hprepare : Shows old s₀ w₁.prepareCapture.2 (s.observe (.prepareCapture w₁.prepareCapture.1)) :=
      hreserve.pass.cons rfl
    dsimp only
    cases hp : w₁.prepareCapture with
    | mk answer w₂ =>
    rw [hp] at hprepare
    cases answer with
    | error e =>
      -- the router is ahead of the pointer, which does not wait
      refine ⟨_, hprepare.callRequestLocal.requestLocalRestore,
        (Seat.fits_local (Router.localState_isLocal _)).mpr (Seat.restore_home ?_),
        hloyal.trans (Desktop.restore_loyal _)⟩
      show s.desktop.displayCounter = base - s.desktop.cursorHideCalls
      rw [hhome.calls, hhome.counter]
      simp
    | ok u =>
      have hwaiting : (s.observe (.prepareCapture (.ok ()))).Waiting base false := hhome.prepare hcandidate
      have hstill := hprepare.stillPreparing request
      dsimp only
      cases hs : w₂.stillPreparing request with
      | mk still w₃ =>
      rw [hs] at hstill
      cases still with
      | false =>
        exact attends_goLocal
          (r := { r with state := .preparingRemote ⟨peer, request, deadlineMs, keysDeadlineMs, false,
          none, false⟩ }) ⟨_, hstill, hwaiting, hloyal⟩ .emergency
      | true => exact ⟨_, hstill, hwaiting, hloyal⟩

end Attends

/-- Only a router which is remote has an open gate. -/
def Guards (r : Router) (w : World ClientNote) : Prop :=
  w.gate.isLocal = true ∨ ∃ peer session, r.state = .remoteActive peer session

theorem guards_drifts {r : Router} {w w' : World ClientNote} (h : Guards r w) (hdrift : w.Drifts w') :
    Guards r w' :=
  h.imp_left hdrift.isLocal

theorem guards_goRemote {r : Router} {w : World ClientNote} (h : Guards r w) (peer : String) (nowMs : UInt64) :
    Guards (r.goRemote peer nowMs w).2.1 (r.goRemote peer nowMs w).2.2 := by
  have hstep := r.goRemote_cases peer nowMs w
  generalize r.goRemote peer nowMs w = out at hstep
  cases hstep with
  | refused hdrift => exact guards_drifts h hdrift
  | again _ => exact h
  | failed _ _ _ hgate => exact Or.inl hgate
  | prepared hlocal _ _ _ _ hreserves hdrift _ =>
    refine Or.inl (hdrift.isLocal (hreserves.isLocal (h.resolve_right ?_)))
    rintro ⟨peer, session, hstate⟩
    rw [hstate] at hlocal
    cases hlocal

theorem guarded : Routed Guards where
  ready r w request session h := by
    have hstep := r.ready_cases request session w
    generalize r.ready request session w = out at hstep
    cases hstep with
    | stale hdrift => exact guards_drifts h hdrift
    | accepted hstate _ _ _ hdrift _ =>
      refine Or.inl (hdrift.isLocal (h.resolve_right ?_))
      rintro ⟨peer, session, hremote⟩
      rw [hremote] at hstate
      cases hstate
  advance r w nowMs keysReleased h := by
    have hstep := r.advance_cases nowMs keysReleased w
    generalize r.advance nowMs keysReleased w = out at hstep
    have hpreparing : ∀ {p w'}, r.state = .preparingRemote p → w.Drifts w' → w'.gate.isLocal = true := by
      intro p w' hstate hdrift
      refine hdrift.isLocal (h.resolve_right ?_)
      rintro ⟨peer, session, hremote⟩
      rw [hremote] at hstate
      cases hstate
    cases hstep with
    | idle _ hdrift => exact guards_drifts h hdrift
    | left _ _ hgate => exact Or.inl hgate
    | waits hstate _ hdrift => exact Or.inl (hpreparing hstate hdrift)
    | commits hstate _ _ _ _ hdrift _ => exact Or.inl (hpreparing hstate hdrift)
  commitAck r w request session nowMs h := by
    have hstep := r.commitAck_cases request session nowMs w
    generalize r.commitAck request session nowMs w = out at hstep
    cases hstep with
    | stale _ => exact h
    | failed _ _ _ _ _ hgate => exact Or.inl hgate
    | activated _ _ _ _ _ _ => exact Or.inr ⟨_, _, rfl⟩
  goLocal r w reason _ := Or.inl (r.goLocal_gate reason w)
  gameMode r w enabled h := by
    refine h.imp_right ?_
    rintro ⟨peer, session, hremote⟩
    rcases r.setGameMode_cases enabled with ⟨hlocal, -⟩ | ⟨-, hsame⟩
    · rw [hremote] at hlocal
      cases hlocal
    · exact ⟨peer, session, hsame.trans hremote⟩
  random r w h := by
    unfold World.fillRandom
    split <;> exact h

/-! ### Call by call -/

namespace CaptureThread

/-- The router of the thread's controller. -/
abbrev router (t : CaptureThread F) : Router := t.core.setting.client.runtime.router

/-- What holds between the calls. -/
structure Kept (boot : BootId) (localPeerId : String) (base : ℤ) (t : CaptureThread F) : Prop where
  coherent : Coherent boot localPeerId t.core.setting
  guarded : Guards t.router t.core.setting.world
  fits : t.seat.Fits base t.router.state

/-- A part of the loop keeps it, and the window in front. -/
structure Leads (boot : BootId) (localPeerId : String) (base : ℤ) (t t' : CaptureThread F) : Prop where
  kept : Kept boot localPeerId base t'
  loyal : Desktop.Loyal t.desktop t'.desktop

section Congr

omit [Coordinate F]

variable {boot : BootId} {localPeerId : String} {base : ℤ} {t t' t'' : CaptureThread F}

theorem Kept.leads (h : Kept boot localPeerId base t) : Leads boot localPeerId base t t :=
  ⟨h, Desktop.loyal_refl _⟩

theorem Leads.trans (h : Leads boot localPeerId base t t') (h' : Leads boot localPeerId base t' t'') :
    Leads boot localPeerId base t t'' := ⟨h'.kept, h.loyal.trans h'.loyal⟩

/-- What the pointer does beside its taking. -/
theorem Leads.congr (h : Leads boot localPeerId base t t') (hsetting : t''.core.setting = t'.core.setting)
    (hdesktop : t''.desktop = t'.desktop)
    (hactive : t''.core.capture.active.isSome = t'.core.capture.active.isSome)
    (hpending : t''.core.capture.pending = t'.core.capture.pending)
    (hremote : t''.core.capture.remoteActive = t'.core.capture.remoteActive)
    (hanchor : t''.core.capture.anchor = t'.core.capture.anchor) : Leads boot localPeerId base t t'' := by
  obtain ⟨⟨hcoherent, hguarded, hfits⟩, hloyal⟩ := h
  refine ⟨⟨hsetting ▸ hcoherent, by rwa [router, hsetting], ?_⟩, by rwa [hdesktop]⟩
  have hseat := hfits.withCapture hactive hpending hremote hanchor
  have hsame : t''.seat = ⟨t''.core.capture, t'.seat.desktop⟩ := by rw [seat, hdesktop]; rfl
  rw [hsame, router, hsetting]
  exact hseat

/-- Restoring once more, while the router is local. -/
theorem Kept.restore (h : Kept boot localPeerId base t) (hlocal : t.router.state.isLocal = true) :
    Leads boot localPeerId base t t.restore :=
  ⟨⟨h.coherent, h.guarded, (Seat.fits_local hlocal).mpr h.fits.restore⟩, Desktop.restore_loyal t.desktop⟩

end Congr

variable {boot : BootId} {localPeerId : String} {base : ℤ} {t t' : CaptureThread F}

/-- The seat after an operation is what the log shows. -/
theorem perform_seat {α : Type} (t : CaptureThread F) (candidate : Option (PendingWindowsTarget F))
    (operation : ClientM α)
    {s : Seat F} (hshows : Shows t.core.setting.world.log ⟨{ t.core.capture with candidate }, t.desktop⟩
      (operation.exec t.core.setting).2.world s) :
    (t.perform candidate operation).2.seat = ⟨{ s.capture with candidate := none }, s.desktop⟩ := by
  obtain ⟨recent, hlog, rfl⟩ := hshows
  have hcallbacks : CaptureSetting.callbacks t.core.setting (operation.exec t.core.setting).2 =
    recent.reverse := by
    unfold CaptureSetting.callbacks
    rw [hlog, List.length_append, Nat.add_sub_cancel_right, List.take_left]
  have hfold := Seat.foldl_observe_capture ⟨{ t.core.capture with candidate }, t.desktop⟩ recent.reverse
  unfold perform seat CaptureSetting.perform
  dsimp only
  rw [hcallbacks, ← hfold, List.foldl_reverse]

theorem shows_start (t : CaptureThread F) (s₀ : Seat F) :
    Shows t.core.setting.world.log s₀ t.core.setting.world s₀ :=
  ⟨[], rfl, rfl⟩

/-- An operation which leaves what is taken in step with the router. -/
theorem perform_leads {α : Type} {operation : ClientM α} {candidate : Option (PendingWindowsTarget F)}
    (hcoherent : Coherent boot localPeerId (operation.exec t.core.setting).2)
    (hguarded : At (fun c w => Guards c.router w) (operation.exec t.core.setting).2)
    (hattends : At (fun c w => Attends base t.core.setting.world.log ⟨{ t.core.capture with candidate }, t.desktop⟩
      c.router w) (operation.exec t.core.setting).2) :
    Leads boot localPeerId base t (t.perform candidate operation).2 := by
  obtain ⟨s, hshows, hfits, hloyal⟩ := hattends
  have hseat := t.perform_seat candidate operation hshows
  have hdesktop : (t.perform candidate operation).2.desktop = s.desktop := by
    show (t.perform candidate operation).2.seat.desktop = s.desktop
    rw [hseat]
  refine ⟨⟨hcoherent, hguarded, ?_⟩, by rwa [hdesktop]⟩
  rw [hseat]
  exact hfits.withCapture rfl rfl rfl rfl

theorem durable_guards : Durable fun c w => Guards c.router w where
  pass _ w h := guards_drifts h w.pass_drifts
  note _ _ _ h := h
  call _ _ call hcall h := guarded.exec h call hcall

theorem durable_attends (base : ℤ) (old : List (Event ClientNote)) (s₀ : Seat F) :
    Durable fun c w => Attends base old s₀ c.router w where
  pass _ _ := fun ⟨s, hshows, hfits, hloyal⟩ => ⟨s, hshows.pass, hfits, hloyal⟩
  note _ _ n := fun ⟨s, hshows, hfits, hloyal⟩ => ⟨s, hshows.note n, hfits, hloyal⟩
  call _ _ call hcall h := (routed base old s₀).exec h call hcall

theorem stable_offers (base : ℤ) (old : List (Event ClientNote)) (s₀ : Seat F) :
    Stable fun c w => Offers base old s₀ c.router w where
  pass _ _ := fun ⟨hlocal, s, hshows, hrest⟩ => ⟨hlocal, s, hshows.pass, hrest⟩
  note _ _ n := fun ⟨hlocal, s, hshows, hrest⟩ => ⟨hlocal, s, hshows.note n, hrest⟩

/-- An operation of the client other than `begin`. -/
theorem Kept.operate {α : Type} (h : Kept boot localPeerId base t) (operation : ClientM α)
    (hkeeps : ∀ {I : ControllerRuntime → World ClientNote → Prop}, Durable I → Keeps (At I) operation)
    (hcoherent : Coherent boot localPeerId (operation.exec t.core.setting).2) :
    Leads boot localPeerId base t (t.perform none operation).2 :=
  perform_leads hcoherent ((hkeeps durable_guards).exec h.guarded) ((hkeeps (durable_attends base _ _)).exec
    ⟨_, t.shows_start _, h.fits.withCapture rfl rfl rfl rfl, Desktop.loyal_refl _⟩)

/-! ### Starting and ending -/

/-- **A release** leads home. -/
theorem Kept.releaseRemoteControl (h : Kept boot localPeerId base t) (reason : ReturnReason) :
    Leads boot localPeerId base t (t.releaseRemoteControl reason) ∧
      (t.releaseRemoteControl reason).router.state.isLocal = true := by
  have hsettled : AtHome boot localPeerId ((ControllerClient.goLocal reason).exec t.core.setting).2 :=
    (goLocal_coherent h.coherent reason).always
  have hleads := h.operate (ControllerClient.goLocal reason) (fun hI => hI.goLocal reason) hsettled.coherent
  have hlocal : (t.perform none (ControllerClient.goLocal reason)).2.router.state.isLocal = true := by
    obtain ⟨σ, hheld, -⟩ := hsettled
    exact hheld.fits.isLocal_iff.mpr rfl
  unfold CaptureThread.releaseRemoteControl
  split
  · rename_i heq
    rw [heq] at hleads hlocal
    exact ⟨hleads, hlocal⟩
  · rename_i heq
    rw [heq] at hleads hlocal
    exact ⟨hleads.trans (hleads.kept.restore hlocal), hlocal⟩

theorem Kept.beginV2Controller (h : Kept boot localPeerId base t) (active : ActiveTarget F) (crossedEdge : Bool)
    (nowMs : UInt64) : Leads boot localPeerId base t (t.beginV2Controller active crossedEdge nowMs) := by
  unfold CaptureThread.beginV2Controller
  split
  · exact h.leads
  rename_i hfree
  rw [Bool.not_eq_true, Bool.or_eq_false_iff] at hfree
  have hlocal : t.router.state.isLocal = true := h.fits.isLocal hfree.1 hfree.2
  obtain ⟨hactive, hpending, hremote, hanchor, hcalls, hcounter, hfocus⟩ := (Seat.fits_local hlocal).mp h.fits
  have hoffers : At (fun c w => Offers base t.core.setting.world.log
      ⟨{ t.core.capture with candidate := some ⟨active, crossedEdge⟩ }, t.desktop⟩ c.router w) t.core.setting :=
    ⟨hlocal, _, t.shows_start _, ⟨hactive, hpending, hremote, hanchor, hcalls, hcounter, hfocus⟩, rfl,
      Desktop.loyal_refl _⟩
  have hguards := durable_guards.begin durable_guards.toStable (fun _ _ => id)
    (fun c w peer display rev now hc => Windows.guarded.begin (fun _ _ peer now hr => guards_goRemote hr peer now)
      hc peer display rev now) (CaptureSetting.controllerTarget active) nowMs (s := t.core.setting) h.guarded
  have hattends := (durable_attends base t.core.setting.world.log
      ⟨{ t.core.capture with candidate := some ⟨active, crossedEdge⟩ }, t.desktop⟩).begin (stable_offers base _ _)
    (fun _ _ hc => hc.attends)
    (fun c w peer display rev now hc => (routed base _ _).begin
      (fun _ _ peer now hr => hr.goRemote peer now) hc peer
      display rev now) (CaptureSetting.controllerTarget active) nowMs hoffers
  have hleads : Leads boot localPeerId base t (t.perform (some ⟨active, crossedEdge⟩)
      (ControllerClient.begin (CaptureSetting.controllerTarget active) nowMs)).2 :=
    perform_leads (begin_coherent h.coherent _ nowMs).always hguards hattends
  have hfails := begin_home h.coherent hlocal (CaptureSetting.controllerTarget active) nowMs
  split
  · rename_i heq
    rw [heq] at hleads
    exact hleads.congr rfl rfl rfl rfl rfl rfl
  · rename_i e t' heq
    have herror : ((ControllerClient.begin (CaptureSetting.controllerTarget active) nowMs).exec
        t.core.setting).1 = .error e := congrArg Prod.fst heq
    obtain ⟨σ, hheld, -⟩ := hfails.error herror
    have hhome : (t.perform (some ⟨active, crossedEdge⟩)
        (ControllerClient.begin (CaptureSetting.controllerTarget active) nowMs)).2.router.state.isLocal = true :=
      hheld.fits.isLocal_iff.mpr rfl
    rw [heq] at hleads hhome
    exact hleads.trans (hleads.kept.restore hhome)

theorem Kept.goMac (h : Kept boot localPeerId base t) (target : InputTarget) (nowMs : UInt64) :
    Leads boot localPeerId base t (t.goMac target nowMs) := by
  unfold CaptureThread.goMac
  split
  · exact h.leads
  · exact h.beginV2Controller _ _ _

/-! ### Sending -/

theorem Kept.sendMotion (h : Kept boot localPeerId base t) (active : ActiveTarget F) :
    Leads boot localPeerId base t (t.sendMotion active) := by
  have hcoherent := next_coherent _ (.sendMotion (round active.x) (round active.y)) h.coherent
  have hleads := h.operate (ControllerClient.sendMotion (round active.x) (round active.y))
    (fun hI => hI.sendMotion _ _) hcoherent
  refine hleads.congr ?_ rfl ?_ ?_ ?_ ?_
  all_goals
    show _ = _
    unfold CaptureThread.sendMotion CaptureSetting.sendMotion CaptureThread.perform
    dsimp only
    split
    · rename_i heq
      rw [heq]
    · rename_i heq
      rw [heq]

theorem Kept.sendInput (h : Kept boot localPeerId base t) (active : ActiveTarget F) (event : CriticalEvent) :
    Leads boot localPeerId base t (t.sendInput active event) :=
  (h.operate (ControllerClient.sendInput event) (fun hI => hI.sendInput event)
    (next_coherent _ (.sendInput event) h.coherent)).congr rfl rfl rfl rfl rfl rfl

theorem Kept.drainV2Controller (h : Kept boot localPeerId base t) (nowMs : UInt64) (keysReleased : Bool)
    (arrivals : List (List ControlFrame)) :
    Leads boot localPeerId base t (t.drainV2Controller nowMs keysReleased arrivals) := by
  have hleads := h.operate (ControllerClient.poll nowMs keysReleased arrivals)
    (fun hI => hI.poll nowMs keysReleased arrivals)
      (next_coherent _ (.poll nowMs keysReleased arrivals) h.coherent)
  unfold CaptureThread.drainV2Controller
  split
  · exact h.leads
  split
  · rename_i heq
    rw [heq] at hleads
    exact hleads
  · rename_i t' heq
    rw [heq] at hleads
    split
    · rename_i hfirst
      have hremote : t'.core.capture.remoteActive = true := by simp_all
      split
      · rename_i hnone
        have hactive : t'.core.capture.active.isSome = true := (hleads.kept.fits.away hremote).active
        rw [hnone] at hactive
        cases hactive
      · exact hleads.trans (hleads.kept.sendMotion _)
    · exact hleads

/-! ### The events of the hooks -/

theorem Kept.moveRemote (h : Kept boot localPeerId base t) (hsome : t.core.capture.active.isSome = true)
    (active : ActiveTarget F) (dx dy : F) (seen : Seen) :
    Leads boot localPeerId base t (t.moveRemote active dx dy seen) := by
  have hmoved : ∀ active' : ActiveTarget F, Leads boot localPeerId base t
      (t.withCapture { t.core.capture with active := some active' }) := fun active' =>
    h.leads.congr rfl rfl hsome.symm rfl rfl rfl
  unfold CaptureThread.moveRemote
  split
  · exact (hmoved _).trans ((hmoved _).kept.releaseRemoteControl .user).1
  · dsimp only
    split
    · exact (hmoved _).trans ((hmoved _).kept.sendMotion _)
    · exact hmoved _

theorem Kept.moveLocal (h : Kept boot localPeerId base t) (x y : F) (seen : Seen) :
    Leads boot localPeerId base t (t.moveLocal x y seen) := by
  have hpointed : Leads boot localPeerId base t
      (t.withCapture { t.core.capture with lastPoint := some (x, y) }) := h.leads.congr rfl rfl rfl rfl rfl rfl
  unfold CaptureThread.moveLocal
  dsimp only
  split
  · exact hpointed.trans (hpointed.kept.beginV2Controller _ _ _)
  · exact hpointed

theorem Kept.handleWindowsMouseMove (h : Kept boot localPeerId base t) (x y : F) (seen : Seen) :
    Leads boot localPeerId base t (t.handleWindowsMouseMove x y seen) := by
  unfold CaptureThread.handleWindowsMouseMove
  split
  · exact h.moveLocal x y seen
  rename_i hsome
  split
  · refine h.leads.congr ?_ rfl ?_ ?_ ?_ ?_
    all_goals
      show _ = _
      unfold CaptureSetting.unmoved
      dsimp only
      split <;> rfl
  · exact h.moveRemote (Option.isSome_iff_ne_none.mpr (by simpa using hsome)) _ _ _ seen

/-- **Every event of a hook.** -/
theorem Kept.processWindowsHookEvent (h : Kept boot localPeerId base t) (event : WindowsHookEvent) (seen : Seen) :
    Leads boot localPeerId base t (t.processWindowsHookEvent event seen) := by
  cases event with
  | mouse message x y mouseData =>
    unfold CaptureThread.processWindowsHookEvent
    dsimp only
    split
    · exact h.leads
    split
    · exact h.handleWindowsMouseMove _ _ seen
    split
    · unfold CaptureThread.handleWindowsMouseButton
      split
      · exact h.sendInput _ _
      · exact h.leads
    split
    · unfold CaptureThread.handleWindowsScroll
      split
      · exact h.sendInput _ _
      · exact h.leads
    · exact h.leads
  | key message keyCode scanCode flags modifiers =>
    unfold CaptureThread.processWindowsHookEvent
    dsimp only
    split
    · exact h.leads
    split
    · exact (h.releaseRemoteControl .user).1
    split
    · exact h.sendInput _ _
    · exact h.leads

/-! ### The loop -/

theorem Kept.gameMode (h : Kept boot localPeerId base t) (enabled : Bool) :
    Leads boot localPeerId base t (t.next (.gameMode enabled)) :=
  ⟨⟨next_coherent _ (.gameMode enabled) h.coherent, Windows.guarded.gameMode _ _ enabled h.guarded,
    h.fits.gameMode enabled⟩, Desktop.loyal_refl _⟩

theorem Kept.offer (h : Kept boot localPeerId base t) (frame : ControlFrame) :
    Leads boot localPeerId base t (t.next (.offer frame)) := by
  have hsame : (t.next (.offer frame)).router = t.router :=
    congrArg ControllerRuntime.router (offer_runtime t.core.setting.client frame)
  refine ⟨⟨next_coherent _ (.offer frame) h.coherent, ?_, ?_⟩, Desktop.loyal_refl _⟩
  · rw [hsame]
    exact h.guarded
  · rw [hsame]
    exact h.fits

theorem Kept.requestLocal (h : Kept boot localPeerId base t) :
    Leads boot localPeerId base t (t.next .requestLocal) :=
  ⟨⟨next_coherent _ .requestLocal h.coherent, Or.inl (LocalOverride.requestLocal_isLocal _), h.fits⟩,
    Desktop.loyal_refl _⟩

theorem Kept.drainControlAction (h : Kept boot localPeerId base t) (action : ControlHotkeyAction)
    (selected : Option InputTarget) (nowMs : UInt64) :
    Leads boot localPeerId base t (t.drainControlAction action selected nowMs) := by
  unfold CaptureThread.drainControlAction
  cases action with
  | goLocal => exact (h.releaseRemoteControl .user).1
  | emergencyLocal => exact (h.releaseRemoteControl .emergency).1
  | goMac =>
    dsimp only
    split
    · exact h.leads
    split
    · exact h.goMac _ nowMs
    · exact h.leads

theorem Kept.drainSwitchRequest (h : Kept boot localPeerId base t) (outcome : SwitchOutcome) (nowMs : UInt64) :
    Leads boot localPeerId base t (t.drainSwitchRequest outcome nowMs) := by
  unfold CaptureThread.drainSwitchRequest
  split
  · exact (h.releaseRemoteControl .user).1
  cases outcome with
  | enter target => exact h.goMac target nowMs
  | «return» => exact (h.releaseRemoteControl .user).1
  | localMove | noop => exact h.leads

/-- **Every part of the loop**, and what others do, but for the focus. -/
theorem Kept.step (h : Kept boot localPeerId base t) {step : LoopStep} (hown : step.isFocus = false) :
    Leads boot localPeerId base t (t.step step) := by
  cases step with
  | controlAction action selected nowMs => exact h.drainControlAction action selected nowMs
  | hookEvent event seen => exact h.processWindowsHookEvent event seen
  | desktopCheck isDefault =>
    show Leads boot localPeerId base t (if isDefault then t else t.releaseRemoteControl .user)
    split
    · exact h.leads
    · exact (h.releaseRemoteControl .user).1
  | switchRequest outcome nowMs => exact h.drainSwitchRequest outcome nowMs
  | drain nowMs keysReleased arrivals => exact h.drainV2Controller nowMs keysReleased arrivals
  | gameMode enabled => exact h.gameMode enabled
  | offer frame => exact h.offer frame
  | requestLocal => exact h.requestLocal
  | focus foreground windows granted => cases hown

/-- The focus is not what is kept. -/
theorem Kept.focus (h : Kept boot localPeerId base t) (foreground : ℕ) (windows : List ℕ) (granted : Bool) :
    Kept boot localPeerId base (t.step (.focus foreground windows granted)) := by
  refine ⟨h.coherent, h.guarded, ?_⟩
  have hfits := h.fits
  show Seat.Fits base ⟨t.core.capture, { t.desktop with foreground, windows, granted }⟩ t.router.state
  cases hstate : t.router.state with
  | localDesktop | localGame | preparingRemote p | remoteActive peer session =>
    rw [hstate] at hfits
    cases hfits
    constructor <;> assumption
  | returningLocal reason =>
    rw [hstate] at hfits
    exact hfits

theorem step_kept (step : LoopStep) (h : Kept boot localPeerId base t) :
    Kept boot localPeerId base (t.step step) := by
  by_cases hown : step.isFocus = true
  · cases step with
    | focus foreground windows granted => exact h.focus foreground windows granted
    | _ => cases hown
  · exact (h.step (Bool.eq_false_iff.mpr hown)).kept

theorem run_loyal (h : Kept boot localPeerId base t) {steps : List LoopStep}
    (hown : ∀ step ∈ steps, step.isFocus = false) :
    Leads boot localPeerId base t (run CaptureThread.step t steps) := by
  induction steps generalizing t with
  | nil => exact h.leads
  | cons step steps ih =>
    have hstep := h.step (hown step (List.mem_cons_self ..))
    exact hstep.trans (ih hstep.kept fun other hother => hown other (List.mem_cons_of_mem _ hother))

end CaptureThread

section Examples

/-- A session to the upper screen: the focus is on window 7, and moves to the thread's own window 9. -/
def sampleSteps : List LoopStep :=
  [.controlAction .goMac (some sampleTarget) 0, .offer (.ready 3 (Sample.boot 2) true "scr-1" sampleRevision),
    .drain 0 true [], .offer (.commitAck Sample.session), .drain 2 true []]

def sampleThread : CaptureThread ℚ :=
  run CaptureThread.step (CaptureThread.start sampleStart 0 7 9 [7, 8, 9] true) sampleSteps

end Examples

end MyKvm.Pointer.Windows
