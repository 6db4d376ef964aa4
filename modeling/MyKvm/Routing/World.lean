import MyKvm.Routing.LocalOverride

/-!
# MyKvm.Routing.World — the outside of the controller

What a controller operation meets outside its own fields: the shared gate, the platform ports and the system's
random generator.  Other threads may call `request_local` at any moment, also while a port callback is running, so
the world carries a script: at every access of the gate and in every callback the outside first takes its turn
(`pass`), in which any number of requests take effect and after which the callback answers.  A theorem about every
script is a theorem about every interleaving and about every port.

The log, newest first, holds every write of the gate, every callback with its answer, and the notes of the layer
above (`ν`).  `Extends w w' recent` says that `w'` is `w` after the events `recent` and that the gate tells the
same story.
-/

namespace MyKvm.Routing

open MyKvm.Lib LocalOverride

/-- The turn of the outside: so many `request_local` calls take effect, and a callback answers. -/
structure Moment where
  requests : ℕ
  answer : PortAnswer
  deriving DecidableEq

/-- What can be seen from outside. -/
inductive Event (ν : Type) where
  | requestLocal
  | reserved (generation : UInt64)
  | activated (generation : UInt64)
  | prepareCapture (answer : PortAnswer)
  | activateCapture (answer : PortAnswer)
  | requestLocalRestore
  | prepareFocus (answer : PortAnswer)
  | randomFilled (bytes : Option (Vector UInt8 16))
  | note (n : ν)
  deriving DecidableEq

structure World (ν : Type) where
  gate : LocalOverride
  moments : List Moment
  entropy : List (Option (Vector UInt8 16))
  log : List (Event ν)
  deriving DecidableEq

namespace World

variable {ν : Type}

def record (w : World ν) (e : Event ν) : World ν := { w with log := e :: w.log }

/-- One `request_local`, by whomever. -/
def requestLocal (w : World ν) : World ν :=
  { w with gate := w.gate.requestLocal, log := .requestLocal :: w.log }

def requestLocals : ℕ → World ν → World ν
  | 0, w => w
  | n + 1, w => requestLocals n w.requestLocal

/-- The outside takes its turn; a script which has run out is quiet and answers `ok`. -/
def pass (w : World ν) : PortAnswer × World ν :=
  match w.moments with
  | [] => (.ok (), w)
  | m :: rest => (m.answer, requestLocals m.requests { w with moments := rest })

/-! ### The gate, as an operation sees it -/

def isLocal (w : World ν) : Bool × World ν :=
  let w := w.pass.2
  (w.gate.isLocal, w)

def stillPreparing (w : World ν) (generation : UInt64) : Bool × World ν :=
  let w := w.pass.2
  (w.gate.stillPreparing generation, w)

def reserve (w : World ν) : Except RouteError UInt64 × World ν :=
  let w := w.pass.2
  match w.gate.reserve with
  | (.ok n, gate) => (.ok n, { w with gate, log := .reserved n :: w.log })
  | (.error e, gate) => (.error e, { w with gate })

def activate (w : World ν) (generation : UInt64) : Bool × World ν :=
  let w := w.pass.2
  match w.gate.activate generation with
  | (true, gate) => (true, { w with gate, log := .activated generation :: w.log })
  | (false, gate) => (false, { w with gate })

/-- The operation's own `request_local`. -/
def callRequestLocal (w : World ν) : World ν := w.pass.2.requestLocal

/-! ### The ports -/

def prepareCapture (w : World ν) : PortAnswer × World ν :=
  let (answer, w) := w.pass
  (answer, w.record (.prepareCapture answer))

def activateCapture (w : World ν) : PortAnswer × World ν :=
  let (answer, w) := w.pass
  (answer, w.record (.activateCapture answer))

def requestLocalRestore (w : World ν) : World ν := w.pass.2.record .requestLocalRestore

def prepareFocus (w : World ν) : PortAnswer × World ν :=
  let (answer, w) := w.pass
  (answer, w.record (.prepareFocus answer))

/-- `SystemRandom::fill` of sixteen bytes; a script which has run out fails. -/
def fillRandom (w : World ν) : Option (Vector UInt8 16) × World ν :=
  match w.entropy with
  | [] => (none, w.record (.randomFilled none))
  | bytes :: rest => (bytes, { w with entropy := rest }.record (.randomFilled bytes))

end World

/-! ### The log tells the story of the gate -/

namespace Event

variable {ν : Type}

/-- The write of the gate which an event stands for. -/
def toCall : Event ν → Option GateCall
  | .requestLocal => some .requestLocal
  | .reserved _ => some .reserve
  | .activated n => some (.activate n)
  | _ => none

def toNote : Event ν → Option ν
  | .note n => some n
  | _ => none

/-- The events which leave the gate alone. -/
def IsQuiet (e : Event ν) : Prop := e.toCall = none

/-- The requests, the callbacks and the draws: they never open the gate, and are no notes. -/
def IsHarmless : Event ν → Prop
  | .reserved _ | .activated _ | .note _ => False
  | _ => True

end Event

section Story

variable {ν : Type}

/-- The gate calls of a log, first to last. -/
def calls (log : List (Event ν)) : List GateCall := log.reverse.filterMap Event.toCall

theorem calls_append (recent old : List (Event ν)) : calls (recent ++ old) = calls old ++ calls recent := by
  simp [calls]

theorem calls_cons (e : Event ν) (log : List (Event ν)) : calls (e :: log) = calls log ++ calls [e] :=
  calls_append [e] log

theorem calls_cons_quiet {e : Event ν} (he : e.IsQuiet) (log : List (Event ν)) : calls (e :: log) = calls log := by
  unfold Event.IsQuiet at he
  simp [calls, he]

/-- Every reservation in the log was returned by the gate at that point, and every activation succeeded. -/
def Truthful (g : LocalOverride) : List (Event ν) → Prop
  | [] => True
  | e :: log => Truthful g log ∧ (∀ n, e = .reserved n → Returns g (calls log) n) ∧
      ∀ n, e = .activated n → ((run call g (calls log)).activate n).1 = true

theorem truthful_append (g : LocalOverride) (recent old : List (Event ν)) :
    Truthful g (recent ++ old) ↔ Truthful g old ∧ Truthful (run call g (calls old)) recent := by
  induction recent with
  | nil => simp [Truthful]
  | cons e recent ih =>
    simp only [List.cons_append, Truthful, ih, Returns, calls_append, run_append]
    tauto

theorem truthful_cons_quiet {g : LocalOverride} {e : Event ν} (he : e.IsQuiet) {log : List (Event ν)}
    (h : Truthful g log) : Truthful g (e :: log) := by
  refine ⟨h, ?_, ?_⟩ <;> rintro n rfl <;> cases he

/-- A reservation whose generation the gate still holds has seen no `request_local` since. -/
theorem not_mem_requestLocal_of_current {g : LocalOverride} {recent old : List (Event ν)} {n : UInt64}
    (h : Truthful g (recent ++ .reserved n :: old))
    (hword : (run call g (calls (recent ++ .reserved n :: old))).word = n) : Event.requestLocal ∉ recent := by
  intro hmem
  have hret : Returns g (calls old) n := ((truthful_append g recent (.reserved n :: old)).mp h).1.2.1 n rfl
  have hcalls : calls (recent ++ .reserved n :: old) = calls old ++ .reserve :: calls recent := by
    rw [calls_append, calls_cons (.reserved n)]
    simp [calls, Event.toCall]
  rw [hcalls] at hword
  refine not_mem_requestLocal_of_word hret hword ?_
  simp only [calls, List.mem_filterMap, List.mem_reverse]
  exact ⟨_, hmem, rfl⟩

/-- A log without activations leaves a local gate local. -/
theorem isLocal_run_of_not_activated {g : LocalOverride} {log : List (Event ν)} (hg : g.isLocal = true)
    (h : ∀ n, .activated n ∉ log) : (run call g (calls log)).isLocal = true := by
  induction log with
  | nil => exact hg
  | cons e log ih =>
    have hold := ih (fun n hn => h n (List.mem_cons_of_mem _ hn))
    by_contra hrem
    rw [calls_cons, run_append] at hrem
    cases e with
    | activated n => exact h n List.mem_cons_self
    | requestLocal =>
      obtain ⟨n, hc, -⟩ := call_clears (c := .requestLocal) hold (by simpa [calls, Event.toCall] using hrem)
      cases hc
    | reserved n =>
      obtain ⟨n, hc, -⟩ := call_clears (c := .reserve) hold (by simpa [calls, Event.toCall] using hrem)
      cases hc
    -- the other events leave the gate alone
    | _ => exact hrem hold

/-- A log whose newest gate write is a `request_local` leaves the gate local. -/
theorem isLocal_run_of_mem {g : LocalOverride} {log : List (Event ν)} (h : .requestLocal ∈ log)
    (hact : ∀ n, .activated n ∉ log) : (run call g (calls log)).isLocal = true := by
  obtain ⟨recent, old, rfl⟩ := List.append_of_mem h
  rw [calls_append, run_append]
  refine isLocal_run_of_not_activated ?_ (fun n hn => hact n (List.mem_append_left _ hn))
  rw [calls_cons, run_append]
  simp [calls, Event.toCall, call]

end Story

namespace World

variable {ν : Type}

/-- `w'` is `w` after the events `recent`, and the gate moved accordingly. -/
structure Extends (w w' : World ν) (recent : List (Event ν)) : Prop where
  log : w'.log = recent ++ w.log
  gate : w'.gate = run call w.gate (calls recent)
  truthful : Truthful w.gate recent

theorem Extends.refl (w : World ν) : Extends w w [] := ⟨rfl, rfl, trivial⟩

theorem Extends.trans {w w' w'' : World ν} {a b : List (Event ν)} (h : Extends w w' a) (h' : Extends w' w'' b) :
    Extends w w'' (b ++ a) := by
  refine ⟨by rw [h'.log, h.log, List.append_assoc], ?_, ?_⟩
  · rw [h'.gate, h.gate, calls_append, run_append]
  · rw [truthful_append, ← h.gate]
    exact ⟨h.truthful, h'.truthful⟩

theorem record_extends (w : World ν) {e : Event ν} (he : e.IsQuiet) : Extends w (w.record e) [e] := by
  refine ⟨rfl, ?_, truthful_cons_quiet he trivial⟩
  rw [calls_cons_quiet he]
  rfl

theorem requestLocal_extends (w : World ν) : Extends w w.requestLocal [.requestLocal] :=
  ⟨rfl, rfl, trivial, by simp, by simp⟩

/-- A world whose log, from the gate `g` on, is its whole story. -/
structure Tells (g : LocalOverride) (w : World ν) : Prop where
  gate : w.gate = run call g (calls w.log)
  truthful : Truthful g w.log

theorem Tells.extends {g : LocalOverride} {w w' : World ν} {recent : List (Event ν)} (h : Tells g w)
    (h' : Extends w w' recent) : Tells g w' := by
  refine ⟨?_, ?_⟩
  · rw [h'.gate, h'.log, h.gate, calls_append, run_append]
  · rw [h'.log, truthful_append, ← h.gate]
    exact ⟨h.truthful, h'.truthful⟩

/-- A fresh log at the gate `g`. -/
def start (g : LocalOverride) (moments : List Moment) (entropy : List (Option (Vector UInt8 16))) : World ν :=
  { gate := g, moments, entropy, log := [] }

theorem start_tells (g : LocalOverride) (moments : List Moment) (entropy : List (Option (Vector UInt8 16))) :
    Tells g (start g moments entropy : World ν) := ⟨rfl, trivial⟩

/-! ### Drifting: requests, callbacks and draws only -/

def Harmless (recent : List (Event ν)) : Prop := ∀ e ∈ recent, e.IsHarmless

theorem Harmless.append {a b : List (Event ν)} (ha : Harmless a) (hb : Harmless b) : Harmless (a ++ b) := by
  intro e he
  rcases List.mem_append.mp he with he | he
  · exact ha e he
  · exact hb e he

theorem Harmless.not_activated {recent : List (Event ν)} (h : Harmless recent) (n : UInt64) :
    .activated n ∉ recent := fun hn => h _ hn

/-- `w'` is `w` after requests, callbacks and draws. -/
def Drifts (w w' : World ν) : Prop := ∃ recent, Harmless recent ∧ Extends w w' recent

theorem Drifts.refl (w : World ν) : Drifts w w := ⟨[], by simp [Harmless], Extends.refl w⟩

theorem Drifts.trans {w w' w'' : World ν} (h : Drifts w w') (h' : Drifts w' w'') : Drifts w w'' := by
  obtain ⟨a, ha, hext⟩ := h
  obtain ⟨b, hb, hext'⟩ := h'
  exact ⟨b ++ a, hb.append ha, hext.trans hext'⟩

/-- A local gate stays local while the world drifts. -/
theorem Drifts.isLocal {w w' : World ν} (h : Drifts w w') (hloc : w.gate.isLocal = true) :
    w'.gate.isLocal = true := by
  obtain ⟨recent, hharm, hext⟩ := h
  rw [hext.gate]
  exact isLocal_run_of_not_activated hloc hharm.not_activated

theorem requestLocal_drifts (w : World ν) : Drifts w w.requestLocal := by
  refine ⟨[.requestLocal], ?_, w.requestLocal_extends⟩
  simp [Harmless, Event.IsHarmless]

theorem requestLocals_drifts (n : ℕ) (w : World ν) : Drifts w (requestLocals n w) := by
  induction n generalizing w with
  | zero => exact Drifts.refl w
  | succ n ih => exact w.requestLocal_drifts.trans (ih w.requestLocal)

/-- **A turn of the outside** is a drift. -/
theorem pass_drifts (w : World ν) : Drifts w w.pass.2 := by
  unfold pass
  split
  · exact Drifts.refl w
  · rename_i m rest _
    obtain ⟨recent, hharm, hext⟩ := requestLocals_drifts m.requests { w with moments := rest }
    exact ⟨recent, hharm, hext.log, hext.gate, hext.truthful⟩

theorem record_drifts (w : World ν) {e : Event ν} (he : e.IsHarmless) (hq : e.IsQuiet) : Drifts w (w.record e) :=
  ⟨[e], by simpa [Harmless] using he, w.record_extends hq⟩

theorem isLocal_drifts (w : World ν) : Drifts w w.isLocal.2 := w.pass_drifts

theorem stillPreparing_drifts (w : World ν) (n : UInt64) : Drifts w (w.stillPreparing n).2 := w.pass_drifts

theorem prepareCapture_drifts (w : World ν) : Drifts w w.prepareCapture.2 :=
  w.pass_drifts.trans (w.pass.2.record_drifts trivial rfl)

theorem prepareFocus_drifts (w : World ν) : Drifts w w.prepareFocus.2 :=
  w.pass_drifts.trans (w.pass.2.record_drifts trivial rfl)

theorem activateCapture_drifts (w : World ν) : Drifts w w.activateCapture.2 :=
  w.pass_drifts.trans (w.pass.2.record_drifts trivial rfl)

theorem requestLocalRestore_drifts (w : World ν) : Drifts w w.requestLocalRestore :=
  w.pass_drifts.trans (w.pass.2.record_drifts trivial rfl)

theorem callRequestLocal_drifts (w : World ν) : Drifts w w.callRequestLocal :=
  w.pass_drifts.trans w.pass.2.requestLocal_drifts

/-- `w'` is `w` after a drift in which `bytes` was drawn. -/
def Draws (bytes : Vector UInt8 16) (w w' : World ν) : Prop :=
  ∃ recent, Harmless recent ∧ .randomFilled (some bytes) ∈ recent ∧ Extends w w' recent

theorem fillRandom_draws {w w' : World ν} {bytes : Option (Vector UInt8 16)} (h : w.fillRandom = (bytes, w')) :
    Extends w w' [.randomFilled bytes] := by
  unfold fillRandom at h
  split at h
  · obtain ⟨rfl, rfl⟩ := Prod.mk.inj h
    exact w.record_extends rfl
  · rename_i drawn rest _
    obtain ⟨rfl, rfl⟩ := Prod.mk.inj h
    have hext := ({ w with entropy := rest } : World ν).record_extends (e := .randomFilled drawn) rfl
    exact ⟨hext.log, hext.gate, hext.truthful⟩

theorem Draws.drifts {bytes : Vector UInt8 16} {w w' : World ν} (h : Draws bytes w w') : Drifts w w' :=
  let ⟨recent, hharm, _, hext⟩ := h
  ⟨recent, hharm, hext⟩

theorem Draws.trans_drifts {bytes : Vector UInt8 16} {w w' w'' : World ν} (h : Draws bytes w w')
    (h' : Drifts w' w'') :
    Draws bytes w w'' := by
  obtain ⟨a, ha, hmem, hext⟩ := h
  obtain ⟨b, hb, hext'⟩ := h'
  exact ⟨b ++ a, hb.append ha, List.mem_append_right _ hmem, hext.trans hext'⟩

@[simp] theorem callRequestLocal_isLocal (w : World ν) : w.callRequestLocal.gate.isLocal = true :=
  w.pass.2.gate.requestLocal_isLocal

/-! ### The accesses which decide -/

/-- The answer of a query is read off the gate as it leaves it. -/
theorem stillPreparing_eq (w : World ν) (n : UInt64) :
    (w.stillPreparing n).1 = decide ((w.stillPreparing n).2.gate.word = n) := by
  simp [stillPreparing, LocalOverride.stillPreparing, beq_eq_decide]

/-- `w'` is `w` after a drift and the reservation of `n`. -/
def Reserves (n : UInt64) (w w' : World ν) : Prop :=
  ∃ recent, Harmless recent ∧ Extends w w' (.reserved n :: recent)

theorem Reserves.isLocal {n : UInt64} {w w' : World ν} (h : Reserves n w w') (hloc : w.gate.isLocal = true) :
    w'.gate.isLocal = true := by
  obtain ⟨recent, hharm, hext⟩ := h
  rw [hext.gate]
  refine isLocal_run_of_not_activated hloc ?_
  intro m hm
  rcases List.mem_cons.mp hm with hm | hm
  · cases hm
  · exact hharm.not_activated m hm

/-- A reservation drifts and then is refused, or drifts and then takes the next generation. -/
theorem reserve_cases (w : World ν) :
    (w.reserve.1 = .error .exhausted ∧ Drifts w w.reserve.2) ∨
      ∃ n, w.reserve.1 = .ok n ∧ Reserves n w w.reserve.2 := by
  have hdrift := w.pass_drifts
  unfold reserve
  dsimp only
  rcases w.pass.2.gate.reserve_cases with ⟨hres, -⟩ | ⟨n, hres, hn, -⟩
  · rw [hres]
    exact Or.inl ⟨rfl, hdrift⟩
  · rw [hres]
    obtain ⟨recent, hharm, hext⟩ := hdrift
    refine Or.inr ⟨n, rfl, recent, hharm, ?_, ?_, hext.truthful, ?_, by simp⟩
    · simp [hext.log]
    · rw [calls_cons, run_append, ← hext.gate]
      simp [calls, Event.toCall, call, hres]
    · rintro m hm
      cases hm
      rw [Returns, ← hext.gate, hres]

/-- `w'` is `w` after a drift with an active capture in it, and the activation of `n`. -/
def Captures (n : UInt64) (w w' : World ν) : Prop :=
  ∃ recent, Harmless recent ∧ .activateCapture (.ok ()) ∈ recent ∧ Extends w w' (.activated n :: recent) ∧
    (run call w.gate (calls recent)).word = n

/-- After an active capture, the activation drifts and fails, or drifts and opens the gate of `n`. -/
theorem activate_cases {w₀ w₁ : World ν} (h₀ : Drifts w₀ w₁) {w : World ν}
    (hcap : w₁.activateCapture = (.ok (), w)) (n : UInt64) :
    ((w.activate n).1 = false ∧ Drifts w₀ (w.activate n).2) ∨
      ((w.activate n).1 = true ∧ Captures n w₀ (w.activate n).2) := by
  obtain ⟨a, ha, hmem, hext⟩ : ∃ a, Harmless a ∧ .activateCapture (.ok ()) ∈ a ∧ Extends w₀ w a := by
    obtain ⟨a, ha, hext⟩ := h₀.trans w₁.pass_drifts
    have hw : w = w₁.pass.2.record (.activateCapture (.ok ())) := by
      unfold activateCapture at hcap
      cases hp : w₁.pass with
      | mk answer w₂ =>
        simp only [hp, Prod.mk.injEq] at hcap
        rw [← hcap.2, hcap.1]
    rw [hw]
    refine ⟨[.activateCapture (.ok ())] ++ a, Harmless.append ?_ ha, List.mem_append_left _ (by simp),
      hext.trans (w₁.pass.2.record_extends (e := .activateCapture (.ok ())) rfl)⟩
    simp [Harmless, Event.IsHarmless]
  obtain ⟨b, hb, hext'⟩ := w.pass_drifts
  have hboth := hext.trans hext'
  have hgate := hboth.gate
  unfold activate
  dsimp only
  rcases w.pass.2.gate.activate_cases n with hact | ⟨hword, hact, -, -⟩
  · rw [hact]
    exact Or.inl ⟨rfl, b ++ a, hb.append ha, hboth⟩
  · rw [hact]
    refine Or.inr ⟨rfl, b ++ a, hb.append ha, List.mem_append_right _ hmem,
      ⟨?_, ?_, hboth.truthful, by simp, ?_⟩, ?_⟩
    · simp [hboth.log]
    · rw [calls_cons, run_append, ← hgate]
      simp [calls, Event.toCall, call, hact]
    · rintro m hm
      cases hm
      rw [← hgate, hact]
    · rw [← hgate, hword]

/-! ### Generations -/

theorem Extends.generation_le {w w' : World ν} {recent : List (Event ν)} (h : Extends w w' recent) :
    w.gate.generation ≤ w'.gate.generation := by
  rw [h.gate]
  exact run_generation_le _ _

theorem Drifts.generation_le {w w' : World ν} (h : Drifts w w') : w.gate.generation ≤ w'.gate.generation :=
  let ⟨_, _, hext⟩ := h
  hext.generation_le

theorem Captures.generation_le {n : UInt64} {w w' : World ν} (h : Captures n w w') :
    w.gate.generation ≤ w'.gate.generation :=
  let ⟨_, _, _, hext, _⟩ := h
  hext.generation_le

/-- **A reservation is fresh**: its generation has not been reached before. -/
theorem Reserves.fresh {n : UInt64} {w w' : World ν} (h : Reserves n w w') :
    w.gate.generation < n.toNat / 2 ∧ n.toNat / 2 ≤ w'.gate.generation := by
  obtain ⟨recent, hharm, hext⟩ := h
  have hreturns : Returns w.gate (calls recent) n := hext.truthful.2.1 n rfl
  have hle := w.gate.run_generation_le (calls recent)
  have hgate : w'.gate = (run call w.gate (calls recent)).call .reserve := by
    rw [hext.gate, calls_cons, run_append]
    rfl
  rcases (run call w.gate (calls recent)).reserve_cases with ⟨hres, -⟩ | ⟨m, hres, hm, -⟩
  · simp [Returns, hres] at hreturns
  · obtain rfl : m = n := by simpa [Returns, hres] using hreturns
    have hgeneration : w'.gate.generation = m.toNat / 2 := by
      rw [hgate, call, hres]
      rfl
    omega

/-! ### Notes -/

/-- The notes in the log, newest first. -/
def notes (w : World ν) : List ν := w.log.filterMap Event.toNote

@[simp] theorem record_notes (w : World ν) (n : ν) : (w.record (.note n)).notes = n :: w.notes := rfl

theorem Extends.notes {w w' : World ν} {recent : List (Event ν)} (h : Extends w w' recent)
    (hnone : ∀ n, .note n ∉ recent) : w'.notes = w.notes := by
  have hrecent : recent.filterMap Event.toNote = [] := by
    rw [List.filterMap_eq_nil_iff]
    intro e he
    cases e with
    | note n => exact absurd he (hnone n)
    | _ => rfl
  rw [World.notes, h.log, List.filterMap_append, hrecent]
  rfl

theorem Harmless.not_note {recent : List (Event ν)} (h : Harmless recent) (n : ν) : .note n ∉ recent :=
  fun hn => h _ hn

theorem Drifts.notes {w w' : World ν} (h : Drifts w w') : w'.notes = w.notes :=
  let ⟨_, hharm, hext⟩ := h
  hext.notes hharm.not_note

theorem Reserves.notes {n : UInt64} {w w' : World ν} (h : Reserves n w w') : w'.notes = w.notes :=
  let ⟨_, hharm, hext⟩ := h
  hext.notes fun m hm => by
    rcases List.mem_cons.mp hm with hm | hm
    · cases hm
    · exact hharm.not_note m hm

theorem Captures.notes {n : UInt64} {w w' : World ν} (h : Captures n w w') : w'.notes = w.notes :=
  let ⟨_, hharm, _, hext, _⟩ := h
  hext.notes fun m hm => by
    rcases List.mem_cons.mp hm with hm | hm
    · cases hm
    · exact hharm.not_note m hm

end World

end MyKvm.Routing
