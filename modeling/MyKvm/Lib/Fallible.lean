import Mathlib.Data.List.Basic

/-!
# MyKvm.Lib.Fallible — programs whose state outlives their errors

`ExceptT ε (StateM σ)`: a program which fails leaves the state as the failure found it.  `Ensures x s Q E` says
that `x`, started in `s`, ends in a state which satisfies `Q`, or fails in one which satisfies `E`.  One rule for
each way to build a program; what a program does is proved once, as such a statement, and its callers compose the
statements.
-/

namespace MyKvm.Lib

/-- Programs with a state `σ` and errors `ε`. -/
abbrev Fallible (σ ε : Type) := ExceptT ε (StateM σ)

namespace Fallible

variable {σ ε α β : Type}

/-- The program, started in `s`. -/
def exec (x : Fallible σ ε α) (s : σ) : Except ε α × σ := x.run s

/-- A step which cannot fail. -/
def act (f : σ → α × σ) : Fallible σ ε α := ExceptT.lift f

/-- A program which does not touch the state. -/
def lift (x : Except ε α) : Fallible σ ε α := ExceptT.mk fun s => (x, s)

/-- What `x`, started in `s`, returns satisfies `Q`, and how it fails satisfies `E`. -/
def Ensures (x : Fallible σ ε α) (s : σ) (Q : α → σ → Prop) (E : ε → σ → Prop) : Prop :=
  match x.exec s with
  | (.ok a, s') => Q a s'
  | (.error e, s') => E e s'

@[simp] theorem exec_pure (a : α) (s : σ) : (pure a : Fallible σ ε α).exec s = (.ok a, s) := rfl

@[simp] theorem exec_throw (e : ε) (s : σ) : (throw e : Fallible σ ε α).exec s = (.error e, s) := rfl

@[simp] theorem exec_act (f : σ → α × σ) (s : σ) : (act f : Fallible σ ε α).exec s = (.ok (f s).1, (f s).2) := rfl

@[simp] theorem exec_lift (x : Except ε α) (s : σ) : (lift x : Fallible σ ε α).exec s = (x, s) := rfl

@[simp] theorem exec_get (s : σ) : (get : Fallible σ ε σ).exec s = (.ok s, s) := rfl

theorem exec_bind (x : Fallible σ ε α) (f : α → Fallible σ ε β) (s : σ) :
    (x >>= f).exec s = match x.exec s with
      | (.ok a, s') => (f a).exec s'
      | (.error e, s') => (.error e, s') := by
  change (match x.run s with
    | (a, s') => (ExceptT.bindCont f a : StateM σ (Except ε β)) s') = _
  unfold exec
  cases x.run s with
  | mk answer s' => cases answer <;> rfl

section Rules

variable {x : Fallible σ ε α} {s : σ} {Q Q' : α → σ → Prop} {E E' : ε → σ → Prop}

theorem ensures_pure {a : α} (h : Q a s) : Ensures (pure a : Fallible σ ε α) s Q E := h

theorem ensures_throw {e : ε} (h : E e s) : Ensures (throw e : Fallible σ ε α) s Q E := h

theorem ensures_act {f : σ → α × σ} (h : Q (f s).1 (f s).2) : Ensures (act f : Fallible σ ε α) s Q E := h

theorem ensures_lift {y : Except ε α} (hok : ∀ a, y = .ok a → Q a s) (herror : ∀ e, y = .error e → E e s) :
    Ensures (lift y) s Q E := by
  cases y with
  | ok a => exact hok a rfl
  | error e => exact herror e rfl

theorem Ensures.mono (h : Ensures x s Q E) (hQ : ∀ a s', Q a s' → Q' a s') (hE : ∀ e s', E e s' → E' e s') :
    Ensures x s Q' E' := by
  unfold Ensures at h ⊢
  split at h
  · exact hQ _ _ h
  · exact hE _ _ h

/-- **Sequence**: the second program starts where the first one ended. -/
theorem Ensures.bind {f : α → Fallible σ ε β} {R : β → σ → Prop} (h : Ensures x s Q E)
    (hf : ∀ a s', Q a s' → Ensures (f a) s' R E) : Ensures (x >>= f) s R E := by
  unfold Ensures at h ⊢
  rw [exec_bind]
  cases hx : x.exec s with
  | mk answer s' =>
  rw [hx] at h
  cases answer with
  | error e => exact h
  | ok a => exact hf a s' h

/-- What follows a failure is not run. -/
theorem ensures_throw_bind {e : ε} {f : α → Fallible σ ε β} {R : β → σ → Prop} (h : E e s) :
    Ensures (throw e >>= f) s R E := h

/-- What a step which cannot fail is followed by. -/
theorem Ensures.bind_act {g : σ → α × σ} {f : α → Fallible σ ε β} {R : β → σ → Prop}
    (h : Ensures (f (g s).1) (g s).2 R E) : Ensures (act g >>= f) s R E :=
  Ensures.bind (Q := fun a s' => a = (g s).1 ∧ s' = (g s).2) ⟨rfl, rfl⟩ (by rintro a s' ⟨rfl, rfl⟩; exact h)

theorem Ensures.bind_lift {y : Except ε α} {f : α → Fallible σ ε β} {R : β → σ → Prop}
    (hok : ∀ a, y = .ok a → Ensures (f a) s R E) (herror : ∀ e, y = .error e → E e s) :
    Ensures (lift y >>= f) s R E := by
  cases y with
  | ok a => exact hok a rfl
  | error e => exact herror e rfl

theorem Ensures.bind_get {f : σ → Fallible σ ε β} {R : β → σ → Prop} (h : Ensures (f s) s R E) :
    Ensures (get >>= f) s R E :=
  Ensures.bind (Q := fun a s' => a = s ∧ s' = s) ⟨rfl, rfl⟩ (by rintro a s' ⟨rfl, rfl⟩; exact h)

theorem Ensures.ok (h : Ensures x s Q E) {a : α} {s' : σ} (hx : x.exec s = (.ok a, s')) : Q a s' := by
  unfold Ensures at h
  rwa [hx] at h

theorem Ensures.error (h : Ensures x s Q E) {e : ε} (hx : (x.exec s).1 = .error e) : E e (x.exec s).2 := by
  unfold Ensures at h
  split at h
  · rename_i heq
    rw [heq] at hx
    cases hx
  · rename_i heq
    rw [heq] at hx ⊢
    cases hx
    exact h

/-- A program which cannot return fails. -/
theorem Ensures.fails (h : Ensures x s (fun _ _ => False) E) :
    ∃ e, (x.exec s).1 = .error e ∧ E e (x.exec s).2 := by
  unfold Ensures at h
  split at h
  · exact h.elim
  · rename_i heq
    rw [heq]
    exact ⟨_, rfl, h⟩

/-- What holds however the program ends. -/
theorem Ensures.always {I : σ → Prop} (h : Ensures x s (fun _ s' => I s') (fun _ s' => I s')) :
    I (x.exec s).2 := by
  unfold Ensures at h
  split at h
  · rename_i heq
    rwa [heq]
  · rename_i heq
    rwa [heq]

end Rules

/-! ### Invariants -/

/-- However `x` ends, it leaves `I` as it was. -/
def Keeps (I : σ → Prop) (x : Fallible σ ε α) : Prop :=
  ∀ s, I s → Ensures x s (fun _ s' => I s') (fun _ s' => I s')

section Keeping

variable {I : σ → Prop} {x : Fallible σ ε α}

theorem keeps_pure (a : α) : Keeps I (pure a : Fallible σ ε α) := fun _ hs => hs

theorem keeps_throw (e : ε) : Keeps I (throw e : Fallible σ ε α) := fun _ hs => hs

theorem keeps_act {f : σ → α × σ} (h : ∀ s, I s → I (f s).2) : Keeps I (act f : Fallible σ ε α) :=
  fun s hs => h s hs

theorem keeps_get : Keeps I (get : Fallible σ ε σ) := fun _ hs => hs

theorem Keeps.bind {f : α → Fallible σ ε β} (h : Keeps I x) (hf : ∀ a, Keeps I (f a)) : Keeps I (x >>= f) :=
  fun s hs => (h s hs).bind fun a s' hs' => hf a s' hs'

theorem Keeps.exec (h : Keeps I x) {s : σ} (hs : I s) : I (x.exec s).2 := (h s hs).always

end Keeping

end Fallible

end MyKvm.Lib
