import MyKvm.ControlPorts
import MyKvm.Lib.Word
import MyKvm.Lib.Epoch

/-!
# MyKvm.Routing.LocalOverride — the emergency gate

One 64-bit word holds the cancellation generation and, in its lowest bit, whether input is local.  `requestLocal`,
`reserve` and `activate` are single atomic read-modify-writes, so an interleaving of any number of threads is a
list of `GateCall`s.

The word is an epoch gate (`MyKvm.Lib.Epoch`): the generation is the word without its lowest bit, the gate is open
when the bit is clear, `requestLocal` cancels, `reserve` reserves and a successful `activate` commits
(`call_simulates`).  The ceiling is the last generation of the range.
-/

namespace MyKvm.Routing

open MyKvm.Lib

/-- Why the router refused. -/
inductive RouteError where
  | invalidPeer
  | busy
  | staleReply
  | exhausted
  | capture (error : PortError)
  | cancelled
  deriving DecidableEq, Repr

/-- The shared word. -/
structure LocalOverride where
  word : UInt64
  deriving DecidableEq, Repr

namespace LocalOverride

instance : Inhabited LocalOverride := ⟨⟨1⟩⟩

def isLocal (g : LocalOverride) : Bool := g.word &&& 1 != 0

/-- `AtomicU64::fetch_update`: replaces the word where `f` gives a new one, and returns the previous word. -/
def fetchUpdate (g : LocalOverride) (f : UInt64 → Option UInt64) : Except UInt64 UInt64 × LocalOverride :=
  match f g.word with
  | some next => (.ok g.word, ⟨next⟩)
  | none => (.error g.word, g)

def requestLocal (g : LocalOverride) : LocalOverride :=
  (g.fetchUpdate fun v => some (saturatingAdd v 2 ||| 1)).2

def reserve (g : LocalOverride) : Except RouteError UInt64 × LocalOverride :=
  match g.fetchUpdate fun v => ((checkedAdd v 2).map (· ||| 1)).filter (· < u64Max) with
  | (.ok previous, g) => (.ok ((previous + 2) ||| 1), g)
  | (.error _, g) => (.error .exhausted, g)

def stillPreparing (g : LocalOverride) (generation : UInt64) : Bool := g.word == generation

/-- The compare-exchange of `generation` against the same generation with the local bit cleared. -/
def activate (g : LocalOverride) (generation : UInt64) : Bool × LocalOverride :=
  if generation ≠ u64Max ∧ g.word = generation then (true, ⟨generation &&& ~~~1⟩) else (false, g)

/-- The generation of a word, without the local bit. -/
def generation (g : LocalOverride) : ℕ := g.word.toNat / 2

/-- The last generation of the range. -/
def ceiling : ℕ := 2 ^ 63 - 1

theorem generation_le (g : LocalOverride) : g.generation ≤ ceiling := by
  have := toNat_lt_size g.word
  unfold generation ceiling
  omega

theorem isLocal_eq (g : LocalOverride) : g.isLocal = decide (g.word.toNat % 2 = 1) := and_one_ne_zero g.word

theorem isLocal_of_odd {v : UInt64} (k : ℕ) (h : v.toNat = 2 * k + 1) : (⟨v⟩ : LocalOverride).isLocal = true := by
  rw [isLocal_eq, decide_eq_true_eq]
  show v.toNat % 2 = 1
  omega

/-! ### One lemma for each operation -/

theorem requestLocal_word_toNat (g : LocalOverride) :
    g.requestLocal.word.toNat = 2 * (min (g.word.toNat + 2) (2 ^ 64 - 1) / 2) + 1 := by
  show (saturatingAdd g.word 2 ||| 1).toNat = _
  rw [or_one_toNat, saturatingAdd_toNat, show (2 : UInt64).toNat = 2 from rfl]

@[simp] theorem requestLocal_isLocal (g : LocalOverride) : g.requestLocal.isLocal = true :=
  isLocal_of_odd _ g.requestLocal_word_toNat

theorem requestLocal_generation (g : LocalOverride) :
    g.requestLocal.generation = min (g.generation + 1) ceiling := by
  have := toNat_lt_size g.word
  unfold generation ceiling
  rw [requestLocal_word_toNat]
  omega

/-- What a reservation does: it is refused near the end of the range, or returns the next generation, odd. -/
theorem reserve_cases (g : LocalOverride) :
    (g.reserve = (.error .exhausted, g) ∧ 2 ^ 64 - 4 ≤ g.word.toNat) ∨
      ∃ n, g.reserve = (.ok n, ⟨n⟩) ∧ n.toNat = 2 * (g.generation + 1) + 1 ∧ n.toNat < 2 ^ 64 - 1 := by
  have hsize := toNat_lt_size g.word
  unfold reserve fetchUpdate generation
  dsimp only
  cases hadd : checkedAdd g.word 2 with
  | none =>
    have := checkedAdd_eq_none.mp hadd
    rw [show (2 : UInt64).toNat = 2 from rfl] at this
    exact Or.inl ⟨rfl, by omega⟩
  | some s =>
    have hs := checkedAdd_eq_some.mp hadd
    rw [show (2 : UInt64).toNat = 2 from rfl] at hs
    have hprev : g.word + 2 = s := by
      unfold checkedAdd at hadd
      split_ifs at hadd
      exact Option.some.inj hadd
    have hodd := or_one_toNat s
    have hmax : s ||| 1 < u64Max ↔ (s ||| 1).toNat < 2 ^ 64 - 1 := by
      rw [UInt64.lt_iff_toNat_lt, u64Max_toNat]
    by_cases hlt : s ||| 1 < u64Max
    · have := hmax.mp hlt
      exact Or.inr ⟨s ||| 1, by simp [Option.filter, hlt, hprev], by omega, by omega⟩
    · have := mt hmax.mpr hlt
      exact Or.inl ⟨by simp [Option.filter, hlt], by omega⟩

theorem activate_cases (g : LocalOverride) (n : UInt64) :
    (g.activate n = (false, g)) ∨
      (g.word = n ∧ g.activate n = (true, ⟨n &&& ~~~1⟩) ∧
        (⟨n &&& ~~~1⟩ : LocalOverride).generation = g.generation ∧
        (⟨n &&& ~~~1⟩ : LocalOverride).isLocal = false) := by
  unfold activate
  split_ifs with h
  · refine Or.inr ⟨h.2, rfl, ?_, ?_⟩
    · unfold generation
      rw [and_not_one_toNat, h.2]
      omega
    · rw [isLocal_eq, and_not_one_toNat, decide_eq_false_iff_not]
      omega
  · exact Or.inl rfl

/-! ### Calls in any interleaving -/

/-- The atomic operations on the shared word; `stillPreparing` only reads it. -/
inductive GateCall where
  | requestLocal
  | reserve
  | stillPreparing (generation : UInt64)
  | activate (generation : UInt64)
  deriving DecidableEq

/-- The word after a call. -/
def call (g : LocalOverride) : GateCall → LocalOverride
  | .requestLocal => g.requestLocal
  | .reserve => g.reserve.2
  | .stillPreparing _ => g
  | .activate n => (g.activate n).2

/-- After the calls `calls`, the next `reserve` returns `n`. -/
def Returns (v : LocalOverride) (calls : List GateCall) (n : UInt64) : Prop :=
  (run call v calls).reserve.1 = .ok n

/-- Some `reserve` among the calls returned `n`. -/
def Issued (v : LocalOverride) (calls : List GateCall) (n : UInt64) : Prop :=
  ∃ pre post, calls = pre ++ .reserve :: post ∧ Returns v pre n

/-- `activate` and `still_preparing` are only called with generations that `reserve` returned before. -/
def OnlyIssued (v : LocalOverride) (calls : List GateCall) : Prop :=
  ∀ pre n post, calls = pre ++ .activate n :: post ∨ calls = pre ++ .stillPreparing n :: post → Issued v pre n

/-- The generation never goes back. -/
theorem call_generation_le (g : LocalOverride) (c : GateCall) : g.generation ≤ (g.call c).generation := by
  cases c with
  | requestLocal =>
    have := g.generation_le
    have := g.requestLocal_generation
    rw [call]
    omega
  | reserve =>
    rcases g.reserve_cases with ⟨hres, -⟩ | ⟨n, hres, hn, -⟩
    · simp [call, hres]
    · rw [call, hres]
      show g.generation ≤ n.toNat / 2
      omega
  | stillPreparing n => exact le_refl _
  | activate n =>
    rcases g.activate_cases n with hact | ⟨-, hact, hgen, -⟩
    · simp [call, hact]
    · rw [call, hact, hgen]

theorem run_generation_le (g : LocalOverride) (calls : List GateCall) :
    g.generation ≤ (run call g calls).generation := by
  induction calls generalizing g with
  | nil => exact le_refl _
  | cons c calls ih => exact (g.call_generation_le c).trans (ih (g.call c))

/-! ### The word as an epoch gate -/

/-- The epoch gate of a word. -/
def toEpoch (g : LocalOverride) : Epoch.State ℕ := ⟨g.generation, !g.isLocal⟩

/-- What a call does to the epoch gate. -/
def toEvent (g : LocalOverride) : GateCall → Epoch.Event ℕ
  | .requestLocal => .cancel g.requestLocal.generation
  | .reserve => if g.reserve.1.isOk then .reserve g.reserve.2.generation else .idle
  | .stillPreparing _ => .idle
  | .activate n => if (g.activate n).1 then .commit else .idle

/-- **The word refines the epoch gate**, call by call. -/
theorem call_simulates (g : LocalOverride) (c : GateCall) :
    (g.call c).toEpoch = Epoch.next g.toEpoch (g.toEvent c) ∧ Epoch.Legal ceiling g.toEpoch (g.toEvent c) := by
  cases c with
  | requestLocal =>
    refine ⟨by simp [call, toEpoch, toEvent, Epoch.next], ?_⟩
    have := g.requestLocal_generation
    have := g.generation_le
    simp only [toEvent, Epoch.Legal, toEpoch]
    omega
  | reserve =>
    rcases g.reserve_cases with ⟨hres, -⟩ | ⟨n, hres, hn, hlt⟩
    · simp [call, toEvent, hres, Except.isOk, Except.toBool, Epoch.next, Epoch.Legal]
    · have hlocal : (⟨n⟩ : LocalOverride).isLocal = true := isLocal_of_odd _ hn
      have hgen : (⟨n⟩ : LocalOverride).generation = g.generation + 1 := by
        show n.toNat / 2 = _
        omega
      have hceil : g.generation + 1 < ceiling := by unfold ceiling; omega
      simp [call, toEvent, hres, Except.isOk, Except.toBool, Epoch.next, Epoch.Legal, toEpoch, hlocal, hgen, hceil]
  | stillPreparing n => exact ⟨rfl, trivial⟩
  | activate n =>
    rcases g.activate_cases n with hact | ⟨-, hact, hgen, hloc⟩
    · simp [call, toEvent, hact, Epoch.next, Epoch.Legal]
    · simp [call, toEvent, hact, Epoch.next, Epoch.Legal, toEpoch, hgen, hloc]

theorem run_simulates (v : LocalOverride) (calls : List GateCall) :
    (run call v calls).toEpoch = run Epoch.next v.toEpoch (trace call toEvent v calls) ∧
      Meets Epoch.next (Epoch.Legal ceiling) v.toEpoch (trace call toEvent v calls) :=
  Lib.run_simulates (P := fun _ _ => True) (fun g c _ => g.call_simulates c)
    (meets_of_forall (fun _ _ => trivial) _ _)

/-- The event of a `reserve` which returned `n`, and the generation of `n`. -/
theorem toEvent_of_returns {g : LocalOverride} {n : UInt64} (h : g.reserve.1 = .ok n) :
    g.toEvent .reserve = .reserve (n.toNat / 2) ∧ n.toNat % 2 = 1 ∧ n.toNat < 2 ^ 64 - 1 := by
  rcases g.reserve_cases with ⟨hres, -⟩ | ⟨m, hres, hm, hlt⟩
  · simp [hres] at h
  · have hmn : m = n := by simpa [hres] using h
    subst hmn
    refine ⟨?_, by omega, hlt⟩
    simp [toEvent, hres, Except.isOk, Except.toBool, generation]

theorem toEvent_requestLocal (g : LocalOverride) : g.toEvent .requestLocal = .cancel g.requestLocal.generation :=
  rfl

/-- The trace of a run, cut at a `reserve` which returned `n`. -/
theorem trace_reserve {v : LocalOverride} {pre : List GateCall} {n : UInt64} (h : Returns v pre n)
    (post : List GateCall) :
    trace call toEvent v (pre ++ .reserve :: post) =
      trace call toEvent v pre ++ .reserve (n.toNat / 2) ::
        trace call toEvent (run call v (pre ++ [.reserve])) post := by
  rw [trace_append, trace, (toEvent_of_returns h).1, run_append, run_cons, run_nil]

/-- **Dominance**: a `request_local` after the `reserve` passes its generation, for good. -/
theorem lt_generation_of_requested {v : LocalOverride} {pre mid post : List GateCall} {n : UInt64}
    (h : Returns v pre n) :
    n.toNat / 2 < (run call v (pre ++ .reserve :: (mid ++ .requestLocal :: post))).generation := by
  have hsim := run_simulates v (pre ++ .reserve :: (mid ++ .requestLocal :: post))
  rw [trace_reserve h, trace_append, trace, toEvent_requestLocal] at hsim
  have hlt := Epoch.lt_of_cancelled hsim.2
  rw [← hsim.1] at hlt
  exact hlt

/-- A word which still equals a reserved generation has seen no `request_local` since. -/
theorem not_mem_requestLocal_of_word {v : LocalOverride} {pre mid : List GateCall} {n : UInt64}
    (h : Returns v pre n) (hword : (run call v (pre ++ .reserve :: mid)).word = n) :
    GateCall.requestLocal ∉ mid := by
  intro hmem
  obtain ⟨mid', post, rfl⟩ := List.append_of_mem hmem
  have hlt : n.toNat / 2 < (run call v (pre ++ .reserve :: (mid' ++ .requestLocal :: post))).generation :=
    lt_generation_of_requested h
  unfold generation at hlt
  rw [hword] at hlt
  exact lt_irrefl _ hlt

/-- A word whose generation has passed `n` neither prepares nor activates `n`. -/
theorem refuses_of_lt {g : LocalOverride} {n : UInt64} (h : n.toNat / 2 < g.generation) :
    g.stillPreparing n = false ∧ g.activate n = (false, g) := by
  have hne : g.word ≠ n := by
    rintro rfl
    exact lt_irrefl _ h
  exact ⟨by simpa [stillPreparing] using hne, by simp [activate, hne]⟩

/-- The local bit is cleared by a successful `activate` only. -/
theorem call_clears {g : LocalOverride} {c : GateCall} (hloc : g.isLocal = true)
    (hrem : (g.call c).isLocal = false) : ∃ n, c = .activate n ∧ (g.activate n).1 = true ∧ g.word = n := by
  cases c with
  | requestLocal => simp [call] at hrem
  | reserve =>
    rcases g.reserve_cases with ⟨hres, -⟩ | ⟨n, hres, hn, -⟩
    · rw [call, hres, hloc] at hrem
      exact absurd hrem (by decide)
    · rw [call, hres, isLocal_of_odd _ hn] at hrem
      exact absurd hrem (by decide)
  | stillPreparing n =>
    rw [call, hloc] at hrem
    exact absurd hrem (by decide)
  | activate n =>
    rcases g.activate_cases n with hact | ⟨hword, hact, -, -⟩
    · rw [call, hact, hloc] at hrem
      exact absurd hrem (by decide)
    · exact ⟨n, rfl, by rw [hact], hword⟩

/-- The end of the range absorbs: every call leaves the largest word as it is. -/
theorem call_of_max {g : LocalOverride} (h : g.word = u64Max) (c : GateCall) : g.call c = g := by
  obtain ⟨w⟩ := g
  change w = u64Max at h
  subst h
  cases c with
  | requestLocal => rfl
  | reserve => rfl
  | stillPreparing n => rfl
  | activate n =>
    have : ¬ (n ≠ u64Max ∧ u64Max = n) := fun h => h.1 h.2.symm
    simp [call, activate, this]

theorem requestLocal_of_near_top {g : LocalOverride} (h : 2 ^ 64 - 3 ≤ g.word.toNat) :
    g.requestLocal.word = u64Max := by
  have := toNat_lt_size g.word
  rw [← UInt64.toNat_inj, requestLocal_word_toNat, u64Max_toNat]
  omega

/-- **Emergency dominance.**  For every initial word and every interleaving of calls in which `activate` and
`still_preparing` only get generations that `reserve` returned:
a `request_local` after the `reserve` which returned `n` ends `n` for good;
the local bit is cleared only by a successful `activate` of an issued generation with no `request_local` since;
near the end of the range a request sticks at the largest word, which no call leaves, and `reserve` is refused;
and no generation is issued twice. -/
theorem emergency_dominance (v : LocalOverride) (calls : List GateCall) (hissued : OnlyIssued v calls) :
    (∀ pre mid post n, calls = pre ++ .reserve :: (mid ++ .requestLocal :: post) → Returns v pre n →
      (run call v calls).stillPreparing n = false ∧ ((run call v calls).activate n).1 = false) ∧
    (∀ before c after, calls = before ++ c :: after → (run call v before).isLocal = true →
      (run call v (before ++ [c])).isLocal = false →
        ∃ n, c = .activate n ∧ ((run call v before).activate n).1 = true ∧
          ∃ pre mid, before = pre ++ .reserve :: mid ∧ Returns v pre n ∧ GateCall.requestLocal ∉ mid) ∧
    (∀ c, (run call v calls).word = u64Max → ((run call v calls).call c).word = u64Max) ∧
    (2 ^ 64 - 3 ≤ (run call v calls).word.toNat →
      (run call v calls).requestLocal.word = u64Max ∧ (run call v calls).reserve.1 = .error .exhausted) ∧
    (∀ pre mid post n n', calls = pre ++ .reserve :: (mid ++ .reserve :: post) → Returns v pre n →
      Returns v (pre ++ .reserve :: mid) n' → n < n') := by
  refine ⟨?_, ?_, ?_, ?_, ?_⟩
  · rintro pre mid post n rfl hret
    have hlt : n.toNat / 2 < (run call v (pre ++ .reserve :: (mid ++ .requestLocal :: post))).generation :=
      lt_generation_of_requested hret
    have href := refuses_of_lt hlt
    exact ⟨href.1, by rw [href.2]⟩
  · rintro before c after rfl hloc hrem
    rw [run_append, run_cons, run_nil] at hrem
    obtain ⟨n, rfl, hact, hword⟩ := call_clears hloc hrem
    obtain ⟨pre, mid, rfl, hret⟩ := hissued before n after (Or.inl rfl)
    exact ⟨n, rfl, hact, pre, mid, rfl, hret, not_mem_requestLocal_of_word hret hword⟩
  · intro c hmax
    rw [call_of_max hmax]
    exact hmax
  · intro htop
    refine ⟨requestLocal_of_near_top htop, ?_⟩
    rcases (run call v calls).reserve_cases with ⟨hres, -⟩ | ⟨m, -, hm, hlt⟩
    · rw [hres]
    · unfold generation at hm
      omega
  · rintro pre mid post n n' rfl hret hret'
    have hsim := run_simulates v (pre ++ .reserve :: (mid ++ .reserve :: post))
    have hret'' : ((run call (run call v (pre ++ [.reserve])) mid)).reserve.1 = .ok n' := by
      have := hret'
      rw [Returns, run_append, run_cons] at this
      rwa [run_append, run_cons, run_nil]
    rw [trace_reserve hret, trace_append, trace, (toEvent_of_returns hret'').1] at hsim
    have hlt := Epoch.reserve_strictMono hsim.2
    have hn := toEvent_of_returns hret
    have hn' := toEvent_of_returns hret''
    rw [UInt64.lt_iff_toNat_lt]
    omega

/-- The default gate, a reservation that `activate` took, and an emergency: generation 3 is dead. -/
theorem emergency_dominance_default :
    ((run call ⟨1⟩ [.reserve, .activate 3, .requestLocal]).activate 3).1 = false := by
  have hissued : OnlyIssued ⟨1⟩ [.reserve, .activate 3, .requestLocal] := by
    intro pre n post h
    have hcut : pre = [.reserve] ∧ n = 3 := by
      simp only [List.cons_eq_append_iff] at h
      aesop
    obtain ⟨rfl, rfl⟩ := hcut
    exact ⟨[], [], rfl, by unfold Returns; decide⟩
  exact ((emergency_dominance ⟨1⟩ _ hissued).1 [] [.activate 3] [] 3 rfl (by unfold Returns; decide)).2

end LocalOverride

end MyKvm.Routing
