import MyKvm.Transport.Dialing

/-!
# MyKvm.Transport.Pacing — a peer which cannot be reached costs little

The health of the peers lists the addresses which failed last.  After three failures in a row the loop dials an
address at most once in three seconds, whatever is sent to it meanwhile.  Nothing is forgotten as long as there are
no more addresses than the list has places, and as long as nobody else answers at the address: a success there,
under another certificate, clears its failures.

A dial which has failed takes its marker away first and records the failure then; a dial which the loop decides on
in between is not counted (`Dial.unraced`).

* `Paced`: the dials so far, against the failures and the time.
* `unreachable_paced`: the result.
-/

namespace MyKvm.Transport.Dialing

open MyKvm.Lib

section Pacing

variable {K A : Type} [DecidableEq K] [DecidableEq A] {s : State K A} {a : A} {k : K} {addrs : List A}

/-! ### The health of the peers -/

/-- The addresses in the list are told apart, and are among those in use. -/
structure Kept (addrs : List A) (health : List (A × PeerHealth)) : Prop where
  nodup : (health.map Prod.fst).Nodup
  used : ∀ entry ∈ health, entry.1 ∈ addrs

omit [DecidableEq A] in
theorem lookup_eq_none_iff [BEq A] [LawfulBEq A] {health : List (A × PeerHealth)} {addr : A} :
    health.lookup addr = none ↔ addr ∉ health.map Prod.fst := by
  rw [List.lookup_eq_none_iff, List.mem_map]
  constructor
  · rintro hnone ⟨entry, hentry, rfl⟩
    simpa using hnone entry hentry
  · intro hnone entry hentry
    rw [bne_iff_ne]
    rintro rfl
    exact hnone ⟨entry, hentry, rfl⟩

/-- **Nothing is evicted** while there is a place for every address in use. -/
theorem Kept.room {health : List (A × PeerHealth)} (h : Kept addrs health) (hfew : addrs.length ≤ maxHealthPeers)
    {addr : A} (hused : addr ∈ addrs) : ¬ (maxHealthPeers ≤ health.length ∧ health.lookup addr = none) := by
  rintro ⟨hfull, hnew⟩
  have hfresh : addr ∉ health.map Prod.fst := lookup_eq_none_iff.mp hnew
  have hnodup : (addr :: health.map Prod.fst).Nodup := List.nodup_cons.mpr ⟨hfresh, h.nodup⟩
  have hsubset : addr :: health.map Prod.fst ⊆ addrs := by
    intro x hx
    rcases List.mem_cons.mp hx with rfl | hx
    · exact hused
    · obtain ⟨entry, hentry, rfl⟩ := List.mem_map.mp hx
      exact h.used entry hentry
  have hle := hnodup.length_le_of_subset hsubset
  rw [List.length_cons, List.length_map] at hle
  omega

theorem lookup_filter_ne (health : List (A × PeerHealth)) {addr addr' : A} (hne : addr' ≠ addr) :
    (health.filter (·.1 ≠ addr)).lookup addr' = health.lookup addr' := by
  induction health with
  | nil => rfl
  | cons entry health ih =>
    by_cases hentry : entry.1 = addr
    · have hother : (addr' == entry.1) = false := by simpa [hentry] using hne
      rw [List.filter_cons_of_neg (by simpa using hentry), ih, List.lookup_cons, hother]
    · rw [List.filter_cons_of_pos (by simpa using hentry), List.lookup_cons, List.lookup_cons, ih]

theorem Kept.filter {health : List (A × PeerHealth)} (h : Kept addrs health) (addr : A) :
    Kept addrs (health.filter (·.1 ≠ addr)) := by
  refine ⟨h.nodup.sublist (List.filter_sublist.map Prod.fst), ?_⟩
  intro entry hentry
  exact h.used entry (List.mem_filter.mp hentry).1

omit [DecidableEq K] in
/-- **A failure is recorded** for its address, and for no other. -/
theorem recordPeerFailure_health (h : Kept addrs s.health) (hfew : addrs.length ≤ maxHealthPeers) {addr : A}
    (hused : addr ∈ addrs) :
    (s.recordPeerFailure addr).health =
      (addr, ⟨min (((s.health.lookup addr).map PeerHealth.consecutiveFailures).getD 0 + 1)
        4294967295, s.now⟩) :: s.health.filter (·.1 ≠ addr) ∧
      Kept addrs (s.recordPeerFailure addr).health := by
  have hhealth : (s.recordPeerFailure addr).health = (addr, ⟨min (((s.health.lookup addr).map
      PeerHealth.consecutiveFailures).getD 0 + 1) 4294967295, s.now⟩) :: s.health.filter (·.1 ≠ addr) := by
    unfold State.recordPeerFailure
    dsimp only
    rw [if_neg (h.room hfew hused)]
  refine ⟨hhealth, ?_⟩
  rw [hhealth]
  have hrest := h.filter addr
  refine ⟨?_, ?_⟩
  · rw [List.map_cons, List.nodup_cons]
    refine ⟨?_, hrest.nodup⟩
    intro hmem
    obtain ⟨entry, hentry, heq⟩ := List.mem_map.mp hmem
    have hne := (List.mem_filter.mp hentry).2
    simp [heq] at hne
  · intro entry hentry
    rcases List.mem_cons.mp hentry with rfl | hentry
    · exact hused
    · exact hrest.used entry hentry

/-! ### The dials so far -/

/-- The loop has decided on a dial, and has not started it. -/
def Loop.decided (key : K) : Loop K A → Bool
  | .dialing _ key' | .spawning _ key' => key' = key
  | _ => false

namespace State

/-- The failures in a row of an address. -/
def failures (s : State K A) (addr : A) : ℕ := ((s.health.lookup addr).map PeerHealth.consecutiveFailures).getD 0

/-- The dials which are not recorded yet, with the one which the loop has decided on. -/
def pending (s : State K A) (key : K) : ℕ :=
  s.tasks.countP (Task.unrecorded key) + (s.loop.decided key).toNat

/-- The dials which were decided on when every earlier one was recorded, newest first. -/
def unraced (s : State K A) (key : K) : List (Dial K) := s.dials.filter fun d => d.key = key && d.unraced

end State

/-- **The dials of a peer which cannot be reached**, against its failures and the time. -/
structure Paced (s : State K A) (a : A) (k : K) : Prop where
  early : datagramFailThreshold ≤ s.failures a ∨ (s.unraced k).length ≤ s.failures a + s.pending k
  recorded : ∀ d ∈ (s.unraced k).head?, 0 < s.pending k ∨
    ∃ entry, s.health.lookup a = some entry ∧ d.time ≤ entry.lastFailure
  past : ∀ d ∈ (s.unraced k).head?, d.time ≤ s.now
  spread : ∀ d ∈ (s.unraced k).head?, datagramRetryWindow * (s.unraced k).length ≤
    d.time + datagramFailThreshold * datagramRetryWindow

theorem Paced.same (h : Paced s a k) {s' : State K A} (hlookup : s'.health.lookup a = s.health.lookup a)
    (hpending : s'.pending k = s.pending k) (hdials : s'.dials = s.dials) (hnow : s.now ≤ s'.now) :
    Paced s' a k := by
  have hunraced : s'.unraced k = s.unraced k := by
    unfold State.unraced
    rw [hdials]
  have hfailures : s'.failures a = s.failures a := by
    unfold State.failures
    rw [hlookup]
  obtain ⟨hearly, hrecorded, hpast, hspread⟩ := h
  refine ⟨?_, ?_, ?_, ?_⟩
  · rwa [hunraced, hfailures, hpending]
  · rwa [hunraced, hpending, hlookup]
  · rw [hunraced]
    exact fun d hd => (hpast d hd).trans hnow
  · rwa [hunraced]

/-- A failure of the address is recorded. -/
theorem Paced.record (h : Paced s a k) {s' : State K A}
    (hlookup : s'.health.lookup a = some ⟨min (s.failures a + 1) 4294967295, s.now⟩)
    (hpending : s.pending k ≤ s'.pending k + 1) (hdials : s'.dials = s.dials) (hnow : s'.now = s.now) :
    Paced s' a k := by
  have hunraced : s'.unraced k = s.unraced k := by
    unfold State.unraced
    rw [hdials]
  have hfailures : s'.failures a = min (s.failures a + 1) 4294967295 := by
    unfold State.failures
    rw [hlookup]
    rfl
  obtain ⟨hearly, hrecorded, hpast, hspread⟩ := h
  refine ⟨?_, ?_, ?_, ?_⟩
  · rw [hunraced, hfailures]
    unfold datagramFailThreshold at hearly ⊢
    omega
  · rw [hunraced]
    intro d hd
    exact Or.inr ⟨_, hlookup, hpast d hd⟩
  · rw [hunraced, hnow]
    exact hpast
  · rw [hunraced]
    exact hspread

/-- **The loop decides on a dial**: the third failure is three seconds ago, or there was none. -/
theorem Paced.decided (h : Paced s a k) (hfree : s.peerFastFailActive a = false)
    (hidle : s.pending k = s.tasks.countP (Task.unrecorded k)) {s' : State K A}
    (hlookup : s'.health.lookup a = s.health.lookup a) (hpending : s'.pending k = s.pending k + 1)
    (hdials : s'.dials = ⟨k, s.now, s.tasks.countP (Task.unrecorded k) = 0⟩ :: s.dials) (hnow : s'.now = s.now) :
    Paced s' a k := by
  have hfailures : s'.failures a = s.failures a := by
    unfold State.failures
    rw [hlookup]
  obtain ⟨hearly, hrecorded, hpast, hspread⟩ := h
  by_cases hzero : s.tasks.countP (Task.unrecorded k) = 0
  · have hunraced : s'.unraced k = ⟨k, s.now, true⟩ :: s.unraced k := by
      unfold State.unraced
      rw [hdials, List.filter_cons_of_pos (by simp [hzero])]
      simp [hzero]
    rw [hidle, hzero] at hearly
    have hspread' : datagramRetryWindow * ((s.unraced k).length + 1) ≤
        s.now + datagramFailThreshold * datagramRetryWindow := by
      simp only [datagramRetryWindow, datagramFailThreshold] at hspread hearly ⊢
      by_cases hfew : (s.unraced k).length < 3
      · omega
      -- there were three, all of them recorded
      obtain ⟨d, rest, hlist⟩ := List.exists_cons_of_length_pos (show 0 < (s.unraced k).length by omega)
      have hhead : d ∈ (s.unraced k).head? := by
        rw [hlist]
        exact rfl
      obtain ⟨entry, hentry, hlast⟩ := (hrecorded d hhead).resolve_left (by omega)
      have hthird : 3 ≤ entry.consecutiveFailures := by
        have hsame : s.failures a = entry.consecutiveFailures := by
          unfold State.failures
          rw [hentry]
          rfl
        omega
      have hlong : ¬ s.now - entry.lastFailure < 3000 := by
        unfold State.peerFastFailActive datagramRetryWindow datagramFailThreshold at hfree
        rw [hentry] at hfree
        simpa [hthird] using hfree
      have hbefore := hspread d hhead
      omega
    refine ⟨?_, ?_, ?_, ?_⟩
    · rw [hunraced, hfailures, hpending, hidle, hzero, List.length_cons]
      omega
    · intro d _
      rw [hpending]
      exact Or.inl (Nat.succ_pos _)
    · rw [hunraced, hnow]
      intro d hd
      obtain rfl := Option.some.inj hd
      exact le_refl _
    · rw [hunraced]
      intro d hd
      obtain rfl := Option.some.inj hd
      exact hspread'
  · have hunraced : s'.unraced k = s.unraced k := by
      unfold State.unraced
      rw [hdials, List.filter_cons_of_neg (by simp [hzero])]
    refine ⟨?_, ?_, ?_, ?_⟩
    · rw [hunraced, hfailures, hpending]
      omega
    · intro d _
      rw [hpending]
      exact Or.inl (Nat.succ_pos _)
    · rwa [hunraced, hnow]
    · rwa [hunraced]

/-- There is no more than one dial in three seconds, after the first three. -/
theorem Paced.length_le (h : Paced s a k) :
    (s.unraced k).length ≤ datagramFailThreshold + s.now / datagramRetryWindow := by
  cases hlist : s.unraced k with
  | nil => exact Nat.zero_le _
  | cons d rest =>
    have hhead : d ∈ (s.unraced k).head? := by
      rw [hlist]
      exact rfl
    have hspread := h.spread d hhead
    have hpast := h.past d hhead
    rw [hlist] at hspread
    unfold datagramFailThreshold datagramRetryWindow at hspread ⊢
    omega

/-! ### A peer which cannot be reached -/

/-- The address is that of the peer, and of no other. -/
def PeerEndpoint.Only (addrs : List A) (a : A) (k : K) (peer : PeerEndpoint K A) : Prop :=
  peer.addr ∈ addrs ∧ (peer.key = some k → peer.addr = a) ∧ (peer.addr = a → peer.key = some k ∨ peer.key = none)

def Task.connectsTo (k : K) : Task K A → Bool
  | .dial _ key .connecting => key = k
  | .stream _ peer .connecting => peer.key = some k
  | _ => false

/-- **The peer cannot be reached**: no connection to it is established; and what is sent goes to the
address under the certificate of the peer, or under a certificate which does not resolve, and under its
certificate to no other address. -/
def Unreachable (addrs : List A) (a : A) (k : K) (s : State K A) : Step K A → Prop
  | .datagram peer | .openStream _ peer => peer.Only addrs a k
  | .task i ok => (s.tasks[i]?.any (Task.connectsTo k)) = true → ok = false
  | _ => True

instance (addrs : List A) (a : A) (k : K) (peer : PeerEndpoint K A) : Decidable (peer.Only addrs a k) :=
  inferInstanceAs (Decidable (_ ∧ _ ∧ _))

instance decidableUnreachable (addrs : List A) (a : A) (k : K) (s : State K A) :
    ∀ step, Decidable (Unreachable addrs a k s step)
  | .datagram _ | .openStream _ _ => inferInstanceAs (Decidable (PeerEndpoint.Only _ _ _ _))
  | .task _ _ => inferInstanceAs (Decidable (_ → _))
  | .tick _ | .close _ | .loop _ => .isTrue trivial

/-- The task has no connection to the peer. -/
def Task.Barren (addrs : List A) (a : A) (k : K) : Task K A → Prop
  | .dial addr key stage => addr ∈ addrs ∧ (addr = a ↔ key = k) ∧
      (key = k → (∀ c, stage ≠ .connected c) ∧ stage ≠ .succeeding)
  | .stream _ peer stage => peer.Only addrs a k ∧ (peer.key = some k →
      (∀ c, stage ≠ .connected c) ∧ (∀ c, stage ≠ .succeeding c) ∧ (∀ c, stage ≠ .opening c) ∧
        (∀ c, stage ≠ .carrying c) ∧ ∀ c b, stage ≠ .dropping c b)

def Loop.Barren (addrs : List A) (a : A) (k : K) : Loop K A → Prop
  | .idle => True
  | .looked addr key ready => addr ∈ addrs ∧ (addr = a ↔ key = k) ∧ (key = k → ready = none)
  | .dropping addr key => addr ∈ addrs ∧ addr ≠ a ∧ key ≠ k
  | .failing addr => addr ∈ addrs
  | .succeeding addr => addr ≠ a
  | .dialing addr key | .spawning addr key => addr ∈ addrs ∧ (addr = a ↔ key = k)

structure Unreached (addrs : List A) (a : A) (k : K) (s : State K A) : Prop where
  kept : Kept addrs s.health
  slot : ∀ c, s.connections k ≠ some (.ready c)
  tasks : ∀ t ∈ s.tasks, t.Barren addrs a k
  loop : s.loop.Barren addrs a k
  paced : Paced s a k

omit [DecidableEq K] in
theorem lookup_recordPeerFailure (h : Kept addrs s.health) (hfew : addrs.length ≤ maxHealthPeers) {addr : A}
    (hused : addr ∈ addrs) : (s.recordPeerFailure addr).health.lookup a =
      if addr = a then some ⟨min (s.failures a + 1) 4294967295, s.now⟩ else s.health.lookup a := by
  rw [(recordPeerFailure_health h hfew hused).1]
  by_cases heq : addr = a
  · subst heq
    rw [if_pos rfl, List.lookup_cons_self]
    rfl
  · have hne : a ≠ addr := fun h => heq h.symm
    have hother : (a == addr) = false := by simpa using hne
    rw [if_neg heq, List.lookup_cons, hother]
    exact lookup_filter_ne s.health hne

omit [DecidableEq A] in
/-- A slot which is put is no connection to the peer. -/
theorem slot_put (hslot : ∀ c, s.connections k ≠ some (.ready c)) {key : K} {slot : Option ConnectionSlot}
    (hbarren : key = k → ∀ c, slot ≠ some (.ready c)) (c : ℕ) :
    (s.put key slot).connections k ≠ some (.ready c) := by
  unfold State.put
  dsimp only
  by_cases hkey : key = k
  · subst hkey
    rw [Function.update_self]
    exact hbarren rfl c
  · have hne : k ≠ key := fun h => hkey h.symm
    rw [Function.update_of_ne hne]
    exact hslot c

/-- A task takes a step which records no failure of the address. -/
theorem Unreached.setTask (h : Unreached addrs a k s) {i : ℕ} {t t' : Task K A} (htask : s.tasks[i]? = some t)
    {s' : State K A} (hkept : Kept addrs s'.health) (hslot : ∀ c, s'.connections k ≠ some (.ready c))
    (htasks : s'.tasks = s.tasks) (hloop : s'.loop = s.loop) (hdials : s'.dials = s.dials) (hnow : s'.now = s.now)
    (hlookup : s'.health.lookup a = s.health.lookup a) (hbarren : t'.Barren addrs a k)
    (hunrecorded : t'.unrecorded k = t.unrecorded k) : Unreached addrs a k (s'.setTask i t') := by
  have hpending : (s'.setTask i t').pending k = s.pending k := by
    unfold State.pending State.setTask
    dsimp only
    rw [htasks, hloop, Crew.countP_set_of_eq htask hunrecorded]
  refine ⟨hkept, hslot, ?_, ?_, h.paced.same hlookup hpending hdials hnow.ge⟩
  · show ∀ x ∈ s'.tasks.set i t', x.Barren addrs a k
    rw [htasks]
    exact Crew.forall_set h.tasks hbarren
  · show s'.loop.Barren addrs a k
    rw [hloop]
    exact h.loop

/-- A task records a failure, of this address or of another one. -/
theorem Unreached.record (h : Unreached addrs a k s) (hfew : addrs.length ≤ maxHealthPeers) {i : ℕ}
    {t t' : Task K A} (htask : s.tasks[i]? = some t) {addr : A} (hused : addr ∈ addrs) {s' : State K A}
    (hs' : s'.health = (s.recordPeerFailure addr).health) (hconnections : s'.connections = s.connections)
    (htasks : s'.tasks = s.tasks) (hloop : s'.loop = s.loop) (hdials : s'.dials = s.dials) (hnow : s'.now = s.now)
    (hbarren : t'.Barren addrs a k) (hother : addr ≠ a → t'.unrecorded k = t.unrecorded k) :
    Unreached addrs a k (s'.setTask i t') := by
  have hkept : Kept addrs s'.health := hs' ▸ (recordPeerFailure_health h.kept hfew hused).2
  have hslot : ∀ c, s'.connections k ≠ some (.ready c) := hconnections ▸ h.slot
  have hlookup := lookup_recordPeerFailure (a := a) h.kept hfew hused
  rw [← hs'] at hlookup
  by_cases heq : addr = a
  · rw [if_pos heq] at hlookup
    refine ⟨hkept, hslot, ?_, ?_, h.paced.record hlookup ?_ hdials hnow⟩
    · show ∀ x ∈ s'.tasks.set i t', x.Barren addrs a k
      rw [htasks]
      exact Crew.forall_set h.tasks hbarren
    · show s'.loop.Barren addrs a k
      rw [hloop]
      exact h.loop
    · have hcount := Crew.countP_set (p := Task.unrecorded k) htask t'
      have hle := (t.unrecorded k).toNat_le
      unfold State.pending State.setTask
      dsimp only
      rw [htasks, hloop]
      omega
  · rw [if_neg heq] at hlookup
    exact h.setTask htask hkept hslot htasks hloop hdials hnow hlookup hbarren (hother heq)

/-- A dial for datagrams takes a step. -/
theorem Unreached.dialStep (h : Unreached addrs a k s) (hfew : addrs.length ≤ maxHealthPeers) {i : ℕ}
    {addr : A} {key : K} {stage : DialStage} (htask : s.tasks[i]? = some (.dial addr key stage)) (ok : Bool)
    (hfails : (s.tasks[i]?.any (Task.connectsTo k)) = true → ok = false) :
    Unreached addrs a k (s.dialStep i addr key ok stage) := by
  obtain ⟨hused, honly, hbarren⟩ := h.tasks _ (List.mem_of_getElem? htask)
  rw [htask] at hfails
  unfold State.dialStep
  cases stage with
  | connecting =>
    cases ok with
    | true =>
      have hother : key ≠ k := by
        rintro rfl
        cases hfails (by simp [Task.connectsTo])
      exact h.setTask htask h.kept h.slot rfl rfl rfl rfl rfl ⟨hused, honly, fun heq => absurd heq hother⟩ rfl
    | false => exact h.setTask htask h.kept h.slot rfl rfl rfl rfl rfl ⟨hused, honly, by simp⟩ rfl
  | connected connection =>
    have hother : key ≠ k := fun heq => (hbarren heq).1 connection rfl
    exact h.setTask htask h.kept (slot_put h.slot fun heq => absurd heq hother) rfl rfl rfl rfl rfl
      ⟨hused, honly, fun heq => absurd heq hother⟩ rfl
  | failed =>
    exact h.setTask htask h.kept (slot_put h.slot (by simp)) rfl rfl rfl rfl rfl ⟨hused, honly, by simp⟩ rfl
  | failing =>
    refine h.record hfew htask hused rfl rfl rfl rfl rfl rfl ⟨hused, honly, by simp⟩ fun hne => ?_
    have hother : key ≠ k := fun heq => hne (honly.mpr heq)
    simp [Task.unrecorded, hother]
  | succeeding =>
    have hother : key ≠ k := fun heq => (hbarren heq).2 rfl
    have hne : a ≠ addr := fun heq => hother (honly.mp heq.symm)
    exact h.setTask htask (h.kept.filter addr) h.slot rfl rfl rfl rfl (lookup_filter_ne s.health hne)
      ⟨hused, honly, by simp⟩ (by simp [Task.unrecorded, hother])
  | finished => exact h

/-- A stream takes a step. -/
theorem Unreached.streamStep (h : Unreached addrs a k s) (hfew : addrs.length ≤ maxHealthPeers)
    {i : ℕ} {kind : Kind} {peer : PeerEndpoint K A} {key : K} (hkey : peer.key = some key) {stage : StreamStage}
    (htask : s.tasks[i]? = some (.stream kind peer stage)) (ok : Bool)
    (hfails : (s.tasks[i]?.any (Task.connectsTo k)) = true → ok = false) :
    Unreached addrs a k (s.streamStep i kind peer key ok stage) := by
  obtain ⟨honly, hbarren⟩ := h.tasks _ (List.mem_of_getElem? htask)
  have hfinish : Task.Barren addrs a k (.stream kind peer .finished) := ⟨honly, by simp⟩
  rw [htask] at hfails
  unfold State.streamStep
  cases stage with
  | looking =>
    dsimp only
    split
    · rename_i connection hready
      have hother : key ≠ k := fun heq => h.slot connection (heq ▸ hready)
      have hnone : peer.key ≠ some k := by simpa [hkey] using hother
      split
      · exact h.setTask htask h.kept h.slot rfl rfl rfl rfl rfl ⟨honly, fun heq => absurd heq hnone⟩ rfl
      · exact h.setTask htask h.kept h.slot rfl rfl rfl rfl rfl ⟨honly, fun heq => absurd heq hnone⟩ rfl
    · exact h.setTask htask h.kept h.slot rfl rfl rfl rfl rfl ⟨honly, by simp⟩ rfl
  | connecting =>
    cases ok with
    | true =>
      have hnone : peer.key ≠ some k := by
        intro heq
        cases hfails (by simp [Task.connectsTo, heq])
      exact h.setTask htask h.kept h.slot rfl rfl rfl rfl rfl ⟨honly, fun heq => absurd heq hnone⟩ rfl
    | false =>
      dsimp only
      rw [if_neg Bool.false_ne_true]
      split
      · exact h.setTask htask h.kept h.slot rfl rfl rfl rfl rfl ⟨honly, by simp⟩ rfl
      · exact h.setTask htask h.kept h.slot rfl rfl rfl rfl rfl hfinish rfl
  | connected connection =>
    have hnone : peer.key ≠ some k := fun heq => (hbarren heq).1 connection rfl
    have hother : key ≠ k := fun heq => hnone (heq ▸ hkey)
    exact h.setTask htask h.kept (slot_put h.slot fun heq => absurd heq hother) rfl rfl rfl rfl rfl
      ⟨honly, fun heq => absurd heq hnone⟩ rfl
  | failing => exact h.record hfew htask honly.1 rfl rfl rfl rfl rfl rfl hfinish fun _ => rfl
  | succeeding connection =>
    have hnone : peer.key ≠ some k := fun heq => (hbarren heq).2.1 connection rfl
    have hne : a ≠ peer.addr := by
      intro heq
      rcases honly.2.2 heq.symm with hsome | hunresolved
      · exact hnone hsome
      · rw [hkey] at hunresolved
        cases hunresolved
    exact h.setTask htask (h.kept.filter peer.addr) h.slot rfl rfl rfl rfl (lookup_filter_ne s.health hne)
      ⟨honly, fun heq => absurd heq hnone⟩ rfl
  | opening connection =>
    have hnone : peer.key ≠ some k := fun heq => (hbarren heq).2.2.1 connection rfl
    dsimp only
    split
    · exact h.setTask htask h.kept h.slot rfl rfl rfl rfl rfl ⟨honly, fun heq => absurd heq hnone⟩ rfl
    · split
      · exact h.setTask htask h.kept h.slot rfl rfl rfl rfl rfl ⟨honly, fun heq => absurd heq hnone⟩ rfl
      · exact h.setTask htask h.kept h.slot rfl rfl rfl rfl rfl hfinish rfl
  | carrying connection =>
    have hnone : peer.key ≠ some k := fun heq => (hbarren heq).2.2.2.1 connection rfl
    have hdropping : ∀ closes, Task.Barren addrs a k (.stream kind peer (.dropping connection closes)) :=
      fun closes => ⟨honly, fun heq => absurd heq hnone⟩
    cases kind with
    | stream =>
      cases ok with
      | true => exact h.setTask htask h.kept h.slot rfl rfl rfl rfl rfl hfinish rfl
      | false => exact h.setTask htask h.kept h.slot rfl rfl rfl rfl rfl (hdropping _) rfl
    | control => exact h.setTask htask h.kept h.slot rfl rfl rfl rfl rfl (hdropping _) rfl
    | input => exact h.setTask htask h.kept h.slot rfl rfl rfl rfl rfl hfinish rfl
  | dropping connection closes =>
    exact h.setTask htask h.kept (slot_put h.slot (by simp)) rfl rfl rfl rfl rfl hfinish rfl
  | finished => exact h

theorem Unreached.task (h : Unreached addrs a k s) (hfew : addrs.length ≤ maxHealthPeers) (i : ℕ) (ok : Bool)
    (hfails : (s.tasks[i]?.any (Task.connectsTo k)) = true → ok = false) : Unreached addrs a k (s.task i ok) := by
  unfold State.task
  split
  · exact h
  · rename_i addr key stage htask
    exact h.dialStep hfew htask ok hfails
  · exact h
  · rename_i kind peer stage _ htask
    split
    · exact h.setTask htask h.kept h.slot rfl rfl rfl rfl rfl
        ⟨(h.tasks _ (List.mem_of_getElem? htask)).1, by simp⟩ rfl
    · rename_i key hkey
      exact h.streamStep hfew hkey htask ok hfails

/-- The loop takes a step which records no failure of the address, and decides on nothing. -/
theorem Unreached.setLoop (h : Unreached addrs a k s) {s' : State K A} (hkept : Kept addrs s'.health)
    (hslot : ∀ c, s'.connections k ≠ some (.ready c)) (htasks : s'.tasks = s.tasks) (hdials : s'.dials = s.dials)
    (hnow : s.now ≤ s'.now) (hlookup : s'.health.lookup a = s.health.lookup a) (hbarren : s'.loop.Barren addrs a k)
    (hdecided : s'.loop.decided k = s.loop.decided k) : Unreached addrs a k s' := by
  have hpending : s'.pending k = s.pending k := by
    unfold State.pending
    rw [htasks, hdecided]
  refine ⟨hkept, hslot, ?_, hbarren, h.paced.same hlookup hpending hdials hnow⟩
  rw [htasks]
  exact h.tasks

/-- The loop records a failure. -/
theorem Unreached.recordLoop (h : Unreached addrs a k s) (hfew : addrs.length ≤ maxHealthPeers) {addr : A}
    (hused : addr ∈ addrs) {loop : Loop K A} (hbarren : loop.Barren addrs a k)
    (hdecided : loop.decided k = s.loop.decided k) :
    Unreached addrs a k { s.recordPeerFailure addr with loop } := by
  have hkept := (recordPeerFailure_health h.kept hfew hused).2
  have hlookup := lookup_recordPeerFailure (a := a) h.kept hfew hused
  by_cases heq : addr = a
  · rw [if_pos heq] at hlookup
    refine ⟨hkept, h.slot, h.tasks, hbarren, h.paced.record hlookup ?_ rfl rfl⟩
    unfold State.pending
    dsimp only
    rw [hdecided]
    exact Nat.le_succ _
  · rw [if_neg heq] at hlookup
    exact h.setLoop hkept h.slot rfl rfl (le_refl s.now) hlookup hbarren hdecided

theorem Unreached.datagram (h : Unreached addrs a k s) (hfew : addrs.length ≤ maxHealthPeers)
    {peer : PeerEndpoint K A} (honly : peer.Only addrs a k) : Unreached addrs a k (s.datagram peer) := by
  obtain ⟨hused, hkey, haddr⟩ := honly
  unfold State.datagram
  split
  · rename_i hidle
    split
    · have hrecord : Unreached addrs a k { s.recordPeerFailure peer.addr with loop := .idle } :=
        h.recordLoop hfew hused trivial (by rw [hidle])
      rwa [← hidle] at hrecord
    · rename_i key hsome
      have hpeer : peer.addr = a ↔ key = k := by
        rw [hsome] at hkey haddr
        constructor
        · intro heq
          simpa using haddr heq
        · rintro rfl
          exact hkey rfl
      have hdecided : ∀ ready, (Loop.looked peer.addr key ready).decided k = s.loop.decided k := by
        intro ready
        rw [hidle]
        rfl
      split
      · exact h
      · rename_i connection hready
        have hother : key ≠ k := fun heq => h.slot connection (heq ▸ hready)
        split
        · exact h.setLoop h.kept (slot_put h.slot (by simp)) rfl rfl (le_refl s.now) rfl
            ⟨hused, hpeer, fun _ => rfl⟩ (hdecided none)
        · exact h.setLoop h.kept h.slot rfl rfl (le_refl s.now) rfl ⟨hused, hpeer, fun heq => absurd heq hother⟩
            (hdecided _)
      · exact h.setLoop h.kept h.slot rfl rfl (le_refl s.now) rfl ⟨hused, hpeer, fun _ => rfl⟩ (hdecided none)
  · exact h

theorem Unreached.advance (h : Unreached addrs a k s) (hfew : addrs.length ≤ maxHealthPeers) (ok : Bool) :
    Unreached addrs a k (s.advance ok) := by
  have hloop := h.loop
  unfold State.advance
  split
  · exact h
  · rename_i addr key connection hlooked
    rw [hlooked] at hloop
    obtain ⟨hused, honly, hnone⟩ := hloop
    have hother : key ≠ k := fun heq => nomatch hnone heq
    have hne : addr ≠ a := fun heq => hother (honly.mp heq)
    refine h.setLoop h.kept h.slot rfl rfl (le_refl s.now) rfl ?_ ?_
    · cases ok with
      | true => exact hne
      | false => exact ⟨hused, hne, hother⟩
    · rw [hlooked]
      cases ok <;> rfl
  · rename_i addr key hdropping
    rw [hdropping] at hloop
    obtain ⟨hused, hne, hother⟩ := hloop
    exact h.setLoop h.kept (slot_put h.slot (by simp)) rfl rfl (le_refl s.now) rfl hused (by rw [hdropping]; rfl)
  · rename_i addr hfailing
    rw [hfailing] at hloop
    exact h.recordLoop hfew hloop trivial (by rw [hfailing]; rfl)
  · rename_i addr hsucceeding
    rw [hsucceeding] at hloop
    exact h.setLoop (h.kept.filter addr) h.slot rfl rfl (le_refl s.now)
      (lookup_filter_ne s.health hloop.symm) trivial (by rw [hsucceeding]; rfl)
  · rename_i addr key hlooked
    rw [hlooked] at hloop
    obtain ⟨hused, honly, -⟩ := hloop
    split
    · exact h.setLoop h.kept h.slot rfl rfl (le_refl s.now) rfl trivial (by rw [hlooked]; rfl)
    · rename_i hfree
      refine ⟨h.kept, h.slot, h.tasks, ⟨hused, honly⟩, ?_⟩
      by_cases hkey : key = k
      · subst hkey
        obtain rfl := honly.mpr rfl
        have hidle : s.pending key = s.tasks.countP (Task.unrecorded key) := by
          unfold State.pending
          rw [hlooked]
          rfl
        refine h.paced.decided (Bool.not_eq_true _ ▸ hfree) hidle rfl ?_ rfl rfl
        rw [hidle]
        unfold State.pending
        simp [Loop.decided]
      · -- the dial is to another peer
        have hunraced : State.unraced { s with
            loop := .dialing addr key
            dials := ⟨key, s.now, s.tasks.countP (Task.unrecorded key) = 0⟩ :: s.dials } k = s.unraced k := by
          unfold State.unraced
          exact List.filter_cons_of_neg (by simp [hkey])
        have hpending : State.pending { s with
            loop := .dialing addr key
            dials := ⟨key, s.now, s.tasks.countP (Task.unrecorded key) = 0⟩ :: s.dials } k = s.pending k := by
          unfold State.pending
          rw [hlooked]
          simp [Loop.decided, hkey]
        obtain ⟨hearly, hrecorded, hpast, hspread⟩ := h.paced
        refine ⟨?_, ?_, ?_, ?_⟩
        · rwa [hunraced, hpending]
        · rwa [hunraced, hpending]
        · rwa [hunraced]
        · rwa [hunraced]
  · rename_i addr key hdialing
    rw [hdialing] at hloop
    exact h.setLoop h.kept (slot_put h.slot (by simp)) rfl rfl (le_refl s.now) rfl hloop (by rw [hdialing]; rfl)
  · rename_i addr key hspawning
    rw [hspawning] at hloop
    obtain ⟨hused, honly⟩ := hloop
    have hpending : State.pending { s with loop := .idle, tasks := s.tasks ++ [.dial addr key .connecting] } k =
        s.pending k := by
      unfold State.pending
      rw [hspawning, List.countP_append, List.countP_singleton]
      by_cases hkey : key = k <;> simp [Loop.decided, Task.unrecorded, hkey]
    refine ⟨h.kept, h.slot, ?_, trivial, h.paced.same rfl hpending rfl (le_refl s.now)⟩
    intro t ht
    rcases List.mem_append.mp ht with ht | ht
    · exact h.tasks t ht
    · rw [List.mem_singleton.mp ht]
      exact ⟨hused, honly, by simp⟩

theorem next_unreached (hfew : addrs.length ≤ maxHealthPeers) (s : State K A) (step : Step K A)
    (h : Unreached addrs a k s) (hstep : Unreachable addrs a k s step) : Unreached addrs a k (s.next step) := by
  cases step with
  | tick ms => exact h.setLoop h.kept h.slot rfl rfl (Nat.le_add_right s.now ms) rfl h.loop rfl
  | close connection => exact h.setLoop h.kept h.slot rfl rfl (le_refl s.now) rfl h.loop rfl
  | datagram peer => exact h.datagram hfew hstep
  | openStream kind peer =>
    show Unreached addrs a k (s.openStream kind peer)
    unfold State.openStream
    split
    · split
      · exact h
      · refine ⟨h.kept, h.slot, ?_, h.loop, h.paced.same rfl ?_ rfl (le_refl s.now)⟩
        · intro t ht
          rcases List.mem_append.mp ht with ht | ht
          · exact h.tasks t ht
          · rw [List.mem_singleton.mp ht]
            exact ⟨hstep, by simp⟩
        · unfold State.pending
          simp [Task.unrecorded]
    · exact h
  | loop ok => exact h.advance hfew ok
  | task i ok => exact h.task hfew i ok hstep

end Pacing

/-- **An unreachable peer is dialed three times, and once in three seconds from then on.**  In every run in which
no connection to the peer is established, in which its address and its certificate are used with each other only,
and in which no more addresses are used than the health of the peers has places for: of the dials to the peer which
the loop decides on, those for which every earlier one is recorded are at most three and one more for each three
seconds which have passed, however much is sent to the peer or to other addresses. -/
theorem unreachable_paced {K A : Type} [DecidableEq K] [DecidableEq A] (addrs : List A) (a : A) (k : K)
    (hfew : addrs.length ≤ maxHealthPeers) (steps : List (Step K A))
    (hsteps : Meets State.next (Unreachable addrs a k) start steps) :
    ((run State.next start steps).dials.filter fun d => d.key = k && d.unraced).length ≤
      datagramFailThreshold + (run State.next start steps).now / datagramRetryWindow := by
  have hstart : Unreached addrs a k (start : State K A) := by
    refine ⟨⟨List.nodup_nil, by simp [start]⟩, nofun, by simp [start], trivial, ?_⟩
    exact ⟨Or.inr (Nat.zero_le _), by simp [State.unraced, start], by simp [State.unraced, start],
      by simp [State.unraced, start]⟩
  exact (run_keeps (next_unreached hfew) hstart hsteps).paced.length_le

namespace Sample

/-- A datagram to a peer which does not answer: the loop dials, and the dial fails and is recorded. -/
def attempt (i : ℕ) : List (Step ℕ ℕ) :=
  [.datagram ⟨7, some 1⟩, .loop true, .loop true, .loop true, .task i false, .task i false, .task i false]

/-- Three dials; the fourth datagram is in vain, and the fifth one is three seconds later. -/
def attempts : List (Step ℕ ℕ) :=
  attempt 0 ++ attempt 1 ++ attempt 2 ++ [.datagram ⟨7, some 1⟩, .loop true, .tick 3000] ++ attempt 3

end Sample

theorem unreachable_paced_attempts :
    ((run State.next start Sample.attempts).dials.filter fun d => d.key = 1 && d.unraced).length ≤ 4 :=
  unreachable_paced [7] 7 1 (by decide) Sample.attempts (by decide)

end MyKvm.Transport.Dialing
