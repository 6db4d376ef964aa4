import MyKvm.Lib.Machine
import MyKvm.Lib.Tries
import MyKvm.Pairing.Challenge
import Mathlib.Data.List.Perm.Basic

/-!
# MyKvm.Pairing.Discipline — how often a pairing code may be guessed

The client, with everything that may happen to its challenge: requests and confirmations from anybody, the
questions and the commands of its own user interface, and any change of the layout.  A confirmation takes two
steps, for the lock of the challenge and for that of the layout, and others may come between.  The state keeps a
record of what has happened.

* `pairing_disciplined`: over every run.
-/

namespace MyKvm.Pairing

open MyKvm.Lib MyKvm.Discovery

/-- One comparison of a guess with a code. -/
structure Compared where
  /-- Which of the codes drawn it was. -/
  draw : ℕ
  challenge : PairingChallenge
  requester : LanPeer
  guess : String
  right : Bool
  /-- The certificate which the connection had shown. -/
  presented : Option String
  /-- The requester of the latest request which had been accepted for this id. -/
  latest : Option LanPeer
  now : ℕ
  deriving DecidableEq

/-- A confirmation with the right code, on its way to the layout. -/
structure Granted where
  requester : LanPeer
  clusterId : String
  pairSecret : String
  compared : Compared
  deriving DecidableEq

/-- A confirmation which has taken effect, and the layout it found. -/
structure Completed where
  compared : Compared
  found : LayoutState
  deriving DecidableEq

structure Client where
  layout : LayoutState
  challenge : Option PairingChallenge
  granted : List Granted
  /-- The challenges as they were when their codes were drawn, oldest first. -/
  made : List PairingChallenge
  /-- The requesters whose requests were accepted, newest first. -/
  accepted : List LanPeer
  /-- Newest first. -/
  compared : List Compared
  completed : List Completed
  deriving DecidableEq

namespace Client

def start (layout : LayoutState) : Client :=
  { layout, challenge := none, granted := [], made := [], accepted := [], compared := [], completed := [] }

inductive Move where
  /-- A packet for the discovery socket; the layout is the copy which the loop has made of it. -/
  | discovery (layout : LayoutState) (wire : Option DiscoveryPacket) (sourceIp localId : String) (now : ℕ)
      (nowMs : UInt64)
  /-- A stream on a connection which is not authenticated. -/
  | stream (wire : Option DiscoveryPacket) (presented : Option String) (sourceIp localId : String) (now : ℕ)
      (nowMs : UInt64)
  /-- The confirmation `index` gets the lock of the layout. -/
  | complete (index : ℕ) (nowMs : UInt64)
  | pairingStatus (now : ℕ)
  | dismissPairingRequest
  | resetPairing
  /-- Whatever else happens to the layout. -/
  | edit (layout : LayoutState)

def request (random : ℕ → String) (s : Client) (layout : LayoutState) (requester : LanPeer) (requesterIp : String)
    (now : ℕ) (nowMs : UInt64) : Client :=
  match beginPairingChallenge random s.challenge s.made.length layout requester requesterIp now nowMs with
  | (challenge, drawn, accepted) =>
    { s with
      challenge
      made := if drawn = s.made.length then s.made else s.made ++ challenge.toList
      accepted := if accepted then requester :: s.accepted else s.accepted }

def compare (s : Client) (existing : PairingChallenge) (requester : LanPeer) (code : String) (right : Bool)
    (presented : Option String) (now : ℕ) : Compared :=
  { draw := s.made.length - 1, challenge := existing, requester, guess := trimmed code, right, presented
    latest := s.accepted.find? (·.id = requester.id), now }

def confirm (s : Client) (requester : LanPeer) (code clusterId pairSecret : String)
    (presented : Option String) (now : ℕ) :
    Client :=
  match checkConfirmation s.challenge requester code clusterId pairSecret now, s.challenge with
  | (challenge, .compared right, _), some existing =>
    let compared := s.compare existing requester code right presented now
    { s with
      challenge
      compared := compared :: s.compared
      granted := if right then s.granted ++ [{ requester, clusterId, pairSecret, compared }] else s.granted }
  | (challenge, _, _), _ => { s with challenge }

def complete (s : Client) (index : ℕ) (nowMs : UInt64) : Client :=
  match s.granted[index]? with
  | none => s
  | some granted =>
    match recordPairing s.layout granted.requester granted.clusterId granted.pairSecret nowMs with
    | (layout, answer) =>
      { s with
        layout
        granted := s.granted.eraseIdx index
        completed :=
          if layout ≠ s.layout ∨ answer.isOk then
            { compared := granted.compared, found := s.layout } :: s.completed
          else s.completed }

def next (random : ℕ → String) (s : Client) : Move → Client
  | .discovery layout wire sourceIp localId now nowMs =>
    match incomingDiscovery wire sourceIp localId nowMs with
    | some incoming =>
      if incoming.kind = "pair-request" then s.request random layout incoming.peer sourceIp now nowMs else s
    | none => s
  | .stream wire presented sourceIp localId now nowMs =>
    if pairingConfirmationMatchesPresentedCertificate wire presented then
      match incomingDiscovery wire sourceIp localId nowMs with
      | some incoming =>
        s.confirm incoming.peer (incoming.pairingCode.getD "") (incoming.pairClusterId.getD "")
          (incoming.pairSecret.getD "") presented now
      | none => s
    else s
  | .complete index nowMs => s.complete index nowMs
  | .pairingStatus now => { s with challenge := challengeAfterStatus s.layout s.challenge now }
  | .dismissPairingRequest => { s with challenge := none }
  | .resetPairing => { s with layout := withoutControllers s.layout, challenge := none }
  | .edit layout => { s with layout }

end Client

/-! ### What the functions can do -/

section Functions

variable {layout : LayoutState} {requester : LanPeer} {nowMs : UInt64} {clusterId pairSecret : String}

theorem beginPairingChallenge_cases (random : ℕ → String) (challenge : Option PairingChallenge) (drawn : ℕ)
    (layout : LayoutState) (requester : LanPeer) (requesterIp : String) (now : ℕ) (nowMs : UInt64) :
    beginPairingChallenge random challenge drawn layout requester requesterIp now nowMs =
      (challenge, drawn, false) ∨
    (∃ existing, challenge = some existing ∧ existing.requesterId = requester.id ∧
      beginPairingChallenge random challenge drawn layout requester requesterIp now nowMs =
        (some { existing with
            requesterIp, requesterHost := requester.host, requesterPublicKey := requester.transportPublicKey,
            requesterProtocolVersion := requester.protocolVersion }, drawn, true)) ∨
    ∃ made, beginPairingChallenge random challenge drawn layout requester requesterIp now nowMs =
        (some made, drawn + 1, true) ∧
      made.code = random drawn ∧ made.requesterId = requester.id ∧
      made.requesterPublicKey = requester.transportPublicKey ∧ made.attempts = 0 := by
  unfold beginPairingChallenge
  by_cases hrole : layout.machineRole ≠ "client"
  · rw [if_pos hrole]
    exact .inl rfl
  by_cases hserver : requester.machineRole ≠ "server"
  · rw [if_neg hrole, if_pos hserver]
    exact .inl rfl
  by_cases hknown : (!pairingRequired layout &&
      !layout.pairedControllers.any (pairedControllerCanRepairWithPeer · requester)) = true
  · rw [if_neg hrole, if_neg hserver, if_pos hknown]
    exact .inl rfl
  rw [if_neg hrole, if_neg hserver, if_neg hknown]
  cases challenge with
  | none => exact .inr (.inr ⟨_, rfl, rfl, rfl, rfl, rfl⟩)
  | some existing =>
    dsimp only
    by_cases hlive : now < existing.expiresAt
    · rw [if_pos hlive]
      by_cases hid : existing.requesterId = requester.id
      · rw [if_pos hid]
        by_cases htried : 0 < existing.attempts
        · rw [if_pos htried]
          exact .inr (.inr ⟨_, rfl, rfl, hid, rfl, rfl⟩)
        · rw [if_neg htried]
          exact .inr (.inl ⟨existing, rfl, hid, rfl⟩)
      · rw [if_neg hid]
        exact .inl rfl
    · rw [if_neg hlive]
      exact .inr (.inr ⟨_, rfl, rfl, rfl, rfl, rfl⟩)

/-- The challenge is for this requester, and not over. -/
structure PairingChallenge.Concerns (existing : PairingChallenge) (requester : LanPeer) (now : ℕ) : Prop where
  unexpired : now < existing.expiresAt
  requesterId : existing.requesterId = requester.id
  key : isBlank existing.requesterPublicKey = false → existing.requesterPublicKey = requester.transportPublicKey

/-- The challenge after a wrong guess. -/
def PairingChallenge.guessed (existing : PairingChallenge) : Option PairingChallenge :=
  if pairingMaxAttempts ≤ countAttempt existing.attempts then none
  else some { existing with attempts := countAttempt existing.attempts }

theorem checkConfirmation_cases (challenge : Option PairingChallenge) (requester : LanPeer)
    (code clusterId pairSecret : String) (now : ℕ) :
    (∃ error, checkConfirmation challenge requester code clusterId pairSecret now =
      (challenge, .refused, .error error)) ∨
    (∃ error,
      checkConfirmation challenge requester code clusterId pairSecret now = (none, .expired, .error error)) ∨
    ∃ existing, challenge = some existing ∧ existing.Concerns requester now ∧
      ((existing.code ≠ trimmed code ∧
        ∃ error, checkConfirmation challenge requester code clusterId pairSecret now =
          (existing.guessed, .compared false, .error error)) ∨
        (existing.code = trimmed code ∧ checkConfirmation challenge requester code clusterId pairSecret now =
          (none, .compared true, .ok ()))) := by
  unfold checkConfirmation
  by_cases hblank : (isBlank code || isBlank clusterId || isBlank pairSecret) = true
  · exact .inl ⟨_, by rw [if_pos hblank]⟩
  rw [if_neg hblank]
  cases challenge with
  | none => exact .inl ⟨_, rfl⟩
  | some existing =>
    by_cases hover : existing.expiresAt ≤ now
    · exact .inr (.inl ⟨_, by simp only [hover, if_true]; rfl⟩)
    by_cases hother : existing.requesterId ≠ requester.id ∨ (isBlank existing.requesterPublicKey = false ∧
        existing.requesterPublicKey ≠ requester.transportPublicKey)
    · exact .inl ⟨_, by simp only [hover, hother, if_true, if_false]; rfl⟩
    obtain ⟨hid, hkey⟩ := not_or.mp hother
    refine .inr (.inr ⟨existing, rfl, ⟨by omega, not_not.mp hid, fun hblank => ?_⟩, ?_⟩)
    · by_contra hne
      exact hkey ⟨hblank, hne⟩
    · by_cases hcode : existing.code = trimmed code
      · exact .inr ⟨hcode, by simp [hover, hother, hcode]⟩
      · exact .inl ⟨hcode,
          _, by simp only [hover, hother, hcode, if_false, ne_eq, not_false_eq_true, if_true]; rfl⟩

/-- The message names the key of the certificate. -/
theorem presented_of_matches {wire : Option DiscoveryPacket} {presented : Option String}
    {sourceIp localId : String}
    {incoming : IncomingDiscovery} (h : pairingConfirmationMatchesPresentedCertificate wire presented = true)
    (hincoming : incomingDiscovery wire sourceIp localId nowMs = some incoming) :
    presented = some incoming.peer.transportPublicKey := by
  obtain ⟨packet, rfl, _, _, _, hkey⟩ := incomingDiscovery_eq_some hincoming
  unfold pairingConfirmationMatchesPresentedCertificate at h
  cases presented with
  | none => simp at h
  | some certificate =>
    cases hdecode : decodeDiscoveryPacket (some packet) with
    | none => simp [hdecode] at h
    | some decoded =>
      obtain ⟨hsome, _⟩ := Option.filter_eq_some_iff.mp hdecode
      obtain rfl := Option.some.inj hsome
      have hequal : packet.peer.transportPublicKey = certificate := by
        rw [hdecode] at h
        simp only [Bool.and_eq_true, decide_eq_true_eq] at h
        exact h.2
      rw [hkey, hequal]

theorem recordPairing_role (h : (recordPairing layout requester clusterId pairSecret nowMs).1 ≠ layout ∨
    (recordPairing layout requester clusterId pairSecret nowMs).2.isOk) : layout.machineRole = "client" := by
  by_contra hrole
  simp [recordPairing, hrole, Except.isOk, Except.toBool] at h

theorem countAttempt_toNat (attempts : UInt8) : (countAttempt attempts).toNat = min (attempts.toNat + 1) 255 := by
  have hlt := attempts.toNat_lt
  unfold countAttempt
  by_cases h : attempts = 255
  · subst h
    rfl
  · have hne : attempts.toNat ≠ 255 := fun heq => h (UInt8.toNat_inj.mp heq)
    rw [if_neg h, UInt8.toNat_add]
    show (attempts.toNat + 1) % 2 ^ 8 = _
    omega

theorem PairingChallenge.guessed_attempts (existing : PairingChallenge) :
    existing.guessed.map (·.attempts.toNat) =
      if existing.attempts.toNat + 1 < pairingMaxAttempts.toNat then some (existing.attempts.toNat + 1)
        else none := by
  have hcount := countAttempt_toNat existing.attempts
  have hmax : pairingMaxAttempts.toNat = 5 := rfl
  unfold guessed
  by_cases h : pairingMaxAttempts ≤ countAttempt existing.attempts
  · have hle := UInt8.le_iff_toNat_le.mp h
    rw [if_pos h, if_neg (by omega)]
    rfl
  · have hlt := UInt8.lt_iff_toNat_lt.mp (UInt8.not_le.mp h)
    rw [if_neg h, if_pos (by omega), Option.map_some, hcount]
    congr 1
    omega

end Functions

/-! ### The discipline -/

/-- What a comparison is subject to. -/
structure Compared.Lawful (random : ℕ → String) (made : List PairingChallenge) (c : Compared) : Prop where
  code : c.challenge.code = random c.draw
  right : c.right = true ↔ c.challenge.code = c.guess
  unexpired : c.now < c.challenge.expiresAt
  /-- The guess comes from the id for which the code was made. -/
  requester : ∃ challenge, made[c.draw]? = some challenge ∧ challenge.code = c.challenge.code ∧
    challenge.requesterId = c.requester.id ∧ challenge.expiresAt = c.challenge.expiresAt
  key : ∃ latest, c.latest = some latest ∧ latest.id = c.requester.id ∧
    (isBlank latest.transportPublicKey = false → c.requester.transportPublicKey = latest.transportPublicKey)
  certificate : c.presented = some c.requester.transportPublicKey

theorem Compared.Lawful.append {random : ℕ → String} {made : List PairingChallenge} {c : Compared}
    (h : c.Lawful random made) (more : List PairingChallenge) : c.Lawful random (made ++ more) where
  code := h.code
  right := h.right
  unexpired := h.unexpired
  requester := by
    obtain ⟨challenge, hget, hrest⟩ := h.requester
    have hlt := (List.getElem?_eq_some_iff.mp hget).1
    exact ⟨challenge, by rw [List.getElem?_append_left hlt, hget], hrest⟩
  key := h.key
  certificate := h.certificate

structure Client.Disciplined (random : ℕ → String) (s : Client) : Prop where
  /-- No code is compared with more wrong guesses than allowed. -/
  wrong : ∀ n, (s.compared.filter fun c => c.draw = n ∧ c.right = false).length ≤ pairingMaxAttempts.toNat
  /-- After the right guess the code is compared with nothing. -/
  consumed : s.compared.Pairwise fun later earlier => earlier.draw = later.draw → earlier.right = false
  compared : ∀ c ∈ s.compared, c.Lawful random s.made
  /-- No code completes two confirmations. -/
  once : (s.completed.map (·.compared.draw)).Nodup
  completed : ∀ d ∈ s.completed, d.compared ∈ s.compared ∧ d.compared.right = true ∧ d.found.machineRole = "client"

namespace Client

/-- The tries of the codes. -/
def tries (s : Client) : Tries where
  issued := s.made.length
  spent := s.challenge.map (·.attempts.toNat)
  log := s.compared.map fun c => (c.draw, c.right)

/-- The codes whose right guess is on its way to the layout, or has been there. -/
def guessed (s : Client) : List ℕ := s.granted.map (·.compared.draw) ++ s.completed.map (·.compared.draw)

structure Standing (random : ℕ → String) (s : Client) : Prop where
  tries : s.tries.Sound pairingMaxAttempts.toNat
  drawn : ∀ n challenge, s.made[n]? = some challenge → challenge.code = random n
  /-- The challenge is the last one made, and knows the key of its latest request. -/
  challenge : ∀ challenge, s.challenge = some challenge →
    (∃ made, s.made.getLast? = some made ∧ made.code = challenge.code ∧ made.requesterId = challenge.requesterId ∧
      made.expiresAt = challenge.expiresAt) ∧
    ∃ latest, s.accepted.find? (·.id = challenge.requesterId) = some latest ∧
      latest.transportPublicKey = challenge.requesterPublicKey
  compared : ∀ c ∈ s.compared, c.Lawful random s.made
  granted : ∀ g ∈ s.granted, g.compared ∈ s.compared ∧ g.compared.right = true
  completed : ∀ d ∈ s.completed, d.compared ∈ s.compared ∧ d.compared.right = true ∧ d.found.machineRole = "client"
  guessed : s.guessed.Nodup

variable {random : ℕ → String} {s : Client}

theorem standing_start (layout : LayoutState) : Standing random (start layout) where
  tries := Tries.sound_fresh
  drawn := by simp [start]
  challenge := by simp [start]
  compared := by simp [start]
  granted := by simp [start]
  completed := by simp [start]
  guessed := by simp [start, Client.guessed]

theorem Standing.disciplined (h : Standing random s) : s.Disciplined random where
  wrong := fun n => by
    have hcount := h.tries.wrong n
    have heq :
        s.tries.log.count (n, false) = (s.compared.filter fun c => c.draw = n ∧ c.right = false).length := by
      show (s.compared.map fun c => (c.draw, c.right)).count (n, false) = _
      rw [List.count_eq_countP, List.countP_map, List.countP_eq_length_filter]
      congr 1
      refine List.filter_congr fun c _ => ?_
      rw [Bool.eq_iff_iff]
      simp
    omega
  consumed := List.pairwise_map.mp h.tries.consumed
  compared := h.compared
  once := (List.nodup_append.mp h.guessed).2.1
  completed := h.completed

/-- The challenge is gone, or was never touched. -/
theorem Standing.withChallenge (h : Standing random s) {challenge : Option PairingChallenge}
    (hc : challenge = none ∨ challenge = s.challenge) : Standing random { s with challenge } := by
  rcases hc with rfl | rfl
  · exact { h with tries := h.tries.next (by decide) .drop, challenge := by simp }
  · exact h

theorem Standing.withLayout (h : Standing random s) (layout : LayoutState) : Standing random { s with layout } :=
  { h with }

theorem Standing.request (h : Standing random s) (layout : LayoutState) (requester : LanPeer)
    (requesterIp : String)
    (now : ℕ) (nowMs : UInt64) : Standing random (s.request random layout requester requesterIp now nowMs) := by
  unfold Client.request
  rcases beginPairingChallenge_cases random s.challenge s.made.length layout requester requesterIp now nowMs with
    heq | ⟨existing, hexisting, hid, heq⟩ | ⟨made, heq, hcode, hid, hkey, hattempts⟩
  · rw [heq]
    simpa using h
  · obtain ⟨hmade, _⟩ := h.challenge existing hexisting
    have htries : s.tries.spent = some existing.attempts.toNat := by simp [Client.tries, hexisting]
    rw [heq]
    simp only [if_true]
    refine { h with tries := ?_, challenge := ?_ }
    · show Tries.Sound _ { s.tries with spent := some existing.attempts.toNat }
      rw [← htries]
      exact h.tries
    · intro challenge hchallenge
      obtain rfl := Option.some.inj hchallenge
      exact ⟨hmade, requester, by simp [hid], rfl⟩
  · rw [heq]
    have hgrown : ¬ s.made.length + 1 = s.made.length := by omega
    simp only [hgrown, if_true, if_false, Option.toList_some]
    refine ⟨?_, ?_, ?_, fun c hc => (h.compared c hc).append _, h.granted, h.completed, h.guessed⟩
    · have hissue := h.tries.next (by decide) .issue
      simpa [Client.tries, Tries.next, hattempts] using hissue
    · intro n challenge hget
      rcases Nat.lt_or_ge n s.made.length with hlt | hge
      · rw [List.getElem?_append_left hlt] at hget
        exact h.drawn n challenge hget
      · rw [List.getElem?_append_right hge] at hget
        obtain ⟨hzero, rfl⟩ : n - s.made.length = 0 ∧ made = challenge := by
          simpa [List.getElem?_singleton] using hget
        rw [hcode]
        congr 1
        omega
    · intro challenge hchallenge
      obtain rfl := Option.some.inj hchallenge
      exact ⟨⟨made, by simp, rfl, rfl, rfl⟩, requester, by simp [hid], hkey.symm⟩

/-- The comparison which the confirmation makes is lawful. -/
theorem Standing.compare (h : Standing random s) {existing : PairingChallenge}
    (hexisting : s.challenge = some existing)
    {requester : LanPeer} {now : ℕ} (hconcerns : existing.Concerns requester now) {code : String} {right : Bool}
    (hright : right = true ↔ existing.code = trimmed code) :
    (s.compare existing requester code right (some requester.transportPublicKey) now).Lawful random s.made := by
  obtain ⟨⟨made, hlast, hcode, hid, hexpires⟩, latest, hlatest, hkey⟩ := h.challenge existing hexisting
  rw [List.getLast?_eq_getElem?] at hlast
  rw [hconcerns.requesterId] at hlatest hid
  refine ⟨?_, hright, hconcerns.unexpired, ⟨made, hlast, hcode, hid, hexpires⟩, ⟨latest, hlatest, ?_, ?_⟩, rfl⟩
  · exact hcode ▸ h.drawn _ made hlast
  · show latest.id = requester.id
    simpa using List.find?_some hlatest
  · intro hblank
    rw [hkey] at hblank ⊢
    exact (hconcerns.key hblank).symm

/-- The code which can still be guessed has not been guessed. -/
theorem Standing.not_mem_guessed (h : Standing random s) {existing : PairingChallenge}
    (hexisting : s.challenge = some existing) : s.made.length - 1 ∉ s.guessed := by
  obtain ⟨_, _, _, hopen⟩ := h.tries.current existing.attempts.toNat (by simp [Client.tries, hexisting])
  have hnot : ∀ c ∈ s.compared, c.right = true → c.draw ≠ s.made.length - 1 := by
    intro c hc hright hdraw
    have hfalse := hopen (c.draw, c.right) (List.mem_map.mpr ⟨c, hc, rfl⟩) hdraw
    simp [hright] at hfalse
  intro hmem
  rcases List.mem_append.mp hmem with hgranted | hcompleted
  · obtain ⟨g, hg, hdraw⟩ := List.mem_map.mp hgranted
    exact hnot _ (h.granted g hg).1 (h.granted g hg).2 hdraw
  · obtain ⟨d, hd, hdraw⟩ := List.mem_map.mp hcompleted
    exact hnot _ (h.completed d hd).1 (h.completed d hd).2.1 hdraw

theorem Standing.confirm (h : Standing random s) {requester : LanPeer} {presented : Option String}
    (hpresented : presented = some requester.transportPublicKey) (code clusterId pairSecret : String) (now : ℕ) :
    Standing random (s.confirm requester code clusterId pairSecret presented now) := by
  subst hpresented
  unfold Client.confirm
  rcases checkConfirmation_cases s.challenge requester code clusterId pairSecret now with
    ⟨error, heq⟩ | ⟨error, heq⟩ | ⟨existing, hexisting, hconcerns, ⟨hcode, error, heq⟩ | ⟨hcode, heq⟩⟩
  · rw [heq]
    exact h
  · rw [heq]
    exact h.withChallenge (.inl rfl)
  · have hspent : s.tries.spent = some existing.attempts.toNat := by simp [Client.tries, hexisting]
    have hlawful := h.compare hexisting hconcerns
      (show false = true ↔ existing.code = trimmed code by simpa using hcode)
    rw [heq, hexisting]
    dsimp only
    refine ⟨?_, h.drawn, ?_, ?_, ?_, ?_, h.guessed⟩
    · have hnext := h.tries.next (by decide) .wrong
      simp only [Tries.next, hspent, ← existing.guessed_attempts] at hnext
      exact hnext
    · intro challenge hchallenge
      unfold PairingChallenge.guessed at hchallenge
      by_cases hlast : pairingMaxAttempts ≤ countAttempt existing.attempts
      · simp [hlast] at hchallenge
      · rw [if_neg hlast, Option.some.injEq] at hchallenge
        subst hchallenge
        exact h.challenge existing hexisting
    · exact List.forall_mem_cons.mpr ⟨hlawful, h.compared⟩
    · exact fun g hg => ⟨List.mem_cons_of_mem _ (h.granted g hg).1, (h.granted g hg).2⟩
    · exact fun d hd => ⟨List.mem_cons_of_mem _ (h.completed d hd).1, (h.completed d hd).2⟩
  · have hspent : s.tries.spent = some existing.attempts.toNat := by simp [Client.tries, hexisting]
    have hlawful := h.compare hexisting hconcerns
      (show true = true ↔ existing.code = trimmed code by simpa using hcode)
    rw [heq, hexisting]
    simp only [if_true]
    refine ⟨?_, h.drawn, by simp, List.forall_mem_cons.mpr ⟨hlawful, h.compared⟩, ?_, ?_, ?_⟩
    · have hnext := h.tries.next (by decide) .right
      simp only [Tries.next, hspent] at hnext
      exact hnext
    · intro g hg
      rcases List.mem_append.mp hg with hold | hnew
      · exact ⟨List.mem_cons_of_mem _ (h.granted g hold).1, (h.granted g hold).2⟩
      · obtain rfl := List.mem_singleton.mp hnew
        exact ⟨List.mem_cons_self, rfl⟩
    · exact fun d hd => ⟨List.mem_cons_of_mem _ (h.completed d hd).1, (h.completed d hd).2⟩
    · have hnew := h.not_mem_guessed hexisting
      have hperm :
          (s.granted.map (·.compared.draw) ++ [s.made.length - 1] ++ s.completed.map (·.compared.draw)).Perm
          ((s.made.length - 1) :: s.guessed) := by
        rw [List.append_assoc]
        exact List.perm_middle
      have hnodup := hperm.nodup_iff.mpr (List.nodup_cons.mpr ⟨hnew, h.guessed⟩)
      simpa [Client.guessed, Client.compare] using hnodup

theorem Standing.complete (h : Standing random s) (index : ℕ) (nowMs : UInt64) :
    Standing random (s.complete index nowMs) := by
  unfold Client.complete
  cases hget : s.granted[index]? with
  | none => exact h
  | some granted =>
    dsimp only
    obtain ⟨hlt, hentry⟩ := List.getElem?_eq_some_iff.mp hget
    obtain ⟨hcompared, hright⟩ := h.granted granted (List.mem_of_getElem? hget)
    have hleft : ∀ g ∈ s.granted.eraseIdx index, g.compared ∈ s.compared ∧ g.compared.right = true :=
      fun g hg => h.granted g (List.mem_of_mem_eraseIdx hg)
    -- The codes stay the same, with this one moved from the first list to the second.
    have hperm : (granted.compared.draw :: (s.granted.eraseIdx index).map (·.compared.draw)).Perm
        (s.granted.map (·.compared.draw)) := by
      have hcons := (List.getElem_cons_eraseIdx_perm hlt).map (·.compared.draw)
      rwa [hentry, List.map_cons] at hcons
    have hmoved : ((s.granted.eraseIdx index).map (·.compared.draw) ++
        granted.compared.draw :: s.completed.map (·.compared.draw)).Nodup :=
      (List.perm_middle.trans (hperm.append_right _)).nodup_iff.mpr h.guessed
    by_cases heffect :
        (recordPairing s.layout granted.requester granted.clusterId granted.pairSecret nowMs).1 ≠ s.layout ∨
        (recordPairing s.layout granted.requester granted.clusterId granted.pairSecret nowMs).2.isOk
    · rw [if_pos heffect]
      exact { h with
        granted := hleft
        completed := List.forall_mem_cons.mpr ⟨⟨hcompared, hright, recordPairing_role heffect⟩, h.completed⟩
        guessed := hmoved }
    · rw [if_neg heffect]
      exact { h with
        granted := hleft
        guessed := hmoved.sublist ((List.Sublist.refl _).append (List.sublist_cons_self _ _)) }

theorem Standing.next (h : Standing random s) (move : Move) : Standing random (s.next random move) := by
  cases move with
  | discovery layout wire sourceIp localId now nowMs =>
    unfold Client.next
    dsimp only
    cases hincoming : incomingDiscovery wire sourceIp localId nowMs with
    | none => exact h
    | some incoming =>
      by_cases hkind : incoming.kind = "pair-request"
      · simp only [hkind, if_true]
        exact h.request layout incoming.peer sourceIp now nowMs
      · simp only [hkind, if_false]
        exact h
  | stream wire presented sourceIp localId now nowMs =>
    unfold Client.next
    dsimp only
    by_cases hmatches : pairingConfirmationMatchesPresentedCertificate wire presented = true
    · rw [if_pos hmatches]
      cases hincoming : incomingDiscovery wire sourceIp localId nowMs with
      | none => exact h
      | some incoming => exact h.confirm (presented_of_matches hmatches hincoming) _ _ _ now
    · rw [if_neg hmatches]
      exact h
  | complete index nowMs => exact h.complete index nowMs
  | pairingStatus now =>
    refine h.withChallenge ?_
    unfold challengeAfterStatus
    by_cases hidle : s.layout.machineRole ≠ "client" ∨ s.layout.pairedControllers ≠ []
    · exact .inr (if_pos hidle)
    · rw [if_neg hidle]
      cases s.challenge with
      | none => exact .inl rfl
      | some challenge =>
        by_cases hlive : now < challenge.expiresAt
        · exact .inr (by simp [Option.filter, hlive])
        · exact .inl (by simp [Option.filter, hlive])
  | dismissPairingRequest => exact h.withChallenge (.inl rfl)
  | resetPairing => exact (h.withChallenge (.inl rfl)).withLayout _
  | edit layout => exact h.withLayout layout

end Client

/-- **Pairing codes are disciplined.**  Over every run of requests, confirmations and commands, from any senders
and at any times: no code is compared with more than the allowed number of wrong guesses, the right guess consumes
it and completes one confirmation at most, and a guess is compared only from the id for which the code was made,
with the key of its latest request, before the code expires and on a connection which has shown the key; it takes
effect only on a client. -/
theorem pairing_disciplined (random : ℕ → String) (layout : LayoutState) (moves : List Client.Move) :
    (run (Client.next random) (Client.start layout) moves).Disciplined random :=
  have hstanding : Client.Standing random (run (Client.next random) (Client.start layout) moves) :=
    run_invariant (I := Client.Standing random) (fun _ move h => h.next move) (Client.standing_start layout) moves
  hstanding.disciplined

end MyKvm.Pairing
