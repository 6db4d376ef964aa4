import Mathlib.Data.List.Destutter
import Mathlib.Data.List.Sort
import Mathlib.Data.String.Basic
import MyKvm.Discovery.Peers
import MyKvm.Hook.Hotkeys
import MyKvm.Lib.Trimming

/-!
# MyKvm.Discovery.Targets — where discovery packets are sent

The machines meet at a base port, and use one of the ports after it when that one is taken.  So packets go to eight
ports from the base port on, at the broadcast addresses, and at the hosts which are known also to the port which
was advertised.

* `bound_mem_targetPorts`: a machine which finds one of the eight ports free is at one of them.
* `known_mem_targets`, `controller_mem_targets`: a device is asked at the address and the port it is known by, and
  a paired controller at its address.
-/

namespace MyKvm.Discovery

open MyKvm.Lib MyKvm.Hook

/-! ### Ports -/

def discoveryPortSpan : ℕ := 8

/-- `checked_add` -/
def checkedAdd16 (v w : UInt16) : Option UInt16 := if v.toNat + w.toNat < 2 ^ 16 then some (v + w) else none

/-- The loop over the offsets, which ends at the last port there is. -/
def portsFrom (start : UInt16) : List ℕ → List UInt16
  | [] => []
  | offset :: offsets =>
    match checkedAdd16 start (UInt16.ofNat offset) with
    | some port => port :: portsFrom start offsets
    | none => []

def discoveryTargetPorts (base : UInt16) : List UInt16 :=
  portsFrom (normalizeTransportPort base) (List.range discoveryPortSpan)

/-- The first port which can be bound; `ephemeral` is what the system offers when there is none. -/
def bindAvailableUdpPort (binds : UInt16 → Bool) (ephemeral : Except String UInt16) (preferred : UInt16) :
    Except String UInt16 :=
  match (portsFrom (normalizeTransportPort preferred) (List.range 64)).find? binds with
  | some port => .ok port
  | none => ephemeral

/-! ### Texts -/

/-- `sort` and `dedup` -/
def sortDedup {α : Type*} [DecidableEq α] (r : α → α → Prop) [DecidableRel r] (entries : List α) : List α :=
  (entries.insertionSort r).destutter (· ≠ ·)

/-- `rsplit_once` -/
def rsplitOnce (separator : Char) (text : List Char) : Option (List Char × List Char) :=
  if separator ∈ text then
    some (((text.reverse.dropWhile (· ≠ separator)).drop 1).reverse,
      (text.reverse.takeWhile (· ≠ separator)).reverse)
  else none

/-- `format!("{host}:{port}")` -/
def target (host : String) (port : UInt16) : String := host ++ ":" ++ Nat.repr port.toNat

def splitHostPort (input : String) : String × Option UInt16 :=
  match rsplitOnce ':' input.toList with
  | some (host, port) =>
    if trim host ≠ [] then
      match parseU16 (trim port) with
      | some port => (String.ofList (trim host), some port)
      | none => (trimmed input, none)
    else (trimmed input, none)
  | none => (trimmed input, none)

def hostCandidates (hostValue : String) : List String :=
  sortDedup (· ≤ ·) (((hostValue.toList.splitOn '/').map fun part => trimmed (String.ofList part)).filter (· ≠ ""))

def pushHostDiscoveryTargets (targets : List String) (hostValue : String) (ports : List UInt16) : List String :=
  (hostCandidates hostValue).foldl
    (fun targets host => match splitHostPort host with
      | (host, explicitPort) =>
        if isBlank host then targets else match explicitPort with
          | some port => targets ++ [target host port]
          | none => targets ++ ports.map (target host))
    targets

/-! ### Addresses and targets -/

structure Ipv4Addr where
  (a b c d : UInt8)
  deriving DecidableEq

/-- `to_string` of the address -/
def Ipv4Addr.text (ip : Ipv4Addr) : String :=
  Nat.repr ip.a.toNat ++ "." ++ Nat.repr ip.b.toNat ++ "." ++ Nat.repr ip.c.toNat ++ "." ++ Nat.repr ip.d.toNat

def limitedBroadcast : Ipv4Addr := ⟨255, 255, 255, 255⟩

def Ipv4Addr.broadcast (ip : Ipv4Addr) : Ipv4Addr := { ip with d := 255 }

def broadcastAddrsForIps (basePort : UInt16) (localIps : List Ipv4Addr) : List String :=
  sortDedup (· ≤ ·) ((discoveryTargetPorts basePort).flatMap fun port =>
    target limitedBroadcast.text port :: localIps.map fun ip => target ip.broadcast.text port)

def knownPeerPorts (basePort storedPort : UInt16) : List UInt16 :=
  let ports := discoveryTargetPorts basePort
  let storedPort := normalizeTransportPort storedPort
  sortDedup (· ≤ ·) (if storedPort ∈ ports then ports else ports ++ [storedPort])

/-- The hosts of the devices, and both the address and the host of the paired controllers. -/
def knownPeerDiscoveryTargets (layout : LayoutState) (basePort : UInt16) : List String :=
  let ofDevices := (layout.devices.filter (·.role ≠ "local")).foldl
    (fun targets device =>
      pushHostDiscoveryTargets targets device.host (knownPeerPorts basePort device.transportPort)) []
  let ofControllers := layout.pairedControllers.foldl
    (fun targets controller =>
      pushHostDiscoveryTargets (pushHostDiscoveryTargets targets controller.ip (discoveryTargetPorts basePort))
        controller.host (discoveryTargetPorts basePort)) ofDevices
  sortDedup (· ≤ ·) ofControllers

/-! ### The ports -/

section Ports

variable {start port base : UInt16}

theorem checkedAdd16_eq_some {v w sum : UInt16} : checkedAdd16 v w = some sum ↔ v.toNat + w.toNat = sum.toNat := by
  unfold checkedAdd16
  have hsum : (v + w).toNat = (v.toNat + w.toNat) % 2 ^ 16 := UInt16.toNat_add v w
  split
  · rename_i hlt
    rw [Nat.mod_eq_of_lt hlt] at hsum
    rw [Option.some.injEq, ← UInt16.toNat_inj, hsum]
  · rename_i hge
    have hlt := sum.toNat_lt
    simp only [reduceCtorEq, false_iff]
    omega

/-- The loop from an offset on: its ports are those with an offset in the range. -/
theorem mem_portsFrom_range' (n offset : ℕ) (hsmall : offset + n ≤ 2 ^ 16) :
    port ∈ portsFrom start (List.range' offset n) ↔
      start.toNat + offset ≤ port.toNat ∧ port.toNat < start.toNat + offset + n := by
  induction n generalizing offset with
  | zero => simp only [List.range'_zero, portsFrom, List.not_mem_nil, false_iff]; omega
  | succ n ih =>
    have hoffset : (UInt16.ofNat offset).toNat = offset := UInt16.toNat_ofNat_of_lt' (show offset < 65536 by omega)
    rw [List.range'_succ, portsFrom]
    cases hadd : checkedAdd16 start (UInt16.ofNat offset) with
    | none =>
      have hport := port.toNat_lt
      have hover : ¬ start.toNat + offset < 2 ^ 16 := by
        intro hlt
        rw [checkedAdd16, hoffset, if_pos hlt] at hadd
        cases hadd
      simp only [List.not_mem_nil, false_iff]
      omega
    | some first =>
      have hfirst := checkedAdd16_eq_some.mp hadd
      rw [hoffset] at hfirst
      rw [List.mem_cons, ih (offset + 1) (by omega), ← UInt16.toNat_inj]
      omega

theorem pairwise_portsFrom (start : UInt16) (n offset : ℕ) (hsmall : offset + n ≤ 2 ^ 16) :
    (portsFrom start (List.range' offset n)).Pairwise (· < ·) := by
  induction n generalizing offset with
  | zero => exact List.Pairwise.nil
  | succ n ih =>
    have hoffset : (UInt16.ofNat offset).toNat = offset := UInt16.toNat_ofNat_of_lt' (show offset < 65536 by omega)
    rw [List.range'_succ, portsFrom]
    cases hadd : checkedAdd16 start (UInt16.ofNat offset) with
    | none => exact List.Pairwise.nil
    | some first =>
      have hfirst := checkedAdd16_eq_some.mp hadd
      rw [hoffset] at hfirst
      refine List.Pairwise.cons (fun port hport => ?_) (ih (offset + 1) (by omega))
      have hlow := ((mem_portsFrom_range' n (offset + 1) (by omega)).mp hport).1
      exact UInt16.lt_iff_toNat_lt.mpr (by omega)

theorem mem_discoveryTargetPorts : port ∈ discoveryTargetPorts base ↔
    (normalizeTransportPort base).toNat ≤ port.toNat ∧ port.toNat < (normalizeTransportPort base).toNat + 8 := by
  rw [discoveryTargetPorts, List.range_eq_range', discoveryPortSpan, mem_portsFrom_range' 8 0 (by decide)]
  omega

/-- **A machine which finds one of the eight ports free is at one of them.** -/
theorem bound_mem_targetPorts {binds : UInt16 → Bool} {ephemeral : Except String UInt16} {bound : UInt16}
    (h : bindAvailableUdpPort binds ephemeral base = .ok bound)
    (hfree : ∃ port ∈ discoveryTargetPorts base, binds port) :
    bound ∈ discoveryTargetPorts base := by
  obtain ⟨free, hmem, hbinds⟩ := hfree
  rw [mem_discoveryTargetPorts] at hmem ⊢
  have hrange : portsFrom (normalizeTransportPort base) (List.range 64) =
      portsFrom (normalizeTransportPort base) (List.range' 0 64) := by rw [List.range_eq_range']
  have hlater : free ∈ portsFrom (normalizeTransportPort base) (List.range' 0 64) :=
    (mem_portsFrom_range' 64 0 (by decide)).mpr (by omega)
  unfold bindAvailableUdpPort at h
  rw [hrange] at h
  cases hfind : (portsFrom (normalizeTransportPort base) (List.range' 0 64)).find? binds with
  | none => exact absurd hbinds (List.find?_eq_none.mp hfind free hlater)
  | some first =>
    rw [hfind] at h
    obtain rfl := Except.ok.inj h
    obtain ⟨-, before, after, hsplit, hbefore⟩ := List.find?_eq_some_iff_append.mp hfind
    have hlow := ((mem_portsFrom_range' 64 0 (by decide)).mp (List.mem_of_find?_eq_some hfind)).1
    -- what is bound comes first among the ports which can be
    have hle : first.toNat ≤ free.toNat := by
      have hordered := pairwise_portsFrom (normalizeTransportPort base) 64 0 (by decide)
      rw [hsplit] at hlater hordered
      rcases List.mem_append.mp hlater with hearly | hlate
      · exact absurd hbinds (by simpa using hbefore free hearly)
      rcases List.mem_cons.mp hlate with rfl | hafter
      · exact Nat.le_refl _
      · obtain ⟨-, hrest, -⟩ := List.pairwise_append.mp hordered
        exact Nat.le_of_lt (UInt16.lt_iff_toNat_lt.mp ((List.pairwise_cons.mp hrest).1 free hafter))
    omega

end Ports

/-! ### The texts -/

theorem mem_destutter {α : Type*} [DecidableEq α] {entry : α} (entries : List α) :
    entry ∈ entries.destutter (· ≠ ·) ↔ entry ∈ entries := by
  refine ⟨fun h => (List.destutter_sublist _ entries).subset h, fun h => ?_⟩
  have hkept : ∀ (entries : List α) (first : α), entry ∈ first :: entries →
      entry ∈ entries.destutter' (· ≠ ·) first := by
    intro entries
    induction entries with
    | nil => exact fun first h => h
    | cons next entries ih =>
      intro first h
      by_cases hne : first ≠ next
      · rw [List.destutter'_cons_pos _ hne]
        rcases List.mem_cons.mp h with rfl | hrest
        · exact List.mem_cons_self
        · exact List.mem_cons_of_mem _ (ih next hrest)
      · rw [List.destutter'_cons_neg _ hne]
        obtain rfl := not_not.mp hne
        rcases List.mem_cons.mp h with rfl | hrest
        · exact ih _ List.mem_cons_self
        · exact ih _ hrest
  cases entries with
  | nil => cases h
  | cons first entries => exact hkept entries first h

@[simp] theorem mem_sortDedup {α : Type*} [DecidableEq α] {r : α → α → Prop} [DecidableRel r] {entry : α}
    (entries : List α) : entry ∈ sortDedup r entries ↔ entry ∈ entries := by
  rw [sortDedup, mem_destutter, List.mem_insertionSort]

/-- A text of digits and points, which is how addresses are written. -/
structure Dotted (text : String) : Prop where
  ne_nil : text.toList ≠ []
  chars : ∀ c ∈ text.toList, c.isDigit = true ∨ c = '.'

theorem isDigit_repr {n : ℕ} {c : Char} (h : c ∈ (Nat.repr n).toList) : c.isDigit = true := by
  rw [Nat.repr, String.toList_ofList] at h
  exact Nat.isDigit_of_mem_toDigits (by decide) (by decide) h

theorem Ipv4Addr.dotted (ip : Ipv4Addr) : Dotted ip.text := by
  constructor
  · simp [Ipv4Addr.text, String.toList_append]
  · intro c hc
    simp only [Ipv4Addr.text, String.toList_append, List.mem_append] at hc
    have hpoint : c ∈ ".".toList → c = '.' := by simp
    rcases hc with (((((h | h) | h) | h) | h) | h) | h
    · exact .inl (isDigit_repr h)
    · exact .inr (hpoint h)
    · exact .inl (isDigit_repr h)
    · exact .inr (hpoint h)
    · exact .inl (isDigit_repr h)
    · exact .inr (hpoint h)
    · exact .inl (isDigit_repr h)

section Dotted

variable {host : String} (h : Dotted host)

include h

theorem Dotted.not_whitespace {c : Char} (hc : c ∈ host.toList) : isWhitespace c = false := by
  rcases h.chars c hc with hdigit | rfl
  · simp only [Char.isDigit, Bool.and_eq_true, decide_eq_true_eq] at hdigit
    obtain ⟨hlow, hhigh⟩ := hdigit
    have hlow' : 48 ≤ c.toNat := hlow
    have hhigh' : c.toNat ≤ 57 := hhigh
    unfold isWhitespace
    simp only [Bool.or_eq_false_iff, Bool.and_eq_false_iff, decide_eq_false_iff_not, beq_eq_false_iff_ne]
    omega
  · decide

theorem Dotted.trim : trim host.toList = host.toList := by
  rw [trim_eq, trimMatches_eq_self_iff]
  exact ⟨fun c hc => h.not_whitespace (List.mem_of_head? hc),
    fun c hc => h.not_whitespace (List.mem_of_getLast? hc)⟩

theorem Dotted.trimmed : trimmed host = host := by
  rw [Lib.trimmed, h.trim, String.ofList_toList]

theorem Dotted.isBlank : isBlank host = false := by
  obtain ⟨c, hc⟩ := List.exists_mem_of_ne_nil _ h.ne_nil
  refine Bool.eq_false_iff.mpr fun hblank => ?_
  have := List.all_eq_true.mp hblank c hc
  rw [h.not_whitespace hc] at this
  cases this

theorem Dotted.not_mem {c : Char} (hdigit : c.isDigit = false) (hpoint : c ≠ '.') : c ∉ host.toList := by
  intro hc
  rcases h.chars c hc with his | rfl
  · rw [hdigit] at his
    cases his
  · exact hpoint rfl

/-- An address is one host, without a port. -/
theorem Dotted.hostCandidates : hostCandidates host = [host] := by
  have hsplit : host.toList.splitOn '/' = [host.toList] :=
    List.splitOn_eq_singleton (h.not_mem (by decide) (by decide))
  have hne : host ≠ "" := by
    rintro rfl
    exact h.ne_nil rfl
  rw [Discovery.hostCandidates, hsplit, List.map_singleton, String.ofList_toList, h.trimmed]
  simp [hne, sortDedup]

theorem Dotted.splitHostPort : splitHostPort host = (host, none) := by
  rw [Discovery.splitHostPort, rsplitOnce, if_neg (h.not_mem (by decide) (by decide))]
  dsimp only
  rw [h.trimmed]

theorem Dotted.pushHostDiscoveryTargets (targets : List String) (ports : List UInt16) :
    pushHostDiscoveryTargets targets host ports = targets ++ ports.map (target host) := by
  rw [Discovery.pushHostDiscoveryTargets, h.hostCandidates, List.foldl_cons, List.foldl_nil, h.splitHostPort]
  dsimp only
  rw [h.isBlank]
  rfl

end Dotted

/-! ### Who is asked -/

theorem subset_pushHostDiscoveryTargets (targets : List String) (hostValue : String) (ports : List UInt16) :
    targets ⊆ pushHostDiscoveryTargets targets hostValue ports := by
  unfold pushHostDiscoveryTargets
  induction hostCandidates hostValue generalizing targets with
  | nil => exact fun _ h => h
  | cons host hosts ih =>
    rw [List.foldl_cons]
    refine List.Subset.trans (fun entry hentry => ?_) (ih _)
    split
    split
    · exact hentry
    split
    · exact List.mem_append_left _ hentry
    · exact List.mem_append_left _ hentry

theorem mem_knownPeerPorts {port base stored : UInt16} :
    port ∈ knownPeerPorts base stored ↔ port ∈ discoveryTargetPorts base ∨
    port = normalizeTransportPort stored := by
  unfold knownPeerPorts
  rw [mem_sortDedup]
  split
  · rename_i hmem
    refine ⟨.inl, ?_⟩
    rintro (h | rfl)
    · exact h
    · exact hmem
  · rw [List.mem_append, List.mem_singleton]

/-- The loop over the devices keeps what it has, and asks every device. -/
theorem mem_pushDevices {base : UInt16} {entry : String} (devices : List Device) (targets : List String)
    (hentry : entry ∈ targets ∨ ∃ device ∈ devices, Dotted device.host ∧
      ∃ port ∈ knownPeerPorts base device.transportPort, entry = target device.host port) :
    entry ∈ devices.foldl (fun targets device =>
      pushHostDiscoveryTargets targets device.host (knownPeerPorts base device.transportPort)) targets := by
  induction devices generalizing targets with
  | nil =>
    rcases hentry with h | ⟨device, hmem, -⟩
    · exact h
    · cases hmem
  | cons first devices ih =>
    rw [List.foldl_cons]
    refine ih _ ?_
    rcases hentry with h | ⟨device, hmem, hdotted, port, hport, rfl⟩
    · exact .inl (subset_pushHostDiscoveryTargets _ _ _ h)
    rcases List.mem_cons.mp hmem with rfl | hrest
    · refine .inl ?_
      rw [hdotted.pushHostDiscoveryTargets]
      exact List.mem_append_right _ (List.mem_map_of_mem hport)
    · exact .inr ⟨device, hrest, hdotted, port, hport, rfl⟩

/-- The loop over the paired controllers keeps what it has, and asks every controller at its address. -/
theorem mem_pushControllers {base : UInt16} {entry : String} (controllers : List PairedController)
    (targets : List String) (hentry : entry ∈ targets ∨ ∃ controller ∈ controllers, Dotted controller.ip ∧
      ∃ port ∈ discoveryTargetPorts base, entry = target controller.ip port) :
    entry ∈ controllers.foldl (fun targets controller =>
      pushHostDiscoveryTargets (pushHostDiscoveryTargets targets controller.ip (discoveryTargetPorts base))
        controller.host (discoveryTargetPorts base)) targets := by
  induction controllers generalizing targets with
  | nil =>
    rcases hentry with h | ⟨controller, hmem, -⟩
    · exact h
    · cases hmem
  | cons first controllers ih =>
    rw [List.foldl_cons]
    refine ih _ ?_
    rcases hentry with h | ⟨controller, hmem, hdotted, port, hport, rfl⟩
    · exact .inl (subset_pushHostDiscoveryTargets _ _ _ (subset_pushHostDiscoveryTargets _ _ _ h))
    rcases List.mem_cons.mp hmem with rfl | hrest
    · refine .inl (subset_pushHostDiscoveryTargets _ _ _ ?_)
      rw [hdotted.pushHostDiscoveryTargets]
      exact List.mem_append_right _ (List.mem_map_of_mem hport)
    · exact .inr ⟨controller, hrest, hdotted, port, hport, rfl⟩

/-- **A device is asked at the address and the port it is known by.** -/
theorem known_mem_targets {layout : LayoutState} {base : UInt16} {device : Device} (hmem : device ∈ layout.devices)
    (hrole : device.role ≠ "local") (hdotted : Dotted device.host) :
    target device.host (normalizeTransportPort device.transportPort) ∈ knownPeerDiscoveryTargets layout base := by
  unfold knownPeerDiscoveryTargets
  rw [mem_sortDedup]
  have hport : normalizeTransportPort device.transportPort ∈ knownPeerPorts base device.transportPort :=
    mem_knownPeerPorts.mpr (.inr rfl)
  have hdevices := mem_pushDevices (layout.devices.filter (·.role ≠ "local")) [] (.inr ⟨device,
    List.mem_filter.mpr ⟨hmem, by simpa using hrole⟩, hdotted, _, hport, rfl⟩)
  exact mem_pushControllers _ _ (.inl hdevices)

/-- **A paired controller is asked at its address**, at all ports where the machines meet. -/
theorem controller_mem_targets {layout : LayoutState} {base port : UInt16} {controller : PairedController}
    (hmem : controller ∈ layout.pairedControllers) (hdotted : Dotted controller.ip)
    (hport : port ∈ discoveryTargetPorts base) :
    target controller.ip port ∈ knownPeerDiscoveryTargets layout base := by
  unfold knownPeerDiscoveryTargets
  rw [mem_sortDedup]
  exact mem_pushControllers _ _ (.inr ⟨controller, hmem, hdotted, port, hport, rfl⟩)

theorem broadcast_mem_targets {base port : UInt16} (localIps : List Ipv4Addr)
    (h : port ∈ discoveryTargetPorts base) :
    target limitedBroadcast.text port ∈ broadcastAddrsForIps base localIps := by
  rw [broadcastAddrsForIps, mem_sortDedup]
  exact List.mem_flatMap.mpr ⟨port, h, List.mem_cons_self⟩

end MyKvm.Discovery
