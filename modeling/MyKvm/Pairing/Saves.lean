import MyKvm.Layout.Scene
import MyKvm.Pairing.Completion
import MyKvm.Pairing.Loading

/-!
# MyKvm.Pairing.Saves — whom a save of the user interface may list

The user interface saves whole layouts, as it has read them at some time before.  What belongs to the pairing is
taken from the layout of the backend instead; the paired controllers are too, unless there are none.  A `Roster`
keeps account of who has been paired with since the last reset.

* `merged_controllers_iff`: one save.
* `besideSave`, `besideReset`: a save and a reset, beside the discovery.
* `saves_keep_pairing`: histories of pairings, resets and saves.
-/

namespace MyKvm.Pairing

open MyKvm.Lib MyKvm.Discovery MyKvm.Layout

/-- The client has controllers, which stay; or else the snapshot has none but those which are listed. -/
def Owned (incoming current : Discovery.LayoutState) : Prop :=
  (current.machineRole = "client" ∧ incoming.machineRole = "client" ∧ current.pairedControllers ≠ []) ∨
    ∀ controller ∈ incoming.pairedControllers, ∃ listed ∈ current.pairedControllers, listed.id = controller.id

instance (incoming current : Discovery.LayoutState) : Decidable (Owned incoming current) :=
  inferInstanceAs (Decidable (_ ∨ ∀ controller ∈ incoming.pairedControllers,
    ∃ listed ∈ current.pairedControllers, _))

/-! ### One save -/

section Merging

variable (incoming current : Discovery.LayoutState)

/-- The devices are all that the two steps on devices change. -/
theorem mergeDevices_eq (layout : Discovery.LayoutState) :
    ∃ devices, mergeRemoteUpgradingFields (mergeLocalRuntimeDeviceFields layout current) current =
      { layout with devices } := by
  unfold mergeRemoteUpgradingFields mergeLocalRuntimeDeviceFields
  split
  · exact ⟨_, rfl⟩
  · split
    · exact ⟨_, rfl⟩
    · exact ⟨_, rfl⟩

/-- **The group and its trust** are those of the backend. -/
theorem merged_trust :
    (mergeRuntimeOwnedLayoutFields incoming current).clusterId = current.clusterId ∧
      (mergeRuntimeOwnedLayoutFields incoming current).pairSecret = current.pairSecret ∧
      (mergeRuntimeOwnedLayoutFields incoming current).trustedPeers = current.trustedPeers := by
  unfold mergeRuntimeOwnedLayoutFields
  dsimp only
  split
  all_goals
    obtain ⟨devices, heq⟩ := mergeDevices_eq current _
    rw [heq]
    exact ⟨rfl, rfl, rfl⟩

theorem merged_controllers :
    (mergeRuntimeOwnedLayoutFields incoming current).pairedControllers =
      if current.machineRole = "client" ∧ incoming.machineRole = "client" ∧ current.pairedControllers ≠ [] then
        current.pairedControllers
      else incoming.pairedControllers := by
  unfold mergeRuntimeOwnedLayoutFields
  dsimp only
  by_cases hkeeps : current.machineRole = "client" ∧ incoming.machineRole = "client" ∧
    current.pairedControllers ≠ []
  · rw [if_pos hkeeps, if_pos (by simpa [and_assoc] using hkeeps)]
    obtain ⟨devices, heq⟩ := mergeDevices_eq current _
    rw [heq]
  · rw [if_neg hkeeps, if_neg (by simpa [and_assoc] using hkeeps)]
    obtain ⟨devices, heq⟩ := mergeDevices_eq current _
    rw [heq]

/-- **One save** of a client leaves the paired controllers as they are exactly if they are its own. -/
theorem merged_controllers_iff (hcurrent : current.machineRole = "client")
    (hincoming : incoming.machineRole = "client") :
    (mergeRuntimeOwnedLayoutFields incoming current).pairedControllers = current.pairedControllers ↔
      Owned incoming current := by
  rw [merged_controllers]
  unfold Owned
  by_cases hnone : current.pairedControllers = []
  · rw [if_neg (by simp [hnone])]
    simp [hnone, List.eq_nil_iff_forall_not_mem]
  · rw [if_pos ⟨hcurrent, hincoming, hnone⟩]
    exact ⟨fun _ => .inl ⟨hcurrent, hincoming, hnone⟩, fun _ => rfl⟩

variable {incoming current}

/-- Whoever is listed after a save was listed before. -/
theorem listed_of_merged (h : Owned incoming current) {controller : PairedController}
    (hlisted : controller ∈ (mergeRuntimeOwnedLayoutFields incoming current).pairedControllers) :
    ∃ listed ∈ current.pairedControllers, listed.id = controller.id := by
  rw [merged_controllers] at hlisted
  split at hlisted
  · exact ⟨controller, hlisted, rfl⟩
  · rename_i hother
    rcases h with hkeeps | hsubset
    · exact absurd hkeeps hother
    · exact hsubset controller hlisted

end Merging

/-! ### Beside the discovery -/

/-- `save_layout`, as something which happens beside the discovery. -/
def besideSave (incoming : Discovery.LayoutState) (otherChecks : Bool) : Elsewhere where
  apply s := { s with layout := saveLayout incoming otherChecks s.layout }
  blind s t htrust := by
    have hkept : ∀ s : Machine, { s with layout := saveLayout incoming otherChecks s.layout }.trust = s.trust := by
      intro s
      obtain ⟨hcluster, hsecret, hpeers⟩ := merged_trust incoming s.layout
      unfold saveLayout
      split
      · simp only [Machine.trust, hcluster, hsecret, hpeers]
      · rfl
    rw [hkept, hkept, htrust]

/-- `reset_pairing`; `written` is the answer of the disk. -/
def resetPairing (decode : String → Except String (List UInt8)) (written : Except String Unit)
    (s : Machine) : Machine :=
  let s := { s with layout := withoutControllers s.layout }
  match written with
  | .error _ => s
  | .ok () =>
    match s.registry.replace decode (quicTrustedPeers s.layout) with
    | (registry, .error _) => { s with registry }
    | (registry, .ok ()) => { s with registry, challenge := none }

/-- A reset looks at nothing but what is trusted. -/
theorem resetPairing_trust (decode : String → Except String (List UInt8)) (written : Except String Unit)
    (s : Machine) :
    (resetPairing decode written s).trust =
      { trustedPeers := (withoutControllers s.layout).trustedPeers
        registry := match written with
          | .error _ => s.registry
          | .ok () => (s.registry.replace decode (quicTrustedPeers (withoutControllers s.layout))).1
        clusterId := s.layout.clusterId, pairSecret := s.layout.pairSecret } := by
  unfold resetPairing
  cases written with
  | error e => rfl
  | ok _ =>
    cases hreplaced : s.registry.replace decode (quicTrustedPeers (withoutControllers s.layout)) with
    | mk registry answer =>
      dsimp only
      rw [hreplaced]
      cases answer <;> rfl

/-- `reset_pairing`, as something which happens beside the discovery. -/
def besideReset (decode : String → Except String (List UInt8)) (written : Except String Unit) : Elsewhere where
  apply := resetPairing decode written
  blind s t htrust := by
    obtain ⟨hpeers, hregistry, hcluster, hsecret⟩ := Trust.mk.inj htrust
    have hleft : (withoutControllers s.layout).trustedPeers = (withoutControllers t.layout).trustedPeers :=
      congrArg (List.filter fun peer : TrustedPeerRecord => peer.role ≠ "controller") hpeers
    have hquic : quicTrustedPeers (withoutControllers s.layout) =
      quicTrustedPeers (withoutControllers t.layout) := by
      unfold quicTrustedPeers
      rw [hleft]
    rw [resetPairing_trust, resetPairing_trust, hleft, hquic, hregistry, hcluster, hsecret]

/-! ### Histories -/

/-- What changes the layout of a machine, as far as its pairing goes. -/
inductive SettingsCall where
  | trust (call : TrustCall)
  | save (incoming : Discovery.LayoutState) (otherChecks : Bool)
  deriving DecidableEq

/-- The layout, and the controllers with which a pairing has succeeded since the last reset. -/
structure Roster where
  layout : Discovery.LayoutState
  paired : List LanPeer
  deriving DecidableEq

namespace Roster

/-- Right after a reset. -/
def reset (layout : Discovery.LayoutState) : Roster := ⟨withoutControllers layout, []⟩

def pairedAfter (s : Roster) : TrustCall → List LanPeer
  | .acceptController requester clusterId pairSecret nowMs =>
    match (recordPairing s.layout requester clusterId pairSecret nowMs).2 with
    | .ok () => requester :: s.paired
    | .error _ => s.paired
  | .trustReceiver _ _ => s.paired
  | .resetPairing => []

def next (s : Roster) : SettingsCall → Roster
  | .trust call => ⟨nextTrust s.layout call, s.pairedAfter call⟩
  | .save incoming otherChecks => ⟨saveLayout incoming otherChecks s.layout, s.paired⟩

/-- A save which is stored lists no others, and a controller which is accepted has a name. -/
def Proper (s : Roster) : SettingsCall → Prop
  | .trust (.acceptController requester _ _ _) => s.layout.machineRole = "client" → ¬ Nameless requester
  | .trust (.trustReceiver _ _) | .trust .resetPairing => True
  | .save incoming otherChecks => validateLayoutIpc incoming = true → otherChecks = true → Owned incoming s.layout

/-- Every controller which is listed or trusted has been paired with. -/
structure Accounted (s : Roster) : Prop where
  listed : ∀ controller ∈ s.layout.pairedControllers, ∃ requester ∈ s.paired, requester.id = controller.id
  trusted : ∀ record ∈ s.layout.trustedPeers, record.role = "controller" →
    ∃ requester ∈ s.paired, trimmed requester.id = record.id

theorem reset_accounted (layout : Discovery.LayoutState) (paired : List LanPeer) :
    Accounted ⟨withoutControllers layout, paired⟩ := by
  refine ⟨by simp [withoutControllers], fun record hrecord hrole => ?_⟩
  have hother := (List.mem_filter.mp hrecord).2
  simp [hrole] at hother

variable {s : Roster}

/-- A pairing lists its requester, who has been paired with by then. -/
theorem Accounted.accept (h : Accounted s) {requester : LanPeer} {clusterId pairSecret : String} {nowMs : UInt64}
    (hproper : s.layout.machineRole = "client" → ¬ Nameless requester) :
    Accounted (s.next (.trust (.acceptController requester clusterId pairSecret nowMs))) := by
  unfold next pairedAfter nextTrust recordPairing
  dsimp only
  by_cases hclient : s.layout.machineRole = "client"
  · rw [if_neg (not_not.mpr hclient)]
    cases hupsert : upsertTrustedPeer s.layout.trustedPeers requester.id requester.transportPublicKey "controller"
        nowMs with
    | error error => exact absurd ((upsert_fails_iff _ _ _).mp ⟨error, hupsert⟩) (hproper hclient)
    | ok records =>
      obtain ⟨-, -, others, rfl, hothers⟩ := upsertTrustedPeer_ok hupsert
      refine ⟨fun controller hcontroller => ?_, fun record hrecord hrole => ?_⟩
      · rw [List.mem_singleton.mp hcontroller]
        exact ⟨requester, List.mem_cons_self, rfl⟩
      · rcases List.mem_append.mp hrecord with hold | hnew
        · obtain ⟨earlier, hearlier, hid⟩ := h.trusted record (hothers record hold).1 hrole
          exact ⟨earlier, List.mem_cons_of_mem _ hearlier, hid⟩
        · rw [List.mem_singleton.mp hnew]
          exact ⟨requester, List.mem_cons_self, rfl⟩
  · rw [if_pos hclient]
    exact ⟨h.listed, h.trusted⟩

theorem Accounted.trustReceiver (h : Accounted s) (peer : LanPeer) (nowMs : UInt64) :
    Accounted (s.next (.trust (.trustReceiver peer nowMs))) := by
  unfold next pairedAfter nextTrust
  dsimp only
  cases hupsert : upsertTrustedPeer s.layout.trustedPeers peer.id peer.transportPublicKey "receiver" nowMs with
  | error error => exact ⟨h.listed, h.trusted⟩
  | ok records =>
    obtain ⟨-, -, others, rfl, hothers⟩ := upsertTrustedPeer_ok hupsert
    refine ⟨h.listed, fun record hrecord hrole => ?_⟩
    rcases List.mem_append.mp hrecord with hold | hnew
    · exact h.trusted record (hothers record hold).1 hrole
    · have hreceiver : record.role = "receiver" := congrArg TrustedPeerRecord.role (List.mem_singleton.mp hnew)
      exact absurd (hreceiver.symm.trans hrole) (by decide)

theorem Accounted.save (h : Accounted s) {incoming : Discovery.LayoutState} {otherChecks : Bool}
    (hproper : validateLayoutIpc incoming = true → otherChecks = true → Owned incoming s.layout) :
    Accounted (s.next (.save incoming otherChecks)) := by
  show Accounted ⟨saveLayout incoming otherChecks s.layout, s.paired⟩
  unfold saveLayout
  split
  · rename_i hstored
    obtain ⟨hvalid, hother⟩ := Bool.and_eq_true_iff.mp hstored
    refine ⟨fun controller hcontroller => ?_, fun record hrecord hrole => ?_⟩
    · obtain ⟨listed, hlisted, hid⟩ := listed_of_merged (hproper hvalid hother) hcontroller
      obtain ⟨requester, hrequester, hpaired⟩ := h.listed listed hlisted
      exact ⟨requester, hrequester, hpaired.trans hid⟩
    · have hsame := (merged_trust incoming s.layout).2.2
      exact h.trusted record (hsame ▸ hrecord) hrole
  · exact ⟨h.listed, h.trusted⟩

/-- **A step** lists nobody who has not been paired with since the last reset. -/
theorem Accounted.next (h : Accounted s) {call : SettingsCall} (hproper : s.Proper call) :
    Accounted (s.next call) := by
  cases call with
  | trust call =>
    cases call with
    | acceptController requester clusterId pairSecret nowMs => exact h.accept hproper
    | trustReceiver peer nowMs => exact h.trustReceiver peer nowMs
    | resetPairing => exact reset_accounted s.layout []
  | save incoming otherChecks => exact h.save hproper

end Roster

/-- **Saves keep the pairing.**  Whatever snapshot is saved: the cluster id, the pair secret and the trusted peers
stay, and so do the paired controllers of a client if and only if they are owned.  In every history of pairings,
resets and saves which goes on after a reset, and whose saves all list nobody else, whoever is listed or trusted as
a controller has been paired with since the last reset. -/
theorem saves_keep_pairing (incoming current layout : Discovery.LayoutState) (calls : List SettingsCall) :
    ((mergeRuntimeOwnedLayoutFields incoming current).clusterId = current.clusterId ∧
      (mergeRuntimeOwnedLayoutFields incoming current).pairSecret = current.pairSecret ∧
      (mergeRuntimeOwnedLayoutFields incoming current).trustedPeers = current.trustedPeers ∧
      (current.machineRole = "client" → incoming.machineRole = "client" →
        ((mergeRuntimeOwnedLayoutFields incoming current).pairedControllers = current.pairedControllers ↔
          Owned incoming current))) ∧
    (Meets Roster.next Roster.Proper (.reset layout) calls →
      (run Roster.next (.reset layout) calls).Accounted) := by
  refine ⟨?_, fun hproper => ?_⟩
  · obtain ⟨hcluster, hsecret, htrusted⟩ := merged_trust incoming current
    exact ⟨hcluster, hsecret, htrusted, merged_controllers_iff incoming current⟩
  · exact run_keeps (fun s call h hcall => h.next hcall) (Roster.reset_accounted layout []) hproper

section Examples

instance (requester : LanPeer) : Decidable (Nameless requester) := inferInstanceAs (Decidable (_ ∨ _))

instance (s : Roster) : ∀ call, Decidable (s.Proper call)
  | .trust (.acceptController _ _ _ _) => inferInstanceAs (Decidable (_ → ¬ _))
  | .trust (.trustReceiver _ _) | .trust .resetPairing => .isTrue trivial
  | .save _ _ => inferInstanceAs (Decidable (_ → _ → _))

/-- A client which is paired with the server. -/
def pairedClient : Discovery.LayoutState :=
  (recordPairing askedClient.layout askingServer "group" "secret" 2000).1

/-- After the reset somebody saves what was read after it, and the client is paired with anew. -/
theorem saves_keep_pairing_again :
    (run Roster.next (.reset pairedClient) [.save (withoutControllers pairedClient) true,
      .trust (.acceptController askingServer "group" "secret" 3000), .save pairedClient true]).Accounted :=
  (saves_keep_pairing pairedClient pairedClient pairedClient _).2 (by decide +kernel)

/-- The snapshot was read before the reset: the server which was removed is listed again. -/
theorem not_saves_keep_pairing :
    ¬ ((∀ incoming current : Discovery.LayoutState, current.machineRole = "client" →
      incoming.machineRole = "client" →
        (mergeRuntimeOwnedLayoutFields incoming current).pairedControllers = current.pairedControllers) ∧
      ∀ (layout : Discovery.LayoutState) (calls : List SettingsCall),
        (run Roster.next (.reset layout) calls).Accounted) := by
  rintro ⟨-, hhistories⟩
  have haccounted := (hhistories pairedClient [.save pairedClient true]).listed
  have hlisted :
      (run Roster.next (.reset pairedClient) [.save pairedClient true]).layout.pairedControllers.map (·.id) =
      ["peer-desk"] := by decide +kernel
  have hpaired : (run Roster.next (.reset pairedClient) [.save pairedClient true]).paired = [] := by decide +kernel
  obtain ⟨controller, hcontroller, -⟩ := List.mem_map.mp (hlisted ▸ List.mem_singleton_self "peer-desk")
  obtain ⟨requester, hrequester, -⟩ := haccounted controller hcontroller
  rw [hpaired] at hrequester
  cases hrequester

end Examples

end MyKvm.Pairing
