import MyKvm.Hook.Readings
import MyKvm.Lib.Slots

/-!
# MyKvm.Hook.Registration — what is registered with the system

After a change of the layout three functions bring the registered shortcuts up to date: the toggle first, then the
four directions one by one, and the control hotkeys all at once.  Only the last of them takes back what it has done
when the system refuses a registration.

* `registration_converges_iff`: the changes of a layout which arrive.
-/

namespace MyKvm.Hook

open MyKvm.Lib MyKvm.Lib.Slots

/-- What the system answers when a shortcut is registered already, and when it is not registered. -/
structure ShortcutSystem where
  refused : String
  missing : Except String Unit

namespace ShortcutSystem

variable (sys : ShortcutSystem)

def register (registered : Finset String) (text : String) : Except String Unit × Finset String :=
  if text ∈ registered then (.error sys.refused, registered) else (.ok (), insert text registered)

def unregister (registered : Finset String) (text : String) : Except String Unit × Finset String :=
  if text ∈ registered then (.ok (), registered.erase text) else (sys.missing, registered)

end ShortcutSystem

deriving instance DecidableEq for ControlHotkeys

/-- The registered shortcuts, and the current values of the three functions. -/
structure Shortcuts where
  registered : Finset String
  runtimeToggleShortcut : Option String
  screenSwitchShortcuts : ScreenSwitchHotkeys
  controlHotkeys : ControlHotkeys
  deriving DecidableEq

section Sync

variable (lib : ShortcutLibrary) (sys : ShortcutSystem)

/-- `current.take()`; an error of the system is only logged. -/
def releaseToggle (registered : Finset String) : Option String → Finset String
  | some previous => (sys.unregister registered previous).2
  | none => registered

def syncRuntimeToggleShortcut (layout : HotkeySettings) (s : Shortcuts) : Except String Unit × Shortcuts :=
  match runtimeToggleShortcutForLayout lib layout with
  | .error error => (.error error, s)
  | .ok shortcut =>
    if s.runtimeToggleShortcut = shortcut then (.ok (), s) else
    let released := releaseToggle sys s.registered s.runtimeToggleShortcut
    match shortcut with
    | none => (.ok (), { s with registered := released, runtimeToggleShortcut := none })
    | some next =>
      match sys.register released next with
      | (.error error, registered) =>
        (.error ("failed to register quick start/stop shortcut " ++ next ++ ": " ++ error),
          { s with registered, runtimeToggleShortcut := none })
      | (.ok (), registered) => (.ok (), { s with registered, runtimeToggleShortcut := some next })

/-- One pass of the loop; an error of the system is only logged. -/
def syncDirection (registered : Finset String) (nextStr prevStr : String) : Finset String :=
  if nextStr = prevStr then registered else
  let released := if prevStr = "" then registered else (sys.unregister registered prevStr).2
  if nextStr = "" then released else (sys.register released nextStr).2

def syncScreenSwitchShortcuts (layout : HotkeySettings) (s : Shortcuts) : Shortcuts :=
  let next := screenSwitchShortcutsForLayout lib layout
  let current := s.screenSwitchShortcuts
  let registered := syncDirection sys s.registered next.left current.left
  let registered := syncDirection sys registered next.right current.right
  let registered := syncDirection sys registered next.up current.up
  let registered := syncDirection sys registered next.down current.down
  { s with registered, screenSwitchShortcuts := next }

def registerEach (registered : Finset String) (texts : List String) : Finset String :=
  texts.foldl (fun registered text => (sys.register registered text).2) registered

def unregisterEach (registered : Finset String) (texts : List String) : Finset String :=
  texts.foldl (fun registered text => (sys.unregister registered text).2) registered

/-- The loop over the old values; the answer is the list of those which are unregistered. -/
def releaseControls : List String → List String → Finset String → Except String (List String) × Finset String
  | [], unregistered, registered => (.ok unregistered, registered)
  | old :: rest, unregistered, registered =>
    if old = "" then releaseControls rest unregistered registered else
    match sys.unregister registered old with
    | (.error error, registered) =>
      (.error ("无法注销控制快捷键 " ++ old ++ ": " ++ error), registerEach sys registered unregistered)
    | (.ok (), registered) => releaseControls rest (unregistered ++ [old]) registered

/-- The loop over the new values. -/
def claimControls (unregistered : List String) :
    List String → List String → Finset String → Except String Unit × Finset String
  | [], _, registered => (.ok (), registered)
  | new :: rest, claimed, registered =>
    if new = "" then claimControls unregistered rest claimed registered else
    match sys.register registered new with
    | (.error error, registered) =>
      (.error ("控制快捷键注册失败或与其他程序冲突 " ++ new ++ ": " ++ error),
        registerEach sys (unregisterEach sys registered claimed) (unregistered.filter (· ≠ "")))
    | (.ok (), registered) => claimControls unregistered rest (claimed ++ [new]) registered

/-- The old and the new values which differ. -/
def changedControls (current next : ControlHotkeys) : List (String × String) :=
  [(current.controlMac, next.controlMac), (current.returnWindows, next.returnWindows),
    (current.emergencyReturn, next.emergencyReturn)].filter fun pair => pair.1 ≠ pair.2

def syncControlHotkeys (layout : HotkeySettings) (s : Shortcuts) : Except String Unit × Shortcuts :=
  match controlHotkeysForLayout lib layout with
  | .error error => (.error error, s)
  | .ok next =>
    if s.controlHotkeys = next then (.ok (), s) else
    let changed := changedControls s.controlHotkeys next
    match releaseControls sys (changed.map (·.1)) [] s.registered with
    | (.error error, registered) => (.error error, { s with registered })
    | (.ok unregistered, registered) =>
      match claimControls sys unregistered (changed.map (·.2)) [] registered with
      | (.error error, registered) => (.error error, { s with registered })
      | (.ok (), registered) => (.ok (), { s with registered, controlHotkeys := next })

/-- The three of them, one after the other. -/
def syncShortcuts (layout : HotkeySettings) (s : Shortcuts) : Shortcuts :=
  let s := (syncRuntimeToggleShortcut lib sys layout s).2
  let s := syncScreenSwitchShortcuts lib sys layout s
  (syncControlHotkeys lib sys layout s).2

end Sync

/-! ### The eight slots -/

inductive Slot where
  | toggle
  | left
  | right
  | up
  | down
  | controlMac
  | returnWindows
  | emergencyReturn
  deriving DecidableEq

/-- In the order in which they are brought up to date. -/
def stages : List (List Slot) :=
  [[.toggle], [.left], [.right], [.up], [.down], [.controlMac, .returnWindows, .emergencyReturn]]

def HotkeySettings.raw (layout : HotkeySettings) : Slot → String
  | .toggle => layout.edgeSwitchHotkey
  | .left => layout.screenSwitchHotkeys.left
  | .right => layout.screenSwitchHotkeys.right
  | .up => layout.screenSwitchHotkeys.up
  | .down => layout.screenSwitchHotkeys.down
  | .controlMac => layout.controlHotkeys.controlMac
  | .returnWindows => layout.controlHotkeys.returnWindows
  | .emergencyReturn => layout.controlHotkeys.emergencyReturn

/-- The empty text stands for no shortcut. -/
def textOf (text : String) : Option String := if text = "" then none else some text

def canonicalText (lib : ShortcutLibrary) (value : String) : Option String :=
  match canonicalRuntimeToggleShortcut lib value with
  | .ok shortcut => shortcut
  | .error _ => none

/-- What the layout asks for. -/
def asked (lib : ShortcutLibrary) (layout : HotkeySettings) (slot : Slot) : Option String :=
  if layout.machineRole = "server" then canonicalText lib (layout.raw slot) else none

def Shortcuts.value (s : Shortcuts) : Slot → Option String
  | .toggle => s.runtimeToggleShortcut
  | .left => textOf s.screenSwitchShortcuts.left
  | .right => textOf s.screenSwitchShortcuts.right
  | .up => textOf s.screenSwitchShortcuts.up
  | .down => textOf s.screenSwitchShortcuts.down
  | .controlMac => textOf s.controlHotkeys.controlMac
  | .returnWindows => textOf s.controlHotkeys.returnWindows
  | .emergencyReturn => textOf s.controlHotkeys.emergencyReturn

/-- The layout asks for these values, and they are what is registered. -/
def settled (lib : ShortcutLibrary) (layout : HotkeySettings) : Shortcuts where
  registered := held (asked lib layout) stages.flatten
  runtimeToggleShortcut := asked lib layout .toggle
  screenSwitchShortcuts := screenSwitchShortcutsForLayout lib layout
  controlHotkeys :=
    { controlMac := (asked lib layout .controlMac).getD ""
      returnWindows := (asked lib layout .returnWindows).getD ""
      emergencyReturn := (asked lib layout .emergencyReturn).getD "" }

/-! ### What an accepted layout asks for -/

theorem textOf_inj {a b : String} : textOf a = textOf b ↔ a = b := by
  unfold textOf
  split_ifs with ha hb hb
  · simp [ha, hb]
  · exact iff_of_false (by simp) fun h => hb (h ▸ ha)
  · exact iff_of_false (by simp) fun h => ha (h ▸ hb)
  · simp

theorem keyName_ne_empty (keyCode : UInt16) : keyName keyCode ≠ "" := by
  intro h
  have hlist := congrArg String.toList h
  revert hlist
  unfold keyName
  split_ifs <;> simp

theorem joinShortcut_ne_empty (modifiers : HotkeyModifiers) {key : String} (h : key ≠ "") :
    joinShortcut modifiers key ≠ "" := by
  obtain ⟨ctrl, alt, shift, «meta»⟩ := modifiers
  cases ctrl <;> cases alt <;> cases shift <;> cases «meta» <;> simp [joinShortcut, h]

theorem canonical_ne_empty {lib : ShortcutLibrary} {value text : String}
    (h : canonicalRuntimeToggleShortcut lib value = .ok (some text)) : text ≠ "" := by
  unfold canonicalRuntimeToggleShortcut at h
  dsimp only at h
  rw [canonical_fold] at h
  split at h
  · cases h
  · cases hkeys : (keyParts (normalizeEdgeSwitchHotkey value)).foldlM addCanonicalKey none with
    | error error =>
      rw [hkeys] at h
      cases h
    | ok found =>
      cases found with
      | none =>
        rw [hkeys] at h
        cases h
      | some name =>
        rw [hkeys] at h
        obtain ⟨-, keyCode, -, -, hname⟩ := (canonical_keys_iff _ _).mp hkeys
        simp only [Functor.map, Except.map] at h
        split at h
        · cases h
        · split at h
          · cases h
          · have hjoin := Option.some.inj (Except.ok.inj h)
            rw [← hjoin, ← hname]
            exact joinShortcut_ne_empty _ (keyName_ne_empty keyCode)

theorem canonicalText_eq_some {lib : ShortcutLibrary} {value text : String} :
    canonicalText lib value = some text ↔ canonicalRuntimeToggleShortcut lib value = .ok (some text) := by
  unfold canonicalText
  cases canonicalRuntimeToggleShortcut lib value <;> simp

theorem textOf_orEmpty (lib : ShortcutLibrary) (value : String) :
    textOf (orEmpty (canonicalRuntimeToggleShortcut lib value)) = canonicalText lib value := by
  unfold canonicalText
  cases h : canonicalRuntimeToggleShortcut lib value with
  | error error => rfl
  | ok found =>
    cases found with
    | none => rfl
    | some text => exact if_neg (canonical_ne_empty h)

theorem textOf_getD (lib : ShortcutLibrary) (value : String) :
    textOf ((canonicalText lib value).getD "") = canonicalText lib value := by
  cases h : canonicalText lib value with
  | none => rfl
  | some text => exact if_neg (canonical_ne_empty (canonicalText_eq_some.mp h))

/-- The slots in the order in which the conflict check reads them. -/
def entrySlots : List Slot :=
  [.toggle, .controlMac, .returnWindows, .emergencyReturn, .left, .right, .up, .down]

theorem mem_entrySlots (slot : Slot) : slot ∈ entrySlots := by
  cases slot <;> decide

theorem stages_nodup : stages.flatten.Nodup := by decide

theorem settled_value (lib : ShortcutLibrary) (layout : HotkeySettings) :
    (settled lib layout).value = asked lib layout := by
  funext slot
  by_cases hserver : layout.machineRole = "server"
  · cases slot <;>
      simp [Shortcuts.value, settled, screenSwitchShortcutsForLayout, asked, hserver, HotkeySettings.raw,
        textOf_orEmpty, textOf_getD]
  · cases slot <;>
      simp [Shortcuts.value, settled, screenSwitchShortcutsForLayout, asked, hserver,
        emptyScreenSwitchHotkeys, textOf]

section Accepted

variable {lib : ShortcutLibrary} {layout : HotkeySettings}
    (hvalid : validateLayoutShortcutConflicts lib layout = .ok ())
include hvalid

/-- All eight texts of a server are read without an error, and no two slots ask for one shortcut. -/
theorem server_asked (hserver : layout.machineRole = "server") :
    (∀ slot, canonicalRuntimeToggleShortcut lib (layout.raw slot) = .ok (asked lib layout slot)) ∧
      Distinct (asked lib layout) := by
  unfold validateLayoutShortcutConflicts at hvalid
  rw [if_neg (not_not.mpr hserver)] at hvalid
  cases hfold : layout.entries.foldlM (addEntry lib) [] with
  | error error =>
    rw [hfold] at hvalid
    cases hvalid
  | ok after =>
    obtain ⟨hentries, hpairs⟩ := foldlM_addEntry hfold
    have hasked : ∀ slot, asked lib layout slot = canonicalText lib (layout.raw slot) := fun slot => if_pos hserver
    have hraw : layout.entries.map (·.2) = entrySlots.map layout.raw := rfl
    refine ⟨fun slot => ?_, fun i j text hi hj => ?_⟩
    · obtain ⟨entry, hentry, hslot⟩ := List.mem_map.mp (hraw ▸ List.mem_map_of_mem (mem_entrySlots slot))
      obtain ⟨found, hfound, -⟩ := hentries entry hentry
      rw [← hslot, hasked, ← hslot, hfound, canonicalText, hfound]
    · by_contra hne
      have : Std.Symm fun i j => ∀ text, canonicalRuntimeToggleShortcut lib (layout.raw i) = .ok (some text) →
          canonicalRuntimeToggleShortcut lib (layout.raw j) ≠ .ok (some text) :=
        ⟨fun i j hij text hj hi => hij text hi hj⟩
      have hslots : (entrySlots.map layout.raw).Pairwise fun first second => ∀ text,
          canonicalRuntimeToggleShortcut lib first = .ok (some text) →
            canonicalRuntimeToggleShortcut lib second ≠ .ok (some text) :=
        hraw ▸ List.pairwise_map.mpr hpairs
      rw [hasked] at hi hj
      exact (List.pairwise_map.mp hslots).forall (mem_entrySlots i) (mem_entrySlots j) hne text
        (canonicalText_eq_some.mp hi) (canonicalText_eq_some.mp hj)

theorem asked_distinct : Distinct (asked lib layout) := by
  by_cases hserver : layout.machineRole = "server"
  · exact (server_asked hvalid hserver).2
  · intro i j text hi
    rw [asked, if_neg hserver] at hi
    cases hi

theorem runtimeToggle_asked : runtimeToggleShortcutForLayout lib layout = .ok (asked lib layout .toggle) := by
  unfold runtimeToggleShortcutForLayout
  split_ifs with hserver
  · rw [asked, if_neg hserver]
  · exact (server_asked hvalid (not_not.mp hserver)).1 .toggle

theorem controlHotkeys_asked : controlHotkeysForLayout lib layout = .ok (settled lib layout).controlHotkeys := by
  unfold controlHotkeysForLayout
  split_ifs with hserver
  · simp [settled, asked, hserver, emptyControlHotkeys]
  · have hread := (server_asked hvalid (not_not.mp hserver)).1
    have hmac := hread .controlMac
    have hreturn := hread .returnWindows
    have hemergency := hread .emergencyReturn
    simp only [HotkeySettings.raw] at hmac hreturn hemergency
    rw [hmac, hreturn, hemergency]
    rfl

end Accepted

/-! ### What the functions do to the registrations -/

section Effects

variable {lib : ShortcutLibrary} {sys : ShortcutSystem}

/-- Whatever the system answers, the shortcut is registered afterwards. -/
@[simp] theorem register_snd (sys : ShortcutSystem) (registered : Finset String) (text : String) :
    (sys.register registered text).2 = insert text registered := by
  unfold ShortcutSystem.register
  split_ifs with h
  · exact (Finset.insert_eq_of_mem h).symm
  · rfl

/-- Whatever the system answers, the shortcut is not registered afterwards. -/
@[simp] theorem unregister_snd (sys : ShortcutSystem) (registered : Finset String) (text : String) :
    (sys.unregister registered text).2 = registered.erase text := by
  unfold ShortcutSystem.unregister
  split_ifs with h
  · rfl
  · exact (Finset.erase_eq_of_notMem h).symm

theorem syncDirection_eq {prev next : Slot → Option String} {slot : Slot} {nextStr prevStr : String}
    (hprev : textOf prevStr = prev slot) (hnext : textOf nextStr = next slot) (registered : Finset String) :
    syncDirection sys registered nextStr prevStr = exchange prev next registered [slot] := by
  unfold syncDirection
  by_cases hsame : nextStr = prevStr
  · rw [if_pos hsame, exchange_singleton_of_eq (by rw [← hprev, ← hnext, hsame])]
  · have hne : prev slot ≠ next slot := by
      rw [← hprev, ← hnext]
      exact fun heq => hsame (textOf_inj.mp heq).symm
    rw [if_neg hsame, exchange_singleton_of_ne hne, ← hprev, ← hnext]
    unfold textOf
    by_cases hold : prevStr = "" <;> by_cases hnew : nextStr = "" <;>
      simp [hold, hnew, Finset.sdiff_singleton_eq_erase]

theorem screenSwitch_registered {layout : HotkeySettings} (prev : Slot → Option String) {s : Shortcuts}
    (hcurrent : ∀ slot ∈ [Slot.left, .right, .up, .down], s.value slot = prev slot) :
    (syncScreenSwitchShortcuts lib sys layout s).registered =
      exchanges prev (asked lib layout) s.registered [[.left], [.right], [.up], [.down]] := by
  have hnext := fun slot => congrFun (settled_value lib layout) slot
  unfold syncScreenSwitchShortcuts exchanges
  simp only [List.foldl_cons, List.foldl_nil]
  rw [← syncDirection_eq (hcurrent .left (by simp)) (hnext .left),
    ← syncDirection_eq (hcurrent .right (by simp)) (hnext .right),
    ← syncDirection_eq (hcurrent .up (by simp)) (hnext .up),
    ← syncDirection_eq (hcurrent .down (by simp)) (hnext .down)]
  rfl

theorem screenSwitch_eq {layout : HotkeySettings} (prev : Slot → Option String) {s : Shortcuts}
    (hcurrent : ∀ slot ∈ [Slot.left, .right, .up, .down], s.value slot = prev slot) :
    syncScreenSwitchShortcuts lib sys layout s =
      { s with registered := exchanges prev (asked lib layout) s.registered [[.left], [.right], [.up], [.down]],
               screenSwitchShortcuts := screenSwitchShortcutsForLayout lib layout } := by
  rw [← screenSwitch_registered prev hcurrent]
  rfl

/-- The toggle: what is registered, and what is stored. -/
theorem runtimeToggle_spec (sys : ShortcutSystem) {layout : HotkeySettings}
    (hvalid : validateLayoutShortcutConflicts lib layout = .ok ())
    {prev : Slot → Option String} {s : Shortcuts} (hcurrent : s.runtimeToggleShortcut = prev .toggle) :
    ∃ stored, (syncRuntimeToggleShortcut lib sys layout s).2 =
        { s with registered := exchange prev (asked lib layout) s.registered [.toggle],
                 runtimeToggleShortcut := stored } ∧
      ((∀ text, asked lib layout .toggle = some text → prev .toggle ≠ some text → text ∉ s.registered) →
        stored = asked lib layout .toggle) := by
  unfold syncRuntimeToggleShortcut
  rw [runtimeToggle_asked hvalid]
  dsimp only
  by_cases hsame : s.runtimeToggleShortcut = asked lib layout .toggle
  · rw [if_pos hsame, exchange_singleton_of_eq (hcurrent.symm.trans hsame)]
    exact ⟨s.runtimeToggleShortcut, rfl, fun _ => hsame⟩
  · have hne : prev .toggle ≠ asked lib layout .toggle := hcurrent ▸ hsame
    have hreleased : releaseToggle sys s.registered s.runtimeToggleShortcut =
        s.registered \ (prev .toggle).toFinset := by
      rw [hcurrent]
      cases prev .toggle with
      | none => exact (Finset.sdiff_empty).symm
      | some previous => simp [releaseToggle, Finset.sdiff_singleton_eq_erase]
    rw [if_neg hsame, exchange_singleton_of_ne hne, hreleased]
    cases hnext : asked lib layout .toggle with
    | none => exact ⟨none, by simp, fun _ => rfl⟩
    | some text =>
      have hregistered := register_snd sys (s.registered \ (prev .toggle).toFinset) text
      simp only [Option.toFinset_some, Finset.union_singleton]
      cases hanswer : sys.register (s.registered \ (prev .toggle).toFinset) text with
      | mk answer registered =>
        rw [hanswer] at hregistered
        cases answer with
        | ok _ =>
          rw [← hregistered]
          exact ⟨some text, rfl, fun _ => rfl⟩
        | error error =>
          rw [← hregistered]
          refine ⟨none, rfl, fun hfree => ?_⟩
          -- The system refuses what is registered.
          have hin : text ∈ s.registered \ (prev .toggle).toFinset := by
            by_contra hout
            rw [ShortcutSystem.register, if_neg hout] at hanswer
            cases hanswer
          exact absurd (Finset.mem_sdiff.mp hin).1 (hfree text rfl (hnext ▸ hne))

/-! ### The control hotkeys -/

theorem registerEach_eq (registered : Finset String) (texts : List String) :
    registerEach sys registered texts = registered ∪ texts.toFinset := by
  induction texts generalizing registered with
  | nil => simp [registerEach]
  | cons text texts ih =>
    have hstep : registerEach sys registered (text :: texts) =
      registerEach sys (insert text registered) texts := by
      simp [registerEach]
    rw [hstep, ih, List.toFinset_cons]
    ext a
    simp

theorem unregisterEach_eq (registered : Finset String) (texts : List String) :
    unregisterEach sys registered texts = registered \ texts.toFinset := by
  induction texts generalizing registered with
  | nil => simp [unregisterEach]
  | cons text texts ih =>
    have hstep : unregisterEach sys registered (text :: texts) =
      unregisterEach sys (registered.erase text) texts := by
      simp [unregisterEach]
    rw [hstep, ih, List.toFinset_cons]
    ext a
    simp [and_assoc, and_left_comm]

/-- The system refuses to unregister what is not there, or these are all there. -/
def Releasable (sys : ShortcutSystem) (registered : Finset String) (olds : List String) : Prop :=
  (∃ error, sys.missing = .error error) ∨ ∀ old ∈ olds, old ≠ "" → old ∈ registered

/-- Either all is as it was found, or the old values are gone, and were there. -/
theorem releaseControls_spec (found : Finset String) (olds done : List String) (hold : Releasable sys found olds)
    (hdone : ∀ text ∈ done, text ∈ found) :
    (∃ error, releaseControls sys olds done (found \ done.toFinset) = (.error error, found)) ∨
      ∃ released, releaseControls sys olds done (found \ done.toFinset) =
        (.ok released, found \ released.toFinset) ∧
        (∀ text ∈ released, text ∈ found) ∧ released = done ++ olds.filter (· ≠ "") := by
  induction olds generalizing done with
  | nil => exact .inr ⟨done, rfl, hdone, by simp⟩
  | cons old olds ih =>
    have hrest : Releasable sys found olds := hold.imp_right fun h text htext =>
      h text (List.mem_cons_of_mem _ htext)
    rw [releaseControls]
    by_cases hempty : old = ""
    · rw [if_pos hempty]
      simpa [hempty] using ih _ hrest hdone
    · rw [if_neg hempty]
      have happend : (done ++ [old]) ++ olds.filter (· ≠ "") = done ++ (old :: olds).filter (· ≠ "") := by
        simp [hempty]
      by_cases hin : old ∈ found \ done.toFinset
      · have hnext : ∀ text ∈ done ++ [old], text ∈ found := by
          intro text htext
          rcases List.mem_append.mp htext with htext | htext
          · exact hdone text htext
          · rw [List.mem_singleton.mp htext]
            exact (Finset.mem_sdiff.mp hin).1
        have herase : (found \ done.toFinset).erase old = found \ (done ++ [old]).toFinset := by
          ext a
          simp [and_left_comm]
        rw [ShortcutSystem.unregister, if_pos hin, herase]
        simpa only [happend] using ih _ hrest hnext
      · rw [ShortcutSystem.unregister, if_neg hin]
        cases hmissing : sys.missing with
        | error error =>
          refine .inl ⟨_, Prod.ext rfl ?_⟩
          dsimp only
          rw [registerEach_eq]
          refine Finset.sdiff_union_of_subset fun a ha => hdone a (List.mem_toFinset.mp ha)
        | ok _ =>
          have hfound : old ∈ found := by
            rcases hold with ⟨error, herror⟩ | hall
            · rw [hmissing] at herror
              cases herror
            · exact hall old List.mem_cons_self hempty
          have hnext : ∀ text ∈ done ++ [old], text ∈ found := by
            intro text htext
            rcases List.mem_append.mp htext with htext | htext
            · exact hdone text htext
            · rwa [List.mem_singleton.mp htext]
          -- It has been unregistered before.
          have hsame : found \ done.toFinset = found \ (done ++ [old]).toFinset := by
            have hdoneOld : old ∈ done := by
              by_contra hnot
              exact hin (Finset.mem_sdiff.mpr ⟨hfound, fun h => hnot (List.mem_toFinset.mp h)⟩)
            ext a
            simp only [Finset.mem_sdiff, List.mem_toFinset, List.mem_append, List.mem_singleton]
            grind
          rw [hsame]
          simpa only [happend] using ih _ hrest hnext

/-- Either all is as it was before the old values went, or the new values are there too. -/
theorem claimControls_spec (sys : ShortcutSystem) (base : Finset String) (released news claimed : List String)
    (hclaimed : ∀ text ∈ claimed, text ∉ base) (hreleased : ∀ text ∈ released, text ≠ "") :
    (∃ error, claimControls sys released news claimed (base ∪ claimed.toFinset) =
        (.error error, base ∪ released.toFinset)) ∨
      claimControls sys released news claimed (base ∪ claimed.toFinset) =
        (.ok (), base ∪ (claimed ++ news.filter (· ≠ "")).toFinset) := by
  induction news generalizing claimed with
  | nil => exact .inr (by simp [claimControls])
  | cons new news ih =>
    rw [claimControls]
    by_cases hempty : new = ""
    · rw [if_pos hempty]
      simpa [hempty] using ih _ hclaimed
    · rw [if_neg hempty]
      have happend : (claimed ++ [new]) ++ news.filter (· ≠ "") = claimed ++ (new :: news).filter (· ≠ "") := by
        simp [hempty]
      by_cases hin : new ∈ base ∪ claimed.toFinset
      · rw [ShortcutSystem.register, if_pos hin]
        refine .inl ⟨_, Prod.ext rfl ?_⟩
        have hall : released.filter (· ≠ "") = released :=
          List.filter_eq_self.mpr fun text htext => decide_eq_true (hreleased text htext)
        have hback : (base ∪ claimed.toFinset) \ claimed.toFinset = base := by
          refine Finset.union_sdiff_cancel_right (Finset.disjoint_left.mpr fun a ha hclaim => ?_)
          exact hclaimed a (List.mem_toFinset.mp hclaim) ha
        dsimp only
        rw [registerEach_eq, unregisterEach_eq, hall, hback]
      · rw [ShortcutSystem.register, if_neg hin]
        have hnext : ∀ text ∈ claimed ++ [new], text ∉ base := by
          intro text htext
          rcases List.mem_append.mp htext with htext | htext
          · exact hclaimed text htext
          · rw [List.mem_singleton.mp htext]
            exact fun hbase => hin (Finset.mem_union_left _ hbase)
        have hinsert : insert new (base ∪ claimed.toFinset) = base ∪ (claimed ++ [new]).toFinset := by
          ext a
          simp
        rw [hinsert]
        simpa only [happend] using ih _ hnext

/-- **An error of the control hotkeys changes nothing.** -/
theorem controlHotkeys_error {layout : HotkeySettings} {s : Shortcuts} {error : String}
    (hold : Releasable sys s.registered
      [s.controlHotkeys.controlMac, s.controlHotkeys.returnWindows, s.controlHotkeys.emergencyReturn])
    (h : (syncControlHotkeys lib sys layout s).1 = .error error) :
    (syncControlHotkeys lib sys layout s).2 = s := by
  unfold syncControlHotkeys at h ⊢
  cases hnext : controlHotkeysForLayout lib layout with
  | error error => rfl
  | ok next =>
    rw [hnext] at h
    dsimp only at h ⊢
    by_cases hsame : s.controlHotkeys = next
    · rw [if_pos hsame]
    · rw [if_neg hsame] at h ⊢
      have holds : Releasable sys s.registered ((changedControls s.controlHotkeys next).map (·.1)) := by
        refine hold.imp_right fun hall old hmem => hall old ?_
        obtain ⟨pair, hpair, rfl⟩ := List.mem_map.mp hmem
        have hcontrol := (List.mem_filter.mp hpair).1
        simp only [List.mem_cons, List.not_mem_nil, or_false] at hcontrol ⊢
        rcases hcontrol with rfl | rfl | rfl <;> simp
      have hrelease := releaseControls_spec _ _ [] holds (by simp)
      simp only [List.toFinset_nil, Finset.sdiff_empty, List.nil_append] at hrelease
      rcases hrelease with ⟨error, hrelease⟩ | ⟨released, hrelease, hfound, hreleased⟩
      · rw [hrelease]
      · have hfull : ∀ text ∈ released, text ≠ "" := by
          rw [hreleased]
          exact fun text htext => of_decide_eq_true (List.mem_filter.mp htext).2
        have hclaim := claimControls_spec sys (s.registered \ released.toFinset) released
          ((changedControls s.controlHotkeys next).map (·.2)) [] (by simp) hfull
        simp only [List.toFinset_nil, Finset.union_empty] at hclaim
        rw [hrelease] at h ⊢
        dsimp only at h ⊢
        rcases hclaim with ⟨error, hclaim⟩ | hclaim
        · rw [hclaim]
          dsimp only
          rw [Finset.sdiff_union_of_subset fun a ha => hfound a (List.mem_toFinset.mp ha)]
        · rw [hclaim] at h
          cases h

/-- What is there can be unregistered. -/
theorem releaseControls_ok (sys : ShortcutSystem) (olds done : List String) (registered : Finset String)
    (hnodup : (olds.filter (· ≠ "")).Nodup) (hin : ∀ old ∈ olds, old ≠ "" → old ∈ registered) :
    releaseControls sys olds done registered =
      (.ok (done ++ olds.filter (· ≠ "")), registered \ (olds.filter (· ≠ "")).toFinset) := by
  induction olds generalizing done registered with
  | nil => simp [releaseControls]
  | cons old olds ih =>
    rw [releaseControls]
    by_cases hempty : old = ""
    · rw [if_pos hempty,
        ih _ _ (by simpa [hempty] using hnodup) fun text htext => hin text (List.mem_cons_of_mem _ htext)]
      simp [hempty]
    · have hfilter : (old :: olds).filter (· ≠ "") = old :: olds.filter (· ≠ "") := by simp [hempty]
      rw [hfilter, List.nodup_cons] at hnodup
      rw [if_neg hempty, ShortcutSystem.unregister, if_pos (hin old List.mem_cons_self hempty)]
      dsimp only
      rw [ih _ _ hnodup.2 fun text htext hne => Finset.mem_erase.mpr
        ⟨?_, hin text (List.mem_cons_of_mem _ htext) hne⟩, hfilter]
      · refine Prod.ext (by simp) ?_
        ext a
        simp [and_left_comm, not_or, and_assoc]
      · rintro rfl
        exact hnodup.1 (List.mem_filter.mpr ⟨htext, decide_eq_true hne⟩)

/-- What is not there can be registered. -/
theorem claimControls_ok (sys : ShortcutSystem) (released news claimed : List String) (registered : Finset String)
    (hnodup : (news.filter (· ≠ "")).Nodup) (hout : ∀ new ∈ news, new ≠ "" → new ∉ registered) :
    claimControls sys released news claimed registered =
      (.ok (), registered ∪ (news.filter (· ≠ "")).toFinset) := by
  induction news generalizing claimed registered with
  | nil => simp [claimControls]
  | cons new news ih =>
    rw [claimControls]
    by_cases hempty : new = ""
    · rw [if_pos hempty,
        ih _ _ (by simpa [hempty] using hnodup) fun text htext => hout text (List.mem_cons_of_mem _ htext)]
      simp [hempty]
    · have hfilter : (new :: news).filter (· ≠ "") = new :: news.filter (· ≠ "") := by simp [hempty]
      rw [hfilter, List.nodup_cons] at hnodup
      rw [if_neg hempty, ShortcutSystem.register, if_neg (hout new List.mem_cons_self hempty)]
      dsimp only
      rw [ih _ _ hnodup.2 fun text htext hne hin => ?_, hfilter]
      · refine Prod.ext rfl ?_
        ext a
        simp
      · rcases Finset.mem_insert.mp hin with rfl | hin
        · exact hnodup.1 (List.mem_filter.mpr ⟨htext, decide_eq_true hne⟩)
        · exact hout text (List.mem_cons_of_mem _ htext) hne hin

def controlSlots : List Slot := [.controlMac, .returnWindows, .emergencyReturn]

/-- The text of a control hotkey. -/
def controlText (hotkeys : ControlHotkeys) : Slot → String
  | .controlMac => hotkeys.controlMac
  | .returnWindows => hotkeys.returnWindows
  | .emergencyReturn => hotkeys.emergencyReturn
  | .toggle | .left | .right | .up | .down => ""

theorem changedControls_eq {prev next : Slot → Option String} {current wanted : ControlHotkeys}
    (hprev : ∀ slot ∈ controlSlots, textOf (controlText current slot) = prev slot)
    (hnext : ∀ slot ∈ controlSlots, textOf (controlText wanted slot) = next slot) :
    changedControls current wanted =
      (changed prev next controlSlots).map fun slot => (controlText current slot, controlText wanted slot) := by
  have hslots : changedControls current wanted = (controlSlots.map fun slot =>
      (controlText current slot, controlText wanted slot)).filter fun pair => pair.1 ≠ pair.2 := rfl
  rw [hslots, List.filter_map, changed]
  congr 1
  refine List.filter_congr fun slot hslot => ?_
  rw [← hprev slot hslot, ← hnext slot hslot]
  simp [textOf_inj]

theorem filter_texts_eq {values : Slot → Option String} {text : Slot → String} {slots : List Slot}
    (h : ∀ slot ∈ slots, textOf (text slot) = values slot) :
    (slots.map text).filter (· ≠ "") = slots.filterMap values := by
  induction slots with
  | nil => rfl
  | cons slot slots ih =>
    have hslot := h slot List.mem_cons_self
    rw [List.map_cons, List.filterMap_cons, ← hslot,
      ← ih fun other hother => h other (List.mem_cons_of_mem _ hother)]
    unfold textOf
    by_cases hempty : text slot = "" <;> simp [hempty]

theorem filterMap_nodup {values : Slot → Option String} (hvalues : Distinct values) {slots : List Slot}
    (hslots : slots.Nodup) : (slots.filterMap values).Nodup :=
  hslots.filterMap fun i j a hi hj => hvalues i j a hi hj

/-- Where all of the old values are there, and the new ones are not once the old ones have gone,
the control hotkeys arrive. -/
theorem controlHotkeys_ok {layout : HotkeySettings} (hvalid : validateLayoutShortcutConflicts lib layout = .ok ())
    {prev : Slot → Option String} (hprev : Distinct prev) {s : Shortcuts}
    (hcurrent : ∀ slot ∈ controlSlots, s.value slot = prev slot)
    (hold : ∀ slot ∈ changed prev (asked lib layout) controlSlots, ∀ text, prev slot = some text →
      text ∈ s.registered)
    (hnew : ∀ slot ∈ changed prev (asked lib layout) controlSlots, ∀ text, asked lib layout slot = some text →
      text ∉ s.registered \ held prev (changed prev (asked lib layout) controlSlots)) :
    (syncControlHotkeys lib sys layout s).2 =
      { s with registered := exchange prev (asked lib layout) s.registered controlSlots,
               controlHotkeys := (settled lib layout).controlHotkeys } := by
  have hcurrentText : ∀ slot ∈ controlSlots, textOf (controlText s.controlHotkeys slot) = prev slot := by
    intro slot hslot
    rw [← hcurrent slot hslot]
    simp only [controlSlots, List.mem_cons, List.not_mem_nil, or_false] at hslot
    rcases hslot with rfl | rfl | rfl <;> rfl
  have hwantedText : ∀ slot ∈ controlSlots,
      textOf (controlText (settled lib layout).controlHotkeys slot) = asked lib layout slot := by
    intro slot hslot
    rw [← settled_value lib layout]
    simp only [controlSlots, List.mem_cons, List.not_mem_nil, or_false] at hslot
    rcases hslot with rfl | rfl | rfl <;> rfl
  unfold syncControlHotkeys
  rw [controlHotkeys_asked hvalid]
  dsimp only
  by_cases hsame : s.controlHotkeys = (settled lib layout).controlHotkeys
  · have hnone : changed prev (asked lib layout) controlSlots = [] := by
      refine List.filter_eq_nil_iff.mpr fun slot hslot => ?_
      rw [← hcurrentText slot hslot, ← hwantedText slot hslot, hsame]
      simp
    rw [if_pos hsame, exchange, hnone, ← hsame]
    simp [held]
  · have hchanged := changedControls_eq hcurrentText hwantedText
    have hold_map : (changedControls s.controlHotkeys (settled lib layout).controlHotkeys).map (·.1) =
        (changed prev (asked lib layout) controlSlots).map (controlText s.controlHotkeys) := by
      rw [hchanged, List.map_map]
      rfl
    have hnew_map : (changedControls s.controlHotkeys (settled lib layout).controlHotkeys).map (·.2) =
        (changed prev (asked lib layout) controlSlots).map (controlText (settled lib layout).controlHotkeys) := by
      rw [hchanged, List.map_map]
      rfl
    have hsubset : ∀ slot ∈ changed prev (asked lib layout) controlSlots, slot ∈ controlSlots :=
      fun slot hslot => (mem_changed.mp hslot).1
    have hnodup : (changed prev (asked lib layout) controlSlots).Nodup := List.Nodup.filter _ (by decide)
    have holds := filter_texts_eq fun slot hslot => hcurrentText slot (hsubset slot hslot)
    have hnews := filter_texts_eq fun slot hslot => hwantedText slot (hsubset slot hslot)
    have hrelease := releaseControls_ok sys
      ((changed prev (asked lib layout) controlSlots).map (controlText s.controlHotkeys)) [] s.registered
      (holds ▸ filterMap_nodup hprev hnodup) (fun text htext hne => by
        obtain ⟨slot, hslot, rfl⟩ := List.mem_map.mp htext
        refine hold slot hslot _ ?_
        rw [← hcurrentText slot (hsubset slot hslot), textOf, if_neg hne])
    rw [holds, List.nil_append] at hrelease
    have hclaim := claimControls_ok sys ((changed prev (asked lib layout) controlSlots).filterMap prev)
      ((changed prev (asked lib layout) controlSlots).map (controlText (settled lib layout).controlHotkeys)) []
      (s.registered \ ((changed prev (asked lib layout) controlSlots).filterMap prev).toFinset)
      (hnews ▸ filterMap_nodup (asked_distinct hvalid) hnodup) (fun text htext hne => by
        obtain ⟨slot, hslot, rfl⟩ := List.mem_map.mp htext
        refine hnew slot hslot _ ?_
        rw [← hwantedText slot (hsubset slot hslot), textOf, if_neg hne])
    rw [hnews] at hclaim
    rw [if_neg hsame, hold_map, hnew_map, hrelease]
    dsimp only
    rw [hclaim]
    rfl

/-! ### All of them -/

/-- The slots which are brought up to date before the control hotkeys. -/
def firstStages : List (List Slot) := [[.toggle], [.left], [.right], [.up], [.down]]

theorem firstStages_spec {stage : List Slot} (hstage : stage ∈ firstStages) {slot : Slot} (hslot : slot ∈ stage) :
    slot ∉ controlSlots := by
  simp only [firstStages, List.mem_cons, List.not_mem_nil, or_false] at hstage
  rcases hstage with rfl | rfl | rfl | rfl | rfl <;> rw [List.mem_singleton.mp hslot] <;> decide

theorem firstStages_cover (slot : Slot) : slot ∈ controlSlots ∨ ∃ stage ∈ firstStages, slot ∈ stage := by
  cases slot <;> decide

section Arrival

variable {prev next : Slot → Option String}

/-- The old control hotkeys are there when their turn comes. -/
theorem controls_there (hprev : Distinct prev) {slot : Slot} (hslot : slot ∈ controlSlots) {text : String}
    (htext : prev slot = some text) :
    text ∈ exchanges prev next (held prev stages.flatten) firstStages := by
  refine mem_exchanges (mem_held.mpr ⟨slot, ?_, htext⟩) fun stage hstage other hother hsame => ?_
  · cases slot <;> decide
  · exact firstStages_spec hstage hother (hprev other slot text hsame htext ▸ hslot)

/-- The new control hotkeys are not there, but for those which other control hotkeys give up. -/
theorem controls_free (hnext : Distinct next) {slot : Slot} (hslot : slot ∈ changed prev next controlSlots)
    {text : String} (htext : next slot = some text) :
    text ∉ exchanges prev next (held prev stages.flatten) firstStages \ held prev
    (changed prev next controlSlots) := by
  obtain ⟨hcontrol, hchanged⟩ := mem_changed.mp hslot
  have hunasked : ∀ stage ∈ firstStages, ∀ other ∈ stage, next other ≠ some text :=
    fun stage hstage other hother hsame =>
    firstStages_spec hstage hother (hnext other slot text hsame htext ▸ hcontrol)
  intro hmem
  obtain ⟨hin, hkept⟩ := Finset.mem_sdiff.mp hmem
  by_cases hheld : ∃ owner, prev owner = some text
  · obtain ⟨owner, howner⟩ := hheld
    rcases firstStages_cover owner with hcontrolOwner | ⟨stage, hstage, hmember⟩
    · refine hkept (mem_held.mpr ⟨owner, mem_changed.mpr ⟨hcontrolOwner, fun heq => ?_⟩, howner⟩)
      obtain rfl := hnext owner slot text (heq ▸ howner) htext
      exact hchanged heq
    · exact not_mem_of_released hstage hmember howner hunasked _ hin
  · refine not_mem_exchanges (fun hbefore => hheld ?_) hunasked hin
    obtain ⟨owner, -, howner⟩ := mem_held.mp hbefore
    exact ⟨owner, howner⟩

end Arrival

/-- The two layouts are accepted: the registrations go through the stages, and only the
stored toggle may be missing. -/
theorem syncShortcuts_eq (sys : ShortcutSystem) {prev next : HotkeySettings}
    (hprev : validateLayoutShortcutConflicts lib prev = .ok ())
    (hnext : validateLayoutShortcutConflicts lib next = .ok ()) :
    ∃ stored, syncShortcuts lib sys next (settled lib prev) =
        { settled lib next with
          registered := exchanges (asked lib prev) (asked lib next) (settled lib prev).registered stages
          runtimeToggleShortcut := stored } ∧
      (MovesForward (asked lib prev) (asked lib next) stages → stored = asked lib next .toggle) := by
  have hvalue := fun slot => congrFun (settled_value lib prev) slot
  obtain ⟨stored, htoggle, hstored⟩ := runtimeToggle_spec sys hnext (hvalue .toggle)
  refine ⟨stored, ?_, fun hforward => hstored fun text htext hmoves hin => ?_⟩
  · unfold syncShortcuts
    rw [htoggle]
    dsimp only
    have hdirections : ∀ slot ∈ [Slot.left, .right, .up, .down], ({ settled lib prev with
        registered := exchange (asked lib prev) (asked lib next) (settled lib prev).registered [.toggle]
        runtimeToggleShortcut := stored } : Shortcuts).value slot = asked lib prev slot := by
      intro slot hslot
      rw [← hvalue slot]
      simp only [List.mem_cons, List.not_mem_nil, or_false] at hslot
      rcases hslot with rfl | rfl | rfl | rfl <;> rfl
    have hfirst : exchanges (asked lib prev) (asked lib next)
        (exchange (asked lib prev) (asked lib next) (settled lib prev).registered [.toggle])
        [[.left], [.right], [.up], [.down]] =
          exchanges (asked lib prev) (asked lib next) (settled lib prev).registered firstStages :=
      (exchanges_cons _ _ _ _ _).symm
    have hlast : exchange (asked lib prev) (asked lib next)
        (exchanges (asked lib prev) (asked lib next) (settled lib prev).registered firstStages) controlSlots =
          exchanges (asked lib prev) (asked lib next) (settled lib prev).registered stages :=
      (exchanges_concat _ _ _ _ _).symm
    rw [screenSwitch_eq (asked lib prev) hdirections, hfirst, controlHotkeys_ok hnext (asked_distinct hprev)]
    · dsimp only
      rw [hlast]
      rfl
    · intro slot hslot
      rw [← hvalue slot]
      simp only [controlSlots, List.mem_cons, List.not_mem_nil, or_false] at hslot
      rcases hslot with rfl | rfl | rfl <;> rfl
    · intro slot hslot text htext
      exact controls_there (asked_distinct hprev) (mem_changed.mp hslot).1 htext
    · intro slot hslot text htext
      exact controls_free (asked_distinct hnext) hslot htext
  · -- Another slot which held the text would come later.
    obtain ⟨owner, -, howner⟩ := mem_held.mp hin
    have hlater := (List.pairwise_cons.mp hforward).1
    cases owner with
    | toggle => exact hmoves howner
    | left => exact hlater [.left] (by decide) .toggle (by decide) .left (by decide) text htext howner
    | right => exact hlater [.right] (by decide) .toggle (by decide) .right (by decide) text htext howner
    | up => exact hlater [.up] (by decide) .toggle (by decide) .up (by decide) text htext howner
    | down => exact hlater [.down] (by decide) .toggle (by decide) .down (by decide) text htext howner
    | controlMac =>
        exact hlater controlSlots (by decide) .toggle (by decide) .controlMac (by decide) text htext howner
    | returnWindows =>
      exact hlater controlSlots (by decide) .toggle (by decide) .returnWindows (by decide) text htext howner
    | emergencyReturn =>
      exact hlater controlSlots (by decide) .toggle (by decide) .emergencyReturn (by decide) text htext howner

/-- **Registration converges**, from the registrations of an accepted layout to those of another one, if and only
if no shortcut moves to a slot which is brought up to date before the one it comes from.  And an error of the
control hotkeys leaves everything as it was. -/
theorem registration_converges_iff {prev next : HotkeySettings}
    (hprev : validateLayoutShortcutConflicts lib prev = .ok ())
    (hnext : validateLayoutShortcutConflicts lib next = .ok ()) :
    (syncShortcuts lib sys next (settled lib prev) = settled lib next ↔
      MovesForward (asked lib prev) (asked lib next) stages) ∧
    ∀ (layout : HotkeySettings) (s : Shortcuts) (error : String),
      Releasable sys s.registered
        [s.controlHotkeys.controlMac, s.controlHotkeys.returnWindows, s.controlHotkeys.emergencyReturn] →
      (syncControlHotkeys lib sys layout s).1 = .error error → (syncControlHotkeys lib sys layout s).2 = s := by
  refine ⟨?_, fun layout s error hold h => controlHotkeys_error hold h⟩
  obtain ⟨stored, heq, hstored⟩ := syncShortcuts_eq sys hprev hnext
  have hregistered := exchanges_eq_iff (asked_distinct hprev) (asked_distinct hnext) stages_nodup
  rw [heq]
  constructor
  · intro hsettled
    exact hregistered.mp (congrArg Shortcuts.registered hsettled)
  · intro hforward
    have harrived := hregistered.mpr hforward
    rw [hstored hforward]
    show ({ settled lib next with
      registered := exchanges (asked lib prev) (asked lib next) (held (asked lib prev) stages.flatten) stages } :
        Shortcuts) = _
    rw [harrived]
    rfl

end Effects

section Examples

/-- A system as Windows is: it refuses both. -/
def strictSystem : ShortcutSystem := ⟨"HotKey already registered", .error "failed to unregister hotkey"⟩

def arrowSettings : HotkeySettings where
  machineRole := "server"
  edgeSwitchHotkey := "alt+shift+k"
  controlHotkeys := ControlHotkeys.default
  screenSwitchHotkeys := ⟨"ctrl+alt+left", "ctrl+alt+right", "ctrl+alt+up", "ctrl+alt+down"⟩

/-- The two ordinary control hotkeys change places, and the toggle passes its shortcut on to the left. -/
def passedOn : HotkeySettings :=
  { arrowSettings with
    edgeSwitchHotkey := "f12"
    controlHotkeys :=
      { ControlHotkeys.default with controlMac := "control+alt+F10", returnWindows := "control+alt+F11" }
    screenSwitchHotkeys := { arrowSettings.screenSwitchHotkeys with left := "shift+alt+k" } }

/-- Left and right change places. -/
def mirrored : HotkeySettings :=
  { arrowSettings with screenSwitchHotkeys := ⟨"ctrl+alt+right", "ctrl+alt+left", "ctrl+alt+up", "ctrl+alt+down"⟩ }

theorem registration_converges_passed_on :
    syncShortcuts plainLibrary strictSystem passedOn (settled plainLibrary arrowSettings) =
      settled plainLibrary passedOn :=
  (registration_converges_iff (by decide +kernel) (by decide +kernel)).1.mpr
    (movesForward_iff.mpr (by decide +kernel))

/-- The shortcut of the right is taken by the left before it is given up, and then given up. -/
theorem not_registration_converges :
    validateLayoutShortcutConflicts plainLibrary arrowSettings = .ok () ∧
      validateLayoutShortcutConflicts plainLibrary mirrored = .ok () ∧
      "control+alt+arrowright" ∈ (settled plainLibrary mirrored).registered ∧
      "control+alt+arrowright" ∉
        (syncShortcuts plainLibrary strictSystem mirrored (settled plainLibrary arrowSettings)).registered := by
  decide +kernel

end Examples

end MyKvm.Hook
