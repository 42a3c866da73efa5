import OpenSyncRdk.Vif.ConfigAtomic

/-!
The security settings in the message to the Mesh-Agent against those that are handed to the wifi HAL. The
mode is derived twice, and the message is sent even if that of the message could not be derived.
-/

namespace OpenSyncRdk
namespace Vif

def rdkSecurityKeyMgmt : SecurityMode → Option CStr
  | .none => some (cstr "None")
  | .wpaPersonal => some (cstr "WPA-Personal")
  | .wpa2Personal => some (cstr "WPA2-Personal")
  | .wpaWpa2Personal => some (cstr "WPA-WPA2-Personal")
  | .wpa2Enterprise => some (cstr "WPA2-Enterprise")
  | .wpa3Personal => some (cstr "WPA3-Sae")
  | .wpa3Transition => some (cstr "WPA3-Personal-Transition")
  | .other _ => none

def syncSendSecurityChange (ssidIndex : Int) (sec : MeshWifiAPSecurity) : MeshWifiAPSecurity :=
  { sec with index := ssidIndex }

structure SyncAgrees (ssidIndex : Int) (vconf : SecurityConf) (mode : SecurityMode)
    (msg : MeshWifiAPSecurity) : Prop where
  index : msg.index = ssidIndex
  passphrase : msg.passphrase = firstPsk vconf
  secMode : rdkSecurityKeyMgmt mode = some msg.secMode
  named : msg.secMode ≠ []

def SyncsMode (vconf : SecurityConf) (changed : SecurityFlags) (mode : SecurityMode) : Prop :=
  TurnsOff vconf changed
    ∨ (securityWpaKeyMgmtMatch vconf keyMgmtWpaPsk = true
      ∧ Protects vconf
      ∧ (changed.decodes = true ∨ securityKeyMgmtOvsdbToHal vconf = some mode))

theorem securityMsg_passphrase (ssidIndex : Int) (vconf : SecurityConf) (changed : SecurityFlags)
    : (securityMsg ssidIndex vconf changed).passphrase = firstPsk vconf
        ↔
      (firstPsk vconf).length < maxPassLen := by
  unfold securityMsg strscpy
  rw [List.take_eq_self_iff]
  unfold maxPassLen
  omega

theorem securityMsg_secMode_off (ssidIndex : Int) {vconf : SecurityConf} {changed : SecurityFlags}
    (hoff : TurnsOff vconf changed)
    : (securityMsg ssidIndex vconf changed).secMode = cstr "None" := by
  have hwpa : changed.wpa ∧ vconf.wpa = 0 := hoff
  unfold securityMsg
  simp only [hwpa, and_self, ↓reduceIte]
  decide +kernel

theorem securityMsg_secMode (ssidIndex : Int) {vconf : SecurityConf} {changed : SecurityFlags}
    (hon : ¬TurnsOff vconf changed)
    : (securityMsg ssidIndex vconf changed).secMode
        =
      strscpy maxModeLen ((securityKeyMgmtOvsdbToSync vconf).getD []) := by
  have hwpa : ¬(changed.wpa ∧ vconf.wpa = 0) := hon
  unfold securityMsg securityOvsdbToSyncmsg
  simp only [hwpa, ↓reduceIte]
  cases securityKeyMgmtOvsdbToSync vconf with
  | none => rfl
  | some mode => rfl

theorem rdkSecurityKeyMgmt_ne_nil (mode : SecurityMode)
    : rdkSecurityKeyMgmt mode ≠ some [] := by
  cases mode with
  | other val => simp [rdkSecurityKeyMgmt]
  | _ => decide +kernel

theorem rdkSecurityKeyMgmt_injective {lhs rhs : SecurityMode} {name : CStr}
    (hlhs : rdkSecurityKeyMgmt lhs = some name) (hrhs : rdkSecurityKeyMgmt rhs = some name)
    : lhs = rhs := by
  rw [← hrhs] at hlhs
  revert hlhs
  cases lhs with
  | other val =>
    intro hlhs
    rw [← hlhs] at hrhs
    contradiction
  | _ =>
    cases rhs with
    | other val => simp [rdkSecurityKeyMgmt]
    | _ => decide +kernel

theorem securityKeyMgmtOvsdbToHal_ne_other (vconf : SecurityConf) (val : Nat)
    : securityKeyMgmtOvsdbToHal vconf ≠ some (.other val) := by
  unfold securityKeyMgmtOvsdbToHal
  grind

theorem securityKeyMgmtOvsdbToSync_some {vconf : SecurityConf} {derived : SecurityMode}
    (hderived : securityKeyMgmtOvsdbToHal vconf = some derived)
    (hpsk : securityWpaKeyMgmtMatch vconf keyMgmtWpaPsk = true) (hsome : derived ≠ .none)
    : ∃ name,
        securityKeyMgmtOvsdbToSync vconf = some name
          ∧ rdkSecurityKeyMgmt derived = some (strscpy maxModeLen name) := by
  unfold securityKeyMgmtOvsdbToSync
  rw [if_pos hpsk, hderived]
  cases derived with
  | none => contradiction
  | other val => exact absurd hderived (securityKeyMgmtOvsdbToHal_ne_other vconf val)
  | _ => exact ⟨_, rfl, by decide +kernel⟩

theorem securityKeyMgmtOvsdbToSync_none {vconf : SecurityConf} {derived : SecurityMode}
    (hderived : securityKeyMgmtOvsdbToHal vconf = some derived)
    (hnone : securityWpaKeyMgmtMatch vconf keyMgmtWpaPsk = true → derived = .none)
    : securityKeyMgmtOvsdbToSync vconf = none := by
  unfold securityKeyMgmtOvsdbToSync
  split
  . next hpsk =>
    rw [hderived, hnone hpsk]
  . rfl

theorem rdkSecurityKeyMgmt_sync_iff {vconf : SecurityConf} {derived : SecurityMode}
    (hderived : securityKeyMgmtOvsdbToHal vconf = some derived) (mode : SecurityMode)
    : rdkSecurityKeyMgmt mode = some (strscpy maxModeLen ((securityKeyMgmtOvsdbToSync vconf).getD []))
        ↔
      securityWpaKeyMgmtMatch vconf keyMgmtWpaPsk = true ∧ derived ≠ .none ∧ derived = mode := by
  by_cases hnone : securityWpaKeyMgmtMatch vconf keyMgmtWpaPsk = true → derived = .none
  . rw [securityKeyMgmtOvsdbToSync_none hderived hnone]
    constructor
    . intro hname
      exact absurd hname (rdkSecurityKeyMgmt_ne_nil mode)
    . intro ⟨hpsk, hsome, _⟩
      exact absurd (hnone hpsk) hsome
  . rw [Classical.not_imp] at hnone
    have ⟨hpsk, hsome⟩ := hnone
    have ⟨name, hsync, hname⟩ := securityKeyMgmtOvsdbToSync_some hderived hpsk hsome
    rw [hsync, Option.getD_some]
    constructor
    . intro hmode
      exact ⟨hpsk, hsome, rdkSecurityKeyMgmt_injective hname hmode⟩
    . intro ⟨_, _, heq⟩
      rw [← heq]
      exact hname

theorem setSecurity_syncAgrees_mode_iff (build : Build) (ssidIndex : Int) (vconf : SecurityConf)
    (changed : SecurityFlags) (pushOk : Bool) (s : State)
    : let t := setSecurity build ssidIndex vconf changed pushOk s
      rdkSecurityKeyMgmt t.security.mode = some (securityMsg ssidIndex vconf changed).secMode
        ↔
      SyncsMode vconf changed s.security.mode := by
  dsimp only
  have ⟨derived, hderived⟩ := securityKeyMgmtOvsdbToHal_isSome vconf
  have hnone := securityKeyMgmtOvsdbToHal_none_iff vconf
  rw [hderived, Option.some.injEq] at hnone
  unfold SyncsMode
  by_cases hoff : TurnsOff vconf changed
  . have ⟨hmode, _⟩ := setSecurity_off build ssidIndex pushOk s hoff.1 hoff.2
    rw [hmode, securityMsg_secMode_off ssidIndex hoff]
    simp [hoff, rdkSecurityKeyMgmt]
  . rw [securityMsg_secMode ssidIndex hoff, rdkSecurityKeyMgmt_sync_iff hderived, ne_eq, hnone,
      Decidable.not_not, hderived, Option.some.injEq]
    simp only [hoff, false_or]
    cases hdecodes : changed.decodes with
    | true =>
      have ⟨hmode, _⟩ := setSecurity_decodes build ssidIndex pushOk s hoff hdecodes hderived
      rw [hmode]
      simp
    | false =>
      have ⟨hmode, _⟩ := setSecurity_keeps build ssidIndex pushOk s hoff hdecodes
      rw [hmode]
      simp

theorem setSecurity_syncAgrees_iff (build : Build) (ssidIndex : Int) (vconf : SecurityConf)
    (changed : SecurityFlags) (pushOk : Bool) (s : State)
    : let t := setSecurity build ssidIndex vconf changed pushOk s
      (∀ sec ∈ t.synced.drop s.synced.length,
          SyncAgrees ssidIndex vconf t.security.mode (syncSendSecurityChange ssidIndex sec))
        ↔
      (SyncsSecurity build vconf changed
        → (firstPsk vconf).length < maxPassLen ∧ SyncsMode vconf changed s.security.mode) := by
  dsimp only
  have hmode := setSecurity_syncAgrees_mode_iff build ssidIndex vconf changed pushOk s
  dsimp only at hmode
  rw [setSecurity_synced, List.drop_left, ← hmode, ← securityMsg_passphrase ssidIndex vconf changed]
  split
  . next hsyncs =>
    simp only [hsyncs, forall_const, List.mem_singleton, forall_eq]
    constructor
    . intro hagrees
      exact ⟨hagrees.passphrase, hagrees.secMode⟩
    . intro ⟨hpass, hname⟩
      refine ⟨rfl, hpass, hname, ?_⟩
      intro hempty
      rw [show (securityMsg ssidIndex vconf changed).secMode = [] from hempty] at hname
      exact rdkSecurityKeyMgmt_ne_nil _ hname
  . next hsyncs => simp [hsyncs]

def syncBuild : Build :=
  { multiPsk := false, disableSync := false, keySize := 65, keyIdSize := 64, pskSize := 65 }

def pskConf (keyMgmt : CStr) : SecurityConf :=
  { ifName := cstr "wl0", wpa := 1, wpaKeyMgmt := [keyMgmt], wpaPairwiseTkip := false
    wpaPairwiseCcmp := false, rsnPairwiseTkip := false, rsnPairwiseCcmp := true
    pmf := pmfRequired, wpaPsks := [(cstr "key", cstr "a passphrase")]
  }

def openState : State :=
  { security := { mode := .none, mfp := .disabled, key := [] }, triggerReconfig := false
    cachedKeyIds := fun _ => cstr "key", pushed := [], synced := [] }

theorem not_setSecurity_syncAgrees
    : ¬∀ (build : Build) (ssidIndex : Int) (vconf : SecurityConf) (changed : SecurityFlags)
        (pushOk : Bool) (s : State),
        build.disableSync = false
          → build.multiPsk = false
          → ∀ sec ∈ (setSecurity build ssidIndex vconf changed pushOk s).synced.drop s.synced.length,
              SyncAgrees ssidIndex vconf
                (setSecurity build ssidIndex vconf changed pushOk s).security.mode
                (syncSendSecurityChange ssidIndex sec) := by
  intro hall
  have hagrees := hall syncBuild 3 (pskConf keyMgmtSae) .all true openState rfl rfl
    { index := 0, passphrase := cstr "a passphrase", secMode := [], encryptMode := [] }
    (by decide +kernel)
  exact hagrees.named rfl

end Vif
end OpenSyncRdk
