import OpenSyncRdk.Vif.Config
import OpenSyncRdk.Vif.SecurityMode

/-!
What has been done when `target_vif_config_set2` rejects a configuration: the value of `ssid_broadcast` is
looked at after `set_security`.
-/

namespace OpenSyncRdk
namespace Vif

open Clients (MacAddr)

def TurnsOff (vconf : SecurityConf) (changed : SecurityFlags) : Prop :=
  changed.wpa = true ∧ vconf.wpa = 0

def SetsPassword (vconf : SecurityConf) (changed : SecurityFlags) : Prop :=
  ¬TurnsOff vconf changed ∧ changed.wpaPsks = true ∧ 1 ≤ vconf.wpaPsks.length

def SyncsSecurity (build : Build) (vconf : SecurityConf) (changed : SecurityFlags) : Prop :=
  build.disableSync = false
    ∧ build.multiPsk = false
    ∧ (TurnsOff vconf changed ∨ changed.decodes = true ∨ SetsPassword vconf changed)

def firstKeyId (vconf : SecurityConf) : CStr :=
  strscpy pskKeyIdSize (vconf.wpaPsks.headD ([], [])).1

def ChangesKeys (build : Build) (ssidIndex : Int) (vconf : SecurityConf) (changed : SecurityFlags)
    (cachedKeyIds : Int → CStr) : Prop :=
  SetsPassword vconf changed ∧ (build.multiPsk = true ∨ firstKeyId vconf ≠ cachedKeyIds ssidIndex)

instance : Decidable (TurnsOff vconf changed) :=
  inferInstanceAs (Decidable (_ ∧ _))

instance : Decidable (SetsPassword vconf changed) :=
  inferInstanceAs (Decidable (_ ∧ _ ∧ _))

instance : Decidable (SyncsSecurity build vconf changed) :=
  inferInstanceAs (Decidable (_ ∧ _ ∧ (_ ∨ _ ∨ _)))

/-- The message that `set_security` prepares at its label `exit`. -/
def securityMsg (ssidIndex : Int) (vconf : SecurityConf) (changed : SecurityFlags)
    : MeshWifiAPSecurity :=
  let zeroed := { index := 0, passphrase := [], secMode := [], encryptMode := [] }
  let data := (securityOvsdbToSyncmsg ssidIndex vconf zeroed).1
  let data :=
    if changed.wpa ∧ vconf.wpa = 0 then
      { data with secMode := strscpy maxModeLen (cstr "None") }
    else
      data
  { data with passphrase := strscpy maxPassLen (firstPsk vconf) }

def KeysKept (s t : State) : Prop :=
  t.pushed = s.pushed ∧ t.cachedKeyIds = s.cachedKeyIds

theorem setSecurityExit_keysKept (build : Build) (ssidIndex : Int) (vconf : SecurityConf)
    (changed : SecurityFlags) (sendSync : Bool) (s : State)
    : KeysKept s (setSecurityExit build ssidIndex vconf changed sendSync s) := by
  unfold setSecurityExit
  split
  . exact ⟨rfl, rfl⟩
  . exact ⟨rfl, rfl⟩

theorem setSecurityExit_synced (build : Build) (ssidIndex : Int) (vconf : SecurityConf)
    (changed : SecurityFlags) (sendSync : Bool) (s : State)
    : (setSecurityExit build ssidIndex vconf changed sendSync s).synced
        =
      s.synced
        ++ if sendSync = true ∧ build.disableSync = false ∧ build.multiPsk = false then
            [securityMsg ssidIndex vconf changed]
          else
            [] := by
  unfold setSecurityExit
  split
  . next hnone => grind
  . next hsome =>
    simp only [not_or, Bool.not_eq_true] at hsome
    have hsends : sendSync = true := by
      simpa using hsome.1
    rw [if_pos ⟨hsends, hsome.2⟩]
    rfl

theorem setPassword_synced (build : Build) (ssidIndex : Int) (vconf : SecurityConf) (pushOk : Bool)
    (s : State)
    : (setPassword build ssidIndex vconf pushOk s).1.synced = s.synced := by
  unfold setPassword
  dsimp only
  split
  . rfl
  . rfl

theorem setPassword_fails {build : Build} {ssidIndex : Int} {vconf : SecurityConf} {pushOk : Bool}
    {s t : State} (hfails : setPassword build ssidIndex vconf pushOk s = (t, false))
    : build.multiPsk = true := by
  unfold setPassword at hfails
  dsimp only at hfails
  split at hfails
  . assumption
  . simp at hfails

theorem setPassword_keysKept_iff (build : Build) (ssidIndex : Int) (vconf : SecurityConf)
    (pushOk : Bool) (s : State)
    : KeysKept s (setPassword build ssidIndex vconf pushOk s).1
        ↔
      ¬(build.multiPsk = true ∨ firstKeyId vconf ≠ s.cachedKeyIds ssidIndex) := by
  unfold setPassword
  dsimp only
  split
  . next hpsk =>
    simp only [hpsk, true_or, not_true_eq_false, iff_false]
    intro hkept
    simpa using hkept.1
  . next hpsk =>
    simp only [hpsk, Bool.false_eq_true, false_or, ne_eq, Decidable.not_not]
    constructor
    . intro hkept
      have hcached := congrFun hkept.2 ssidIndex
      simpa [firstKeyId] using hcached
    . intro heq
      refine ⟨rfl, ?_⟩
      funext index
      dsimp only
      split
      . next hindex =>
        rw [hindex]
        exact heq
      . rfl

theorem keysKept_setSecurityExit_iff (build : Build) (ssidIndex : Int) (vconf : SecurityConf)
    (changed : SecurityFlags) (sendSync : Bool) (s t : State)
    : KeysKept s (setSecurityExit build ssidIndex vconf changed sendSync t) ↔ KeysKept s t := by
  have ⟨hpushed, hcached⟩ := setSecurityExit_keysKept build ssidIndex vconf changed sendSync t
  constructor
  . intro ⟨hkept, hkept'⟩
    exact ⟨hpushed ▸ hkept, hcached ▸ hkept'⟩
  . intro ⟨hkept, hkept'⟩
    exact ⟨hpushed.trans hkept, hcached.trans hkept'⟩

theorem setSecurityPsks_synced (build : Build) (ssidIndex : Int) (vconf : SecurityConf)
    (changed : SecurityFlags) (pushOk sendSync : Bool) (s : State)
    : (setSecurityPsks build ssidIndex vconf changed pushOk sendSync s).synced
        =
      s.synced
        ++ if (sendSync = true ∨ changed.wpaPsks = true ∧ 1 ≤ vconf.wpaPsks.length)
              ∧ build.disableSync = false ∧ build.multiPsk = false then
            [securityMsg ssidIndex vconf changed]
          else
            [] := by
  have hsynced := setPassword_synced build ssidIndex vconf pushOk s
  unfold setSecurityPsks
  split
  . next hpsks =>
    split
    . next t hpass =>
      -- only the HAL of a multi-PSK build refuses keys, and that build sends no message
      have hmulti := setPassword_fails hpass
      rw [hpass] at hsynced
      rw [setSecurityExit_synced, hsynced]
      simp [hmulti]
    . next t hpass =>
      rw [hpass] at hsynced
      rw [setSecurityExit_synced, hsynced]
      simp [hpsks]
  . next hpsks =>
    rw [setSecurityExit_synced]
    simp only [hpsks, or_false]

theorem setSecurityPsks_keysKept_iff (build : Build) (ssidIndex : Int) (vconf : SecurityConf)
    (changed : SecurityFlags) (pushOk sendSync : Bool) (s : State)
    : KeysKept s (setSecurityPsks build ssidIndex vconf changed pushOk sendSync s)
        ↔
      ¬((changed.wpaPsks = true ∧ 1 ≤ vconf.wpaPsks.length)
        ∧ (build.multiPsk = true ∨ firstKeyId vconf ≠ s.cachedKeyIds ssidIndex)) := by
  have hkept := setPassword_keysKept_iff build ssidIndex vconf pushOk s
  unfold setSecurityPsks
  split
  . next hpsks =>
    simp only [hpsks, and_self, true_and]
    split
    . next t hpass =>
      rw [hpass] at hkept
      rw [keysKept_setSecurityExit_iff, hkept]
    . next t hpass =>
      rw [hpass] at hkept
      rw [keysKept_setSecurityExit_iff, ← hkept]
      exact Iff.rfl
  . next hpsks =>
    rw [keysKept_setSecurityExit_iff]
    simp only [hpsks, false_and, not_false_eq_true, iff_true]
    exact ⟨rfl, rfl⟩

theorem setSecurity_synced (build : Build) (ssidIndex : Int) (vconf : SecurityConf)
    (changed : SecurityFlags) (pushOk : Bool) (s : State)
    : (setSecurity build ssidIndex vconf changed pushOk s).synced
        =
      s.synced
        ++ if SyncsSecurity build vconf changed then
            [securityMsg ssidIndex vconf changed]
          else
            [] := by
  have ⟨mode, hmode⟩ := securityKeyMgmtOvsdbToHal_isSome vconf
  unfold setSecurity SyncsSecurity SetsPassword
  split
  . next hoff =>
    have hturns : TurnsOff vconf changed := hoff
    rw [setSecurityExit_synced]
    simp [hturns]
  . next hoff =>
    have hturns : ¬TurnsOff vconf changed := hoff
    simp only [hturns, not_false_eq_true, true_and, false_or]
    split
    . next hdecodes =>
      rw [hmode]
      dsimp only
      rw [setSecurityPsks_synced]
      simp [hdecodes]
    . next hdecodes =>
      rw [setSecurityPsks_synced]
      simp only [hdecodes, Bool.false_eq_true, false_or]
      congr 2
      grind

theorem setSecurity_synced_iff (build : Build) (ssidIndex : Int) (vconf : SecurityConf)
    (changed : SecurityFlags) (pushOk : Bool) (s : State)
    : (setSecurity build ssidIndex vconf changed pushOk s).synced = s.synced
        ↔
      ¬SyncsSecurity build vconf changed := by
  rw [setSecurity_synced, List.append_right_eq_self]
  split
  . next hsyncs => simp [hsyncs]
  . next hsyncs => simp [hsyncs]

theorem setSecurity_keysKept_iff (build : Build) (ssidIndex : Int) (vconf : SecurityConf)
    (changed : SecurityFlags) (pushOk : Bool) (s : State)
    : KeysKept s (setSecurity build ssidIndex vconf changed pushOk s)
        ↔
      ¬ChangesKeys build ssidIndex vconf changed s.cachedKeyIds := by
  have ⟨mode, hmode⟩ := securityKeyMgmtOvsdbToHal_isSome vconf
  unfold setSecurity ChangesKeys SetsPassword
  split
  . next hoff =>
    have hturns : TurnsOff vconf changed := hoff
    rw [keysKept_setSecurityExit_iff]
    simp only [hturns, not_true_eq_false, false_and, not_false_eq_true, iff_true]
    exact ⟨rfl, rfl⟩
  . next hoff =>
    have hturns : ¬TurnsOff vconf changed := hoff
    simp only [hturns, not_false_eq_true, true_and]
    split
    . rw [hmode]
      dsimp only
      have hpsks := setSecurityPsks_keysKept_iff build ssidIndex vconf changed pushOk true
        { s with
          security := { s.security with mode := mode, mfp := mfpOf vconf.pmf }
          triggerReconfig := true
        }
      rw [← hpsks]
      exact Iff.rfl
    . rw [setSecurityPsks_keysKept_iff]

def RejectsSsidBroadcast (vconf : VifConf) (changed : VifFlags) : Prop :=
  changed.ssidBroadcast = true
    ∧ vconf.ssidBroadcast ≠ cstr "enabled"
    ∧ vconf.ssidBroadcast ≠ cstr "disabled"

section

variable {η : Type}

/-- What a rejected configuration has to leave as it was. The calls are logged whatever they return. -/
structure Untouched (s t : ConfigState η) : Prop where
  calls : t.calls = s.calls
  cachedKeyIds : t.cachedKeyIds = s.cachedKeyIds
  sent : t.sent = s.sent

def SecurityActs (build : Build) (env : ConfigEnv η) (ssidIndex : Int) (vconf : VifConf)
    (changed : VifFlags) (cachedKeyIds : Int → CStr) : Prop :=
  (env.syncSecurityOk = true ∧ SyncsSecurity build vconf.toSecurityConf changed.toSecurityFlags)
    ∨ ChangesKeys build ssidIndex vconf.toSecurityConf changed.toSecurityFlags cachedKeyIds

def HalfApplied (build : ConfigBuild) (env : ConfigEnv η) (vconf : VifConf) (changed : VifFlags)
    (cachedKeyIds : Int → CStr) : Prop :=
  ∃ ssidIndex vap,
    findVap env.lookup vconf = some (ssidIndex, vap)
      ∧ vap.vapMode ≠ .sta
      ∧ RejectsSsidBroadcast vconf changed
      ∧ SecurityActs build.security env ssidIndex vconf changed cachedKeyIds

theorem ssidBroadcastItem_none_iff (vconf : VifConf)
    : ssidBroadcastItem vconf = none
        ↔
      vconf.ssidBroadcast ≠ cstr "enabled" ∧ vconf.ssidBroadcast ≠ cstr "disabled" := by
  unfold ssidBroadcastItem mapEnableDisable
  rw [List.find?_eq_none]
  simp [eq_comm]

theorem configSsidBroadcast_none_iff (build : ConfigBuild) (env : ConfigEnv η) (ssidIndex : Int)
    (vconf : VifConf) (changed : VifFlags) (s : Configuring η)
    : configSsidBroadcast build env ssidIndex vconf changed s = none
        ↔
      RejectsSsidBroadcast vconf changed := by
  unfold RejectsSsidBroadcast
  rw [← ssidBroadcastItem_none_iff]
  unfold configSsidBroadcast
  split
  . next hchanged =>
    rw [hchanged]
    cases ssidBroadcastItem vconf with
    | none => simp
    | some citem =>
      dsimp only
      split
      . simp
      . simp
  . next hchanged => simp [hchanged]

theorem not_rejectsSsidBroadcast {s t : Configuring η}
    (ht : configSsidBroadcast build env ssidIndex vconf changed s = some t)
    : ¬RejectsSsidBroadcast vconf changed := by
  intro hrejects
  rw [← configSsidBroadcast_none_iff build env ssidIndex _ _ s, ht] at hrejects
  contradiction

@[simp]
theorem setVapInfo_state (changed : Bool) (set : VapInfo → VapInfo) (s : Configuring η)
    : (setVapInfo changed set s).state = s.state := by
  unfold setVapInfo
  split
  . rfl
  . rfl

@[simp]
theorem configFlags_state (vconf : VifConf) (changed : VifFlags) (s : Configuring η)
    : (configFlags vconf changed s).state = s.state := by
  simp [configFlags]

theorem configSecurity_untouched_iff (build : ConfigBuild) (env : ConfigEnv η) (ssidIndex : Int)
    (vconf : VifConf) (changed : VifFlags) (s : Configuring η)
    : Untouched s.state (configSecurity build env ssidIndex vconf changed s).state
        ↔
      ¬SecurityActs build.security env ssidIndex vconf changed s.state.cachedKeyIds := by
  unfold configSecurity SecurityActs
  generalize hstart : State.mk _ _ _ _ _ = start
  have hsynced := setSecurity_synced_iff build.security ssidIndex vconf.toSecurityConf
    changed.toSecurityFlags env.pushMultiPskKeysOk start
  have hkept := setSecurity_keysKept_iff build.security ssidIndex vconf.toSecurityConf
    changed.toSecurityFlags env.pushMultiPskKeysOk start
  generalize setSecurity _ _ _ _ _ start = t at hsynced hkept
  rw [← hstart] at hsynced hkept
  unfold KeysKept at hkept
  dsimp only at hsynced hkept
  rw [not_or, not_and, ← hsynced, ← hkept]
  constructor
  . intro ⟨hcalls, hcached, hsent⟩
    simp only [ConfigState.send, ConfigState.call, List.append_right_eq_self, List.map_eq_nil_iff]
      at hcalls hcached hsent
    refine ⟨?_, hcalls, hcached⟩
    intro hok
    simpa [hok] using hsent
  . intro ⟨hsent, hpushed, hcached⟩
    constructor
    . simp [ConfigState.send, ConfigState.call, hpushed]
    . exact hcached
    . cases hok : env.syncSecurityOk with
      | false => simp [ConfigState.send, ConfigState.call]
      | true => simp [ConfigState.send, ConfigState.call, hsent hok]

theorem updateVifState_true {build : ConfigBuild} (hdelay : build.vifStateUpdateDelay > 0)
    (env : ConfigEnv η) (ssidIndex : Int) (s : ConfigState η)
    : (updateVifState build env ssidIndex s).2 = true := by
  unfold updateVifState
  rw [if_pos hdelay]

theorem vifStaConfigSet2_atomic {build : ConfigBuild} (hdelay : build.vifStateUpdateDelay > 0)
    (env : ConfigEnv η) (vconf : VifConf) (cconf : CredentialConf) (changed : VifFlags)
    (s : ConfigState η) (hfalse : (vifStaConfigSet2 build env vconf cconf changed s).2 = false)
    : Untouched s (vifStaConfigSet2 build env vconf cconf changed s).1 := by
  unfold vifStaConfigSet2 at hfalse ⊢
  split
  . exact ⟨rfl, rfl, rfl⟩
  . next hfound =>
    rw [hfound] at hfalse
    dsimp only at hfalse
    rw [updateVifState_true hdelay] at hfalse
    contradiction

theorem targetVifConfigSet2_atomic_iff {build : ConfigBuild} (hdelay : build.vifStateUpdateDelay > 0)
    (env : ConfigEnv η) (vconf : VifConf) (radioIfname : CStr) (cconf : CredentialConf)
    (changed : VifFlags) (s : ConfigState η)
    : let t := targetVifConfigSet2 build env vconf radioIfname cconf changed s
      (t.2 = false → Untouched s t.1) ↔ ¬HalfApplied build env vconf changed s.cachedKeyIds := by
  dsimp only
  unfold targetVifConfigSet2 HalfApplied
  cases hfind : findVap env.lookup vconf with
  | none => simpa using ⟨rfl, rfl, rfl⟩
  | some found =>
    have ⟨ssidIndex, vap⟩ := found
    simp only [Option.some.injEq, Prod.mk.injEq, and_assoc, exists_and_left, exists_eq_left', ne_eq]
    split
    . next hsta =>
      simp only [hsta, not_true_eq_false, false_and, not_false_eq_true, iff_true]
      exact vifStaConfigSet2_atomic hdelay env vconf cconf changed s
    . next hap =>
      simp only [hap, not_false_eq_true, true_and, not_and]
      split
      . next hnone =>
        rw [configSsidBroadcast_none_iff] at hnone
        simp only [configFlags_state, forall_const, hnone]
        generalize hstart : setVapInfo _ _ _ = start
        have hstate : start.state = s := by
          rw [← hstart, setVapInfo_state]
        rw [← hstate]
        apply configSecurity_untouched_iff
      . next hsome =>
        have haccepts := not_rejectsSsidBroadcast hsome
        simp [haccepts, configRest, updateVifState_true hdelay]

end

def rdkBuild : ConfigBuild :=
  { security := { multiPsk := false, disableSync := false, keySize := 65, keyIdSize := 64, pskSize := 65 }
    acl := extHomeAcls
    wpsSupport := true
    multiApSupport := false
    vifStateUpdateDelay := 3
    ssidSize := 33
    bridgeNameSize := 32
    syncSsidSize := 33
  }

def homeHalVap : HalVap :=
  { vapMode := .ap
    vapInfo := homeVap
    staInfo :=
      { enabled := false, ssid := [], bssid := ⟨0, 0, 0, 0, 0, 0⟩
        security := { mode := .none, encr := .aes, keyType := .psk, key := [] }
      }
  }

def homeLookup : LookupHal :=
  { interfaceMap := some [(cstr "wl0", 0)]
    getSsidRadioIndex := fun _ => some 0
    getRadioVapInfoMap := fun _ => some [homeHalVap]
  }

def homeEnv : ConfigEnv (List MacAddr) :=
  { lookup := homeLookup
    staLookup := homeLookup
    acl := .macs storingHal
    mcast2ucastSupported := fun _ => some true
    pushMultiPskKeysOk := true
    setApWpsEnableOk := true
    setApWpsConfigMethodsEnabledOk := true
    syncSecurityOk := true
    syncSsidBroadcastOk := true
    syncSsidOk := true
    vifStateUpdateOk := true
  }

def homeConf (ssidBroadcast : CStr) : VifConf :=
  { ifName := cstr "wl0", wpa := 1, wpaKeyMgmt := [cstr "wpa-psk"], wpaPairwiseTkip := false
    wpaPairwiseCcmp := false, rsnPairwiseTkip := false, rsnPairwiseCcmp := true, pmf := []
    wpaPsks := [(cstr "key-2", cstr "a passphrase")]
    macListTypeExists := false, macListType := [], macList := []
    enabled := true, apBridge := false, rrm := false, btm := false, uapsdEnable := false
    ssidBroadcast := ssidBroadcast, ssid := cstr "home", bridge := [], wps := false, wpsPbc := false
    wpsPbcKeyId := [], multiAp := [], mcast2ucast := false, security := [], parent := []
  }

def VifFlags.unset : VifFlags :=
  { wpa := false, wpaKeyMgmt := false, wpaPairwiseTkip := false, wpaPairwiseCcmp := false
    rsnPairwiseTkip := false, rsnPairwiseCcmp := false, pmf := false, wpaPsks := false
    macListType := false, macList := false, enabled := false, apBridge := false, rrm := false
    btm := false, uapsdEnable := false, ssidBroadcast := false, ssid := false, bridge := false
    wps := false, wpsPbc := false, wpsPbcKeyId := false, multiAp := false, mcast2ucast := false
    security := false, parent := false
  }

def homeState : ConfigState (List MacAddr) :=
  { hal := [], calls := [], cachedKeyIds := fun _ => cstr "key-1", sent := [], pbcUpdates := []
    deferred := .initial
  }

theorem targetVifConfigSet2_atomic_iff_unknown
    : let t := targetVifConfigSet2 rdkBuild homeEnv (homeConf (cstr "maybe")) (cstr "wifi0") ⟨[], []⟩
        { VifFlags.unset with ssidBroadcast := true } homeState
      t.2 = false ∧ Untouched homeState t.1 := by
  intro t
  have hrefused : t.2 = false := by
    decide +kernel
  refine ⟨hrefused, ?_⟩
  apply (targetVifConfigSet2_atomic_iff (by decide) _ _ _ _ _ _).mpr _ hrefused
  rintro ⟨ssidIndex, vap, _, _, _, hacts⟩
  exact absurd hacts nofun

theorem not_targetVifConfigSet2_atomic
    : ¬∀ (build : ConfigBuild) (env : ConfigEnv (List MacAddr)) (vconf : VifConf) (radioIfname : CStr)
        (cconf : CredentialConf) (changed : VifFlags) (s : ConfigState (List MacAddr)),
        build.vifStateUpdateDelay > 0
          → (targetVifConfigSet2 build env vconf radioIfname cconf changed s).2 = false
          → Untouched s (targetVifConfigSet2 build env vconf radioIfname cconf changed s).1 := by
  intro hall
  have huntouched := hall rdkBuild homeEnv (homeConf (cstr "maybe")) (cstr "wifi0") ⟨[], []⟩
    { VifFlags.unset with wpaPsks := true, ssidBroadcast := true } homeState (by decide)
    (by decide +kernel)
  have hcached := congrFun huntouched.cachedKeyIds 0
  exact absurd hcached (by decide +kernel)

end Vif
end OpenSyncRdk
