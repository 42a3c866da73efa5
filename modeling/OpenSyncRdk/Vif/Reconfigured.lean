import OpenSyncRdk.Vif.PasswordAtomic

/-!
The VAP that `target_vif_config_set2` hands to `wifi_createVAP`, field by field: what a flag governs has
the configured value, and everything else is as the HAL has reported it.
-/

namespace OpenSyncRdk
namespace Vif

def creations (calls : List SetterCall) : List (Int × HalVap) :=
  calls.filterMap (fun call =>
    match call with
    | .createVap radioIndex vap => some (radioIndex, vap)
    | _ => none)

def GovernsSecurity (changed : SecurityFlags) : Prop :=
  changed.wpa = true ∨ changed.decodes = true ∨ changed.wpaPsks = true

def GovernsVap (changed : VifFlags) : Prop :=
  changed.enabled = true
    ∨ GovernsSecurity changed.toSecurityFlags
    ∨ changed.apBridge = true
    ∨ changed.rrm = true
    ∨ changed.btm = true
    ∨ changed.uapsdEnable = true
    ∨ changed.ssidBroadcast = true
    ∨ changed.ssid = true
    ∨ changed.bridge = true
    ∨ changed.macListType = true
    ∨ changed.mcast2ucast = true

def SetsSecurity (build : Build) (pushOk : Bool) (vconf : SecurityConf) (changed : SecurityFlags)
    : Prop :=
  TurnsOff vconf changed
    ∨ changed.decodes = true
    ∨ (SetsPassword vconf changed ∧ (build.multiPsk = true → pushOk = true))

/-- `sets` says whether the type of the list is taken over. -/
structure MacFilterSet (sets : Prop) (macListType : CStr) (old new : BssInfo) : Prop where
  kept : ¬sets → new.macFilterEnable = old.macFilterEnable ∧ new.macFilterMode = old.macFilterMode
  disabled : sets → macListType = noneMacListType →
    new.macFilterEnable = false ∧ new.macFilterMode = old.macFilterMode
  enabled : sets → macListType ≠ noneMacListType →
    new.macFilterEnable = true ∧ (new.macFilterMode, macListType) ∈ mapAclModes

section

variable {η : Type}

def Triggers (build : ConfigBuild) (env : ConfigEnv η) (vap : VapInfo) (vconf : VifConf)
    (changed : VifFlags) : Prop :=
  changed.enabled = true
    ∨ SetsSecurity build.security env.pushMultiPskKeysOk vconf.toSecurityConf
        changed.toSecurityFlags
    ∨ changed.apBridge = true
    ∨ changed.rrm = true
    ∨ changed.btm = true
    ∨ changed.uapsdEnable = true
    ∨ changed.ssidBroadcast = true
    ∨ changed.ssid = true
    ∨ changed.bridge = true
    ∨ SetsMacListType build.acl vap.vapName vconf.toAclConf changed.toAclFlags
    ∨ SetsMcast2ucast env vap.radioIndex vconf changed

structure Reconfigured (build : ConfigBuild) (env : ConfigEnv η) (vconf : VifConf) (changed : VifFlags)
    (old new : VapInfo) : Prop where
  vapIndex : new.vapIndex = old.vapIndex
  radioIndex : new.radioIndex = old.radioIndex
  vapName : new.vapName = old.vapName
  bridgeName : new.bridgeName =
    if changed.bridge then strscpy build.bridgeNameSize vconf.bridge else old.bridgeName
  enabled : new.bssInfo.enabled = if changed.enabled then vconf.enabled else old.bssInfo.enabled
  security : ¬GovernsSecurity changed.toSecurityFlags → new.bssInfo.security = old.bssInfo.security
  isolation : new.bssInfo.isolation =
    if changed.apBridge then !vconf.apBridge else old.bssInfo.isolation
  nbrReportActivated : new.bssInfo.nbrReportActivated =
    if changed.rrm then vconf.rrm else old.bssInfo.nbrReportActivated
  bssTransitionActivated : new.bssInfo.bssTransitionActivated =
    if changed.btm then vconf.btm else old.bssInfo.bssTransitionActivated
  uapsdEnabled : new.bssInfo.uapsdEnabled =
    if changed.uapsdEnable then vconf.uapsdEnable else old.bssInfo.uapsdEnabled
  showSsid : if changed.ssidBroadcast then
    (new.bssInfo.showSsid, vconf.ssidBroadcast) ∈ mapEnableDisable
      else new.bssInfo.showSsid = old.bssInfo.showSsid
  ssid : new.bssInfo.ssid =
    if changed.ssid then strscpy build.ssidSize vconf.ssid else old.bssInfo.ssid
  macFilter : MacFilterSet
    (SetsMacListType build.acl old.vapName vconf.toAclConf changed.toAclFlags) vconf.macListType
    old.bssInfo new.bssInfo
  mcast2ucast : (SetsMcast2ucast env old.radioIndex vconf changed →
      new.bssInfo.mcast2ucast = vconf.mcast2ucast)
    ∧ (¬SetsMcast2ucast env old.radioIndex vconf changed →
      new.bssInfo.mcast2ucast = old.bssInfo.mcast2ucast)

variable {build : ConfigBuild} {env : ConfigEnv η} {vap : VapInfo} {vconf : VifConf}
  {changed : VifFlags}

theorem SetsSecurity.governsSecurity {build : Build} {pushOk : Bool} {vconf : SecurityConf}
    {changed : SecurityFlags} (hsets : SetsSecurity build pushOk vconf changed)
    : GovernsSecurity changed := by
  rcases hsets with hoff | hdecodes | hpassword
  . exact .inl hoff.1
  . exact .inr (.inl hdecodes)
  . exact .inr (.inr hpassword.1.2.1)

theorem Triggers.governsVap (htriggers : Triggers build env vap vconf changed)
    : GovernsVap changed := by
  have hsecurity
      : SetsSecurity build.security env.pushMultiPskKeysOk vconf.toSecurityConf changed.toSecurityFlags
        → GovernsSecurity changed.toSecurityFlags := SetsSecurity.governsSecurity
  have hacl
      : SetsMacListType build.acl vap.vapName vconf.toAclConf changed.toAclFlags
        → changed.macListType = true := fun hsets => hsets.2.1
  have hmcast
      : SetsMcast2ucast env vap.radioIndex vconf changed → changed.mcast2ucast = true := And.left
  unfold Triggers at htriggers
  unfold GovernsVap
  grind

end

theorem setSecurityPsks_trigger (build : Build) (ssidIndex : Int) (vconf : SecurityConf)
    (changed : SecurityFlags) (pushOk sendSync : Bool) (s : State)
    : (setSecurityPsks build ssidIndex vconf changed pushOk sendSync s).triggerReconfig = true
        ↔
      s.triggerReconfig = true
        ∨ (changed.wpaPsks = true ∧ 1 ≤ vconf.wpaPsks.length)
          ∧ (build.multiPsk = true → pushOk = true) := by
  unfold setSecurityPsks
  split
  . next hpsks =>
    have hrefused := setPassword_refused_iff build ssidIndex vconf pushOk s
    have hkept := (setPassword_frame build ssidIndex vconf pushOk s).2.2
    split
    . next t heq =>
      rw [heq] at hrefused hkept
      have ⟨hmulti, hpush⟩ := hrefused.mp rfl
      rw [(setSecurityExit_frame ..).2]
      dsimp only at hkept
      simp [hkept, hmulti, hpush]
    . next t heq =>
      rw [heq] at hrefused
      rw [(setSecurityExit_frame ..).2]
      simp only [true_iff]
      refine Or.inr ⟨hpsks, ?_⟩
      intro hmulti
      cases hpush : pushOk with
      | true => rfl
      | false =>
        have hfalse := hrefused.mpr ⟨hmulti, hpush⟩
        contradiction
  . next hpsks =>
    rw [(setSecurityExit_frame ..).2]
    simp [hpsks]

theorem setSecurity_trigger (build : Build) (ssidIndex : Int) (vconf : SecurityConf)
    (changed : SecurityFlags) (pushOk : Bool) (s : State)
    : (setSecurity build ssidIndex vconf changed pushOk s).triggerReconfig = true
        ↔
      s.triggerReconfig = true ∨ SetsSecurity build pushOk vconf changed := by
  unfold setSecurity SetsSecurity SetsPassword TurnsOff
  split
  . next hoff =>
    rw [(setSecurityExit_frame ..).2]
    simp [hoff]
  . next hon =>
    split
    . next hdecodes =>
      have ⟨mode, hmode⟩ := securityKeyMgmtOvsdbToHal_isSome vconf
      rw [hmode]
      dsimp only
      rw [setSecurityPsks_trigger]
      simp [hdecodes]
    . next hdecodes =>
      rw [setSecurityPsks_trigger]
      simp only [hon, hdecodes, false_or, not_false_eq_true, true_and]
      simp

theorem setPassword_security (build : Build) (ssidIndex : Int) (vconf : SecurityConf) (pushOk : Bool)
    (s : State)
    : (setPassword build ssidIndex vconf pushOk s).1.security
        = { s.security with key := strscpy build.keySize (firstPsk vconf) } := by
  unfold setPassword
  dsimp only
  split <;> rfl

theorem setSecurityPsks_security (build : Build) (ssidIndex : Int) (vconf : SecurityConf)
    (changed : SecurityFlags) (pushOk sendSync : Bool) (s : State)
    : (setSecurityPsks build ssidIndex vconf changed pushOk sendSync s).security
        = if changed.wpaPsks ∧ 1 ≤ vconf.wpaPsks.length then
            { s.security with key := strscpy build.keySize (firstPsk vconf) }
          else
            s.security := by
  have hpassword := setPassword_security build ssidIndex vconf pushOk s
  unfold setSecurityPsks
  split
  . split
    . next t hpass =>
      rw [hpass] at hpassword
      rw [(setSecurityExit_frame ..).1, hpassword]
    . next t hpass =>
      rw [hpass] at hpassword
      rw [(setSecurityExit_frame ..).1, hpassword]
  . rw [(setSecurityExit_frame ..).1]

/-- What `set_security` makes of the settings of a VAP, also of a password that it does not get through. -/
def Security.edited (build : Build) (vconf : SecurityConf) (changed : SecurityFlags) (security : Security)
    : Security :=
  if TurnsOff vconf changed then
    { security with mode := .none }
  else
    let security :=
      if changed.decodes then
        { security with
          mode := (securityKeyMgmtOvsdbToHal vconf).getD security.mode
          mfp := mfpOf vconf.pmf
        }
      else
        security
    if changed.wpaPsks ∧ 1 ≤ vconf.wpaPsks.length then
      { security with key := strscpy build.keySize (firstPsk vconf) }
    else
      security

theorem setSecurity_security (build : Build) (ssidIndex : Int) (vconf : SecurityConf)
    (changed : SecurityFlags) (pushOk : Bool) (s : State)
    : (setSecurity build ssidIndex vconf changed pushOk s).security
        = s.security.edited build vconf changed := by
  have ⟨mode, hmode⟩ := securityKeyMgmtOvsdbToHal_isSome vconf
  unfold setSecurity Security.edited
  by_cases hoff : TurnsOff vconf changed
  . rw [if_pos (show changed.wpa = true ∧ vconf.wpa = 0 from hoff), if_pos hoff,
      (setSecurityExit_frame ..).1]
  . rw [if_neg (show ¬(changed.wpa = true ∧ vconf.wpa = 0) from hoff), if_neg hoff, hmode]
    split
    . exact setSecurityPsks_security ..
    . exact setSecurityPsks_security ..

theorem Security.edited_kept (build : Build) (vconf : SecurityConf) {changed : SecurityFlags}
    (security : Security) (hnone : ¬GovernsSecurity changed)
    : security.edited build vconf changed = security := by
  unfold GovernsSecurity at hnone
  simp only [not_or, Bool.not_eq_true] at hnone
  rcases hnone with ⟨hwpa, hdecodes, hpsks⟩
  have hoff : ¬TurnsOff vconf changed := by
    intro ⟨hon, _⟩
    rw [hwpa] at hon
    contradiction
  unfold Security.edited
  rw [if_neg hoff]
  simp [hdecodes, hpsks]

theorem creations_eq_nil_iff (calls : List SetterCall)
    : creations calls = [] ↔ ∀ key, ¬HandedKey calls key := by
  unfold creations HandedKey
  rw [List.filterMap_eq_nil_iff]
  constructor
  . intro hnone key ⟨radioIndex, vap, hmem, _⟩
    have := hnone _ hmem
    contradiction
  . intro hquiet call hmem
    cases call with
    | createVap radioIndex vap =>
      exact absurd ⟨radioIndex, vap, hmem, rfl⟩ (hquiet vap.vapInfo.bssInfo.security.key)
    | _ => rfl

section

variable {η : Type}

structure Edited (vapInfo : VapInfo) (calls : List SetterCall) (trigger : Prop) (s : Configuring η)
    : Prop where
  vapInfo : s.vapInfo = vapInfo
  calls : ∃ made, s.state.calls = calls ++ made ∧ creations made = []
  trigger : s.triggerReconfigure = true ↔ trigger

variable {vapInfo : VapInfo} {calls : List SetterCall} {trigger : Prop} {s : Configuring η}

theorem Edited.of_iff (hs : Edited vapInfo calls trigger s) {reason : Prop} (hiff : trigger ↔ reason)
    : Edited vapInfo calls reason s :=
  { hs with trigger := hs.trigger.trans hiff }

theorem Edited.quiet (hs : Edited vapInfo calls trigger s) {t : ConfigState η}
    (hquiet : Quiet s.state t)
    : Edited vapInfo calls trigger { s with state := t } := by
  have ⟨made, hmade, hnone⟩ := hs.calls
  have ⟨more, hmore, hnone'⟩ := hquiet.calls
  rw [creations_eq_nil_iff] at hnone
  refine ⟨hs.vapInfo, ⟨made ++ more, ?_, ?_⟩, hs.trigger⟩
  . rw [← List.append_assoc, ← hmade]
    exact hmore
  . rw [creations_eq_nil_iff]
    intro key
    rw [handedKey_append, not_or]
    exact ⟨hnone key, hnone' key⟩

theorem Edited.reconfigure (hs : Edited vapInfo calls trigger s) (new : VapInfo)
    : Edited new calls True { s with vapInfo := new, triggerReconfigure := true } where
  vapInfo := rfl
  calls := hs.calls
  trigger := by simp

theorem Edited.setVapInfo (hs : Edited vapInfo calls trigger s) (changed : Bool)
    (set : VapInfo → VapInfo) {new : VapInfo} (hnew : (if changed then set vapInfo else vapInfo) = new)
    : Edited new calls (trigger ∨ changed = true) (Vif.setVapInfo changed set s) := by
  unfold Vif.setVapInfo
  rw [hs.vapInfo]
  split
  . next hchanged =>
    rw [if_pos hchanged] at hnew
    rw [hnew]
    exact (hs.reconfigure new).of_iff (by simp [hchanged])
  . next hchanged =>
    rw [if_neg hchanged] at hnew
    rw [← hnew]
    exact hs.of_iff (by simp [hchanged])

/-- What `configSecurity` calls `set_security` with. -/
def securityState (s : Configuring η) : State :=
  { security := s.vapInfo.bssInfo.security
    triggerReconfig := s.triggerReconfigure
    cachedKeyIds := s.state.cachedKeyIds
    pushed := []
    synced := []
  }

theorem Edited.configSecurity (hs : Edited vapInfo calls trigger s) (build : ConfigBuild)
    (env : ConfigEnv η) (ssidIndex : Int) (vconf : VifConf) (changed : VifFlags)
    : Edited
        { vapInfo with
          bssInfo.security :=
            vapInfo.bssInfo.security.edited build.security vconf.toSecurityConf changed.toSecurityFlags
        }
        calls
        (trigger ∨ SetsSecurity build.security env.pushMultiPskKeysOk vconf.toSecurityConf
          changed.toSecurityFlags)
        (Vif.configSecurity build env ssidIndex vconf changed s) := by
  have htrigger := setSecurity_trigger build.security ssidIndex vconf.toSecurityConf
    changed.toSecurityFlags env.pushMultiPskKeysOk (securityState s)
  have ⟨made, hmade, hnone⟩ := hs.calls
  let t := setSecurity build.security ssidIndex vconf.toSecurityConf changed.toSecurityFlags
    env.pushMultiPskKeysOk (securityState s)
  have hsecurity : t.security = s.vapInfo.bssInfo.security.edited build.security vconf.toSecurityConf
      changed.toSecurityFlags := setSecurity_security ..
  refine ⟨?_, ?_, ?_⟩
  . rw [← hs.vapInfo, ← hsecurity]
    rfl
  . refine ⟨made ++ t.pushed.map (fun push => .pushMultiPskKeys push.1 push.2), ?_, ?_⟩
    . rw [← List.append_assoc, ← hmade]
      rfl
    . rw [creations_eq_nil_iff] at hnone ⊢
      intro key
      rw [handedKey_append, not_or]
      exact ⟨hnone key, not_handedKey_map (by simp) _ key⟩
  . exact htrigger.trans (or_congr_left hs.trigger)

theorem Edited.configFlags (hs : Edited vapInfo calls trigger s) (vconf : VifConf)
    (changed : VifFlags)
    : Edited
        { vapInfo with
          bssInfo.isolation :=
            if changed.apBridge then !vconf.apBridge else vapInfo.bssInfo.isolation
          bssInfo.nbrReportActivated :=
            if changed.rrm then vconf.rrm else vapInfo.bssInfo.nbrReportActivated
          bssInfo.bssTransitionActivated :=
            if changed.btm then vconf.btm else vapInfo.bssInfo.bssTransitionActivated
          bssInfo.uapsdEnabled :=
            if changed.uapsdEnable then vconf.uapsdEnable else vapInfo.bssInfo.uapsdEnabled
        }
        calls
        (trigger ∨ changed.apBridge = true ∨ changed.rrm = true ∨ changed.btm = true
          ∨ changed.uapsdEnable = true)
        (Vif.configFlags vconf changed s) := by
  have hbridge := hs.setVapInfo changed.apBridge
    (fun vapInfo => { vapInfo with bssInfo.isolation := !vconf.apBridge }) rfl
  have hrrm := hbridge.setVapInfo changed.rrm
    (fun vapInfo => { vapInfo with bssInfo.nbrReportActivated := vconf.rrm }) rfl
  have hbtm := hrrm.setVapInfo changed.btm
    (fun vapInfo => { vapInfo with bssInfo.bssTransitionActivated := vconf.btm }) rfl
  refine Edited.of_iff (hbtm.setVapInfo changed.uapsdEnable
    (fun vapInfo => { vapInfo with bssInfo.uapsdEnabled := vconf.uapsdEnable }) ?_) ?_
  . cases changed.apBridge <;> cases changed.rrm <;> cases changed.btm
      <;> cases changed.uapsdEnable <;> rfl
  . simp only [or_assoc]

theorem Edited.configSsidBroadcast (hs : Edited vapInfo calls trigger s) (build : ConfigBuild)
    (env : ConfigEnv η) (ssidIndex : Int) (vconf : VifConf) (changed : VifFlags)
    {t : Configuring η} (ht : Vif.configSsidBroadcast build env ssidIndex vconf changed s = some t)
    : ∃ showSsid,
        (if changed.ssidBroadcast then (showSsid, vconf.ssidBroadcast) ∈ mapEnableDisable
          else showSsid = vapInfo.bssInfo.showSsid)
          ∧ Edited { vapInfo with bssInfo.showSsid := showSsid } calls
              (trigger ∨ changed.ssidBroadcast = true) t := by
  unfold Vif.configSsidBroadcast at ht
  split at ht
  . next hchanged =>
    split at ht
    . contradiction
    . next citem hitem =>
      have hmem := List.mem_of_find?_eq_some hitem
      have hname := List.find?_some hitem
      rw [decide_eq_true_eq] at hname
      have hshow := hs.setVapInfo true
        (fun vapInfo => { vapInfo with bssInfo.showSsid := citem.1 }) rfl
      refine ⟨citem.1, ?_, ?_⟩
      . rw [if_pos hchanged, ← hname]
        exact hmem
      . rw [hchanged]
        split at ht
        . rw [Option.some.injEq] at ht
          rw [← ht]
          exact hshow
        . rw [Option.some.injEq] at ht
          rw [← ht]
          exact hshow.quiet (quiet_send _ env.syncSsidBroadcastOk [.ssidAdvertise ssidIndex citem.1])
  . next hchanged =>
    rw [Option.some.injEq] at ht
    refine ⟨vapInfo.bssInfo.showSsid, ?_, ?_⟩
    . rw [if_neg hchanged]
    . rw [← ht]
      exact hs.of_iff (by simp [hchanged])

theorem Edited.sendIf (hs : Edited vapInfo calls trigger s) (sends : Prop) [Decidable sends] (ok : Bool)
    (msgs : List SyncMsg)
    : Edited vapInfo calls trigger
        (if sends then { s with state := s.state.send ok msgs } else s) := by
  split
  . exact hs.quiet (quiet_send s.state ok msgs)
  . exact hs

theorem Edited.configSsid (hs : Edited vapInfo calls trigger s) (build : ConfigBuild)
    (env : ConfigEnv η) (ssidIndex : Int) (vconf : VifConf) (changed : VifFlags)
    : Edited
        { vapInfo with
          bssInfo.ssid :=
            if changed.ssid then strscpy build.ssidSize vconf.ssid else vapInfo.bssInfo.ssid
        }
        calls (trigger ∨ changed.ssid = true)
        (Vif.configSsid build env ssidIndex vconf changed s) := by
  unfold Vif.configSsid
  apply Edited.sendIf
  apply hs.setVapInfo
  cases changed.ssid <;> rfl

theorem Edited.configBridge (hs : Edited vapInfo calls trigger s) (build : ConfigBuild)
    (vconf : VifConf) (changed : VifFlags)
    : Edited
        { vapInfo with
          bridgeName :=
            if changed.bridge then strscpy build.bridgeNameSize vconf.bridge else vapInfo.bridgeName
        }
        calls (trigger ∨ changed.bridge = true) (Vif.configBridge build vconf changed s) := by
  unfold Vif.configBridge
  apply hs.setVapInfo
  cases changed.bridge <;> rfl

theorem Edited.applyMacList (hs : Edited vapInfo calls trigger s)
    {setMacList : ConfigState η → ConfigState η} (hquiet : ∀ t, Quiet t (setMacList t))
    (changed : AclFlags)
    : Edited vapInfo calls trigger (aclApply.applyMacList setMacList changed s) := by
  unfold aclApply.applyMacList
  split
  . exact hs.quiet (hquiet s.state)
  . exact hs

theorem Edited.aclApply (hs : Edited vapInfo calls trigger s) (build : AclBuild)
    (setMacList : ConfigState η → ConfigState η) (hquiet : ∀ t, Quiet t (setMacList t))
    (vconf : AclConf) (changed : AclFlags)
    : ∃ bssInfo : BssInfo,
        MacFilterSet (SetsMacListType build vapInfo.vapName vconf changed) vconf.macListType
            vapInfo.bssInfo bssInfo
          ∧ Edited
              { vapInfo with
                bssInfo.macFilterEnable := bssInfo.macFilterEnable
                bssInfo.macFilterMode := bssInfo.macFilterMode
              }
              calls (trigger ∨ SetsMacListType build vapInfo.vapName vconf changed)
              (Vif.aclApply build setMacList vconf changed s) := by
  unfold Vif.aclApply SetsMacListType
  rw [← mapAclModes_find_iff, hs.vapInfo]
  split
  . next hhome =>
    refine ⟨vapInfo.bssInfo, ⟨?_, ?_, ?_⟩, hs.of_iff ?_⟩
    all_goals grind
  . next hhome =>
    split
    . next htype =>
      split
      . next hnone =>
        refine ⟨{ vapInfo.bssInfo with macFilterEnable := false }, ⟨?_, ?_, ?_⟩,
          ((hs.reconfigure _).applyMacList hquiet changed).of_iff ?_⟩
        all_goals grind
      . next hsome =>
        split
        . next hfind =>
          refine ⟨vapInfo.bssInfo, ⟨?_, ?_, ?_⟩, hs.of_iff ?_⟩
          all_goals simp [hfind, hsome]
        . next citem hfind =>
          have hmem := List.mem_of_find?_eq_some hfind
          have hname := List.find?_some hfind
          rw [decide_eq_true_eq] at hname
          refine ⟨{ vapInfo.bssInfo with macFilterEnable := true, macFilterMode := citem.1 },
            ⟨?_, ?_, ?_⟩, ((hs.reconfigure _).applyMacList hquiet changed).of_iff ?_⟩
          all_goals grind
    . next htype =>
      refine ⟨vapInfo.bssInfo, ⟨?_, ?_, ?_⟩, (hs.applyMacList hquiet changed).of_iff ?_⟩
      all_goals grind

theorem Edited.configMcast2ucast (hs : Edited vapInfo calls trigger s) (env : ConfigEnv η)
    (vconf : VifConf) (changed : VifFlags)
    : ∃ mcast2ucast,
        (SetsMcast2ucast env vapInfo.radioIndex vconf changed → mcast2ucast = vconf.mcast2ucast)
          ∧ (¬SetsMcast2ucast env vapInfo.radioIndex vconf changed →
              mcast2ucast = vapInfo.bssInfo.mcast2ucast)
          ∧ Edited { vapInfo with bssInfo.mcast2ucast := mcast2ucast } calls
              (trigger ∨ SetsMcast2ucast env vapInfo.radioIndex vconf changed)
              (Vif.configMcast2ucast env vconf changed s) := by
  unfold Vif.configMcast2ucast SetsMcast2ucast
  rw [hs.vapInfo]
  split
  . next hchanged =>
    split
    . next hnone =>
      refine ⟨vapInfo.bssInfo.mcast2ucast, ?_, fun _ => rfl, hs.of_iff ?_⟩
      all_goals simp [hnone]
    . next supported hsome =>
      split
      . next hrefused =>
        refine ⟨vapInfo.bssInfo.mcast2ucast, ?_, fun _ => rfl, hs.of_iff ?_⟩
        all_goals grind
      . next haccepted =>
        have hset := hs.setVapInfo true
          (fun vapInfo => { vapInfo with bssInfo.mcast2ucast := vconf.mcast2ucast }) rfl
        refine ⟨vconf.mcast2ucast, fun _ => rfl, ?_, hset.of_iff ?_⟩
        all_goals grind
  . next hchanged =>
    refine ⟨vapInfo.bssInfo.mcast2ucast, ?_, fun _ => rfl, hs.of_iff ?_⟩
    all_goals simp [hchanged]

theorem Edited.when (hs : Edited vapInfo calls trigger s) (supported : Bool) {t : ConfigState η}
    (hquiet : Quiet s.state t)
    : Edited vapInfo calls trigger (if supported then { s with state := t } else s) := by
  split
  . exact hs.quiet hquiet
  . exact hs

theorem Edited.createVap (hs : Edited vapInfo calls trigger s) (halVap : HalVap)
    : ∃ made,
        (Vif.createVap s.triggerReconfigure { halVap with vapInfo := s.vapInfo } s.state).calls
            = calls ++ made
          ∧ (¬trigger → creations made = [])
          ∧ (trigger → creations made = [(vapInfo.radioIndex, { halVap with vapInfo })]) := by
  have ⟨made, hmade, hnone⟩ := hs.calls
  have htrigger := hs.trigger
  unfold Vif.createVap
  split
  . next hcreates =>
    refine ⟨made ++ [.createVap s.vapInfo.radioIndex { halVap with vapInfo := s.vapInfo }], ?_, ?_, ?_⟩
    . rw [← List.append_assoc, ← hmade]
      rfl
    . intro hkeeps
      exact absurd (htrigger.mp hcreates) hkeeps
    . intro _
      unfold creations at hnone ⊢
      rw [List.filterMap_append, hnone, hs.vapInfo]
      rfl
  . next hkeeps =>
    refine ⟨made, hmade, fun _ => hnone, ?_⟩
    intro hcreates
    exact absurd (htrigger.mpr hcreates) hkeeps

theorem Edited.configRest (hs : Edited vapInfo calls trigger s) (build : ConfigBuild)
    (env : ConfigEnv η) (ssidIndex : Int) (halVap : HalVap) (vconf : VifConf) (changed : VifFlags)
    (radioIfname : CStr)
    : ∃ (bssInfo : BssInfo) (mcast2ucast : Bool) (made : List SetterCall),
        MacFilterSet (SetsMacListType build.acl vapInfo.vapName vconf.toAclConf changed.toAclFlags)
            vconf.macListType vapInfo.bssInfo bssInfo
          ∧ (SetsMcast2ucast env vapInfo.radioIndex vconf changed → mcast2ucast = vconf.mcast2ucast)
          ∧ (¬SetsMcast2ucast env vapInfo.radioIndex vconf changed →
              mcast2ucast = vapInfo.bssInfo.mcast2ucast)
          ∧ (Vif.configRest build env ssidIndex halVap vconf changed radioIfname s).1.calls
              = calls ++ made
          ∧ (let reasons := trigger ∨ changed.ssid = true ∨ changed.bridge = true
                ∨ SetsMacListType build.acl vapInfo.vapName vconf.toAclConf changed.toAclFlags
                ∨ SetsMcast2ucast env vapInfo.radioIndex vconf changed
              let new : VapInfo :=
                { vapInfo with
                  bridgeName :=
                    if changed.bridge then
                      strscpy build.bridgeNameSize vconf.bridge
                    else
                      vapInfo.bridgeName
                  bssInfo.ssid :=
                    if changed.ssid then strscpy build.ssidSize vconf.ssid else vapInfo.bssInfo.ssid
                  bssInfo.macFilterEnable := bssInfo.macFilterEnable
                  bssInfo.macFilterMode := bssInfo.macFilterMode
                  bssInfo.mcast2ucast := mcast2ucast
                }
              (¬reasons → creations made = [])
                ∧ (reasons → creations made = [(vapInfo.radioIndex, { halVap with vapInfo := new })])) := by
  have hbridge := (hs.configSsid build env ssidIndex vconf changed).configBridge build vconf changed
  have ⟨bssInfo, hfilter, hacl⟩ := hbridge.aclApply build.acl
    (setMacList env.acl ssidIndex vconf.toAclConf)
    (quiet_setMacList env.acl ssidIndex vconf.toAclConf) vconf.toAclConf changed.toAclFlags
  have hwps := hacl.when build.wpsSupport
    (quiet_vifConfigSetWps env ssidIndex vconf changed radioIfname _)
  have hmultiAp := hwps.when build.multiApSupport
    (quiet_vifConfigSetMultiAp ssidIndex vconf.multiAp changed _)
  have ⟨mcast2ucast, hsets, hkeeps, hmcast⟩ := hmultiAp.configMcast2ucast env vconf changed
  have ⟨made, hmade, hnone, hcreated⟩ := hmcast.createVap halVap
  simp only [or_assoc] at hnone hcreated
  refine ⟨bssInfo, mcast2ucast, made, ⟨hfilter.kept, hfilter.disabled, hfilter.enabled⟩, hsets, hkeeps,
    ?_, hnone, hcreated⟩
  unfold Vif.configRest
  dsimp only
  rw [(updateVifState_frame ..).2]
  exact hmade

end

section

variable {η : Type}

/-- The VAP that a configuration for an AP makes of the one in the HAL, and when it is handed over. -/
theorem targetVifConfigSet2_made (build : ConfigBuild) (env : ConfigEnv η) (vconf : VifConf)
    (radioIfname : CStr) (cconf : CredentialConf) (changed : VifFlags) (s : ConfigState η)
    (ssidIndex : Int) (vap : HalVap) (hfind : findVap env.lookup vconf = some (ssidIndex, vap))
    (hap : vap.vapMode ≠ .sta)
    : ∃ made new,
        (targetVifConfigSet2 build env vconf radioIfname cconf changed s).1.calls = s.calls ++ made
          ∧ (RejectsSsidBroadcast vconf changed → creations made = [])
          ∧ (¬RejectsSsidBroadcast vconf changed →
              (¬Triggers build env vap.vapInfo vconf changed → creations made = [])
                ∧ (Triggers build env vap.vapInfo vconf changed →
                  creations made = [(vap.vapInfo.radioIndex, { vap with vapInfo := new })])
                ∧ Reconfigured build env vconf changed vap.vapInfo new
                ∧ new.bssInfo.security
                  = vap.vapInfo.bssInfo.security.edited build.security vconf.toSecurityConf
                    changed.toSecurityFlags) := by
  unfold targetVifConfigSet2
  rw [hfind]
  dsimp only
  rw [if_neg hap]
  have hinit : Edited vap.vapInfo s.calls False
      { vapInfo := vap.vapInfo, triggerReconfigure := false, state := s } := by
    refine ⟨rfl, ⟨[], (List.append_nil _).symm, rfl⟩, ?_⟩
    simp
  have hnew
      : (if changed.enabled then { vap.vapInfo with bssInfo.enabled := vconf.enabled } else vap.vapInfo)
        =
      { vap.vapInfo with
        bssInfo.enabled := if changed.enabled then vconf.enabled else vap.vapInfo.bssInfo.enabled
      } := by
    cases changed.enabled <;> rfl
  have henabled := hinit.setVapInfo changed.enabled
    (fun vapInfo => { vapInfo with bssInfo.enabled := vconf.enabled }) hnew
  have hsecured := henabled.configSecurity build env ssidIndex vconf changed
  have hflags := hsecured.configFlags vconf changed
  split
  . next hnone =>
    rw [configSsidBroadcast_none_iff] at hnone
    have ⟨made, hmade, hcreated⟩ := hflags.calls
    exact ⟨made, vap.vapInfo, hmade, fun _ => hcreated, fun haccepts => absurd hnone haccepts⟩
  . next t hsome =>
    have haccepts := not_rejectsSsidBroadcast hsome
    have ⟨showSsid, hshow, hbroadcast⟩ := hflags.configSsidBroadcast build env ssidIndex vconf changed
      hsome
    rcases hbroadcast.configRest build env ssidIndex vap vconf changed radioIfname with
      ⟨bssInfo, mcast2ucast, made, hfilter, hsets, hkeeps, hmade, hnone, hcreated⟩
    simp only [false_or, or_assoc] at hnone hcreated
    refine ⟨made, _, hmade, fun hrejects => absurd hrejects haccepts,
      fun _ => ⟨hnone, hcreated, ?_, rfl⟩⟩
    constructor
    case security => exact Security.edited_kept build.security vconf.toSecurityConf _
    case showSsid => exact hshow
    case macFilter => exact ⟨hfilter.kept, hfilter.disabled, hfilter.enabled⟩
    case mcast2ucast => exact ⟨hsets, hkeeps⟩
    all_goals rfl

theorem target_vif_config_set2_reconfigures (build : ConfigBuild) (env : ConfigEnv η)
    (vconf : VifConf) (radioIfname : CStr) (cconf : CredentialConf) (changed : VifFlags)
    (s : ConfigState η) (ssidIndex : Int) (vap : HalVap)
    (hfind : findVap env.lookup vconf = some (ssidIndex, vap)) (hap : vap.vapMode ≠ .sta)
    : ∃ made,
        (targetVifConfigSet2 build env vconf radioIfname cconf changed s).1.calls = s.calls ++ made
          ∧ (creations made).length ≤ 1
          ∧ (creations made ≠ []
              ↔ ¬RejectsSsidBroadcast vconf changed ∧ Triggers build env vap.vapInfo vconf changed)
          ∧ (¬GovernsVap changed → creations made = [])
          ∧ (∀ radioIndex new, (radioIndex, new) ∈ creations made →
              radioIndex = vap.vapInfo.radioIndex
                ∧ new.vapMode = vap.vapMode
                ∧ new.staInfo = vap.staInfo
                ∧ Reconfigured build env vconf changed vap.vapInfo new.vapInfo) := by
  have ⟨made, new, hmade, hrejected, haccepted⟩ := targetVifConfigSet2_made build env vconf radioIfname cconf
    changed s ssidIndex vap hfind hap
  refine ⟨made, hmade, ?_⟩
  by_cases hrejects : RejectsSsidBroadcast vconf changed
  . simp [hrejected hrejects, hrejects]
  . have ⟨hnone, hcreated, hreconfigured, _⟩ := haccepted hrejects
    by_cases htriggers : Triggers build env vap.vapInfo vconf changed
    . have hone := hcreated htriggers
      refine ⟨?_, ?_, ?_, ?_⟩
      . rw [hone]
        exact Nat.le_refl 1
      . simp [hone, hrejects, htriggers]
      . intro hgoverns
        exact absurd htriggers.governsVap hgoverns
      . intro radioIndex made hmem
        rw [hone, List.mem_singleton] at hmem
        injection hmem with hradio hnew
        rw [hradio, hnew]
        exact ⟨rfl, rfl, rfl, hreconfigured⟩
    . simp [hnone htriggers, htriggers]

end

theorem target_vif_config_set2_reconfigures_ssid
    : ∃ made,
        (targetVifConfigSet2 rdkBuild homeEnv (homeConf []) (cstr "wifi0") ⟨[], []⟩
              { VifFlags.unset with ssid := true, apBridge := true } homeState).1.calls
            = homeState.calls ++ made
          ∧ (creations made).length = 1 := by
  have ⟨made, hcalls, hone, hcreates, _⟩ :=
    target_vif_config_set2_reconfigures rdkBuild homeEnv (homeConf []) (cstr "wifi0") ⟨[], []⟩
      { VifFlags.unset with ssid := true, apBridge := true } homeState 0 homeHalVap
      (by decide +kernel) (by decide)
  have hsome : creations made ≠ [] := by
    rw [hcreates]
    exact ⟨by simp [RejectsSsidBroadcast, VifFlags.unset], by simp [Triggers]⟩
  have hpos := List.length_pos_iff.mpr hsome
  exact ⟨made, hcalls, by omega⟩

end Vif
end OpenSyncRdk
