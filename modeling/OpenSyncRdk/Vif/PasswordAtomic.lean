import OpenSyncRdk.Vif.ConfigAtomic

/-!
What is left of a password that the HAL has refused: `set_password` writes the first key and its id before
it pushes the others, and the VAP may be created for another field that has changed.
-/

namespace OpenSyncRdk
namespace Vif

/-- `get_psks`, with what `wifi_getMultiPskKeys` reports. -/
def getPsks (build : Build) (cachedKeyIds : Int → CStr) (ssidIndex : Int) (key : CStr)
    (multiPskKeys : Option (List (CStr × CStr))) (wpaPsks : List (CStr × CStr))
    : List (CStr × CStr) × Bool :=
  let wpaPsks := wpaPsks ++ [(cachedKeyIds ssidIndex, key)]
  if build.multiPsk then
    match multiPskKeys with
    | none => (wpaPsks, false)
    | some keys =>
      (wpaPsks ++ keys.filter (fun entry => entry.1.length ≠ 0 ∧ entry.2.length ≠ 0), true)
  else
    (wpaPsks, true)

def HandedKey (calls : List SetterCall) (key : CStr) : Prop :=
  ∃ radioIndex vap, .createVap radioIndex vap ∈ calls ∧ vap.vapInfo.bssInfo.security.key = key

theorem not_handedKey_nil (key : CStr) : ¬HandedKey [] key := by
  simp [HandedKey]

theorem handedKey_append (lhs rhs : List SetterCall) (key : CStr)
    : HandedKey (lhs ++ rhs) key ↔ HandedKey lhs key ∨ HandedKey rhs key := by
  unfold HandedKey
  simp only [List.mem_append, or_and_right, exists_or]

theorem handedKey_createVap (radioIndex : Int) (vap : HalVap) (key : CStr)
    : HandedKey [.createVap radioIndex vap] key ↔ vap.vapInfo.bssInfo.security.key = key := by
  simp [HandedKey]

theorem not_handedKey_map {α : Type} {f : α → SetterCall}
    (hf : ∀ x radioIndex vap, f x ≠ .createVap radioIndex vap) (xs : List α) (key : CStr)
    : ¬HandedKey (xs.map f) key := by
  intro ⟨radioIndex, vap, hmem, _⟩
  rw [List.mem_map] at hmem
  have ⟨x, _, hx⟩ := hmem
  exact hf x radioIndex vap hx

theorem setPassword_refused_iff (build : Build) (ssidIndex : Int) (vconf : SecurityConf)
    (pushOk : Bool) (s : State)
    : (setPassword build ssidIndex vconf pushOk s).2 = false
        ↔
      build.multiPsk = true ∧ pushOk = false := by
  unfold setPassword
  dsimp only
  split
  . next hpsk => simp [hpsk]
  . next hpsk => simp [hpsk]

theorem setSecurityPsks_refused {build : Build} (hmulti : build.multiPsk = true) (ssidIndex : Int)
    {vconf : SecurityConf} {changed : SecurityFlags} (hpsks : changed.wpaPsks = true)
    (hlen : 1 ≤ vconf.wpaPsks.length) (sendSync : Bool) (s : State)
    : let t := setSecurityPsks build ssidIndex vconf changed false sendSync s
      t.security.key = strscpy build.keySize (firstPsk vconf)
        ∧ t.cachedKeyIds ssidIndex = firstKeyId vconf
        ∧ t.triggerReconfig = s.triggerReconfig := by
  simp [setSecurityPsks, setPassword, setSecurityExit, hmulti, hpsks, hlen, firstKeyId]

theorem setSecurity_refused {build : Build} (hmulti : build.multiPsk = true) (ssidIndex : Int)
    {vconf : SecurityConf} {changed : SecurityFlags} (hsets : SetsPassword vconf changed) (s : State)
    : let t := setSecurity build ssidIndex vconf changed false s
      t.security.key = strscpy build.keySize (firstPsk vconf)
        ∧ t.cachedKeyIds ssidIndex = firstKeyId vconf
        ∧ (t.triggerReconfig = true ↔ s.triggerReconfig = true ∨ changed.decodes = true) := by
  have ⟨hon, hpsks, hlen⟩ := hsets
  have ⟨mode, hmode⟩ := securityKeyMgmtOvsdbToHal_isSome vconf
  unfold setSecurity
  dsimp only
  rw [if_neg (show ¬(changed.wpa = true ∧ vconf.wpa = 0) from hon)]
  cases hdecodes : changed.decodes with
  | true =>
    rw [hmode]
    have ⟨hkey, hkeyId, htrigger⟩ := setSecurityPsks_refused hmulti ssidIndex hpsks hlen true
      { s with
        security := { s.security with mode := mode, mfp := mfpOf vconf.pmf }
        triggerReconfig := true
      }
    exact ⟨hkey, hkeyId, fun _ => .inr rfl, fun _ => htrigger⟩
  | false =>
    have ⟨hkey, hkeyId, htrigger⟩ := setSecurityPsks_refused hmulti ssidIndex hpsks hlen false s
    refine ⟨hkey, hkeyId, ?_⟩
    simp [htrigger]

def SetsMacListType (build : AclBuild) (vapName : CStr) (vconf : AclConf) (changed : AclFlags)
    : Prop :=
  (build.syncExtHomeAcls = true ∨ isHomeAp build.radio vapName = false)
    ∧ changed.macListType = true
    ∧ vconf.macListTypeExists = true
    ∧ (vconf.macListType = noneMacListType ∨ ∃ mode, (mode, vconf.macListType) ∈ mapAclModes)

section

variable {η : Type}

def SetsMcast2ucast (env : ConfigEnv η) (radioIndex : Int) (vconf : VifConf) (changed : VifFlags)
    : Prop :=
  changed.mcast2ucast = true
    ∧ ∃ supported,
        env.mcast2ucastSupported radioIndex = some supported
          ∧ (supported = true ∨ vconf.mcast2ucast = false)

def ReconfiguresAnyway (build : ConfigBuild) (env : ConfigEnv η) (vap : VapInfo) (vconf : VifConf)
    (changed : VifFlags) : Prop :=
  ¬RejectsSsidBroadcast vconf changed
    ∧ (changed.enabled = true
      ∨ changed.decodes = true
      ∨ changed.apBridge = true
      ∨ changed.rrm = true
      ∨ changed.btm = true
      ∨ changed.uapsdEnable = true
      ∨ changed.ssidBroadcast = true
      ∨ changed.ssid = true
      ∨ changed.bridge = true
      ∨ SetsMacListType build.acl vap.vapName vconf.toAclConf changed.toAclFlags
      ∨ SetsMcast2ucast env vap.radioIndex vconf changed)

structure Quiet (s t : ConfigState η) : Prop where
  cachedKeyIds : t.cachedKeyIds = s.cachedKeyIds
  calls : ∃ made, t.calls = s.calls ++ made ∧ ∀ key, ¬HandedKey made key

theorem Quiet.refl (s : ConfigState η) : Quiet s s :=
  ⟨rfl, [], (List.append_nil _).symm, not_handedKey_nil⟩

theorem Quiet.trans {s t u : ConfigState η} (hst : Quiet s t) (htu : Quiet t u) : Quiet s u := by
  have ⟨made, hmade, hquiet⟩ := hst.calls
  have ⟨more, hmore, hquiet'⟩ := htu.calls
  refine ⟨htu.cachedKeyIds.trans hst.cachedKeyIds, made ++ more, ?_, ?_⟩
  . rw [hmore, hmade, List.append_assoc]
  . intro key
    rw [handedKey_append, not_or]
    exact ⟨hquiet key, hquiet' key⟩

theorem quiet_call (s : ConfigState η) (calls : List SetterCall)
    (hcalls : ∀ key, ¬HandedKey calls key)
    : Quiet s (s.call calls) :=
  ⟨rfl, calls, rfl, hcalls⟩

theorem quiet_send (s : ConfigState η) (ok : Bool) (msgs : List SyncMsg) : Quiet s (s.send ok msgs) :=
  ⟨rfl, [], (List.append_nil _).symm, not_handedKey_nil⟩

theorem quiet_setMacList (acl : AclBackend η) (ssidIndex : Int) (vconf : AclConf) (s : ConfigState η)
    : Quiet s (setMacList acl ssidIndex vconf s) := by
  unfold setMacList
  cases acl with
  | strings hal => exact ⟨rfl, _, rfl, not_handedKey_map (by simp) _⟩
  | macs hal => exact ⟨rfl, _, rfl, not_handedKey_map (by simp) _⟩

theorem quiet_enableWps (env : ConfigEnv η) (ssidIndex : Int) (vconf : VifConf) (s : ConfigState η)
    : Quiet s (vifConfigSetWps.enableWps env ssidIndex vconf s) := by
  unfold vifConfigSetWps.enableWps
  dsimp only
  have hcancel := quiet_call s [.cancelApWps ssidIndex, .setApWpsEnable ssidIndex vconf.wps]
    (by simp [HandedKey])
  split
  . have hmethods := hcancel.trans (quiet_call _
      [.setApWpsConfigMethodsEnabled ssidIndex (cstr "PushButton")] (by simp [HandedKey]))
    split
    . apply hmethods.trans
      apply quiet_call
      simp [HandedKey]
    . exact hmethods
  . exact hcancel

theorem quiet_vifConfigSetWps (env : ConfigEnv η) (ssidIndex : Int) (vconf : VifConf)
    (changed : VifFlags) (radioIfname : CStr) (s : ConfigState η)
    : Quiet s (vifConfigSetWps env ssidIndex vconf changed radioIfname s) := by
  have henable := quiet_enableWps env ssidIndex vconf s
  unfold vifConfigSetWps
  split
  . dsimp only
    split
    . exact ⟨henable.cachedKeyIds, henable.calls⟩
    . exact ⟨rfl, (Quiet.refl s).calls⟩
  . exact .refl s

theorem quiet_vifConfigSetMultiAp (ssidIndex : Int) (multiAp : CStr) (changed : VifFlags)
    (s : ConfigState η)
    : Quiet s (vifConfigSetMultiAp ssidIndex multiAp changed s) := by
  unfold vifConfigSetMultiAp
  split
  . apply quiet_call
    simp [HandedKey]
  . exact .refl s

theorem updateVifState_frame (build : ConfigBuild) (env : ConfigEnv η) (ssidIndex : Int)
    (s : ConfigState η)
    : (updateVifState build env ssidIndex s).1.cachedKeyIds = s.cachedKeyIds
        ∧ (updateVifState build env ssidIndex s).1.calls = s.calls := by
  unfold updateVifState
  split
  . exact ⟨rfl, rfl⟩
  . exact ⟨rfl, rfl⟩

structure Prepared (ssidIndex : Int) (vap : VapInfo) (keyId key : CStr) (calls : List SetterCall)
    (trigger : Prop) (s : Configuring η) : Prop where
  vapName : s.vapInfo.vapName = vap.vapName
  radioIndex : s.vapInfo.radioIndex = vap.radioIndex
  key : s.vapInfo.bssInfo.security.key = key
  keyId : s.state.cachedKeyIds ssidIndex = keyId
  calls : ∃ made, s.state.calls = calls ++ made ∧ ∀ key, ¬HandedKey made key
  trigger : s.triggerReconfigure = true ↔ trigger

variable {ssidIndex : Int} {vap : VapInfo} {keyId key : CStr} {calls : List SetterCall}
  {trigger : Prop} {s : Configuring η}

theorem Prepared.quiet (hs : Prepared ssidIndex vap keyId key calls trigger s) {t : ConfigState η}
    (hquiet : Quiet s.state t)
    : Prepared ssidIndex vap keyId key calls trigger { s with state := t } := by
  have ⟨made, hmade, hnone⟩ := hs.calls
  have ⟨more, hmore, hnone'⟩ := hquiet.calls
  constructor
  case keyId =>
    rw [← hs.keyId]
    exact congrFun hquiet.cachedKeyIds ssidIndex
  case calls =>
    refine ⟨made ++ more, ?_, ?_⟩
    . rw [← List.append_assoc, ← hmade]
      exact hmore
    . intro key
      rw [handedKey_append, not_or]
      exact ⟨hnone key, hnone' key⟩
  case vapName => exact hs.vapName
  case radioIndex => exact hs.radioIndex
  case key => exact hs.key
  case trigger => exact hs.trigger

theorem Prepared.reconfigure (hs : Prepared ssidIndex vap keyId key calls trigger s)
    (vapInfo : VapInfo) (hname : vapInfo.vapName = s.vapInfo.vapName)
    (hradio : vapInfo.radioIndex = s.vapInfo.radioIndex)
    (hkey : vapInfo.bssInfo.security.key = s.vapInfo.bssInfo.security.key)
    : Prepared ssidIndex vap keyId key calls True
        { s with vapInfo := vapInfo, triggerReconfigure := true } where
  vapName := hname.trans hs.vapName
  radioIndex := hradio.trans hs.radioIndex
  key := hkey.trans hs.key
  keyId := hs.keyId
  calls := hs.calls
  trigger := by simp

theorem Prepared.of_iff (hs : Prepared ssidIndex vap keyId key calls trigger s) {reason : Prop}
    (hiff : trigger ↔ reason)
    : Prepared ssidIndex vap keyId key calls reason s :=
  { hs with trigger := hs.trigger.trans hiff }

theorem Prepared.setVapInfo (hs : Prepared ssidIndex vap keyId key calls trigger s) (changed : Bool)
    (set : VapInfo → VapInfo) (hname : (set s.vapInfo).vapName = s.vapInfo.vapName)
    (hradio : (set s.vapInfo).radioIndex = s.vapInfo.radioIndex)
    (hkey : (set s.vapInfo).bssInfo.security.key = s.vapInfo.bssInfo.security.key)
    : Prepared ssidIndex vap keyId key calls (trigger ∨ changed = true)
        (Vif.setVapInfo changed set s) := by
  unfold Vif.setVapInfo
  split
  . next hchanged => exact (hs.reconfigure (set s.vapInfo) hname hradio hkey).of_iff (by simp [hchanged])
  . next hchanged => exact hs.of_iff (by simp [hchanged])

theorem Prepared.configFlags (hs : Prepared ssidIndex vap keyId key calls trigger s) (vconf : VifConf)
    (changed : VifFlags)
    : Prepared ssidIndex vap keyId key calls
        (trigger ∨ changed.apBridge = true ∨ changed.rrm = true ∨ changed.btm = true
          ∨ changed.uapsdEnable = true)
        (Vif.configFlags vconf changed s) := by
  have hbridge := hs.setVapInfo changed.apBridge
    (fun vapInfo => { vapInfo with bssInfo.isolation := !vconf.apBridge }) rfl rfl rfl
  have hrrm := hbridge.setVapInfo changed.rrm
    (fun vapInfo => { vapInfo with bssInfo.nbrReportActivated := vconf.rrm }) rfl rfl rfl
  have hbtm := hrrm.setVapInfo changed.btm
    (fun vapInfo => { vapInfo with bssInfo.bssTransitionActivated := vconf.btm }) rfl rfl rfl
  have huapsd := hbtm.setVapInfo changed.uapsdEnable
    (fun vapInfo => { vapInfo with bssInfo.uapsdEnabled := vconf.uapsdEnable }) rfl rfl rfl
  exact huapsd.of_iff (by simp only [or_assoc])

theorem Prepared.configSsidBroadcast (hs : Prepared ssidIndex vap keyId key calls trigger s)
    (build : ConfigBuild) (env : ConfigEnv η) (vconf : VifConf) (changed : VifFlags)
    {t : Configuring η} (ht : Vif.configSsidBroadcast build env ssidIndex vconf changed s = some t)
    : Prepared ssidIndex vap keyId key calls (trigger ∨ changed.ssidBroadcast = true) t := by
  unfold Vif.configSsidBroadcast at ht
  split at ht
  . next hchanged =>
    split at ht
    . contradiction
    . next citem hitem =>
      have hshow := hs.setVapInfo true
        (fun vapInfo => { vapInfo with bssInfo.showSsid := citem.1 }) rfl rfl rfl
      rw [hchanged]
      split at ht
      . rw [Option.some.injEq] at ht
        rw [← ht]
        exact hshow
      . rw [Option.some.injEq] at ht
        rw [← ht]
        exact hshow.quiet (quiet_send _ env.syncSsidBroadcastOk [.ssidAdvertise ssidIndex citem.1])
  . next hchanged =>
    rw [Option.some.injEq] at ht
    rw [← ht]
    exact hs.of_iff (by simp [hchanged])

theorem Prepared.configSsid (hs : Prepared ssidIndex vap keyId key calls trigger s)
    (build : ConfigBuild) (env : ConfigEnv η) (vconf : VifConf) (changed : VifFlags)
    : Prepared ssidIndex vap keyId key calls (trigger ∨ changed.ssid = true)
        (Vif.configSsid build env ssidIndex vconf changed s) := by
  have hssid := hs.setVapInfo changed.ssid
    (fun vapInfo => { vapInfo with bssInfo.ssid := strscpy build.ssidSize vconf.ssid })
    rfl rfl rfl
  unfold Vif.configSsid
  dsimp only
  split
  . exact hssid.quiet (quiet_send ..)
  . exact hssid

theorem Prepared.configBridge (hs : Prepared ssidIndex vap keyId key calls trigger s)
    (build : ConfigBuild) (vconf : VifConf) (changed : VifFlags)
    : Prepared ssidIndex vap keyId key calls (trigger ∨ changed.bridge = true)
        (Vif.configBridge build vconf changed s) :=
  hs.setVapInfo changed.bridge
    (fun vapInfo => { vapInfo with bridgeName := strscpy build.bridgeNameSize vconf.bridge })
    rfl rfl rfl

theorem Prepared.applyMacList (hs : Prepared ssidIndex vap keyId key calls trigger s)
    {setMacList : ConfigState η → ConfigState η} (hquiet : ∀ t, Quiet t (setMacList t))
    (changed : AclFlags)
    : Prepared ssidIndex vap keyId key calls trigger
        (aclApply.applyMacList setMacList changed s) := by
  unfold aclApply.applyMacList
  split
  . exact hs.quiet (hquiet s.state)
  . exact hs

theorem mapAclModes_find_iff (macListType : CStr)
    : (mapAclModes.find? (fun citem => citem.2 = macListType)).isSome = true
        ↔
      ∃ mode, (mode, macListType) ∈ mapAclModes := by
  rw [List.find?_isSome]
  constructor
  . intro ⟨citem, hmem, heq⟩
    rw [decide_eq_true_eq] at heq
    exact ⟨citem.1, heq ▸ hmem⟩
  . intro ⟨mode, hmem⟩
    exact ⟨_, hmem, by simp⟩

theorem Prepared.aclApply (hs : Prepared ssidIndex vap keyId key calls trigger s) (build : AclBuild)
    (setMacList : ConfigState η → ConfigState η) (hquiet : ∀ t, Quiet t (setMacList t))
    (vconf : AclConf) (changed : AclFlags)
    : Prepared ssidIndex vap keyId key calls
        (trigger ∨ SetsMacListType build vap.vapName vconf changed)
        (Vif.aclApply build setMacList vconf changed s) := by
  unfold Vif.aclApply SetsMacListType
  rw [← mapAclModes_find_iff]
  split
  . next hhome =>
    rw [hs.vapName] at hhome
    exact hs.of_iff (by grind)
  . next hhome =>
    rw [hs.vapName] at hhome
    split
    . next htype =>
      split
      . next hnone =>
        have hset := hs.reconfigure
          { s.vapInfo with bssInfo := { s.vapInfo.bssInfo with macFilterEnable := false } } rfl rfl rfl
        exact (hset.applyMacList hquiet changed).of_iff (by grind)
      . next hsome =>
        split
        . next hfind => exact hs.of_iff (by simp [hfind, hsome])
        . next citem hfind =>
          have hset := hs.reconfigure
            { s.vapInfo with
              bssInfo := { s.vapInfo.bssInfo with macFilterEnable := true, macFilterMode := citem.1 }
            }
            rfl rfl rfl
          exact (hset.applyMacList hquiet changed).of_iff (by grind)
    . next htype => exact (hs.applyMacList hquiet changed).of_iff (by grind)

theorem Prepared.configMcast2ucast (hs : Prepared ssidIndex vap keyId key calls trigger s)
    (env : ConfigEnv η) (vconf : VifConf) (changed : VifFlags)
    : Prepared ssidIndex vap keyId key calls
        (trigger ∨ SetsMcast2ucast env vap.radioIndex vconf changed)
        (Vif.configMcast2ucast env vconf changed s) := by
  unfold Vif.configMcast2ucast SetsMcast2ucast
  rw [← hs.radioIndex]
  split
  . next hchanged =>
    split
    . next hnone => exact hs.of_iff (by simp [hnone])
    . next supported hsome =>
      split
      . next hrefused => exact hs.of_iff (by grind)
      . next haccepted =>
        have hset := hs.setVapInfo true
          (fun vapInfo => { vapInfo with bssInfo.mcast2ucast := vconf.mcast2ucast }) rfl rfl rfl
        exact hset.of_iff (by grind)
  . next hchanged => exact hs.of_iff (by simp [hchanged])

theorem configSecurity_prepared {build : ConfigBuild} (hmulti : build.security.multiPsk = true)
    {env : ConfigEnv η} (hpush : env.pushMultiPskKeysOk = false) (ssidIndex : Int) {vconf : VifConf}
    {changed : VifFlags} (hsets : SetsPassword vconf.toSecurityConf changed.toSecurityFlags)
    (s : Configuring η)
    : Prepared ssidIndex s.vapInfo (firstKeyId vconf.toSecurityConf)
        (strscpy build.security.keySize (firstPsk vconf.toSecurityConf)) s.state.calls
        (s.triggerReconfigure = true ∨ changed.decodes = true)
        (configSecurity build env ssidIndex vconf changed s) := by
  unfold configSecurity
  rw [hpush]
  have ⟨hkey, hkeyId, htrigger⟩ := setSecurity_refused hmulti ssidIndex hsets
    { security := s.vapInfo.bssInfo.security
      triggerReconfig := s.triggerReconfigure
      cachedKeyIds := s.state.cachedKeyIds
      pushed := []
      synced := []
    }
  constructor
  case vapName => rfl
  case radioIndex => rfl
  case key => exact hkey
  case keyId => exact hkeyId
  case calls => exact ⟨_, rfl, not_handedKey_map (by simp) _⟩
  case trigger => exact htrigger

theorem configEnabled_prepared {build : ConfigBuild} (hmulti : build.security.multiPsk = true)
    {env : ConfigEnv η} (hpush : env.pushMultiPskKeysOk = false) (ssidIndex : Int) {vconf : VifConf}
    {changed : VifFlags} (hsets : SetsPassword vconf.toSecurityConf changed.toSecurityFlags)
    (vapInfo : VapInfo) (s : ConfigState η)
    : let enabled := setVapInfo changed.enabled
        (fun vapInfo => { vapInfo with bssInfo.enabled := vconf.enabled })
        { vapInfo, triggerReconfigure := false, state := s }
      Prepared ssidIndex vapInfo (firstKeyId vconf.toSecurityConf)
        (strscpy build.security.keySize (firstPsk vconf.toSecurityConf)) s.calls
        (changed.enabled = true ∨ changed.decodes = true)
        (configSecurity build env ssidIndex vconf changed enabled) := by
  unfold setVapInfo
  dsimp only
  split
  . next henabled =>
    have hsecurity := configSecurity_prepared hmulti hpush ssidIndex hsets
      { vapInfo := { vapInfo with bssInfo.enabled := vconf.enabled }
        triggerReconfigure := true
        state := s
      }
    exact { hsecurity with trigger := hsecurity.trigger.trans (by simp [henabled]) }
  . next henabled =>
    have hsecurity := configSecurity_prepared hmulti hpush ssidIndex hsets
      { vapInfo, triggerReconfigure := false, state := s }
    exact hsecurity.of_iff (by simp [henabled])

theorem Prepared.when (hs : Prepared ssidIndex vap keyId key calls trigger s) (supported : Bool)
    {t : ConfigState η} (hquiet : Quiet s.state t)
    : Prepared ssidIndex vap keyId key calls trigger
        (if supported then { s with state := t } else s) := by
  split
  . exact hs.quiet hquiet
  . exact hs

theorem Prepared.createVap (hs : Prepared ssidIndex vap keyId key calls trigger s) (halVap : HalVap)
    : let t := Vif.createVap s.triggerReconfigure { halVap with vapInfo := s.vapInfo } s.state
      t.cachedKeyIds ssidIndex = keyId
        ∧ ∀ handed, HandedKey (t.calls.drop calls.length) handed ↔ key = handed ∧ trigger := by
  have ⟨made, hmade, hnone⟩ := hs.calls
  have htrigger := hs.trigger
  unfold Vif.createVap
  dsimp only
  split
  . next hcreates =>
    refine ⟨hs.keyId, ?_⟩
    intro handed
    unfold ConfigState.call
    rw [hmade, List.append_assoc, List.drop_left, handedKey_append, handedKey_createVap, hs.key]
    simp [hnone handed, htrigger.1 hcreates]
  . next hkeeps =>
    refine ⟨hs.keyId, ?_⟩
    intro handed
    rw [hmade, List.drop_left]
    rw [htrigger] at hkeeps
    simp [hnone handed, hkeeps]

theorem Prepared.configRest (build : ConfigBuild) (env : ConfigEnv η) {halVap : HalVap}
    (hs : Prepared ssidIndex halVap.vapInfo keyId key calls trigger s) (vconf : VifConf)
    (changed : VifFlags) (radioIfname : CStr)
    : let t := (Vif.configRest build env ssidIndex halVap vconf changed radioIfname s).1
      t.cachedKeyIds ssidIndex = keyId
        ∧ ∀ handed, HandedKey (t.calls.drop calls.length) handed
            ↔ key = handed
              ∧ (trigger
                ∨ changed.ssid = true
                ∨ changed.bridge = true
                ∨ SetsMacListType build.acl halVap.vapInfo.vapName vconf.toAclConf
                    changed.toAclFlags
                ∨ SetsMcast2ucast env halVap.vapInfo.radioIndex vconf changed) := by
  have hbridge := (hs.configSsid build env vconf changed).configBridge build vconf changed
  have hacl := hbridge.aclApply build.acl (setMacList env.acl ssidIndex vconf.toAclConf)
    (quiet_setMacList env.acl ssidIndex vconf.toAclConf) vconf.toAclConf changed.toAclFlags
  have hwps := hacl.when build.wpsSupport
    (quiet_vifConfigSetWps env ssidIndex vconf changed radioIfname _)
  have hmultiAp := hwps.when build.multiApSupport
    (quiet_vifConfigSetMultiAp ssidIndex vconf.multiAp changed _)
  have hmcast := hmultiAp.configMcast2ucast env vconf changed
  have ⟨hkeyId, hhanded⟩ := hmcast.createVap halVap
  simp only [or_assoc] at hhanded
  unfold Vif.configRest
  dsimp only
  rw [(updateVifState_frame ..).1, (updateVifState_frame ..).2]
  exact ⟨hkeyId, hhanded⟩

theorem targetVifConfigSet2_refused {build : ConfigBuild} (hmulti : build.security.multiPsk = true)
    {env : ConfigEnv η} (hpush : env.pushMultiPskKeysOk = false) {vconf : VifConf} {vap : HalVap}
    (hfind : findVap env.lookup vconf = some (ssidIndex, vap)) (hap : vap.vapMode ≠ .sta)
    {changed : VifFlags} (hsets : SetsPassword vconf.toSecurityConf changed.toSecurityFlags)
    (radioIfname : CStr) (cconf : CredentialConf) (s : ConfigState η)
    : let t := (targetVifConfigSet2 build env vconf radioIfname cconf changed s).1
      t.cachedKeyIds ssidIndex = firstKeyId vconf.toSecurityConf
        ∧ ∀ handed, HandedKey (t.calls.drop s.calls.length) handed
            ↔ strscpy build.security.keySize (firstPsk vconf.toSecurityConf) = handed
              ∧ ReconfiguresAnyway build env vap.vapInfo vconf changed := by
  unfold targetVifConfigSet2 ReconfiguresAnyway
  rw [hfind]
  dsimp only
  rw [if_neg hap]
  have hflags := (configEnabled_prepared hmulti hpush ssidIndex hsets vap.vapInfo s).configFlags
    vconf changed
  split
  . next hnone =>
    rw [configSsidBroadcast_none_iff] at hnone
    refine ⟨hflags.keyId, ?_⟩
    have ⟨made, hmade, hquiet⟩ := hflags.calls
    intro handed
    rw [hmade, List.drop_left]
    simp [hquiet handed, hnone]
  . next t hsome =>
    have haccepts := not_rejectsSsidBroadcast hsome
    have hbroadcast := hflags.configSsidBroadcast build env vconf changed hsome
    have ⟨hkeyId, hhanded⟩ := hbroadcast.configRest build env vconf changed radioIfname
    refine ⟨hkeyId, ?_⟩
    intro handed
    rw [hhanded handed]
    simp only [haccepts, not_false_eq_true, true_and, or_assoc]

structure PasswordRefused (build : ConfigBuild) (env : ConfigEnv η) (vconf : VifConf)
    (changed : VifFlags) (ssidIndex : Int) (vap : HalVap) : Prop where
  found : findVap env.lookup vconf = some (ssidIndex, vap)
  ap : vap.vapMode ≠ .sta
  sets : SetsPassword vconf.toSecurityConf changed.toSecurityFlags
  refused
    : ∀ s,
        (setPassword build.security ssidIndex vconf.toSecurityConf env.pushMultiPskKeysOk s).2 = false

def HeldKey (vap : HalVap) (calls : List SetterCall) (key : CStr) : Prop :=
  key = vap.vapInfo.bssInfo.security.key ∨ HandedKey calls key

structure PasswordKept (build : ConfigBuild) (ssidIndex : Int) (vap : HalVap) (s t : ConfigState η)
    : Prop where
  keyId : t.cachedKeyIds ssidIndex = s.cachedKeyIds ssidIndex
  key
    : ∀ key, HandedKey (t.calls.drop s.calls.length) key → key = vap.vapInfo.bssInfo.security.key
  psks
    : ∀ key multiPskKeys wpaPsks,
        HeldKey vap (t.calls.drop s.calls.length) key
          → getPsks build.security t.cachedKeyIds ssidIndex key multiPskKeys wpaPsks
              =
            getPsks build.security s.cachedKeyIds ssidIndex vap.vapInfo.bssInfo.security.key
              multiPskKeys wpaPsks

def SamePassword (build : ConfigBuild) (env : ConfigEnv η) (vconf : VifConf) (changed : VifFlags)
    (cachedKeyIds : Int → CStr) (ssidIndex : Int) (vap : HalVap) : Prop :=
  firstKeyId vconf.toSecurityConf = cachedKeyIds ssidIndex
    ∧ (ReconfiguresAnyway build env vap.vapInfo vconf changed
      → strscpy build.security.keySize (firstPsk vconf.toSecurityConf)
          =
        vap.vapInfo.bssInfo.security.key)

theorem passwordKept_of_keys (build : ConfigBuild) {s t : ConfigState η} {vap : HalVap}
    (hkeyId : t.cachedKeyIds ssidIndex = s.cachedKeyIds ssidIndex)
    (hkey : ∀ key, HandedKey (t.calls.drop s.calls.length) key
      → key = vap.vapInfo.bssInfo.security.key)
    : PasswordKept build ssidIndex vap s t where
  keyId := hkeyId
  key := hkey
  psks := by
    intro key multiPskKeys wpaPsks hheld
    have hsame : key = vap.vapInfo.bssInfo.security.key := hheld.elim id (hkey key)
    unfold getPsks
    rw [hsame, hkeyId]

theorem passwordRefused_kept_iff (build : ConfigBuild) (env : ConfigEnv η) (vconf : VifConf)
    (radioIfname : CStr) (cconf : CredentialConf) (changed : VifFlags) (s : ConfigState η)
    : (∀ ssidIndex vap,
          PasswordRefused build env vconf changed ssidIndex vap
            → PasswordKept build ssidIndex vap s
                (targetVifConfigSet2 build env vconf radioIfname cconf changed s).1)
        ↔
      (build.security.multiPsk = true
        → env.pushMultiPskKeysOk = false
        → SetsPassword vconf.toSecurityConf changed.toSecurityFlags
        → ∀ ssidIndex vap,
            findVap env.lookup vconf = some (ssidIndex, vap)
              → vap.vapMode ≠ .sta
              → SamePassword build env vconf changed s.cachedKeyIds ssidIndex vap) := by
  constructor
  . intro hkept hmulti hpush hsets ssidIndex vap hfind hap
    have hrefused : PasswordRefused build env vconf changed ssidIndex vap := by
      refine ⟨hfind, hap, hsets, ?_⟩
      intro s
      rw [setPassword_refused_iff]
      exact ⟨hmulti, hpush⟩
    have ⟨hkeyId, hkey, _⟩ := hkept ssidIndex vap hrefused
    have ⟨hcached, hhanded⟩ := targetVifConfigSet2_refused hmulti hpush hfind hap hsets radioIfname
      cconf s
    refine ⟨hcached.symm.trans hkeyId, ?_⟩
    intro hanyway
    apply hkey
    rw [hhanded]
    exact ⟨rfl, hanyway⟩
  . intro hsame ssidIndex vap hrefused
    have ⟨hfind, hap, hsets, hfalse⟩ := hrefused
    have ⟨hmulti, hpush⟩ := (setPassword_refused_iff ..).1
      (hfalse
        { security := vap.vapInfo.bssInfo.security, triggerReconfig := false
          cachedKeyIds := s.cachedKeyIds, pushed := [], synced := [] })
    have ⟨hkeyId, hkey⟩ := hsame hmulti hpush hsets ssidIndex vap hfind hap
    have ⟨hcached, hhanded⟩ := targetVifConfigSet2_refused hmulti hpush hfind hap hsets radioIfname
      cconf s
    apply passwordKept_of_keys
    . exact hcached.trans hkeyId
    . intro key hhands
      rw [hhanded] at hhands
      rw [← hkey hhands.2]
      exact hhands.1.symm

end

def multiPskBuild : ConfigBuild :=
  { rdkBuild with security := { rdkBuild.security with multiPsk := true } }

def refusingEnv : ConfigEnv (List Clients.MacAddr) :=
  { homeEnv with pushMultiPskKeysOk := false }

def passwordAndSsid : VifFlags :=
  { VifFlags.unset with wpaPsks := true, ssid := true }

theorem not_passwordRefused_kept
    : ¬∀ (build : ConfigBuild) (env : ConfigEnv (List Clients.MacAddr)) (vconf : VifConf)
        (radioIfname : CStr) (cconf : CredentialConf) (changed : VifFlags)
        (s : ConfigState (List Clients.MacAddr)) (ssidIndex : Int) (vap : HalVap),
        build.security.multiPsk = true
          → PasswordRefused build env vconf changed ssidIndex vap
          → PasswordKept build ssidIndex vap s
              (targetVifConfigSet2 build env vconf radioIfname cconf changed s).1 := by
  intro hall
  have hrefused : PasswordRefused multiPskBuild refusingEnv (homeConf []) passwordAndSsid 0
      homeHalVap := by
    refine ⟨by decide +kernel, by decide, by decide, ?_⟩
    intro s
    rw [setPassword_refused_iff]
    exact ⟨rfl, rfl⟩
  have hkept := hall multiPskBuild refusingEnv (homeConf []) (cstr "wifi0") ⟨[], []⟩ passwordAndSsid
    homeState 0 homeHalVap rfl hrefused
  exact absurd hkept.keyId (by decide +kernel)

end Vif
end OpenSyncRdk
