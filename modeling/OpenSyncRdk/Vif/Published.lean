import OpenSyncRdk.Vif.StateUpdates

/-!
The row that is published after a configuration of an AP, from `target_vif_config_set2` over the wifi HAL to
`vif_state_update`, `vif.c`.
-/

namespace OpenSyncRdk
namespace Vif

def heldVap (vap : HalVap) (made : List SetterCall) : HalVap :=
  ((creations made).getLast?.map Prod.snd).getD vap

def RefusesPassword (build : Build) (pushOk : Bool) (vconf : SecurityConf) (changed : SecurityFlags)
    : Prop :=
  SetsPassword vconf changed ∧ build.multiPsk = true ∧ pushOk = false

theorem edited_of_not_setsSecurity {build : Build} {pushOk : Bool} {vconf : SecurityConf}
    {changed : SecurityFlags} (hkeeps : ¬SetsSecurity build pushOk vconf changed) (security : Security)
    : security = { security.edited build vconf changed with key := security.key }
        ∧ (¬RefusesPassword build pushOk vconf changed →
          security.key = (security.edited build vconf changed).key) := by
  unfold SetsSecurity at hkeeps
  simp only [not_or, Bool.not_eq_true] at hkeeps
  rcases hkeeps with ⟨hon, hdecodes, hpassword⟩
  unfold Security.edited
  rw [if_neg hon]
  simp only [hdecodes, Bool.false_eq_true, ↓reduceIte]
  split
  . next hpsks =>
    refine ⟨rfl, ?_⟩
    intro htaken
    have hsets : SetsPassword vconf changed := ⟨hon, hpsks⟩
    simp only [RefusesPassword, hsets, true_and, not_and, Bool.not_eq_false] at htaken hpassword
    contradiction
  . exact ⟨rfl, fun _ => rfl⟩

section

variable {η : Type} {build : ConfigBuild} {env : ConfigEnv η} {vconf : VifConf} {changed : VifFlags}

theorem reconfigured_of_not_triggers {vap : VapInfo} (hkeeps : ¬Triggers build env vap vconf changed)
    : Reconfigured build env vconf changed vap vap := by
  unfold Triggers at hkeeps
  simp only [not_or, Bool.not_eq_true] at hkeeps
  rcases hkeeps with ⟨henabled, _, hapBridge, hrrm, hbtm, huapsd, hbroadcast, hssid, hbridge, hacl, hmcast⟩
  constructor
  case macFilter => exact ⟨fun _ => ⟨rfl, rfl⟩, fun hsets => absurd hsets hacl, fun hsets => absurd hsets hacl⟩
  case mcast2ucast => exact ⟨fun hsets => absurd hsets hmcast, fun _ => rfl⟩
  all_goals simp [*]

/-- What the HAL has after a configuration, if it keeps what it is handed. -/
theorem targetVifConfigSet2_held (build : ConfigBuild) {env : ConfigEnv η} {vconf : VifConf}
    {changed : VifFlags} {ssidIndex : Int} {vap : HalVap}
    (hfind : findVap env.lookup vconf = some (ssidIndex, vap)) (hap : vap.vapMode ≠ .sta)
    (haccepts : ¬RejectsSsidBroadcast vconf changed) (radioIfname : CStr) (cconf : CredentialConf)
    (s : ConfigState η)
    : let t := (targetVifConfigSet2 build env vconf radioIfname cconf changed s).1
      ∃ new key,
        heldVap vap (t.calls.drop s.calls.length) = { vap with vapInfo := new }
          ∧ Reconfigured build env vconf changed vap.vapInfo new
          ∧ new.bssInfo.security
            = { vap.vapInfo.bssInfo.security.edited build.security vconf.toSecurityConf
                  changed.toSecurityFlags with key := key }
          ∧ (¬RefusesPassword build.security env.pushMultiPskKeysOk vconf.toSecurityConf
                changed.toSecurityFlags →
              key = (vap.vapInfo.bssInfo.security.edited build.security vconf.toSecurityConf
                changed.toSecurityFlags).key) := by
  have ⟨made, new, hmade, _, haccepted⟩ := targetVifConfigSet2_made build env vconf radioIfname cconf changed s
    ssidIndex vap hfind hap
  have ⟨hnone, hcreated, hreconfigured, hsecurity⟩ := haccepted haccepts
  dsimp only
  rw [hmade, List.drop_left]
  unfold heldVap
  by_cases htriggers : Triggers build env vap.vapInfo vconf changed
  . rw [hcreated htriggers]
    exact ⟨new, _, rfl, hreconfigured, hsecurity, fun _ => rfl⟩
  . rw [hnone htriggers]
    have hkeeps : ¬SetsSecurity build.security env.pushMultiPskKeysOk vconf.toSecurityConf
        changed.toSecurityFlags := by
      intro hsets
      exact htriggers (Or.inr (Or.inl hsets))
    have ⟨hsame, hkey⟩ := edited_of_not_setsSecurity hkeeps vap.vapInfo.bssInfo.security
    exact ⟨vap.vapInfo, vap.vapInfo.bssInfo.security.key, rfl, reconfigured_of_not_triggers htriggers, hsame,
      hkey⟩

def pairwiseColumn (mode : SecurityMode) (cipher : PairwiseCiphers → Bool) : Column Bool :=
  match securityModeMap.find? (fun entry => entry.1 = mode) with
  | none => default
  | some entry => .set (cipher entry.2)

/-- The columns that `get_security` fills, from the settings alone. -/
def settingsColumns (build : Build) (keyId : CStr) (multiPskKeys : Option (List (CStr × CStr)))
    (security : Security) : SecurityColumns where
  pmf := .set (pmfStr security.mfp)
  wpa := .set (if security.mode = .none then 0 else 1)
  wpaPairwiseTkip := pairwiseColumn security.mode PairwiseCiphers.wpaTkip
  wpaPairwiseCcmp := pairwiseColumn security.mode PairwiseCiphers.wpaCcmp
  rsnPairwiseTkip := pairwiseColumn security.mode PairwiseCiphers.rsnTkip
  rsnPairwiseCcmp := pairwiseColumn security.mode PairwiseCiphers.rsnCcmp
  wpaKeyMgmt := securityKeyMgmt security.mode
  wpaPsks :=
    if security.mode.hasPsk then
      (getPsks build (fun _ => keyId) 0 security.key multiPskKeys []).1
    else
      []

theorem getSecurity_settingsColumns (build : ApBuild) (hal : ApAnswers) (cachedKeyIds : Int → CStr)
    (vap : ApVap)
    : (getSecurity build hal cachedKeyIds vap default).securityColumns
        = settingsColumns build.security (cachedKeyIds vap.vapIndex) hal.multiPskKeys
            vap.bssInfo.security := by
  have hall : ∀ mode, vap.bssInfo.security.mode = mode →
      (getSecurity build hal cachedKeyIds vap default).securityColumns
        = settingsColumns build.security (cachedKeyIds vap.vapIndex) hal.multiPskKeys
            { vap.bssInfo.security with mode := mode } := by
    intro mode hmode
    unfold getSecurity securityKeyMgmtHalToOvsdb
    dsimp only
    rw [hmode]
    cases mode <;> rfl
  exact hall _ rfl

/-- What is configured where a column is changed, and the earlier settings where it is not. -/
structure ShowsConfig (build : ApBuild) (env : ConfigEnv η) (vconf : VifConf) (changed : VifFlags)
    (leavesAcl : Prop) (old : VapInfo) (vstate : VifState) : Prop where
  enabled : vstate.enabled = .set (if changed.enabled then vconf.enabled else old.bssInfo.enabled)
  ssid : vstate.ssid =
    .set (if changed.ssid then strscpy build.ssidSize vconf.ssid else old.bssInfo.ssid)
  apBridge : vstate.apBridge = .set (if changed.apBridge then vconf.apBridge else !old.bssInfo.isolation)
  ssidBroadcast : ∃ ssidBroadcast, vstate.ssidBroadcast = .set ssidBroadcast
    ∧ if changed.ssidBroadcast then
        ssidBroadcast = vconf.ssidBroadcast
      else
        (old.bssInfo.showSsid, ssidBroadcast) ∈ mapEnableDisable
  rrm : vstate.rrm = .set (if changed.rrm then vconf.rrm else old.bssInfo.nbrReportActivated)
  btm : vstate.btm = .set (if changed.btm then vconf.btm else old.bssInfo.bssTransitionActivated)
  uapsdEnable : vstate.uapsdEnable =
    .set (if changed.uapsdEnable then vconf.uapsdEnable else old.bssInfo.uapsdEnabled)
  bridge : vstate.bridge.toOption.getD [] =
    if changed.bridge then strscpy build.bridgeNameSize vconf.bridge else old.bridgeName
  macListType : ¬leavesAcl → ∃ macListType, vstate.macListType = .set macListType
    ∧ (SetsMacListType build.acl old.vapName vconf.toAclConf changed.toAclFlags →
      macListType = vconf.macListType)
    ∧ (¬SetsMacListType build.acl old.vapName vconf.toAclConf changed.toAclFlags →
      macListType = filterType old.bssInfo)
  mcast2ucast : ∃ mcast2ucast, vstate.mcast2ucast = .set mcast2ucast
    ∧ (SetsMcast2ucast env old.radioIndex vconf changed → mcast2ucast = vconf.mcast2ucast)
    ∧ (¬SetsMcast2ucast env old.radioIndex vconf changed → mcast2ucast = old.bssInfo.mcast2ucast)

theorem aclModeStr_of_mem {mode : MacFilterMode} {macListType : CStr}
    (hmem : (mode, macListType) ∈ mapAclModes)
    : aclModeStr mode = macListType := by
  simp only [mapAclModes, List.mem_cons, Prod.mk.injEq, List.not_mem_nil, or_false] at hmem
  rcases hmem with ⟨rfl, rfl⟩ | ⟨rfl, rfl⟩ <;> rfl

theorem mapEnableDisable_inj {showSsid : Bool} {lhs rhs : CStr}
    (hlhs : (showSsid, lhs) ∈ mapEnableDisable) (hrhs : (showSsid, rhs) ∈ mapEnableDisable)
    : lhs = rhs := by
  simp only [mapEnableDisable, List.mem_cons, Prod.mk.injEq, List.not_mem_nil, or_false] at hlhs hrhs
  cases showSsid <;> simp_all

theorem MacFilterSet.filterType {sets : Prop} {macListType : CStr} {old new : BssInfo}
    (hfilter : MacFilterSet sets macListType old new)
    : (sets → Vif.filterType new = macListType) ∧ (¬sets → Vif.filterType new = Vif.filterType old) := by
  unfold Vif.filterType
  constructor
  . intro hsets
    by_cases hnone : macListType = noneMacListType
    . rw [(hfilter.disabled hsets hnone).1, hnone]
      rfl
    . have ⟨henabled, hmem⟩ := hfilter.enabled hsets hnone
      rw [henabled]
      exact aclModeStr_of_mem hmem
  . intro hkeeps
    have ⟨henabled, hmode⟩ := hfilter.kept hkeeps
    rw [henabled, hmode]

theorem showsConfig_of_reconfigured {build : ApBuild} {env : ConfigEnv η} {vconf : VifConf}
    {changed : VifFlags} {old : VapInfo} {hal : ApAnswers} {cachedKeyIds : Int → CStr} {vap : ApVap}
    {vstate : VifState}
    (hnew : Reconfigured build.toConfigBuild env vconf changed old vap.toVapInfo)
    (hget : vifStateGet build hal cachedKeyIds vap = some vstate)
    : ShowsConfig build env vconf changed (LeavesAcl build.acl hal.aclDevices old.vapName) old vstate := by
  have ⟨ssidBroadcast, hshow, hcolumns, _, htype, hmcast⟩ := vifStateGet_columns hget
  injection hcolumns with henabled hssid hapBridge hbroadcast hrrm hbtm huapsd hbridge
  constructor
  case enabled => rw [henabled, hnew.enabled]
  case ssid => rw [hssid, hnew.ssid]
  case apBridge =>
    rw [hapBridge, hnew.isolation]
    cases changed.apBridge <;> simp
  case ssidBroadcast =>
    refine ⟨ssidBroadcast, hbroadcast, ?_⟩
    have hset := hnew.showSsid
    split at hset
    . next hchanged =>
      rw [if_pos hchanged]
      exact mapEnableDisable_inj hshow hset
    . next hchanged =>
      rw [if_neg hchanged, ← hset]
      exact hshow
  case rrm => rw [hrrm, hnew.nbrReportActivated]
  case btm => rw [hbtm, hnew.bssTransitionActivated]
  case uapsdEnable => rw [huapsd, hnew.uapsdEnabled]
  case bridge =>
    rw [hbridge, ← hnew.bridgeName]
    cases vap.bridgeName <;> rfl
  case macListType =>
    intro hmanages
    rw [hnew.vapName, if_neg hmanages] at htype
    exact ⟨_, htype, hnew.macFilter.filterType⟩
  case mcast2ucast => exact ⟨_, hmcast, hnew.mcast2ucast⟩

theorem vifStateUpdate_ap {build : ApBuild} {cachedKeyIds : Int → CStr} {report : VifReport η}
    {ssidIndex : Int} {vap : HalVap} {row : VifRow × CStr}
    (hread : vifStateUpdate build cachedKeyIds report ssidIndex = some row)
    (hvap : ssidIndexToVapInfo report.env.lookup (unsignedInt ssidIndex) = some vap)
    (hap : vap.vapMode = .ap)
    : ∃ vstate,
        row.1 = .ap vstate
          ∧ vifStateGet build (report.answers (unsignedInt ssidIndex)) cachedKeyIds
              { vap.vapInfo with
                bssid := report.bssid (unsignedInt ssidIndex)
                radius := report.radius (unsignedInt ssidIndex)
              } = some vstate := by
  unfold vifStateUpdate at hread
  split at hread
  . contradiction
  . rw [hvap] at hread
    unfold vifStateOf at hread
    simp only [hap, vapIndex_of_ssidIndexToVapInfo hvap] at hread
    split at hread
    . contradiction
    . next heq =>
      have ⟨vstate, hget, hrow⟩ := Option.map_eq_some_iff.mp heq
      have ⟨radioIfname, _, hsame⟩ := Option.map_eq_some_iff.mp hread
      rw [← hsame, ← hrow]
      exact ⟨vstate, rfl, hget⟩

namespace VifSystem

theorem config_step_state (build : ApBuild) {s t : VifSystem η} {vconf : VifConf} {radioIfname : CStr}
    {cconf : CredentialConf} {changed : VifFlags} {report : VifReport η}
    (hstep : s.step build (.config vconf radioIfname cconf changed report) = some t)
    : t.report = report
        ∧ t.state = (targetVifConfigSet2 build.toConfigBuild s.report.env vconf radioIfname cconf changed
          s.state).1 := by
  injection hstep with hstep
  rw [← hstep]
  exact foldl_publish_frame ..

theorem config_follows (build : ApBuild) {s t : VifSystem η} (hinv : DeferredInv s.state.deferred)
    {vconf : VifConf} {changed : VifFlags} {ssidIndex : Int} {vap : HalVap}
    (hfind : findVap s.report.env.lookup vconf = some (ssidIndex, vap)) (hap : vap.vapMode ≠ .sta)
    (haccepts : ¬RejectsSsidBroadcast vconf changed) {radioIfname : CStr} {cconf : CredentialConf}
    {report : VifReport η} (hstep : s.step build (.config vconf radioIfname cconf changed report) = some t)
    {row : VifRow × CStr} (hread : t.read build ssidIndex = some row)
    : t.Follows build ssidIndex row := by
  have ⟨_, _, hdeferred⟩ := targetVifConfigSet2_ap build.toConfigBuild hfind hap changed radioIfname cconf
    s.state
  have ⟨events, hlog, _, hdue⟩ := updateDeferred_log build.toConfigBuild ssidIndex s.state.deferred
  have hupdated := hdeferred haccepts
  have ⟨hreport, hstate⟩ := config_step_state build hstep
  let configured : VifSystem η :=
    { s with
      report
      state := (targetVifConfigSet2 build.toConfigBuild s.report.env vconf radioIfname cconf changed
        s.state).1
    }
  have hconfigured : configured.read build ssidIndex = some row := by
    rw [← hread]
    exact (read_congr hreport hstate ssidIndex).symm
  injection hstep with hstep
  rw [← hstep]
  apply publishSince_follows build s.state.deferred events _ _ hconfigured (Or.inr hdue)
  . exact hupdated ▸ updateDeferred_inv build.toConfigBuild hinv ssidIndex
  . exact (congrArg Deferred.log hupdated).trans hlog

theorem ap_config_published (build : ApBuild) {start s t u : VifSystem η}
    (hstart : start.state.deferred = .initial) {before after : List (VifInput η)}
    (hbefore : Machine.run (step build) start before = some s)
    {vconf : VifConf} {radioIfname : CStr} {cconf : CredentialConf} {changed : VifFlags}
    {report : VifReport η}
    (hconfig : s.step build (.config vconf radioIfname cconf changed report) = some t)
    (hafter : Machine.run (step build) t after = some u)
    {ssidIndex : Int} (hindex : IsIndex ssidIndex) {vap : HalVap}
    (hfind : findVap s.report.env.lookup vconf = some (ssidIndex, vap)) (hap : vap.vapMode = .ap)
    (haccepts : ¬RejectsSsidBroadcast vconf changed)
    (hheld : ssidIndexToVapInfo report.env.lookup (unsignedInt ssidIndex)
      = some (heldVap vap (t.state.calls.drop s.state.calls.length)))
    {row : VifRow × CStr} (hread : t.read build ssidIndex = some row)
    (hspares : Machine.AllSteps (step build) (VifInput.Spares build ssidIndex) t after)
    : u.Publishes build ssidIndex row
        ∧ ∃ vstate,
          let answers := report.answers (unsignedInt ssidIndex)
          let security := vap.vapInfo.bssInfo.security.edited build.security vconf.toSecurityConf
            changed.toSecurityFlags
          row.1 = .ap vstate
            ∧ ShowsConfig build s.report.env vconf changed
              (LeavesAcl build.acl answers.aclDevices vap.vapInfo.vapName) vap.vapInfo vstate
            ∧ ∃ key,
              vstate.securityColumns
                  = settingsColumns build.security
                      (if SetsPassword vconf.toSecurityConf changed.toSecurityFlags then
                        firstKeyId vconf.toSecurityConf
                      else
                        s.state.cachedKeyIds ssidIndex)
                      answers.multiPskKeys { security with key := key }
                ∧ (¬RefusesPassword build.security s.report.env.pushMultiPskKeysOk vconf.toSecurityConf
                      changed.toSecurityFlags →
                    key = security.key) := by
  have hsta : vap.vapMode ≠ .sta := by simp [hap]
  have hinv : DeferredInv s.state.deferred :=
    run_inv build (hstart ▸ initial_deferredInv) hbefore
  have hfollows := config_follows build hinv hfind hsta haccepts hconfig hread
  have hpublishes := (run_follows build hindex hfollows hspares hafter).publishes
  refine ⟨hpublishes, ?_⟩
  have ⟨hreport, hstate⟩ := config_step_state build hconfig
  rw [hstate] at hheld
  have ⟨new, key, hnew, hreconfigured, hsecurity, hkey⟩ := targetVifConfigSet2_held build.toConfigBuild hfind
    hsta haccepts radioIfname cconf s.state
  rw [hnew] at hheld
  unfold read at hread
  rw [hreport, hstate] at hread
  have ⟨vstate, hrow, hget⟩ := vifStateUpdate_ap hread hheld hap
  refine ⟨vstate, hrow, ?_, key, ?_, hkey⟩
  . exact showsConfig_of_reconfigured hreconfigured hget
  . have ⟨_, _, _, hcolumns, _⟩ := vifStateGet_columns hget
    have hnewIndex : new.vapIndex = unsignedInt ssidIndex := vapIndex_of_ssidIndexToVapInfo hheld
    have ⟨hkeyIds, _⟩ := targetVifConfigSet2_ap build.toConfigBuild hfind hsta changed radioIfname cconf s.state
    rw [hcolumns, getSecurity_settingsColumns]
    dsimp only
    rw [hsecurity, hnewIndex, hindex.unsignedInt, hkeyIds]
    simp only [and_true]

end VifSystem

end

def homeReport (vap : HalVap) : VifReport (List Clients.MacAddr) :=
  { env := { homeEnv with lookup := { homeLookup with getRadioVapInfoMap := fun _ => some [vap] } }
    bssid := fun _ => ⟨2, 0, 0, 0, 0, 1⟩
    radius := fun _ => { ip := [], port := 0, key := [] }
    staMac := fun _ => ⟨0, 0, 0, 0, 0, 0⟩
    scanChannel := fun _ => 0
    answers := fun _ => apAnswers
    radioIfName := fun _ => some (cstr "wifi0")
  }

def homeSystem : VifSystem (List Clients.MacAddr) :=
  { report := homeReport homeHalVap, state := homeState, published := fun _ => none }

def guestsHalVap : HalVap :=
  { homeHalVap with
    vapInfo := { homeVap with bssInfo.ssid := cstr "guests", bssInfo.isolation := true }
  }

def guestsConfig : VifInput (List Clients.MacAddr) :=
  .config { homeConf [] with ssid := cstr "guests" } (cstr "wifi0") ⟨[], []⟩
    { VifFlags.unset with ssid := true, apBridge := true } (homeReport guestsHalVap)

namespace VifSystem

theorem ap_config_published_guests
    : ∃ t u row vstate,
        Machine.run (step apBuild) homeSystem [.update 0, guestsConfig] = some t
          ∧ Machine.run (step apBuild) t [.outside (homeReport guestsHalVap) [], .update 0] = some u
          ∧ u.Publishes apBuild 0 row
          ∧ row.1 = .ap vstate
          ∧ vstate.ssid = .set (cstr "guests")
          ∧ vstate.apBridge = .set false := by
  let s := homeSystem.publish apBuild (.updated 0)
  have ⟨t, hconfig⟩ : ∃ t, s.step apBuild guestsConfig = some t := ⟨_, rfl⟩
  have ⟨u, hafter⟩ : ∃ u,
      Machine.run (step apBuild) t [.outside (homeReport guestsHalVap) [], .update 0] = some u := ⟨_, rfl⟩
  have hread : (t.read apBuild 0).isSome := by
    injection hconfig with hconfig
    rw [← hconfig]
    decide +kernel
  have ⟨row, hread⟩ := Option.isSome_iff_exists.mp hread
  have hreport : t.report = homeReport guestsHalVap := by
    injection hconfig with hconfig
    rw [← hconfig]
    rfl
  have hspares : Machine.AllSteps (step apBuild) (VifInput.Spares apBuild 0) t
      [.outside (homeReport guestsHalVap) [], .update 0] := by
    refine (Machine.allSteps_cons rfl _).mpr ⟨?_, ?_⟩
    . intro cachedKeyIds
      rw [hreport]
    . exact (Machine.allSteps_cons rfl _).mpr ⟨trivial, Machine.allSteps_nil _⟩
  have hheld : ssidIndexToVapInfo (homeReport guestsHalVap).env.lookup (unsignedInt 0)
      = some (heldVap homeHalVap (t.state.calls.drop s.state.calls.length)) := by
    injection hconfig with hconfig
    rw [← hconfig]
    decide +kernel
  have ⟨hpublishes, vstate, hrow, hshows, _⟩ := ap_config_published apBuild rfl
    (show Machine.run (step apBuild) homeSystem [.update 0] = some s from rfl) hconfig hafter
    ⟨by decide, by decide⟩ (show _ = some (0, homeHalVap) by decide +kernel) rfl
    (by simp [RejectsSsidBroadcast, VifFlags.unset]) hheld hread hspares
  exact ⟨t, u, row, vstate, hconfig, hafter, hpublishes, hrow, hshows.ssid, hshows.apBridge⟩

end VifSystem

end Vif
end OpenSyncRdk
