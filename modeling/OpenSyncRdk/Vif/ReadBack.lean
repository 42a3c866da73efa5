import OpenSyncRdk.Vif.InitialConfig
import OpenSyncRdk.Vif.Reconfigured

/-!
What the wifi HAL gets back when a configuration that was made from its own settings is applied:
the initial configuration of an AP, and the one after `vif_external_security_update`, `vif.c`.
-/

namespace OpenSyncRdk
namespace Vif

def VifConfigRow.toVifConf (row : VifConfigRow) : VifConf where
  ifName := row.ifName.val
  wpa := row.wpa.val
  wpaKeyMgmt := row.wpaKeyMgmt
  wpaPairwiseTkip := row.wpaPairwiseTkip.val
  wpaPairwiseCcmp := row.wpaPairwiseCcmp.val
  rsnPairwiseTkip := row.rsnPairwiseTkip.val
  rsnPairwiseCcmp := row.rsnPairwiseCcmp.val
  pmf := row.pmf.val
  wpaPsks := row.wpaPsks
  macListTypeExists := row.macListType.present
  macListType := row.macListType.val
  macList := row.macList
  enabled := row.enabled.val
  apBridge := row.apBridge.val
  rrm := row.rrm.val
  btm := row.btm.val
  uapsdEnable := row.uapsdEnable.val
  ssidBroadcast := row.ssidBroadcast.val
  ssid := row.ssid.val
  bridge := row.bridge.val
  wps := row.wps.val
  wpsPbc := row.wpsPbc.val
  wpsPbcKeyId := row.wpsPbcKeyId.val
  multiAp := row.multiAp.val
  mcast2ucast := row.mcast2ucast.val
  security := []
  parent := []

structure ApVap.Fits (build : ConfigBuild) (vap : ApVap) : Prop where
  key : vap.bssInfo.security.key.length < build.security.keySize
  ssid : vap.bssInfo.ssid.length < build.ssidSize
  bridgeName : vap.bridgeName.length < build.bridgeNameSize

def SecurityMode.Known : SecurityMode → Prop
  | .other _ => False
  | _ => True

structure ApColumns where
  enabled : Column Bool
  ssid : Column CStr
  apBridge : Column Bool
  ssidBroadcast : Column CStr
  rrm : Column Bool
  btm : Column Bool
  uapsdEnable : Column Bool
  bridge : Column CStr

structure SecurityColumns where
  pmf : Column CStr
  wpa : Column Int
  wpaPairwiseTkip : Column Bool
  wpaPairwiseCcmp : Column Bool
  rsnPairwiseTkip : Column Bool
  rsnPairwiseCcmp : Column Bool
  wpaKeyMgmt : List CStr
  wpaPsks : List (CStr × CStr)

def VifState.apColumns (vstate : VifState) : ApColumns where
  enabled := vstate.enabled
  ssid := vstate.ssid
  apBridge := vstate.apBridge
  ssidBroadcast := vstate.ssidBroadcast
  rrm := vstate.rrm
  btm := vstate.btm
  uapsdEnable := vstate.uapsdEnable
  bridge := vstate.bridge

def VifState.securityColumns (vstate : VifState) : SecurityColumns where
  pmf := vstate.pmf
  wpa := vstate.wpa
  wpaPairwiseTkip := vstate.wpaPairwiseTkip
  wpaPairwiseCcmp := vstate.wpaPairwiseCcmp
  rsnPairwiseTkip := vstate.rsnPairwiseTkip
  rsnPairwiseCcmp := vstate.rsnPairwiseCcmp
  wpaKeyMgmt := vstate.wpaKeyMgmt
  wpaPsks := vstate.wpaPsks

theorem getSecurity_apColumns (build : ApBuild) (hal : ApAnswers) (cachedKeyIds : Int → CStr)
    (vap : ApVap) (vstate : VifState)
    : (getSecurity build hal cachedKeyIds vap vstate).apColumns = vstate.apColumns
        ∧ (getSecurity build hal cachedKeyIds vap vstate).macListType = vstate.macListType := by
  unfold getSecurity securityKeyMgmtHalToOvsdb
  dsimp only
  split
  . exact ⟨rfl, rfl⟩
  . cases securityModeMap.find? (fun entry => entry.1 = vap.bssInfo.security.mode) with
    | none => exact ⟨rfl, rfl⟩
    | some entry =>
      dsimp only
      split <;> exact ⟨rfl, rfl⟩

theorem appendAcl_frame (devices : AclDevices) (vstate : VifState)
    : (appendAcl devices vstate).apColumns = vstate.apColumns
        ∧ (appendAcl devices vstate).securityColumns = vstate.securityColumns
        ∧ (appendAcl devices vstate).macListType = vstate.macListType := by
  unfold appendAcl
  split
  . exact ⟨rfl, rfl, rfl⟩
  . exact ⟨rfl, rfl, rfl⟩
  . exact ⟨rfl, rfl, rfl⟩
  . split <;> exact ⟨rfl, rfl, rfl⟩

/-- The ACLs of home APs are left to the Mesh-Agent, unless the build shares them. -/
def LeavesAcl (build : AclBuild) (devices : AclDevices) (vapName : CStr) : Prop :=
  devices.isText ∧ ¬build.syncExtHomeAcls ∧ isHomeAp build.radio vapName

instance (build : AclBuild) (devices : AclDevices) (vapName : CStr)
    : Decidable (LeavesAcl build devices vapName) :=
  inferInstanceAs (Decidable (_ ∧ _ ∧ _))

def filterType (bssInfo : BssInfo) : CStr :=
  if bssInfo.macFilterEnable then aclModeStr bssInfo.macFilterMode else noneMacListType

theorem aclToState_frame (build : AclBuild) (devices : AclDevices) (vap : VapInfo) (vstate : VifState)
    : (vstate.aclToState build devices vap).apColumns = vstate.apColumns
        ∧ (vstate.aclToState build devices vap).securityColumns = vstate.securityColumns
        ∧ (vstate.aclToState build devices vap).macListType
          = if LeavesAcl build devices vap.vapName then
              vstate.macListType
            else
              .set (filterType vap.bssInfo) := by
  unfold VifState.aclToState filterType
  by_cases hleaves : LeavesAcl build devices vap.vapName
  . rw [if_pos hleaves, if_pos (show _ ∧ _ ∧ _ from hleaves)]
    exact ⟨rfl, rfl, rfl⟩
  . rw [if_neg hleaves, if_neg (show ¬(_ ∧ _ ∧ _) from hleaves)]
    split
    . dsimp only
      split
      . exact ⟨rfl, rfl, rfl⟩
      . exact appendAcl_frame devices
          { vstate with macListType := .set (aclModeStr vap.bssInfo.macFilterMode) }
    . exact appendAcl_frame devices { vstate with macListType := .set noneMacListType }

theorem wpsToState_frame (hal : ApAnswers) (vstate : VifState)
    : (wpsToState hal vstate).apColumns = vstate.apColumns
        ∧ (wpsToState hal vstate).securityColumns = vstate.securityColumns
        ∧ (wpsToState hal vstate).macListType = vstate.macListType := by
  exact ⟨rfl, rfl, rfl⟩

theorem multiApToState_frame (hal : ApAnswers) (vstate : VifState)
    : (multiApToState hal vstate).apColumns = vstate.apColumns
        ∧ (multiApToState hal vstate).securityColumns = vstate.securityColumns
        ∧ (multiApToState hal vstate).macListType = vstate.macListType := by
  unfold multiApToState
  split <;> exact ⟨rfl, rfl, rfl⟩

structure ReadFrom (build : ApBuild) (hal : ApAnswers) (cachedKeyIds : Int → CStr) (vap : ApVap)
    (vstate : VifState) : Prop where
  enabled : vstate.enabled.val = vap.bssInfo.enabled
  ssid : vstate.ssid.val = vap.bssInfo.ssid
  apBridge : vstate.apBridge.val = !vap.bssInfo.isolation
  ssidBroadcast : (vap.bssInfo.showSsid, vstate.ssidBroadcast.val) ∈ mapEnableDisable
  rrm : vstate.rrm.val = vap.bssInfo.nbrReportActivated
  btm : vstate.btm.val = vap.bssInfo.bssTransitionActivated
  bridge : (vstate.bridge.copyIf .unset).val = vap.bridgeName
  security : vstate.securityColumns = (getSecurity build hal cachedKeyIds vap default).securityColumns
  macListType : vstate.macListType.present = true →
    vap.bssInfo.macFilterEnable = true ∧ vstate.macListType.val = aclModeStr vap.bssInfo.macFilterMode
      ∨ vap.bssInfo.macFilterEnable = false ∧ vstate.macListType.val = noneMacListType

theorem getSecurity_securityColumns (build : ApBuild) (hal : ApAnswers) (cachedKeyIds : Int → CStr)
    (vap : ApVap) {lhs rhs : VifState} (hsame : lhs.securityColumns = rhs.securityColumns)
    : (getSecurity build hal cachedKeyIds vap lhs).securityColumns
        = (getSecurity build hal cachedKeyIds vap rhs).securityColumns := by
  injection hsame with _ _ hwpaTkip hwpaCcmp hrsnTkip hrsnCcmp hkeyMgmt hpsks
  unfold getSecurity securityKeyMgmtHalToOvsdb VifState.securityColumns
  dsimp only
  split
  . simp [hwpaTkip, hwpaCcmp, hrsnTkip, hrsnCcmp, hkeyMgmt, hpsks]
  . cases securityModeMap.find? (fun entry => entry.1 = vap.bssInfo.security.mode) with
    | none => simp [hwpaTkip, hwpaCcmp, hrsnTkip, hrsnCcmp, hkeyMgmt, hpsks]
    | some entry =>
      dsimp only
      split <;> simp [hkeyMgmt, hpsks]

variable {build : ApBuild} {hal : ApAnswers} {cachedKeyIds : Int → CStr} {vap : ApVap}
  {vstate : VifState}

theorem getChannel_frame {start : VifState} (hstart : getChannel hal vstate = some start)
    : start.securityColumns = vstate.securityColumns
        ∧ start.macListType = vstate.macListType
        ∧ start.bridge = vstate.bridge := by
  unfold getChannel at hstart
  split at hstart
  . split at hstart
    . injection hstart with hstart
      rw [hstart]
      exact ⟨rfl, rfl, rfl⟩
    . injection hstart with hstart
      rw [← hstart]
      exact ⟨rfl, rfl, rfl⟩
  . contradiction

/-- After `acl_to_state` these columns are not set any more. -/
theorem aclToState_last (build : ApBuild) (hal : ApAnswers) (listed : VifState)
    : let pushed := if build.wpsSupport then wpsToState hal listed else listed
      let last := if build.multiApSupport then multiApToState hal pushed else pushed
      last.apColumns = listed.apColumns
        ∧ last.securityColumns = listed.securityColumns
        ∧ last.macListType = listed.macListType := by
  intro pushed last
  have hpushed : pushed.apColumns = listed.apColumns
      ∧ pushed.securityColumns = listed.securityColumns
      ∧ pushed.macListType = listed.macListType := by
    unfold pushed
    split
    . exact wpsToState_frame hal listed
    . exact ⟨rfl, rfl, rfl⟩
  have hlast : last.apColumns = pushed.apColumns
      ∧ last.securityColumns = pushed.securityColumns
      ∧ last.macListType = pushed.macListType := by
    unfold last
    split
    . exact multiApToState_frame hal pushed
    . exact ⟨rfl, rfl, rfl⟩
  exact ⟨hlast.1.trans hpushed.1, hlast.2.1.trans hpushed.2.1, hlast.2.2.trans hpushed.2.2⟩

theorem vifStateGet_columns (hget : vifStateGet build hal cachedKeyIds vap = some vstate)
    : ∃ ssidBroadcast,
        (vap.bssInfo.showSsid, ssidBroadcast) ∈ mapEnableDisable
          ∧ vstate.apColumns
              =
            { enabled := .set vap.bssInfo.enabled
              ssid := .set vap.bssInfo.ssid
              apBridge := .set !vap.bssInfo.isolation
              ssidBroadcast := .set ssidBroadcast
              rrm := .set vap.bssInfo.nbrReportActivated
              btm := .set vap.bssInfo.bssTransitionActivated
              uapsdEnable := .set vap.bssInfo.uapsdEnabled
              bridge := if vap.bridgeName.length > 0 then .set vap.bridgeName else default
            }
          ∧ vstate.securityColumns = (getSecurity build hal cachedKeyIds vap default).securityColumns
          ∧ vstate.macListType
              = (if LeavesAcl build.acl hal.aclDevices vap.vapName then
                  default
                else
                  .set (filterType vap.bssInfo))
          ∧ vstate.mcast2ucast = .set vap.bssInfo.mcast2ucast := by
  unfold vifStateGet vifApStateGet at hget
  split at hget
  . contradiction
  . next start hstart =>
    split at hget
    . contradiction
    . next citem hcitem =>
      injection hget with hget
      have hmem := List.mem_of_find?_eq_some hcitem
      have hshow : citem.1 = vap.bssInfo.showSsid := by simpa using List.find?_some hcitem
      have ⟨hsecurity, htype, hbridge⟩ := getChannel_frame hstart
      let set := setApColumns build vap citem.2 start
      let secured := getSecurity build hal cachedKeyIds vap set
      let listed := secured.aclToState build.acl hal.aclDevices vap.toVapInfo
      have hsecured := getSecurity_apColumns build hal cachedKeyIds vap set
      have hlisted := aclToState_frame build.acl hal.aclDevices vap.toVapInfo secured
      have hlast : vstate.apColumns = listed.apColumns
          ∧ vstate.securityColumns = listed.securityColumns
          ∧ vstate.macListType = listed.macListType := by
        rw [← hget]
        exact aclToState_last build hal listed
      refine ⟨citem.2, hshow ▸ hmem, ?_, ?_, ?_, ?_⟩
      . rw [hlast.1, hlisted.1, hsecured.1]
        unfold set setApColumns VifState.apColumns
        dsimp only
        rw [hbridge]
        rfl
      . rw [hlast.2.1, hlisted.2.1]
        exact getSecurity_securityColumns build hal cachedKeyIds vap hsecurity
      . rw [hlast.2.2, hlisted.2.2, hsecured.2]
        have hset : set.macListType = default := htype
        rw [hset]
      . rw [← hget]

theorem vifStateGet_readFrom (hget : vifStateGet build hal cachedKeyIds vap = some vstate)
    : ReadFrom build hal cachedKeyIds vap vstate := by
  have ⟨ssidBroadcast, hshow, hcolumns, hsecurity, htype, _⟩ := vifStateGet_columns hget
  injection hcolumns with henabled hssid hapBridge hbroadcast hrrm hbtm _ hbridge
  constructor
  case enabled => rw [henabled]; rfl
  case ssid => rw [hssid]; rfl
  case apBridge => rw [hapBridge]; rfl
  case ssidBroadcast =>
    rw [hbroadcast]
    exact hshow
  case rrm => rw [hrrm]; rfl
  case btm => rw [hbtm]; rfl
  case bridge =>
    rw [hbridge]
    split
    . rfl
    . next hempty =>
      have hnil : vap.bridgeName = [] := List.eq_nil_of_length_eq_zero (by omega)
      rw [hnil]
      rfl
  case security => exact hsecurity
  case macListType =>
    intro hpresent
    rw [htype] at hpresent ⊢
    split at hpresent
    . contradiction
    . next hshown =>
      rw [if_neg hshown]
      unfold filterType
      cases hfilter : vap.bssInfo.macFilterEnable with
      | true => exact .inl ⟨rfl, rfl⟩
      | false => exact .inr ⟨rfl, rfl⟩

def readSecurity (build : ApBuild) (hal : ApAnswers) (cachedKeyIds : Int → CStr) (vap : ApVap)
    (ifName : CStr) : SecurityConf :=
  let columns := (getSecurity build hal cachedKeyIds vap default).securityColumns
  { ifName
    wpa := columns.wpa.val
    wpaKeyMgmt := columns.wpaKeyMgmt
    wpaPairwiseTkip := columns.wpaPairwiseTkip.val
    wpaPairwiseCcmp := columns.wpaPairwiseCcmp.val
    rsnPairwiseTkip := columns.rsnPairwiseTkip.val
    rsnPairwiseCcmp := columns.rsnPairwiseCcmp.val
    pmf := columns.pmf.val
    wpaPsks := columns.wpaPsks
  }

theorem toSecurityConf_eq (hread : ReadFrom build hal cachedKeyIds vap vstate)
    : (vifCopyToConfig vstate).toVifConf.toSecurityConf
        = readSecurity build hal cachedKeyIds vap vstate.ifName.val := by
  unfold readSecurity
  rw [← hread.security]
  rfl

theorem mfpOf_pmfStr (mfp : Mfp)
    : mfpOf (pmfStr mfp) = mfp := by
  cases mfp <;> rfl

def readPairwise (mode : SecurityMode) : PairwiseCiphers :=
  ((securityModeMap.find? (fun entry => entry.1 = mode)).map Prod.snd).getD ⟨false, false, false, false⟩

def SecurityMode.hasPsk : SecurityMode → Bool
  | .none | .wpa2Enterprise | .other _ => false
  | _ => true

theorem readSecurity_eq (build : ApBuild) (hal : ApAnswers) (cachedKeyIds : Int → CStr) (vap : ApVap)
    (ifName : CStr)
    : let security := vap.bssInfo.security
      readSecurity build hal cachedKeyIds vap ifName
        = { ifName
            wpa := if security.mode = .none then 0 else 1
            wpaKeyMgmt := securityKeyMgmt security.mode
            wpaPairwiseTkip := (readPairwise security.mode).wpaTkip
            wpaPairwiseCcmp := (readPairwise security.mode).wpaCcmp
            rsnPairwiseTkip := (readPairwise security.mode).rsnTkip
            rsnPairwiseCcmp := (readPairwise security.mode).rsnCcmp
            pmf := pmfStr security.mfp
            wpaPsks :=
              if security.mode.hasPsk then
                (getPsks build.security cachedKeyIds vap.vapIndex security.key hal.multiPskKeys []).1
              else
                []
          } := by
  intro security
  have hall : ∀ mode, vap.bssInfo.security.mode = mode → readSecurity build hal cachedKeyIds vap ifName
      = { ifName
          wpa := if mode = .none then 0 else 1
          wpaKeyMgmt := securityKeyMgmt mode
          wpaPairwiseTkip := (readPairwise mode).wpaTkip
          wpaPairwiseCcmp := (readPairwise mode).wpaCcmp
          rsnPairwiseTkip := (readPairwise mode).rsnTkip
          rsnPairwiseCcmp := (readPairwise mode).rsnCcmp
          pmf := pmfStr security.mfp
          wpaPsks :=
            if mode.hasPsk then
              (getPsks build.security cachedKeyIds vap.vapIndex security.key hal.multiPskKeys []).1
            else
              []
        } := by
    intro mode hmode
    unfold readSecurity getSecurity securityKeyMgmtHalToOvsdb
    dsimp only
    rw [hmode]
    cases mode <;> rfl
  exact hall _ rfl

theorem readSecurity_known (hknown : vap.bssInfo.security.mode.Known) (ifName : CStr)
    : securityKeyMgmtOvsdbToHal (readSecurity build hal cachedKeyIds vap ifName)
        = some vap.bssInfo.security.mode := by
  rw [readSecurity_eq]
  revert hknown
  unfold securityKeyMgmtOvsdbToHal securityWpaKeyMgmtMatch
  dsimp only
  generalize vap.bssInfo.security.mode = mode
  intro hknown
  cases mode with
  | other val => exact hknown.elim
  | _ => rfl

theorem setSecurity_eq_iff (build : Build) (ssidIndex : Int) {vconf : SecurityConf}
    (changed : SecurityFlags) (pushOk : Bool) (s : State) {mode : SecurityMode}
    (hmode : securityKeyMgmtOvsdbToHal vconf = some mode)
    (hpsk : 1 ≤ vconf.wpaPsks.length → strscpy build.keySize (firstPsk vconf) = s.security.key)
    : (setSecurity build ssidIndex vconf changed pushOk s).security = s.security
        ↔
      if TurnsOff vconf changed then
        s.security.mode = .none
      else
        changed.decodes → mode = s.security.mode ∧ mfpOf vconf.pmf = s.security.mfp := by
  rw [setSecurity_security]
  unfold Security.edited
  rw [hmode, Option.getD_some]
  have hsame : ∀ {sec : Security}, sec = s.security ↔
      sec.mode = s.security.mode ∧ sec.mfp = s.security.mfp ∧ sec.key = s.security.key := by
    intro sec
    cases sec
    cases s.security
    simp
  split
  . rw [hsame]
    simp [eq_comm]
  . dsimp only
    rw [hsame]
    split
    . next hsets =>
      rw [hpsk hsets.2]
      split
      . next hdecodes => simp [hdecodes]
      . next hdecodes => simp [hdecodes]
    . split
      . next hdecodes => simp [hdecodes]
      . next hdecodes => simp [hdecodes]

theorem strscpy_of_lt {size : Nat} {src : CStr} (hlt : src.length < size)
    : strscpy size src = src := by
  unfold strscpy
  apply List.take_of_length_le
  omega

theorem firstPsk_readSecurity (build : ApBuild) (hal : ApAnswers) (cachedKeyIds : Int → CStr)
    (vap : ApVap) (ifName : CStr)
    (hsome : 1 ≤ (readSecurity build hal cachedKeyIds vap ifName).wpaPsks.length)
    : firstPsk (readSecurity build hal cachedKeyIds vap ifName) = vap.bssInfo.security.key := by
  rw [readSecurity_eq] at hsome ⊢
  unfold firstPsk
  dsimp only at hsome ⊢
  split
  . unfold getPsks
    dsimp only
    split
    . split <;> rfl
    . rfl
  . next hnone =>
    rw [if_neg hnone] at hsome
    contradiction

/-- To read the settings of a VAP and to apply them changes none, unless their mode has no name. -/
theorem setSecurity_readSecurity_iff (hkey : vap.bssInfo.security.key.length < build.security.keySize)
    (ssidIndex : Int) (ifName : CStr) (changed : SecurityFlags) (pushOk : Bool) {s : State}
    (hsecurity : s.security = vap.bssInfo.security)
    : (setSecurity build.security ssidIndex (readSecurity build hal cachedKeyIds vap ifName) changed pushOk
          s).security = s.security
        ↔
      vap.bssInfo.security.mode.Known ∨ changed.decodes = false := by
  have hpsk (hsome : 1 ≤ (readSecurity build hal cachedKeyIds vap ifName).wpaPsks.length)
      : strscpy build.security.keySize (firstPsk (readSecurity build hal cachedKeyIds vap ifName))
          = s.security.key := by
    rw [firstPsk_readSecurity build hal cachedKeyIds vap ifName hsome, hsecurity]
    exact strscpy_of_lt hkey
  have hwpa : (readSecurity build hal cachedKeyIds vap ifName).wpa
      = if vap.bssInfo.security.mode = .none then 0 else 1 := by rw [readSecurity_eq]
  have hpmf : mfpOf (readSecurity build hal cachedKeyIds vap ifName).pmf = vap.bssInfo.security.mfp := by
    rw [readSecurity_eq]
    exact mfpOf_pmfStr _
  by_cases hknown : vap.bssInfo.security.mode.Known
  . rw [setSecurity_eq_iff build.security ssidIndex changed pushOk s (readSecurity_known hknown ifName) hpsk]
    simp only [hknown, true_or, iff_true, hpmf, hsecurity, and_self, implies_true]
    split
    . next hoff =>
      have hzero := hoff.2
      rw [hwpa] at hzero
      split at hzero
      . assumption
      . contradiction
    . trivial
  . have ⟨val, hother⟩ : ∃ val, vap.bssInfo.security.mode = .other val := by
      cases hmode : vap.bssInfo.security.mode with
      | other val => exact ⟨val, rfl⟩
      | _ =>
        rw [hmode] at hknown
        exact absurd trivial hknown
    have hmode : securityKeyMgmtOvsdbToHal (readSecurity build hal cachedKeyIds vap ifName)
        = some .none := by
      rw [readSecurity_eq, hother]
      rfl
    rw [setSecurity_eq_iff build.security ssidIndex changed pushOk s hmode hpsk]
    have hoff : ¬TurnsOff (readSecurity build hal cachedKeyIds vap ifName) changed := by
      intro hoff
      have hzero := hoff.2
      rw [hwpa, hother] at hzero
      simp at hzero
    rw [if_neg hoff, hsecurity, hother]
    simp [SecurityMode.Known]

theorem mapEnableDisable_injective {showSsid other : Bool} {str : CStr}
    (hshow : (showSsid, str) ∈ mapEnableDisable) (hother : (other, str) ∈ mapEnableDisable)
    : other = showSsid := by
  simp only [mapEnableDisable, List.mem_cons, Prod.mk.injEq, List.not_mem_nil, or_false] at hshow hother
  rcases hshow with ⟨rfl, rfl⟩ | ⟨rfl, rfl⟩
  . rcases hother with ⟨rfl, _⟩ | ⟨_, heq⟩
    . rfl
    . exact absurd heq (by decide)
  . rcases hother with ⟨_, heq⟩ | ⟨rfl, _⟩
    . exact absurd heq (by decide)
    . rfl

theorem not_rejects (hread : ReadFrom build hal cachedKeyIds vap vstate) (changed : VifFlags)
    : ¬RejectsSsidBroadcast (vifCopyToConfig vstate).toVifConf changed := by
  intro ⟨_, henabled, hdisabled⟩
  have hmem := hread.ssidBroadcast
  simp only [mapEnableDisable, List.mem_cons, Prod.mk.injEq, List.not_mem_nil, or_false] at hmem
  rcases hmem with ⟨_, heq⟩ | ⟨_, heq⟩
  . exact henabled heq
  . exact hdisabled heq

theorem macFilter_same (hread : ReadFrom build hal cachedKeyIds vap vstate) {acl : AclBuild}
    {changed : AclFlags} {bssInfo : BssInfo}
    (hfilter : let conf := (vifCopyToConfig vstate).toVifConf.toAclConf
      MacFilterSet (SetsMacListType acl vap.vapName conf changed) conf.macListType vap.bssInfo bssInfo)
    : bssInfo.macFilterEnable = vap.bssInfo.macFilterEnable
        ∧ bssInfo.macFilterMode = vap.bssInfo.macFilterMode := by
  by_cases hsets : SetsMacListType acl vap.vapName (vifCopyToConfig vstate).toVifConf.toAclConf changed
  . have hexists : (vstate.macListType.copyIf .unset).present = true := hsets.2.2.1
    have hpresent : vstate.macListType.present = true := by
      unfold Column.copyIf at hexists
      split at hexists
      . assumption
      . contradiction
    have htype : (vifCopyToConfig vstate).toVifConf.macListType = vstate.macListType.val := by
      change (vstate.macListType.copyIf .unset).val = vstate.macListType.val
      unfold Column.copyIf
      rw [if_pos hpresent]
      rfl
    rcases hread.macListType hpresent with ⟨henable, hnamed⟩ | ⟨henable, hnamed⟩
    . have hsome : (vifCopyToConfig vstate).toVifConf.macListType ≠ noneMacListType := by
        rw [htype, hnamed]
        cases vap.bssInfo.macFilterMode with
        | blackList => decide
        | whiteList => decide
        | other val => simp [aclModeStr, mapAclModes, noneMacListType]; decide
      have hset := hfilter.enabled hsets hsome
      rw [hset.1, henable]
      refine ⟨rfl, ?_⟩
      have hmem := hset.2
      rw [htype, hnamed] at hmem
      cases hmode : vap.bssInfo.macFilterMode with
      | blackList =>
        rw [hmode] at hmem
        simpa [aclModeStr, mapAclModes, show cstr "blacklist" ≠ cstr "whitelist" by decide] using hmem
      | whiteList =>
        rw [hmode] at hmem
        simpa [aclModeStr, mapAclModes, show cstr "whitelist" ≠ cstr "blacklist" by decide] using hmem
      | other val =>
        have hnil : aclModeStr (.other val) = [] := by simp [aclModeStr, mapAclModes]
        rw [hmode, hnil] at hmem
        simp only [mapAclModes, List.mem_cons, Prod.mk.injEq, List.not_mem_nil, or_false] at hmem
        rcases hmem with ⟨_, heq⟩ | ⟨_, heq⟩
        . exact absurd heq (by decide)
        . exact absurd heq (by decide)
    . have hset := hfilter.disabled hsets (htype.trans hnamed)
      rw [hset.1, henable]
      exact ⟨rfl, hset.2⟩
  . exact hfilter.kept hsets

section

variable {η : Type}

def ApVap.secured (vap : ApVap) (security : Security) : VapInfo :=
  { vap.toVapInfo with bssInfo.security := security }

section

variable {security : Security} {calls : List SetterCall} {trigger : Prop} {s : Configuring η}

theorem Edited.configFlags_readBack (hs : Edited (vap.secured security) calls trigger s)
    (hread : ReadFrom build hal cachedKeyIds vap vstate) {changed : VifFlags}
    (huapsd : changed.uapsdEnable = false)
    : Edited (vap.secured security) calls
        (trigger ∨ changed.apBridge = true ∨ changed.rrm = true ∨ changed.btm = true
          ∨ changed.uapsdEnable = true)
        (Vif.configFlags (vifCopyToConfig vstate).toVifConf changed s) := by
  have hisolation : (vifCopyToConfig vstate).toVifConf.apBridge = !vap.bssInfo.isolation := hread.apBridge
  have hrrm : (vifCopyToConfig vstate).toVifConf.rrm = vap.bssInfo.nbrReportActivated := hread.rrm
  have hbtm : (vifCopyToConfig vstate).toVifConf.btm = vap.bssInfo.bssTransitionActivated := hread.btm
  have hflags := hs.configFlags (vifCopyToConfig vstate).toVifConf changed
  simp only [ApVap.secured, hisolation, hrrm, hbtm, huapsd, Bool.not_not, ite_self,
    Bool.false_eq_true, ↓reduceIte] at hflags ⊢
  exact hflags

theorem Edited.configSsidBroadcast_readBack (hs : Edited (vap.secured security) calls trigger s)
    (hread : ReadFrom build hal cachedKeyIds vap vstate) {env : ConfigEnv η} {ssidIndex : Int}
    {changed : VifFlags} {t : Configuring η}
    (ht : Vif.configSsidBroadcast build.toConfigBuild env ssidIndex (vifCopyToConfig vstate).toVifConf changed
      s = some t)
    : Edited (vap.secured security) calls (trigger ∨ changed.ssidBroadcast = true) t := by
  have ⟨showSsid, hshow, ht⟩ := hs.configSsidBroadcast build.toConfigBuild env ssidIndex
    (vifCopyToConfig vstate).toVifConf changed ht
  have hsame : showSsid = vap.bssInfo.showSsid := by
    split at hshow
    . exact mapEnableDisable_injective hread.ssidBroadcast hshow
    . exact hshow
  rw [hsame] at ht
  exact ht

theorem Edited.configRest_readBack (hs : Edited (vap.secured security) calls trigger s)
    (hread : ReadFrom build hal cachedKeyIds vap vstate) (hfits : vap.Fits build.toConfigBuild)
    (env : ConfigEnv η) (ssidIndex : Int) (halVap : HalVap) {changed : VifFlags}
    (hmcast2ucast : changed.mcast2ucast = false) (radioIfname : CStr)
    : ∃ reasons made,
        (trigger → reasons)
          ∧ (Vif.configRest build.toConfigBuild env ssidIndex halVap (vifCopyToConfig vstate).toVifConf
              changed radioIfname s).1.calls = calls ++ made
          ∧ (¬reasons → creations made = [])
          ∧ (reasons → creations made
            = [(vap.radioIndex, { halVap with vapInfo := vap.secured security })]) := by
  have hssid : strscpy build.ssidSize (vifCopyToConfig vstate).toVifConf.ssid = vap.bssInfo.ssid := by
    have hsame : (vifCopyToConfig vstate).toVifConf.ssid = vap.bssInfo.ssid := hread.ssid
    rw [hsame]
    exact strscpy_of_lt hfits.ssid
  have hbridge : strscpy build.bridgeNameSize (vifCopyToConfig vstate).toVifConf.bridge
      = vap.bridgeName := by
    have hsame : (vifCopyToConfig vstate).toVifConf.bridge = vap.bridgeName := hread.bridge
    rw [hsame]
    exact strscpy_of_lt hfits.bridgeName
  rcases hs.configRest build.toConfigBuild env ssidIndex halVap (vifCopyToConfig vstate).toVifConf changed
    radioIfname with ⟨bssInfo, mcast2ucast, made, hfilter, _, hkeeps, hmade, hnone, hcreated⟩
  refine ⟨_, made, Or.inl, hmade, hnone, ?_⟩
  intro hreasons
  rw [hcreated hreasons]
  have hmac := macFilter_same hread ⟨hfilter.kept, hfilter.disabled, hfilter.enabled⟩
  have hmcast := hkeeps (fun hsets => by simp [SetsMcast2ucast, hmcast2ucast] at hsets)
  rw [hmac.1, hmac.2, hmcast]
  simp only [ApVap.secured, hssid, hbridge, ite_self]

end

theorem configSecurity_readBack (hread : ReadFrom build hal cachedKeyIds vap vstate)
    (hkey : vap.bssInfo.security.key.length < build.security.keySize) (env : ConfigEnv η)
    (ssidIndex : Int) (changed : VifFlags) {t : Configuring η}
    (ht : t.vapInfo.bssInfo.security = vap.bssInfo.security)
    : (configSecurity build.toConfigBuild env ssidIndex (vifCopyToConfig vstate).toVifConf changed
          t).vapInfo.bssInfo.security = vap.bssInfo.security
        ↔
      vap.bssInfo.security.mode.Known ∨ changed.toSecurityFlags.decodes = false := by
  have hstate : (securityState t).security = vap.bssInfo.security := ht
  have hiff : (setSecurity build.security ssidIndex
          (readSecurity build hal cachedKeyIds vap vstate.ifName.val) changed.toSecurityFlags
          env.pushMultiPskKeysOk (securityState t)).security = (securityState t).security
        ↔
      vap.bssInfo.security.mode.Known ∨ changed.toSecurityFlags.decodes = false :=
    setSecurity_readSecurity_iff hkey ssidIndex vstate.ifName.val changed.toSecurityFlags
      env.pushMultiPskKeysOk hstate
  rw [← hiff, ← toSecurityConf_eq hread, hstate]
  rfl

theorem initial_config_applied_iff (build : ApBuild) (hal : ApAnswers) (cachedKeyIds : Int → CStr)
    (vap : ApVap) (hfits : vap.Fits build.toConfigBuild) {vstate : VifState}
    (hget : vifStateGet build hal cachedKeyIds vap = some vstate) (env : ConfigEnv η) (ssidIndex : Int)
    {halVap : HalVap} (hvap : halVap.vapInfo = vap.toVapInfo) (hap : halVap.vapMode ≠ .sta)
    (hfind : findVap env.lookup (vifCopyToConfig vstate).toVifConf = some (ssidIndex, halVap))
    (radioIfname : CStr) (cconf : CredentialConf) (changed : VifFlags)
    (huapsd : changed.uapsdEnable = false) (hmcast2ucast : changed.mcast2ucast = false)
    (s : ConfigState η)
    : ∃ made,
        (targetVifConfigSet2 build.toConfigBuild env (vifCopyToConfig vstate).toVifConf radioIfname cconf
            changed s).1.calls = s.calls ++ made
          ∧ ((∀ radioIndex new, (radioIndex, new) ∈ creations made → new = halVap)
            ↔
          vap.bssInfo.security.mode.Known ∨ changed.toSecurityFlags.decodes = false) := by
  have hread := vifStateGet_readFrom hget
  let conf := (vifCopyToConfig vstate).toVifConf
  rcases halVap with ⟨vapMode, vapInfo, staInfo⟩
  dsimp only at hvap hap
  subst hvap
  unfold targetVifConfigSet2
  rw [hfind]
  dsimp only
  rw [if_neg hap]
  have hinit : Edited vap.toVapInfo s.calls False
      { vapInfo := vap.toVapInfo, triggerReconfigure := false, state := s } := by
    refine ⟨rfl, ⟨[], (List.append_nil _).symm, rfl⟩, ?_⟩
    simp
  have hsame : (if changed.enabled then
      { vap.toVapInfo with bssInfo.enabled := conf.enabled }
    else
      vap.toVapInfo) = vap.toVapInfo := by
    have henabled : conf.enabled = vap.bssInfo.enabled := hread.enabled
    rw [henabled]
    split <;> rfl
  have henabled := hinit.setVapInfo changed.enabled
    (fun vapInfo => { vapInfo with bssInfo.enabled := conf.enabled }) hsame
  have hsecured := henabled.configSecurity build.toConfigBuild env ssidIndex conf changed
  generalize vap.bssInfo.security.edited build.security conf.toSecurityConf changed.toSecurityFlags = security
    at hsecured
  have hsecurity : security = vap.bssInfo.security
      ↔ vap.bssInfo.security.mode.Known ∨ changed.toSecurityFlags.decodes = false := by
    rw [← configSecurity_readBack hread hfits.key env ssidIndex changed (by rw [henabled.vapInfo])]
    rw [hsecured.vapInfo]
  have hflags := Edited.configFlags_readBack hsecured hread huapsd
  split
  . next hnone =>
    rw [configSsidBroadcast_none_iff] at hnone
    exact absurd hnone (not_rejects hread changed)
  . next t hsome =>
    have hbroadcast := hflags.configSsidBroadcast_readBack hread hsome
    have ⟨reasons, made, hreasons, hmade, hnone, hcreated⟩ := hbroadcast.configRest_readBack hread hfits env
      ssidIndex ⟨vapMode, vap.toVapInfo, staInfo⟩ hmcast2ucast radioIfname
    refine ⟨made, hmade, ?_⟩
    rw [← hsecurity]
    constructor
    . intro hall
      by_cases hcreates : reasons
      . have heq := hall _ _ (by rw [hcreated hcreates]; exact List.mem_singleton_self _)
        have hinfo := congrArg (fun new => new.vapInfo.bssInfo.security) heq
        exact hinfo
      . -- a column that the mode is decoded for is a reason to create the VAP
        rw [hsecurity]
        apply Or.inr
        rw [← Bool.not_eq_true]
        intro hdecodes
        exact hcreates (hreasons (Or.inl (Or.inl (Or.inr (Or.inr (Or.inl hdecodes))))))
    . intro heq radioIndex new hmem
      by_cases hcreates : reasons
      . rw [hcreated hcreates, List.mem_singleton] at hmem
        injection hmem with _ hnew
        rw [hnew, heq]
        rfl
      . rw [hnone hcreates] at hmem
        contradiction

end

def securedVap : ApVap :=
  { homeVap with
    bssInfo.security := { mode := .wpa2Personal, mfp := .optional, key := cstr "a passphrase" }
    bssid := ⟨2, 0, 0, 0, 0, 1⟩
    radius := { ip := [], port := 0, key := [] }
  }

def securedHalVap : HalVap :=
  { homeHalVap with vapInfo := securedVap.toVapInfo }

def securedLookup : LookupHal :=
  { homeLookup with getRadioVapInfoMap := fun _ => some [securedHalVap] }

theorem initial_config_applied_wpa2
    : ∃ vstate made,
        vifStateGet apBuild apAnswers (fun _ => cstr "key") securedVap = some vstate
          ∧ (targetVifConfigSet2 apBuild.toConfigBuild { homeEnv with lookup := securedLookup }
              (vifCopyToConfig vstate).toVifConf (cstr "wifi0") ⟨[], []⟩
              { VifFlags.unset with wpaKeyMgmt := true, ssid := true } homeState).1.calls
            = homeState.calls ++ made
          ∧ ∀ radioIndex new, (radioIndex, new) ∈ creations made → new = securedHalVap := by
  have hget : ∃ vstate, vifStateGet apBuild apAnswers (fun _ => cstr "key") securedVap = some vstate := by
    exact ⟨_, rfl⟩
  rcases hget with ⟨vstate, hget⟩
  have hread := vifStateGet_readFrom hget
  have hname : vstate.ifName.val = cstr "wl0" := by
    have heq : vstate = (vifStateGet apBuild apAnswers (fun _ => cstr "key") securedVap).getD default := by
      rw [hget]
      rfl
    rw [heq]
    rfl
  have hfind : findVap securedLookup (vifCopyToConfig vstate).toVifConf = some (0, securedHalVap) := by
    unfold findVap vifIfnameToIdx
    have hconf : (vifCopyToConfig vstate).toVifConf.ifName = cstr "wl0" := hname
    rw [hconf]
    decide +kernel
  have ⟨made, hmade, hiff⟩ := initial_config_applied_iff apBuild apAnswers (fun _ => cstr "key") securedVap
    ⟨by decide, by decide, by decide⟩ hget { homeEnv with lookup := securedLookup } 0 rfl (by decide) hfind
    (cstr "wifi0") ⟨[], []⟩ { VifFlags.unset with wpaKeyMgmt := true, ssid := true } rfl rfl homeState
  exact ⟨vstate, made, hget, hmade, hiff.mpr (Or.inl trivial)⟩

structure SecurityUpdate where
  ifName : CStr
  wpa : Int
  pairwise : Option PairwiseCiphers
  wpaKeyMgmt : List CStr
  wpaPsks : List (CStr × CStr)
  pmf : Option CStr

/-- With the name of the radio that `op_vconf` is called with. A map that is unset is empty in the row. -/
def vifExternalSecurityUpdate (unmapIfname : CStr → CStr) (hal : LookupHal)
    (radioIfName : Int → Option CStr) (cachedKeyIds : Int → CStr) (ssidIndex : Int)
    : Option (SecurityUpdate × CStr) :=
  match ssidIndexToVapInfo hal (unsignedInt ssidIndex) with
  | none => none
  | some vap =>
    match hal.getSsidRadioIndex (unsignedInt ssidIndex) with
    | none => none
    | some radioIndex =>
      if radioIndex < 0 then
        none
      else
        match radioIfName radioIndex with
        | none => none
        | some radioIfname =>
          let security := vap.vapInfo.bssInfo.security
          let ifName := unmapIfname vap.vapInfo.vapName
          if security.mode = .none then
            some (
              { ifName, wpa := 0, pairwise := none, wpaKeyMgmt := [], wpaPsks := []
                pmf := some (cstr "disabled") }, radioIfname)
          else
            match securityModeMap.find? (fun entry => entry.1 = security.mode) with
            | none => none
            | some (_, pairwise) =>
              some (
                { ifName, wpa := 1, pairwise := some pairwise
                  wpaKeyMgmt := securityKeyMgmt security.mode
                  wpaPsks := [(cachedKeyIds ssidIndex, security.key)], pmf := none }, radioIfname)

def SecurityConf.update (vconf : SecurityConf) (update : SecurityUpdate) : SecurityConf where
  ifName := update.ifName
  wpa := update.wpa
  wpaKeyMgmt := update.wpaKeyMgmt
  wpaPairwiseTkip := (update.pairwise.map PairwiseCiphers.wpaTkip).getD vconf.wpaPairwiseTkip
  wpaPairwiseCcmp := (update.pairwise.map PairwiseCiphers.wpaCcmp).getD vconf.wpaPairwiseCcmp
  rsnPairwiseTkip := (update.pairwise.map PairwiseCiphers.rsnTkip).getD vconf.rsnPairwiseTkip
  rsnPairwiseCcmp := (update.pairwise.map PairwiseCiphers.rsnCcmp).getD vconf.rsnPairwiseCcmp
  pmf := update.pmf.getD vconf.pmf
  wpaPsks := update.wpaPsks

theorem securityKeyMgmtOvsdbToHal_nil (vconf : SecurityConf) (hnil : vconf.wpaKeyMgmt = [])
    : securityKeyMgmtOvsdbToHal vconf = some .none := by
  rw [securityKeyMgmtOvsdbToHal_none_iff]
  unfold Protects
  simp [hnil]

theorem vifExternalSecurityUpdate_update {unmapIfname : CStr → CStr} {hal : LookupHal}
    {radioIfName : Int → Option CStr} {cachedKeyIds : Int → CStr} {ssidIndex : Int}
    {update : SecurityUpdate} {radioIfname : CStr}
    (hupdate : vifExternalSecurityUpdate unmapIfname hal radioIfName cachedKeyIds ssidIndex
      = some (update, radioIfname))
    {vap : HalVap} (hvap : ssidIndexToVapInfo hal (unsignedInt ssidIndex) = some vap)
    (vconf : SecurityConf)
    : securityKeyMgmtOvsdbToHal (vconf.update update) = some vap.vapInfo.bssInfo.security.mode
        ∧ ((vconf.update update).wpa = 0 → vap.vapInfo.bssInfo.security.mode = .none)
        ∧ (1 ≤ (vconf.update update).wpaPsks.length →
          firstPsk (vconf.update update) = vap.vapInfo.bssInfo.security.key) := by
  unfold vifExternalSecurityUpdate at hupdate
  rw [hvap] at hupdate
  dsimp only at hupdate
  split at hupdate
  . contradiction
  . split at hupdate
    . contradiction
    . split at hupdate
      . contradiction
      . split at hupdate
        . next hmode =>
          injection hupdate with hupdate
          injection hupdate with hupdate
          rw [← hupdate, hmode]
          exact ⟨securityKeyMgmtOvsdbToHal_nil _ rfl, fun _ => rfl, fun hsome => by contradiction⟩
        . split at hupdate
          . contradiction
          . next entry pairwise hfind =>
            injection hupdate with hupdate
            injection hupdate with hupdate
            rw [← hupdate]
            refine ⟨?_, fun hzero => absurd (show (1 : Int) = 0 from hzero) (by decide), fun _ => rfl⟩
            have hmem := List.mem_of_find?_eq_some hfind
            have hentry : entry = vap.vapInfo.bssInfo.security.mode := by
              simpa using List.find?_some hfind
            rw [hentry] at hmem
            generalize vap.vapInfo.bssInfo.security.mode = mode at hmem ⊢
            simp only [securityModeMap, List.mem_cons, Prod.mk.injEq, List.not_mem_nil, or_false] at hmem
            rcases hmem with ⟨rfl, rfl⟩ | ⟨rfl, rfl⟩ | ⟨rfl, rfl⟩ | ⟨rfl, rfl⟩ | ⟨rfl, rfl⟩ | ⟨rfl, rfl⟩
            all_goals rfl

theorem external_security_applied_iff (build : Build) {unmapIfname : CStr → CStr} {hal : LookupHal}
    {radioIfName : Int → Option CStr} {cachedKeyIds : Int → CStr} {ssidIndex : Int}
    {update : SecurityUpdate} {radioIfname : CStr}
    (hupdate : vifExternalSecurityUpdate unmapIfname hal radioIfName cachedKeyIds ssidIndex
      = some (update, radioIfname))
    {vap : HalVap} (hvap : ssidIndexToVapInfo hal (unsignedInt ssidIndex) = some vap)
    (hkey : vap.vapInfo.bssInfo.security.key.length < build.keySize) (vconf : SecurityConf)
    (changed : SecurityFlags) (pushOk : Bool) (s : State)
    (hsecurity : s.security = vap.vapInfo.bssInfo.security)
    : (setSecurity build ssidIndex (vconf.update update) changed pushOk s).security = s.security
        ↔
      (changed.wpa = true ∧ update.wpa = 0)
        ∨ changed.decodes = false
        ∨ mfpOf (update.pmf.getD vconf.pmf) = vap.vapInfo.bssInfo.security.mfp := by
  have ⟨hmode, hwpa, hfirst⟩ := vifExternalSecurityUpdate_update hupdate hvap vconf
  have hpsk (hsome : 1 ≤ (vconf.update update).wpaPsks.length)
      : strscpy build.keySize (firstPsk (vconf.update update)) = s.security.key := by
    rw [hfirst hsome, hsecurity]
    exact strscpy_of_lt hkey
  rw [setSecurity_eq_iff build ssidIndex changed pushOk s hmode hpsk, hsecurity]
  split
  . next hoff =>
    have hturns : changed.wpa = true ∧ update.wpa = 0 := hoff
    simp [hwpa hoff.2, hturns]
  . next hoff =>
    have hturns : ¬(changed.wpa = true ∧ update.wpa = 0) := hoff
    have hpmf : (vconf.update update).pmf = update.pmf.getD vconf.pmf := rfl
    rw [hpmf]
    simp only [hturns, false_or, true_and]
    cases changed.decodes <;> simp

theorem external_security_applied_wpa2
    : let update : SecurityUpdate :=
        { ifName := cstr "wl0", wpa := 1, pairwise := some ⟨false, false, false, true⟩
          wpaKeyMgmt := [keyMgmtWpaPsk], wpaPsks := [(cstr "key", cstr "a passphrase")], pmf := none }
      let vconf : SecurityConf := { (homeConf []).toSecurityConf with pmf := pmfOptional }
      let s : State :=
        { security := securedVap.bssInfo.security, triggerReconfig := false
          cachedKeyIds := fun _ => cstr "key", pushed := [], synced := [] }
      (setSecurity rdkBuild.security 0 (vconf.update update) ⟨true, true, true, true, true, true, true, true⟩
        true s).security = s.security := by
  intro update vconf s
  have hupdate : vifExternalSecurityUpdate id securedLookup (fun _ => some (cstr "wifi0"))
      (fun _ => cstr "key") 0 = some (update, cstr "wifi0") := by
    rfl
  have hvap : ssidIndexToVapInfo securedLookup (unsignedInt 0) = some securedHalVap := by
    rfl
  have hiff := external_security_applied_iff rdkBuild.security hupdate hvap (by decide) vconf
    ⟨true, true, true, true, true, true, true, true⟩ true s rfl
  exact hiff.mpr (Or.inr (Or.inr rfl))

end Vif
end OpenSyncRdk
