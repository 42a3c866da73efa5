import OpenSyncRdk.Lib.Columns
import OpenSyncRdk.Vif.AclMac
import OpenSyncRdk.Vif.PasswordAtomic

/-!
The `Wifi_VIF_Config` that is made from a `Wifi_VIF_State` at the start, `vif.c`: `vif_ap_state_get` fills
the row of the state from the wifi HAL, and `vif_copy_to_config` makes the row of the configuration from it.
-/

namespace OpenSyncRdk
namespace Vif

open Clients (MacAddr)

structure VifState where
  ifName : Column CStr
  mode : Column CStr
  channel : Column Nat
  enabled : Column Bool
  wds : Column Bool
  ssid : Column CStr
  apBridge : Column Bool
  ssidBroadcast : Column CStr
  mac : Column CStr
  rrm : Column Bool
  btm : Column Bool
  uapsdEnable : Column Bool
  bridge : Column CStr
  pmf : Column CStr
  wpa : Column Int
  wpaPairwiseTkip : Column Bool
  wpaPairwiseCcmp : Column Bool
  rsnPairwiseTkip : Column Bool
  rsnPairwiseCcmp : Column Bool
  wpaKeyMgmt : List CStr
  wpaPsks : List (CStr × CStr)
  radiusSrvAddr : Column CStr
  radiusSrvPort : Column Int
  radiusSrvSecret : Column CStr
  macListType : Column CStr
  macListPresent : Bool
  macList : List CStr
  wps : Column Bool
  wpsPbc : Column Bool
  wpsPbcKeyId : Column CStr
  multiAp : Column CStr
  apVlanStaAddr : Column CStr
  mcast2ucast : Column Bool
  deriving DecidableEq, Inhabited

structure VifConfigRow where
  ifName : Column CStr
  mode : Column CStr
  enabled : Column Bool
  bridge : Column CStr
  apBridge : Column Bool
  wds : Column Bool
  ssidBroadcast : Column CStr
  ssid : Column CStr
  rrm : Column Bool
  btm : Column Bool
  uapsdEnable : Column Bool
  wps : Column Bool
  wpsPbc : Column Bool
  wpsPbcKeyId : Column CStr
  wpa : Column Int
  wpaKeyMgmt : List CStr
  wpaPsks : List (CStr × CStr)
  radiusSrvAddr : Column CStr
  radiusSrvPort : Column Int
  radiusSrvSecret : Column CStr
  wpaPairwiseTkip : Column Bool
  wpaPairwiseCcmp : Column Bool
  rsnPairwiseTkip : Column Bool
  rsnPairwiseCcmp : Column Bool
  pmf : Column CStr
  macListType : Column CStr
  macListPresent : Bool
  macList : List CStr
  multiAp : Column CStr
  mcast2ucast : Column Bool
  deriving DecidableEq, Inhabited

structure RadiusSettings where
  ip : CStr
  port : Int
  key : CStr

structure ApVap extends VapInfo where
  bssid : MacAddr
  radius : RadiusSettings

inductive AclDevices where
  | text (aclBuf : Option CStr)
  | macs (aclList : Option (List MacAddr))

def AclDevices.isText : AclDevices → Bool
  | .text _ => true
  | .macs _ => false

structure ApAnswers where
  ssidRadioIndex : Option Int
  radioChannel : Option Nat
  multiPskKeys : Option (List (CStr × CStr))
  aclDevices : AclDevices
  wpsEnable : Option Bool
  -- whether the status is `WIFI_WPS_EVENT_ACTIVE`
  wpsButtonPushActive : Option Bool
  wpsKeyId : Option CStr
  -- within, `none` for a type that `map_device_type` does not have
  multiApDeviceType : Option (Option MultiApDeviceType)
  multiApVlanStaAddr : Option CStr
  apModeVlan : Option Bool

structure ApBuild extends ConfigBuild where
  unmapIfname : CStr → CStr
  -- what `snprintf` prints under `MAC_ADDRESS_FORMAT`
  macAddressFormat : MacAddr → CStr

structure PairwiseCiphers where
  wpaTkip : Bool
  wpaCcmp : Bool
  rsnTkip : Bool
  rsnCcmp : Bool

def securityModeMap : List (SecurityMode × PairwiseCiphers) :=
  [
    (.wpaPersonal, ⟨true, true, false, false⟩),
    (.wpaWpa2Personal, ⟨true, true, true, true⟩),
    (.wpa2Personal, ⟨false, false, false, true⟩),
    (.wpa2Enterprise, ⟨false, false, false, true⟩),
    (.wpa3Transition, ⟨false, false, false, true⟩),
    (.wpa3Personal, ⟨false, false, false, true⟩)
  ]

def mapDeviceType : List (MultiApDeviceType × CStr) :=
  [
    (.none, cstr "none"),
    (.fronthaulBss, cstr "fronthaul_bss"),
    (.backhaulBss, cstr "backhaul_bss"),
    (.fronthaulBackhaulBss, cstr "fronthaul_backhaul_bss"),
    (.backhaulSta, cstr "backhaul_sta")
  ]

def getChannel (hal : ApAnswers) (vstate : VifState) : Option VifState :=
  match hal.ssidRadioIndex, hal.radioChannel with
  | some _, some channel =>
    if channel = 0 then some vstate else some { vstate with channel := .set channel }
  | _, _ => none

def securityKeyMgmt : SecurityMode → List CStr
  | .wpaPersonal | .wpa2Personal | .wpaWpa2Personal => [keyMgmtWpaPsk]
  | .wpa3Personal => [keyMgmtSae]
  | .wpa3Transition => [keyMgmtWpaPsk, keyMgmtSae]
  | .wpa2Enterprise => [keyMgmtWpaEap]
  | _ => []

def securityKeyMgmtHalToOvsdb (mode : SecurityMode) (vstate : VifState) : VifState × Bool :=
  match securityModeMap.find? (fun entry => entry.1 = mode) with
  | none => (vstate, false)
  | some (_, pairwise) =>
    ({ vstate with
       wpaPairwiseTkip := .set pairwise.wpaTkip
       wpaPairwiseCcmp := .set pairwise.wpaCcmp
       rsnPairwiseTkip := .set pairwise.rsnTkip
       rsnPairwiseCcmp := .set pairwise.rsnCcmp
       wpaKeyMgmt := vstate.wpaKeyMgmt ++ securityKeyMgmt mode
     }, true)

def pmfStr : Mfp → CStr
  | .optional => pmfOptional
  | .required => pmfRequired
  | .disabled => cstr "disabled"

def getSecurity (build : ApBuild) (hal : ApAnswers) (cachedKeyIds : Int → CStr) (vap : ApVap)
    (vstate : VifState) : VifState :=
  let security := vap.bssInfo.security
  let vstate := { vstate with pmf := .set (pmfStr security.mfp) }
  if security.mode = .none then
    { vstate with wpa := .set 0 }
  else
    match securityKeyMgmtHalToOvsdb security.mode { vstate with wpa := .set 1 } with
    | (vstate, false) => vstate
    | (vstate, true) =>
      if security.mode = .wpa2Enterprise then
        { vstate with
          radiusSrvAddr := .set vap.radius.ip
          radiusSrvPort := .set vap.radius.port
          radiusSrvSecret := .set vap.radius.key
        }
      else
        let psks := getPsks build.security cachedKeyIds vap.vapIndex security.key hal.multiPskKeys
          vstate.wpaPsks
        { vstate with wpaPsks := psks.1 }

def appendAcl (devices : AclDevices) (vstate : VifState) : VifState :=
  match devices with
  | .macs none => vstate
  | .macs (some aclList) =>
    { vstate with
      macListPresent := true
      macList := vstate.macList ++ aclList.map (snprintfMac macStrLen)
    }
  | .text none => vstate
  | .text (some aclBuf) =>
    if aclBufSize ≤ aclBuf.length then
      vstate
    else
      { vstate with
        macListPresent := true
        macList := vstate.macList
          ++ (words macListSeparator aclBuf).filter (fun p => p.length = macStrLen - 1)
      }

def VifState.aclToState (build : AclBuild) (devices : AclDevices) (vap : VapInfo) (vstate : VifState)
    : VifState :=
  if devices.isText ∧ ¬build.syncExtHomeAcls ∧ isHomeAp build.radio vap.vapName then
    vstate
  else if vap.bssInfo.macFilterEnable then
    let vstate := { vstate with macListType := .set (aclModeStr vap.bssInfo.macFilterMode) }
    if vstate.macListType.val.length = 0 then vstate else appendAcl devices vstate
  else
    appendAcl devices { vstate with macListType := .set noneMacListType }

def setIfSome {α : Type} (answer : Option α) (column : Column α) : Column α :=
  match answer with
  | none => column
  | some val => .set val

def wpsToState (hal : ApAnswers) (vstate : VifState) : VifState :=
  { vstate with
    wps := setIfSome hal.wpsEnable vstate.wps
    wpsPbc := setIfSome hal.wpsButtonPushActive vstate.wpsPbc
    wpsPbcKeyId := setIfSome hal.wpsKeyId vstate.wpsPbcKeyId
  }

def multiApToState (hal : ApAnswers) (vstate : VifState) : VifState :=
  match hal.multiApDeviceType with
  | none => vstate
  | some deviceType =>
    let citem := deviceType.bind (fun deviceType => mapDeviceType.find? (fun citem => citem.1 = deviceType))
    { vstate with
      multiAp := setIfSome (citem.map Prod.snd) vstate.multiAp
      apVlanStaAddr := setIfSome hal.multiApVlanStaAddr vstate.apVlanStaAddr
      mode := if hal.apModeVlan = some true then .set (cstr "ap_vlan") else vstate.mode
    }

/-- What `vif_ap_state_get` sets between the channel and the security settings. -/
def setApColumns (build : ApBuild) (vap : ApVap) (ssidBroadcast : CStr) (vstate : VifState)
    : VifState :=
  { vstate with
    enabled := .set vap.bssInfo.enabled
    mode := .set (cstr "ap")
    wds := .set false
    ssid := .set vap.bssInfo.ssid
    apBridge := .set !vap.bssInfo.isolation
    ssidBroadcast := .set ssidBroadcast
    mac := .set (build.macAddressFormat vap.bssid)
    rrm := .set vap.bssInfo.nbrReportActivated
    btm := .set vap.bssInfo.bssTransitionActivated
    uapsdEnable := .set vap.bssInfo.uapsdEnabled
    bridge :=
      if vap.bridgeName.length > 0 then
        .set vap.bridgeName
      else
        { vstate.bridge with present := false }
  }

def vifApStateGet (build : ApBuild) (hal : ApAnswers) (cachedKeyIds : Int → CStr) (vap : ApVap)
    (vstate : VifState) : Option VifState :=
  match getChannel hal vstate with
  | none => none
  | some vstate =>
    match mapEnableDisable.find? (fun citem => citem.1 = vap.bssInfo.showSsid) with
    | none => none
    | some citem =>
      let vstate := setApColumns build vap citem.2 vstate
      let vstate := getSecurity build hal cachedKeyIds vap vstate
      let vstate := vstate.aclToState build.acl hal.aclDevices vap.toVapInfo
      let vstate := if build.wpsSupport then wpsToState hal vstate else vstate
      let vstate := if build.multiApSupport then multiApToState hal vstate else vstate
      some { vstate with mcast2ucast := .set vap.bssInfo.mcast2ucast }

def vifStateGet (build : ApBuild) (hal : ApAnswers) (cachedKeyIds : Int → CStr) (vap : ApVap)
    : Option VifState :=
  vifApStateGet build hal cachedKeyIds vap
    { (default : VifState) with ifName := .set (build.unmapIfname vap.vapName) }

/-- `vif_copy_to_config`, which tests the flags of some columns in the row that it has just cleared. -/
def vifCopyToConfig (vstate : VifState) : VifConfigRow :=
  let vconf : VifConfigRow := default
  { vconf with
    ifName := .set vstate.ifName.val
    mode := .set vstate.mode.val
    enabled := .set vstate.enabled.val
    bridge := vstate.bridge.copyIf vconf.bridge
    apBridge := .set vstate.apBridge.val
    wds := .set vstate.wds.val
    ssidBroadcast := .set vstate.ssidBroadcast.val
    ssid := .set vstate.ssid.val
    rrm := .set vstate.rrm.val
    btm := .set vstate.btm.val
    uapsdEnable := if vconf.uapsdEnable.present then .set vstate.uapsdEnable.val else vconf.uapsdEnable
    wps := if vconf.wps.present then .set vstate.wps.val else vconf.wps
    wpsPbc := if vconf.wpsPbc.present then .set vstate.wpsPbc.val else vconf.wpsPbc
    wpsPbcKeyId := if vconf.wpsPbcKeyId.present then .set vstate.wpsPbcKeyId.val else vconf.wpsPbcKeyId
    wpa := .set vstate.wpa.val
    wpaKeyMgmt := vconf.wpaKeyMgmt ++ vstate.wpaKeyMgmt
    wpaPsks := vconf.wpaPsks ++ vstate.wpaPsks
    radiusSrvAddr := vstate.radiusSrvAddr.copyIf vconf.radiusSrvAddr
    radiusSrvPort := vstate.radiusSrvPort.copyIf vconf.radiusSrvPort
    radiusSrvSecret := vstate.radiusSrvSecret.copyIf vconf.radiusSrvSecret
    wpaPairwiseTkip := .set vstate.wpaPairwiseTkip.val
    wpaPairwiseCcmp := .set vstate.wpaPairwiseCcmp.val
    rsnPairwiseTkip := .set vstate.rsnPairwiseTkip.val
    rsnPairwiseCcmp := .set vstate.rsnPairwiseCcmp.val
    pmf := .set vstate.pmf.val
    macListType := vstate.macListType.copyIf vconf.macListType
    macListPresent := vstate.macListPresent
    macList := vconf.macList ++ vstate.macList
  }

structure MirrorsState (vstate : VifState) (vconf : VifConfigRow) : Prop where
  ifName : vstate.ifName.Mirrors vconf.ifName
  mode : vstate.mode.Mirrors vconf.mode
  enabled : vstate.enabled.Mirrors vconf.enabled
  bridge : vstate.bridge.Mirrors vconf.bridge
  apBridge : vstate.apBridge.Mirrors vconf.apBridge
  wds : vstate.wds.Mirrors vconf.wds
  ssidBroadcast : vstate.ssidBroadcast.Mirrors vconf.ssidBroadcast
  ssid : vstate.ssid.Mirrors vconf.ssid
  rrm : vstate.rrm.Mirrors vconf.rrm
  btm : vstate.btm.Mirrors vconf.btm
  uapsdEnable : vstate.uapsdEnable.Mirrors vconf.uapsdEnable
  wps : vstate.wps.Mirrors vconf.wps
  wpsPbc : vstate.wpsPbc.Mirrors vconf.wpsPbc
  wpsPbcKeyId : vstate.wpsPbcKeyId.Mirrors vconf.wpsPbcKeyId
  wpa : vstate.wpa.Mirrors vconf.wpa
  wpaKeyMgmt : vconf.wpaKeyMgmt = vstate.wpaKeyMgmt
  wpaPsks : vconf.wpaPsks = vstate.wpaPsks
  radiusSrvAddr : vstate.radiusSrvAddr.Mirrors vconf.radiusSrvAddr
  radiusSrvPort : vstate.radiusSrvPort.Mirrors vconf.radiusSrvPort
  radiusSrvSecret : vstate.radiusSrvSecret.Mirrors vconf.radiusSrvSecret
  wpaPairwiseTkip : vstate.wpaPairwiseTkip.Mirrors vconf.wpaPairwiseTkip
  wpaPairwiseCcmp : vstate.wpaPairwiseCcmp.Mirrors vconf.wpaPairwiseCcmp
  rsnPairwiseTkip : vstate.rsnPairwiseTkip.Mirrors vconf.rsnPairwiseTkip
  rsnPairwiseCcmp : vstate.rsnPairwiseCcmp.Mirrors vconf.rsnPairwiseCcmp
  pmf : vstate.pmf.Mirrors vconf.pmf
  macListType : vstate.macListType.Mirrors vconf.macListType
  macListPresent : vconf.macListPresent = vstate.macListPresent
  macList : vconf.macList = vstate.macList
  multiAp : vstate.multiAp.Mirrors vconf.multiAp
  mcast2ucast : vstate.mcast2ucast.Mirrors vconf.mcast2ucast

/-- The columns that `vif_copy_to_config` never takes over. -/
structure VifState.LacksDropped (vstate : VifState) : Prop where
  uapsdEnable : vstate.uapsdEnable.present = false
  wps : vstate.wps.present = false
  wpsPbc : vstate.wpsPbc.present = false
  wpsPbcKeyId : vstate.wpsPbcKeyId.present = false
  multiAp : vstate.multiAp.present = false
  mcast2ucast : vstate.mcast2ucast.present = false

/-- The columns that `vif_copy_to_config` takes over without a look at their flags. -/
structure VifState.HasUnguarded (vstate : VifState) : Prop where
  ifName : vstate.ifName.present = true
  mode : vstate.mode.present = true
  enabled : vstate.enabled.present = true
  apBridge : vstate.apBridge.present = true
  wds : vstate.wds.present = true
  ssidBroadcast : vstate.ssidBroadcast.present = true
  ssid : vstate.ssid.present = true
  rrm : vstate.rrm.present = true
  btm : vstate.btm.present = true
  wpa : vstate.wpa.present = true
  wpaPairwiseTkip : vstate.wpaPairwiseTkip.present = true
  wpaPairwiseCcmp : vstate.wpaPairwiseCcmp.present = true
  rsnPairwiseTkip : vstate.rsnPairwiseTkip.present = true
  rsnPairwiseCcmp : vstate.rsnPairwiseCcmp.present = true
  pmf : vstate.pmf.present = true

open Column (mirrors_set_iff mirrors_unset_iff mirrors_copyIf)

theorem mirrorsState_vifCopyToConfig_iff (vstate : VifState)
    : MirrorsState vstate (vifCopyToConfig vstate) ↔ vstate.LacksDropped ∧ vstate.HasUnguarded := by
  constructor
  . intro hmirrors
    constructor
    . exact
        { uapsdEnable := (mirrors_unset_iff _).mp hmirrors.uapsdEnable
          wps := (mirrors_unset_iff _).mp hmirrors.wps
          wpsPbc := (mirrors_unset_iff _).mp hmirrors.wpsPbc
          wpsPbcKeyId := (mirrors_unset_iff _).mp hmirrors.wpsPbcKeyId
          multiAp := (mirrors_unset_iff _).mp hmirrors.multiAp
          mcast2ucast := (mirrors_unset_iff _).mp hmirrors.mcast2ucast
        }
    . constructor
      case ifName => exact (mirrors_set_iff _).mp hmirrors.ifName
      case mode => exact (mirrors_set_iff _).mp hmirrors.mode
      case enabled => exact (mirrors_set_iff _).mp hmirrors.enabled
      case apBridge => exact (mirrors_set_iff _).mp hmirrors.apBridge
      case wds => exact (mirrors_set_iff _).mp hmirrors.wds
      case ssidBroadcast => exact (mirrors_set_iff _).mp hmirrors.ssidBroadcast
      case ssid => exact (mirrors_set_iff _).mp hmirrors.ssid
      case rrm => exact (mirrors_set_iff _).mp hmirrors.rrm
      case btm => exact (mirrors_set_iff _).mp hmirrors.btm
      case wpa => exact (mirrors_set_iff _).mp hmirrors.wpa
      case wpaPairwiseTkip => exact (mirrors_set_iff _).mp hmirrors.wpaPairwiseTkip
      case wpaPairwiseCcmp => exact (mirrors_set_iff _).mp hmirrors.wpaPairwiseCcmp
      case rsnPairwiseTkip => exact (mirrors_set_iff _).mp hmirrors.rsnPairwiseTkip
      case rsnPairwiseCcmp => exact (mirrors_set_iff _).mp hmirrors.rsnPairwiseCcmp
      case pmf => exact (mirrors_set_iff _).mp hmirrors.pmf
  . intro ⟨hdropped, hunguarded⟩
    constructor
    case bridge => exact mirrors_copyIf _
    case radiusSrvAddr => exact mirrors_copyIf _
    case radiusSrvPort => exact mirrors_copyIf _
    case radiusSrvSecret => exact mirrors_copyIf _
    case macListType => exact mirrors_copyIf _
    case uapsdEnable => exact (mirrors_unset_iff _).mpr hdropped.uapsdEnable
    case wps => exact (mirrors_unset_iff _).mpr hdropped.wps
    case wpsPbc => exact (mirrors_unset_iff _).mpr hdropped.wpsPbc
    case wpsPbcKeyId => exact (mirrors_unset_iff _).mpr hdropped.wpsPbcKeyId
    case multiAp => exact (mirrors_unset_iff _).mpr hdropped.multiAp
    case mcast2ucast => exact (mirrors_unset_iff _).mpr hdropped.mcast2ucast
    case wpaKeyMgmt => rfl
    case wpaPsks => rfl
    case macListPresent => rfl
    case macList => rfl
    all_goals apply (mirrors_set_iff _).mpr
    . exact hunguarded.ifName
    . exact hunguarded.mode
    . exact hunguarded.enabled
    . exact hunguarded.apBridge
    . exact hunguarded.wds
    . exact hunguarded.ssidBroadcast
    . exact hunguarded.ssid
    . exact hunguarded.rrm
    . exact hunguarded.btm
    . exact hunguarded.wpa
    . exact hunguarded.wpaPairwiseTkip
    . exact hunguarded.wpaPairwiseCcmp
    . exact hunguarded.rsnPairwiseTkip
    . exact hunguarded.rsnPairwiseCcmp
    . exact hunguarded.pmf

theorem securityKeyMgmtHalToOvsdb_uapsdEnable (mode : SecurityMode) (vstate : VifState)
    : (securityKeyMgmtHalToOvsdb mode vstate).1.uapsdEnable = vstate.uapsdEnable := by
  unfold securityKeyMgmtHalToOvsdb
  split
  . rfl
  . rfl

theorem getSecurity_uapsdEnable (build : ApBuild) (hal : ApAnswers) (cachedKeyIds : Int → CStr)
    (vap : ApVap) (vstate : VifState)
    : (getSecurity build hal cachedKeyIds vap vstate).uapsdEnable = vstate.uapsdEnable := by
  unfold getSecurity
  dsimp only
  split
  . rfl
  . have hkept := securityKeyMgmtHalToOvsdb_uapsdEnable vap.bssInfo.security.mode
      { vstate with pmf := .set (pmfStr vap.bssInfo.security.mfp), wpa := .set 1 }
    split
    . next heq =>
      rw [heq] at hkept
      exact hkept
    . next heq =>
      rw [heq] at hkept
      split
      . exact hkept
      . exact hkept

theorem appendAcl_uapsdEnable (devices : AclDevices) (vstate : VifState)
    : (appendAcl devices vstate).uapsdEnable = vstate.uapsdEnable := by
  unfold appendAcl
  split
  . rfl
  . rfl
  . rfl
  . split
    . rfl
    . rfl

theorem aclToState_uapsdEnable (build : AclBuild) (devices : AclDevices) (vap : VapInfo)
    (vstate : VifState)
    : (vstate.aclToState build devices vap).uapsdEnable = vstate.uapsdEnable := by
  unfold VifState.aclToState
  split
  . rfl
  . split
    . dsimp only
      split
      . rfl
      . rw [appendAcl_uapsdEnable]
    . rw [appendAcl_uapsdEnable]

theorem wpsToState_uapsdEnable (hal : ApAnswers) (vstate : VifState)
    : (wpsToState hal vstate).uapsdEnable = vstate.uapsdEnable := by
  rfl

theorem multiApToState_uapsdEnable (hal : ApAnswers) (vstate : VifState)
    : (multiApToState hal vstate).uapsdEnable = vstate.uapsdEnable := by
  unfold multiApToState
  split
  . rfl
  . rfl

theorem vifApStateGet_uapsdEnable {build : ApBuild} {hal : ApAnswers} {cachedKeyIds : Int → CStr}
    {vap : ApVap} {vstate t : VifState}
    (hget : vifApStateGet build hal cachedKeyIds vap vstate = some t)
    : t.uapsdEnable = .set vap.bssInfo.uapsdEnabled := by
  unfold vifApStateGet at hget
  split at hget
  . contradiction
  . split at hget
    . contradiction
    . injection hget with hget
      rw [← hget]
      dsimp only
      have hwhen : ∀ (supported : Bool) (s u : VifState), s.uapsdEnable = u.uapsdEnable →
          (if supported then s else u).uapsdEnable = u.uapsdEnable := by
        intro supported s u hsame
        split
        . exact hsame
        . rfl
      rw [hwhen _ _ _ (multiApToState_uapsdEnable hal _),
        hwhen _ _ _ (wpsToState_uapsdEnable hal _), aclToState_uapsdEnable, getSecurity_uapsdEnable]
      rfl

theorem not_mirrorsState_of_uapsdEnable {vstate : VifState} (huapsd : vstate.uapsdEnable.present = true)
    : ¬MirrorsState vstate (vifCopyToConfig vstate) := by
  rw [mirrorsState_vifCopyToConfig_iff]
  intro ⟨hdropped, _⟩
  rw [hdropped.uapsdEnable] at huapsd
  contradiction

/-- Every state of an AP has `uapsd_enable`, and the initial configuration has it for none of them. -/
theorem vif_copy_to_config_never_mirrors (build : ApBuild) (hal : ApAnswers)
    (cachedKeyIds : Int → CStr) (vap : ApVap) (vstate t : VifState)
    (hget : vifApStateGet build hal cachedKeyIds vap vstate = some t)
    : ¬MirrorsState t (vifCopyToConfig t) := by
  apply not_mirrorsState_of_uapsdEnable
  rw [vifApStateGet_uapsdEnable hget]
  rfl

def apBuild : ApBuild :=
  { rdkBuild with unmapIfname := id, macAddressFormat := fun mac => snprintfMac macStrLen mac }

def apAnswers : ApAnswers :=
  { ssidRadioIndex := some 0, radioChannel := some 6, multiPskKeys := some []
    aclDevices := .text (some (cstr "02:00:00:00:00:01")), wpsEnable := some true
    wpsButtonPushActive := some false, wpsKeyId := some (cstr "key-1"), multiApDeviceType := none
    multiApVlanStaAddr := none, apModeVlan := none
  }

def homeApVap : ApVap :=
  { homeVap with
    bssInfo.uapsdEnabled := true
    bssid := ⟨2, 0, 0, 0, 0, 1⟩
    radius := { ip := [], port := 0, key := [] }
  }

theorem vif_copy_to_config_drops_uapsd
    : ∃ vstate, vifStateGet apBuild apAnswers (fun _ => []) homeApVap = some vstate
        ∧ vstate.uapsdEnable.toOption = some true
        ∧ (vifCopyToConfig vstate).uapsdEnable.toOption = none
        ∧ ¬MirrorsState vstate (vifCopyToConfig vstate) := by
  refine ⟨_, rfl, rfl, rfl, ?_⟩
  apply not_mirrorsState_of_uapsdEnable
  rfl

theorem vif_copy_to_config_never_mirrors_home
    : ∃ vstate, vifStateGet apBuild apAnswers (fun _ => []) homeApVap = some vstate
        ∧ ¬MirrorsState vstate (vifCopyToConfig vstate) := by
  have hget : ∃ vstate, vifStateGet apBuild apAnswers (fun _ => []) homeApVap = some vstate := by
    exact ⟨_, rfl⟩
  rcases hget with ⟨vstate, hget⟩
  exact ⟨vstate, hget, vif_copy_to_config_never_mirrors apBuild apAnswers _ homeApVap _ vstate hget⟩

end Vif
end OpenSyncRdk
