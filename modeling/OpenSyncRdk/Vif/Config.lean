import OpenSyncRdk.Vif.AclMac
import OpenSyncRdk.Vif.Deferred

/-!
`target_vif_config_set2`, `vif.c`: how a changed `Wifi_VIF_Config` is brought to the wifi HAL. The HAL's
functions that set something are logged in `calls`, whatever they return.
-/

namespace OpenSyncRdk
namespace Vif

open Clients (MacAddr)

inductive VapMode where
  | ap
  | sta
  | other (val : Nat)
  deriving DecidableEq

inductive Encryption where
  | tkip
  | aes
  | aesTkip
  | other (val : Nat)
  deriving DecidableEq

inductive SecurityKeyType where
  | psk
  | other (val : Nat)
  deriving DecidableEq

structure StaSecurity where
  mode : SecurityMode
  encr : Encryption
  keyType : SecurityKeyType
  key : CStr
  deriving DecidableEq

structure StaInfo where
  enabled : Bool
  ssid : CStr
  bssid : MacAddr
  security : StaSecurity
  deriving DecidableEq

/-- An entry of `wifi_vap_info_map_t`. Both views of its union are here, `vapMode` says which one counts. -/
structure HalVap where
  vapMode : VapMode
  vapInfo : VapInfo
  staInfo : StaInfo
  deriving DecidableEq

inductive MultiApDeviceType where
  | none
  | fronthaulBss
  | backhaulBss
  | fronthaulBackhaulBss
  | backhaulSta
  deriving DecidableEq

inductive SetterCall where
  | createVap (radioIndex : Int) (vap : HalVap)
  | pushMultiPskKeys (index : Int) (keys : List (CStr × CStr))
  | acl (call : AclCall)
  | aclMac (call : AclMacCall)
  | cancelApWps (index : Int)
  | setApWpsEnable (index : Int) (enable : Bool)
  | setApWpsConfigMethodsEnabled (index : Int) (methods : CStr)
  | setApWpsButtonPushKeyId (index : Int) (keyId : CStr)
  | setMultiApDeviceType (index : Int) (deviceType : MultiApDeviceType)
  deriving DecidableEq

inductive SyncMsg where
  | security (sec : MeshWifiAPSecurity)
  | ssidAdvertise (index : Int) (enable : Bool)
  | ssidName (index : Int) (ssid : CStr)
  deriving DecidableEq

inductive AclBackend (η : Type) where
  | strings (hal : AclHal η)
  | macs (hal : AclMacHal η)

structure ConfigBuild where
  security : Build
  acl : AclBuild
  wpsSupport : Bool
  multiApSupport : Bool
  vifStateUpdateDelay : Int
  -- the sizes of the buffers of the HAL and of the Mesh-Agent's message
  ssidSize : Nat
  bridgeNameSize : Nat
  syncSsidSize : Nat

structure VifConf extends SecurityConf, AclConf where
  enabled : Bool
  apBridge : Bool
  rrm : Bool
  btm : Bool
  uapsdEnable : Bool
  ssidBroadcast : CStr
  ssid : CStr
  bridge : CStr
  wps : Bool
  wpsPbc : Bool
  wpsPbcKeyId : CStr
  multiAp : CStr
  mcast2ucast : Bool
  security : List (CStr × CStr)
  parent : CStr

structure VifFlags extends SecurityFlags, AclFlags where
  enabled : Bool
  apBridge : Bool
  rrm : Bool
  btm : Bool
  uapsdEnable : Bool
  ssidBroadcast : Bool
  ssid : Bool
  bridge : Bool
  wps : Bool
  wpsPbc : Bool
  wpsPbcKeyId : Bool
  multiAp : Bool
  mcast2ucast : Bool
  security : Bool
  parent : Bool

structure CredentialConf where
  ssid : CStr
  security : List (CStr × CStr)

structure LookupHal where
  interfaceMap : Option (List (CStr × Int))
  getSsidRadioIndex : Nat → Option Int
  getRadioVapInfoMap : Int → Option (List HalVap)

structure ConfigEnv (η : Type) where
  lookup : LookupHal
  staLookup : LookupHal
  acl : AclBackend η
  mcast2ucastSupported : Int → Option Bool
  pushMultiPskKeysOk : Bool
  setApWpsEnableOk : Bool
  setApWpsConfigMethodsEnabledOk : Bool
  syncSecurityOk : Bool
  syncSsidBroadcastOk : Bool
  syncSsidOk : Bool
  vifStateUpdateOk : Bool

structure ConfigState (η : Type) where
  hal : η
  calls : List SetterCall
  cachedKeyIds : Int → CStr
  sent : List SyncMsg
  -- the interface and the radio of the `Wifi_VIF_Config` rows whose `wps_pbc` is unset
  pbcUpdates : List (CStr × CStr)
  deferred : Deferred

abbrev Configuring (η : Type) := AclApplied (ConfigState η)

def mapEnableDisable : List (Bool × CStr) :=
  [(true, cstr "enabled"), (false, cstr "disabled")]

def ssidBroadcastItem (vconf : VifConf) : Option (Bool × CStr) :=
  mapEnableDisable.find? (fun citem => citem.2 = vconf.ssidBroadcast)

def vifIfnameToIdx (hal : LookupHal) (ifname : CStr) : Option Int :=
  match hal.interfaceMap with
  | none => none
  | some map => (map.find? (fun entry => entry.1 = ifname)).map Prod.snd

def ssidIndexToVapInfo (hal : LookupHal) (ssidIndex : Nat) : Option HalVap :=
  match hal.getSsidRadioIndex ssidIndex with
  | none => none
  | some radioIdx =>
    match hal.getRadioVapInfoMap radioIdx with
    | none => none
    | some map => map.find? (fun vap => vap.vapInfo.vapIndex = ssidIndex)

def findVap (hal : LookupHal) (vconf : VifConf) : Option (Int × HalVap) :=
  match vifIfnameToIdx hal vconf.ifName with
  | none => none
  | some ssidIndex => (ssidIndexToVapInfo hal (unsignedInt ssidIndex)).map (fun vap => (ssidIndex, vap))

def schemaKeyVal (map : List (CStr × CStr)) (key : CStr) : CStr :=
  match map.find? (fun entry => entry.1 = key) with
  | none => []
  | some entry => entry.2

section

variable {η : Type}

def ConfigState.call (s : ConfigState η) (calls : List SetterCall) : ConfigState η :=
  { s with calls := s.calls ++ calls }

def ConfigState.send (s : ConfigState η) (ok : Bool) (msgs : List SyncMsg) : ConfigState η :=
  { s with sent := s.sent ++ if ok then msgs else [] }

def setVapInfo (changed : Bool) (set : VapInfo → VapInfo) (s : Configuring η) : Configuring η :=
  if changed then
    { s with vapInfo := set s.vapInfo, triggerReconfigure := true }
  else
    s

def configSecurity (build : ConfigBuild) (env : ConfigEnv η) (ssidIndex : Int) (vconf : VifConf)
    (changed : VifFlags) (s : Configuring η) : Configuring η :=
  let t := setSecurity build.security ssidIndex vconf.toSecurityConf changed.toSecurityFlags
    env.pushMultiPskKeysOk
    { security := s.vapInfo.bssInfo.security
      triggerReconfig := s.triggerReconfigure
      cachedKeyIds := s.state.cachedKeyIds
      pushed := []
      synced := []
    }
  let state := { s.state with cachedKeyIds := t.cachedKeyIds }
  let state := state.call (t.pushed.map (fun push => .pushMultiPskKeys push.1 push.2))
  { vapInfo := { s.vapInfo with bssInfo.security := t.security }
    triggerReconfigure := t.triggerReconfig
    state := state.send env.syncSecurityOk
      (t.synced.map (fun sec => .security { sec with index := ssidIndex }))
  }

/-- The fields between `set_security` and `ssid_broadcast`. -/
def configFlags (vconf : VifConf) (changed : VifFlags) (s : Configuring η) : Configuring η :=
  let s := setVapInfo changed.apBridge
    (fun vapInfo => { vapInfo with bssInfo.isolation := !vconf.apBridge }) s
  let s := setVapInfo changed.rrm
    (fun vapInfo => { vapInfo with bssInfo.nbrReportActivated := vconf.rrm }) s
  let s := setVapInfo changed.btm
    (fun vapInfo => { vapInfo with bssInfo.bssTransitionActivated := vconf.btm }) s
  setVapInfo changed.uapsdEnable
    (fun vapInfo => { vapInfo with bssInfo.uapsdEnabled := vconf.uapsdEnable }) s

def configSsidBroadcast (build : ConfigBuild) (env : ConfigEnv η) (ssidIndex : Int) (vconf : VifConf)
    (changed : VifFlags) (s : Configuring η) : Option (Configuring η) :=
  if changed.ssidBroadcast then
    match ssidBroadcastItem vconf with
    | none => none
    | some citem =>
      let s := setVapInfo true (fun vapInfo => { vapInfo with bssInfo.showSsid := citem.1 }) s
      if build.security.disableSync then
        some s
      else
        some { s with
          state := s.state.send env.syncSsidBroadcastOk [.ssidAdvertise ssidIndex citem.1]
        }
  else
    some s

def configSsid (build : ConfigBuild) (env : ConfigEnv η) (ssidIndex : Int) (vconf : VifConf)
    (changed : VifFlags) (s : Configuring η) : Configuring η :=
  let ssid := strscpy build.ssidSize vconf.ssid
  let s := setVapInfo changed.ssid (fun vapInfo => { vapInfo with bssInfo.ssid := ssid }) s
  if changed.ssid ∧ ¬build.security.disableSync then
    let msg := .ssidName ssidIndex (strscpy build.syncSsidSize vconf.ssid)
    { s with state := s.state.send env.syncSsidOk [msg] }
  else
    s

def configBridge (build : ConfigBuild) (vconf : VifConf) (changed : VifFlags) (s : Configuring η)
    : Configuring η :=
  let bridge := strscpy build.bridgeNameSize vconf.bridge
  setVapInfo changed.bridge (fun vapInfo => { vapInfo with bridgeName := bridge }) s

def setMacList (acl : AclBackend η) (ssidIndex : Int) (vconf : AclConf) (s : ConfigState η)
    : ConfigState η :=
  match acl with
  | .strings hal =>
    let t := reconcileAcl hal ssidIndex vconf { hal := s.hal, calls := [] }
    { s with hal := t.hal, calls := s.calls ++ t.calls.map .acl }
  | .macs hal =>
    let t := setAclMacs hal ssidIndex vconf { hal := s.hal, calls := [] }
    { s with hal := t.hal, calls := s.calls ++ t.calls.map .aclMac }

def vifConfigSetWps (env : ConfigEnv η) (ssidIndex : Int) (vconf : VifConf) (changed : VifFlags)
    (radioIfname : CStr) (s : ConfigState η) : ConfigState η :=
  if changed.wps ∨ changed.wpsPbc ∨ changed.wpsPbcKeyId then
    let s := if vconf.wps then enableWps s else s
    { s with pbcUpdates := s.pbcUpdates ++ [(vconf.ifName, radioIfname)] }
  else
    s
where
  enableWps (s : ConfigState η) : ConfigState η :=
    let s := s.call [.cancelApWps ssidIndex, .setApWpsEnable ssidIndex vconf.wps]
    if env.setApWpsEnableOk then
      let s := s.call [.setApWpsConfigMethodsEnabled ssidIndex (cstr "PushButton")]
      if env.setApWpsConfigMethodsEnabledOk ∧ vconf.wpsPbc then
        s.call [.setApWpsButtonPushKeyId ssidIndex (vconf.wpsPbcKeyId.take 64)]
      else
        s
    else
      s

def multiApDeviceType (multiAp : CStr) : MultiApDeviceType :=
  if multiAp = cstr "none" then
    .none
  else if multiAp = cstr "fronthaul_bss" then
    .fronthaulBss
  else if multiAp = cstr "backhaul_bss" then
    .backhaulBss
  else if multiAp = cstr "fronthaul_backhaul_bss" then
    .fronthaulBackhaulBss
  else if multiAp = cstr "backhaul_sta" then
    .backhaulSta
  else
    .none

def vifConfigSetMultiAp (ssidIndex : Int) (multiAp : CStr) (changed : VifFlags) (s : ConfigState η)
    : ConfigState η :=
  if changed.multiAp then
    s.call [.setMultiApDeviceType ssidIndex (multiApDeviceType multiAp)]
  else
    s

def configMcast2ucast (env : ConfigEnv η) (vconf : VifConf) (changed : VifFlags) (s : Configuring η)
    : Configuring η :=
  if changed.mcast2ucast then
    match env.mcast2ucastSupported s.vapInfo.radioIndex with
    | none => s
    | some supported =>
      if ¬supported ∧ vconf.mcast2ucast then
        s
      else
        setVapInfo true (fun vapInfo => { vapInfo with bssInfo.mcast2ucast := vconf.mcast2ucast }) s
  else
    s

def createVap (triggerReconfig : Bool) (vap : HalVap) (s : ConfigState η) : ConfigState η :=
  if triggerReconfig then s.call [.createVap vap.vapInfo.radioIndex vap] else s

def updateVifState (build : ConfigBuild) (env : ConfigEnv η) (ssidIndex : Int) (s : ConfigState η)
    : ConfigState η × Bool :=
  if build.vifStateUpdateDelay > 0 then
    ({ s with deferred := vifStateUpdateDeferred ssidIndex s.deferred }, true)
  else
    ({ s with deferred := s.deferred.update ssidIndex }, env.vifStateUpdateOk)

def scanBssid (parent : CStr) (bssid : MacAddr) : MacAddr :=
  let octets := sscanfOctets 6 parent
  { b0 := octets.getD 0 bssid.b0
    b1 := octets.getD 1 bssid.b1
    b2 := octets.getD 2 bssid.b2
    b3 := octets.getD 3 bssid.b3
    b4 := octets.getD 4 bssid.b4
    b5 := octets.getD 5 bssid.b5
  }

def staEncryption (mode : CStr) : Encryption × SecurityMode :=
  if mode = cstr "mixed" then
    (.aesTkip, .wpaWpa2Personal)
  else if mode = cstr "2" then
    (.aes, .wpa2Personal)
  else if mode = cstr "1" then
    (.tkip, .wpaPersonal)
  else
    (.aes, .wpa2Personal)

def staConnection (build : ConfigBuild) (vconf : VifConf) (cconf : CredentialConf) (sta : StaInfo)
    : StaInfo :=
  if vconf.ssid.length = 0 then
    let key := strscpy build.security.keySize (schemaKeyVal cconf.security (cstr "key"))
    { sta with
      ssid := strscpy build.ssidSize cconf.ssid
      security := { mode := .wpa2Personal, encr := .aes, keyType := .psk, key := key }
    }
  else
    let bssid := if vconf.parent.length ≠ 0 then scanBssid vconf.parent sta.bssid else sta.bssid
    let encryption := staEncryption (schemaKeyVal vconf.security (cstr "mode"))
    let named := (schemaKeyVal vconf.security (cstr "encryption")).length ≠ 0
    { sta with
      ssid := strscpy build.ssidSize vconf.ssid
      bssid := bssid
      security :=
        { mode := encryption.2
          encr := encryption.1
          keyType := if named then .psk else sta.security.keyType
          key := strscpy build.security.keySize (schemaKeyVal vconf.security (cstr "key"))
        }
    }

def vifStaConfigSet2 (build : ConfigBuild) (env : ConfigEnv η) (vconf : VifConf)
    (cconf : CredentialConf) (changed : VifFlags) (s : ConfigState η) : ConfigState η × Bool :=
  match findVap env.staLookup vconf with
  | none => (s, false)
  | some (ssidIndex, vap) =>
    let sta := vap.staInfo
    let sta := if changed.enabled then { sta with enabled := vconf.enabled } else sta
    let connects := changed.ssid || changed.security || changed.parent
    let sta := if connects then staConnection build vconf cconf sta else sta
    let s := createVap (changed.enabled || connects) { vap with staInfo := sta } s
    updateVifState build env ssidIndex s

/-- What `target_vif_config_set2` does once `ssid_broadcast` is known to be valid. -/
def configRest (build : ConfigBuild) (env : ConfigEnv η) (ssidIndex : Int) (vap : HalVap)
    (vconf : VifConf) (changed : VifFlags) (radioIfname : CStr) (s : Configuring η)
    : ConfigState η × Bool :=
  let s := configSsid build env ssidIndex vconf changed s
  let s := configBridge build vconf changed s
  let s := aclApply build.acl (setMacList env.acl ssidIndex vconf.toAclConf) vconf.toAclConf
    changed.toAclFlags s
  let s :=
    if build.wpsSupport then
      { s with state := vifConfigSetWps env ssidIndex vconf changed radioIfname s.state }
    else
      s
  let s :=
    if build.multiApSupport then
      { s with state := vifConfigSetMultiAp ssidIndex vconf.multiAp changed s.state }
    else
      s
  let s := configMcast2ucast env vconf changed s
  let state := createVap s.triggerReconfigure { vap with vapInfo := s.vapInfo } s.state
  updateVifState build env ssidIndex state

def targetVifConfigSet2 (build : ConfigBuild) (env : ConfigEnv η) (vconf : VifConf)
    (radioIfname : CStr) (cconf : CredentialConf) (changed : VifFlags) (s : ConfigState η)
    : ConfigState η × Bool :=
  match findVap env.lookup vconf with
  | none => (s, false)
  | some (ssidIndex, vap) =>
    if vap.vapMode = .sta then
      vifStaConfigSet2 build env vconf cconf changed s
    else
      let s := { vapInfo := vap.vapInfo, triggerReconfigure := false, state := s }
      let s := setVapInfo changed.enabled
        (fun vapInfo => { vapInfo with bssInfo.enabled := vconf.enabled }) s
      let s := configSecurity build env ssidIndex vconf changed s
      let s := configFlags vconf changed s
      match configSsidBroadcast build env ssidIndex vconf changed s with
      | none => (s.state, false)
      | some s => configRest build env ssidIndex vap vconf changed radioIfname s

end

end Vif
end OpenSyncRdk
