import OpenSyncRdk.Lib.Bytes
import OpenSyncRdk.Lib.Machine

/-!
The security settings of a VAP, `vif.c`: how a `Wifi_VIF_Config` becomes the settings that are handed to
the wifi HAL and the message that is sent to the Mesh-Agent. `setSecurityPsks` and `setSecurityExit`
are the ends of `set_security` behind the decoded mode and behind its label `exit`.
-/

namespace OpenSyncRdk
namespace Vif

inductive SecurityMode where
  | none
  | wpaPersonal
  | wpa2Personal
  | wpaWpa2Personal
  | wpa2Enterprise
  | wpa3Personal
  | wpa3Transition
  | other (val : Nat)
  deriving DecidableEq, Repr

inductive Mfp where
  | disabled
  | optional
  | required
  deriving DecidableEq, Repr

structure Security where
  mode : SecurityMode
  mfp : Mfp
  key : CStr
  deriving DecidableEq

structure SecurityConf where
  ifName : CStr
  wpa : Int
  wpaKeyMgmt : List CStr
  wpaPairwiseTkip : Bool
  wpaPairwiseCcmp : Bool
  rsnPairwiseTkip : Bool
  rsnPairwiseCcmp : Bool
  pmf : CStr
  wpaPsks : List (CStr × CStr)
  deriving DecidableEq

structure SecurityFlags where
  wpa : Bool
  wpaKeyMgmt : Bool
  wpaPairwiseTkip : Bool
  wpaPairwiseCcmp : Bool
  rsnPairwiseTkip : Bool
  rsnPairwiseCcmp : Bool
  pmf : Bool
  wpaPsks : Bool
  deriving DecidableEq

structure MeshWifiAPSecurity where
  index : Int
  passphrase : CStr
  secMode : CStr
  encryptMode : CStr
  deriving DecidableEq

structure Build where
  multiPsk : Bool
  disableSync : Bool
  -- the sizes of the buffers of the HAL
  keySize : Nat
  keyIdSize : Nat
  pskSize : Nat

def keyMgmtWpaPsk : CStr := cstr "wpa-psk"

def keyMgmtWpaEap : CStr := cstr "wpa-eap"

def keyMgmtSae : CStr := cstr "sae"

def keyMgmtNone : CStr := cstr ""

def pmfOptional : CStr := cstr "optional"

def pmfRequired : CStr := cstr "required"

def maxModeLen : Nat := 25

def maxPassLen : Nat := 65

def pskKeyIdSize : Nat := 65

def securityWpaKeyMgmtMatch (vconf : SecurityConf) (keyMgmt : CStr) : Bool :=
  if vconf.wpaKeyMgmt.length = 0 ∧ keyMgmt = keyMgmtNone then
    true
  else
    vconf.wpaKeyMgmt.any (fun entry => strstr entry keyMgmt)

def securityKeyMgmtOvsdbToHal (vconf : SecurityConf) : Option SecurityMode :=
  if securityWpaKeyMgmtMatch vconf keyMgmtWpaPsk ∧ securityWpaKeyMgmtMatch vconf keyMgmtSae then
    some .wpa3Transition
  else if securityWpaKeyMgmtMatch vconf keyMgmtSae then
    some .wpa3Personal
  else if securityWpaKeyMgmtMatch vconf keyMgmtWpaEap then
    some .wpa2Enterprise
  else if securityWpaKeyMgmtMatch vconf keyMgmtWpaPsk then
    if (vconf.wpaPairwiseTkip ∨ vconf.wpaPairwiseCcmp)
        ∧ (vconf.rsnPairwiseTkip ∨ vconf.rsnPairwiseCcmp) then
      some .wpaWpa2Personal
    else if vconf.wpaPairwiseTkip ∨ vconf.wpaPairwiseCcmp then
      some .wpaPersonal
    else if vconf.rsnPairwiseTkip ∨ vconf.rsnPairwiseCcmp then
      some .wpa2Personal
    else
      some .none
  else if securityWpaKeyMgmtMatch vconf keyMgmtNone then
    some .none
  else
    none

def securityKeyMgmtOvsdbToSync (vconf : SecurityConf) : Option CStr :=
  if securityWpaKeyMgmtMatch vconf keyMgmtWpaPsk then
    match securityKeyMgmtOvsdbToHal vconf with
    | some .wpaPersonal => some (cstr "WPA-Personal")
    | some .wpa2Personal => some (cstr "WPA2-Personal")
    | some .wpaWpa2Personal => some (cstr "WPA-WPA2-Personal")
    | some .wpa2Enterprise => some (cstr "WPA2-Enterprise")
    | some .wpa3Personal => some (cstr "WPA3-Sae")
    | some .wpa3Transition => some (cstr "WPA3-Personal-Transition")
    | _ => none
  else
    none

def firstPsk (vconf : SecurityConf) : CStr :=
  (vconf.wpaPsks.headD ([], [])).2

def securityOvsdbToSyncmsg (ssidIndex : Int) (vconf : SecurityConf) (dest : MeshWifiAPSecurity)
    : MeshWifiAPSecurity × Bool :=
  match securityKeyMgmtOvsdbToSync vconf with
  | none => (dest, false)
  | some mode =>
    ({ index := ssidIndex
       passphrase := strscpy maxPassLen (firstPsk vconf)
       secMode := strscpy maxModeLen mode
       encryptMode := strscpy maxModeLen (cstr "TKIPandAESEncryption")
     }, true)

structure State where
  security : Security
  triggerReconfig : Bool
  cachedKeyIds : Int → CStr
  -- the calls of `wifi_pushMultiPskKeys` and of `sync_send_security_change`
  pushed : List (Int × List (CStr × CStr))
  synced : List MeshWifiAPSecurity

def setPassword (build : Build) (ssidIndex : Int) (vconf : SecurityConf) (pushOk : Bool) (s : State)
    : State × Bool :=
  let s := { s with security := { s.security with key := strscpy build.keySize (firstPsk vconf) } }
  let keyId := strscpy pskKeyIdSize (vconf.wpaPsks.headD ([], [])).1
  let s := { s with
    cachedKeyIds := fun index => if index = ssidIndex then keyId else s.cachedKeyIds index
  }
  if build.multiPsk then
    let keys := vconf.wpaPsks.tail.map
      (fun psk => (strscpy build.keyIdSize psk.1, strscpy build.pskSize psk.2))
    ({ s with pushed := s.pushed ++ [(ssidIndex, keys)] }, pushOk)
  else
    (s, true)

def setSecurityExit (build : Build) (ssidIndex : Int) (vconf : SecurityConf) (changed : SecurityFlags)
    (sendSync : Bool) (s : State) : State :=
  if ¬sendSync ∨ build.disableSync ∨ build.multiPsk then
    s
  else
    let zeroed := { index := 0, passphrase := [], secMode := [], encryptMode := [] }
    let data := (securityOvsdbToSyncmsg ssidIndex vconf zeroed).1
    let data :=
      if changed.wpa ∧ vconf.wpa = 0 then
        { data with secMode := strscpy maxModeLen (cstr "None") }
      else
        data
    let data := { data with passphrase := strscpy maxPassLen (firstPsk vconf) }
    { s with synced := s.synced ++ [data] }

def SecurityFlags.decodes (changed : SecurityFlags) : Bool :=
  changed.wpaKeyMgmt
    || changed.wpaPairwiseTkip
    || changed.wpaPairwiseCcmp
    || changed.rsnPairwiseTkip
    || changed.rsnPairwiseCcmp
    || changed.pmf

def mfpOf (pmf : CStr) : Mfp :=
  if pmf = pmfOptional then
    .optional
  else if pmf = pmfRequired then
    .required
  else
    .disabled

def setSecurityPsks (build : Build) (ssidIndex : Int) (vconf : SecurityConf) (changed : SecurityFlags)
    (pushOk sendSync : Bool) (s : State) : State :=
  if changed.wpaPsks ∧ 1 ≤ vconf.wpaPsks.length then
    match setPassword build ssidIndex vconf pushOk s with
    | (s, false) => setSecurityExit build ssidIndex vconf changed sendSync s
    | (s, true) =>
      setSecurityExit build ssidIndex vconf changed true { s with triggerReconfig := true }
  else
    setSecurityExit build ssidIndex vconf changed sendSync s

def setSecurity (build : Build) (ssidIndex : Int) (vconf : SecurityConf) (changed : SecurityFlags)
    (pushOk : Bool) (s : State) : State :=
  if changed.wpa ∧ vconf.wpa = 0 then
    setSecurityExit build ssidIndex vconf changed true
      { s with security := { s.security with mode := .none }, triggerReconfig := true }
  else if changed.decodes then
    match securityKeyMgmtOvsdbToHal vconf with
    | none => s
    | some mode =>
      setSecurityPsks build ssidIndex vconf changed pushOk true
        { s with
          security := { s.security with mode := mode, mfp := mfpOf vconf.pmf }
          triggerReconfig := true
        }
  else
    setSecurityPsks build ssidIndex vconf changed pushOk false s

end Vif
end OpenSyncRdk
