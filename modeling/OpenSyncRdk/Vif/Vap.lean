import OpenSyncRdk.Radio.Resync
import OpenSyncRdk.Vif.Security

/-!
What the wifi HAL reports of a VAP, as far as `vif.c` configures it.
-/

namespace OpenSyncRdk
namespace Vif

inductive MacFilterMode where
  | blackList
  | whiteList
  | other (val : Nat)
  deriving DecidableEq

structure BssInfo where
  enabled : Bool
  security : Security
  isolation : Bool
  nbrReportActivated : Bool
  bssTransitionActivated : Bool
  uapsdEnabled : Bool
  showSsid : Bool
  ssid : CStr
  macFilterEnable : Bool
  macFilterMode : MacFilterMode
  mcast2ucast : Bool
  deriving DecidableEq

structure VapInfo where
  vapIndex : Nat
  radioIndex : Int
  vapName : CStr
  bridgeName : CStr
  bssInfo : BssInfo
  deriving DecidableEq

def isHomeAp (build : Radio.Build) (ifname : CStr) : Bool :=
  ifname = build.home.ap24
    || ifname = build.home.ap50
    || (build.radio6gSupport && ifname = build.home.ap60)

def mapAclModes : List (MacFilterMode × CStr) :=
  [(.whiteList, cstr "whitelist"), (.blackList, cstr "blacklist")]

def noneMacListType : CStr := cstr "none"

end Vif
end OpenSyncRdk
