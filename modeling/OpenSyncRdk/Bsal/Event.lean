import OpenSyncRdk.Bsal.ClientInfo

/-!
Steering events of the wifi HAL and what `process_event` of `bsal.c` makes of them. The switch on the
type of an event is the same in `bsal_legacy.c`, but for the update of the client info.
-/

namespace OpenSyncRdk
namespace Bsal

open Clients (MacAddr)

inductive HalDiscSource where
  | local
  | remote
  | unknown (code : Nat)
  deriving DecidableEq

inductive HalDiscType where
  | disassoc
  | deauth
  | unknown (code : Nat)
  deriving DecidableEq

inductive HalRssiXing where
  | unchanged
  | lower
  | higher
  | unknown (code : Nat)
  deriving DecidableEq

inductive DiscSource where
  | local
  | remote
  deriving DecidableEq

inductive DiscType where
  | disassoc
  | deauth
  deriving DecidableEq

inductive RssiXing where
  | unchanged
  | lower
  | higher
  deriving DecidableEq

def mapDiscSource : HalDiscSource → Option DiscSource
  | .local => some .local
  | .remote => some .remote
  | .unknown _ => none

def mapDiscType : HalDiscType → Option DiscType
  | .disassoc => some .disassoc
  | .deauth => some .deauth
  | .unknown _ => none

def mapRssiXing : HalRssiXing → Option RssiXing
  | .unchanged => some .unchanged
  | .lower => some .lower
  | .higher => some .higher
  | .unknown _ => none

inductive HalEventData where
  | probeReq (mac : MacAddr) (rssi : Nat) (broadcast : Bool) (blocked : Bool)
  | authFail (mac : MacAddr) (rssi : Nat) (reason : Nat) (bsBlocked : Nat) (bsRejected : Nat)
  | clientConnect (connect : EvConnect)
  | clientDisconnect (mac : MacAddr) (source : HalDiscSource) (type : HalDiscType) (reason : Nat)
  | clientActivity (mac : MacAddr) (active : Bool)
  | chanUtilization (utilization : Nat)
  | rssiXing (mac : MacAddr) (rssi : Nat) (inactveXing : HalRssiXing) (highXing : HalRssiXing)
    (lowXing : HalRssiXing)
  | rssi (mac : MacAddr) (rssi : Nat)
  | unknown (type : Nat)
  deriving DecidableEq

structure HalEvent where
  apIndex : Int
  data : HalEventData
  deriving DecidableEq

inductive EventData where
  | probeReq (clientAddr : MacAddr) (rssi : Nat) (ssidNull : Bool) (blocked : Bool)
  | authFail (clientAddr : MacAddr) (rssi : Nat) (reason : Nat) (bsBlocked : Nat) (bsRejected : Nat)
  | clientConnect (clientAddr : MacAddr)
  | clientDisconnect (clientAddr : MacAddr) (source : DiscSource) (type : DiscType) (reason : Nat)
  | clientActivity (clientAddr : MacAddr) (active : Bool)
  | chanUtilization (utilization : Nat)
  | rssiXing (clientAddr : MacAddr) (rssi : Nat) (inactXing : RssiXing) (highXing : RssiXing)
    (lowXing : RssiXing)
  | rssi (clientAddr : MacAddr) (rssi : Nat)
  deriving DecidableEq

inductive EventType where
  | probeReq
  | authFail
  | clientConnect
  | clientDisconnect
  | clientActivity
  | chanUtilization
  | rssiXing
  | rssi
  deriving DecidableEq

structure Event where
  ifname : CStr
  data : EventData
  deriving DecidableEq

def EventData.type : EventData → EventType
  | .probeReq .. => .probeReq
  | .authFail .. => .authFail
  | .clientConnect .. => .clientConnect
  | .clientDisconnect .. => .clientDisconnect
  | .clientActivity .. => .clientActivity
  | .chanUtilization .. => .chanUtilization
  | .rssiXing .. => .rssiXing
  | .rssi .. => .rssi

/-- The switch of `process_event`; no data stands for the jumps to `end`. -/
def switchType (update : ClientInfoList → EvConnect → ClientInfoList) (list : ClientInfoList)
    : HalEventData → ClientInfoList × Option EventData
  | .probeReq mac rssi broadcast blocked => (list, some (.probeReq mac rssi broadcast blocked))
  | .authFail mac rssi reason bsBlocked bsRejected =>
    (list, some (.authFail mac rssi reason bsBlocked bsRejected))
  | .clientConnect connect => (update list connect, some (.clientConnect connect.clientMac))
  | .clientDisconnect mac source type reason =>
    match mapDiscSource source with
    | none => (list, none)
    | some source =>
      match mapDiscType type with
      | none => (list, none)
      | some type =>
        (bsalClientInfoRemove list mac, some (.clientDisconnect mac source type reason))
  | .clientActivity mac active => (list, some (.clientActivity mac active))
  | .chanUtilization utilization => (list, some (.chanUtilization utilization))
  | .rssiXing mac rssi inactveXing highXing lowXing =>
    match mapRssiXing inactveXing with
    | none => (list, none)
    | some inactXing =>
      match mapRssiXing highXing with
      | none => (list, none)
      | some highXing =>
        match mapRssiXing lowXing with
        | none => (list, none)
        | some lowXing => (list, some (.rssiXing mac rssi inactXing highXing lowXing))
  | .rssi mac rssi => (list, some (.rssi mac rssi))
  | .unknown _ => (list, none)

structure EventEnv where
  registered : Bool
  callocEvent : Bool
  callocClient : Bool

def groupGetIfaceByApIndex (group : Group) (apIndex : Int) : Option Iface :=
  group.iface.find? (fun iface => iface.configured ∧ iface.wifihalCfg.apIndex = apIndex)

def processEvent (env : EventEnv) (group : Group) (list : ClientInfoList) (event : HalEvent)
    : ClientInfoList × Option Event :=
  if ¬env.registered then
    (list, none)
  else if ¬env.callocEvent then
    (list, none)
  else
    -- the search only fills a zeroed array, which is never the null pointer it is tested for
    let ifname :=
      match groupGetIfaceByApIndex group event.apIndex with
      | some iface => iface.bsalCfg.ifname
      | none => []
    let (list, data) := switchType (bsalClientInfoUpdate env.callocClient) list event.data
    (list, data.map (fun data => { ifname, data }))

def HalEventData.known : HalEventData → Bool
  | .clientDisconnect _ source type _ => (mapDiscSource source).isSome && (mapDiscType type).isSome
  | .rssiXing _ _ inactveXing highXing lowXing =>
    (mapRssiXing inactveXing).isSome && (mapRssiXing highXing).isSome && (mapRssiXing lowXing).isSome
  | .unknown _ => false
  | _ => true

theorem switchType_isSome (update : ClientInfoList → EvConnect → ClientInfoList)
    (list : ClientInfoList) (data : HalEventData)
    : (switchType update list data).2.isSome = data.known := by
  cases data with
  | clientDisconnect mac source type reason =>
    cases source <;> cases type <;> rfl
  | rssiXing mac rssi inactveXing highXing lowXing =>
    cases inactveXing <;> cases highXing <;> cases lowXing <;> rfl
  | _ => rfl

theorem switchType_data (lhs rhs : ClientInfoList → EvConnect → ClientInfoList)
    (list list' : ClientInfoList) (data : HalEventData)
    : (switchType lhs list data).2 = (switchType rhs list' data).2 := by
  cases data with
  | clientDisconnect mac source type reason =>
    cases source <;> cases type <;> rfl
  | rssiXing mac rssi inactveXing highXing lowXing =>
    cases inactveXing <;> cases highXing <;> cases lowXing <;> rfl
  | _ => rfl

end Bsal
end OpenSyncRdk
