import OpenSyncRdk.Connector.DataModel
import OpenSyncRdk.Vif.Config

/-!
The LAN bridge and the pool of its DHCP server between `Wifi_Inet_Config` and the data model,
`connector_dm.c`. The range of the pool goes both ways, the rest of it to OVSDB only.
-/

namespace OpenSyncRdk
namespace Connector

structure InetConfig where
  ifName : CStr
  inetAddr : CStr
  netmask : CStr
  dhcpd : List (CStr × CStr)
  inetAddrChanged : Bool
  netmaskChanged : Bool
  dhcpdChanged : Bool

structure InetUpdate where
  ifName : CStr
  partialUpdate : Bool
  dhcpd : List (CStr × CStr)
  deriving DecidableEq

abbrev Params := CStr → CStr

def lanIpAddress : CStr := cstr "Device.X_CISCO_COM_DeviceControl.LanManagementEntry.1.LanIPAddress"

def lanSubnetMask : CStr := cstr "Device.X_CISCO_COM_DeviceControl.LanManagementEntry.1.LanSubnetMask"

def minAddress : CStr := cstr "Device.DHCPv4.Server.Pool.1.MinAddress"

def maxAddress : CStr := cstr "Device.DHCPv4.Server.Pool.1.MaxAddress"

def leaseTime : CStr := cstr "Device.DHCPv4.Server.Pool.1.LeaseTime"

def ipRouters : CStr := cstr "Device.DHCPv4.Server.Pool.1.IPRouters"

structure LanBus where
  lanOk : Bool
  dhcpOk : Bool

def setParams (ok : Bool) (vals : List (CStr × CStr)) (params : Params) : Params × Bool :=
  if ok then
    (vals.foldl (fun params val => Function.update params val.1 val.2) params, true)
  else
    (params, false)

def setLanManagement (ok : Bool) (inet : InetConfig) (params : Params) : Params × Bool :=
  setParams ok [(lanIpAddress, inet.inetAddr), (lanSubnetMask, inet.netmask)] params

def setDhcpConfiguration (ok : Bool) (inet : InetConfig) (params : Params) : Params × Bool :=
  setParams ok
    [ (minAddress, Vif.schemaKeyVal inet.dhcpd (cstr "start"))
    , (maxAddress, Vif.schemaKeyVal inet.dhcpd (cstr "stop"))
    ]
    params

def getDhcpConfiguration (ok : Bool) (params : Params) : Option (List (CStr × CStr)) :=
  if ¬ok then
    none
  else
    some
      [ (cstr "start", params minAddress)
      , (cstr "stop", params maxAddress)
      , (cstr "lease_time", decimalInt ((atoi (params leaseTime)).tdiv 3600) ++ cstr "h")
      , (cstr "dhcp_option", cstr "3," ++ params ipRouters ++ cstr ";6," ++ params ipRouters)
      , (cstr "force", cstr "false")
      ]

def connectorLanBrConfigPushOvsdbDm (bridge : CStr) (getOk cbOk : Bool) (params : Params)
    : Int × Option InetUpdate :=
  match getDhcpConfiguration getOk params with
  | none => (-1, none)
  | some dhcpd =>
    let tmp : InetUpdate := { ifName := bridge, partialUpdate := true, dhcpd }
    if ¬cbOk then (-1, some tmp) else (0, some tmp)

/-- `lanManagement` is `CONFIG_RDK_CONNECTOR_DHCP_SYNC_LAN_MANAGEMENT`. -/
def connectorLanBrConfigPushRdkDm (lanManagement : Bool) (bus : LanBus) (inet : InetConfig)
    (params : Params) : Params × Int :=
  let (params, ok) :=
    if lanManagement && inet.inetAddrChanged then setLanManagement bus.lanOk inet params else (params, true)
  if ¬ok then
    (params, -1)
  else
    let (params, ok) :=
      if inet.dhcpdChanged then setDhcpConfiguration bus.dhcpOk inet params else (params, true)
    if ¬ok then
      (params, -1)
    else
      (params, 0)

def connectorSyncInet (bridge : CStr) (lanManagement : Bool) (bus : LanBus) (iconf : InetConfig)
    (params : Params) : Params :=
  if iconf.ifName = bridge then
    if iconf.inetAddrChanged || iconf.netmaskChanged || iconf.dhcpdChanged then
      (connectorLanBrConfigPushRdkDm lanManagement bus iconf params).1
    else
      params
  else
    params

section

variable (bridge : CStr) (lanManagement : Bool) (bus : LanBus) (iconf : InetConfig)

def deliveredAddress : Option (CStr × CStr) :=
  if iconf.ifName = bridge ∧ lanManagement = true ∧ iconf.inetAddrChanged = true ∧ bus.lanOk = true then
    some (iconf.inetAddr, iconf.netmask)
  else
    none

def deliveredRange : Option (CStr × CStr) :=
  if iconf.ifName = bridge ∧ iconf.dhcpdChanged = true ∧ bus.dhcpOk = true
      ∧ (lanManagement = true → iconf.inetAddrChanged = true → bus.lanOk = true) then
    some (Vif.schemaKeyVal iconf.dhcpd (cstr "start"), Vif.schemaKeyVal iconf.dhcpd (cstr "stop"))
  else
    none

end

def addressOf (params : Params) : CStr × CStr :=
  (params lanIpAddress, params lanSubnetMask)

def rangeOf (params : Params) : CStr × CStr :=
  (params minAddress, params maxAddress)

def lanNames : List CStr :=
  [lanIpAddress, lanSubnetMask, minAddress, maxAddress]

theorem setParams_apply (ok : Bool) {lhs rhs : CStr} (hne : lhs ≠ rhs) (lval rval : CStr) (params : Params)
    : ((setParams ok [(lhs, lval), (rhs, rval)] params).1 lhs,
          (setParams ok [(lhs, lval), (rhs, rval)] params).1 rhs)
        =
      if ok then (lval, rval) else (params lhs, params rhs) := by
  cases ok with
  | false => rfl
  | true => simp [setParams, Function.update_of_ne hne]

theorem setParams_other (ok : Bool) {vals : List (CStr × CStr)} {name : CStr}
    (hname : name ∉ vals.map Prod.fst) (params : Params)
    : (setParams ok vals params).1 name = params name := by
  cases ok with
  | false => rfl
  | true =>
    unfold setParams
    rw [if_pos rfl]
    dsimp only
    induction vals generalizing params with
    | nil => rfl
    | cons val vals ih =>
      rw [List.map_cons, List.mem_cons, not_or] at hname
      rw [List.foldl_cons, ih hname.2, Function.update_of_ne hname.1]

theorem pushRdkDm_eq (lanManagement : Bool) (bus : LanBus) (inet : InetConfig) (params : Params)
    : (connectorLanBrConfigPushRdkDm lanManagement bus inet params).1
        =
      let afterLan :=
        if lanManagement && inet.inetAddrChanged then (setLanManagement bus.lanOk inet params).1 else params
      if inet.dhcpdChanged && (!(lanManagement && inet.inetAddrChanged) || bus.lanOk) then
        (setDhcpConfiguration bus.dhcpOk inet afterLan).1
      else
        afterLan := by
  unfold connectorLanBrConfigPushRdkDm
  have hlan : (setLanManagement bus.lanOk inet params).2 = bus.lanOk := by
    unfold setLanManagement setParams
    cases bus.lanOk <;> rfl
  have hdhcp (params : Params) : (setDhcpConfiguration bus.dhcpOk inet params).2 = bus.dhcpOk := by
    unfold setDhcpConfiguration setParams
    cases bus.dhcpOk <;> rfl
  cases lanManagement && inet.inetAddrChanged with
  | false =>
    cases inet.dhcpdChanged with
    | false => rfl
    | true =>
      simp only [Bool.false_eq_true, ↓reduceIte, not_true_eq_false, hdhcp]
      split <;> rfl
  | true =>
    simp only [↓reduceIte, hlan, Bool.not_true, Bool.false_or]
    cases hok : bus.lanOk with
    | false => simp
    | true =>
      cases inet.dhcpdChanged with
      | false => rfl
      | true =>
        simp only [not_true_eq_false, ↓reduceIte, Bool.and_self, hdhcp]
        split <;> rfl

section

variable (bridge : CStr) (lanManagement : Bool) (bus : LanBus) (iconf : InetConfig) (params : Params)

variable {name : CStr}

theorem setLanManagement_other (ok : Bool) (hname : name ∉ [lanIpAddress, lanSubnetMask])
    : (setLanManagement ok iconf params).1 name = params name :=
  setParams_other ok hname params

theorem setDhcpConfiguration_other (ok : Bool) (hname : name ∉ [minAddress, maxAddress])
    : (setDhcpConfiguration ok iconf params).1 name = params name :=
  setParams_other ok hname params

theorem addressOf_setLanManagement (ok : Bool)
    : addressOf (setLanManagement ok iconf params).1
        =
      if ok then (iconf.inetAddr, iconf.netmask) else addressOf params :=
  setParams_apply ok (by decide +kernel) _ _ params

theorem addressOf_setDhcpConfiguration (ok : Bool)
    : addressOf (setDhcpConfiguration ok iconf params).1 = addressOf params := by
  unfold addressOf
  rw [setDhcpConfiguration_other _ _ ok (by decide +kernel),
    setDhcpConfiguration_other _ _ ok (by decide +kernel)]

theorem rangeOf_setLanManagement (ok : Bool)
    : rangeOf (setLanManagement ok iconf params).1 = rangeOf params := by
  unfold rangeOf
  rw [setLanManagement_other _ _ ok (by decide +kernel), setLanManagement_other _ _ ok (by decide +kernel)]

theorem rangeOf_setDhcpConfiguration (ok : Bool)
    : rangeOf (setDhcpConfiguration ok iconf params).1
        =
      if ok then
        (Vif.schemaKeyVal iconf.dhcpd (cstr "start"), Vif.schemaKeyVal iconf.dhcpd (cstr "stop"))
      else
        rangeOf params :=
  setParams_apply ok (by decide +kernel) _ _ params

/-- Without one of the flags there is nothing to set, so the test for them changes nothing. -/
theorem connectorSyncInet_eq
    : connectorSyncInet bridge lanManagement bus iconf params
        =
      if iconf.ifName = bridge then
        (connectorLanBrConfigPushRdkDm lanManagement bus iconf params).1
      else
        params := by
  unfold connectorSyncInet
  split
  . split
    . rfl
    . next hflags =>
      simp only [Bool.or_eq_true, not_or, Bool.not_eq_true] at hflags
      rw [pushRdkDm_eq]
      simp [hflags]
  . rfl

theorem addressOf_connectorSyncInet
    : addressOf (connectorSyncInet bridge lanManagement bus iconf params)
        =
      (deliveredAddress bridge lanManagement bus iconf).getD (addressOf params) := by
  have hlan
      : addressOf (if lanManagement && iconf.inetAddrChanged then
              (setLanManagement bus.lanOk iconf params).1
            else
              params)
          =
        if lanManagement && iconf.inetAddrChanged && bus.lanOk then
          (iconf.inetAddr, iconf.netmask)
        else
          addressOf params := by
    cases lanManagement && iconf.inetAddrChanged with
    | false => rfl
    | true => exact addressOf_setLanManagement iconf params bus.lanOk
  rw [connectorSyncInet_eq]
  unfold deliveredAddress
  by_cases hbridge : iconf.ifName = bridge
  . rw [if_pos hbridge, pushRdkDm_eq]
    dsimp only
    rw [apply_ite addressOf, addressOf_setDhcpConfiguration, ite_self, hlan]
    simp only [hbridge, true_and, Bool.and_eq_true, and_assoc]
    split
    . rfl
    . rfl
  . rw [if_neg hbridge, if_neg (fun h => hbridge h.1)]
    rfl

theorem rangeOf_connectorSyncInet
    : rangeOf (connectorSyncInet bridge lanManagement bus iconf params)
        =
      (deliveredRange bridge lanManagement bus iconf).getD (rangeOf params) := by
  have hlan
      : rangeOf (if lanManagement && iconf.inetAddrChanged then
              (setLanManagement bus.lanOk iconf params).1
            else
              params)
          =
        rangeOf params := by
    rw [apply_ite rangeOf, rangeOf_setLanManagement, ite_self]
  rw [connectorSyncInet_eq]
  unfold deliveredRange
  by_cases hbridge : iconf.ifName = bridge
  . rw [if_pos hbridge, pushRdkDm_eq]
    dsimp only
    rw [apply_ite rangeOf, rangeOf_setDhcpConfiguration, hlan]
    cases iconf.dhcpdChanged <;> cases bus.dhcpOk <;> cases lanManagement
      <;> cases iconf.inetAddrChanged <;> cases bus.lanOk <;> simp [hbridge]
  . rw [if_neg hbridge, if_neg (fun h => hbridge h.1)]
    rfl

theorem connectorSyncInet_other (hname : name ∉ lanNames)
    : connectorSyncInet bridge lanManagement bus iconf params name = params name := by
  have haddress : name ∉ [lanIpAddress, lanSubnetMask] := by
    intro hmem
    exact hname (List.mem_append_left [minAddress, maxAddress] hmem)
  have hrange : name ∉ [minAddress, maxAddress] := by
    intro hmem
    exact hname (List.mem_append_right [lanIpAddress, lanSubnetMask] hmem)
  have hlan
      : (if lanManagement && iconf.inetAddrChanged then
            (setLanManagement bus.lanOk iconf params).1
          else
            params) name
          =
        params name := by
    split
    . exact setLanManagement_other iconf params bus.lanOk haddress
    . rfl
  rw [connectorSyncInet_eq]
  split
  . rw [pushRdkDm_eq]
    dsimp only
    split
    . rw [setDhcpConfiguration_other _ _ bus.dhcpOk hrange, hlan]
    . exact hlan
  . rfl

end

end Connector
end OpenSyncRdk
