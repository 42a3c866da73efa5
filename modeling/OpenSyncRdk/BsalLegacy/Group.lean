import OpenSyncRdk.Bsal.Group
import OpenSyncRdk.Lib.Handover

/-!
The group of one 2.4G and one 5G interface, `bsal_legacy.c`. A `Call` holds one call of an operation
and what the wifi HAL returns for it: `unsetOk` for `wifi_steering_setGroup` with null pointers and
`setOk` with two configs.
-/

namespace OpenSyncRdk
namespace BsalLegacy

open Bsal (IfConfig ApConfig Radios)

inductive Band where
  | band24G
  | band5G
  deriving DecidableEq

structure Iface where
  band : Band
  bsalCfg : IfConfig
  wifihalCfg : ApConfig
  deriving DecidableEq

structure Group where
  iface24g : Option Iface
  iface5g : Option Iface
  deriving DecidableEq

def Group.init : Group :=
  { iface24g := none, iface5g := none }

def Group.iface (group : Group) : Band → Option Iface
  | .band24G => group.iface24g
  | .band5G => group.iface5g

def Group.setIface (group : Group) (iface : Option Iface) : Band → Group
  | .band24G => { group with iface24g := iface }
  | .band5G => { group with iface5g := iface }

inductive Op where
  | add
  | update
  | remove
  deriving DecidableEq

structure Call extends Radios where
  op : Op
  ifcfg : IfConfig
  unsetOk : Bool
  setOk : Bool

def lookupIfname (radios : Radios) (ifcfg : IfConfig) : Option Iface :=
  match radios.freqBand ifcfg.ifname with
  | none => none
  | some (s, freq) =>
    match freq with
    | .freq2_4 =>
      some { band := .band24G, bsalCfg := ifcfg, wifihalCfg := ifcfg.apConfig s }
    | .freq5 | .freq5L | .freq5H =>
      some { band := .band5G, bsalCfg := ifcfg, wifihalCfg := ifcfg.apConfig s }
    | .freq6 | .freq60 => none

abbrev SetGroup := Handover.Call (ApConfig × ApConfig)

structure Outcome where
  group : Group
  setGroups : List SetGroup
  ret : Int

def Outcome.error (group : Group) : Outcome :=
  { group, setGroups := [], ret := -1 }

def Group.configs (group : Group) : Option (ApConfig × ApConfig) :=
  match group.iface24g, group.iface5g with
  | some iface24g, some iface5g => some (iface24g.wifihalCfg, iface5g.wifihalCfg)
  | _, _ => none

def targetBsalIfaceAdd (call : Call) (group : Group) : Outcome :=
  match lookupIfname call.toRadios call.ifcfg with
  | none => Outcome.error group
  | some iface =>
    if (group.iface iface.band).isSome then
      Outcome.error group
    else
      let group := group.setIface (some iface) iface.band
      match group.configs with
      | none => { group, setGroups := [], ret := 0 }
      | some configs =>
        { group, setGroups := [⟨some configs, call.setOk⟩], ret := if call.setOk then 0 else -1 }

def targetBsalIfaceUpdate (call : Call) (group : Group) : Outcome :=
  match lookupIfname call.toRadios call.ifcfg with
  | none => Outcome.error group
  | some iface =>
    if (group.iface iface.band).isNone then
      Outcome.error group
    else
      let group := group.setIface (some iface) iface.band
      match group.configs with
      | none => { group, setGroups := [], ret := 0 }
      | some configs =>
        if ¬call.unsetOk then
          { group, setGroups := [⟨none, false⟩], ret := -1 }
        else
          { group, setGroups := [⟨none, true⟩, ⟨some configs, call.setOk⟩]
            ret := if call.setOk then 0 else -1 }

def targetBsalIfaceRemove (call : Call) (group : Group) : Outcome :=
  match lookupIfname call.toRadios call.ifcfg with
  | none => Outcome.error group
  | some iface =>
    if (group.iface iface.band).isNone then
      Outcome.error group
    else
      let group := group.setIface none iface.band
      if group.iface24g.isNone ∧ group.iface5g.isNone then
        { group, setGroups := [⟨none, call.unsetOk⟩], ret := if call.unsetOk then 0 else -1 }
      else
        { group, setGroups := [], ret := 0 }

def Call.run (call : Call) (group : Group) : Outcome :=
  match call.op with
  | .add => targetBsalIfaceAdd call group
  | .update => targetBsalIfaceUpdate call group
  | .remove => targetBsalIfaceRemove call group

end BsalLegacy
end OpenSyncRdk
