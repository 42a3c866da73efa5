import OpenSyncRdk.Lib.Words
import OpenSyncRdk.Vif.Vap

/-!
The access control list of a VAP, `vif.c`, where the wifi HAL takes and reports MACs as strings:
`acl_apply` reads the list that the HAL has, and removes and adds what is different in the configuration.
-/

namespace OpenSyncRdk
namespace Vif

structure AclBuild where
  radio : Radio.Build
  syncExtHomeAcls : Bool

structure AclConf where
  macListTypeExists : Bool
  macListType : CStr
  macList : List CStr

structure AclFlags where
  macListType : Bool
  macList : Bool

structure AclHal (η : Type) where
  getApAclDeviceNum : η → Int → Option Nat
  getApAclDevices : η → Int → Option CStr
  addApAclDevice : η → Int → CStr → η × Bool
  delApAclDevice : η → Int → CStr → η × Bool

inductive AclCall where
  | add (index : Int) (mac : CStr) (ok : Bool)
  | del (index : Int) (mac : CStr) (ok : Bool)
  deriving DecidableEq

structure AclState (η : Type) where
  hal : η
  calls : List AclCall

structure AclApplied (σ : Type) where
  vapInfo : VapInfo
  triggerReconfigure : Bool
  state : σ

def macStrLen : Nat := 18

def aclBufSize : Nat := 1024

def macListSeparator (c : UInt8) : Bool :=
  c = 44 || c = 10

def aclBufToAclList (declared : Nat) (aclBuf : CStr) : Option (List CStr) :=
  go aclBuf []
where
  go (aclBuf : CStr) (aclList : List CStr) : Option (List CStr) :=
    match h : strtok macListSeparator aclBuf with
    | none => some aclList
    | some (p, rest) =>
      have := strtok_length_lt macListSeparator h
      if p.length ≠ macStrLen - 1 then
        none
      else if aclList.length ≥ declared then
        none
      else
        go rest (aclList ++ [strscpy macStrLen p])
  termination_by aclBuf.length

variable {η : Type}

def getAclList (hal : AclHal η) (vapIndex : Int) (s : AclState η) : Option (List CStr) :=
  match hal.getApAclDeviceNum s.hal vapIndex with
  | none => none
  | some aclListSize =>
    if aclListSize = 0 then
      some []
    else
      match hal.getApAclDevices s.hal vapIndex with
      | none => none
      | some aclBuf =>
        if aclBufSize ≤ aclBuf.length then
          none
        else
          aclBufToAclList aclListSize aclBuf

def delAcl (hal : AclHal η) (vapIndex : Int) (s : AclState η) (mac : CStr) : AclState η :=
  let (t, ok) := hal.delApAclDevice s.hal vapIndex mac
  { hal := t, calls := s.calls ++ [.del vapIndex mac ok] }

def addAcl (hal : AclHal η) (vapIndex : Int) (s : AclState η) (mac : CStr) : AclState η :=
  let (t, ok) := hal.addApAclDevice s.hal vapIndex mac
  { hal := t, calls := s.calls ++ [.add vapIndex mac ok] }

def removeNotNeededAcls (hal : AclHal η) (vapIndex : Int) (vconf : AclConf)
    : List CStr → AclState η → AclState η
  | [], s => s
  | mac :: currentAclList, s =>
    if vconf.macList.contains mac then
      removeNotNeededAcls hal vapIndex vconf currentAclList s
    else
      removeNotNeededAcls hal vapIndex vconf currentAclList (delAcl hal vapIndex s mac)

def addNeededAcls (hal : AclHal η) (vapIndex : Int) (currentAclList : List CStr)
    : List CStr → AclState η → AclState η
  | [], s => s
  | mac :: macList, s =>
    if currentAclList.contains mac then
      addNeededAcls hal vapIndex currentAclList macList s
    else
      addNeededAcls hal vapIndex currentAclList macList (addAcl hal vapIndex s mac)

def reconcileAcl (hal : AclHal η) (ssidIndex : Int) (vconf : AclConf) (s : AclState η) : AclState η :=
  match getAclList hal ssidIndex s with
  | none => s
  | some aclList =>
    addNeededAcls hal ssidIndex aclList vconf.macList
      (removeNotNeededAcls hal ssidIndex vconf aclList s)

/-- `acl_apply`, of which the builds differ in how `setMacList` brings the list to the HAL. -/
def aclApply {σ : Type} (build : AclBuild) (setMacList : σ → σ) (vconf : AclConf) (changed : AclFlags)
    (s : AclApplied σ) : AclApplied σ :=
  if ¬build.syncExtHomeAcls ∧ isHomeAp build.radio s.vapInfo.vapName then
    s
  else if changed.macListType ∧ vconf.macListTypeExists then
    if vconf.macListType = noneMacListType then
      let bssInfo := { s.vapInfo.bssInfo with macFilterEnable := false }
      applyMacList { s with vapInfo := { s.vapInfo with bssInfo }, triggerReconfigure := true }
    else
      match mapAclModes.find? (fun citem => citem.2 = vconf.macListType) with
      | none => s
      | some citem =>
        let bssInfo := { s.vapInfo.bssInfo with macFilterEnable := true, macFilterMode := citem.1 }
        applyMacList { s with vapInfo := { s.vapInfo with bssInfo }, triggerReconfigure := true }
  else
    applyMacList s
where
  applyMacList (s : AclApplied σ) : AclApplied σ :=
    if changed.macList then
      { s with state := setMacList s.state }
    else
      s

end Vif
end OpenSyncRdk
