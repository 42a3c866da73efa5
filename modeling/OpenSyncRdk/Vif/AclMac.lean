import OpenSyncRdk.Vif.AclReconcile
import OpenSyncRdk.Vif.MacText

/-!
The access control list of a VAP, `vif.c`, where the wifi HAL takes and reports MACs as six bytes:
`acl_apply` writes the whole list, `acl_to_state` and `acl_to_config` read it back.
-/

namespace OpenSyncRdk
namespace Vif

open Clients (MacAddr)

structure AclMacHal (η : Type) where
  delApAclDevices : η → Int → η × Bool
  addApAclDevice : η → Int → MacAddr → η × Bool
  getApAclDevices : η → Int → Nat → Option (List MacAddr)

inductive AclMacCall where
  | flush (index : Int) (ok : Bool)
  | add (index : Int) (mac : MacAddr) (ok : Bool)
  deriving DecidableEq

structure AclMacState (η : Type) where
  hal : η
  calls : List AclMacCall

structure AclReport where
  macListType : CStr
  macListPresent : Bool
  macList : List CStr
  deriving DecidableEq

def maxAclNumber : Nat := 64

section

variable {η : Type}

def addAclMac (hal : AclMacHal η) (ssidIndex : Int) (s : AclMacState η) (mac : CStr)
    : AclMacState η :=
  match sscanfMac mac with
  | none => s
  | some mac =>
    let (t, ok) := hal.addApAclDevice s.hal ssidIndex mac
    { hal := t, calls := s.calls ++ [.add ssidIndex mac ok] }

def setAclMacs (hal : AclMacHal η) (ssidIndex : Int) (vconf : AclConf) (s : AclMacState η)
    : AclMacState η :=
  let (t, ok) := hal.delApAclDevices s.hal ssidIndex
  vconf.macList.foldl (addAclMac hal ssidIndex) { hal := t, calls := s.calls ++ [.flush ssidIndex ok] }

def aclModeStr (mode : MacFilterMode) : CStr :=
  match mapAclModes.find? (fun citem => citem.1 = mode) with
  | none => []
  | some citem => citem.2

def aclReport (hal : AclMacHal η) (vapInfo : VapInfo) (s : AclMacState η) (report : AclReport)
    : AclReport × Bool :=
  if vapInfo.bssInfo.macFilterEnable then
    let report := { report with macListType := aclModeStr vapInfo.bssInfo.macFilterMode }
    if report.macListType.length = 0 then
      (report, false)
    else
      appendMacs report
  else
    appendMacs { report with macListType := noneMacListType }
where
  appendMacs (report : AclReport) : AclReport × Bool :=
    match hal.getApAclDevices s.hal vapInfo.vapIndex maxAclNumber with
    | none => (report, false)
    | some aclList =>
      ({ report with
         macListPresent := true
         macList := report.macList ++ aclList.map (snprintfMac macStrLen)
       }, true)

def aclToState (hal : AclMacHal η) (vapInfo : VapInfo) (s : AclMacState η) (vstate : AclReport)
    : AclReport × Bool :=
  aclReport hal vapInfo s vstate

def aclToConfig (hal : AclMacHal η) (vapInfo : VapInfo) (s : AclMacState η) (vconf : AclReport)
    : AclReport × Bool :=
  aclReport hal vapInfo s vconf

def AclReport.empty : AclReport :=
  { macListType := [], macListPresent := false, macList := [] }

structure AclMacHal.Stores (hal : AclMacHal η) (index : Int) (acl : η → List MacAddr) : Prop where
  del : ∀ h, acl (hal.delApAclDevices h index).1 = []
  add : ∀ h mac, (acl h).length < maxAclNumber →
    acl (hal.addApAclDevice h index mac).1 = acl h ++ [mac]
  get : ∀ h, (acl h).length ≤ maxAclNumber →
    hal.getApAclDevices h index maxAclNumber = some (acl h)

def ReportsList (macList : List CStr) (report : AclReport × Bool) : Prop :=
  report.2 = true ∧ report.1.macListPresent = true ∧ report.1.macList = macList

def AclRoundTrips (hal : AclMacHal η) (macList : List CStr) (t : AclApplied (AclMacState η)) : Prop :=
  ReportsList macList (aclToState hal t.vapInfo t.state .empty)
    ∧ ReportsList macList (aclToConfig hal t.vapInfo t.state .empty)

def FilterNamed (vapInfo : VapInfo) : Prop :=
  vapInfo.bssInfo.macFilterEnable = true →
    vapInfo.bssInfo.macFilterMode ∈ mapAclModes.map Prod.fst

def FilterSettled (vconf : AclConf) (changed : AclFlags) (vapInfo : VapInfo) : Prop :=
  (changed.macListType = true ∧ vconf.macListTypeExists = true) ∨ FilterNamed vapInfo

end

theorem aclModeStr_ne_nil_iff (mode : MacFilterMode)
    : (aclModeStr mode).length ≠ 0 ↔ mode ∈ mapAclModes.map Prod.fst := by
  cases mode with
  | blackList => decide
  | whiteList => decide
  | other val => simp [aclModeStr, mapAclModes]

section

variable {η : Type} {hal : AclMacHal η} {index : Int} {acl : η → List MacAddr}

theorem addAclMac_lower (hal : AclMacHal η) (index : Int) (s : AclMacState η) (mac : MacAddr)
    : (addAclMac hal index s mac.lower).hal = (hal.addApAclDevice s.hal index mac).1 := by
  unfold addAclMac
  rw [sscanfMac_lower]

theorem foldl_addAclMac (hstores : hal.Stores index acl) (macs : List MacAddr) (s : AclMacState η)
    (hroom : (acl s.hal).length + macs.length ≤ maxAclNumber)
    : acl ((macs.map MacAddr.lower).foldl (addAclMac hal index) s).hal = acl s.hal ++ macs := by
  induction macs generalizing s with
  | nil => simp
  | cons mac macs ih =>
    rw [List.length_cons] at hroom
    have hadd := hstores.add s.hal mac (by omega)
    rw [List.map_cons, List.foldl_cons, ih]
    . rw [addAclMac_lower, hadd, List.append_assoc, List.singleton_append]
    . rw [addAclMac_lower, hadd, List.length_append, List.length_singleton]
      omega

theorem setAclMacs_stored (hstores : hal.Stores index acl) {vconf : AclConf} {macs : List MacAddr}
    (hmacs : vconf.macList = macs.map MacAddr.lower) (hlength : macs.length ≤ maxAclNumber)
    (s : AclMacState η)
    : acl (setAclMacs hal index vconf s).hal = macs := by
  have hflush := hstores.del s.hal
  unfold setAclMacs
  rw [hmacs]
  dsimp only
  rw [foldl_addAclMac hstores]
  . dsimp only
    rw [hflush, List.nil_append]
  . dsimp only
    rw [hflush, List.length_nil]
    omega

theorem filterNamed_iff_of_filterStep {vconf : AclConf} {changed : AclFlags} {vapInfo : VapInfo}
    {bssInfo : BssInfo} (hstep : FilterStep vconf changed vapInfo.bssInfo bssInfo)
    : FilterNamed { vapInfo with bssInfo } ↔ FilterSettled vconf changed vapInfo := by
  unfold FilterSettled
  cases hstep with
  | unchanged hkeeps =>
    simp only [hkeeps, false_or]
  | disabled hsets hnone => simp [FilterNamed, hsets]
  | enabled hsets citem hmem htype =>
    have hnamed := List.mem_map_of_mem (f := Prod.fst) hmem
    simp only [hsets, and_self, true_or, iff_true]
    intro _
    exact hnamed

theorem reportsList_aclReport_iff (hstores : hal.Stores index acl) (vapInfo : VapInfo)
    (hindex : (vapInfo.vapIndex : Int) = index) {s : AclMacState η}
    (hlength : (acl s.hal).length ≤ maxAclNumber) (macList : List CStr)
    : ReportsList macList (aclReport hal vapInfo s .empty)
        ↔ FilterNamed vapInfo ∧ (acl s.hal).map (snprintfMac macStrLen) = macList := by
  have happend : ∀ macListType,
      ReportsList macList (aclReport.appendMacs hal vapInfo s { AclReport.empty with macListType })
        ↔ (acl s.hal).map (snprintfMac macStrLen) = macList := by
    intro macListType
    unfold aclReport.appendMacs
    rw [hindex, hstores.get s.hal hlength]
    simp [ReportsList, AclReport.empty]
  unfold aclReport FilterNamed
  split
  . next henabled =>
    rw [← aclModeStr_ne_nil_iff]
    dsimp only
    split
    . next hunnamed =>
      simp [ReportsList, henabled, hunnamed]
    . next hnamed =>
      rw [happend]
      simp [hnamed]
  . next hdisabled =>
    rw [happend]
    simp [hdisabled]

theorem map_snprintfMac_iff (macs : List MacAddr)
    : macs.map (snprintfMac macStrLen) = macs.map MacAddr.lower
        ↔ ∀ mac ∈ macs, ∀ octet ∈ octets mac, 16 ≤ octet.toNat := by
  rw [List.map_inj_left]
  simp only [macStrLen, snprintfMac_eq_lower_iff]

/-- `%hhx` prints an octet below 16 as one digit, which is not how the list was configured. -/
theorem aclRoundTrips_iff {build : AclBuild} {vconf : AclConf} {changed : AclFlags}
    {s : AclApplied (AclMacState η)} {macs : List MacAddr} (hstores : hal.Stores index acl)
    (hindex : (s.vapInfo.vapIndex : Int) = index) (hmanages : build.Manages s.vapInfo)
    (haccepted : vconf.Accepted changed) (hmacList : changed.macList = true)
    (hmacs : vconf.macList = macs.map MacAddr.lower) (hlength : macs.length ≤ maxAclNumber)
    : AclRoundTrips hal vconf.macList (aclApply build (setAclMacs hal index vconf) vconf changed s)
        ↔ (∀ mac ∈ macs, ∀ octet ∈ octets mac, 16 ≤ octet.toNat)
            ∧ FilterSettled vconf changed s.vapInfo := by
  have ⟨bssInfo, trigger, hstep, happly⟩ :=
    aclApply_cases (setAclMacs hal index vconf) hmanages haccepted
  have hstored := setAclMacs_stored hstores hmacs hlength s.state
  have hreports := reportsList_aclReport_iff hstores { s.vapInfo with bssInfo } hindex
    (s := setAclMacs hal index vconf s.state) (by rw [hstored]; exact hlength) vconf.macList
  rw [happly]
  simp only [hmacList, ↓reduceIte]
  unfold AclRoundTrips aclToState aclToConfig
  rw [and_self, hreports, filterNamed_iff_of_filterStep hstep, hstored, hmacs, map_snprintfMac_iff,
    and_comm]

end

def storingHal : AclMacHal (List MacAddr) :=
  { delApAclDevices := fun _ _ => ([], true)
    addApAclDevice := fun h _ mac => (h ++ [mac], true)
    getApAclDevices := fun h _ max => if h.length ≤ max then some h else none
  }

theorem storingHal_stores (index : Int)
    : storingHal.Stores index id := by
  constructor
  . intro h
    rfl
  . intro h mac _
    rfl
  . intro h hlength
    exact if_pos hlength

def listed (macs : List MacAddr) : AclConf :=
  { macListTypeExists := true, macListType := cstr "whitelist", macList := macs.map MacAddr.lower }

def homeAcl : AclApplied (AclMacState (List MacAddr)) :=
  { vapInfo := homeVap, triggerReconfigure := false, state := { hal := [], calls := [] } }

def longMac : MacAddr :=
  { b0 := 0xa2, b1 := 0x10, b2 := 0x18, b3 := 0x7f, b4 := 0xc0, b5 := 0xff }

def shortMac : MacAddr :=
  { longMac with b5 := 0x01 }

theorem aclRoundTrips_iff_long
    : AclRoundTrips storingHal (listed [longMac]).macList
          (aclApply extHomeAcls (setAclMacs storingHal 0 (listed [longMac])) (listed [longMac])
            ⟨true, true⟩ homeAcl) := by
  have hmacs : (listed [longMac]).macList = [longMac].map MacAddr.lower := rfl
  apply (aclRoundTrips_iff (storingHal_stores 0) _ _ _ _ hmacs _).mpr
  . refine ⟨?_, .inl ⟨rfl, rfl⟩⟩
    intro mac hmac octet hoctet
    have hlong : (octets longMac).all (fun octet => decide (16 ≤ octet.toNat)) = true := rfl
    rw [List.mem_singleton.mp hmac] at hoctet
    exact of_decide_eq_true (List.all_eq_true.mp hlong octet hoctet)
  . rfl
  . exact Or.inl rfl
  . intro _ _
    decide
  . rfl
  . decide

theorem not_aclRoundTrips_short
    : ¬ AclRoundTrips storingHal (listed [shortMac]).macList
          (aclApply extHomeAcls (setAclMacs storingHal 0 (listed [shortMac])) (listed [shortMac])
            ⟨true, true⟩ homeAcl) := by
  intro ⟨⟨_, _, hlist⟩, _⟩
  have hreported : [cstr "a2:10:18:7f:c0:1"] = [cstr "a2:10:18:7f:c0:01"] := hlist
  exact absurd hreported (by decide)

end Vif
end OpenSyncRdk
