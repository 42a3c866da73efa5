import OpenSyncRdk.Lib.Bytes
import OpenSyncRdk.Lib.Machine
import OpenSyncRdk.Lib.Slots

/-!
The group of interfaces that are steered, `bsal.c`. `Env` holds what one call gets from outside: the
answers of the wifi HAL, whether its `calloc` succeeds, and in `image` the record that is found on the
stack from the address of the parameter `iface` of `group_add_iface` on. An operation has no outcome
if it writes through the null pointer that `calloc` returned.
-/

namespace OpenSyncRdk
namespace Bsal

def bandUninitialized : Nat := 0

def band24G : Nat := 1

def band5G : Nat := 2

def band6G : Nat := 3

inductive FreqBand where
  | freq2_4
  | freq5
  | freq5L
  | freq5H
  | freq6
  | freq60
  deriving DecidableEq

structure IfConfig where
  ifname : CStr
  chanUtilCheckSec : Nat
  chanUtilAvgCount : Nat
  inactCheckSec : Nat
  inactTmoutSecNormal : Nat
  -- the fields that are copied but never read
  rest : List UInt8
  deriving DecidableEq

structure ApConfig where
  apIndex : Int
  utilCheckIntervalSec : Nat
  utilAvgCount : Nat
  inactCheckIntervalSec : Nat
  inactCheckThresholdSec : Nat
  deriving DecidableEq

structure Iface where
  band : Nat
  bsalCfg : IfConfig
  wifihalCfg : ApConfig
  deriving DecidableEq

def ApConfig.zero : ApConfig :=
  { apIndex := 0, utilCheckIntervalSec := 0, utilAvgCount := 0, inactCheckIntervalSec := 0
    inactCheckThresholdSec := 0 }

def IfConfig.zero : IfConfig :=
  { ifname := [], chanUtilCheckSec := 0, chanUtilAvgCount := 0, inactCheckSec := 0
    inactTmoutSecNormal := 0, rest := [] }

def Iface.zero : Iface :=
  { band := bandUninitialized, bsalCfg := IfConfig.zero, wifihalCfg := ApConfig.zero }

structure Group where
  index : Nat
  iface : List Iface
  deriving DecidableEq

def Group.init (numRadios : Nat) : Group :=
  { index := 0, iface := List.replicate numRadios Iface.zero }

structure Radios where
  interfaceMap : Option (List (CStr × Int))
  ssidRadioIndex : Int → Option Int
  radioBand : Int → Option FreqBand

structure Env extends Radios where
  calloc : Bool
  setGroupOk : Bool
  image : Iface

def vifIfnameToIdx (radios : Radios) (ifname : CStr) : Option Int :=
  radios.interfaceMap.bind fun map => (map.find? (fun entry => entry.1 = ifname)).map Prod.snd

/-- The first part of `lookup_ifname`, up to the switch on the band of the radio. -/
def Radios.freqBand (radios : Radios) (ifname : CStr) : Option (Int × FreqBand) :=
  match vifIfnameToIdx radios ifname with
  | none => none
  | some s =>
    match radios.ssidRadioIndex s with
    | none => none
    | some radioIndex =>
      match radios.radioBand radioIndex with
      | none => none
      | some freq => some (s, freq)

def IfConfig.apConfig (ifcfg : IfConfig) (s : Int) : ApConfig :=
  { apIndex := s
    utilCheckIntervalSec := ifcfg.chanUtilCheckSec
    utilAvgCount := ifcfg.chanUtilAvgCount
    inactCheckIntervalSec := ifcfg.inactCheckSec
    inactCheckThresholdSec := ifcfg.inactTmoutSecNormal }

def FreqBand.band : FreqBand → Nat
  | .freq2_4 => band24G
  | .freq5 | .freq5L | .freq5H => band5G
  | .freq6 | .freq60 => band6G

def lookupIfname (radios : Radios) (ifcfg : IfConfig) : Option Iface :=
  match radios.freqBand ifcfg.ifname with
  | none => none
  | some (s, freq) =>
    some { band := freq.band, bsalCfg := ifcfg, wifihalCfg := ifcfg.apConfig s }

def Iface.configured (iface : Iface) : Bool :=
  iface.band ≠ bandUninitialized

def Iface.named (ifname : CStr) (iface : Iface) : Bool :=
  iface.configured ∧ ifname = iface.bsalCfg.ifname

def groupGetIfaceByName (group : Group) (ifname : CStr) : Option Iface :=
  group.iface.find? (Iface.named ifname)

def groupAddIface (image : Iface) (group : Group) (iface : Iface) : Option Group :=
  if (groupGetIfaceByName group iface.bsalCfg.ifname).isSome then
    none
  else
    -- memcpy reads from `&iface`, the address of the parameter, so that `iface` itself is not stored
    (Slots.replaceFirst (fun slot => slot.band = bandUninitialized) image group.iface).map
      (fun ifaces => { group with iface := ifaces })

def isGroupInitialized (group : Group) : Bool :=
  group.iface.all Iface.configured

def isGroupUninitialized (group : Group) : Bool :=
  group.iface.all (fun iface => ¬iface.configured)

def groupUpdateIface (group : Group) (iface : Iface) : Option Group :=
  (Slots.replaceFirst (fun slot => slot.band = iface.band) iface group.iface).map
    (fun ifaces => { group with iface := ifaces })

def groupRemoveIface (group : Group) (iface : Iface) : Option Group :=
  (Slots.replaceFirst (fun slot => slot.band = iface.band) Iface.zero group.iface).map
    (fun ifaces => { group with iface := ifaces })

def createWifihalApConfigList (env : Env) (group : Group) : Option (List ApConfig) :=
  if env.calloc then
    -- every round of the loop copies to the start of the list
    some (group.iface.foldl (fun list iface => list.set 0 iface.wifihalCfg)
      (List.replicate group.iface.length ApConfig.zero))
  else
    none

structure Outcome where
  group : Group
  /-- The list that is passed to `wifi_steering_setGroup`, empty for the null pointer. -/
  setGroup : Option (List ApConfig)
  ret : Int

def Outcome.error (group : Group) : Outcome :=
  { group, setGroup := none, ret := -1 }

/-- What `target_bsal_iface_add` and `target_bsal_iface_update` do after their edit of the group. -/
def pushGroup (env : Env) (group : Group) : Option Outcome :=
  if isGroupInitialized group then
    match createWifihalApConfigList env group with
    | none => none
    | some list => some { group, setGroup := some list, ret := if env.setGroupOk then 0 else -1 }
  else
    some { group, setGroup := none, ret := 0 }

/-- What `target_bsal_iface_remove` does after its edit of the group. -/
def dropGroup (env : Env) (group : Group) : Outcome :=
  if isGroupUninitialized group then
    { group, setGroup := some [], ret := if env.setGroupOk then 0 else -1 }
  else
    { group, setGroup := none, ret := 0 }

def targetBsalIfaceAdd (env : Env) (group : Group) (ifcfg : IfConfig) : Option Outcome :=
  match lookupIfname env.toRadios ifcfg with
  | none => some (Outcome.error group)
  | some iface =>
    match groupAddIface env.image group iface with
    | none => some (Outcome.error group)
    | some group => pushGroup env group

def targetBsalIfaceUpdate (env : Env) (group : Group) (ifcfg : IfConfig) : Option Outcome :=
  match lookupIfname env.toRadios ifcfg with
  | none => some (Outcome.error group)
  | some iface =>
    match groupUpdateIface group iface with
    | none => some (Outcome.error group)
    | some group => pushGroup env group

def targetBsalIfaceRemove (env : Env) (group : Group) (ifcfg : IfConfig) : Option Outcome :=
  match lookupIfname env.toRadios ifcfg with
  | none => some (Outcome.error group)
  | some iface =>
    match groupRemoveIface group iface with
    | none => some (Outcome.error group)
    | some group => some (dropGroup env group)

inductive Op where
  | add
  | update
  | remove
  deriving DecidableEq

def Op.call : Op → Env → Group → IfConfig → Option Outcome
  | .add => targetBsalIfaceAdd
  | .update => targetBsalIfaceUpdate
  | .remove => targetBsalIfaceRemove

structure Edit where
  slot : Iface → Bool
  entry : Iface

def Op.edit (env : Env) (iface : Iface) : Op → Edit
  | .add => { slot := fun slot => slot.band = bandUninitialized, entry := env.image }
  | .update => { slot := fun slot => slot.band = iface.band, entry := iface }
  | .remove => { slot := fun slot => slot.band = iface.band, entry := Iface.zero }

def Op.refused (group : Group) (ifname : CStr) (op : Op) : Bool :=
  op = .add ∧ (groupGetIfaceByName group ifname).isSome

def Op.reports (group : Group) (op : Op) : Bool :=
  if op = .remove then isGroupUninitialized group else isGroupInitialized group

def Op.finish (env : Env) (group : Group) : Op → Option Outcome
  | .remove => some (dropGroup env group)
  | .add | .update => pushGroup env group

structure Op.Edits (op : Op) (env : Env) (group : Group) (ifcfg : IfConfig) (iface : Iface)
    (pre : List Iface) (old : Iface) (post : List Iface) (out : Outcome) : Prop where
  lookup : lookupIfname env.toRadios ifcfg = some iface
  accepted : ¬op.refused group ifcfg.ifname
  slots : group.iface = pre ++ old :: post
  first : ∀ slot ∈ pre, ¬(op.edit env iface).slot slot
  slot : (op.edit env iface).slot old
  group : out.group = { group with iface := pre ++ (op.edit env iface).entry :: post }
  finish : op.finish env out.group = some out

theorem FreqBand.band_cases (freq : FreqBand)
    : freq.band = band24G ∨ freq.band = band5G ∨ freq.band = band6G := by
  cases freq <;> simp [FreqBand.band]

theorem lookupIfname_some {radios : Radios} {ifcfg : IfConfig} {iface : Iface}
    (hlookup : lookupIfname radios ifcfg = some iface)
    : (iface.band = band24G ∨ iface.band = band5G ∨ iface.band = band6G)
        ∧ iface.bsalCfg = ifcfg := by
  unfold lookupIfname at hlookup
  split at hlookup
  . contradiction
  . injection hlookup with hlookup
    rw [← hlookup]
    constructor
    . apply FreqBand.band_cases
    . rfl

theorem lookupIfname_configured {radios : Radios} {ifcfg : IfConfig} {iface : Iface}
    (hlookup : lookupIfname radios ifcfg = some iface)
    : iface.configured := by
  have ⟨hband, _⟩ := lookupIfname_some hlookup
  simp only [band24G, band5G, band6G] at hband
  have hne : iface.band ≠ bandUninitialized := by
    unfold bandUninitialized
    omega
  simp [Iface.configured, hne]

theorem lookupIfname_named {radios : Radios} {ifcfg : IfConfig} {iface : Iface}
    (hlookup : lookupIfname radios ifcfg = some iface) (ifname : CStr)
    : iface.named ifname ↔ ifname = ifcfg.ifname := by
  have hconfigured := lookupIfname_configured hlookup
  have ⟨_, hcfg⟩ := lookupIfname_some hlookup
  simp [Iface.named, hconfigured, hcfg]

theorem not_named_of_uninitialized {iface : Iface} (hband : iface.band = bandUninitialized)
    (ifname : CStr)
    : ¬iface.named ifname := by
  simp [Iface.named, Iface.configured, hband]

theorem Op.call_eq (op : Op) (env : Env) (group : Group) (ifcfg : IfConfig)
    : op.call env group ifcfg
        =
      match lookupIfname env.toRadios ifcfg with
      | none => some (Outcome.error group)
      | some iface =>
        if op.refused group ifcfg.ifname then
          some (Outcome.error group)
        else
          match Slots.replaceFirst (op.edit env iface).slot (op.edit env iface).entry group.iface with
          | none => some (Outcome.error group)
          | some ifaces => op.finish env { group with iface := ifaces } := by
  cases op with
  | add =>
    unfold Op.call targetBsalIfaceAdd
    cases hlookup : lookupIfname env.toRadios ifcfg with
    | none => simp [hlookup]
    | some iface =>
      have ⟨_, hcfg⟩ := lookupIfname_some hlookup
      simp only [hlookup, groupAddIface, hcfg, refused, edit, finish, true_and, decide_eq_true_eq]
      by_cases hget : (groupGetIfaceByName group ifcfg.ifname).isSome
      . simp [hget]
      . simp only [hget, Bool.false_eq_true, ↓reduceIte]
        cases Slots.replaceFirst _ env.image group.iface <;> simp
  | update =>
    unfold Op.call targetBsalIfaceUpdate
    cases hlookup : lookupIfname env.toRadios ifcfg with
    | none => simp [hlookup]
    | some iface =>
      simp only [hlookup, groupUpdateIface, refused, edit, finish, reduceCtorEq, false_and, decide_false,
        Bool.false_eq_true, ↓reduceIte]
      cases Slots.replaceFirst _ iface group.iface <;> simp
  | remove =>
    unfold Op.call targetBsalIfaceRemove
    cases hlookup : lookupIfname env.toRadios ifcfg with
    | none => simp [hlookup]
    | some iface =>
      simp only [hlookup, groupRemoveIface, refused, edit, finish, reduceCtorEq, false_and, decide_false,
        Bool.false_eq_true, ↓reduceIte]
      cases Slots.replaceFirst _ Iface.zero group.iface <;> simp

theorem pushGroup_group {env : Env} {group : Group} {out : Outcome}
    (hpush : pushGroup env group = some out)
    : out.group = group := by
  unfold pushGroup at hpush
  split at hpush
  . split at hpush
    . contradiction
    . injection hpush with hpush
      rw [← hpush]
  . injection hpush with hpush
    rw [← hpush]

theorem Op.finish_group {op : Op} {env : Env} {group : Group} {out : Outcome}
    (hfinish : op.finish env group = some out)
    : out.group = group := by
  cases op with
  | add => apply pushGroup_group hfinish
  | update => apply pushGroup_group hfinish
  | remove =>
    unfold Op.finish dropGroup at hfinish
    injection hfinish with hfinish
    rw [← hfinish]
    split <;> rfl

theorem Op.call_cases {op : Op} {env : Env} {group : Group} {ifcfg : IfConfig} {out : Outcome}
    (hcall : op.call env group ifcfg = some out)
    : (out = Outcome.error group
        ∧ ∀ iface, lookupIfname env.toRadios ifcfg = some iface →
          op.refused group ifcfg.ifname ∨ group.iface.find? (op.edit env iface).slot = none)
      ∨ ∃ iface pre old post, op.Edits env group ifcfg iface pre old post out := by
  rw [Op.call_eq] at hcall
  cases hlookup : lookupIfname env.toRadios ifcfg with
  | none =>
    simp only [hlookup, Option.some.injEq] at hcall
    simp [hcall]
  | some iface =>
    simp only [hlookup] at hcall
    split at hcall
    . next hrefused =>
      injection hcall with hcall
      simp [hcall, hrefused]
    . next haccepted =>
      rcases Slots.replaceFirst_cases (op.edit env iface).slot (op.edit env iface).entry group.iface
        with ⟨hfind, hnone⟩ | ⟨pre, old, post, hslots, hfirst, hold, _, _, hsome⟩
      . simp only [hnone, Option.some.injEq] at hcall
        apply Or.inl
        refine ⟨hcall.symm, ?_⟩
        intro iface' hiface'
        injection hiface' with hiface'
        rw [← hiface']
        exact .inr hfind
      . simp only [hsome] at hcall
        have hgroup := Op.finish_group hcall
        apply Or.inr
        refine ⟨iface, pre, old, post, ?_⟩
        constructor
        . exact hlookup
        . exact haccepted
        . exact hslots
        . exact hfirst
        . exact hold
        . exact hgroup
        . rw [hgroup]
          exact hcall

end Bsal
end OpenSyncRdk
