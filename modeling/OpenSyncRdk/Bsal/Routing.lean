import OpenSyncRdk.Bsal.Store
import OpenSyncRdk.BsalLegacy.Event

/-!
Which interface a steering event is delivered for, in `bsal.c` and in `bsal_legacy.c`.
-/

namespace OpenSyncRdk
namespace Bsal

def HasApIndex (group : Group) (apIndex : Int) : Prop :=
  ∃ iface ∈ group.iface, iface.configured ∧ iface.wifihalCfg.apIndex = apIndex

def Routed (group : Group) (event : HalEvent) (delivered : Option Event) : Prop :=
  ∀ out, delivered = some out → ∃ iface ∈ group.iface, iface.configured
    ∧ iface.wifihalCfg.apIndex = event.apIndex ∧ out.ifname = iface.bsalCfg.ifname

def Delivers (env : EventEnv) (event : HalEvent) : Bool :=
  env.registered && env.callocEvent && event.data.known

variable {env : EventEnv} {group : Group} {list : ClientInfoList} {event : HalEvent}

theorem groupGetIfaceByApIndex_isSome (group : Group) (apIndex : Int)
    : (groupGetIfaceByApIndex group apIndex).isSome ↔ HasApIndex group apIndex := by
  unfold groupGetIfaceByApIndex HasApIndex
  rw [List.find?_isSome]
  simp

theorem groupGetIfaceByApIndex_some {apIndex : Int} {iface : Iface}
    (hget : groupGetIfaceByApIndex group apIndex = some iface)
    : iface ∈ group.iface ∧ iface.configured ∧ iface.wifihalCfg.apIndex = apIndex := by
  unfold groupGetIfaceByApIndex at hget
  have hmem := List.mem_of_find?_eq_some hget
  have hfound := List.find?_some hget
  rw [decide_eq_true_eq] at hfound
  exact ⟨hmem, hfound⟩

theorem processEvent_delivers (hdelivers : Delivers env event) (group : Group)
    (list : ClientInfoList)
    : ∃ data, (switchType (bsalClientInfoUpdate env.callocClient) list event.data).2 = some data
        ∧ (processEvent env group list event).2
          = some { ifname := ((groupGetIfaceByApIndex group event.apIndex).map
                    (fun iface => iface.bsalCfg.ifname)).getD []
                   data } := by
  unfold Delivers at hdelivers
  simp only [Bool.and_eq_true] at hdelivers
  have hsome := switchType_isSome (bsalClientInfoUpdate env.callocClient) list event.data
  rw [hdelivers.2, Option.isSome_iff_exists] at hsome
  have ⟨data, hdata⟩ := hsome
  refine ⟨data, hdata, ?_⟩
  simp only [processEvent, hdelivers, not_true_eq_false, ↓reduceIte, hdata, Option.map_some]
  cases groupGetIfaceByApIndex group event.apIndex <;> rfl

theorem processEvent_drops (hdrops : ¬Delivers env event)
    : (processEvent env group list event).2 = none := by
  unfold processEvent
  split
  . rfl
  . next hregistered =>
    split
    . rfl
    . next hcalloc =>
      rw [Decidable.not_not] at hregistered hcalloc
      simp only [Delivers, hregistered, hcalloc, Bool.and_self, Bool.true_and] at hdrops
      rw [← switchType_isSome (bsalClientInfoUpdate env.callocClient) list] at hdrops
      rw [Bool.not_eq_true, Option.isSome_eq_false_iff, Option.isNone_iff_eq_none] at hdrops
      simp only [hdrops, Option.map_none]

theorem processEvent_routed_iff (env : EventEnv) (group : Group) (list : ClientInfoList) (event : HalEvent)
    : Routed group event (processEvent env group list event).2
        ↔
      (Delivers env event → HasApIndex group event.apIndex) := by
  constructor
  . intro hrouted hdelivers
    have ⟨data, _, hout⟩ := processEvent_delivers hdelivers group list
    have ⟨iface, hmem, hconfigured, hindex, _⟩ := hrouted _ hout
    exact ⟨iface, hmem, hconfigured, hindex⟩
  . intro hindex out hout
    by_cases hdelivers : Delivers env event
    . have ⟨data, _, hevent⟩ := processEvent_delivers hdelivers group list
      have hsome := (groupGetIfaceByApIndex_isSome group event.apIndex).mpr (hindex hdelivers)
      rw [Option.isSome_iff_exists] at hsome
      have ⟨iface, hget⟩ := hsome
      have ⟨hmem, hconfigured, hap⟩ := groupGetIfaceByApIndex_some hget
      rw [hevent, hget] at hout
      injection hout with hout
      rw [← hout]
      exact ⟨iface, hmem, hconfigured, hap, rfl⟩
    . rw [processEvent_drops hdelivers] at hout
      contradiction

structure Pair (group : Group) (iface24g iface5g : Iface) : Prop where
  band24G : iface24g.band = Bsal.band24G
  band5G : iface5g.band = Bsal.band5G
  configured : group.iface.filter Iface.configured = [iface24g, iface5g]
    ∨ group.iface.filter Iface.configured = [iface5g, iface24g]

def legacyGroup (iface24g iface5g : Iface) : BsalLegacy.Group :=
  { iface24g := some
      { band := .band24G, bsalCfg := iface24g.bsalCfg, wifihalCfg := iface24g.wifihalCfg }
    iface5g := some
      { band := .band5G, bsalCfg := iface5g.bsalCfg, wifihalCfg := iface5g.wifihalCfg } }

def delivery (out : Option Event) : Option (CStr × EventType) :=
  out.map (fun out => (out.ifname, out.data.type))

/-- Of two interfaces with one index, the legacy code prefers 2.4G and `bsal.c` the first entry. -/
def NamesAgree (group : Group) (iface24g iface5g : Iface) (apIndex : Int) : Prop :=
  group.iface.filter Iface.configured = [iface5g, iface24g] →
    iface24g.wifihalCfg.apIndex = apIndex → iface5g.wifihalCfg.apIndex = apIndex →
      iface24g.bsalCfg.ifname = iface5g.bsalCfg.ifname

section

variable {iface24g iface5g : Iface}

theorem Pair.hasApIndex_iff (hpair : Pair group iface24g iface5g) (apIndex : Int)
    : HasApIndex group apIndex
        ↔
      (BsalLegacy.groupGetIfaceByApIndex (legacyGroup iface24g iface5g) apIndex).isSome := by
  have hmem : ∀ iface, (iface ∈ group.iface ∧ iface.configured)
      ↔ iface = iface24g ∨ iface = iface5g := by
    intro iface
    rw [← List.mem_filter]
    rcases hpair.configured with h | h
    . simp [h]
    . simp [h, or_comm]
  have hhas : HasApIndex group apIndex
      ↔ iface24g.wifihalCfg.apIndex = apIndex ∨ iface5g.wifihalCfg.apIndex = apIndex := by
    unfold HasApIndex
    simp only [← and_assoc, hmem, or_and_right, exists_or, exists_eq_left]
  rw [hhas]
  by_cases h24g : iface24g.wifihalCfg.apIndex = apIndex <;>
    by_cases h5g : iface5g.wifihalCfg.apIndex = apIndex <;>
      simp [BsalLegacy.groupGetIfaceByApIndex, legacyGroup, Option.filter, h24g, h5g]

theorem Pair.ifname_eq_iff (hpair : Pair group iface24g iface5g) (apIndex : Int)
    : (groupGetIfaceByApIndex group apIndex).map (fun iface => iface.bsalCfg.ifname)
        = (BsalLegacy.groupGetIfaceByApIndex (legacyGroup iface24g iface5g) apIndex).map
          (fun iface => iface.bsalCfg.ifname)
        ↔
      NamesAgree group iface24g iface5g apIndex := by
  have hget : groupGetIfaceByApIndex group apIndex
      = (group.iface.filter Iface.configured).find?
        (fun iface => iface.wifihalCfg.apIndex = apIndex) := by
    rw [List.find?_filter]
    simp [groupGetIfaceByApIndex]
  have hne : iface24g ≠ iface5g := by
    intro hsame
    have hband := hpair.band24G
    rw [hsame, hpair.band5G] at hband
    contradiction
  rw [hget]
  unfold NamesAgree
  rcases hpair.configured with hconfigured | hconfigured
  . rw [hconfigured]
    by_cases h24g : iface24g.wifihalCfg.apIndex = apIndex <;>
      by_cases h5g : iface5g.wifihalCfg.apIndex = apIndex <;>
        simp [BsalLegacy.groupGetIfaceByApIndex, legacyGroup, Option.filter, h24g, h5g, hne]
  . rw [hconfigured]
    by_cases h24g : iface24g.wifihalCfg.apIndex = apIndex <;>
      by_cases h5g : iface5g.wifihalCfg.apIndex = apIndex <;>
        simp [BsalLegacy.groupGetIfaceByApIndex, legacyGroup, Option.filter, h24g, h5g]
    -- both have the index
    apply eq_comm

theorem legacy_delivery (registered : Bool) (legacy : BsalLegacy.Group) (list : ClientInfoList)
    {data : EventData} (hdata : (switchType BsalLegacy.bsalClientInfoUpdate list event.data).2
      = some data)
    : delivery (BsalLegacy.processEvent registered legacy list event).2
        =
      if registered then
        (BsalLegacy.groupGetIfaceByApIndex legacy event.apIndex).map
          (fun iface => (iface.bsalCfg.ifname, data.type))
      else
        none := by
  unfold BsalLegacy.processEvent
  cases registered with
  | false => rfl
  | true =>
    simp only [not_true_eq_false, ↓reduceIte]
    cases BsalLegacy.groupGetIfaceByApIndex legacy event.apIndex with
    | none => rfl
    | some iface =>
      simp [delivery, hdata]

theorem legacy_drops (registered : Bool) (legacy : BsalLegacy.Group) (list : ClientInfoList)
    (hdata : (switchType BsalLegacy.bsalClientInfoUpdate list event.data).2 = none)
    : (BsalLegacy.processEvent registered legacy list event).2 = none := by
  unfold BsalLegacy.processEvent
  split
  . rfl
  . split
    . rfl
    . simp only [hdata, Option.map_none]

theorem delivery_eq_iff_heard (list list' : ClientInfoList) {data : EventData}
    (hpair : Pair group iface24g iface5g) (hregistered : env.registered)
    (hdata : (switchType BsalLegacy.bsalClientInfoUpdate list' event.data).2 = some data)
    : delivery (processEvent env group list event).2
        = delivery (BsalLegacy.processEvent env.registered (legacyGroup iface24g iface5g) list' event).2
        ↔
      (env.callocEvent ↔ HasApIndex group event.apIndex)
        ∧ (HasApIndex group event.apIndex → NamesAgree group iface24g iface5g event.apIndex) := by
  have hknown := switchType_isSome BsalLegacy.bsalClientInfoUpdate list' event.data
  rw [hdata, Option.isSome_some] at hknown
  have hbsal := groupGetIfaceByApIndex_isSome group event.apIndex
  have hlegacy := hpair.hasApIndex_iff event.apIndex
  rw [← hbsal] at hlegacy
  rw [legacy_delivery env.registered _ list' hdata, ← hpair.ifname_eq_iff event.apIndex, ← hbsal]
  cases hcalloc : env.callocEvent with
  | false =>
    have hdrops : ¬Delivers env event := by
      simp [Delivers, hcalloc]
    rw [processEvent_drops hdrops]
    cases hget : BsalLegacy.groupGetIfaceByApIndex (legacyGroup iface24g iface5g) event.apIndex with
    | none =>
      rw [hget, Option.isSome_none] at hlegacy
      simp [delivery, hlegacy]
    | some legacy =>
      rw [hget, Option.isSome_some] at hlegacy
      simp [delivery, hlegacy, hregistered]
  | true =>
    have hdelivers : Delivers env event := by
      simp [Delivers, hregistered, hcalloc, ← hknown]
    have ⟨data', hdata', hout⟩ := processEvent_delivers hdelivers group list
    have hswitch := switchType_data (bsalClientInfoUpdate env.callocClient)
      BsalLegacy.bsalClientInfoUpdate list list' event.data
    rw [hdata', hdata] at hswitch
    injection hswitch with hswitch
    rw [hout]
    cases hget : BsalLegacy.groupGetIfaceByApIndex (legacyGroup iface24g iface5g) event.apIndex with
    | none =>
      rw [hget, Option.isSome_none] at hlegacy
      simp [delivery, hlegacy]
    | some legacy =>
      rw [hget, Option.isSome_some] at hlegacy
      have ⟨iface, hiface⟩ := Option.isSome_iff_exists.mp (hlegacy.mpr rfl)
      simp [delivery, hiface, hswitch, hregistered]

theorem delivery_eq_iff (env : EventEnv) (list list' : ClientInfoList) (event : HalEvent)
    (hpair : Pair group iface24g iface5g)
    : delivery (processEvent env group list event).2
        = delivery (BsalLegacy.processEvent env.registered (legacyGroup iface24g iface5g) list' event).2
        ↔
      (env.registered → event.data.known → (env.callocEvent ↔ HasApIndex group event.apIndex)
        ∧ (HasApIndex group event.apIndex →
          NamesAgree group iface24g iface5g event.apIndex)) := by
  have hknown := switchType_isSome BsalLegacy.bsalClientInfoUpdate list' event.data
  cases hdata : (switchType BsalLegacy.bsalClientInfoUpdate list' event.data).2 with
  | none =>
    rw [hdata] at hknown
    have hdrops : ¬Delivers env event := by
      simp [Delivers, ← hknown]
    rw [legacy_drops env.registered _ list' hdata, processEvent_drops hdrops]
    simp [← hknown]
  | some data =>
    rw [hdata] at hknown
    have hknown' : event.data.known := hknown.symm
    by_cases hregistered : env.registered
    . rw [delivery_eq_iff_heard list list' hpair hregistered hdata]
      simp [hregistered, hknown']
    . have hdrops : ¬Delivers env event := by
        simp [Delivers, hregistered]
      rw [legacy_delivery env.registered _ list' hdata, processEvent_drops hdrops]
      simp [delivery, hregistered]

/--
The search for the interface cannot fail, so an event for an unknown index is delivered too, with an
empty name, unless it is dropped for another reason.
-/
theorem routed_iff (env : EventEnv) (list list' : ClientInfoList) (event : HalEvent)
    : (∀ group, Routed group event (processEvent env group list event).2
          ↔
        (Delivers env event → HasApIndex group event.apIndex))
      ∧ ∀ group iface24g iface5g, Pair group iface24g iface5g →
        (delivery (processEvent env group list event).2
            = delivery (BsalLegacy.processEvent env.registered (legacyGroup iface24g iface5g) list'
              event).2
            ↔
          (env.registered → event.data.known → (env.callocEvent ↔ HasApIndex group event.apIndex)
            ∧ (HasApIndex group event.apIndex →
              NamesAgree group iface24g iface5g event.apIndex))) := by
  constructor
  . intro group
    apply processEvent_routed_iff
  . intro group iface24g iface5g hpair
    apply delivery_eq_iff env list list' event hpair

end

def allOk : EventEnv :=
  { registered := true, callocEvent := true, callocClient := true }

def pairGroup : Group :=
  { index := 0, iface := [record (cstr "ath0") band24G 0, record (cstr "ath1") band5G 1] }

theorem pairGroup_pair
    : Pair pairGroup (record (cstr "ath0") band24G 0) (record (cstr "ath1") band5G 1) := by
  constructor
  . rfl
  . rfl
  . exact .inl rfl

theorem routed_iff_pair
    : let event : HalEvent := { apIndex := 1, data := .chanUtilization 40 }
      Routed pairGroup event (processEvent allOk pairGroup [] event).2
        ∧ delivery (processEvent allOk pairGroup [] event).2
          = delivery (BsalLegacy.processEvent true (legacyGroup (record (cstr "ath0") band24G 0)
            (record (cstr "ath1") band5G 1)) [] event).2 := by
  intro event
  have hindex : HasApIndex pairGroup event.apIndex := by
    refine ⟨record (cstr "ath1") band5G 1, ?_⟩
    decide
  have hrouted := routed_iff allOk [] [] event
  constructor
  . apply (hrouted.1 pairGroup).mpr
    intro _
    exact hindex
  . apply (hrouted.2 pairGroup _ _ pairGroup_pair).mpr
    intro _ _
    constructor
    . simp [allOk, hindex]
    . intro _ horder
      revert horder
      decide

theorem not_routed_unknown
    : ¬∀ (env : EventEnv) (group : Group) (list : ClientInfoList) (event : HalEvent),
        Routed group event (processEvent env group list event).2 := by
  intro hall
  have hrouted := hall allOk pairGroup [] { apIndex := 7, data := .chanUtilization 40 }
  have ⟨iface, hmem, _, hindex, _⟩ := hrouted _ rfl
  revert iface
  decide

end Bsal
end OpenSyncRdk
