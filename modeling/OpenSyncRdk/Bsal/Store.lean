import Mathlib.Data.List.Induction
import OpenSyncRdk.Bsal.Group

/-!
What the group holds after interfaces were added, and what the wifi HAL is told about it.
-/

namespace OpenSyncRdk
namespace Bsal

structure AddCall where
  env : Env
  ifcfg : IfConfig

def AddCall.lookup (call : AddCall) : Option Iface :=
  lookupIfname call.env.toRadios call.ifcfg

def addStep (group : Group) (call : AddCall) : Option Group :=
  match targetBsalIfaceAdd call.env group call.ifcfg with
  | none => none
  | some out => if out.ret = 0 then some out.group else none

structure Found (calls : List AddCall) (group : Group) : Prop where
  added : ∀ call ∈ calls, groupGetIfaceByName group call.ifcfg.ifname = call.lookup
  other : ∀ ifname, (∀ call ∈ calls, call.ifcfg.ifname ≠ ifname) →
    groupGetIfaceByName group ifname = none

theorem addStep_some {group group' : Group} {call : AddCall} (hstep : addStep group call = some group')
    : ∃ iface, call.lookup = some iface ∧ groupGetIfaceByName group call.ifcfg.ifname = none
        ∧ ∃ pre old post, group.iface = pre ++ old :: post ∧ old.band = bandUninitialized
          ∧ group' = { group with iface := pre ++ call.env.image :: post } := by
  unfold addStep at hstep
  split at hstep
  . contradiction
  . next out hcall =>
    split at hstep
    . next hret =>
      injection hstep with hstep
      rw [← hstep]
      have hop : Op.add.call call.env group call.ifcfg = some out := hcall
      rcases Op.call_cases hop with ⟨herror, _⟩ | ⟨iface, pre, old, post, hedits⟩
      . rw [herror] at hret
        contradiction
      . have hnone := hedits.accepted
        have hold := hedits.slot
        simp only [Op.refused, true_and, Bool.decide_eq_true, Bool.not_eq_true,
          Option.isSome_eq_false_iff, Option.isNone_iff_eq_none] at hnone
        simp only [Op.edit, decide_eq_true_eq] at hold
        exact ⟨iface, hedits.lookup, hnone, pre, old, post, hedits.slots, hold, hedits.group⟩
    . contradiction

theorem addStep_get_other {group group' : Group} {call : AddCall}
    (hstep : addStep group call = some group') (himage : some call.env.image = call.lookup)
    (hne : ifname ≠ call.ifcfg.ifname)
    : groupGetIfaceByName group' ifname = groupGetIfaceByName group ifname := by
  have ⟨iface, hlookup, _, pre, old, post, hslots, hold, hgroup⟩ := addStep_some hstep
  rw [hlookup] at himage
  injection himage with himage
  rw [hgroup]
  unfold groupGetIfaceByName
  rw [hslots]
  apply Slots.find?_replace
  . apply not_named_of_uninitialized hold
  . rw [himage, lookupIfname_named hlookup]
    exact hne

theorem addStep_get_added {group group' : Group} {call : AddCall}
    (hstep : addStep group call = some group')
    : groupGetIfaceByName group' call.ifcfg.ifname = call.lookup
        ↔
      some call.env.image = call.lookup := by
  have ⟨iface, hlookup, hnone, pre, old, post, hslots, hold, hgroup⟩ := addStep_some hstep
  unfold groupGetIfaceByName at hnone
  rw [hslots] at hnone
  rw [hgroup, hlookup]
  unfold groupGetIfaceByName
  have hnamed := (lookupIfname_named hlookup call.ifcfg.ifname).mpr rfl
  constructor
  . intro hget
    -- the record that is found is the one just stored, since no other has the name
    have hmem := List.mem_of_find?_eq_some hget
    rw [List.find?_eq_none] at hnone
    simp only [List.mem_append, List.mem_cons] at hmem
    rcases hmem with hmem | hmem | hmem
    . exact absurd hnamed (hnone iface (by simp [hmem]))
    . rw [hmem]
    . exact absurd hnamed (hnone iface (by simp [hmem]))
  . intro himage
    injection himage with himage
    rw [himage]
    apply Slots.find?_replace_of_none hnone hnamed

theorem found_concat_iff {group group' : Group} {calls : List AddCall} {call : AddCall}
    (hstep : addStep group call = some group')
    (hnew : ∀ other ∈ calls, other.ifcfg.ifname ≠ call.ifcfg.ifname)
    : Found (calls ++ [call]) group'
        ↔
      Found calls group ∧ some call.env.image = call.lookup := by
  have ⟨_, _, hnone, _⟩ := addStep_some hstep
  constructor
  . intro hfound
    have himage := (addStep_get_added hstep).mp (hfound.added call (by simp))
    refine ⟨⟨?_, ?_⟩, himage⟩
    . intro other hmem
      rw [← addStep_get_other hstep himage (hnew other hmem)]
      apply hfound.added
      simp [hmem]
    . intro ifname hother
      by_cases hname : ifname = call.ifcfg.ifname
      . rw [hname]
        exact hnone
      . rw [← addStep_get_other hstep himage hname]
        apply hfound.other
        intro other hmem
        rw [List.mem_append, List.mem_singleton] at hmem
        rcases hmem with hmem | hmem
        . exact hother other hmem
        . rw [hmem]
          exact Ne.symm hname
  . intro ⟨hfound, himage⟩
    constructor
    . intro other hmem
      rw [List.mem_append, List.mem_singleton] at hmem
      rcases hmem with hmem | hmem
      . rw [addStep_get_other hstep himage (hnew other hmem)]
        exact hfound.added other hmem
      . rw [hmem]
        apply (addStep_get_added hstep).mpr himage
    . intro ifname hother
      have hname := hother call (by simp)
      rw [addStep_get_other hstep himage (Ne.symm hname)]
      apply hfound.other
      intro other hmem
      apply hother
      simp [hmem]

theorem found_init (numRadios : Nat)
    : Found [] (Group.init numRadios) := by
  constructor
  . simp
  . intro ifname _
    unfold groupGetIfaceByName
    rw [List.find?_eq_none]
    intro iface hmem
    rw [List.eq_of_mem_replicate hmem]
    apply not_named_of_uninitialized rfl

/--
Since `group_add_iface` copies from the wrong address, the group holds what was looked up only if the
stack happens to hold the same bytes there.
-/
theorem found_iff_image {numRadios : Nat} {calls : List AddCall} {group : Group}
    (hnames : (calls.map (fun call => call.ifcfg.ifname)).Nodup)
    (hrun : Machine.run addStep (Group.init numRadios) calls = some group)
    : Found calls group ↔ ∀ call ∈ calls, some call.env.image = call.lookup := by
  induction calls using List.reverseRecOn generalizing group with
  | nil =>
    rw [Machine.run_nil] at hrun
    injection hrun with hrun
    rw [← hrun]
    simp [found_init]
  | append_singleton calls call ih =>
    rw [Machine.run_concat, Option.bind_eq_some_iff] at hrun
    rcases hrun with ⟨before, hrun, hstep⟩
    rw [List.map_append, List.nodup_append] at hnames
    rcases hnames with ⟨hnames, _, hnew⟩
    rw [found_concat_iff hstep]
    . rw [ih hnames hrun]
      simp [or_imp, forall_and]
    . intro other hmem
      apply hnew
      . apply List.mem_map_of_mem hmem
      . simp

def threeRadios (image : Iface) : Env :=
  { interfaceMap := some [(cstr "ath0", 0), (cstr "ath1", 1), (cstr "ath2", 2)]
    ssidRadioIndex := some
    radioBand := fun radio => some (if radio = 0 then .freq2_4 else if radio = 1 then .freq5L else .freq5H)
    calloc := true, setGroupOk := true, image }

def steered (ifname : CStr) : IfConfig :=
  { IfConfig.zero with ifname, chanUtilCheckSec := 5 }

def record (ifname : CStr) (band : Nat) (apIndex : Int) : Iface :=
  { band, bsalCfg := steered ifname
    wifihalCfg := { ApConfig.zero with apIndex, utilCheckIntervalSec := 5 } }

def address : Iface :=
  { Iface.zero with band := 0xffffd3e8 }

def addressBefore (apIndex : Int) : Iface :=
  { address with wifihalCfg := { ApConfig.zero with apIndex } }

theorem found_iff_image_two
    : let calls := [AddCall.mk (threeRadios (record (cstr "ath1") band5G 1)) (steered (cstr "ath1")),
        AddCall.mk (threeRadios (record (cstr "ath0") band24G 0)) (steered (cstr "ath0"))]
      ∃ group, Machine.run addStep (Group.init 3) calls = some group ∧ Found calls group := by
  intro calls
  have hrun : Machine.run addStep (Group.init 3) calls = some
      { index := 0
        iface := [record (cstr "ath1") band5G 1, record (cstr "ath0") band24G 0, Iface.zero] } := by
    decide
  refine ⟨_, hrun, ?_⟩
  rw [found_iff_image (by decide) hrun]
  decide

theorem not_found_address
    : ¬∀ (numRadios : Nat) (calls : List AddCall) (group : Group),
        (calls.map (fun call => call.ifcfg.ifname)).Nodup
          → Machine.run addStep (Group.init numRadios) calls = some group
          → Found calls group := by
  intro hall
  have hrun : Machine.run addStep (Group.init 1) [⟨threeRadios address, steered (cstr "ath0")⟩]
      = some { index := 0, iface := [address] } := by
    decide
  have hfound := hall 1 _ _ (by decide) hrun
  have hget := hfound.added _ (List.mem_singleton_self _)
  have hlost : groupGetIfaceByName { index := 0, iface := [address] } (steered (cstr "ath0")).ifname
      = none := by
    decide
  rw [hlost] at hget
  contradiction

/-- A parameter is stored at an aligned address, and its bytes begin with that address. -/
theorem image_ne_lookup {call : AddCall} (haligned : call.env.image.band % 4 = 0)
    : some call.env.image ≠ call.lookup := by
  intro himage
  have ⟨hband, _⟩ := lookupIfname_some himage.symm
  simp only [band24G, band5G, band6G] at hband
  omega

theorem foldl_set_zero (list : List Iface) (first : ApConfig) (rest : List ApConfig)
    : list.foldl (fun list iface => list.set 0 iface.wifihalCfg) (first :: rest)
        =
      (list.getLast?.map Iface.wifihalCfg).getD first :: rest := by
  induction list generalizing first with
  | nil => simp
  | cons iface list ih =>
    rw [List.foldl_cons, List.set_cons_zero, ih, List.getLast?_cons]
    cases list.getLast? <;> simp

theorem createWifihalApConfigList_concat {env : Env} {index : Nat} {front : List Iface}
    {last : Iface} {list : List ApConfig}
    (hcreate : createWifihalApConfigList env { index, iface := front ++ [last] } = some list)
    : list = last.wifihalCfg :: List.replicate front.length ApConfig.zero := by
  unfold createWifihalApConfigList at hcreate
  split at hcreate
  . injection hcreate with hcreate
    rw [← hcreate]
    simp only [List.length_append, List.length_cons, List.length_nil, List.replicate_succ]
    rw [foldl_set_zero]
    simp
  . contradiction

theorem last_replicate_iff (front : List Iface) (last : Iface)
    : last.wifihalCfg :: List.replicate front.length ApConfig.zero
        = (front ++ [last]).map Iface.wifihalCfg
        ↔
      (front ++ [last]).length = 1
        ∨ ∀ iface ∈ front ++ [last], iface.wifihalCfg = ApConfig.zero := by
  cases front with
  | nil => simp
  | cons first front =>
    have hrest : List.replicate (first :: front).length ApConfig.zero
          = (front ++ [last]).map Iface.wifihalCfg
        ↔ ∀ iface ∈ front ++ [last], iface.wifihalCfg = ApConfig.zero := by
      rw [eq_comm, List.eq_replicate_iff, List.forall_mem_map]
      simp
    have hlen : ¬(first :: (front ++ [last])).length = 1 := by simp
    rw [List.cons_append, List.map_cons, List.cons.injEq, hrest, List.forall_mem_cons]
    simp only [hlen, false_or]
    constructor
    . intro ⟨hfirst, hall⟩
      have hlast := hall last (by simp)
      exact ⟨hfirst ▸ hlast, hall⟩
    . intro ⟨hfirst, hall⟩
      have hlast := hall last (by simp)
      exact ⟨hlast.trans hfirst.symm, hall⟩

theorem eq_map_iff {α β : Type} {f : α → β} {list : List β} {source : List α}
    : list = source.map f
        ↔ list.length = source.length ∧ ∀ idx < list.length, list[idx]? = source[idx]?.map f := by
  constructor
  . intro heq
    rw [heq]
    simp
  . intro ⟨hlength, hall⟩
    apply List.ext_getElem?
    intro idx
    rw [List.getElem?_map]
    by_cases hidx : idx < list.length
    . exact hall idx hidx
    . rw [List.getElem?_eq_none (by omega), List.getElem?_eq_none (by omega)]
      rfl

theorem createWifihalApConfigList_eq_iff {env : Env} {group : Group} {list : List ApConfig}
    (hne : group.iface ≠ []) (hcreate : createWifihalApConfigList env group = some list)
    : list = group.iface.map Iface.wifihalCfg
        ↔
      group.iface.length = 1 ∨ ∀ iface ∈ group.iface, iface.wifihalCfg = ApConfig.zero := by
  rcases group with ⟨index, iface⟩
  have ⟨front, last, hconcat⟩ := (List.eq_nil_or_concat iface).resolve_left hne
  rw [List.concat_eq_append] at hconcat
  subst hconcat
  rw [createWifihalApConfigList_concat hcreate]
  apply last_replicate_iff

theorem pushGroup_setGroup {env : Env} {group : Group} {out : Outcome} {list : List ApConfig}
    (hpush : pushGroup env group = some out) (hlist : out.setGroup = some list)
    : createWifihalApConfigList env group = some list := by
  unfold pushGroup at hpush
  split at hpush
  . split at hpush
    . contradiction
    . next list' hcreate =>
      injection hpush with hpush
      rw [← hpush] at hlist
      injection hlist with hlist
      rw [← hlist]
      exact hcreate
  . injection hpush with hpush
    rw [← hpush] at hlist
    contradiction

theorem setGroup_eq_configs_iff {op : Op} {env : Env} {group : Group} {ifcfg : IfConfig}
    {iface : Iface} {out : Outcome} {list : List ApConfig} (hop : op = .add ∨ op = .update)
    (hlookup : lookupIfname env.toRadios ifcfg = some iface) (hcall : op.call env group ifcfg = some out)
    (hlist : out.setGroup = some list)
    : (list.length = group.iface.length
        ∧ ∀ idx < list.length, list[idx]? = (out.group.iface[idx]?).map Iface.wifihalCfg)
        ↔
      group.iface.length = 1
        ∨ ((op.edit env iface).entry.wifihalCfg = ApConfig.zero
          ∧ ∀ other ∈ group.iface.eraseP (op.edit env iface).slot,
            other.wifihalCfg = ApConfig.zero) := by
  rcases Op.call_cases hcall with ⟨herror, _⟩ | ⟨iface', pre, old, post, hedits⟩
  . rw [herror] at hlist
    contradiction
  . have hiface : iface' = iface := by
      have := hedits.lookup
      rw [hlookup] at this
      injection this with this
      exact this.symm
    subst hiface
    have hcreate : createWifihalApConfigList env out.group = some list := by
      rcases hop with hop | hop
      . subst hop
        apply pushGroup_setGroup hedits.finish hlist
      . subst hop
        apply pushGroup_setGroup hedits.finish hlist
    have herase : group.iface.eraseP (op.edit env iface').slot = pre ++ post := by
      rw [hedits.slots, List.eraseP_append_right _ hedits.first]
      simp [hedits.slot]
    have hne : out.group.iface ≠ [] := by
      rw [hedits.group]
      simp
    have hlen : group.iface.length = out.group.iface.length := by
      rw [hedits.group, hedits.slots]
      simp
    have hzero : (∀ other ∈ out.group.iface, other.wifihalCfg = ApConfig.zero)
        ↔ (op.edit env iface').entry.wifihalCfg = ApConfig.zero
          ∧ ∀ other ∈ pre ++ post, other.wifihalCfg = ApConfig.zero := by
      rw [hedits.group]
      simp only [List.forall_mem_append, List.forall_mem_cons]
      apply and_left_comm
    rw [hlen, herase, ← hzero, ← createWifihalApConfigList_eq_iff hne hcreate, eq_map_iff]

theorem setGroup_eq_configs_iff_one
    : let group : Group := { index := 0, iface := [record (cstr "ath0") band24G 0] }
      let env := threeRadios address
      let ifcfg := { steered (cstr "ath0") with chanUtilCheckSec := 9 }
      ∃ out list, Op.update.call env group ifcfg = some out ∧ out.setGroup = some list
        ∧ ∀ idx < list.length, list[idx]? = (out.group.iface[idx]?).map Iface.wifihalCfg := by
  intro group env ifcfg
  have hlookup : lookupIfname env.toRadios ifcfg = some
      { record (cstr "ath0") band24G 0 with
        bsalCfg := ifcfg, wifihalCfg := { ApConfig.zero with utilCheckIntervalSec := 9 } } := by
    decide
  have hout : ∃ out, Op.update.call env group ifcfg = some out ∧ ∃ list, out.setGroup = some list :=
    ⟨_, rfl, _, rfl⟩
  rcases hout with ⟨out, hcall, list, hlist⟩
  have hiff := setGroup_eq_configs_iff (.inr rfl) hlookup hcall hlist
  exact ⟨out, list, hcall, hlist, (hiff.mpr (.inl rfl)).2⟩

theorem not_setGroup_eq_configs_two
    : ¬∀ (op : Op) (env : Env) (group : Group) (ifcfg : IfConfig) (out : Outcome)
        (list : List ApConfig),
        op = .add ∨ op = .update
          → op.call env group ifcfg = some out
          → out.setGroup = some list
          → list.length = group.iface.length
            ∧ ∀ idx < list.length, list[idx]? = (out.group.iface[idx]?).map Iface.wifihalCfg := by
  intro hall
  have hwrong := (hall .add (threeRadios (addressBefore 9))
    { index := 0, iface := [addressBefore 7, Iface.zero] } (steered (cstr "ath1"))
    _ _ (.inl rfl) rfl rfl).2 0
  revert hwrong
  decide

end Bsal
end OpenSyncRdk
