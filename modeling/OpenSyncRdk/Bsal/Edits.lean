import OpenSyncRdk.Bsal.Store

/-!
What the operations on the group do to its entries: which of them they change, and what stays of an
operation that fails.
-/

namespace OpenSyncRdk
namespace Bsal

def DistinctNames (ifaces : List Iface) : Prop :=
  ifaces.Pairwise fun lhs rhs => lhs.configured → rhs.configured →
    lhs.bsalCfg.ifname ≠ rhs.bsalCfg.ifname

structure HitsNamed (op : Op) (env : Env) (ifcfg : IfConfig) (group : Group) (out : Outcome)
    : Prop where
  others : List.Forall₂ (fun old new => ¬old.named ifcfg.ifname → new = old) group.iface
    out.group.iface
  hit : ∀ iface, lookupIfname env.toRadios ifcfg = some iface → out.ret = 0 →
    List.Forall₂ (fun old new => old.named ifcfg.ifname → new = (op.edit env iface).entry)
      group.iface out.group.iface
  distinct : DistinctNames out.group.iface
  absent : (∀ old ∈ group.iface, ¬old.named ifcfg.ifname) → out.ret = -1 ∧ out.group = group

theorem HitsNamed.error (op : Op) {env : Env} {ifcfg : IfConfig} {group : Group}
    (hdistinct : DistinctNames group.iface)
    : HitsNamed op env ifcfg group (Outcome.error group) := by
  constructor
  . simp [Outcome.error, List.forall₂_same]
  . intro iface _ hret
    contradiction
  . exact hdistinct
  . intro _
    exact ⟨rfl, rfl⟩

theorem Op.Edits.find {op : Op} {env : Env} {group : Group} {ifcfg : IfConfig} {iface : Iface}
    {pre : List Iface} {old : Iface} {post : List Iface} {out : Outcome}
    (hedits : op.Edits env group ifcfg iface pre old post out)
    : group.iface.find? (op.edit env iface).slot = some old := by
  rw [hedits.slots, List.find?_eq_some_iff_append]
  refine ⟨hedits.slot, pre, post, rfl, ?_⟩
  intro slot hmem
  simp [hedits.first slot hmem]

theorem named_of_distinct {pre post : List Iface} {old : Iface} {ifname : CStr}
    (hdistinct : DistinctNames (pre ++ old :: post)) (hold : old.named ifname)
    : ∀ other ∈ pre ++ post, ¬other.named ifname := by
  unfold DistinctNames at hdistinct
  simp only [Iface.named, decide_eq_true_eq] at hold ⊢
  rw [List.pairwise_append, List.pairwise_cons] at hdistinct
  rcases hdistinct with ⟨_, ⟨hpost, _⟩, hpre⟩
  intro other hmem hnamed
  rw [List.mem_append] at hmem
  rcases hmem with hmem | hmem
  . apply hpre other hmem old (by simp) hnamed.1 hold.1
    rw [← hnamed.2, ← hold.2]
  . apply hpost other hmem hold.1 hnamed.1
    rw [← hnamed.2, ← hold.2]

theorem distinctNames_replace {pre post : List Iface} {old new : Iface}
    (hdistinct : DistinctNames (pre ++ old :: post))
    (hname : new.configured → old.configured ∧ new.bsalCfg.ifname = old.bsalCfg.ifname)
    : DistinctNames (pre ++ new :: post) := by
  apply Slots.pairwise_replace hdistinct
  . intro slot _ hne hslot hnew
    rw [(hname hnew).2]
    exact hne hslot (hname hnew).1
  . intro slot _ hne hnew hslot
    rw [(hname hnew).2]
    exact hne (hname hnew).1 hslot

section

variable {op : Op} {env : Env} {group : Group} {ifcfg : IfConfig} {iface : Iface} {pre : List Iface}
  {old : Iface} {post : List Iface} {out : Outcome}

theorem Op.Edits.hitsNamed (hedits : op.Edits env group ifcfg iface pre old post out)
    (hop : op = .update ∨ op = .remove) (hdistinct : DistinctNames group.iface)
    (hold : old.named ifcfg.ifname)
    : HitsNamed op env ifcfg group out := by
  rw [hedits.slots] at hdistinct
  have hothers := named_of_distinct hdistinct hold
  constructor
  . rw [hedits.slots, hedits.group, Slots.forall₂_replace]
    constructor
    . intro hnot
      contradiction
    . intro slot _ _
      rfl
  . intro iface' hlookup _
    have hsame := hedits.lookup.symm.trans hlookup
    injection hsame with hsame
    rw [hedits.slots, hedits.group, Slots.forall₂_replace, hsame]
    constructor
    . intro _
      rfl
    . intro slot hmem hslot
      exact absurd hslot (hothers slot hmem)
  . rw [hedits.group]
    apply distinctNames_replace hdistinct
    intro hconfigured
    rcases hop with hop | hop
    . have ⟨_, hcfg⟩ := lookupIfname_some hedits.lookup
      simp only [Iface.named, decide_eq_true_eq] at hold
      rw [hop]
      exact ⟨hold.1, hcfg ▸ hold.2⟩
    . rw [hop] at hconfigured
      contradiction
  . intro habsent
    rw [hedits.slots] at habsent
    exact absurd hold (habsent old (by simp))

theorem Op.Edits.named_of_hitsNamed (hedits : op.Edits env group ifcfg iface pre old post out)
    (hop : op = .update ∨ op = .remove) (hhits : HitsNamed op env ifcfg group out)
    : old.named ifcfg.ifname := by
  apply Decidable.byContradiction
  intro hnot
  have hothers := hhits.others
  rw [hedits.slots, hedits.group, Slots.forall₂_replace] at hothers
  have hsame := hothers.1 hnot
  have hslot := hedits.slot
  rcases hop with hop | hop
  . simp only [hop, Op.edit] at hsame
    rw [← hsame, lookupIfname_named hedits.lookup] at hnot
    contradiction
  . -- the entry had the band of a configured one, so that clearing it was a change
    simp only [hop, Op.edit, decide_eq_true_eq] at hsame hslot
    have hconfigured := lookupIfname_configured hedits.lookup
    rw [← hsame] at hslot
    simp [Iface.configured, ← hslot, Iface.zero] at hconfigured

theorem hitsNamed_iff (hop : op = .update ∨ op = .remove) (hdistinct : DistinctNames group.iface)
    (hcall : op.call env group ifcfg = some out)
    : HitsNamed op env ifcfg group out
        ↔
      ∀ iface, lookupIfname env.toRadios ifcfg = some iface →
        ∀ first, group.iface.find? (fun entry => entry.band = iface.band) = some first →
          first.named ifcfg.ifname := by
  have hslot : ∀ iface, (op.edit env iface).slot = fun entry => decide (entry.band = iface.band) := by
    intro iface
    rcases hop with hop | hop <;> rw [hop] <;> rfl
  rcases Op.call_cases hcall with ⟨herror, hnone⟩ | ⟨iface, pre, old, post, hedits⟩
  . rw [herror]
    apply iff_of_true (HitsNamed.error op hdistinct)
    intro iface hlookup first hfind
    rcases hnone iface hlookup with hrefused | hnone
    . rcases hop with hop | hop <;> simp [hop, Op.refused] at hrefused
    . rw [hslot, hfind] at hnone
      contradiction
  . have hfind := hedits.find
    rw [hslot] at hfind
    constructor
    . intro hhits iface' hlookup first hfirst
      have hsame := hedits.lookup.symm.trans hlookup
      injection hsame with hsame
      rw [← hsame, hfind] at hfirst
      injection hfirst with hfirst
      rw [← hfirst]
      apply hedits.named_of_hitsNamed hop hhits
    . intro hnamed
      apply hedits.hitsNamed hop hdistinct
      exact hnamed iface hedits.lookup old hfind

end

def twoOf5G : Group :=
  { index := 0, iface := [record (cstr "ath1") band5G 1, record (cstr "ath2") band5G 2] }

theorem hitsNamed_iff_first
    : ∃ out, Op.remove.call (threeRadios address) twoOf5G (steered (cstr "ath1")) = some out
        ∧ HitsNamed .remove (threeRadios address) (steered (cstr "ath1")) twoOf5G out := by
  refine ⟨_, rfl, ?_⟩
  have hdistinct : DistinctNames twoOf5G.iface := by
    simp only [twoOf5G, DistinctNames, List.pairwise_cons, List.Pairwise.nil]
    decide
  apply (hitsNamed_iff (.inr rfl) hdistinct rfl).mpr
  intro iface hlookup first hfind
  have hiface : iface = record (cstr "ath1") band5G 1 := by
    have hsome : lookupIfname (threeRadios address).toRadios (steered (cstr "ath1"))
        = some (record (cstr "ath1") band5G 1) := by
      decide
    rw [hsome] at hlookup
    injection hlookup with hlookup
    exact hlookup.symm
  subst hiface
  have hfirst : first = record (cstr "ath1") band5G 1 := by
    injection hfind with hfind
    exact hfind.symm
  rw [hfirst]
  decide

theorem not_hitsNamed_second
    : ¬∀ (op : Op) (env : Env) (ifcfg : IfConfig) (group : Group) (out : Outcome),
        op = .update ∨ op = .remove
          → DistinctNames group.iface
          → op.call env group ifcfg = some out
          → HitsNamed op env ifcfg group out := by
  intro hall
  have hdistinct : DistinctNames twoOf5G.iface := by
    simp only [twoOf5G, DistinctNames, List.pairwise_cons, List.Pairwise.nil]
    decide
  have hcall : Op.remove.call (threeRadios address) twoOf5G (steered (cstr "ath2")) = some
      { group := { index := 0, iface := [Iface.zero, record (cstr "ath2") band5G 2] }
        setGroup := none, ret := 0 } := by
    rfl
  have hothers := (hall _ _ _ _ _ (.inr rfl) hdistinct hcall).others
  simp only [twoOf5G, List.forall₂_cons] at hothers
  revert hothers
  decide

def Op.Completes (env : Env) (group : Group) (iface : Iface) (op : Op) : Prop :=
  ∀ entry ∈ (op.edit env iface).entry :: group.iface.eraseP (op.edit env iface).slot,
    entry.configured = decide (op ≠ .remove)

section

variable {op : Op} {env : Env} {group : Group} {ifcfg : IfConfig} {iface : Iface} {pre : List Iface}
  {old : Iface} {post : List Iface} {out : Outcome}

theorem Op.reports_iff (group : Group) (op : Op)
    : op.reports group ↔ ∀ entry ∈ group.iface, entry.configured = decide (op ≠ .remove) := by
  cases op <;> simp [Op.reports, isGroupInitialized, isGroupUninitialized]

theorem pushGroup_ret (hpush : pushGroup env group = some out)
    : out.ret = -1 ↔ isGroupInitialized group ∧ ¬env.setGroupOk := by
  unfold pushGroup at hpush
  split at hpush
  . next hinitialized =>
    split at hpush
    . contradiction
    . injection hpush with hpush
      rw [← hpush]
      cases env.setGroupOk <;> simp [hinitialized]
  . next hunconfigured =>
    injection hpush with hpush
    rw [← hpush]
    simp [hunconfigured]

theorem dropGroup_ret (env : Env) (group : Group)
    : (dropGroup env group).ret = -1 ↔ isGroupUninitialized group ∧ ¬env.setGroupOk := by
  unfold dropGroup
  split
  . next hempty =>
    cases env.setGroupOk <;> simp [hempty]
  . next hsome =>
    simp [hsome]

theorem Op.finish_ret (hfinish : op.finish env group = some out)
    : out.ret = -1 ↔ op.reports group ∧ ¬env.setGroupOk := by
  cases op with
  | add => apply pushGroup_ret hfinish
  | update => apply pushGroup_ret hfinish
  | remove =>
    injection hfinish with hfinish
    rw [← hfinish]
    apply dropGroup_ret

theorem Op.Edits.completes_iff (hedits : op.Edits env group ifcfg iface pre old post out)
    : op.reports out.group ↔ op.Completes env group iface := by
  have herase : group.iface.eraseP (op.edit env iface).slot = pre ++ post := by
    rw [hedits.slots, List.eraseP_append_right _ hedits.first]
    simp [hedits.slot]
  rw [Op.reports_iff, hedits.group]
  unfold Op.Completes
  rw [herase]
  simp only [List.forall_mem_append, List.forall_mem_cons]
  apply and_left_comm

theorem Op.Edits.group_eq_iff (hedits : op.Edits env group ifcfg iface pre old post out)
    : out.group = group ↔ old = (op.edit env iface).entry := by
  rcases group with ⟨index, slots⟩
  have hslots : slots = pre ++ old :: post := hedits.slots
  rw [hedits.group, hslots]
  simp [eq_comm]

/--
Nothing is rolled back: the operations are atomic unless the edit completes the group and
`wifi_steering_setGroup` then fails.
-/
theorem unchanged_iff (hcall : op.call env group ifcfg = some out)
    : (out.ret = -1 → out.group = group)
        ↔
      ∀ iface old, lookupIfname env.toRadios ifcfg = some iface → ¬op.refused group ifcfg.ifname →
        group.iface.find? (op.edit env iface).slot = some old → op.Completes env group iface →
          env.setGroupOk ∨ old = (op.edit env iface).entry := by
  rcases Op.call_cases hcall with ⟨herror, hnone⟩ | ⟨iface, pre, old, post, hedits⟩
  . rw [herror]
    apply iff_of_true
    . intro _
      rfl
    . intro iface old hlookup haccepted hfind
      rcases hnone iface hlookup with hrefused | hnone
      . contradiction
      . rw [hfind] at hnone
        contradiction
  . rw [Op.finish_ret hedits.finish, hedits.completes_iff, hedits.group_eq_iff]
    constructor
    . intro hatomic iface' old' hlookup _ hfind hcompletes
      have hiface := hedits.lookup.symm.trans hlookup
      injection hiface with hiface
      rw [← hiface] at hfind hcompletes ⊢
      have hold := hedits.find.symm.trans hfind
      injection hold with hold
      rw [← hold]
      by_cases hok : env.setGroupOk
      . exact .inl hok
      . exact .inr (hatomic ⟨hcompletes, hok⟩)
    . intro hall ⟨hcompletes, hfails⟩
      have hor := hall iface old hedits.lookup hedits.accepted hedits.find hcompletes
      exact hor.resolve_left hfails

end

def opStep (group : Group) (call : Op × Env × IfConfig) : Option Group :=
  (call.1.call call.2.1 group call.2.2).map Outcome.group

theorem unchanged_iff_duplicate
    : let group : Group := { index := 0, iface := [record (cstr "ath0") band24G 0, Iface.zero] }
      ∃ out, Op.add.call (threeRadios address) group (steered (cstr "ath0")) = some out
        ∧ out.ret = -1 ∧ (out.ret = -1 → out.group = group) := by
  intro group
  have hcall : Op.add.call (threeRadios address) group (steered (cstr "ath0"))
      = some (Outcome.error group) := by
    rfl
  refine ⟨_, hcall, rfl, ?_⟩
  apply (unchanged_iff hcall).mpr
  intro iface old _ haccepted
  have hrefused : Op.refused group (cstr "ath0") .add := by
    decide
  contradiction

theorem not_unchanged_retry
    : (¬∀ (numRadios : Nat) (calls : List (Op × Env × IfConfig)) (group : Group) (op : Op) (env : Env)
        (ifcfg : IfConfig) (out : Outcome),
        Machine.run opStep (Group.init numRadios) calls = some group
          → op.call env group ifcfg = some out
          → out.ret = -1
          → out.group = group)
      ∧ let env := threeRadios address
        ∃ out, Op.add.call { env with setGroupOk := false } (Group.init 1) (steered (cstr "ath0")) = some out
          ∧ out.ret = -1
          ∧ (Op.add.call env out.group (steered (cstr "ath0"))).map Outcome.ret = some (-1) := by
  have hcall : Op.add.call { threeRadios address with setGroupOk := false } (Group.init 1)
      (steered (cstr "ath0")) = some
      { group := { index := 0, iface := [address] }, setGroup := some [ApConfig.zero], ret := -1 } := by
    rfl
  constructor
  . intro hall
    have hsame := hall 1 [] _ _ _ _ _ rfl hcall rfl
    revert hsame
    decide
  . refine ⟨_, hcall, rfl, ?_⟩
    decide

end Bsal
end OpenSyncRdk
