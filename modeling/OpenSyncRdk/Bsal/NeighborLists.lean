import OpenSyncRdk.Bsal.Neighbors

/-!
Whether the table of neighbors, what the calls on it return, and what the wifi HAL has accepted agree.
-/

namespace OpenSyncRdk
namespace Bsal

theorem neighborReports_congr {lhs rhs : NeighTable} {ifname : CStr}
    (hsame : ∀ key : NeighKey, key.ifname = ifname → lhs[key]? = rhs[key]?)
    : neighborReports lhs ifname = neighborReports rhs ifname := by
  have htoList : ∀ table : NeighTable,
      (table.filter (fun key _ => decide (key.ifname = ifname))).toList
        = table.toList.filter (fun entry => entry.1.ifname = ifname) := by
    intro table
    apply Std.ExtTreeMap.toList_filter
  have hfilter : lhs.filter (fun key _ => decide (key.ifname = ifname))
      = rhs.filter (fun key _ => decide (key.ifname = ifname)) := by
    apply Std.ExtTreeMap.ext_getElem?
    intro key
    rw [Std.ExtTreeMap.getElem?_filter', Std.ExtTreeMap.getElem?_filter']
    by_cases hkey : key.ifname = ifname
    . rw [hsame key hkey]
    . simp [hkey]
  unfold neighborReports
  rw [← htoList lhs, ← htoList rhs, hfilter]

theorem getElem?_insert_key (table : NeighTable) (key other : NeighKey) (nr : NeighInfo)
    : (table.insert key nr)[other]? = if other = key then some nr else table[other]? := by
  rw [Std.ExtTreeMap.getElem?_insert]
  simp only [Std.LawfulEqCmp.compare_eq_iff_eq]
  simp only [eq_comm]

theorem getElem?_erase_key (table : NeighTable) (key other : NeighKey)
    : (table.erase key)[other]? = if other = key then none else table[other]? := by
  rw [Std.ExtTreeMap.getElem?_erase]
  simp only [Std.LawfulEqCmp.compare_eq_iff_eq]
  simp only [eq_comm]

theorem erase_insert_key (table : NeighTable) (key : NeighKey) (nr : NeighInfo)
    : (table.insert key nr).erase key = table.erase key := by
  apply Std.ExtTreeMap.ext_getElem?
  intro other
  simp only [getElem?_erase_key, getElem?_insert_key]
  split <;> rfl

theorem insert_erase_key {table : NeighTable} {key : NeighKey} {nr : NeighInfo}
    (hnr : table[key]? = some nr)
    : (table.erase key).insert key nr = table := by
  apply Std.ExtTreeMap.ext_getElem?
  intro other
  simp only [getElem?_erase_key, getElem?_insert_key]
  split
  . next hkey =>
    rw [hkey, hnr]
  . rfl

theorem erase_of_not_mem {table : NeighTable} {key : NeighKey} (hnew : key ∉ table)
    : table.erase key = table := by
  apply Std.ExtTreeMap.ext_getElem?
  intro other
  rw [getElem?_erase_key]
  split
  . next hkey =>
    rw [hkey, Std.ExtTreeMap.getElem?_eq_none hnew]
  . rfl

theorem neighborReports_insert {table : NeighTable} {key : NeighKey} {ifname : CStr}
    (hne : key.ifname ≠ ifname) (nr : NeighInfo)
    : neighborReports (table.insert key nr) ifname = neighborReports table ifname := by
  apply neighborReports_congr
  intro other hother
  have hkey : other ≠ key := by
    intro hsame
    rw [← hsame] at hne
    contradiction
  simp only [getElem?_insert_key, hkey, ↓reduceIte]

theorem neighborReports_erase {table : NeighTable} {key : NeighKey} {ifname : CStr}
    (hne : key.ifname ≠ ifname)
    : neighborReports (table.erase key) ifname = neighborReports table ifname := by
  apply neighborReports_congr
  intro other hother
  have hkey : other ≠ key := by
    intro hsame
    rw [← hsame] at hne
    contradiction
  simp only [getElem?_erase_key, hkey, ↓reduceIte]

def NeighEnv.Sends (env : NeighEnv) (table : NeighTable) (ifname : CStr) : Prop :=
  (vifIfnameToIdx env.toRadios ifname).isSome ∧ env.setNeighborReportsOk
    ∧ ((∃ key ∈ table, key.ifname = ifname) → env.callocReports)

theorem neighborReports_length_pos (table : NeighTable) (ifname : CStr)
    : (neighborReports table ifname).length > 0 ↔ ∃ key ∈ table, key.ifname = ifname := by
  unfold neighborReports
  rw [List.length_map, gt_iff_lt, List.length_filter_pos_iff]
  constructor
  . intro ⟨⟨key, nr⟩, hmem, hname⟩
    rw [Std.ExtTreeMap.mem_toList_iff_getElem?_eq_some] at hmem
    rw [decide_eq_true_eq] at hname
    refine ⟨key, ?_, hname⟩
    rw [Std.ExtTreeMap.mem_iff_isSome_getElem?, hmem]
    rfl
  . intro ⟨key, hmem, hname⟩
    rw [Std.ExtTreeMap.mem_iff_isSome_getElem?, Option.isSome_iff_exists] at hmem
    have ⟨nr, hnr⟩ := hmem
    refine ⟨(key, nr), ?_, ?_⟩
    . rw [Std.ExtTreeMap.mem_toList_iff_getElem?_eq_some]
      exact hnr
    . simp [hname]

theorem bsalSendUpdateNeighborList_ret (env : NeighEnv) (table : NeighTable) (ifname : CStr)
    : (bsalSendUpdateNeighborList env table ifname).ret = 0 ↔ env.Sends table ifname := by
  unfold bsalSendUpdateNeighborList NeighEnv.Sends
  rw [← neighborReports_length_pos]
  cases vifIfnameToIdx env.toRadios ifname with
  | none => simp
  | some apIndex =>
    by_cases hfails : (neighborReports table ifname).length > 0 ∧ ¬env.callocReports
    . simp only [hfails]
      simp
    . have hcalloc : (neighborReports table ifname).length > 0 → env.callocReports := by
        intro hpos
        apply Decidable.byContradiction
        intro hnot
        exact hfails ⟨hpos, hnot⟩
      simp only [hfails, ↓reduceIte, Option.isSome_some, true_and]
      cases env.setNeighborReportsOk with
      | false => simp
      | true =>
        simp only [↓reduceIte, true_and, true_iff]
        exact hcalloc

theorem bsalSendUpdateNeighborList_call {env : NeighEnv} {table : NeighTable} {ifname : CStr}
    (hret : (bsalSendUpdateNeighborList env table ifname).ret = 0)
    : (bsalSendUpdateNeighborList env table ifname).call.map Prod.snd
        = some (neighborReports table ifname) := by
  unfold bsalSendUpdateNeighborList at hret ⊢
  cases hindex : vifIfnameToIdx env.toRadios ifname with
  | none =>
    rw [hindex] at hret
    contradiction
  | some apIndex =>
    by_cases hfails : (neighborReports table ifname).length > 0 ∧ ¬env.callocReports
    . simp only [hindex, hfails] at hret
      contradiction
    . simp only [hfails, ↓reduceIte, Option.map_some]

structure NeighCall where
  set : Bool
  env : NeighEnv
  ifname : CStr
  nr : NeighInfo

section

variable (ifnameLen : Nat)

def NeighCall.run (call : NeighCall) (table : NeighTable) : NeighOutcome :=
  if call.set then
    targetBsalRrmSetNeighbor ifnameLen call.env table call.ifname call.nr
  else
    targetBsalRrmRemoveNeighbor ifnameLen call.env table call.ifname call.nr

/--
Next to the table, `spec` is what it should hold after the calls so far, and `accepted` the last list
for each interface that the HAL has accepted.
-/
structure NeighState where
  table : NeighTable
  dangling : Bool
  spec : NeighKey → Option NeighInfo
  accepted : CStr → Option (List NeighborReport)

def NeighState.init : NeighState :=
  { table := ∅, dangling := false, spec := fun _ => none, accepted := fun _ => none }

def NeighCall.update (call : NeighCall) (spec : NeighKey → Option NeighInfo)
    : NeighKey → Option NeighInfo :=
  fun key =>
    if key = ⟨call.nr.bssid, call.ifname⟩ then
      if call.set then some call.nr else none
    else
      spec key

def NeighOutcome.accepted (out : NeighOutcome) : Option (List NeighborReport) :=
  out.sent.bind fun sent => if sent.ret = 0 then sent.call.map Prod.snd else none

def NeighState.next (s : NeighState) (call : NeighCall) (out : NeighOutcome) : NeighState :=
  { table := out.table
    dangling := out.dangling
    spec := if out.ret = 0 then call.update s.spec else s.spec
    accepted := fun ifname =>
      if ifname = call.ifname then out.accepted.or (s.accepted ifname) else s.accepted ifname }

def neighStep (s : NeighState) (call : NeighCall) : Option NeighState :=
  if s.dangling then none else some (s.next call (call.run ifnameLen s.table))

structure NeighState.Agrees (s : NeighState) : Prop where
  live : ¬s.dangling
  table : ∀ key : NeighKey, s.table[key]? = s.spec key
  accepted : ∀ ifname reports, s.accepted ifname = some reports →
    reports = neighborReports s.table ifname

def Fits (ifname : CStr) : Prop :=
  strscpy ifnameLen ifname = ifname

instance (ifname : CStr) : Decidable (Fits ifnameLen ifname) :=
  inferInstanceAs (Decidable (_ = _))

def NeighState.Fits (s : NeighState) : Prop :=
  ∀ key ∈ s.table, Bsal.Fits ifnameLen key.ifname

def NeighCall.Clean (s : NeighState) (call : NeighCall) : Prop :=
  let key := neighKey ifnameLen call.ifname call.nr
  if call.set then
    let sends := call.env.Sends (s.table.insert key call.nr) call.ifname
    (key ∈ s.table → sends)
      ∧ (key ∈ s.table ∨ call.env.callocNeighbor → sends → Bsal.Fits ifnameLen call.ifname)
  else
    key ∈ s.table → call.env.Sends (s.table.erase key) call.ifname
      ∧ Bsal.Fits ifnameLen call.ifname

variable {ifnameLen} {s : NeighState} {call : NeighCall} {out : NeighOutcome}

theorem agrees_keep (hagrees : s.Agrees) (htable : out.table = s.table)
    (hlive : out.dangling = false) (hret : out.ret ≠ 0) (haccepted : out.accepted = none)
    : (s.next call out).Agrees := by
  constructor
  . simp [NeighState.next, hlive]
  . simp only [NeighState.next, hret, ↓reduceIte, htable]
    exact hagrees.table
  . intro ifname reports
    simp only [NeighState.next, haccepted, Option.none_or, ite_self, htable]
    apply hagrees.accepted

theorem update_of_agrees (hret : out.ret = 0) (hnext : (s.next call out).Agrees) (key : NeighKey)
    : out.table[key]? = call.update s.spec key := by
  have htable := hnext.table key
  simp only [NeighState.next, hret, ↓reduceIte] at htable
  exact htable

theorem agrees_of_update (hagrees : s.Agrees) (hlive : out.dangling = false) (hret : out.ret = 0)
    (haccepted : out.accepted = some (neighborReports out.table call.ifname))
    (hother : ∀ ifname, ifname ≠ call.ifname →
      neighborReports out.table ifname = neighborReports s.table ifname)
    (hupdate : ∀ key : NeighKey, out.table[key]? = call.update s.spec key)
    : (s.next call out).Agrees := by
  constructor
  . simp [NeighState.next, hlive]
  . simp only [NeighState.next, hret, ↓reduceIte]
    exact hupdate
  . intro ifname reports
    simp only [NeighState.next, haccepted, Option.some_or]
    by_cases hname : ifname = call.ifname
    . simp only [hname, ↓reduceIte, Option.some.injEq]
      intro hreports
      exact hreports.symm
    . simp only [hname, ↓reduceIte]
      rw [hother ifname hname]
      apply hagrees.accepted

theorem not_fits_ne {ifname : CStr} (hfits : ¬Fits ifnameLen ifname) (nr : NeighInfo)
    : neighKey ifnameLen ifname nr ≠ ⟨nr.bssid, ifname⟩ := by
  intro hkey
  injection hkey with _ hname
  exact hfits hname

theorem fits_eq {ifname : CStr} (hfits : Fits ifnameLen ifname) (nr : NeighInfo)
    : neighKey ifnameLen ifname nr = ⟨nr.bssid, ifname⟩ := by
  unfold neighKey
  rw [hfits]

theorem not_mem_of_not_fits {ifname : CStr} (hinv : s.Fits ifnameLen)
    (hfits : ¬Fits ifnameLen ifname) (nr : NeighInfo)
    : s.table[(⟨nr.bssid, ifname⟩ : NeighKey)]? = none := by
  apply Std.ExtTreeMap.getElem?_eq_none
  intro hmem
  exact hfits (hinv _ hmem)

theorem insert_eq_update_iff (hagrees : s.Agrees) (hinv : s.Fits ifnameLen) (hset : call.set)
    : (∀ key : NeighKey, (s.table.insert (neighKey ifnameLen call.ifname call.nr) call.nr)[key]?
          = call.update s.spec key)
        ↔
      Fits ifnameLen call.ifname := by
  constructor
  . intro hupdate
    apply Decidable.byContradiction
    intro hfits
    have hnew := hupdate ⟨call.nr.bssid, call.ifname⟩
    have hne := not_fits_ne hfits call.nr
    simp only [getElem?_insert_key, hne.symm, ↓reduceIte, NeighCall.update, hset] at hnew
    rw [not_mem_of_not_fits hinv hfits] at hnew
    contradiction
  . intro hfits key
    simp only [fits_eq hfits, getElem?_insert_key, NeighCall.update, hset, ↓reduceIte]
    rw [hagrees.table]

theorem erase_eq_update_iff (hagrees : s.Agrees) (hset : call.set = false)
    (hmem : neighKey ifnameLen call.ifname call.nr ∈ s.table)
    : (∀ key : NeighKey, (s.table.erase (neighKey ifnameLen call.ifname call.nr))[key]?
          = call.update s.spec key)
        ↔
      Fits ifnameLen call.ifname := by
  constructor
  . intro hupdate
    apply Decidable.byContradiction
    intro hfits
    have hgone := hupdate (neighKey ifnameLen call.ifname call.nr)
    have hne := not_fits_ne hfits call.nr
    simp only [getElem?_erase_key, ↓reduceIte, NeighCall.update, hne, ← hagrees.table] at hgone
    rw [Std.ExtTreeMap.mem_iff_isSome_getElem?, ← hgone] at hmem
    contradiction
  . intro hfits key
    simp only [fits_eq hfits, getElem?_erase_key, NeighCall.update, hset, Bool.false_eq_true,
      ↓reduceIte]
    rw [hagrees.table]

theorem agrees_iff_of_accepted (hagrees : s.Agrees) (hlive : out.dangling = false) (hret : out.ret = 0)
    (haccepted : out.accepted = some (neighborReports out.table call.ifname))
    (hothers : ∀ ifname, (neighKey ifnameLen call.ifname call.nr).ifname ≠ ifname →
      neighborReports out.table ifname = neighborReports s.table ifname)
    (hiff : (∀ key : NeighKey, out.table[key]? = call.update s.spec key) ↔ Fits ifnameLen call.ifname)
    : (s.next call out).Agrees ↔ Fits ifnameLen call.ifname := by
  constructor
  . intro hnext
    apply hiff.mp
    apply update_of_agrees hret hnext
  . intro hfits
    apply agrees_of_update hagrees hlive hret haccepted
    . intro ifname hne
      apply hothers
      rw [fits_eq hfits]
      exact hne.symm
    . exact hiff.mpr hfits

theorem set_refused {table : NeighTable} (hset : call.set)
    (hnew : neighKey ifnameLen call.ifname call.nr ∉ table) (hcalloc : ¬call.env.callocNeighbor)
    : call.run ifnameLen table = { table, dangling := false, sent := none, ret := -1 } := by
  simp only [NeighCall.run, hset, ↓reduceIte, targetBsalRrmSetNeighbor]
  rw [if_pos ⟨hnew, hcalloc⟩]

theorem set_stored {table : NeighTable} (hset : call.set)
    (hentry : neighKey ifnameLen call.ifname call.nr ∈ table ∨ call.env.callocNeighbor)
    (hsends : call.env.Sends (table.insert (neighKey ifnameLen call.ifname call.nr) call.nr)
      call.ifname)
    : let out := call.run ifnameLen table
      out.table = table.insert (neighKey ifnameLen call.ifname call.nr) call.nr
        ∧ out.dangling = false ∧ out.ret = 0
        ∧ out.accepted = some (neighborReports out.table call.ifname) := by
  intro out
  rw [← bsalSendUpdateNeighborList_ret] at hsends
  have hout : out = { table := table.insert (neighKey ifnameLen call.ifname call.nr) call.nr
                      dangling := false
                      sent := some (bsalSendUpdateNeighborList call.env
                        (table.insert (neighKey ifnameLen call.ifname call.nr) call.nr) call.ifname)
                      ret := 0 } := by
    simp only [out, NeighCall.run, hset, ↓reduceIte, targetBsalRrmSetNeighbor]
    rw [if_neg]
    . simp [hsends]
    . intro ⟨hnew, hcalloc⟩
      exact hentry.elim hnew hcalloc
  rw [hout]
  refine ⟨rfl, rfl, rfl, ?_⟩
  simp only [NeighOutcome.accepted, Option.bind_some, hsends, ↓reduceIte]
  apply bsalSendUpdateNeighborList_call hsends

theorem set_failed {table : NeighTable} (hset : call.set)
    (hentry : neighKey ifnameLen call.ifname call.nr ∈ table ∨ call.env.callocNeighbor)
    (hfails : ¬call.env.Sends (table.insert (neighKey ifnameLen call.ifname call.nr) call.nr)
      call.ifname)
    : let out := call.run ifnameLen table
      out.table = table.erase (neighKey ifnameLen call.ifname call.nr)
        ∧ out.dangling = false ∧ out.ret ≠ 0 ∧ out.accepted = none := by
  intro out
  rw [← bsalSendUpdateNeighborList_ret] at hfails
  have hout : out = { table := (table.insert (neighKey ifnameLen call.ifname call.nr) call.nr).erase
                        (neighKey ifnameLen call.ifname call.nr)
                      dangling := false
                      sent := some (bsalSendUpdateNeighborList call.env
                        (table.insert (neighKey ifnameLen call.ifname call.nr) call.nr) call.ifname)
                      ret := (bsalSendUpdateNeighborList call.env
                        (table.insert (neighKey ifnameLen call.ifname call.nr) call.nr)
                        call.ifname).ret } := by
    simp only [out, NeighCall.run, hset, ↓reduceIte, targetBsalRrmSetNeighbor]
    rw [if_neg]
    . simp [hfails]
    . intro ⟨hnew, hcalloc⟩
      exact hentry.elim hnew hcalloc
  rw [hout]
  refine ⟨erase_insert_key _ _ _, rfl, hfails, ?_⟩
  simp [NeighOutcome.accepted, hfails]

theorem remove_absent {table : NeighTable} (hset : call.set = false)
    (hnew : neighKey ifnameLen call.ifname call.nr ∉ table)
    : call.run ifnameLen table = { table, dangling := false, sent := none, ret := 0 } := by
  simp only [NeighCall.run, hset, Bool.false_eq_true, ↓reduceIte, targetBsalRrmRemoveNeighbor]
  rw [Std.ExtTreeMap.getElem?_eq_none hnew]

theorem remove_erased {table : NeighTable} (hset : call.set = false)
    (hentry : neighKey ifnameLen call.ifname call.nr ∈ table)
    (hsends : call.env.Sends (table.erase (neighKey ifnameLen call.ifname call.nr)) call.ifname)
    : let out := call.run ifnameLen table
      out.table = table.erase (neighKey ifnameLen call.ifname call.nr)
        ∧ out.dangling = false ∧ out.ret = 0
        ∧ out.accepted = some (neighborReports out.table call.ifname) := by
  intro out
  rw [← bsalSendUpdateNeighborList_ret] at hsends
  rw [Std.ExtTreeMap.mem_iff_isSome_getElem?, Option.isSome_iff_exists] at hentry
  have ⟨nr, hnr⟩ := hentry
  have hout : out = { table := table.erase (neighKey ifnameLen call.ifname call.nr)
                      dangling := false
                      sent := some (bsalSendUpdateNeighborList call.env
                        (table.erase (neighKey ifnameLen call.ifname call.nr)) call.ifname)
                      ret := 0 } := by
    simp only [out, NeighCall.run, hset, Bool.false_eq_true, ↓reduceIte, targetBsalRrmRemoveNeighbor,
      hnr]
    simp [hsends]
  rw [hout]
  refine ⟨rfl, rfl, rfl, ?_⟩
  simp only [NeighOutcome.accepted, Option.bind_some, hsends, ↓reduceIte]
  apply bsalSendUpdateNeighborList_call hsends

theorem remove_failed {table : NeighTable} (hset : call.set = false)
    (hentry : neighKey ifnameLen call.ifname call.nr ∈ table)
    (hfails : ¬call.env.Sends (table.erase (neighKey ifnameLen call.ifname call.nr)) call.ifname)
    : (call.run ifnameLen table).dangling ∧ (call.run ifnameLen table).table = table := by
  rw [← bsalSendUpdateNeighborList_ret] at hfails
  rw [Std.ExtTreeMap.mem_iff_isSome_getElem?, Option.isSome_iff_exists] at hentry
  have ⟨nr, hnr⟩ := hentry
  simp only [NeighCall.run, hset, Bool.false_eq_true, ↓reduceIte, targetBsalRrmRemoveNeighbor, hnr]
  simp only [ne_eq, hfails, not_false_eq_true, ↓reduceIte, true_and]
  apply insert_erase_key hnr

theorem set_agrees_iff (hagrees : s.Agrees) (hinv : s.Fits ifnameLen) (hset : call.set)
    : (s.next call (call.run ifnameLen s.table)).Agrees ↔ call.Clean ifnameLen s := by
  simp only [NeighCall.Clean, hset, ↓reduceIte]
  by_cases hentry : neighKey ifnameLen call.ifname call.nr ∈ s.table ∨ call.env.callocNeighbor
  . by_cases hsends : call.env.Sends
        (s.table.insert (neighKey ifnameLen call.ifname call.nr) call.nr) call.ifname
    . have ⟨htable, hlive, hret, haccepted⟩ := set_stored hset hentry hsends
      have hiff := insert_eq_update_iff hagrees hinv hset
      rw [← htable] at hiff
      simp only [hsends, hentry, implies_true, forall_const, true_and]
      apply agrees_iff_of_accepted hagrees hlive hret haccepted _ hiff
      intro ifname hne
      rw [htable]
      apply neighborReports_insert hne
    . have ⟨htable, hlive, hret, haccepted⟩ := set_failed hset hentry hsends
      by_cases hmem : neighKey ifnameLen call.ifname call.nr ∈ s.table
      . apply iff_of_false
        . intro hnext
          -- the entry is gone, although the call has failed
          have hgone := hnext.table (neighKey ifnameLen call.ifname call.nr)
          simp only [NeighState.next, hret, ↓reduceIte, htable, getElem?_erase_key,
            ← hagrees.table] at hgone
          rw [Std.ExtTreeMap.mem_iff_isSome_getElem?, ← hgone] at hmem
          contradiction
        . intro hclean
          exact hsends (hclean.1 hmem)
      . apply iff_of_true
        . apply agrees_keep hagrees _ hlive hret haccepted
          rw [htable]
          apply erase_of_not_mem hmem
        . simp [hmem, hsends]
  . rw [not_or] at hentry
    rw [set_refused hset hentry.1 hentry.2]
    apply iff_of_true
    . apply agrees_keep hagrees <;> simp [NeighOutcome.accepted]
    . simp [hentry]

theorem remove_agrees_iff (hagrees : s.Agrees) (hinv : s.Fits ifnameLen) (hset : call.set = false)
    : (s.next call (call.run ifnameLen s.table)).Agrees ↔ call.Clean ifnameLen s := by
  simp only [NeighCall.Clean, hset, Bool.false_eq_true, ↓reduceIte]
  by_cases hentry : neighKey ifnameLen call.ifname call.nr ∈ s.table
  . by_cases hsends : call.env.Sends (s.table.erase (neighKey ifnameLen call.ifname call.nr))
        call.ifname
    . have ⟨htable, hlive, hret, haccepted⟩ := remove_erased hset hentry hsends
      have hiff := erase_eq_update_iff hagrees hset hentry
      rw [← htable] at hiff
      simp only [hsends, hentry, forall_const, true_and]
      apply agrees_iff_of_accepted hagrees hlive hret haccepted _ hiff
      intro ifname hne
      rw [htable]
      apply neighborReports_erase hne
    . have ⟨hdangling, _⟩ := remove_failed hset hentry hsends
      apply iff_of_false
      . intro hnext
        exact hnext.live hdangling
      . intro hclean
        exact hsends (hclean hentry).1
  . simp only [hentry, false_implies, iff_true]
    rw [remove_absent hset hentry]
    constructor
    . simp [NeighState.next]
    . intro key
      simp only [NeighState.next, ↓reduceIte, NeighCall.update, hset, Bool.false_eq_true]
      split
      . next hkey =>
        -- the key is absent with its full name, too
        rw [hkey]
        by_cases hfits : Fits ifnameLen call.ifname
        . rw [← fits_eq hfits, Std.ExtTreeMap.getElem?_eq_none hentry]
        . apply not_mem_of_not_fits hinv hfits
      . apply hagrees.table
    . intro ifname reports
      simp only [NeighState.next, NeighOutcome.accepted, Option.bind_none, Option.none_or, ite_self]
      apply hagrees.accepted

theorem neighStep_iff (hinv : s.Fits ifnameLen) (hagrees : s.Agrees) (call : NeighCall)
    : (∃ t, neighStep ifnameLen s call = some t ∧ t.Agrees) ↔ call.Clean ifnameLen s := by
  have hstep : (∃ t, neighStep ifnameLen s call = some t ∧ t.Agrees)
      ↔ (s.next call (call.run ifnameLen s.table)).Agrees := by
    simp [neighStep, hagrees.live]
  rw [hstep]
  cases hset : call.set with
  | true => apply set_agrees_iff hagrees hinv hset
  | false => apply remove_agrees_iff hagrees hinv hset

theorem mem_of_mem_erase {table : NeighTable} {key other : NeighKey}
    (hmem : other ∈ table.erase key)
    : other ∈ table := by
  rw [Std.ExtTreeMap.mem_erase] at hmem
  exact hmem.2

theorem mem_of_mem_insert {table : NeighTable} {key other : NeighKey} {nr : NeighInfo}
    (hmem : other ∈ table.insert key nr)
    : other ∈ table ∨ other = key := by
  rw [Std.ExtTreeMap.mem_insert, Std.LawfulEqCmp.compare_eq_iff_eq] at hmem
  rcases hmem with hkey | hmem
  . exact .inr hkey.symm
  . exact .inl hmem

theorem run_table_mem {table : NeighTable} {key : NeighKey}
    (hmem : key ∈ (call.run ifnameLen table).table)
    : key ∈ table ∨ key = neighKey ifnameLen call.ifname call.nr := by
  cases hset : call.set with
  | true =>
    by_cases hentry : neighKey ifnameLen call.ifname call.nr ∈ table ∨ call.env.callocNeighbor
    . by_cases hsends : call.env.Sends
          (table.insert (neighKey ifnameLen call.ifname call.nr) call.nr) call.ifname
      . rw [(set_stored hset hentry hsends).1] at hmem
        apply mem_of_mem_insert hmem
      . rw [(set_failed hset hentry hsends).1] at hmem
        exact .inl (mem_of_mem_erase hmem)
    . rw [not_or] at hentry
      rw [set_refused hset hentry.1 hentry.2] at hmem
      exact .inl hmem
  | false =>
    by_cases hentry : neighKey ifnameLen call.ifname call.nr ∈ table
    . by_cases hsends : call.env.Sends (table.erase (neighKey ifnameLen call.ifname call.nr))
          call.ifname
      . rw [(remove_erased hset hentry hsends).1] at hmem
        exact .inl (mem_of_mem_erase hmem)
      . rw [(remove_failed hset hentry hsends).2] at hmem
        exact .inl hmem
    . rw [remove_absent hset hentry] at hmem
      exact .inl hmem

theorem neighStep_fits {t : NeighState} (hinv : s.Fits ifnameLen)
    (hstep : neighStep ifnameLen s call = some t)
    : t.Fits ifnameLen := by
  unfold neighStep at hstep
  split at hstep
  . contradiction
  . injection hstep with hstep
    rw [← hstep]
    intro key hmem
    rcases run_table_mem hmem with hmem | hkey
    . exact hinv key hmem
    . rw [hkey]
      simp only [Bsal.Fits, neighKey, strscpy, List.take_take, Nat.min_self]

end

theorem always_agrees_iff (ifnameLen : Nat) (calls : List NeighCall)
    : Machine.Always (neighStep ifnameLen) NeighState.Agrees NeighState.init calls
        ↔
      Machine.AllSteps (neighStep ifnameLen) (fun s call => call.Clean ifnameLen s) NeighState.init
        calls := by
  apply Machine.always_iff_allSteps_of_invariant
  . intro s call t hinv hstep
    apply neighStep_fits hinv hstep
  . intro s call hinv hagrees
    apply neighStep_iff hinv hagrees
  . intro key hmem
    simp [NeighState.init] at hmem
  . constructor
    . simp [NeighState.init]
    . intro key
      simp [NeighState.init]
    . intro ifname reports haccepted
      contradiction

def neighEnv (setNeighborReportsOk : Bool) : NeighEnv :=
  { interfaceMap := some [(cstr "ath0", 0)], ssidRadioIndex := some, radioBand := fun _ => some .freq5
    callocNeighbor := true, callocReports := true, setNeighborReportsOk }

def neighbor (channel : Nat) : NeighInfo :=
  { bssid := ⟨2, 0, 0, 0, 0, 9⟩, bssidInfo := 0, opClass := 115, channel, phyType := 9, rest := [] }

def setCall (setNeighborReportsOk : Bool) (channel : Nat) : NeighCall :=
  { set := true, env := neighEnv setNeighborReportsOk, ifname := cstr "ath0", nr := neighbor channel }

theorem not_always_agrees_modify
    : ¬∀ (ifnameLen : Nat) (calls : List NeighCall),
        Machine.Always (neighStep ifnameLen) NeighState.Agrees NeighState.init calls := by
  intro hall
  have halways := hall 17 [setCall true 36, setCall false 40]
  have ⟨s, hs, hagrees⟩ := halways _ List.prefix_rfl
  let key : NeighKey := ⟨(neighbor 36).bssid, cstr "ath0"⟩
  have hlost : (Machine.run (neighStep 17) NeighState.init [setCall true 36, setCall false 40]).map
      (fun s => (s.table[key]?, s.spec key)) = some (none, some (neighbor 36)) := by
    decide +kernel
  rw [hs] at hlost
  injection hlost with hlost
  injection hlost with htable hspec
  have hsame := hagrees.table key
  rw [htable, hspec] at hsame
  contradiction

end Bsal
end OpenSyncRdk
