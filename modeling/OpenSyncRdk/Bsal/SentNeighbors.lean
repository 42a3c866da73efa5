import OpenSyncRdk.Bsal.NeighborLists

/-!
The two passes that `bsal_send_update_neighbor_list` makes over the table: one counts the entries of an
interface, the other fills the array that was allocated for as many. Between the entries of one
interface lie those of the others, for the tree is ordered by the BSSIDs first.
-/

namespace OpenSyncRdk
namespace Bsal

def NeighborReport.zero : NeighborReport :=
  { bssid := ⟨0, 0, 0, 0, 0, 0⟩, info := 0, opClass := 0, channel := 0, phyTable := 0 }

def ifaceNeighborsNumber (table : NeighTable) (ifname : CStr) : Nat :=
  table.toList.foldl (fun number entry => if entry.1.ifname = ifname then number + 1 else number) 0

def fillReports (ifname : CStr) (number : Nat)
    : List (NeighKey × NeighInfo) → Nat → List NeighborReport → List NeighborReport
  | [], _, reports => reports
  | (key, nr) :: entries, i, reports =>
    if key.ifname ≠ ifname then
      fillReports ifname number entries i reports
    else if i ≥ number then
      reports
    else
      fillReports ifname number entries (i + 1) (reports.set i nr.report)

/-- `bsal_send_update_neighbor_list` with its passes over the table as they are. -/
def sendUpdateNeighborList (env : NeighEnv) (table : NeighTable) (ifname : CStr) : Sent :=
  let number := ifaceNeighborsNumber table ifname
  match vifIfnameToIdx env.toRadios ifname with
  | none => { call := none, ret := -1 }
  | some apIndex =>
    if number > 0 ∧ ¬env.callocReports then
      { call := none, ret := -1 }
    else
      let reports :=
        if number > 0 then
          fillReports ifname number table.toList 0 (List.replicate number NeighborReport.zero)
        else
          []
      { call := some (apIndex, reports), ret := if env.setNeighborReportsOk then 0 else -1 }

theorem foldl_count (ifname : CStr) (entries : List (NeighKey × NeighInfo)) (number : Nat)
    : entries.foldl (fun number entry => if entry.1.ifname = ifname then number + 1 else number) number
        =
      number + (entries.filter (fun entry => entry.1.ifname = ifname)).length := by
  induction entries generalizing number with
  | nil => rfl
  | cons entry entries ih =>
    rw [List.foldl_cons, ih]
    by_cases hname : entry.1.ifname = ifname
    . rw [if_pos hname, List.filter_cons_of_pos (by simpa using hname), List.length_cons]
      omega
    . rw [if_neg hname, List.filter_cons_of_neg (by simpa using hname)]

theorem ifaceNeighborsNumber_eq (table : NeighTable) (ifname : CStr)
    : ifaceNeighborsNumber table ifname = (neighborReports table ifname).length := by
  unfold ifaceNeighborsNumber neighborReports
  rw [foldl_count, Nat.zero_add, List.length_map]

theorem fillReports_eq (ifname : CStr) (entries : List (NeighKey × NeighInfo)) (done : List NeighborReport)
    : let left := (entries.filter (fun entry => entry.1.ifname = ifname)).length
      fillReports ifname (done.length + left) entries done.length
          (done ++ List.replicate left NeighborReport.zero)
        =
      done ++ (entries.filter (fun entry => entry.1.ifname = ifname)).map (fun entry => entry.2.report)
        := by
  induction entries generalizing done with
  | nil => rfl
  | cons entry entries ih =>
    rcases entry with ⟨key, nr⟩
    dsimp only at *
    unfold fillReports
    by_cases hname : key.ifname = ifname
    . rw [List.filter_cons_of_pos (by simpa using hname)]
      have hnext := ih (done ++ [nr.report])
      rw [List.length_append, List.length_singleton, List.append_assoc, List.append_assoc,
        List.singleton_append, List.singleton_append] at hnext
      rw [if_neg (not_not.mpr hname), List.length_cons, if_neg (by omega), List.replicate_succ,
        List.set_append_right _ _ (Nat.le_refl _), Nat.sub_self, List.set_cons_zero, List.map_cons,
        ← hnext, Nat.add_right_comm, Nat.add_assoc]
    . rw [List.filter_cons_of_neg (by simpa using hname), if_pos hname]
      exact ih done

theorem sendUpdateNeighborList_eq (env : NeighEnv) (table : NeighTable) (ifname : CStr)
    : sendUpdateNeighborList env table ifname = bsalSendUpdateNeighborList env table ifname := by
  have hfill
      : fillReports ifname (neighborReports table ifname).length table.toList 0
            (List.replicate (neighborReports table ifname).length NeighborReport.zero)
          =
        neighborReports table ifname := by
    have hnone := fillReports_eq ifname table.toList []
    simp only [List.length_nil, Nat.zero_add, List.nil_append] at hnone
    unfold neighborReports
    rw [List.length_map]
    exact hnone
  have hreports
      : (if (neighborReports table ifname).length > 0 then
            neighborReports table ifname
          else
            [])
          =
        neighborReports table ifname := by
    split
    . rfl
    . next hempty => rw [List.eq_nil_of_length_eq_zero (Nat.eq_zero_of_not_pos hempty)]
  unfold sendUpdateNeighborList bsalSendUpdateNeighborList
  rw [ifaceNeighborsNumber_eq]
  cases vifIfnameToIdx env.toRadios ifname with
  | none => rfl
  | some index => simp only [hfill, hreports]

structure EntriesOf (table : NeighTable) (ifname : CStr) (entries : List (NeighKey × NeighInfo)) : Prop
    where
  mem : ∀ key nr, (key, nr) ∈ entries ↔ table[key]? = some nr ∧ key.ifname = ifname
  ordered : entries.Pairwise (fun lhs rhs => bssidIfnameCmp lhs.1 rhs.1 = .lt)

theorem entriesOf_filter (table : NeighTable) (ifname : CStr)
    : EntriesOf table ifname (table.toList.filter (fun entry => entry.1.ifname = ifname)) := by
  constructor
  . intro key nr
    rw [List.mem_filter, Std.ExtTreeMap.mem_toList_iff_getElem?_eq_some, decide_eq_true_eq]
  . exact Std.ExtTreeMap.ordered_keys_toList.filter _

structure ContentSent (ifnameLen : Nat) (env : NeighEnv) (table : NeighTable) (ifname : CStr)
    (apIndex : Int) : Prop where
  content
    : ∃ entries,
        EntriesOf table ifname entries
          ∧ entries.length = ifaceNeighborsNumber table ifname
          ∧ (sendUpdateNeighborList env table ifname).call
              =
            if entries.length > 0 ∧ ¬env.callocReports then
              none
            else
              some (apIndex, entries.map (fun entry => entry.2.report))
  others
    : ∀ call : NeighCall,
        (neighKey ifnameLen call.ifname call.nr).ifname ≠ ifname
          → sendUpdateNeighborList env (call.run ifnameLen table).table ifname
              = sendUpdateNeighborList env table ifname

theorem run_table_cases (ifnameLen : Nat) (call : NeighCall) (table : NeighTable)
    : let key := neighKey ifnameLen call.ifname call.nr
      (call.run ifnameLen table).table = table
        ∨ (call.run ifnameLen table).table = table.insert key call.nr
        ∨ (call.run ifnameLen table).table = table.erase key := by
  dsimp only
  unfold NeighCall.run
  split
  . unfold targetBsalRrmSetNeighbor
    dsimp only
    split
    . exact .inl rfl
    . split
      . exact .inr (.inr (erase_insert_key table _ call.nr))
      . exact .inr (.inl rfl)
  . unfold targetBsalRrmRemoveNeighbor
    dsimp only
    split
    . exact .inl rfl
    . next neighbor hneighbor =>
      split
      . exact .inl (insert_erase_key hneighbor)
      . exact .inr (.inr rfl)

theorem neighborReports_run {ifnameLen : Nat} {call : NeighCall} {ifname : CStr}
    (hother : (neighKey ifnameLen call.ifname call.nr).ifname ≠ ifname) (table : NeighTable)
    : neighborReports (call.run ifnameLen table).table ifname = neighborReports table ifname := by
  rcases run_table_cases ifnameLen call table with hsame | hinsert | herase
  . rw [hsame]
  . rw [hinsert, neighborReports_insert hother]
  . rw [herase, neighborReports_erase hother]

theorem contentSent (ifnameLen : Nat) (env : NeighEnv) (table : NeighTable) {ifname : CStr}
    {apIndex : Int} (hindex : vifIfnameToIdx env.toRadios ifname = some apIndex)
    : ContentSent ifnameLen env table ifname apIndex := by
  constructor
  . refine ⟨_, entriesOf_filter table ifname, ?_, ?_⟩
    . rw [ifaceNeighborsNumber_eq, neighborReports, List.length_map]
    . rw [sendUpdateNeighborList_eq]
      unfold bsalSendUpdateNeighborList neighborReports
      rw [hindex]
      dsimp only
      rw [List.length_map]
      split <;> rfl
  . intro call hother
    rw [sendUpdateNeighborList_eq, sendUpdateNeighborList_eq]
    unfold bsalSendUpdateNeighborList
    rw [neighborReports_run hother]

def neighborAt (last : UInt8) (channel : Nat) : NeighInfo :=
  { neighbor channel with bssid := ⟨2, 0, 0, 0, 0, last⟩ }

def twoInterfaces : NeighTable :=
  [(cstr "ath0", neighborAt 7 36), (cstr "ath1", neighborAt 8 40), (cstr "ath0", neighborAt 9 44)].foldl
    (fun table entry => table.insert (neighKey 17 entry.1 entry.2) entry.2) ∅

theorem contentSent_ath0
    : ContentSent 17 (neighEnv true) twoInterfaces (cstr "ath0") 0
        ∧ (sendUpdateNeighborList (neighEnv true) twoInterfaces (cstr "ath0")).call
            = some (0, [(neighborAt 7 36).report, (neighborAt 9 44).report]) := by
  constructor
  . apply contentSent
    rfl
  . decide +kernel

end Bsal
end OpenSyncRdk
