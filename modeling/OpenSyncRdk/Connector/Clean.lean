import OpenSyncRdk.Connector.Tables

/-!
The clean functions of `connector_dm.c`, which empty the tables when the connector starts. They find the
rows of a table by its `Enable` parameters, in one report that was made before the first row goes.
-/

namespace OpenSyncRdk
namespace Connector

structure CleanBus where
  getOk : Bool
  deleteOk : CStr → Bool

structure Cleaned where
  ret : Int
  rows : List Row
  -- the paths that `CcspBaseIf_DeleteTblRow` was called with
  paths : List CStr
  deriving DecidableEq

def enable : CStr := cstr "Enable"

section

variable (table : CStr)

/-- The loop over the parameters, from the rows that are there to the rows that are left. -/
def cleanLoop (deleteOk : CStr → Bool) (rows : List Row)
    : List (CStr × CStr) → Option (List Row × List CStr)
  | [] => some (rows, [])
  | (parameterName, _) :: rest =>
    match strtok isDot (parameterName.drop table.length) with
    | none => none
    | some (token, more) =>
      let idx := atoi token
      match strtok isDot more with
      | none => none
      | some (token, _) =>
        if token = enable then
          match sprintf (rowPath table idx) with
          | none => none
          | some pathStr =>
            -- a row that cannot be deleted is logged, and the loop goes on
            let rows := if deleteOk pathStr then deleteTblRow table pathStr rows else rows
            (cleanLoop deleteOk rows rest).map (fun (rows, paths) => (rows, pathStr :: paths))
        else
          cleanLoop deleteOk rows rest

def cleanDm (failed : Int) (bus : CleanBus) (rows : List Row) : Option Cleaned :=
  if ¬bus.getOk then
    some { ret := failed, rows, paths := [] }
  else
    (cleanLoop table bus.deleteOk rows (getParameterValues table rows)).map (fun (rows, paths) =>
      { ret := 0, rows, paths })

end

def portforwardCleanDm (bus : CleanBus) (rows : List Row) : Option Cleaned :=
  cleanDm portMapping 1 bus rows

def dhcpReservationCleanDm (bus : CleanBus) (rows : List Row) : Option Cleaned :=
  cleanDm staticAddress 0 bus rows

def enabledKeys (cells : List (Nat × CStr × CStr)) : List Nat :=
  (cells.filter (fun cell => cell.2.1 = enable)).map Prod.fst

def HasEnable (row : Row) : Bool :=
  row.names.contains enable

def cleanedRows (table : CStr) (deleteOk : CStr → Bool) (rows : List Row) : List Row :=
  rows.filter (fun row => !(HasEnable row && deleteOk (rowPath table row.key)))

def cleanedPaths (table : CStr) (rows : List Row) : List CStr :=
  (rows.filter HasEnable).map (fun row => rowPath table row.key)

structure Listed (rows : List Row) : Prop where
  ok : ∀ row ∈ rows, row.Ok
  names : ∀ row ∈ rows, row.names.Nodup
  distinct : (rows.map Carried.Row.key).Nodup

section

variable {table : CStr}

theorem deleteTblRow_rowPath (key : Nat) (rows : List Row)
    : deleteTblRow table (rowPath table key) rows = rows.filter (fun row => row.key ≠ key) := by
  unfold deleteTblRow
  apply List.filter_congr
  intro row _
  rw [decide_eq_decide, not_iff_not]
  exact rowPath_inj

theorem cleanLoop_eq {cells : List (Nat × CStr × CStr)}
    (hcells : ∀ cell ∈ cells, cell.1 < 2 ^ 31 ∧ cell.2.1 ≠ [] ∧ 46 ∉ cell.2.1) (deleteOk : CStr → Bool)
    (rows : List Row)
    : cleanLoop table deleteOk rows (cells.map (reported table))
        =
      if ∀ key ∈ enabledKeys cells, Fits (rowPath table key) then
        some
          ( rows.filter (fun row =>
              !((enabledKeys cells).contains row.key && deleteOk (rowPath table row.key)))
          , (enabledKeys cells).map (fun key : Nat => rowPath table key)
          )
      else
        none := by
  induction cells generalizing rows with
  | nil => simp [cleanLoop, enabledKeys]
  | cons cell cells ih =>
    have ⟨hint, hne, hdot⟩ := hcells cell (by simp)
    have ⟨htoken, hname⟩ := strtok_paramName table cell.1 hne hdot
    have htail := ih (fun cell hmem => hcells cell (by simp [hmem]))
    rw [List.map_cons]
    unfold cleanLoop reported
    dsimp only
    rw [htoken]
    dsimp only
    rw [hname]
    dsimp only
    unfold reported at htail
    by_cases henable : cell.2.1 = enable
    . have hkeys : enabledKeys (cell :: cells) = cell.1 :: enabledKeys cells := by
        unfold enabledKeys
        rw [List.filter_cons_of_pos (by simpa using henable), List.map_cons]
      rw [if_pos henable, hkeys, atoi_decimal hint]
      unfold sprintf
      by_cases hfits : Fits (rowPath table cell.1)
      . rw [if_pos hfits]
        dsimp only
        rw [htail]
        simp only [List.forall_mem_cons, hfits, true_and]
        split
        . rw [Option.map_some, List.map_cons]
          congr 2
          split
          . next hok =>
            rw [deleteTblRow_rowPath, List.filter_filter]
            apply List.filter_congr
            intro row _
            by_cases hkey : row.key = cell.1
            . simp [hkey, hok]
            . simp [hkey]
          . next hok =>
            apply List.filter_congr
            intro row _
            by_cases hkey : row.key = cell.1
            . simp [hkey, hok]
            . simp [hkey]
        . rfl
      . rw [if_neg hfits, if_neg]
        simp [hfits]
    . have hkeys : enabledKeys (cell :: cells) = enabledKeys cells := by
        unfold enabledKeys
        rw [List.filter_cons_of_neg (by simpa using henable)]
      rw [if_neg henable, hkeys, htail]

theorem enabledKeys_row {row : Row} (hnodup : row.names.Nodup)
    : enabledKeys row.flat = if HasEnable row then [row.key] else [] := by
  unfold enabledKeys HasEnable Carried.Row.flat
  unfold Carried.Row.names at hnodup ⊢
  generalize row.cells = cells at hnodup ⊢
  induction cells with
  | nil => rfl
  | cons cell cells ih =>
    rw [List.map_cons, List.nodup_cons] at hnodup
    have htail := ih hnodup.2
    rw [List.map_cons, List.map_cons, List.contains_cons]
    by_cases henable : cell.1 = enable
    . rw [henable] at hnodup
      rw [List.contains_eq_mem, decide_eq_false hnodup.1] at htail
      rw [List.filter_cons_of_pos (by simpa using henable), List.map_cons, htail, henable, beq_self_eq_true]
      rfl
    . rw [List.filter_cons_of_neg (by simpa using henable), htail, beq_false_of_ne (Ne.symm henable)]
      rfl

theorem enabledKeys_flat {rows : List Row} (hnodup : ∀ row ∈ rows, row.names.Nodup)
    : enabledKeys (Carried.flat rows) = (rows.filter HasEnable).map Carried.Row.key := by
  induction rows with
  | nil => rfl
  | cons row rows ih =>
    have htail := ih (fun row hmem => hnodup row (by simp [hmem]))
    have hrow := enabledKeys_row (hnodup row (by simp))
    unfold enabledKeys at htail hrow ⊢
    rw [Carried.flat_cons, List.filter_append, List.map_append, htail, hrow, List.filter_cons]
    split
    . rfl
    . rfl

theorem cleanDm_eq {bus : CleanBus} (hget : bus.getOk = true) {rows : List Row} (hrows : Listed rows)
    (failed : Int)
    : cleanDm table failed bus rows
        =
      if ∀ row ∈ rows, HasEnable row = true → Fits (rowPath table row.key) then
        some { ret := 0, rows := cleanedRows table bus.deleteOk rows, paths := cleanedPaths table rows }
      else
        none := by
  have hloop := @cleanLoop_eq table _ (fun cell hcell => cell_ok hrows.ok hcell) bus.deleteOk rows
  rw [enabledKeys_flat hrows.names] at hloop
  have hfits
      : (∀ key ∈ (rows.filter HasEnable).map Carried.Row.key, Fits (rowPath table key))
          ↔
        ∀ row ∈ rows, HasEnable row = true → Fits (rowPath table row.key) := by
    simp only [List.forall_mem_map, List.mem_filter, and_imp]
  have hleft
      : rows.filter (fun row =>
            !(((rows.filter HasEnable).map Carried.Row.key).contains row.key
              && bus.deleteOk (rowPath table row.key)))
          =
        cleanedRows table bus.deleteOk rows := by
    apply List.filter_congr
    intro row hrow
    congr 2
    rw [Bool.eq_iff_iff, List.contains_iff_mem, List.mem_map]
    constructor
    . intro ⟨other, hother, hkey⟩
      rw [List.mem_filter] at hother
      rw [← List.inj_on_of_nodup_map hrows.distinct hother.1 hrow hkey]
      exact hother.2
    . intro henable
      exact ⟨row, List.mem_filter.mpr ⟨hrow, henable⟩, rfl⟩
  unfold cleanDm
  rw [if_neg (by simpa using hget)]
  unfold getParameterValues
  unfold reported at hloop
  rw [hloop, hleft]
  by_cases hall : ∀ row ∈ rows, HasEnable row = true → Fits (rowPath table row.key)
  . rw [if_pos hall, if_pos (hfits.mpr hall), Option.map_some, List.map_map]
    rfl
  . rw [if_neg hall, if_neg (mt hfits.mp hall)]
    rfl

end

theorem cleanDm_unread {bus : CleanBus} (hget : bus.getOk = false) (table : CStr) (failed : Int)
    (rows : List Row)
    : cleanDm table failed bus rows = some { ret := failed, rows, paths := [] } := by
  unfold cleanDm
  rw [hget]
  rfl

theorem cleanDm_rows {table : CStr} {rows : List Row} (hrows : Listed rows)
    (hfits : ∀ row ∈ rows, Fits (rowPath table row.key)) (failed : Int) (bus : CleanBus)
    : ∃ cleaned,
        cleanDm table failed bus rows = some cleaned
          ∧ cleaned.rows = if bus.getOk then cleanedRows table bus.deleteOk rows else rows := by
  cases hget : bus.getOk with
  | false => exact ⟨_, cleanDm_unread hget table failed rows, rfl⟩
  | true =>
    have hall : ∀ row ∈ rows, HasEnable row = true → Fits (rowPath table row.key) :=
      fun row hrow _ => hfits row hrow
    rw [cleanDm_eq hget hrows, if_pos hall]
    exact ⟨_, rfl, rfl⟩

theorem portforwardCleanDm_eq {bus : CleanBus} (hget : bus.getOk = true) {rows : List Row}
    (hrows : Listed rows)
    : portforwardCleanDm bus rows
        =
      some {
        ret := 0
        rows := cleanedRows portMapping bus.deleteOk rows
        paths := cleanedPaths portMapping rows
      } := by
  unfold portforwardCleanDm
  rw [cleanDm_eq hget hrows, if_pos]
  intro row hrow _
  have hint := (hrows.ok row hrow).int
  rw [portMapping_path_fits_iff]
  omega

theorem dhcpReservationCleanDm_eq {bus : CleanBus} (hget : bus.getOk = true) {rows : List Row}
    (hrows : Listed rows)
    : dhcpReservationCleanDm bus rows
        =
      if ∀ row ∈ rows, HasEnable row = true → row.key < 10 ^ 7 then
        some {
          ret := 0
          rows := cleanedRows staticAddress bus.deleteOk rows
          paths := cleanedPaths staticAddress rows
        }
      else
        none := by
  unfold dhcpReservationCleanDm
  rw [cleanDm_eq hget hrows]
  simp only [staticAddress_path_fits_iff]

/--
A clean function asks once for each row with an `Enable` parameter to be deleted, in the order of the
report, and goes on where one is refused; the other rows stay. Only the port mappings tell by what they
return that there was no report, and only the paths of the reservations can be too long.
-/
theorem clean_tables {rows : List Row} (hrows : Listed rows) (bus : CleanBus)
    : (∃ cleaned,
          portforwardCleanDm bus rows = some cleaned
            ∧ cleaned.rows = (if bus.getOk then cleanedRows portMapping bus.deleteOk rows else rows)
            ∧ cleaned.paths = (if bus.getOk then cleanedPaths portMapping rows else [])
            ∧ (cleaned.ret = 0 ↔ bus.getOk = true))
        ∧ ((dhcpReservationCleanDm bus rows).isSome
              ↔ (bus.getOk = true → ∀ row ∈ rows, HasEnable row = true → row.key < 10 ^ 7))
        ∧ ∀ cleaned ∈ dhcpReservationCleanDm bus rows,
            cleaned.rows = (if bus.getOk then cleanedRows staticAddress bus.deleteOk rows else rows)
              ∧ cleaned.paths = (if bus.getOk then cleanedPaths staticAddress rows else [])
              ∧ cleaned.ret = 0 := by
  cases hget : bus.getOk with
  | false =>
    unfold portforwardCleanDm dhcpReservationCleanDm
    rw [cleanDm_unread hget, cleanDm_unread hget]
    simp
  | true =>
    rw [portforwardCleanDm_eq hget hrows, dhcpReservationCleanDm_eq hget hrows]
    refine ⟨⟨_, rfl, rfl, rfl, by simp⟩, ?_, ?_⟩
    . split
      . next hall => simpa using hall
      . next hall => simpa using hall
    . intro cleaned hcleaned
      split at hcleaned
      . rw [Option.mem_some_iff] at hcleaned
        rw [← hcleaned]
        exact ⟨rfl, rfl, rfl⟩
      . simp at hcleaned

theorem clean_tables_enabled
    : let row : Row := { key := 3, cells := [(cstr "Enable", cstr "true"), (cstr "Yiaddr", cstr "10.0.0.9")] }
      let other : Row := { key := 4, cells := [(cstr "Yiaddr", cstr "10.0.0.8")] }
      ∀ cleaned ∈ dhcpReservationCleanDm { getOk := true, deleteOk := fun _ => true } [row, other],
        cleaned.rows = [other] := by
  intro row other cleaned hcleaned
  have hlisted : Listed [row, other] := by
    constructor
    . intro row' hrow
      rw [List.mem_pair] at hrow
      rcases hrow with rfl | rfl
      . exact ⟨by decide, by decide, by decide +kernel⟩
      . exact ⟨by decide, by decide, by decide +kernel⟩
    . decide +kernel
    . decide
  have hclean := ((clean_tables hlisted { getOk := true, deleteOk := fun _ => true }).2.2 cleaned hcleaned).1
  rw [hclean]
  decide +kernel

end Connector
end OpenSyncRdk
