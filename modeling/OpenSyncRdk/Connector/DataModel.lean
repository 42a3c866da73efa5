import OpenSyncRdk.Lib.Carried
import OpenSyncRdk.Lib.Numerals
import OpenSyncRdk.Lib.Words

/-!
The tables of the RDK data model as `connector_dm.c` sees them over the CCSP bus, and the loop in which
its delete functions look for a row. A parameter is reported under the path of its table, the instance
number of its row and its own name.
-/

namespace OpenSyncRdk
namespace Connector

def buffLen : Nat := 51

abbrev Row := Carried.Row Nat CStr CStr

structure Row.Ok (row : Row) : Prop where
  pos : 0 < row.key
  int : row.key < 2 ^ 31
  names : ∀ name ∈ row.names, name ≠ [] ∧ 46 ∉ name

def rowPath (table : CStr) (idx : Int) : CStr :=
  table ++ decimalInt idx ++ cstr "."

def paramName (table : CStr) (idx : Int) (name : CStr) : CStr :=
  table ++ decimalInt idx ++ cstr "." ++ name

def getParameterValues (table : CStr) (rows : List Row) : List (CStr × CStr) :=
  (Carried.flat rows).map (fun cell => (paramName table cell.1 cell.2.1, cell.2.2))

def setParameterValues (table : CStr) (vals : List (CStr × CStr)) (rows : List Row) : List Row :=
  rows.map (fun row =>
    { row with
      cells := row.cells.map (fun cell =>
        (cell.1, (vals.lookup (paramName table row.key cell.1)).getD cell.2))
    })

def deleteTblRow (table path : CStr) (rows : List Row) : List Row :=
  rows.filter (fun row => rowPath table row.key ≠ path)

def Fits (s : CStr) : Prop :=
  s.length + 1 ≤ buffLen

instance : Decidable (Fits s) :=
  inferInstanceAs (Decidable (_ ≤ _))

def sprintf (s : CStr) : Option CStr :=
  if Fits s then some s else none

def isDot (c : UInt8) : Bool :=
  c == 46

structure DelBus where
  getOk : Bool
  deleteOk : Bool

structure Deleted where
  ret : Bool
  rows : List Row
  -- the paths that `CcspBaseIf_DeleteTblRow` was called with
  paths : List CStr
  deriving DecidableEq

section

variable (table : CStr) (fields : List CStr) (trigger : CStr) (test : List CStr → CStr → Bool)

/--
The loop over the parameters. `indices` are the positions that it has seen the fields at last, and the
result is the instance number of the row that it deletes; a name without its parts has no result.
-/
def delLoop (valStructs : List (CStr × CStr)) (i : Nat) (indices : CStr → Nat)
    : List (CStr × CStr) → Option (Option Int)
  | [] => some none
  | (parameterName, parameterValue) :: rest =>
    match strtok isDot (parameterName.drop table.length) with
    | none => none
    | some (token, more) =>
      let idx := atoi token
      match strtok isDot more with
      | none => none
      | some (token, _) =>
        let indices := if token ∈ fields then Function.update indices token i else indices
        let value := fun name => (valStructs.getD (indices name) default).2
        if token = trigger ∧ test (fields.map value) parameterValue then
          some (some idx)
        else
          delLoop valStructs (i + 1) indices rest

def delDm (bus : DelBus) (rows : List Row) : Option Deleted :=
  if ¬bus.getOk then
    some { ret := false, rows, paths := [] }
  else
    let valStructs := getParameterValues table rows
    match delLoop table fields trigger test valStructs 0 (fun _ => 0) valStructs with
    | none => none
    | some none => some { ret := true, rows, paths := [] }
    | some (some idx) =>
      match sprintf (rowPath table idx) with
      | none => none
      | some pathStr =>
        if bus.deleteOk then
          some { ret := true, rows := deleteTblRow table pathStr rows, paths := [pathStr] }
        else
          some { ret := false, rows, paths := [pathStr] }

end

theorem paramName_drop (table : CStr) (idx : Nat) (name : CStr)
    : (paramName table idx name).drop table.length = decimal idx ++ 46 :: name := by
  unfold paramName
  rw [decimalInt_natCast, List.append_assoc, List.append_assoc, List.drop_left]
  rfl

theorem paramName_inj {table : CStr} {lhs rhs : Nat} {lhsName rhsName : CStr}
    : paramName table lhs lhsName = paramName table rhs rhsName ↔ lhs = rhs ∧ lhsName = rhsName := by
  constructor
  . intro heq
    have hdrop := congrArg (List.drop table.length) heq
    rw [paramName_drop, paramName_drop] at hdrop
    exact decimal_append_inj (by decide) hdrop
  . rintro ⟨rfl, rfl⟩
    rfl

theorem rowPath_inj {table : CStr} {lhs rhs : Nat}
    : rowPath table lhs = rowPath table rhs ↔ lhs = rhs := by
  have hname : paramName table lhs [] = paramName table rhs [] ↔ lhs = rhs ∧ ([] : CStr) = [] :=
    paramName_inj
  simpa [paramName, rowPath] using hname

theorem strtok_paramName (table : CStr) (idx : Nat) {name : CStr} (hne : name ≠ []) (hdot : 46 ∉ name)
    : strtok isDot ((paramName table idx name).drop table.length) = some (decimal idx, name)
        ∧ strtok isDot name = some (name, []) := by
  rw [paramName_drop]
  constructor
  . apply strtok_word_sep (decimal_ne_nil idx) _ rfl
    intro c hc
    have hdigit := isDigit_of_mem_decimal hc
    unfold isDigit at hdigit
    unfold isDot
    grind
  . apply strtok_word hne
    intro c hc
    unfold isDot
    rw [beq_eq_false_iff_ne]
    exact ne_of_mem_of_not_mem hc hdot

def reported (table : CStr) (cell : Nat × CStr × CStr) : CStr × CStr :=
  (paramName table cell.1 cell.2.1, cell.2.2)

section

variable {table : CStr} {fields : List CStr} {trigger : CStr} {test : List CStr → CStr → Bool}

theorem cell_ok {rows : List Row} (hrows : ∀ row ∈ rows, row.Ok) {cell : Nat × CStr × CStr}
    (hcell : cell ∈ Carried.flat rows)
    : cell.1 < 2 ^ 31 ∧ cell.2.1 ≠ [] ∧ 46 ∉ cell.2.1 := by
  unfold Carried.flat Carried.Row.flat at hcell
  rw [List.mem_flatMap] at hcell
  have ⟨row, hrow, hcell⟩ := hcell
  rw [List.mem_map] at hcell
  have ⟨cell', hmem, heq⟩ := hcell
  have hok := hrows row hrow
  rw [← heq]
  exact ⟨hok.int, hok.names cell'.1 (List.mem_map_of_mem hmem)⟩

theorem delLoop_eq_scan {valStructs done : List (CStr × CStr)} {cells : List (Nat × CStr × CStr)}
    (hvals : valStructs = done ++ cells.map (reported table))
    (hcells : ∀ cell ∈ cells, cell.1 < 2 ^ 31 ∧ cell.2.1 ≠ [] ∧ 46 ∉ cell.2.1) (indices : CStr → Nat)
    : delLoop table fields trigger test valStructs done.length indices (cells.map (reported table))
        =
      some ((Carried.scan fields trigger test
          (fun name => (valStructs.getD (indices name) default).2) cells).map
        (fun key : Nat => (key : Int))) := by
  induction cells generalizing done indices with
  | nil => rfl
  | cons cell cells ih =>
    have ⟨hint, hne, hdot⟩ := hcells cell (by simp)
    have ⟨htoken, hname⟩ := strtok_paramName table cell.1 hne hdot
    have hhere : (valStructs.getD done.length default).2 = cell.2.2 := by
      rw [hvals, List.map_cons, List.getD_append_right _ _ _ _ (Nat.le_refl _), Nat.sub_self]
      rfl
    rw [List.map_cons] at hvals ⊢
    have hvals' : valStructs = (done ++ [reported table cell]) ++ cells.map (reported table) := by
      rw [hvals, List.append_assoc]
      rfl
    have htail := ih hvals' (fun cell hmem => hcells cell (by simp [hmem]))
    rw [List.length_append, List.length_singleton] at htail
    rw [Carried.scan]
    unfold delLoop
    unfold reported at htail ⊢
    dsimp only
    rw [htoken]
    dsimp only
    rw [hname]
    dsimp only
    rw [htail]
    have hread
        : (fun name => (valStructs.getD
            ((if cell.2.1 ∈ fields then Function.update indices cell.2.1 done.length else indices) name)
            default).2)
            =
          Carried.remember fields (fun name => (valStructs.getD (indices name) default).2) [cell] := by
      unfold Carried.remember
      rw [List.foldl_cons, List.foldl_nil]
      split
      . funext name
        by_cases heq : name = cell.2.1
        . rw [heq, Function.update_self, Function.update_self, hhere]
        . rw [Function.update_of_ne heq, Function.update_of_ne heq]
      . rfl
    rw [hread, atoi_decimal hint]
    split
    . rfl
    . rfl

theorem delLoop_getParameterValues {rows : List Row} (hrows : ∀ row ∈ rows, row.Ok)
    : delLoop table fields trigger test (getParameterValues table rows) 0 (fun _ => 0)
          (getParameterValues table rows)
        =
      some ((Carried.scan fields trigger test (fun _ => Carried.firstValue rows) (Carried.flat rows)).map
        (fun key : Nat => (key : Int))) := by
  have hscan := @delLoop_eq_scan table fields trigger test (getParameterValues table rows) []
    (Carried.flat rows) rfl (fun cell hcell => cell_ok hrows hcell) (fun _ => 0)
  have hfirst
      : ((getParameterValues table rows).getD 0 default).2 = Carried.firstValue rows := by
    unfold getParameterValues Carried.firstValue
    cases Carried.flat rows with
    | nil => rfl
    | cons cell cells => rfl
  rw [hfirst] at hscan
  exact hscan

section

variable {bus : DelBus} (hget : bus.getOk = true) {rows : List Row} (hrows : ∀ row ∈ rows, row.Ok)

include hget hrows

theorem delDm_none
    (hscan : Carried.scan fields trigger test (fun _ => Carried.firstValue rows) (Carried.flat rows) = none)
    : delDm table fields trigger test bus rows = some { ret := true, rows, paths := [] } := by
  simp only [delDm, hget]
  rw [delLoop_getParameterValues hrows, hscan]
  rfl

theorem delDm_some {key : Nat}
    (hscan
      : Carried.scan fields trigger test (fun _ => Carried.firstValue rows) (Carried.flat rows) = some key)
    : delDm table fields trigger test bus rows
        =
      if Fits (rowPath table key) then
        some {
          ret := bus.deleteOk
          rows := if bus.deleteOk then deleteTblRow table (rowPath table key) rows else rows
          paths := [rowPath table key]
        }
      else
        none := by
  simp only [delDm, hget]
  rw [delLoop_getParameterValues hrows, hscan]
  rw [if_neg (by simp), Option.map_some]
  unfold sprintf
  by_cases hfits : Fits (rowPath table key)
  . simp only [hfits, ↓reduceIte]
    cases bus.deleteOk with
    | true => rfl
    | false => rfl
  . simp only [hfits, ↓reduceIte]

end

end

end Connector
end OpenSyncRdk
