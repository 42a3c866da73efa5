import OpenSyncRdk.Bsal.Group
import OpenSyncRdk.Clients.Table

/-!
The table of neighbors of all interfaces, `bsal_ifaces_neighbors`, and the lists of neighbors that the
wifi HAL gets from it. `dangling` marks a table with an entry whose key in the tree is a variable of a
call that has returned. `ifnameLen` stands for `BSAL_IFNAME_LEN`.
-/

namespace OpenSyncRdk
namespace Bsal

open Clients (MacAddr)

structure NeighKey where
  bssid : MacAddr
  ifname : CStr
  deriving DecidableEq

def macBytes (mac : MacAddr) : List UInt8 :=
  [mac.b0, mac.b1, mac.b2, mac.b3, mac.b4, mac.b5]

def bssidIfnameCmp : NeighKey → NeighKey → Ordering :=
  compareLex (compareOn (fun key => macBytes key.bssid)) (compareOn NeighKey.ifname)

instance : Std.TransCmp bssidIfnameCmp :=
  inferInstanceAs (Std.TransCmp (compareLex _ _))

instance : Std.LawfulEqCmp bssidIfnameCmp where
  eq_of_compare := by
    intro lhs rhs hcmp
    simp only [bssidIfnameCmp, compareLex_eq_eq, compareOn, Std.LawfulEqOrd.compare_eq_iff_eq]
      at hcmp
    rcases lhs with ⟨⟨_, _, _, _, _, _⟩, _⟩
    rcases rhs with ⟨⟨_, _, _, _, _, _⟩, _⟩
    simpa [macBytes, and_assoc] using hcmp

structure NeighInfo where
  bssid : MacAddr
  bssidInfo : Nat
  opClass : Nat
  channel : Nat
  phyType : Nat
  -- the fields that are copied but never read
  rest : List UInt8
  deriving DecidableEq

structure NeighborReport where
  bssid : MacAddr
  info : Nat
  opClass : Nat
  channel : Nat
  phyTable : Nat
  deriving DecidableEq

abbrev NeighTable := Std.ExtTreeMap NeighKey NeighInfo bssidIfnameCmp

structure NeighEnv extends Radios where
  callocNeighbor : Bool
  callocReports : Bool
  setNeighborReportsOk : Bool

def NeighInfo.report (nr : NeighInfo) : NeighborReport :=
  { bssid := nr.bssid, info := nr.bssidInfo, opClass := nr.opClass, channel := nr.channel
    phyTable := nr.phyType }

def neighborReports (table : NeighTable) (ifname : CStr) : List NeighborReport :=
  (table.toList.filter (fun entry => entry.1.ifname = ifname)).map (fun entry => entry.2.report)

structure Sent where
  call : Option (Int × List NeighborReport)
  ret : Int

def bsalSendUpdateNeighborList (env : NeighEnv) (table : NeighTable) (ifname : CStr) : Sent :=
  let reports := neighborReports table ifname
  match vifIfnameToIdx env.toRadios ifname with
  | none => { call := none, ret := -1 }
  | some apIndex =>
    if reports.length > 0 ∧ ¬env.callocReports then
      { call := none, ret := -1 }
    else
      { call := some (apIndex, reports), ret := if env.setNeighborReportsOk then 0 else -1 }

structure NeighOutcome where
  table : NeighTable
  dangling : Bool
  sent : Option Sent
  ret : Int

section

variable (ifnameLen : Nat)

def neighKey (ifname : CStr) (nr : NeighInfo) : NeighKey :=
  { bssid := nr.bssid, ifname := strscpy ifnameLen ifname }

def targetBsalRrmSetNeighbor (env : NeighEnv) (table : NeighTable) (ifname : CStr) (nr : NeighInfo)
    : NeighOutcome :=
  let key := neighKey ifnameLen ifname nr
  if key ∉ table ∧ ¬env.callocNeighbor then
    { table, dangling := false, sent := none, ret := -1 }
  else
    let table := table.insert key nr
    let sent := bsalSendUpdateNeighborList env table ifname
    if sent.ret ≠ 0 then
      { table := table.erase key, dangling := false, sent := some sent, ret := sent.ret }
    else
      { table, dangling := false, sent := some sent, ret := 0 }

def targetBsalRrmRemoveNeighbor (env : NeighEnv) (table : NeighTable) (ifname : CStr)
    (nr : NeighInfo) : NeighOutcome :=
  let key := neighKey ifnameLen ifname nr
  match table[key]? with
  | none => { table, dangling := false, sent := none, ret := 0 }
  | some neighbor =>
    let table := table.erase key
    let sent := bsalSendUpdateNeighborList env table ifname
    if sent.ret ≠ 0 then
      -- the entry is inserted under the address of the local `key`
      { table := table.insert key neighbor, dangling := true, sent := some sent, ret := sent.ret }
    else
      { table, dangling := false, sent := some sent, ret := 0 }

end

end Bsal
end OpenSyncRdk
