import OpenSyncRdk.Connector.DeleteOrder

/-!
Port forwarding rules that are added and deleted again. What the table holds are rules; the row that is
deleted need not be the one that was added.
-/

namespace OpenSyncRdk
namespace Connector

abbrev Rule := CStr × CStr × Int × Int

def ruleOf (row : Row) : Rule :=
  ( row.get (cstr "InternalClient")
  , (row.get (cstr "Protocol")).map tolower
  , atoi (row.get (cstr "ExternalPort"))
  , atoi (row.get (cstr "InternalPort"))
  )

def IpPortForward.rule (inet : IpPortForward) : Rule :=
  (inet.dstIpaddr, inet.protocol.map tolower, inet.srcPort, inet.dstPort)

structure Reported (rows : List Row) : Prop where
  layout : PortforwardLayout (rows.map Carried.Row.layout)
  inOrder : Layout.InOrder portforwardFields (cstr "InternalClient") (rows.map Carried.Row.layout)

def PortforwardMatches (inet : IpPortForward) (row : Row) : Prop :=
  row.Matches portforwardFields (cstr "InternalClient") (portforwardMatches inet)

theorem portforwardMatches_iff_rule (inet : IpPortForward) (row : Row)
    : PortforwardMatches inet row ↔ ruleOf row = inet.rule := by
  unfold PortforwardMatches Carried.Row.Matches portforwardFields ruleOf IpPortForward.rule
  rw [List.map_cons, List.map_cons, List.map_cons, List.map_nil, portforwardMatches_iff]
  unfold strcaseeq
  rw [beq_iff_eq]
  grind

def paramVal (table : CStr) (key : Nat) (params : List (CStr × CStr)) : List (CStr × CStr) :=
  params.map (fun param => (paramName table key param.1, param.2))

theorem lookup_paramVal (table : CStr) (key : Nat) (params : List (CStr × CStr)) (name : CStr)
    : (paramVal table key params).lookup (paramName table key name) = params.lookup name := by
  induction params with
  | nil => rfl
  | cons param params ih =>
    have ⟨other, value⟩ := param
    unfold paramVal at ih ⊢
    rw [List.map_cons, List.lookup_cons, List.lookup_cons, ih]
    have hiff : paramName table key name = paramName table key other ↔ name = other := by
      rw [paramName_inj]
      simp
    by_cases heq : name = other
    . simp [heq]
    . have hne := mt hiff.mp heq
      rw [beq_false_of_ne heq, beq_false_of_ne hne]

theorem lookup_paramVal_other {table : CStr} {key other : Nat} (hne : other ≠ key)
    (params : List (CStr × CStr)) (name : CStr)
    : (paramVal table key params).lookup (paramName table other name) = none := by
  rw [List.lookup_eq_none_iff]
  intro param hparam
  unfold paramVal at hparam
  have ⟨param', _, heq⟩ := List.mem_map.mp hparam
  rw [← heq]
  dsimp only
  rw [bne_iff_ne, ne_eq, paramName_inj]
  exact fun h => hne h.1

def setRow (params : List (CStr × CStr)) (row : Row) : Row :=
  { row with cells := row.cells.map (fun cell => (cell.1, (params.lookup cell.1).getD cell.2)) }

theorem setRow_layout (params : List (CStr × CStr)) (row : Row)
    : (setRow params row).layout = row.layout := by
  simp [setRow, Carried.Row.layout, Carried.Row.names, Function.comp_def]

theorem get_setRow {params : List (CStr × CStr)} {row : Row} {name value : CStr}
    (hname : name ∈ row.names) (hparam : params.lookup name = some value)
    : (setRow params row).get name = value := by
  unfold setRow
  rw [Carried.get_map_cells (fun name old => (params.lookup name).getD old) hname, hparam]
  rfl

theorem setParameterValues_eq {table : CStr} (params : List (CStr × CStr)) {key : Nat} (rows : List Row)
    : setParameterValues table (paramVal table key params) rows
        =
      rows.map (fun row => if row.key = key then setRow params row else row) := by
  unfold setParameterValues
  apply List.map_congr_left
  intro row _
  split
  . next heq =>
    rw [← heq]
    simp only [lookup_paramVal]
    rfl
  . next hne => simp [lookup_paramVal_other hne]

theorem map_setRow {params : List (CStr × CStr)} {pre post : List Row} {row : Row}
    (hdistinct : ((pre ++ row :: post).map Carried.Row.key).Nodup)
    : (pre ++ row :: post).map (fun other => if other.key = row.key then setRow params other else other)
        =
      pre ++ setRow params row :: post := by
  rw [List.map_append, List.map_cons, List.nodup_append, List.nodup_cons] at hdistinct
  have hother {part : List Row} (hpart : row.key ∉ part.map Carried.Row.key)
      : part.map (fun other => if other.key = row.key then setRow params other else other) = part := by
    calc
      _ = part.map id := by
        apply List.map_congr_left
        intro other hother
        apply if_neg
        intro heq
        rw [← heq] at hpart
        exact hpart (List.mem_map_of_mem hother)
      _ = part := List.map_id part
  rw [List.map_append, List.map_cons, hother, hother hdistinct.2.1.1, if_pos rfl]
  intro hmem
  exact hdistinct.2.2 _ hmem _ List.mem_cons_self rfl

theorem deleteTblRow_eq {table : CStr} {pre post : List Row} {row : Row}
    (hdistinct : ((pre ++ row :: post).map Carried.Row.key).Nodup)
    : deleteTblRow table (rowPath table row.key) (pre ++ row :: post) = pre ++ post := by
  rw [List.map_append, List.map_cons, List.nodup_append, List.nodup_cons] at hdistinct
  unfold deleteTblRow
  rw [List.filter_append, List.filter_cons_of_neg (by simp)]
  congr 1
  . rw [List.filter_eq_self]
    intro other hother
    rw [decide_eq_true_eq, ne_eq, rowPath_inj]
    exact hdistinct.2.2 _ (List.mem_map_of_mem hother) _ List.mem_cons_self
  . rw [List.filter_eq_self]
    intro other hother
    rw [decide_eq_true_eq, ne_eq, rowPath_inj]
    intro heq
    rw [← heq] at hdistinct
    exact hdistinct.2.1.1 (List.mem_map_of_mem hother)

theorem Reported.distinct {rows : List Row} (hrows : Reported rows)
    : (rows.map Carried.Row.key).Nodup := by
  have hdistinct := hrows.layout.distinct
  rw [List.map_map] at hdistinct
  exact hdistinct

theorem Reported.names {rows : List Row} (hrows : Reported rows) {row : Row} (hrow : row ∈ rows)
    : cstr "InternalClient" ∈ row.names ∧ ∀ field ∈ portforwardFields, field ∈ row.names := by
  have hcomplete := hrows.layout.complete row.layout (List.mem_map_of_mem hrow)
  exact ⟨hcomplete.trigger, hcomplete.fields⟩

theorem Reported.of_layout {lhs rhs : List Row} (hlhs : Reported lhs)
    (hlayout : rhs.map Carried.Row.layout = lhs.map Carried.Row.layout)
    : Reported rhs := by
  constructor
  . rw [hlayout]
    exact hlhs.layout
  . rw [hlayout]
    exact hlhs.inOrder

theorem Reported.scan {rows : List Row} (hrows : Reported rows) (inet : IpPortForward)
    (last : CStr → CStr)
    : Carried.scan portforwardFields (cstr "InternalClient") (portforwardMatches inet) last
          (Carried.flat rows)
        =
      (rows.find? (fun row => ruleOf row = inet.rule)).map Carried.Row.key := by
  rw [scan_inOrder portforwardMatches (by decide +kernel) hrows.layout hrows.inOrder inet rfl]
  congr 2
  funext row
  rw [decide_eq_decide]
  exact portforwardMatches_iff_rule inet row

theorem ruleOf_setRow {inet : IpPortForward} (hprotocol : inet.protocol ∈ [cstr "tcp", cstr "udp"])
    (hsrc : 0 ≤ inet.srcPort ∧ inet.srcPort ≤ 65535) (hdst : 0 ≤ inet.dstPort ∧ inet.dstPort ≤ 65535)
    {row : Row} (htrigger : cstr "InternalClient" ∈ row.names)
    (hfields : ∀ field ∈ portforwardFields, field ∈ row.names) (idx : Nat)
    : ruleOf (setRow (portforwardParams inet idx) row) = inet.rule := by
  have hclient
      : (setRow (portforwardParams inet idx) row).get (cstr "InternalClient") = inet.dstIpaddr :=
    get_setRow htrigger rfl
  have hexternal
      : (setRow (portforwardParams inet idx) row).get (cstr "ExternalPort") = decimalInt inet.srcPort :=
    get_setRow (hfields _ (by decide +kernel)) rfl
  have hinternal
      : (setRow (portforwardParams inet idx) row).get (cstr "InternalPort") = decimalInt inet.dstPort :=
    get_setRow (hfields _ (by decide +kernel)) rfl
  have hname
      : (setRow (portforwardParams inet idx) row).get (cstr "Protocol")
          =
        if inet.protocol = cstr "tcp" then cstr "TCP" else cstr "UDP" :=
    get_setRow (hfields _ (by decide +kernel)) rfl
  have hcase
      : (if inet.protocol = cstr "tcp" then cstr "TCP" else cstr "UDP").map tolower
          =
        inet.protocol.map tolower := by
    generalize inet.protocol = protocol at hprotocol
    revert protocol
    decide +kernel
  unfold ruleOf IpPortForward.rule
  rw [hclient, hexternal, hinternal, hname, hcase, atoi_decimalInt hsrc.1 (by omega),
    atoi_decimalInt hdst.1 (by omega)]

theorem portforwardDelDm_none {rows : List Row} (hrows : Reported rows) {inet : IpPortForward}
    (hnone : ∀ row ∈ rows, ruleOf row ≠ inet.rule) (bus : DelBus)
    : portforwardDelDm bus inet rows = some { ret := bus.getOk, rows, paths := [] } := by
  unfold portforwardDelDm
  cases hget : bus.getOk with
  | false =>
    unfold delDm
    rw [hget]
    rfl
  | true =>
    have hscan := hrows.scan inet (fun _ => Carried.firstValue rows)
    rw [List.find?_eq_none.mpr (by simpa using hnone)] at hscan
    exact delDm_none hget (hrows.layout.rows rfl).1 hscan

theorem portforwardDelDm_some {rows : List Row} (hrows : Reported rows) {inet : IpPortForward}
    (hsome : ∃ row ∈ rows, ruleOf row = inet.rule) {bus : DelBus} {deleted : Deleted}
    (hdel : portforwardDelDm bus inet rows = some deleted) (hret : deleted.ret = true)
    : ∃ pre row post,
        rows = pre ++ row :: post ∧ deleted.rows = pre ++ post ∧ ruleOf row = inet.rule := by
  unfold portforwardDelDm at hdel
  cases hget : bus.getOk with
  | false =>
    unfold delDm at hdel
    rw [hget] at hdel
    injection hdel with hdel
    rw [← hdel] at hret
    contradiction
  | true =>
    have hscan := hrows.scan inet (fun _ => Carried.firstValue rows)
    cases hfind : rows.find? (fun row => ruleOf row = inet.rule) with
    | none =>
      have ⟨row, hrow, hrule⟩ := hsome
      rw [List.find?_eq_none] at hfind
      exact absurd (decide_eq_true hrule) (hfind row hrow)
    | some row =>
      rw [hfind, Option.map_some] at hscan
      have ⟨pre, post, hsplit⟩ := List.append_of_mem (List.mem_of_find?_eq_some hfind)
      have hrule := List.find?_some hfind
      rw [decide_eq_true_eq] at hrule
      have hdistinct := hrows.distinct
      rw [delDm_some hget (hrows.layout.rows rfl).1 hscan] at hdel
      split at hdel
      . injection hdel with hdel
        rw [← hdel] at hret
        have hok : bus.deleteOk = true := hret
        refine ⟨pre, row, post, hsplit, ?_, hrule⟩
        rw [hsplit] at hdistinct
        rw [← hdel]
        dsimp only
        rw [hok, if_pos rfl, hsplit]
        exact deleteTblRow_eq hdistinct
      . contradiction

theorem setPortforwardConfiguration_true {rows rows' : List Row} {bus : AddBus} {inet : IpPortForward}
    (hset : setPortforwardConfiguration bus inet rows = some (rows', true))
    : ∃ place row,
        bus.added = some (place, row)
          ∧ rows' = setParameterValues portMapping
              (paramVal portMapping row.key (portforwardParams inet row.key))
              (rows.take place ++ row :: rows.drop place) := by
  unfold setPortforwardConfiguration at hset
  cases hadded : bus.added with
  | none =>
    rw [setDm_none hadded] at hset
    simp at hset
  | some added =>
    have ⟨place, row⟩ := added
    rw [setDm_some hadded] at hset
    split at hset
    . split at hset
      . injection hset with hset
        injection hset with hset
        exact ⟨place, row, rfl, hset.symm⟩
      . simp at hset
    . contradiction

def AddsRow (bus : AddBus) (rows : List Row) : Prop :=
  ∀ place row, bus.added = some (place, row) → Reported (rows.take place ++ row :: rows.drop place)

theorem setPortforwardConfiguration_rules {rows rows' : List Row} {bus : AddBus} {inet : IpPortForward}
    (hadds : AddsRow bus rows) (hprotocol : inet.protocol ∈ [cstr "tcp", cstr "udp"])
    (hsrc : 0 ≤ inet.srcPort ∧ inet.srcPort ≤ 65535) (hdst : 0 ≤ inet.dstPort ∧ inet.dstPort ≤ 65535)
    (hset : setPortforwardConfiguration bus inet rows = some (rows', true))
    : Reported rows' ∧ (rows'.map ruleOf).Perm (inet.rule :: rows.map ruleOf) := by
  have ⟨place, row, hadded, hrows'⟩ := setPortforwardConfiguration_true hset
  have hreported := hadds place row hadded
  have ⟨htrigger, hfields⟩ := hreported.names (show row ∈ rows.take place ++ row :: rows.drop place by simp)
  rw [setParameterValues_eq, map_setRow hreported.distinct] at hrows'
  constructor
  . apply hreported.of_layout
    rw [hrows', List.map_append, List.map_cons, setRow_layout, List.map_append, List.map_cons]
  . rw [hrows', List.map_append, List.map_cons, ruleOf_setRow hprotocol hsrc hdst htrigger hfields]
    apply List.perm_middle.trans
    rw [← List.map_append, List.take_append_drop]

theorem portforward_add_del {rows : List Row} (hrows : Reported rows) (inet : IpPortForward)
    : (∀ addBus delBus rows' deleted,
          AddsRow addBus rows
            → inet.protocol ∈ [cstr "tcp", cstr "udp"]
            → 0 ≤ inet.srcPort ∧ inet.srcPort ≤ 65535
            → 0 ≤ inet.dstPort ∧ inet.dstPort ≤ 65535
            → setPortforwardConfiguration addBus inet rows = some (rows', true)
            → portforwardDelDm delBus inet rows' = some deleted
            → deleted.ret = true
            → (∃ pre row post,
                  rows' = pre ++ row :: post ∧ deleted.rows = pre ++ post ∧ ruleOf row = inet.rule)
                ∧ (deleted.rows.map ruleOf).Perm (rows.map ruleOf))
        ∧ ((∀ row ∈ rows, ruleOf row ≠ inet.rule)
            → ∀ delBus, portforwardDelDm delBus inet rows
                = some { ret := delBus.getOk, rows, paths := [] }) := by
  constructor
  . intro addBus delBus rows' deleted hadds hprotocol hsrc hdst hset hdel hret
    have ⟨hreported, hrules⟩ := setPortforwardConfiguration_rules hadds hprotocol hsrc hdst hset
    have hsome : ∃ row ∈ rows', ruleOf row = inet.rule := by
      have hmem := hrules.mem_iff.mpr List.mem_cons_self
      exact List.mem_map.mp hmem
    have ⟨pre, row, post, hsplit, hdeleted, hrule⟩ := portforwardDelDm_some hreported hsome hdel hret
    refine ⟨⟨pre, row, post, hsplit, hdeleted, hrule⟩, ?_⟩
    rw [hsplit, List.map_append, List.map_cons, hrule] at hrules
    rw [hdeleted, List.map_append]
    exact (List.perm_middle.symm.trans hrules).cons_inv
  . intro hnone delBus
    exact portforwardDelDm_none hrows hnone delBus

def natRow (key : Nat) (client externalPort internalPort : CStr) : Row :=
  { key
    cells :=
      [ (cstr "Enable", cstr "TRUE"), (cstr "ExternalPort", externalPort)
      , (cstr "InternalPort", internalPort), (cstr "Protocol", cstr "UDP")
      , (cstr "InternalClient", client)
      ]
  }

theorem reported_of_natRow {rows : List Row}
    (hrows : ∀ row ∈ rows, 0 < row.key ∧ row.key < 2 ^ 31 ∧ row.names = (natRow 1 [] [] []).names)
    (hdistinct : (rows.map Carried.Row.key).Nodup)
    : Reported rows := by
  have hlayout {entry : Nat × List CStr} (hentry : entry ∈ rows.map Carried.Row.layout)
      : 0 < entry.1 ∧ entry.1 < 2 ^ 31 ∧ entry.2 = (natRow 1 [] [] []).names := by
    have ⟨row, hrow, heq⟩ := List.mem_map.mp hentry
    rw [← heq]
    exact hrows row hrow
  constructor
  . constructor
    . rw [List.map_map]
      exact hdistinct
    . intro entry hentry
      rw [(hlayout hentry).2.2]
      exact ⟨by decide +kernel, by decide +kernel, by decide +kernel⟩
    . intro entry hentry
      exact (hlayout hentry).1
    . intro entry hentry
      exact (hlayout hentry).2.1
    . intro entry hentry
      rw [(hlayout hentry).2.2]
      decide +kernel
  . intro entry hentry
    rw [(hlayout hentry).2.2]
    decide +kernel

theorem portforward_add_del_udp
    : let rows := [natRow 3 (cstr "192.168.1.20") (cstr "53") (cstr "53")]
      let deleted : Deleted :=
        { ret := true, paths := [cstr "Device.NAT.PortMapping.3."]
          rows := [natRow 4 (cstr "192.168.1.20") (cstr "53") (cstr "53")] }
      (deleted.rows.map ruleOf).Perm (rows.map ruleOf) := by
  intro rows deleted
  have hreported : Reported rows := by
    apply reported_of_natRow
    . intro row hrow
      rw [List.mem_singleton.mp hrow]
      exact ⟨by decide, by decide, rfl⟩
    . decide
  have hrestores := (portforward_add_del hreported
    { dstIpaddr := cstr "192.168.1.20", srcPort := 53, dstPort := 53, protocol := cstr "udp" }).1
    { added := some (1, natRow 4 [] (cstr "0") (cstr "0")), setOk := true }
    { getOk := true, deleteOk := true } (rows ++ deleted.rows) deleted
  apply (hrestores _ (by decide +kernel) (by decide) (by decide) (by decide +kernel)
    (by decide +kernel) rfl).2
  intro place row hadded
  injection hadded with hadded
  injection hadded with hplace hnew
  rw [← hplace, ← hnew]
  apply reported_of_natRow
  . intro row hrow
    change row ∈ [natRow 3 _ _ _, natRow 4 _ _ _] at hrow
    rw [List.mem_pair] at hrow
    cases hrow with
    | inl hrow => exact hrow ▸ ⟨by decide, by decide, rfl⟩
    | inr hrow => exact hrow ▸ ⟨by decide, by decide, rfl⟩
  . decide

end Connector
end OpenSyncRdk
