import OpenSyncRdk.Connector.Clean
import OpenSyncRdk.Connector.PortForward

/-!
A table of OVSDB that is kept in a table of the data model. What a row stands for is an entry; adding and
deleting are followed on the entries, with what the bus makes of each call.
-/

namespace OpenSyncRdk
namespace Connector

structure Kind (ρ κ : Type) where
  table : CStr
  fields : List CStr
  trigger : CStr
  test : ρ → List CStr → CStr → Bool
  params : ρ → Nat → List (CStr × CStr)
  read : Row → κ
  entry : ρ → κ

inductive TableCall (ρ : Type) where
  | add (bus : AddBus) (conf : ρ)
  | del (bus : DelBus) (conf : ρ)

namespace Kind

variable {ρ κ : Type} (kind : Kind ρ κ)

def call (rows : List Row) : TableCall ρ → Option (List Row)
  | .add bus conf => (setDm kind.table (kind.params conf) bus rows).map Prod.fst
  | .del bus conf =>
    (delDm kind.table kind.fields kind.trigger (kind.test conf) bus rows).map Deleted.rows

/-- What a call makes of the entries: where the values of a new row are refused, the row stays as it is. -/
def entries [DecidableEq κ] (held : List κ) : TableCall ρ → List κ
  | .add bus conf =>
    match bus.added with
    | none => held
    | some (_, row) => (if bus.setOk then kind.entry conf else kind.read row) :: held
  | .del bus conf => if bus.getOk && bus.deleteOk then held.erase (kind.entry conf) else held

structure Lawful (Valid : ρ → Prop) : Prop where
  notMem : kind.trigger ∉ kind.fields
  matches_iff
    : ∀ conf (row : Row), row.Matches kind.fields kind.trigger (kind.test conf) ↔ kind.read row = kind.entry conf
  read_setRow
    : ∀ conf, Valid conf → ∀ row : Row, kind.trigger ∈ row.names
        → (∀ field ∈ kind.fields, field ∈ row.names)
        → ∀ idx, kind.read (setRow (kind.params conf idx) row) = kind.entry conf

structure Reported (rows : List Row) : Prop where
  layout : Layout.Ok kind.fields kind.trigger (rows.map Carried.Row.layout)
  inOrder : Layout.InOrder kind.fields kind.trigger (rows.map Carried.Row.layout)
  fits : ∀ row ∈ rows, Fits (rowPath kind.table row.key)

def Sound (Valid : ρ → Prop) (rows : List Row) : TableCall ρ → Prop
  | .add bus conf =>
    Valid conf ∧ ∀ place row, bus.added = some (place, row)
      → kind.Reported (rows.take place ++ row :: rows.drop place)
        ∧ ParamsFit kind.table (kind.params conf) row.key
  | .del _ _ => True

section

variable {kind}

theorem Reported.distinct {rows : List Row} (hrows : kind.Reported rows)
    : (rows.map Carried.Row.key).Nodup := by
  have hdistinct := hrows.layout.distinct
  rw [List.map_map] at hdistinct
  exact hdistinct

theorem Reported.sublist {lhs rhs : List Row} (hrhs : kind.Reported rhs) (hsub : lhs.Sublist rhs)
    : kind.Reported lhs := by
  have hlayout := hsub.map Carried.Row.layout
  have hmem {entry : Nat × List CStr} (hentry : entry ∈ lhs.map Carried.Row.layout)
      : entry ∈ rhs.map Carried.Row.layout :=
    hlayout.subset hentry
  constructor
  . constructor
    . exact hrhs.layout.distinct.sublist (hlayout.map Prod.fst)
    . exact fun entry hentry => hrhs.layout.complete entry (hmem hentry)
    . exact fun entry hentry => hrhs.layout.pos entry (hmem hentry)
    . exact fun entry hentry => hrhs.layout.int entry (hmem hentry)
    . exact fun entry hentry => hrhs.layout.names entry (hmem hentry)
  . exact fun entry hentry => hrhs.inOrder entry (hmem hentry)
  . exact fun row hrow => hrhs.fits row (hsub.subset hrow)

theorem Reported.listed {rows : List Row} (hrows : kind.Reported rows)
    : Listed rows := by
  have ⟨hok, hcomplete⟩ := hrows.layout.rows rfl
  exact ⟨hok, fun row hrow => (hcomplete row hrow).nodup, hrows.distinct⟩

theorem Reported.set {pre post : List Row} {row : Row} (hrows : kind.Reported (pre ++ row :: post))
    (params : List (CStr × CStr))
    : kind.Reported (pre ++ setRow params row :: post) := by
  have hlayout
      : (pre ++ setRow params row :: post).map Carried.Row.layout
          =
        (pre ++ row :: post).map Carried.Row.layout := by
    rw [List.map_append, List.map_cons, setRow_layout, List.map_append, List.map_cons]
  constructor
  . rw [hlayout]
    exact hrows.layout
  . rw [hlayout]
    exact hrows.inOrder
  . intro other hother
    rw [List.mem_append, List.mem_cons] at hother
    rcases hother with hother | rfl | hother
    . exact hrows.fits other (by simp [hother])
    . exact hrows.fits row (by simp)
    . exact hrows.fits other (by simp [hother])

variable {Valid : ρ → Prop}

theorem Reported.scan [DecidableEq κ] {rows : List Row} (hrows : kind.Reported rows)
    (hlawful : kind.Lawful Valid) (conf : ρ) (last : CStr → CStr)
    : Carried.scan kind.fields kind.trigger (kind.test conf) last (Carried.flat rows)
        =
      (rows.find? (fun row => kind.read row = kind.entry conf)).map Carried.Row.key := by
  rw [scan_inOrder kind.test hlawful.notMem hrows.layout hrows.inOrder conf rfl]
  congr 2
  funext row
  rw [decide_eq_decide]
  exact hlawful.matches_iff conf row

theorem Reported.call_del [DecidableEq κ] {rows : List Row} (hrows : kind.Reported rows)
    (hlawful : kind.Lawful Valid) (bus : DelBus) (conf : ρ)
    : ∃ rows',
        kind.call rows (.del bus conf) = some rows'
          ∧ kind.Reported rows'
          ∧ (rows'.map kind.read).Perm (kind.entries (rows.map kind.read) (.del bus conf)) := by
  unfold call entries
  dsimp only
  cases hget : bus.getOk with
  | false =>
    refine ⟨rows, ?_, hrows, .rfl⟩
    unfold delDm
    rw [hget]
    rfl
  | true =>
    have hok := hrows.listed.ok
    have hscan := hrows.scan hlawful conf (fun _ => Carried.firstValue rows)
    rw [Bool.true_and]
    cases hfind : rows.find? (fun row => kind.read row = kind.entry conf) with
    | none =>
      rw [hfind, Option.map_none] at hscan
      rw [delDm_none hget hok hscan]
      refine ⟨rows, rfl, hrows, ?_⟩
      have habsent : kind.entry conf ∉ rows.map kind.read := by
        intro hmem
        have ⟨row, hrow, hread⟩ := List.mem_map.mp hmem
        rw [List.find?_eq_none] at hfind
        exact hfind row hrow (decide_eq_true hread)
      rw [List.erase_of_not_mem habsent, ite_self]
    | some row =>
      rw [hfind, Option.map_some] at hscan
      have hmem := List.mem_of_find?_eq_some hfind
      have hread := List.find?_some hfind
      rw [decide_eq_true_eq] at hread
      rw [delDm_some hget hok hscan, if_pos (hrows.fits row hmem), Option.map_some]
      have ⟨pre, post, hsplit⟩ := List.append_of_mem hmem
      cases bus.deleteOk with
      | false => exact ⟨rows, rfl, hrows, .rfl⟩
      | true =>
        have hdistinct := hrows.distinct
        rw [hsplit] at hdistinct hrows ⊢
        refine ⟨pre ++ post, ?_, ?_, ?_⟩
        . rw [if_pos rfl, deleteTblRow_eq hdistinct]
        . apply hrows.sublist
          exact (List.sublist_cons_self row post).append_left pre
        . rw [if_pos rfl, List.map_append, List.map_append, List.map_cons, hread]
          have herase := (@List.perm_middle κ (kind.entry conf) (pre.map kind.read)
            (post.map kind.read)).erase (kind.entry conf)
          rw [List.erase_cons_head] at herase
          exact herase.symm

theorem Reported.call_add [DecidableEq κ] {rows : List Row} (hrows : kind.Reported rows)
    (hlawful : kind.Lawful Valid) {bus : AddBus} {conf : ρ} (hsound : kind.Sound Valid rows (.add bus conf))
    : ∃ rows',
        kind.call rows (.add bus conf) = some rows'
          ∧ kind.Reported rows'
          ∧ (rows'.map kind.read).Perm (kind.entries (rows.map kind.read) (.add bus conf)) := by
  have ⟨hvalid, hadds⟩ := hsound
  unfold call entries
  dsimp only
  cases hadded : bus.added with
  | none =>
    rw [setDm_none hadded]
    exact ⟨rows, rfl, hrows, .rfl⟩
  | some added =>
    have ⟨place, row⟩ := added
    have ⟨hreported, hfits⟩ := hadds place row hadded
    rw [setDm_some hadded, if_pos hfits]
    dsimp only
    have hperm (entry : κ)
        : ((rows.take place).map kind.read ++ entry :: (rows.drop place).map kind.read).Perm
            (entry :: rows.map kind.read) := by
      apply List.perm_middle.trans
      rw [← List.map_append, List.take_append_drop]
    cases bus.setOk with
    | false =>
      refine ⟨rows.take place ++ row :: rows.drop place, rfl, hreported, ?_⟩
      rw [List.map_append, List.map_cons]
      exact hperm _
    | true =>
      have hcomplete := (hreported.layout.rows rfl).2 row (by simp)
      refine ⟨rows.take place ++ setRow (kind.params conf row.key) row :: rows.drop place, ?_,
        hreported.set _, ?_⟩
      . have hset := @setParameterValues_eq kind.table (kind.params conf row.key) row.key
          (rows.take place ++ row :: rows.drop place)
        unfold paramVal at hset
        rw [if_pos rfl, Option.map_some, hset, map_setRow hreported.distinct]
      . rw [List.map_append, List.map_cons,
          hlawful.read_setRow conf hvalid row hcomplete.trigger hcomplete.fields]
        exact hperm _

theorem Reported.call [DecidableEq κ] {rows : List Row} (hrows : kind.Reported rows)
    (hlawful : kind.Lawful Valid) {call : TableCall ρ} (hsound : kind.Sound Valid rows call)
    : ∃ rows',
        kind.call rows call = some rows'
          ∧ kind.Reported rows'
          ∧ (rows'.map kind.read).Perm (kind.entries (rows.map kind.read) call) := by
  cases call with
  | add bus conf => exact hrows.call_add hlawful hsound
  | del bus conf => exact hrows.call_del hlawful bus conf

theorem entries_perm [DecidableEq κ] {lhs rhs : List κ} (hperm : lhs.Perm rhs) (call : TableCall ρ)
    : (kind.entries lhs call).Perm (kind.entries rhs call) := by
  cases call with
  | add bus conf =>
    unfold entries
    dsimp only
    cases bus.added with
    | none => exact hperm
    | some added => exact hperm.cons _
  | del bus conf =>
    unfold entries
    dsimp only
    split
    . exact hperm.erase _
    . exact hperm

end

end Kind

def portforward : Kind IpPortForward Rule where
  table := portMapping
  fields := portforwardFields
  trigger := cstr "InternalClient"
  test := portforwardMatches
  params := portforwardParams
  read := ruleOf
  entry := IpPortForward.rule

abbrev Reservation := CStr × CStr

def reservationOf (row : Row) : Reservation :=
  (row.get (cstr "Yiaddr"), row.get (cstr "Chaddr"))

def DhcpReservedIp.reservation (rip : DhcpReservedIp) : Reservation :=
  (rip.ipAddr, rip.hwAddr)

def dhcpReservation : Kind DhcpReservedIp Reservation where
  table := staticAddress
  fields := dhcpReservationFields
  trigger := cstr "Yiaddr"
  test := dhcpReservationMatches
  params := dhcpReservationParams
  read := reservationOf
  entry := DhcpReservedIp.reservation

structure IpPortForward.Valid (iconf : IpPortForward) : Prop where
  protocol : iconf.protocol ∈ [cstr "tcp", cstr "udp"]
  srcPort : 0 ≤ iconf.srcPort ∧ iconf.srcPort ≤ 65535
  dstPort : 0 ≤ iconf.dstPort ∧ iconf.dstPort ≤ 65535

theorem portforward_lawful
    : portforward.Lawful IpPortForward.Valid := by
  constructor
  . decide +kernel
  . exact fun iconf row => portforwardMatches_iff_rule iconf row
  . intro iconf hvalid row htrigger hfields idx
    exact ruleOf_setRow hvalid.protocol hvalid.srcPort hvalid.dstPort htrigger hfields idx

theorem dhcpReservation_lawful
    : dhcpReservation.Lawful (fun _ => True) := by
  constructor
  . decide +kernel
  . intro rip row
    unfold dhcpReservation Carried.Row.Matches dhcpReservationFields reservationOf
      DhcpReservedIp.reservation
    dsimp only
    rw [List.map_cons, List.map_nil, dhcpReservationMatches_iff]
    grind
  . intro rip _ row htrigger hfields idx
    have hchaddr : (setRow (dhcpReservationParams rip idx) row).get (cstr "Chaddr") = rip.hwAddr :=
      get_setRow (hfields _ (by decide +kernel)) rfl
    have hyiaddr : (setRow (dhcpReservationParams rip idx) row).get (cstr "Yiaddr") = rip.ipAddr :=
      get_setRow htrigger rfl
    unfold dhcpReservation reservationOf DhcpReservedIp.reservation
    dsimp only
    rw [hchaddr, hyiaddr]

end Connector
end OpenSyncRdk
