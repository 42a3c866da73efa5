import OpenSyncRdk.Connector.Tables
import Mathlib.Algebra.GroupWithZero.Nat

/-!
The order of the parameters in a row decides whether the delete functions find it. Fields are compared
where one of them comes by, so those that come after it are taken from another row.
-/

namespace OpenSyncRdk
namespace Connector

abbrev Layout := List (Nat × List CStr)

structure Layout.Ok (fields : List CStr) (trigger : CStr) (layout : Layout) : Prop where
  distinct : (layout.map Prod.fst).Nodup
  complete : ∀ entry ∈ layout, Carried.Complete fields trigger entry.2
  pos : ∀ entry ∈ layout, 0 < entry.1
  int : ∀ entry ∈ layout, entry.1 < 2 ^ 31
  names : ∀ entry ∈ layout, ∀ name ∈ entry.2, name ≠ [] ∧ 46 ∉ name

def Layout.InOrder (fields : List CStr) (trigger : CStr) (layout : Layout) : Prop :=
  ∀ entry ∈ layout, Carried.InOrder fields trigger entry.2

structure DeletesMatch (table : CStr) (fields : List CStr) (trigger : CStr)
    (test : List CStr → CStr → Bool) (rows : List Row) (res : Option Deleted) : Prop where
  only
    : ∀ deleted ∈ res, ∀ path ∈ deleted.paths, ∃ row ∈ rows,
        path = rowPath table row.key ∧ row.Matches fields trigger test
  finds
    : (∃ row ∈ rows, row.Matches fields trigger test) → ∃ deleted ∈ res, deleted.paths ≠ []

section

variable {ρ : Type} (table : CStr) {fields : List CStr} {trigger : CStr}
  (test : ρ → List CStr → CStr → Bool)

def AlwaysDeletesMatch (del : DelBus → ρ → List Row → Option Deleted) (table : CStr)
    (fields : List CStr) (trigger : CStr) (test : ρ → List CStr → CStr → Bool) (layout : Layout) : Prop :=
  ∀ (rule : ρ) (rows : List Row) (deleteOk : Bool),
    rows.map Carried.Row.layout = layout
      → DeletesMatch table fields trigger (test rule) rows (del { getOk := true, deleteOk } rule rows)

def delRule (table : CStr) (fields : List CStr) (trigger : CStr) (test : ρ → List CStr → CStr → Bool)
    (bus : DelBus) (rule : ρ) (rows : List Row) : Option Deleted :=
  delDm table fields trigger (test rule) bus rows

theorem Layout.Ok.rows {layout : Layout} (hok : layout.Ok fields trigger) {rows : List Row}
    (hlayout : rows.map Carried.Row.layout = layout)
    : (∀ row ∈ rows, row.Ok) ∧ ∀ row ∈ rows, Carried.Complete fields trigger row.names := by
  have hmem {row : Row} (hrow : row ∈ rows) : row.layout ∈ layout := by
    rw [← hlayout]
    exact List.mem_map_of_mem hrow
  constructor
  . intro row hrow
    have hentry := hmem hrow
    exact ⟨hok.pos _ hentry, hok.int _ hentry, hok.names _ hentry⟩
  . intro row hrow
    exact hok.complete _ (hmem hrow)

theorem scan_inOrder (hfields : trigger ∉ fields) {layout : Layout} (hok : layout.Ok fields trigger)
    (horder : layout.InOrder fields trigger) (rule : ρ) {rows : List Row}
    (hlayout : rows.map Carried.Row.layout = layout) (last : CStr → CStr)
    : Carried.scan fields trigger (test rule) last (Carried.flat rows)
        =
      (rows.find? (fun row => row.Matches fields trigger (test rule))).map Carried.Row.key := by
  apply Carried.scan_eq_find hfields (hok.rows hlayout).2
  intro row hrow
  apply horder row.layout
  rw [← hlayout]
  exact List.mem_map_of_mem hrow

theorem alwaysDeletesMatch_of_inOrder (hfields : trigger ∉ fields) {layout : Layout}
    (hok : layout.Ok fields trigger) (horder : layout.InOrder fields trigger)
    (hfits : ∀ entry ∈ layout, Fits (rowPath table entry.1))
    : AlwaysDeletesMatch (delRule table fields trigger test) table fields trigger test layout := by
  intro rule rows deleteOk hlayout
  have hscan := scan_inOrder test hfields hok horder rule hlayout (fun _ => Carried.firstValue rows)
  have hrows := (hok.rows hlayout).1
  cases hfind : rows.find? (fun row => row.Matches fields trigger (test rule)) with
  | none =>
    rw [hfind, Option.map_none] at hscan
    unfold delRule
    rw [delDm_none rfl hrows hscan]
    rw [List.find?_eq_none] at hfind
    constructor
    . intro deleted hdeleted path hpath
      rw [Option.mem_some_iff] at hdeleted
      rw [← hdeleted] at hpath
      simp at hpath
    . intro ⟨row, hrow, hmatches⟩
      exact absurd (decide_eq_true hmatches) (hfind row hrow)
  | some row =>
    rw [hfind, Option.map_some] at hscan
    have hrow := List.mem_of_find?_eq_some hfind
    have hmatches := List.find?_some hfind
    rw [decide_eq_true_eq] at hmatches
    have hpath : Fits (rowPath table row.key) := by
      apply hfits row.layout
      rw [← hlayout]
      exact List.mem_map_of_mem hrow
    unfold delRule
    rw [delDm_some rfl hrows hscan, if_pos hpath]
    constructor
    . intro deleted hdeleted path hpath
      rw [Option.mem_some_iff] at hdeleted
      rw [← hdeleted, List.mem_singleton] at hpath
      exact ⟨row, hrow, hpath, hmatches⟩
    . intro _
      exact ⟨_, rfl, by simp⟩

theorem matches_fill {sample : CStr → CStr} {blank : CStr} {rule : ρ}
    (hsample : Carried.Sample fields trigger (test rule) sample blank) {layout : Layout}
    (hok : layout.Ok fields trigger) {entry : Nat × List CStr} (hentry : entry ∈ layout)
    : ∃ row ∈ Carried.fill (Carried.sampleAt sample blank entry.1) layout,
        row.Matches fields trigger (test rule) := by
  refine ⟨_, List.mem_map_of_mem hentry, ?_⟩
  rw [Carried.matches_fill_iff hsample (hok.complete entry hentry)]

theorem inOrder_of_alwaysDeletesMatch (hfields : trigger ∉ fields) {layout : Layout}
    (hok : layout.Ok fields trigger) {rule : ρ} {sample : CStr → CStr} {blank : CStr}
    (hsample : Carried.Sample fields trigger (test rule) sample blank)
    (halways
      : AlwaysDeletesMatch (delRule table fields trigger test) table fields trigger test layout)
    : layout.InOrder fields trigger := by
  intro entry hentry
  apply Decidable.byContradiction
  intro hlate
  have hlayout := Carried.fill_layout (Carried.sampleAt sample blank entry.1) layout
  have hmatches := matches_fill test hsample hok hentry
  have hrows := (hok.rows hlayout).1
  have hdeletes := halways rule _ true hlayout
  have ⟨pre, post, hsplit⟩ := List.append_of_mem hentry
  have hmissed := Carried.scan_missed hfields hsample (hsplit ▸ hok.distinct)
    (hok.complete entry hentry) hlate
  dsimp only at hmissed
  rw [← hsplit] at hmissed
  have ⟨deleted, hdeleted, hpaths⟩ := hdeletes.finds hmatches
  unfold delRule at hdeleted
  rw [delDm_none rfl hrows hmissed, Option.mem_some_iff] at hdeleted
  rw [← hdeleted] at hpaths
  contradiction

theorem fits_of_alwaysDeletesMatch (hfields : trigger ∉ fields) {layout : Layout}
    (hok : layout.Ok fields trigger) {rule : ρ} {sample : CStr → CStr} {blank : CStr}
    (hsample : Carried.Sample fields trigger (test rule) sample blank)
    (halways
      : AlwaysDeletesMatch (delRule table fields trigger test) table fields trigger test layout)
    : ∀ entry ∈ layout, Fits (rowPath table entry.1) := by
  intro entry hentry
  apply Decidable.byContradiction
  intro hlong
  have horder := inOrder_of_alwaysDeletesMatch table test hfields hok hsample halways
  have hlayout := Carried.fill_layout (Carried.sampleAt sample blank entry.1) layout
  have hmatches := matches_fill test hsample hok hentry
  have hrows := (hok.rows hlayout).1
  have hdeletes := halways rule _ true hlayout
  generalize hfill : Carried.fill (Carried.sampleAt sample blank entry.1) layout = rows at *
  have hscan := scan_inOrder test hfields hok horder rule hlayout (fun _ => Carried.firstValue rows)
  cases hfind : rows.find? (fun row => row.Matches fields trigger (test rule)) with
  | none =>
    have ⟨row, hrow, hmatch⟩ := hmatches
    rw [List.find?_eq_none] at hfind
    exact hfind row hrow (decide_eq_true hmatch)
  | some row =>
    rw [hfind, Option.map_some] at hscan
    have hrow := List.mem_of_find?_eq_some hfind
    have hmatch := List.find?_some hfind
    rw [decide_eq_true_eq] at hmatch
    have hkey : row.key = entry.1 := by
      rw [← hfill] at hrow
      have ⟨other, hother, heq⟩ := List.mem_map.mp hrow
      rw [← heq] at hmatch ⊢
      exact (Carried.matches_fill_iff hsample (hok.complete other hother) entry.1).mp hmatch
    have ⟨deleted, hdeleted, _⟩ := hdeletes.finds hmatches
    unfold delRule at hdeleted
    rw [delDm_some rfl hrows hscan, hkey, if_neg hlong] at hdeleted
    simp at hdeleted

theorem alwaysDeletesMatch_iff (hfields : trigger ∉ fields) {layout : Layout}
    (hok : layout.Ok fields trigger) {rule : ρ} {sample : CStr → CStr} {blank : CStr}
    (hsample : Carried.Sample fields trigger (test rule) sample blank)
    : AlwaysDeletesMatch (delRule table fields trigger test) table fields trigger test layout
        ↔
      layout.InOrder fields trigger ∧ ∀ entry ∈ layout, Fits (rowPath table entry.1) := by
  constructor
  . intro halways
    exact ⟨inOrder_of_alwaysDeletesMatch table test hfields hok hsample halways,
      fits_of_alwaysDeletesMatch table test hfields hok hsample halways⟩
  . intro ⟨horder, hfits⟩
    exact alwaysDeletesMatch_of_inOrder table test hfields hok horder hfits

end

theorem portforwardMatches_iff (iconf : IpPortForward) (externalPort internalPort protocol client : CStr)
    : portforwardMatches iconf [externalPort, internalPort, protocol] client = true
        ↔
      iconf.dstIpaddr = client
        ∧ strcaseeq iconf.protocol protocol = true
        ∧ iconf.srcPort = atoi externalPort
        ∧ iconf.dstPort = atoi internalPort := by
  simp [portforwardMatches, and_assoc]

theorem dhcpReservationMatches_iff (rip : DhcpReservedIp) (chaddr yiaddr : CStr)
    : dhcpReservationMatches rip [chaddr] yiaddr = true ↔ rip.ipAddr = yiaddr ∧ rip.hwAddr = chaddr := by
  simp [dhcpReservationMatches]

theorem eq_of_sample {sample : CStr → CStr} {names : List CStr}
    (hblank : ∀ name, name ∈ names ∨ sample name = []) {P : CStr → Prop} {field name : CStr} (hnil : ¬P [])
    (hothers : ∀ other ∈ names, other ≠ field → ¬P (sample other)) (hname : P (sample name))
    : name = field := by
  apply Decidable.byContradiction
  intro hne
  cases hblank name with
  | inl hmem => exact hothers name hmem hne hname
  | inr heq =>
    rw [heq] at hname
    exact hnil hname

def portforwardRule : IpPortForward :=
  { dstIpaddr := cstr "client", srcPort := 1, dstPort := 2, protocol := cstr "tcp" }

def portforwardSample (name : CStr) : CStr :=
  if name = cstr "InternalClient" then
    cstr "client"
  else if name = cstr "ExternalPort" then
    cstr "1"
  else if name = cstr "InternalPort" then
    cstr "2"
  else if name = cstr "Protocol" then
    cstr "tcp"
  else
    []

theorem portforwardSample_blank (name : CStr)
    : name ∈ cstr "InternalClient" :: portforwardFields ∨ portforwardSample name = [] := by
  unfold portforwardSample portforwardFields
  split
  . next hname => simp [hname]
  . split
    . next hname => simp [hname]
    . split
      . next hname => simp [hname]
      . split
        . next hname => simp [hname]
        . exact .inr rfl

theorem eq_externalPort (hport : portforwardRule.srcPort = atoi (portforwardSample name))
    : name = cstr "ExternalPort" := by
  apply eq_of_sample portforwardSample_blank (P := fun val => portforwardRule.srcPort = atoi val) _ _ hport
  . decide +kernel
  . decide +kernel

theorem eq_internalPort (hport : portforwardRule.dstPort = atoi (portforwardSample name))
    : name = cstr "InternalPort" := by
  apply eq_of_sample portforwardSample_blank (P := fun val => portforwardRule.dstPort = atoi val) _ _ hport
  . decide +kernel
  . decide +kernel

theorem eq_protocol (hprotocol : strcaseeq portforwardRule.protocol (portforwardSample name) = true)
    : name = cstr "Protocol" := by
  apply eq_of_sample portforwardSample_blank (P := fun val => strcaseeq portforwardRule.protocol val = true)
    _ _ hprotocol
  . decide +kernel
  . decide +kernel

theorem portforward_sample
    : Carried.Sample portforwardFields (cstr "InternalClient") (portforwardMatches portforwardRule)
        portforwardSample [] := by
  constructor
  . decide +kernel
  . intro vals
    unfold portforwardMatches
    split
    . rw [decide_eq_false (show ¬portforwardRule.dstIpaddr = [] by decide +kernel)]
      rfl
    . rfl
  . intro field hfield last value hlast
    rw [← Bool.not_eq_true]
    intro htest
    unfold portforwardFields at hfield htest
    rw [List.map_cons, List.map_cons, List.map_cons, List.map_nil, portforwardMatches_iff] at htest
    have ⟨_, hprotocol, hsrc, hdst⟩ := htest
    simp only [List.mem_cons, List.not_mem_nil, or_false] at hfield
    rcases hfield with rfl | rfl | rfl
    . rcases hlast with hlast | ⟨name, hne, hlast⟩
      . rw [hlast] at hsrc
        exact absurd hsrc (by decide +kernel)
      . rw [hlast] at hsrc
        exact hne (eq_externalPort hsrc)
    . rcases hlast with hlast | ⟨name, hne, hlast⟩
      . rw [hlast] at hdst
        exact absurd hdst (by decide +kernel)
      . rw [hlast] at hdst
        exact hne (eq_internalPort hdst)
    . rcases hlast with hlast | ⟨name, hne, hlast⟩
      . rw [hlast] at hprotocol
        exact absurd hprotocol (by decide +kernel)
      . rw [hlast] at hprotocol
        exact hne (eq_protocol hprotocol)

def dhcpReservationRule : DhcpReservedIp :=
  { ipAddr := cstr "ip", hwAddr := cstr "mac" }

def dhcpReservationSample (name : CStr) : CStr :=
  if name = cstr "Yiaddr" then cstr "ip" else if name = cstr "Chaddr" then cstr "mac" else []

theorem dhcpReservationSample_blank (name : CStr)
    : name ∈ cstr "Yiaddr" :: dhcpReservationFields ∨ dhcpReservationSample name = [] := by
  unfold dhcpReservationSample dhcpReservationFields
  split
  . next hname => simp [hname]
  . split
    . next hname => simp [hname]
    . exact .inr rfl

theorem eq_chaddr (hchaddr : dhcpReservationRule.hwAddr = dhcpReservationSample name)
    : name = cstr "Chaddr" := by
  apply eq_of_sample dhcpReservationSample_blank (P := fun val => dhcpReservationRule.hwAddr = val)
    _ _ hchaddr
  . decide +kernel
  . decide +kernel

theorem dhcpReservation_sample
    : Carried.Sample dhcpReservationFields (cstr "Yiaddr") (dhcpReservationMatches dhcpReservationRule)
        dhcpReservationSample [] := by
  constructor
  . decide +kernel
  . intro vals
    unfold dhcpReservationMatches
    split
    . rw [decide_eq_false (show ¬dhcpReservationRule.ipAddr = [] by decide +kernel)]
      rfl
    . rfl
  . intro field hfield last value hlast
    rw [← Bool.not_eq_true]
    intro htest
    unfold dhcpReservationFields at hfield htest
    rw [List.map_cons, List.map_nil, dhcpReservationMatches_iff] at htest
    rw [List.mem_singleton.mp hfield] at hlast
    rcases hlast with hlast | ⟨name, hne, hlast⟩
    . rw [hlast] at htest
      exact absurd htest.2 (by decide +kernel)
    . rw [hlast] at htest
      exact hne (eq_chaddr htest.2)

def PortforwardLayout (layout : Layout) : Prop :=
  layout.Ok portforwardFields (cstr "InternalClient")

def DhcpReservationLayout (layout : Layout) : Prop :=
  layout.Ok dhcpReservationFields (cstr "Yiaddr")

theorem del_matches_iff {pf dhcp : Layout} (hpf : PortforwardLayout pf)
    (hdhcp : DhcpReservationLayout dhcp)
    : (AlwaysDeletesMatch portforwardDelDm portMapping portforwardFields (cstr "InternalClient")
            portforwardMatches pf
          ↔
        pf.InOrder portforwardFields (cstr "InternalClient"))
      ∧ (AlwaysDeletesMatch dhcpReservationDelDm staticAddress dhcpReservationFields (cstr "Yiaddr")
            dhcpReservationMatches dhcp
          ↔
        dhcp.InOrder dhcpReservationFields (cstr "Yiaddr") ∧ ∀ entry ∈ dhcp, entry.1 < 10 ^ 7) := by
  constructor
  . have hiff := alwaysDeletesMatch_iff portMapping portforwardMatches (by decide +kernel) hpf
      portforward_sample
    apply hiff.trans
    apply and_iff_left
    intro entry hentry
    have hint := hpf.int entry hentry
    rw [portMapping_path_fits_iff]
    omega
  . have hiff := alwaysDeletesMatch_iff staticAddress dhcpReservationMatches (by decide +kernel) hdhcp
      dhcpReservation_sample
    simp only [staticAddress_path_fits_iff] at hiff
    exact hiff

theorem del_matches_iff_inOrder
    : AlwaysDeletesMatch portforwardDelDm portMapping portforwardFields (cstr "InternalClient")
          portforwardMatches
          [(1, [cstr "ExternalPort", cstr "InternalPort", cstr "Protocol", cstr "InternalClient"])]
        ∧ AlwaysDeletesMatch dhcpReservationDelDm staticAddress dhcpReservationFields (cstr "Yiaddr")
          dhcpReservationMatches [(1, [cstr "Chaddr", cstr "Yiaddr"])] := by
  have hpf : PortforwardLayout
      [(1, [cstr "ExternalPort", cstr "InternalPort", cstr "Protocol", cstr "InternalClient"])] := by
    refine ⟨by decide, ?_, by decide, by decide, by decide +kernel⟩
    intro entry hentry
    rw [List.mem_singleton.mp hentry]
    exact ⟨by decide +kernel, by decide +kernel, by decide +kernel⟩
  have hdhcp : DhcpReservationLayout [(1, [cstr "Chaddr", cstr "Yiaddr"])] := by
    refine ⟨by decide, ?_, by decide, by decide, by decide +kernel⟩
    intro entry hentry
    rw [List.mem_singleton.mp hentry]
    exact ⟨by decide +kernel, by decide +kernel, by decide +kernel⟩
  have hdel := del_matches_iff hpf hdhcp
  unfold Layout.InOrder at hdel
  exact ⟨hdel.1.mpr (by decide +kernel), hdel.2.mpr ⟨by decide +kernel, by decide⟩⟩

def clientFirst : Row :=
  { key := 1
    cells :=
      [ (cstr "InternalClient", cstr "192.168.1.20"), (cstr "ExternalPort", cstr "8080")
      , (cstr "InternalPort", cstr "80"), (cstr "Protocol", cstr "TCP")
      ]
  }

theorem not_del_matches
    : ¬∀ layout, PortforwardLayout layout
        → AlwaysDeletesMatch portforwardDelDm portMapping portforwardFields (cstr "InternalClient")
            portforwardMatches layout := by
  intro hall
  have halways := hall [clientFirst.layout] (by
    refine ⟨by decide, ?_, by decide, by decide, by decide +kernel⟩
    rintro entry hentry
    rw [List.mem_singleton.mp hentry]
    exact ⟨by decide +kernel, by decide +kernel, by decide +kernel⟩)
  have hdeletes := halways
    { dstIpaddr := cstr "192.168.1.20", srcPort := 8080, dstPort := 80, protocol := cstr "tcp" }
    [clientFirst] true rfl
  have ⟨deleted, hdeleted, hpaths⟩ := hdeletes.finds ⟨clientFirst, by simp, by decide +kernel⟩
  have hnone
      : portforwardDelDm { getOk := true, deleteOk := true }
            { dstIpaddr := cstr "192.168.1.20", srcPort := 8080, dstPort := 80, protocol := cstr "tcp" }
            [clientFirst]
          =
        some { ret := true, rows := [clientFirst], paths := [] } := by
    decide +kernel
  rw [hnone, Option.mem_some_iff] at hdeleted
  rw [← hdeleted] at hpaths
  contradiction

end Connector
end OpenSyncRdk
