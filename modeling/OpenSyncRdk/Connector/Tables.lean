import OpenSyncRdk.Connector.DataModel

/-!
Port forwarding rules and DHCP reservations in the data model, `connector_dm.c`. Both are added in two
steps, a new row and then its values, and the names of the values are printed to buffers of one size.
-/

namespace OpenSyncRdk
namespace Connector

structure IpPortForward where
  dstIpaddr : CStr
  srcPort : Int
  dstPort : Int
  protocol : CStr

structure DhcpReservedIp where
  ipAddr : CStr
  hwAddr : CStr

def portMapping : CStr := cstr "Device.NAT.PortMapping."

def staticAddress : CStr := cstr "Device.DHCPv4.Server.Pool.1.StaticAddress."

structure AddBus where
  added : Option (Nat × Row)
  setOk : Bool

def setDm (table : CStr) (params : Nat → List (CStr × CStr)) (bus : AddBus) (rows : List Row)
    : Option (List Row × Bool) :=
  match bus.added with
  | none => some (rows, false)
  | some (place, row) =>
    let rows := rows.take place ++ row :: rows.drop place
    let paramVal := (params row.key).mapM (fun param =>
      (sprintf (paramName table row.key param.1)).map (fun name => (name, param.2)))
    match paramVal with
    | none => none
    | some paramVal =>
      if bus.setOk then
        some (setParameterValues table paramVal rows, true)
      else
        some (rows, false)

def portforwardParams (inet : IpPortForward) (newEntryIdx : Nat) : List (CStr × CStr) :=
  [ (cstr "InternalClient", inet.dstIpaddr)
  , (cstr "ExternalPort", decimalInt inet.srcPort)
  , (cstr "ExternalPortEndRange", decimalInt inet.srcPort)
  , (cstr "Protocol", if inet.protocol = cstr "tcp" then cstr "TCP" else cstr "UDP")
  , (cstr "InternalPort", decimalInt inet.dstPort)
  , (cstr "Description", cstr "OpenSync Rule " ++ decimalInt newEntryIdx)
  , (cstr "Enable", cstr "TRUE")
  ]

def portforwardNames : List CStr :=
  [ cstr "InternalClient", cstr "ExternalPort", cstr "ExternalPortEndRange", cstr "Protocol"
  , cstr "InternalPort", cstr "Description", cstr "Enable"
  ]

theorem portforwardParams_names (inet : IpPortForward) (newEntryIdx : Nat)
    : (portforwardParams inet newEntryIdx).map Prod.fst = portforwardNames := by
  rfl

def setPortforwardConfiguration (bus : AddBus) (inet : IpPortForward) (rows : List Row)
    : Option (List Row × Bool) :=
  setDm portMapping (portforwardParams inet) bus rows

def portforwardFields : List CStr :=
  [cstr "ExternalPort", cstr "InternalPort", cstr "Protocol"]

def portforwardMatches (iconf : IpPortForward) : List CStr → CStr → Bool
  | [externalPort, internalPort, protocol], internalClient =>
    decide (iconf.dstIpaddr = internalClient)
      && strcaseeq iconf.protocol protocol
      && decide (iconf.srcPort = atoi externalPort)
      && decide (iconf.dstPort = atoi internalPort)
  | _, _ => false

def portforwardDelDm (bus : DelBus) (iconf : IpPortForward) (rows : List Row) : Option Deleted :=
  delDm portMapping portforwardFields (cstr "InternalClient") (portforwardMatches iconf) bus rows

def dhcpReservationParams (inet : DhcpReservedIp) (_ : Nat) : List (CStr × CStr) :=
  [(cstr "Chaddr", inet.hwAddr), (cstr "Yiaddr", inet.ipAddr)]

def setDhcpReservationConfig (bus : AddBus) (inet : DhcpReservedIp) (rows : List Row)
    : Option (List Row × Bool) :=
  setDm staticAddress (dhcpReservationParams inet) bus rows

def dhcpReservationFields : List CStr :=
  [cstr "Chaddr"]

def dhcpReservationMatches (rip : DhcpReservedIp) : List CStr → CStr → Bool
  | [chaddr], yiaddr => decide (rip.ipAddr = yiaddr) && decide (rip.hwAddr = chaddr)
  | _, _ => false

def dhcpReservationDelDm (bus : DelBus) (rip : DhcpReservedIp) (rows : List Row) : Option Deleted :=
  delDm staticAddress dhcpReservationFields (cstr "Yiaddr") (dhcpReservationMatches rip) bus rows

def ParamsFit (table : CStr) (params : Nat → List (CStr × CStr)) (idx : Nat) : Prop :=
  ∀ param ∈ params idx, Fits (paramName table idx param.1)

theorem paramName_length (table : CStr) (idx : Nat) (name : CStr)
    : (paramName table idx name).length = table.length + (decimal idx).length + 1 + name.length := by
  unfold paramName
  rw [decimalInt_natCast, List.length_append, List.length_append, List.length_append]
  rfl

theorem fits_paramName_iff (table name : CStr) {size : Nat} (hsize : 0 < size)
    (hlen : table.length + name.length + size + 2 = buffLen) (idx : Nat)
    : Fits (paramName table idx name) ↔ idx < 10 ^ size := by
  unfold Fits
  rw [paramName_length, ← decimal_length_le_iff hsize]
  omega

theorem fits_rowPath_iff {table : CStr} {size : Nat} (hsize : 0 < size)
    (hlen : table.length + size + 2 = buffLen) (idx : Nat)
    : Fits (rowPath table idx) ↔ idx < 10 ^ size := by
  rw [← fits_paramName_iff table [] hsize hlen]
  unfold paramName
  rw [List.append_nil]
  rfl

theorem portforwardParams_fit_iff (inet : IpPortForward) (idx : Nat)
    : ParamsFit portMapping (portforwardParams inet) idx ↔ idx < 10 ^ 6 := by
  have hlongest : Fits (paramName portMapping idx (cstr "ExternalPortEndRange")) ↔ idx < 10 ^ 6 :=
    fits_paramName_iff _ _ (by decide) (by decide +kernel) idx
  rw [← hlongest]
  unfold ParamsFit Fits
  constructor
  . intro hall
    exact hall (cstr "ExternalPortEndRange", decimalInt inet.srcPort) (by simp [portforwardParams])
  . intro hfits param hparam
    have hlength : param.1.length ≤ (cstr "ExternalPortEndRange").length := by
      have hall : ∀ name ∈ portforwardNames, name.length ≤ (cstr "ExternalPortEndRange").length := by
        decide +kernel
      apply hall
      rw [← portforwardParams_names inet idx]
      exact List.mem_map_of_mem hparam
    rw [paramName_length] at *
    omega

theorem dhcpReservationParams_fit_iff (inet : DhcpReservedIp) (idx : Nat)
    : ParamsFit staticAddress (dhcpReservationParams inet) idx ↔ idx < 10 ^ 1 := by
  have hchaddr : Fits (paramName staticAddress idx (cstr "Chaddr")) ↔ idx < 10 ^ 1 :=
    fits_paramName_iff _ _ (by decide) (by decide +kernel) idx
  have hyiaddr : Fits (paramName staticAddress idx (cstr "Yiaddr")) ↔ idx < 10 ^ 1 :=
    fits_paramName_iff _ _ (by decide) (by decide +kernel) idx
  unfold ParamsFit dhcpReservationParams
  simp only [List.mem_cons, List.not_mem_nil, or_false, forall_eq_or_imp, forall_eq, hchaddr, hyiaddr,
    and_self]

theorem portMapping_path_fits_iff (idx : Nat)
    : Fits (rowPath portMapping idx) ↔ idx < 10 ^ 26 :=
  fits_rowPath_iff (by decide) (by decide +kernel) idx

theorem staticAddress_path_fits_iff (idx : Nat)
    : Fits (rowPath staticAddress idx) ↔ idx < 10 ^ 7 :=
  fits_rowPath_iff (by decide) (by decide +kernel) idx

structure NamesFit (pf : IpPortForward) (rip : DhcpReservedIp) (idx : Nat) : Prop where
  portforward : ParamsFit portMapping (portforwardParams pf) idx
  dhcpReservation : ParamsFit staticAddress (dhcpReservationParams rip) idx
  portMappingPath : Fits (rowPath portMapping idx)
  staticAddressPath : Fits (rowPath staticAddress idx)

theorem namesFit_iff (pf : IpPortForward) (rip : DhcpReservedIp) (idx : Nat)
    : NamesFit pf rip idx ↔ idx < 10 := by
  have hdhcp := dhcpReservationParams_fit_iff rip idx
  constructor
  . intro hfits
    exact hdhcp.mp hfits.dhcpReservation
  . intro hidx
    constructor
    . rw [portforwardParams_fit_iff]
      omega
    . exact hdhcp.mpr hidx
    . rw [portMapping_path_fits_iff]
      omega
    . rw [staticAddress_path_fits_iff]
      omega

theorem not_namesFit
    : ¬∀ (pf : IpPortForward) (rip : DhcpReservedIp) (idx : Nat),
        0 < idx → idx < 2 ^ 31 → NamesFit pf rip idx := by
  intro hall
  have hfits := hall { dstIpaddr := cstr "192.168.1.20", srcPort := 8080, dstPort := 80, protocol := cstr "tcp" }
    { ipAddr := cstr "192.168.1.30", hwAddr := cstr "aa:bb:cc:dd:ee:ff" } 10 (by decide) (by decide)
  have hname := hfits.dhcpReservation (cstr "Chaddr", cstr "aa:bb:cc:dd:ee:ff") (by decide +kernel)
  exact absurd hname (by decide +kernel)

theorem mapM_sprintf (names : List (CStr × CStr)) (name : CStr → CStr)
    : names.mapM (fun param => (sprintf (name param.1)).map (fun name => (name, param.2)))
        =
      if ∀ param ∈ names, Fits (name param.1) then
        some (names.map (fun param => (name param.1, param.2)))
      else
        none := by
  induction names with
  | nil => rfl
  | cons param names ih =>
    simp only [List.mapM_cons, ih, List.forall_mem_cons]
    by_cases hparam : Fits (name param.1)
    . have hsprintf : sprintf (name param.1) = some (name param.1) := if_pos hparam
      simp only [hsprintf, hparam, true_and]
      split
      . rfl
      . rfl
    . have hsprintf : sprintf (name param.1) = none := if_neg hparam
      simp only [hsprintf, hparam, false_and]
      rfl

instance : Decidable (ParamsFit table params idx) :=
  inferInstanceAs (Decidable (∀ param ∈ params idx, Fits (paramName table idx param.1)))

theorem setDm_none {bus : AddBus} (hadded : bus.added = none) (table : CStr)
    (params : Nat → List (CStr × CStr)) (rows : List Row)
    : setDm table params bus rows = some (rows, false) := by
  unfold setDm
  rw [hadded]

theorem setDm_some {bus : AddBus} {place : Nat} {row : Row} (hadded : bus.added = some (place, row))
    (table : CStr) (params : Nat → List (CStr × CStr)) (rows : List Row)
    : setDm table params bus rows
        =
      if ParamsFit table params row.key then
        if bus.setOk then
          some (setParameterValues table
            ((params row.key).map (fun param => (paramName table row.key param.1, param.2)))
            (rows.take place ++ row :: rows.drop place), true)
        else
          some (rows.take place ++ row :: rows.drop place, false)
      else
        none := by
  unfold setDm
  rw [hadded]
  dsimp only
  rw [mapM_sprintf _ (fun name => paramName table row.key name)]
  by_cases hfits : ParamsFit table params row.key
  . rw [if_pos hfits, if_pos (show ∀ param ∈ params row.key, _ from hfits)]
  . rw [if_neg hfits, if_neg (show ¬∀ param ∈ params row.key, _ from hfits)]

def Atomic (rows : List Row) (res : Option (List Row × Bool)) : Prop :=
  ∀ rows', res = some (rows', false) → rows' = rows

def HalfAdded (bus : AddBus) (bound : Nat) : Prop :=
  bus.setOk = false ∧ ∃ added ∈ bus.added, added.2.key < bound

theorem setDm_atomic_iff (table : CStr) (params : Nat → List (CStr × CStr)) (bus : AddBus)
    (rows : List Row) {bound : Nat} (hbound : ∀ idx, ParamsFit table params idx ↔ idx < bound)
    : Atomic rows (setDm table params bus rows) ↔ ¬HalfAdded bus bound := by
  unfold Atomic HalfAdded
  cases hadded : bus.added with
  | none => simp [setDm_none hadded]
  | some added =>
    rw [setDm_some hadded]
    simp only [hbound, Option.mem_def, Option.some.injEq, exists_eq_left']
    by_cases hfits : added.2.key < bound
    . cases bus.setOk with
      | true => simp [hfits]
      | false =>
        simp only [hfits, ↓reduceIte, Bool.false_eq_true, Option.some.injEq, Prod.mk.injEq, and_true,
          forall_eq', and_self, not_true_eq_false, iff_false]
        intro heq
        have hlength := congrArg List.length heq
        rw [List.length_append, List.length_cons, List.length_take, List.length_drop] at hlength
        omega
    . simp [hfits]

/--
A set function that returns false has left the table as it was, except where the row was added and its
values were refused; then the row stays. (The bounds are those of the names in their buffers.)
-/
theorem set_atomic_iff (bus : AddBus) (rows : List Row)
    : (∀ inet, Atomic rows (setPortforwardConfiguration bus inet rows) ↔ ¬HalfAdded bus (10 ^ 6))
        ∧ ∀ inet, Atomic rows (setDhcpReservationConfig bus inet rows) ↔ ¬HalfAdded bus 10 := by
  constructor
  . intro inet
    exact setDm_atomic_iff _ _ bus rows (portforwardParams_fit_iff inet)
  . intro inet
    exact setDm_atomic_iff _ _ bus rows (dhcpReservationParams_fit_iff inet)

theorem not_set_atomic
    : ¬∀ (bus : AddBus) (inet : IpPortForward) (rows : List Row),
        Atomic rows (setPortforwardConfiguration bus inet rows) := by
  intro hall
  have hatomic := hall { added := some (0, { key := 1, cells := [] }), setOk := false }
    { dstIpaddr := cstr "192.168.1.20", srcPort := 8080, dstPort := 80, protocol := cstr "tcp" } []
  have hrows := hatomic [{ key := 1, cells := [] }] (by decide +kernel)
  simp at hrows

end Connector
end OpenSyncRdk
