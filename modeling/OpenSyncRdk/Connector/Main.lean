import OpenSyncRdk.Connector.Lan
import OpenSyncRdk.Connector.Mirror
import OpenSyncRdk.Lib.Machine

/-!
The connector, `connector_main.c`: it empties two tables of the data model when it starts, tells OVSDB
about the LAN, and from then on follows the calls that are made for OVSDB. What the calls come to in the
data model is not reported back.
-/

namespace OpenSyncRdk
namespace Connector

structure Dm where
  portMapping : List Row
  staticAddress : List Row
  params : Params

/-- `CONFIG_TARGET_LAN_BRIDGE_NAME` and `CONFIG_RDK_CONNECTOR_DHCP_SYNC_LAN_MANAGEMENT`. -/
structure Config where
  bridge : CStr
  lanManagement : Bool

structure InitBus where
  busOk : Bool
  cdmOk : Bool
  dhcpReservation : CleanBus
  portforward : CleanBus
  lanGetOk : Bool
  inetUpdateOk : Bool

structure Started where
  ret : Bool
  dm : Dm
  -- the row that OVSDB is told
  told : Option InetUpdate

inductive Call where
  | syncInet (bus : LanBus) (iconf : InetConfig)
  | dhcpReservationAdd (bus : AddBus) (rip : DhcpReservedIp)
  | dhcpReservationDel (bus : DelBus) (rip : DhcpReservedIp)
  | portforwardAdd (bus : AddBus) (iconf : IpPortForward)
  | portforwardDel (bus : DelBus) (iconf : IpPortForward)

def connectorInit (config : Config) (bus : InitBus) (dm : Dm) : Option Started :=
  if ¬bus.busOk then
    some { ret := false, dm, told := none }
  else if ¬bus.cdmOk then
    some { ret := false, dm, told := none }
  else do
    let reservations ← dhcpReservationCleanDm bus.dhcpReservation dm.staticAddress
    let mappings ← portforwardCleanDm bus.portforward dm.portMapping
    let dm := { dm with staticAddress := reservations.rows, portMapping := mappings.rows }
    -- a failure is logged
    let (_, told) :=
      connectorLanBrConfigPushOvsdbDm config.bridge bus.lanGetOk bus.inetUpdateOk dm.params
    return { ret := true, dm, told }

/-- Every one of the calls returns true, whatever the data model makes of it. -/
def step (config : Config) (dm : Dm) : Call → Option Dm
  | .syncInet bus iconf =>
    some { dm with params := connectorSyncInet config.bridge config.lanManagement bus iconf dm.params }
  | .dhcpReservationAdd bus rip =>
    (setDhcpReservationConfig bus rip dm.staticAddress).map (fun res =>
      { dm with staticAddress := res.1 })
  | .dhcpReservationDel bus rip =>
    (dhcpReservationDelDm bus rip dm.staticAddress).map (fun deleted =>
      { dm with staticAddress := deleted.rows })
  | .portforwardAdd bus iconf =>
    (setPortforwardConfiguration bus iconf dm.portMapping).map (fun res =>
      { dm with portMapping := res.1 })
  | .portforwardDel bus iconf =>
    (portforwardDelDm bus iconf dm.portMapping).map (fun deleted =>
      { dm with portMapping := deleted.rows })

abbrev run (config : Config) := Machine.run (step config)

namespace Call

def portforward? : Call → Option (TableCall IpPortForward)
  | .portforwardAdd bus iconf => some (.add bus iconf)
  | .portforwardDel bus iconf => some (.del bus iconf)
  | _ => none

def dhcpReservation? : Call → Option (TableCall DhcpReservedIp)
  | .dhcpReservationAdd bus rip => some (.add bus rip)
  | .dhcpReservationDel bus rip => some (.del bus rip)
  | _ => none

def address? (config : Config) : Call → Option (CStr × CStr)
  | .syncInet bus iconf => deliveredAddress config.bridge config.lanManagement bus iconf
  | _ => none

def range? (config : Config) : Call → Option (CStr × CStr)
  | .syncInet bus iconf => deliveredRange config.bridge config.lanManagement bus iconf
  | _ => none

def Sound (dm : Dm) (call : Call) : Prop :=
  (∀ tableCall ∈ call.portforward?, portforward.Sound IpPortForward.Valid dm.portMapping tableCall)
    ∧ ∀ tableCall ∈ call.dhcpReservation?,
        dhcpReservation.Sound (fun _ => True) dm.staticAddress tableCall

end Call

structure Dm.Reported (dm : Dm) : Prop where
  portMapping : portforward.Reported dm.portMapping
  staticAddress : dhcpReservation.Reported dm.staticAddress

def Kind.after {ρ κ : Type} [DecidableEq κ] (kind : Kind ρ κ) (held : List κ) (calls : List (TableCall ρ))
    : List κ :=
  calls.foldl kind.entries held

theorem Kind.after_cons {ρ κ ι : Type} [DecidableEq κ] (kind : Kind ρ κ) (held : List κ)
    (tableCall? : ι → Option (TableCall ρ)) (call : ι) (calls : List ι)
    : kind.after held ((call :: calls).filterMap tableCall?)
        =
      kind.after (kind.after held (tableCall? call).toList) (calls.filterMap tableCall?) := by
  unfold Kind.after
  rw [← List.foldl_append, List.filterMap_cons]
  cases tableCall? call with
  | none => rfl
  | some tableCall => rfl

structure Mirrors (dm : Dm) (rules : List Rule) (reservations : List Reservation) : Prop where
  reported : dm.Reported
  rules : (dm.portMapping.map ruleOf).Perm rules
  reservations : (dm.staticAddress.map reservationOf).Perm reservations

theorem step_portforward {call : Call} {tableCall : TableCall IpPortForward}
    (hcall : call.portforward? = some tableCall) (config : Config) (dm : Dm)
    : step config dm call
          =
        (portforward.call dm.portMapping tableCall).map (fun rows => { dm with portMapping := rows })
        ∧ call.dhcpReservation? = none := by
  cases call with
  | portforwardAdd bus iconf =>
    injection hcall with hcall
    rw [← hcall]
    refine ⟨?_, rfl⟩
    unfold Kind.call
    rw [Option.map_map]
    rfl
  | portforwardDel bus iconf =>
    injection hcall with hcall
    rw [← hcall]
    refine ⟨?_, rfl⟩
    unfold Kind.call
    rw [Option.map_map]
    rfl
  | syncInet => contradiction
  | dhcpReservationAdd => contradiction
  | dhcpReservationDel => contradiction

theorem step_dhcpReservation {call : Call} {tableCall : TableCall DhcpReservedIp}
    (hcall : call.dhcpReservation? = some tableCall) (config : Config) (dm : Dm)
    : step config dm call
          =
        (dhcpReservation.call dm.staticAddress tableCall).map (fun rows =>
          { dm with staticAddress := rows })
        ∧ call.portforward? = none := by
  cases call with
  | dhcpReservationAdd bus rip =>
    injection hcall with hcall
    rw [← hcall]
    refine ⟨?_, rfl⟩
    unfold Kind.call
    rw [Option.map_map]
    rfl
  | dhcpReservationDel bus rip =>
    injection hcall with hcall
    rw [← hcall]
    refine ⟨?_, rfl⟩
    unfold Kind.call
    rw [Option.map_map]
    rfl
  | syncInet => contradiction
  | portforwardAdd => contradiction
  | portforwardDel => contradiction

section

variable {config : Config} {dm : Dm} {rules : List Rule} {reservations : List Reservation}

theorem Mirrors.step (hmirrors : Mirrors dm rules reservations) {call : Call} (hsound : call.Sound dm)
    : ∃ dm',
        Connector.step config dm call = some dm'
          ∧ Mirrors dm' (portforward.after rules call.portforward?.toList)
              (dhcpReservation.after reservations call.dhcpReservation?.toList) := by
  have ⟨⟨hportMapping, hstaticAddress⟩, hrules, hreservations⟩ := hmirrors
  cases hpf : call.portforward? with
  | some tableCall =>
    have ⟨hstep, hnone⟩ := step_portforward hpf config dm
    have ⟨rows, hcall, hreported, hperm⟩ :=
      hportMapping.call portforward_lawful (hsound.1 tableCall hpf)
    rw [hstep, hnone, hcall]
    refine ⟨_, rfl, ⟨hreported, hstaticAddress⟩, ?_, hreservations⟩
    exact hperm.trans (Kind.entries_perm hrules tableCall)
  | none =>
    cases hdhcp : call.dhcpReservation? with
    | some tableCall =>
      have ⟨hstep, _⟩ := step_dhcpReservation hdhcp config dm
      have ⟨rows, hcall, hreported, hperm⟩ :=
        hstaticAddress.call dhcpReservation_lawful (hsound.2 tableCall hdhcp)
      rw [hstep, hcall]
      refine ⟨_, rfl, ⟨hportMapping, hreported⟩, hrules, ?_⟩
      exact hperm.trans (Kind.entries_perm hreservations tableCall)
    | none =>
      cases call with
      | syncInet bus iconf => exact ⟨_, rfl, ⟨hportMapping, hstaticAddress⟩, hrules, hreservations⟩
      | dhcpReservationAdd => contradiction
      | dhcpReservationDel => contradiction
      | portforwardAdd => contradiction
      | portforwardDel => contradiction

theorem Mirrors.run (hmirrors : Mirrors dm rules reservations) {calls : List Call}
    (hcalls : Machine.AllSteps (Connector.step config) (fun dm call => call.Sound dm) dm calls)
    : ∃ dm',
        Connector.run config dm calls = some dm'
          ∧ Mirrors dm' (portforward.after rules (calls.filterMap Call.portforward?))
              (dhcpReservation.after reservations (calls.filterMap Call.dhcpReservation?)) := by
  induction calls generalizing dm rules reservations with
  | nil => exact ⟨dm, rfl, hmirrors⟩
  | cons call calls ih =>
    have hsound := hcalls [] call (List.prefix_append [call] calls) dm rfl
    have ⟨dm', hstep, hmirrors'⟩ := @Mirrors.step config _ _ _ hmirrors _ hsound
    rw [Machine.allSteps_cons hstep] at hcalls
    have ⟨dm'', hrun, hmirrors''⟩ := ih hmirrors' hcalls.2
    refine ⟨dm'', ?_, ?_⟩
    . unfold Connector.run
      rw [Machine.run_cons, hstep]
      exact hrun
    . rw [Kind.after_cons, Kind.after_cons]
      exact hmirrors''

end

def InitBus.left (bus : InitBus) (clean : CleanBus) (table : CStr) (rows : List Row) : List Row :=
  if bus.busOk && bus.cdmOk && clean.getOk then cleanedRows table clean.deleteOk rows else rows

theorem left_sublist (bus : InitBus) (clean : CleanBus) (table : CStr) (rows : List Row)
    : (bus.left clean table rows).Sublist rows := by
  unfold InitBus.left
  split
  . exact List.filter_sublist
  . exact .refl rows

theorem connectorInit_eq (config : Config) (bus : InitBus) {dm : Dm} (hdm : dm.Reported)
    : connectorInit config bus dm
        =
      some {
        ret := bus.busOk && bus.cdmOk
        dm :=
          { dm with
            portMapping := bus.left bus.portforward portMapping dm.portMapping
            staticAddress := bus.left bus.dhcpReservation staticAddress dm.staticAddress
          }
        told :=
          if bus.busOk && bus.cdmOk then
            (connectorLanBrConfigPushOvsdbDm config.bridge bus.lanGetOk bus.inetUpdateOk dm.params).2
          else
            none
      } := by
  have ⟨mappings, hmappings, hmappingRows⟩ :=
    @cleanDm_rows portMapping _ hdm.portMapping.listed hdm.portMapping.fits 1 bus.portforward
  have ⟨reservations, hreservations, hreservationRows⟩ :=
    @cleanDm_rows staticAddress _ hdm.staticAddress.listed hdm.staticAddress.fits 0 bus.dhcpReservation
  have hpf : portforwardCleanDm bus.portforward dm.portMapping = some mappings := hmappings
  have hdhcp : dhcpReservationCleanDm bus.dhcpReservation dm.staticAddress = some reservations :=
    hreservations
  unfold connectorInit InitBus.left
  cases bus.busOk with
  | false => rfl
  | true =>
    cases bus.cdmOk with
    | false => rfl
    | true =>
      rw [hpf, hdhcp]
      simp only [Bool.true_and, ↓reduceIte]
      rw [← hmappingRows, ← hreservationRows]
      rfl

structure InitBus.Clears (bus : InitBus) (dm : Dm) : Prop where
  init : bus.busOk = true ∧ bus.cdmOk = true
  read : bus.portforward.getOk = true ∧ bus.dhcpReservation.getOk = true
  deleted : ∀ path, bus.portforward.deleteOk path = true ∧ bus.dhcpReservation.deleteOk path = true
  portMapping : ∀ row ∈ dm.portMapping, HasEnable row = true
  staticAddress : ∀ row ∈ dm.staticAddress, HasEnable row = true

theorem left_eq_nil {bus : InitBus} {clean : CleanBus} {rows : List Row}
    (hinit : bus.busOk = true ∧ bus.cdmOk = true) (hget : clean.getOk = true)
    (hdelete : ∀ path, clean.deleteOk path = true) (henable : ∀ row ∈ rows, HasEnable row = true)
    (table : CStr)
    : bus.left clean table rows = [] := by
  unfold InitBus.left cleanedRows
  rw [hinit.1, hinit.2, hget, Bool.and_self, Bool.and_self, if_pos rfl, List.filter_eq_nil_iff]
  intro row hrow
  rw [henable row hrow, hdelete]
  simp

namespace TableCall

variable {ρ κ : Type}

def Answered : TableCall ρ → Prop
  | .add bus _ => bus.added.isSome ∧ bus.setOk = true
  | .del bus _ => bus.getOk = true ∧ bus.deleteOk = true

def source [DecidableEq κ] (kind : Kind ρ κ) (held : List κ) : TableCall ρ → List κ
  | .add _ conf => kind.entry conf :: held
  | .del _ conf => held.erase (kind.entry conf)

theorem entries_of_answered [DecidableEq κ] {call : TableCall ρ} (hanswered : call.Answered)
    (kind : Kind ρ κ) (held : List κ)
    : kind.entries held call = call.source kind held := by
  unfold Kind.entries source
  cases call with
  | add bus conf =>
    have ⟨hadded, hset⟩ := hanswered
    have ⟨added, hsome⟩ := Option.isSome_iff_exists.mp hadded
    dsimp only
    rw [hsome, hset]
    rfl
  | del bus conf =>
    have ⟨hget, hdelete⟩ := hanswered
    dsimp only
    rw [hget, hdelete, Bool.and_self, if_pos rfl]

theorem after_of_answered [DecidableEq κ] {calls : List (TableCall ρ)}
    (hanswered : ∀ call ∈ calls, call.Answered) (kind : Kind ρ κ) (held : List κ)
    : kind.after held calls = calls.foldl (source kind) held := by
  unfold Kind.after
  apply List.foldl_ext
  intro held call hcall
  exact entries_of_answered (hanswered call hcall) kind held

end TableCall

theorem connector_mirrors (config : Config) (bus : InitBus) {dm : Dm} (hdm : dm.Reported)
    : ∃ started,
        connectorInit config bus dm = some started
          ∧ ∀ calls,
            Machine.AllSteps (step config) (fun dm call => call.Sound dm) started.dm calls
              → ∃ dm',
                run config started.dm calls = some dm'
                  ∧ (let mappings := calls.filterMap Call.portforward?
                    let left := bus.left bus.portforward portMapping dm.portMapping
                    (dm'.portMapping.map ruleOf).Perm (portforward.after (left.map ruleOf) mappings)
                      ∧ (bus.Clears dm → (∀ call ∈ mappings, call.Answered)
                        → (dm'.portMapping.map ruleOf).Perm
                            (mappings.foldl (TableCall.source portforward) [])))
                  ∧ (let reservations := calls.filterMap Call.dhcpReservation?
                    let left := bus.left bus.dhcpReservation staticAddress dm.staticAddress
                    (dm'.staticAddress.map reservationOf).Perm
                        (dhcpReservation.after (left.map reservationOf) reservations)
                      ∧ (bus.Clears dm → (∀ call ∈ reservations, call.Answered)
                        → (dm'.staticAddress.map reservationOf).Perm
                            (reservations.foldl (TableCall.source dhcpReservation) []))) := by
  refine ⟨_, connectorInit_eq config bus hdm, ?_⟩
  intro calls hcalls
  have hmirrors
      : Mirrors
          { dm with
            portMapping := bus.left bus.portforward portMapping dm.portMapping
            staticAddress := bus.left bus.dhcpReservation staticAddress dm.staticAddress
          }
          ((bus.left bus.portforward portMapping dm.portMapping).map ruleOf)
          ((bus.left bus.dhcpReservation staticAddress dm.staticAddress).map reservationOf) := by
    refine ⟨⟨?_, ?_⟩, .rfl, .rfl⟩
    . exact hdm.portMapping.sublist (left_sublist _ _ _ _)
    . exact hdm.staticAddress.sublist (left_sublist _ _ _ _)
  have ⟨dm', hrun, _, hrules, hreservations⟩ := hmirrors.run hcalls
  refine ⟨dm', hrun, ⟨hrules, ?_⟩, hreservations, ?_⟩
  . intro hclears hanswered
    rw [left_eq_nil hclears.init hclears.read.1 (fun path => (hclears.deleted path).1)
      hclears.portMapping, TableCall.after_of_answered hanswered] at hrules
    exact hrules
  . intro hclears hanswered
    rw [left_eq_nil hclears.init hclears.read.2 (fun path => (hclears.deleted path).2)
      hclears.staticAddress, TableCall.after_of_answered hanswered] at hreservations
    exact hreservations

theorem Reported.kind {rows : List Row} (hrows : Reported rows)
    : portforward.Reported rows := by
  refine ⟨hrows.layout, hrows.inOrder, ?_⟩
  intro row hrow
  have hint := hrows.layout.int row.layout (List.mem_map_of_mem hrow)
  change row.key < 2 ^ 31 at hint
  change Fits (rowPath portMapping row.key)
  rw [portMapping_path_fits_iff]
  omega

theorem reported_natRow {key : Nat} (hpos : 0 < key) (hint : key < 2 ^ 31)
    (client externalPort internalPort : CStr)
    : portforward.Reported [natRow key client externalPort internalPort] := by
  apply Reported.kind
  apply reported_of_natRow
  . intro row hrow
    rw [List.mem_singleton.mp hrow]
    exact ⟨hpos, hint, rfl⟩
  . simp

def poolRow (key : Nat) (client addr : CStr) : Row :=
  { key, cells := [(cstr "Enable", cstr "true"), (cstr "Chaddr", client), (cstr "Yiaddr", addr)] }

theorem reported_poolRow
    : dhcpReservation.Reported [poolRow 1 [] []] := by
  have hlayout {entry : Nat × List CStr} (hentry : entry ∈ [poolRow 1 [] []].map Carried.Row.layout)
      : entry = (1, [cstr "Enable", cstr "Chaddr", cstr "Yiaddr"]) :=
    List.mem_singleton.mp hentry
  refine ⟨⟨by decide, ?_, ?_, ?_, ?_⟩, ?_, ?_⟩
  . intro entry hentry
    rw [hlayout hentry]
    exact ⟨by decide +kernel, by decide +kernel, by decide +kernel⟩
  . intro entry hentry
    rw [hlayout hentry]
    decide
  . intro entry hentry
    rw [hlayout hentry]
    decide
  . intro entry hentry
    rw [hlayout hentry]
    decide +kernel
  . intro entry hentry
    rw [hlayout hentry]
    decide +kernel
  . intro row hrow
    rw [List.mem_singleton.mp hrow]
    exact (staticAddress_path_fits_iff 1).mpr (by decide)

def exampleBus : InitBus :=
  let clean : CleanBus := { getOk := true, deleteOk := fun _ => true }
  { busOk := true, cdmOk := true, dhcpReservation := clean, portforward := clean
    lanGetOk := true, inetUpdateOk := true }

def exampleDm : Dm :=
  { portMapping := [natRow 3 (cstr "192.168.1.9") (cstr "80") (cstr "80")], staticAddress := []
    params := fun _ => [] }

def dnsForward : IpPortForward :=
  { dstIpaddr := cstr "192.168.1.20", srcPort := 53, dstPort := 53, protocol := cstr "udp" }

def webForward : IpPortForward :=
  { dstIpaddr := cstr "192.168.1.21", srcPort := 8080, dstPort := 80, protocol := cstr "tcp" }

def hostReservation : DhcpReservedIp :=
  { ipAddr := cstr "192.168.1.20", hwAddr := cstr "02:00:00:00:00:20" }

def addDns : Call := .portforwardAdd { added := some (0, natRow 4 [] [] []), setOk := true } dnsForward

def addHost : Call := .dhcpReservationAdd { added := some (0, poolRow 1 [] []), setOk := true } hostReservation

def refuseWeb : Call := .portforwardAdd { added := none, setOk := true } webForward

def delHost : Call := .dhcpReservationDel { getOk := true, deleteOk := true } hostReservation

theorem addDns_sound {dm : Dm} (hmappings : dm.portMapping = [])
    : addDns.Sound dm := by
  refine ⟨?_, nofun⟩
  intro tableCall htable
  injection htable with htable
  rw [← htable, hmappings]
  refine ⟨⟨by decide, by decide, by decide⟩, ?_⟩
  intro place row hadded
  injection hadded with hadded
  injection hadded with hplace hrow
  rw [← hplace, ← hrow]
  refine ⟨reported_natRow (by decide) (by decide) _ _ _, ?_⟩
  exact (portforwardParams_fit_iff dnsForward 4).mpr (by decide)

theorem addHost_sound {dm : Dm} (hreservations : dm.staticAddress = [])
    : addHost.Sound dm := by
  refine ⟨nofun, ?_⟩
  intro tableCall htable
  injection htable with htable
  rw [← htable, hreservations]
  refine ⟨trivial, ?_⟩
  intro place row hadded
  injection hadded with hadded
  injection hadded with hplace hrow
  rw [← hplace, ← hrow]
  refine ⟨reported_poolRow, ?_⟩
  exact (dhcpReservationParams_fit_iff hostReservation 1).mpr (by decide)

theorem refuseWeb_sound (dm : Dm)
    : refuseWeb.Sound dm := by
  refine ⟨?_, nofun⟩
  intro tableCall htable
  injection htable with htable
  rw [← htable]
  exact ⟨⟨by decide, by decide, by decide⟩, nofun⟩

theorem delHost_sound (dm : Dm)
    : delHost.Sound dm := by
  refine ⟨nofun, ?_⟩
  intro tableCall htable
  injection htable with htable
  rw [← htable]
  trivial

theorem connector_mirrors_udp
    : let config : Config := { bridge := cstr "br-home", lanManagement := true }
      ∃ started dm',
        connectorInit config exampleBus exampleDm = some started
          ∧ run config started.dm [addDns, addHost, refuseWeb, delHost] = some dm'
          ∧ (dm'.portMapping.map ruleOf).Perm [dnsForward.rule]
          ∧ (dm'.staticAddress.map reservationOf).Perm [] := by
  intro config
  have hnil : dhcpReservation.Reported [] :=
    ⟨⟨List.nodup_nil, by simp, by simp, by simp, by simp⟩, by simp [Layout.InOrder], by simp⟩
  have hdm : exampleDm.Reported := ⟨reported_natRow (by decide) (by decide) _ _ _, hnil⟩
  have hclears : exampleBus.Clears exampleDm :=
    ⟨⟨rfl, rfl⟩, ⟨rfl, rfl⟩, fun _ => ⟨rfl, rfl⟩, by decide +kernel, by simp [exampleDm]⟩
  have ⟨started, hstarted, hall⟩ := connector_mirrors config exampleBus hdm
  have hleft : started.dm.portMapping = [] ∧ started.dm.staticAddress = [] := by
    have hinit := hstarted
    rw [connectorInit_eq config exampleBus hdm] at hinit
    injection hinit with hinit
    rw [← hinit]
    exact ⟨left_eq_nil hclears.init hclears.read.1 (fun _ => rfl) hclears.portMapping portMapping,
      left_eq_nil hclears.init hclears.read.2 (fun _ => rfl) hclears.staticAddress staticAddress⟩
  have hmirrors : Mirrors started.dm [] [] := by
    refine ⟨⟨?_, ?_⟩, ?_, ?_⟩
    . rw [hleft.1]
      exact hdm.portMapping.sublist (List.nil_sublist _)
    . rw [hleft.2]
      exact hnil
    . rw [hleft.1]
      exact .rfl
    . rw [hleft.2]
      exact .rfl
  have hdns := addDns_sound hleft.1
  have ⟨dm1, hstep1, hmirrors1⟩ := @Mirrors.step config _ _ _ hmirrors _ hdns
  have hhost : addHost.Sound dm1 := addHost_sound (List.map_eq_nil_iff.mp hmirrors1.reservations.eq_nil)
  have ⟨dm2, hstep2, hmirrors2⟩ := @Mirrors.step config _ _ _ hmirrors1 _ hhost
  have ⟨dm3, hstep3, hmirrors3⟩ := @Mirrors.step config _ _ _ hmirrors2 _ (refuseWeb_sound dm2)
  have ⟨dm4, hstep4, _⟩ := @Mirrors.step config _ _ _ hmirrors3 _ (delHost_sound dm3)
  have hsteps
      : Machine.AllSteps (step config) (fun dm call => call.Sound dm) started.dm
          [addDns, addHost, refuseWeb, delHost] := by
    refine (Machine.allSteps_cons hstep1 _).mpr ⟨hdns, ?_⟩
    refine (Machine.allSteps_cons hstep2 _).mpr ⟨hhost, ?_⟩
    refine (Machine.allSteps_cons hstep3 _).mpr ⟨refuseWeb_sound dm2, ?_⟩
    refine (Machine.allSteps_cons hstep4 _).mpr ⟨delHost_sound dm3, ?_⟩
    exact Machine.allSteps_nil _
  have ⟨dm', hrun, hmappings, hreservations⟩ := hall _ hsteps
  refine ⟨started, dm', hstarted, hrun, ?_, ?_⟩
  . have hheld := hmappings.1
    rw [left_eq_nil hclears.init hclears.read.1 (fun _ => rfl) hclears.portMapping] at hheld
    exact hheld
  . have hanswered : ∀ call ∈ [addDns, addHost, refuseWeb, delHost].filterMap Call.dhcpReservation?,
        call.Answered := by
      intro call hcall
      rcases List.mem_pair.mp hcall with hcall | hcall
      . rw [hcall]
        exact ⟨rfl, rfl⟩
      . rw [hcall]
        exact ⟨rfl, rfl⟩
    exact (hreservations.2 hclears hanswered).trans (by decide +kernel)

theorem addressOf_step {config : Config} {dm dm' : Dm} {call : Call}
    (hstep : step config dm call = some dm')
    : addressOf dm'.params = (call.address? config).getD (addressOf dm.params)
        ∧ rangeOf dm'.params = (call.range? config).getD (rangeOf dm.params)
        ∧ ∀ name, name ∉ lanNames → dm'.params name = dm.params name := by
  cases call with
  | syncInet bus iconf =>
    injection hstep with hstep
    rw [← hstep]
    refine ⟨addressOf_connectorSyncInet _ _ _ _ _, rangeOf_connectorSyncInet _ _ _ _ _, ?_⟩
    intro name hname
    exact connectorSyncInet_other _ _ _ _ _ hname
  | dhcpReservationAdd bus rip =>
    have ⟨res, _, hdm⟩ := Option.map_eq_some_iff.mp hstep
    rw [← hdm]
    exact ⟨rfl, rfl, fun _ _ => rfl⟩
  | dhcpReservationDel bus rip =>
    have ⟨deleted, _, hdm⟩ := Option.map_eq_some_iff.mp hstep
    rw [← hdm]
    exact ⟨rfl, rfl, fun _ _ => rfl⟩
  | portforwardAdd bus iconf =>
    have ⟨res, _, hdm⟩ := Option.map_eq_some_iff.mp hstep
    rw [← hdm]
    exact ⟨rfl, rfl, fun _ _ => rfl⟩
  | portforwardDel bus iconf =>
    have ⟨deleted, _, hdm⟩ := Option.map_eq_some_iff.mp hstep
    rw [← hdm]
    exact ⟨rfl, rfl, fun _ _ => rfl⟩

theorem connectorInit_told {config : Config} {bus : InitBus} {dm : Dm} {started : Started}
    (hinit : connectorInit config bus dm = some started) (hret : started.ret = true)
    : started.told
        =
      (connectorLanBrConfigPushOvsdbDm config.bridge bus.lanGetOk bus.inetUpdateOk dm.params).2 := by
  unfold connectorInit at hinit
  split at hinit
  . injection hinit with hinit
    rw [← hinit] at hret
    contradiction
  . split at hinit
    . injection hinit with hinit
      rw [← hinit] at hret
      contradiction
    . rw [Option.bind_eq_bind, Option.bind_eq_some_iff] at hinit
      obtain ⟨reservations, _, hinit⟩ := hinit
      rw [Option.bind_eq_some_iff] at hinit
      obtain ⟨mappings, _, hinit⟩ := hinit
      injection hinit with hinit
      rw [← hinit]
      rfl

theorem pushOvsdbDm_told (bridge : CStr) (cbOk : Bool) (params : Params)
    : ∃ told,
        (connectorLanBrConfigPushOvsdbDm bridge true cbOk params).2 = some told
          ∧ told.ifName = bridge
          ∧ (Vif.schemaKeyVal told.dhcpd (cstr "start"), Vif.schemaKeyVal told.dhcpd (cstr "stop"))
              = rangeOf params
          ∧ Vif.schemaKeyVal told.dhcpd (cstr "lease_time")
              = decimalInt ((atoi (params leaseTime)).tdiv 3600) ++ cstr "h" := by
  have hdhcpd : ∃ dhcpd, getDhcpConfiguration true params = some dhcpd
      ∧ Vif.schemaKeyVal dhcpd (cstr "start") = params minAddress
      ∧ Vif.schemaKeyVal dhcpd (cstr "stop") = params maxAddress
      ∧ Vif.schemaKeyVal dhcpd (cstr "lease_time")
          = decimalInt ((atoi (params leaseTime)).tdiv 3600) ++ cstr "h" :=
    ⟨_, rfl, rfl, rfl, rfl⟩
  have ⟨dhcpd, hget, hstart, hstop, htime⟩ := hdhcpd
  refine ⟨{ ifName := bridge, partialUpdate := true, dhcpd }, ?_, rfl, ?_, htime⟩
  . unfold connectorLanBrConfigPushOvsdbDm
    rw [hget]
    cases cbOk with
    | false => rfl
    | true => rfl
  . rw [hstart, hstop]
    rfl

/--
Whatever calls are made, the bridge has the address of the last row of OVSDB that has delivered one, and
at its next start the connector tells OVSDB the range of the last row that has delivered a range, with
the lease time that was there before. A row delivers no range where setting the address of the bridge
fails, and nothing for its netmask alone.
-/
theorem lan_restart {config : Config} {dm dm' : Dm} {calls : List Call}
    (hrun : run config dm calls = some dm')
    : addressOf dm'.params
          =
        ((calls.filterMap (Call.address? config)).getLast?).getD (addressOf dm.params)
        ∧ ∀ bus started,
            connectorInit config bus dm' = some started
              → started.ret = true
              → bus.lanGetOk = true
              → ∃ told,
                started.told = some told
                  ∧ told.ifName = config.bridge
                  ∧ (Vif.schemaKeyVal told.dhcpd (cstr "start"), Vif.schemaKeyVal told.dhcpd (cstr "stop"))
                      =
                    ((calls.filterMap (Call.range? config)).getLast?).getD (rangeOf dm.params)
                  ∧ Vif.schemaKeyVal told.dhcpd (cstr "lease_time")
                      = decimalInt ((atoi (dm.params leaseTime)).tdiv 3600) ++ cstr "h" := by
  have haddress := Machine.run_last (fun dm : Dm => addressOf dm.params) (Call.address? config)
    (fun dm call dm' hstep => (addressOf_step hstep).1) hrun
  have hrange := Machine.run_last (fun dm : Dm => rangeOf dm.params) (Call.range? config)
    (fun dm call dm' hstep => (addressOf_step hstep).2.1) hrun
  have hlease : dm'.params leaseTime = dm.params leaseTime := by
    refine Machine.run_invariant (P := fun t : Dm => t.params leaseTime = dm.params leaseTime) ?_ rfl hrun
    intro s t call _ hs hstep
    rw [(addressOf_step hstep).2.2 leaseTime (by decide +kernel), hs]
  refine ⟨haddress, ?_⟩
  intro bus started hinit hret hget
  have htold := connectorInit_told hinit hret
  rw [hget] at htold
  have ⟨told, hsome, hname, hpair, htime⟩ :=
    pushOvsdbDm_told config.bridge bus.inetUpdateOk dm'.params
  refine ⟨told, htold.trans hsome, hname, hpair.trans hrange, ?_⟩
  rw [htime, hlease]

theorem lan_restart_range
    : let config : Config := { bridge := cstr "br-home", lanManagement := true }
      let dm : Dm :=
        { portMapping := [], staticAddress := [], params := fun _ => cstr "7200" }
      let inet (start : CStr) : InetConfig :=
        { ifName := cstr "br-home", inetAddr := cstr "10.0.0.1", netmask := cstr "255.255.255.0"
          dhcpd := [(cstr "start", start), (cstr "stop", cstr "10.0.0.99")]
          inetAddrChanged := true, netmaskChanged := false, dhcpdChanged := true }
      let calls : List Call :=
        [ .syncInet { lanOk := true, dhcpOk := true } (inet (cstr "10.0.0.10"))
        , .syncInet { lanOk := false, dhcpOk := true } (inet (cstr "10.0.0.20"))
        ]
      ∃ dm', run config dm calls = some dm'
        ∧ addressOf dm'.params = (cstr "10.0.0.1", cstr "255.255.255.0")
        ∧ ∃ started told, connectorInit config exampleBus dm' = some started
          ∧ started.told = some told
          ∧ (Vif.schemaKeyVal told.dhcpd (cstr "start"), Vif.schemaKeyVal told.dhcpd (cstr "stop"))
              = (cstr "10.0.0.10", cstr "10.0.0.99")
          ∧ Vif.schemaKeyVal told.dhcpd (cstr "lease_time") = cstr "2h" := by
  intro config dm inet calls
  have hrun : ∃ dm', run config dm calls = some dm'
      ∧ ∃ started, connectorInit config exampleBus dm' = some started ∧ started.ret = true :=
    ⟨_, rfl, _, rfl, rfl⟩
  have ⟨dm', hrun, started, hinit, hret⟩ := hrun
  have ⟨haddress, hrestart⟩ := lan_restart hrun
  have ⟨told, htold, _, hrange, hlease⟩ := hrestart exampleBus started hinit hret rfl
  refine ⟨dm', hrun, ?_, started, told, hinit, htold, ?_, ?_⟩
  . rw [haddress]
    decide +kernel
  . rw [hrange]
    decide +kernel
  . rw [hlease]
    decide +kernel

end Connector
end OpenSyncRdk
