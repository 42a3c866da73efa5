import Mathlib.Data.List.Destutter
import OpenSyncRdk.Sync.Manager

/-!
What a stream of messages from the Mesh-Agent makes the managers do, when each of them gets all of it.
-/

namespace OpenSyncRdk
namespace Sync

structure Delivery where
  msg : Msg
  hal : Hal
  taken : Nat

def MsgType.owner : MsgType → Option Mgr
  | .wifiReset => some .wm
  | .wifiRadioChannel => some .wm
  | .wifiRadioChannelMode => some .wm
  | .wifiSsidName => some .wm
  | .wifiSsidAdvertise => some .wm
  | .wifiApSecurity => some .wm
  | .wifiApKickAssocDevice => some .wm
  | .wifiApKickAllAssocDevices => some .wm
  | .wifiApAddAclDevice => some .wm
  | .wifiApDelAclDevice => some .wm
  | .wifiMacAddrControlMode => some .wm
  | .urlChange => some .cm
  | .stateChange => some .cm
  | .subnetChange => some .nm
  | _ => none

namespace Delivery

def aclUpdate (build : Build) (index updated : Int) (d : Delivery) : Option ExternalUpdate :=
  match d.hal.getApName index with
  | none => none
  | some ifname =>
    if build.syncExtHomeAcls ∧ Vif.isHomeAp build.radio ifname then some (.acl updated) else none

def externalUpdate (build : Build) (d : Delivery) : Option ExternalUpdate :=
  match d.msg.msgType with
  | .wifiSsidName =>
    (d.hal.getApName d.msg.ssidNameIndex).map (fun _ => .ssid d.msg.ssidName d.msg.ssidNameIndex)
  | .wifiApSecurity =>
    (d.hal.getApName d.msg.apSecurityIndex).map (fun _ => .security d.msg.ssidNameIndex)
  | .wifiApAddAclDevice => d.aclUpdate build d.msg.addAclIndex d.msg.addAclIndex
  | .wifiApDelAclDevice => d.aclUpdate build d.msg.delAclIndex d.msg.addAclIndex
  | .wifiMacAddrControlMode => d.aclUpdate build d.msg.macAddrControlModeIndex d.msg.addAclIndex
  | _ => none

def resync (build : Build) (d : Delivery) : Bool :=
  let named := fun index => (d.hal.getApName index).isSome
  match d.msg.msgType with
  | .wifiReset => true
  | .wifiRadioChannel => d.hal.getRadioIfName d.msg.radioChannelIndex
  | .wifiRadioChannelMode => d.hal.getRadioIfName d.msg.radioChannelModeIndex
  | .wifiSsidName => named d.msg.ssidNameIndex
  | .wifiSsidAdvertise => named d.msg.ssidAdvertiseIndex
  | .wifiApSecurity => named d.msg.apSecurityIndex
  | .wifiApKickAssocDevice => named d.msg.kickAssocIndex
  | .wifiApKickAllAssocDevices => named d.msg.kickAllAssocIndex
  | .wifiApAddAclDevice => build.syncExtHomeAcls && named d.msg.addAclIndex
  | .wifiApDelAclDevice => build.syncExtHomeAcls && named d.msg.delAclIndex
  | .wifiMacAddrControlMode => build.syncExtHomeAcls && named d.msg.macAddrControlModeIndex
  | _ => false

def mode (d : Delivery) : Option CloudMode :=
  match d.msg.msgType with
  | .stateChange => some (Manager.ofMeshState d.msg.meshStateFull)
  | _ => none

theorem mode_stateChange {d : Delivery} (hstate : d.msg.msgType = .stateChange)
    : d.mode = some (Manager.ofMeshState d.msg.meshStateFull) := by
  unfold mode
  rw [hstate]

theorem mode_other {d : Delivery} (hstate : d.msg.msgType ≠ .stateChange)
    : d.mode = none := by
  unfold mode
  split
  . contradiction
  . rfl

def restarts (mgr : Mgr) (d : Delivery) : Bool :=
  match mgr with
  | .wm => false
  | .cm => d.msg.msgType = .urlChange
  | .nm => d.msg.msgType = .subnetChange

end Delivery

def CloudMode.deviceMode : CloudMode → DeviceMode
  | .full => .cloud
  | _ => .monitor

def modeChanges (mode : CloudMode) (modes : List CloudMode) : List CloudMode :=
  (modes.destutter' (· ≠ ·) mode).tail

theorem destutter'_eq_cons (mode : CloudMode) (modes : List CloudMode)
    : modes.destutter' (· ≠ ·) mode = mode :: modeChanges mode modes := by
  unfold modeChanges
  induction modes with
  | nil => rfl
  | cons head modes ih =>
    by_cases hhead : mode ≠ head
    . rw [List.destutter'_cons_pos _ hhead]
      rfl
    . rw [List.destutter'_cons_neg _ hhead]
      exact ih

@[simp]
theorem modeChanges_nil (mode : CloudMode)
    : modeChanges mode [] = [] := by
  rfl

theorem modeChanges_cons (mode head : CloudMode) (modes : List CloudMode)
    : modeChanges mode (head :: modes)
        =
      (if mode = head then [] else [head]) ++ modeChanges head modes := by
  by_cases hhead : mode = head
  . rw [hhead, if_pos rfl]
    unfold modeChanges
    rw [List.destutter'_cons_neg _ (by simp)]
    rfl
  . rw [if_neg hhead]
    rw [modeChanges, List.destutter'_cons_pos _ hhead, destutter'_eq_cons]
    rfl

namespace Manager

def receive (build : Build) (W : Wire) (m : Manager) (d : Delivery) : Manager :=
  m.syncProcessMsg build W d.hal d.taken d.msg

def receiveAll (build : Build) (W : Wire) (deliveries : List Delivery) (m : Manager) : Manager :=
  deliveries.foldl (receive build W) m

theorem aclChange_eq (build : Build) (d : Delivery) (index updated : Int) (m : Manager)
    : withApName d.hal index (aclChange build updated) m
        =
      ({ m with externals := m.externals ++ (d.aclUpdate build index updated).toList },
        build.syncExtHomeAcls && (d.hal.getApName index).isSome) := by
  unfold withApName Delivery.aclUpdate
  cases d.hal.getApName index with
  | none => simp
  | some ifname =>
    unfold aclChange
    cases build.syncExtHomeAcls with
    | false => simp [logOnly]
    | true =>
      by_cases hhome : Vif.isHomeAp build.radio ifname = true
      . simp [hhome, external]
      . simp [hhome, resyncOnly]

theorem resyncOnly_eq (d : Delivery) (index : Int) (m : Manager)
    : withApName d.hal index (fun _ => resyncOnly) m = (m, (d.hal.getApName index).isSome) := by
  unfold withApName
  cases d.hal.getApName index <;> rfl

theorem external_eq (d : Delivery) (index : Int) (update : ExternalUpdate) (m : Manager)
    : withApName d.hal index (fun _ => external update) m
        =
      ({ m with externals := m.externals ++ ((d.hal.getApName index).map (fun _ => update)).toList },
        (d.hal.getApName index).isSome) := by
  unfold withApName
  cases d.hal.getApName index with
  | none => simp
  | some ifname => rfl

theorem radio_eq (d : Delivery) (index : Int) (m : Manager)
    : withRadioIfName d.hal index resyncOnly m = (m, d.hal.getRadioIfName index) := by
  unfold withRadioIfName
  cases d.hal.getRadioIfName index <;> rfl

section

variable (build : Build) (W : Wire) {m : Manager}

theorem receive_wm (hmgr : m.client.mgr = .wm) (d : Delivery)
    : m.receive build W d
        =
      { m with
        externals := m.externals ++ (d.externalUpdate build).toList
        resyncs := m.resyncs + (d.resync build).toNat
      } := by
  have hbranch : branch build W d.hal d.taken d.msg m
      = ({ m with externals := m.externals ++ (d.externalUpdate build).toList }, d.resync build) := by
    unfold branch Delivery.externalUpdate Delivery.resync
    cases d.msg.msgType <;>
      simp [breakIfNotMgr, hmgr, aclChange_eq, resyncOnly_eq, external_eq, radio_eq, resyncOnly, logOnly]
  unfold receive syncProcessMsg
  rw [hbranch]
  cases d.resync build <;> simp [hmgr]

theorem receive_nm (hmgr : m.client.mgr = .nm) (d : Delivery)
    : m.receive build W d = { m with restarts := m.restarts + (d.restarts .nm).toNat } := by
  have hbranch : branch build W d.hal d.taken d.msg m
      = ({ m with restarts := m.restarts + (d.restarts .nm).toNat }, false) := by
    unfold branch Delivery.restarts
    cases d.msg.msgType <;> simp [breakIfNotMgr, hmgr, managersRestart, logOnly]
  unfold receive syncProcessMsg
  rw [hbranch]
  simp

theorem setDeviceMode_eq (full : Bool) (m : Manager)
    : m.setDeviceMode (ofMeshState full)
        =
      { m with
        awlan := m.awlan ++
          if m.awlanCb then [.deviceMode (ofMeshState full).deviceMode] else []
      } := by
  have hcall : ∀ update, m.callAwlan update
      = { m with awlan := m.awlan ++ if m.awlanCb then [update] else [] } := by
    intro update
    unfold callAwlan
    split <;> simp
  cases full with
  | false => exact hcall _
  | true => exact hcall _

theorem stateChange_sameWork (full : Bool) (taken : Nat) (m : Manager)
    : SameWork
        { m with
          cloudMode := ofMeshState full
          awlan := m.awlan ++
            if m.awlanCb then
              (modeChanges m.cloudMode [ofMeshState full]).map (fun mode => .deviceMode mode.deviceMode)
            else
              []
        }
        (stateChange build W full taken m).1 := by
  have hchanges := modeChanges_cons m.cloudMode (ofMeshState full) []
  by_cases hmode : m.cloudMode = ofMeshState full
  . rw [stateChange, if_pos hmode, hchanges, if_pos hmode]
    exact ⟨hmode, rfl, by simp, rfl, rfl, rfl⟩
  . have hset := radioCloudModeSet_sameWork build W (ofMeshState full) taken
      (m.setDeviceMode (ofMeshState full))
    rw [stateChange, if_neg hmode, hchanges, if_neg hmode]
    rw [setDeviceMode_eq] at hset ⊢
    exact hset

structure Handled (deliveries : List Delivery) (m t : Manager) : Prop where
  mgr : t.client.mgr = m.client.mgr
  awlanCb : t.awlanCb = m.awlanCb
  externals
    : t.externals
        =
      m.externals ++
        if m.client.mgr = .wm then deliveries.filterMap (Delivery.externalUpdate build) else []
  resyncs
    : t.resyncs
        =
      m.resyncs + if m.client.mgr = .wm then deliveries.countP (Delivery.resync build) else 0
  restarts : t.restarts = m.restarts + deliveries.countP (Delivery.restarts m.client.mgr)
  cloudMode
    : t.cloudMode
        =
      if m.client.mgr = .cm then (deliveries.filterMap Delivery.mode).getLastD m.cloudMode
      else m.cloudMode
  awlan
    : t.awlan
        =
      m.awlan ++
        if m.client.mgr = .cm ∧ m.awlanCb then
          (modeChanges m.cloudMode (deliveries.filterMap Delivery.mode)).map
            (fun mode => .deviceMode mode.deviceMode)
        else
          []

theorem receive_handled_wm (hmgr : m.client.mgr = .wm) (d : Delivery)
    : Handled build [d] m (m.receive build W d) := by
  rw [receive_wm build W hmgr]
  constructor
  case externals => cases hext : d.externalUpdate build <;> simp [hmgr, hext]
  case resyncs => cases hresync : d.resync build <;> simp [hmgr, hresync]
  case restarts => simp [hmgr, Delivery.restarts]
  case cloudMode => simp [hmgr]
  case awlan => simp [hmgr]
  all_goals rfl

theorem receive_handled_nm (hmgr : m.client.mgr = .nm) (d : Delivery)
    : Handled build [d] m (m.receive build W d) := by
  rw [receive_nm build W hmgr]
  constructor
  case externals => simp [hmgr]
  case resyncs => simp [hmgr]
  case restarts => cases hrestarts : d.restarts .nm <;> simp [hmgr, hrestarts]
  case cloudMode => simp [hmgr]
  case awlan => simp [hmgr]
  all_goals rfl

theorem receive_cm (hmgr : m.client.mgr = .cm) (d : Delivery)
    : m.receive build W d = (branch build W d.hal d.taken d.msg m).1 := by
  have hkept := (branch_kept build W d.hal d.taken d.msg m).mgr
  unfold receive syncProcessMsg
  dsimp only
  rw [hkept, hmgr]
  simp

theorem receive_cm_stateChange (hmgr : m.client.mgr = .cm) {d : Delivery}
    (hstate : d.msg.msgType = .stateChange)
    : m.receive build W d = (stateChange build W d.msg.meshStateFull d.taken m).1 := by
  rw [receive_cm build W hmgr]
  unfold branch
  rw [hstate]
  simp [breakIfNotMgr, hmgr]

theorem receive_cm_other (hmgr : m.client.mgr = .cm) {d : Delivery}
    (hstate : d.msg.msgType ≠ .stateChange)
    : m.receive build W d = { m with restarts := m.restarts + (d.restarts .cm).toNat } := by
  have hbranch : branch build W d.hal d.taken d.msg m
      = ({ m with restarts := m.restarts + (d.restarts .cm).toNat }, false) := by
    unfold branch Delivery.restarts
    cases htype : d.msg.msgType <;> simp_all [breakIfNotMgr, managersRestart]
  rw [receive_cm build W hmgr, hbranch]

theorem receive_handled_cm (hmgr : m.client.mgr = .cm) (d : Delivery)
    : Handled build [d] m (m.receive build W d) := by
  by_cases hstate : d.msg.msgType = .stateChange
  . have hmode := Delivery.mode_stateChange hstate
    have hsame := stateChange_sameWork build W d.msg.meshStateFull d.taken m
    rw [receive_cm_stateChange build W hmgr hstate]
    constructor
    case mgr => exact (stateChange_kept build W _ d.taken m).mgr
    case awlanCb => exact hsame.awlanCb
    case externals => simpa [hmgr] using hsame.externals
    case resyncs => simpa [hmgr] using hsame.resyncs
    case restarts => simpa [hmgr, Delivery.restarts, hstate] using hsame.restarts
    case cloudMode => simpa [hmgr, hmode] using hsame.cloudMode
    case awlan => simpa [hmgr, hmode] using hsame.awlan
  . have hmode := Delivery.mode_other hstate
    rw [receive_cm_other build W hmgr hstate]
    constructor
    case externals => simp [hmgr]
    case resyncs => simp [hmgr]
    case restarts => cases hrestarts : d.restarts .cm <;> simp [hmgr, hrestarts]
    case cloudMode => simp [hmgr, hmode]
    case awlan => simp [hmgr, hmode]
    all_goals rfl

theorem receive_handled (m : Manager) (d : Delivery)
    : Handled build [d] m (m.receive build W d) := by
  cases hmgr : m.client.mgr with
  | wm => exact receive_handled_wm build W hmgr d
  | nm => exact receive_handled_nm build W hmgr d
  | cm => exact receive_handled_cm build W hmgr d

theorem Handled.cons {d : Delivery} {deliveries : List Delivery} {m t u : Manager}
    (hhead : Handled build [d] m t) (htail : Handled build deliveries t u)
    : Handled build (d :: deliveries) m u := by
  have hmode : (d :: deliveries).filterMap Delivery.mode
      = d.mode.toList ++ deliveries.filterMap Delivery.mode := by
    cases hd : d.mode <;> simp [hd]
  constructor
  case mgr => rw [htail.mgr, hhead.mgr]
  case awlanCb => rw [htail.awlanCb, hhead.awlanCb]
  case externals =>
    rw [htail.externals, hhead.externals, hhead.mgr]
    split
    . rw [List.append_assoc, ← List.filterMap_append, List.singleton_append]
    . simp
  case resyncs =>
    rw [htail.resyncs, hhead.resyncs, hhead.mgr]
    split
    . rw [Nat.add_assoc, ← List.countP_append, List.singleton_append]
    . rfl
  case restarts =>
    rw [htail.restarts, hhead.restarts, hhead.mgr]
    rw [Nat.add_assoc, ← List.countP_append, List.singleton_append]
  case cloudMode =>
    rw [htail.cloudMode, hhead.cloudMode, hhead.mgr, hmode]
    split
    . cases hd : d.mode with
      | none => simp [hd]
      | some mode => simp only [List.filterMap_cons, hd, List.filterMap_nil, Option.toList_some,
          List.singleton_append, List.getLastD_cons, List.getLastD_nil]
    . rfl
  case awlan =>
    rw [htail.awlan, hhead.awlan, hhead.cloudMode, hhead.mgr, hhead.awlanCb, hmode]
    split
    . next hcm =>
      cases hd : d.mode with
      | none => simp [hd]
      | some mode => simp [hd, hcm.1, modeChanges_cons]
    . simp

theorem receiveAll_handled (deliveries : List Delivery) (m : Manager)
    : Handled build deliveries m (receiveAll build W deliveries m) := by
  induction deliveries generalizing m with
  | nil => exact ⟨rfl, rfl, by simp [receiveAll], by simp [receiveAll], rfl, by simp [receiveAll],
      by simp [receiveAll]⟩
  | cons d deliveries ih =>
    exact (receive_handled build W m d).cons build (ih (m.receive build W d))

theorem receive_eq_self (m : Manager) {d : Delivery} (hd : d.msg.msgType.owner ≠ some m.client.mgr)
    : m.receive build W d = m := by
  have hbranch : branch build W d.hal d.taken d.msg m = (m, false) := by
    unfold branch
    cases htype : d.msg.msgType <;> simp_all [MsgType.owner, breakIfNotMgr, logOnly, eq_comm]
  unfold receive syncProcessMsg
  rw [hbranch]
  simp

theorem sync_stream_handled (deliveries : List Delivery) (m : Manager)
    : receiveAll build W deliveries m
          =
        receiveAll build W
          (deliveries.filter (fun d => d.msg.msgType.owner = some m.client.mgr)) m
      ∧ Handled build deliveries m (receiveAll build W deliveries m) := by
  refine ⟨?_, receiveAll_handled build W deliveries m⟩
  induction deliveries generalizing m with
  | nil => rfl
  | cons d deliveries ih =>
    by_cases hd : d.msg.msgType.owner = some m.client.mgr
    . rw [List.filter_cons_of_pos (by simpa using hd)]
      have hmgr := (receive_handled build W m d).mgr
      rw [receiveAll, List.foldl_cons]
      have hrest := ih (m.receive build W d)
      rw [hmgr] at hrest
      exact hrest
    . rw [List.filter_cons_of_neg (by simpa using hd)]
      rw [receiveAll, List.foldl_cons, receive_eq_self build W m hd]
      exact ih m

end

end Manager
end Sync
end OpenSyncRdk
