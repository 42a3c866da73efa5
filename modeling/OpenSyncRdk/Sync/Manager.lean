import OpenSyncRdk.Lib.Numerals
import OpenSyncRdk.Sync.Client
import OpenSyncRdk.Vif.Vap

/-!
A manager as the Mesh-Agent sees it: `sync.c` with `target_init` and `target_close` around it, the cloud
mode of `radio.c`, and `cloud_config.c`. What the messages make the manager do is logged.
-/

namespace OpenSyncRdk
namespace Sync

inductive CloudMode where
  | unknown
  | monitor
  | full
  deriving DecidableEq

inductive DeviceMode where
  | monitor
  | cloud
  deriving DecidableEq

inductive MsgType where
  | wifiReset
  | wifiRadioChannel
  | wifiRadioChannelMode
  | wifiSsidName
  | wifiSsidAdvertise
  | wifiApSecurity
  | wifiApKickAssocDevice
  | wifiApKickAllAssocDevices
  | wifiApAddAclDevice
  | wifiApDelAclDevice
  | wifiMacAddrControlMode
  | subnetChange
  | urlChange
  | stateChange
  | clientConnect
  | dhcpResyncLeases
  | dhcpAddLease
  | dhcpRemoveLease
  | dhcpUpdateLease
  | other (val : Nat)
  deriving DecidableEq

/-- A message from the Mesh-Agent. What follows its type is a union, of which all members can be read. -/
structure Msg where
  msgType : MsgType
  ssidNameIndex : Int
  ssidName : CStr
  apSecurityIndex : Int
  addAclIndex : Int
  delAclIndex : Int
  macAddrControlModeIndex : Int
  ssidAdvertiseIndex : Int
  kickAssocIndex : Int
  kickAllAssocIndex : Int
  radioChannelIndex : Int
  radioChannelModeIndex : Int
  -- whether `meshState.state` is `MESH_STATE_FULL`
  meshStateFull : Bool
  deriving DecidableEq

inductive ChangeMsg where
  | ssidName (index : Int) (ssid : CStr)
  | apSecurity (index : Int) (passphrase secMode encryptMode : CStr)
  | radioChannel (index : Int) (channel : Nat)
  | ssidAdvertise (index : Int) (enable : Bool)
  | radioChannelBw (index : Int) (bw : Nat)
  deriving DecidableEq

inductive OutMsg where
  | status (full : Bool)
  | change (msg : ChangeMsg)
  deriving DecidableEq

structure Wire extends MeshSync where
  -- the size of the SSID in a message
  ssidSize : Nat
  decode : List UInt8 → Msg
  encode : OutMsg → List UInt8

structure Hal where
  getApName : Int → Option CStr
  getRadioIfName : Int → Bool

structure Build where
  disableSync : Bool
  syncExtHomeAcls : Bool
  extender : Bool
  radio : Radio.Build
  controllerAddr : CStr
  redirectorSize : Nat

inductive ExternalUpdate where
  | ssid (ssid : CStr) (index : Int)
  | security (index : Int)
  | acl (index : Int)
  deriving DecidableEq

inductive AwlanUpdate where
  | deviceMode (mode : DeviceMode)
  | redirectorAddr (addr : CStr)
  deriving DecidableEq

structure Manager where
  client : Client
  cloudMode : CloudMode
  awlanCb : Bool
  -- the messages that the connection has taken
  sent : List OutMsg
  awlan : List AwlanUpdate
  externals : List ExternalUpdate
  resyncs : Nat
  restarts : Nat

namespace Manager

def start : Manager :=
  { client := .start, cloudMode := .unknown, awlanCb := false, sent := [], awlan := [], externals := []
    resyncs := 0, restarts := 0
  }

def syncSendMsg (W : Wire) (msg : OutMsg) (taken : Nat) (m : Manager) : Manager × Bool :=
  let out := m.client.sendMsg (W.encode msg) taken
  ({ m with client := out.1, sent := if out.2 then m.sent ++ [msg] else m.sent }, out.2)

def syncSend (W : Wire) (msg : OutMsg) (taken : Nat) (m : Manager) : Manager × Bool :=
  if ¬m.client.initialized then (m, false) else m.syncSendMsg W msg taken

def syncSendSsidChange (W : Wire) (ssidIndex : Int) (newSsid : CStr) (taken : Nat) (m : Manager)
    : Manager × Bool :=
  m.syncSend W (.change (.ssidName ssidIndex (strscpy W.ssidSize newSsid))) taken

def syncSendSecurityChange (W : Wire) (ssidIndex : Int) (passphrase secMode encryptMode : CStr)
    (taken : Nat) (m : Manager) : Manager × Bool :=
  m.syncSend W (.change (.apSecurity ssidIndex passphrase secMode encryptMode)) taken

def syncSendChannelChange (W : Wire) (radioIndex : Int) (channel : Nat) (taken : Nat) (m : Manager)
    : Manager × Bool :=
  m.syncSend W (.change (.radioChannel radioIndex channel)) taken

def syncSendSsidBroadcastChange (W : Wire) (ssidIndex : Int) (ssidBroadcast : Bool) (taken : Nat)
    (m : Manager) : Manager × Bool :=
  m.syncSend W (.change (.ssidAdvertise ssidIndex ssidBroadcast)) taken

def syncSendChannelBwChange (W : Wire) (ssidIndex : Int) (bandwidth : Nat) (taken : Nat)
    (m : Manager) : Manager × Bool :=
  m.syncSend W (.change (.radioChannelBw ssidIndex bandwidth)) taken

def syncSendChange (W : Wire) (msg : ChangeMsg) (taken : Nat) (m : Manager) : Manager × Bool :=
  match msg with
  | .ssidName index ssid => m.syncSendSsidChange W index ssid taken
  | .apSecurity index passphrase secMode encryptMode =>
    m.syncSendSecurityChange W index passphrase secMode encryptMode taken
  | .radioChannel index channel => m.syncSendChannelChange W index channel taken
  | .ssidAdvertise index enable => m.syncSendSsidBroadcastChange W index enable taken
  | .radioChannelBw index bw => m.syncSendChannelBwChange W index bw taken

def syncSendStatus (W : Wire) (mode : CloudMode) (taken : Nat) (m : Manager) : Manager × Bool :=
  match mode with
  | .unknown => if ¬m.client.initialized then (m, false) else (m, true)
  | .monitor => m.syncSend W (.status false) taken
  | .full => m.syncSend W (.status true) taken

def radioCloudModeSet (build : Build) (W : Wire) (mode : CloudMode) (taken : Nat) (m : Manager)
    : Manager × Bool :=
  let m := { m with cloudMode := mode }
  if build.disableSync then (m, true) else m.syncSendStatus W mode taken

def callAwlan (update : AwlanUpdate) (m : Manager) : Manager :=
  if m.awlanCb then { m with awlan := m.awlan ++ [update] } else m

def cloudConfigSetMode (mode : DeviceMode) (m : Manager) : Manager :=
  m.callAwlan (.deviceMode mode)

def meshStateMode (buf : CStr) : CloudMode :=
  if strcaseeq buf (cstr "Full") then .full else .monitor

def cloudConfigModeInit (build : Build) (W : Wire) (meshState : Option CStr) (taken : Nat)
    (m : Manager) : Manager :=
  match meshState with
  | none => m
  | some buf => (m.radioCloudModeSet build W (meshStateMode buf) taken).1

def updateRedirectorAddr (build : Build) (meshUrl : Option CStr) (m : Manager) : Manager :=
  m.callAwlan (.redirectorAddr (strscpy build.redirectorSize (meshUrl.getD build.controllerAddr)))

def targetDeviceConfigRegister (build : Build) (meshState meshUrl : Option CStr) (m : Manager)
    : Manager :=
  let m := { m with awlanCb := true }
  let m :=
    if build.extender then
      m.cloudConfigSetMode .cloud
    else
      match meshState with
      | none => m
      | some buf => m.cloudConfigSetMode (if meshStateMode buf = .full then .cloud else .monitor)
  m.updateRedirectorAddr build meshUrl

abbrev Branch :=
  Manager → Manager × Bool

def breakIfNotMgr (mgr : Mgr) (act : Branch) : Branch := fun m =>
  if m.client.mgr ≠ mgr then (m, false) else act m

def logOnly : Branch := fun m => (m, false)

def resyncOnly : Branch := fun m => (m, true)

def external (update : ExternalUpdate) : Branch := fun m =>
  ({ m with externals := m.externals ++ [update] }, true)

def managersRestart : Branch := fun m =>
  ({ m with restarts := m.restarts + 1 }, false)

def withApName (hal : Hal) (index : Int) (act : CStr → Branch) : Branch := fun m =>
  match hal.getApName index with
  | none => (m, false)
  | some ifname => act ifname m

def withRadioIfName (hal : Hal) (index : Int) (act : Branch) : Branch := fun m =>
  if ¬hal.getRadioIfName index then (m, false) else act m

def aclChange (build : Build) (updated : Int) (ifname : CStr) : Branch :=
  if build.syncExtHomeAcls then
    if Vif.isHomeAp build.radio ifname then external (.acl updated) else resyncOnly
  else
    logOnly

def ofMeshState (full : Bool) : CloudMode :=
  if full then .full else .monitor

def setDeviceMode (mode : CloudMode) (m : Manager) : Manager :=
  match mode with
  | .full => m.cloudConfigSetMode .cloud
  | .monitor => m.cloudConfigSetMode .monitor
  | .unknown => m

def stateChange (build : Build) (W : Wire) (full : Bool) (taken : Nat) : Branch := fun m =>
  let mode := ofMeshState full
  if m.cloudMode = mode then
    (m, false)
  else
    (((m.setDeviceMode mode).radioCloudModeSet build W mode taken).1, false)

/-- The switch of `sync_process_msg`. Three of its branches pass on an index from another member of the union. -/
def branch (build : Build) (W : Wire) (hal : Hal) (taken : Nat) (msg : Msg) : Branch :=
  match msg.msgType with
  | .wifiSsidName =>
    breakIfNotMgr .wm
      (withApName hal msg.ssidNameIndex (fun _ => external (.ssid msg.ssidName msg.ssidNameIndex)))
  | .wifiApSecurity =>
    breakIfNotMgr .wm
      (withApName hal msg.apSecurityIndex (fun _ => external (.security msg.ssidNameIndex)))
  | .wifiApAddAclDevice =>
    breakIfNotMgr .wm (withApName hal msg.addAclIndex (aclChange build msg.addAclIndex))
  | .wifiApDelAclDevice =>
    breakIfNotMgr .wm (withApName hal msg.delAclIndex (aclChange build msg.addAclIndex))
  | .wifiMacAddrControlMode =>
    breakIfNotMgr .wm (withApName hal msg.macAddrControlModeIndex (aclChange build msg.addAclIndex))
  | .wifiSsidAdvertise =>
    breakIfNotMgr .wm (withApName hal msg.ssidAdvertiseIndex (fun _ => resyncOnly))
  | .urlChange => breakIfNotMgr .cm managersRestart
  | .wifiReset => breakIfNotMgr .wm resyncOnly
  | .subnetChange => breakIfNotMgr .nm managersRestart
  | .wifiApKickAllAssocDevices =>
    breakIfNotMgr .wm (withApName hal msg.kickAllAssocIndex (fun _ => resyncOnly))
  | .wifiApKickAssocDevice =>
    breakIfNotMgr .wm (withApName hal msg.kickAssocIndex (fun _ => resyncOnly))
  | .wifiRadioChannel =>
    breakIfNotMgr .wm (withRadioIfName hal msg.radioChannelIndex resyncOnly)
  | .wifiRadioChannelMode =>
    breakIfNotMgr .wm (withRadioIfName hal msg.radioChannelModeIndex resyncOnly)
  | .stateChange => breakIfNotMgr .cm (stateChange build W msg.meshStateFull taken)
  | .clientConnect => breakIfNotMgr .nm logOnly
  | .dhcpResyncLeases => breakIfNotMgr .nm logOnly
  | .dhcpUpdateLease => breakIfNotMgr .nm logOnly
  | .dhcpAddLease => breakIfNotMgr .nm logOnly
  | .dhcpRemoveLease => breakIfNotMgr .nm logOnly
  | .other _ => breakIfNotMgr .wm logOnly

def syncProcessMsg (build : Build) (W : Wire) (hal : Hal) (taken : Nat) (msg : Msg) (m : Manager)
    : Manager :=
  match branch build W hal taken msg m with
  | (m, resync) =>
    if m.client.mgr = .wm ∧ resync then { m with resyncs := m.resyncs + 1 } else m

inductive InitOpt where
  | sm
  | wm
  | cm
  | bm
  | other (val : Nat)
  deriving DecidableEq

def targetInit (build : Build) (opt : InitOpt) (halCapability : Bool) (m : Manager) : Manager :=
  if ¬halCapability then
    m
  else
    match opt with
    | .wm => if build.disableSync then m else { m with client := m.client.init .wm false }
    | .cm => if build.disableSync then m else { m with client := m.client.init .cm true }
    | _ => m

def targetClose (build : Build) (opt : InitOpt) (m : Manager) : Manager :=
  match opt with
  | .wm => if build.disableSync then m else { m with client := m.client.cleanup }
  | _ => m

/-- `sync_task_connect` with its call of `sync_on_connect_cb`. -/
def syncTaskConnect (build : Build) (W : Wire) (attempt : Attempt) (meshState : Option CStr)
    (taken : Nat) (m : Manager) : Option Manager :=
  match m.client.taskConnect attempt with
  | none => none
  | some client =>
    match attempt with
    | .connected _ =>
      let m := { m with client := client, sent := [] }
      some (if client.onConnectCb then m.cloudConfigModeInit build W meshState taken else m)
    | _ => some { m with client := client }

def syncEvioCb (build : Build) (W : Wire) (event : Event) (hal : Hal) (taken : Nat) (m : Manager)
    : Manager :=
  let m := { m with client := m.client.evioCb W.toMeshSync event }
  match event.message W.toMeshSync with
  | none => m
  | some bytes => m.syncProcessMsg build W hal taken (W.decode bytes)

inductive Input where
  | targetInit (opt : InitOpt) (halCapability : Bool)
  | targetClose (opt : InitOpt)
  | deviceConfigRegister (meshState meshUrl : Option CStr)
  | timer (attempt : Attempt) (meshState : Option CStr) (taken : Nat)
  | socket (event : Event) (hal : Hal) (taken : Nat)
  | send (msg : ChangeMsg) (taken : Nat)

/-- The event loop calls nothing for a timer or a watcher that is stopped. -/
def step (build : Build) (W : Wire) (m : Manager) : Input → Option Manager
  | .targetInit opt halCapability => some (m.targetInit build opt halCapability)
  | .targetClose opt => some (m.targetClose build opt)
  | .deviceConfigRegister meshState meshUrl =>
    some (m.targetDeviceConfigRegister build meshState meshUrl)
  | .timer attempt meshState taken =>
    if m.client.timer then m.syncTaskConnect build W attempt meshState taken else some m
  | .socket event hal taken =>
    if m.client.evio.isSome then some (m.syncEvioCb build W event hal taken) else some m
  | .send msg taken => some (m.syncSendChange W msg taken).1

structure Kept (m t : Manager) : Prop where
  sound : m.client.Sound → t.client.Sound
  mgr : t.client.mgr = m.client.mgr
  onConnectCb : t.client.onConnectCb = m.client.onConnectCb
  initialized : t.client.initialized = m.client.initialized
  opened : t.client.opened = m.client.opened

theorem Kept.of_client {m t : Manager} (hclient : t.client = m.client)
    : Kept m t where
  sound := fun hs => hclient ▸ hs
  mgr := by rw [hclient]
  onConnectCb := by rw [hclient]
  initialized := by rw [hclient]
  opened := by rw [hclient]

theorem Kept.trans {m t u : Manager} (hmt : Kept m t) (htu : Kept t u)
    : Kept m u where
  sound := fun hs => htu.sound (hmt.sound hs)
  mgr := htu.mgr.trans hmt.mgr
  onConnectCb := htu.onConnectCb.trans hmt.onConnectCb
  initialized := htu.initialized.trans hmt.initialized
  opened := htu.opened.trans hmt.opened

theorem syncSendMsg_kept (W : Wire) (msg : OutMsg) (taken : Nat) (m : Manager)
    : Kept m (m.syncSendMsg W msg taken).1 where
  sound := fun hs => hs.sendMsg (W.encode msg) taken
  mgr := rfl
  onConnectCb := rfl
  initialized := rfl
  opened := rfl

theorem syncSend_kept (W : Wire) (msg : OutMsg) (taken : Nat) (m : Manager)
    : Kept m (m.syncSend W msg taken).1 := by
  unfold syncSend
  split
  . exact Kept.of_client rfl
  . apply syncSendMsg_kept

theorem syncSendChange_eq (W : Wire) (msg : ChangeMsg) (taken : Nat) (m : Manager)
    : ∃ sent, m.syncSendChange W msg taken = m.syncSend W (.change sent) taken := by
  cases msg with
  | ssidName index ssid => exact ⟨_, rfl⟩
  | apSecurity index passphrase secMode encryptMode => exact ⟨_, rfl⟩
  | radioChannel index channel => exact ⟨_, rfl⟩
  | ssidAdvertise index enable => exact ⟨_, rfl⟩
  | radioChannelBw index bw => exact ⟨_, rfl⟩

theorem syncSendChange_kept (W : Wire) (msg : ChangeMsg) (taken : Nat) (m : Manager)
    : Kept m (m.syncSendChange W msg taken).1 := by
  have ⟨sent, hsent⟩ := syncSendChange_eq W msg taken m
  rw [hsent]
  apply syncSend_kept

theorem radioCloudModeSet_kept (build : Build) (W : Wire) (mode : CloudMode) (taken : Nat)
    (m : Manager)
    : Kept m (m.radioCloudModeSet build W mode taken).1 := by
  have hset : Kept m { m with cloudMode := mode } := Kept.of_client rfl
  unfold radioCloudModeSet
  dsimp only
  split
  . exact hset
  . apply hset.trans
    cases mode with
    | unknown =>
      unfold syncSendStatus
      dsimp only
      split <;> exact Kept.of_client rfl
    | monitor => apply syncSend_kept
    | full => apply syncSend_kept

theorem callAwlan_kept (update : AwlanUpdate) (m : Manager)
    : Kept m (m.callAwlan update) := by
  unfold callAwlan
  split <;> exact Kept.of_client rfl

theorem cloudConfigModeInit_kept (build : Build) (W : Wire) (meshState : Option CStr) (taken : Nat)
    (m : Manager)
    : Kept m (m.cloudConfigModeInit build W meshState taken) := by
  cases meshState with
  | none => exact Kept.of_client rfl
  | some buf => apply radioCloudModeSet_kept

theorem targetDeviceConfigRegister_kept (build : Build) (meshState meshUrl : Option CStr) (m : Manager)
    : Kept m (m.targetDeviceConfigRegister build meshState meshUrl) := by
  have hset : Kept m { m with awlanCb := true } := Kept.of_client rfl
  unfold targetDeviceConfigRegister updateRedirectorAddr
  dsimp only
  refine Kept.trans ?_ (callAwlan_kept _ _)
  split
  . exact hset.trans (callAwlan_kept _ _)
  . split
    . exact hset
    . exact hset.trans (callAwlan_kept _ _)

theorem breakIfNotMgr_kept {act : Branch} (hact : ∀ m, Kept m (act m).1) (mgr : Mgr) (m : Manager)
    : Kept m (breakIfNotMgr mgr act m).1 := by
  unfold breakIfNotMgr
  split
  . exact Kept.of_client rfl
  . exact hact m

theorem withApName_kept {act : CStr → Branch} (hact : ∀ ifname m, Kept m (act ifname m).1) (hal : Hal)
    (index : Int) (m : Manager)
    : Kept m (withApName hal index act m).1 := by
  unfold withApName
  split
  . exact Kept.of_client rfl
  . apply hact

theorem withRadioIfName_kept {act : Branch} (hact : ∀ m, Kept m (act m).1) (hal : Hal) (index : Int)
    (m : Manager)
    : Kept m (withRadioIfName hal index act m).1 := by
  unfold withRadioIfName
  split
  . exact Kept.of_client rfl
  . apply hact

theorem aclChange_kept (build : Build) (updated : Int) (ifname : CStr) (m : Manager)
    : Kept m (aclChange build updated ifname m).1 := by
  unfold aclChange
  split
  . split <;> exact Kept.of_client rfl
  . exact Kept.of_client rfl

theorem setDeviceMode_kept (mode : CloudMode) (m : Manager)
    : Kept m (m.setDeviceMode mode) := by
  cases mode with
  | unknown => exact Kept.of_client rfl
  | monitor => apply callAwlan_kept
  | full => apply callAwlan_kept

theorem stateChange_kept (build : Build) (W : Wire) (full : Bool) (taken : Nat) (m : Manager)
    : Kept m (stateChange build W full taken m).1 := by
  unfold stateChange
  dsimp only
  split
  . exact Kept.of_client rfl
  . exact (setDeviceMode_kept _ m).trans (radioCloudModeSet_kept build W _ taken _)

theorem branch_kept (build : Build) (W : Wire) (hal : Hal) (taken : Nat) (msg : Msg) (m : Manager)
    : Kept m (branch build W hal taken msg m).1 := by
  have hlog : ∀ m, Kept m (logOnly m).1 := fun m => Kept.of_client rfl
  have hresync : ∀ m, Kept m (resyncOnly m).1 := fun m => Kept.of_client rfl
  have hexternal : ∀ update m, Kept m (external update m).1 := fun update m => Kept.of_client rfl
  have hrestart : ∀ m, Kept m (managersRestart m).1 := fun m => Kept.of_client rfl
  have hap := fun index => withApName_kept (fun _ => hresync) hal index
  have hradio := withRadioIfName_kept hresync hal
  have hacl := fun updated => withApName_kept (aclChange_kept build updated) hal
  unfold branch
  cases msg.msgType with
  | wifiSsidName =>
    exact breakIfNotMgr_kept (withApName_kept (fun _ => hexternal _) hal _) .wm m
  | wifiApSecurity =>
    exact breakIfNotMgr_kept (withApName_kept (fun _ => hexternal _) hal _) .wm m
  | wifiApAddAclDevice => exact breakIfNotMgr_kept (hacl _ _) .wm m
  | wifiApDelAclDevice => exact breakIfNotMgr_kept (hacl _ _) .wm m
  | wifiMacAddrControlMode => exact breakIfNotMgr_kept (hacl _ _) .wm m
  | wifiSsidAdvertise => exact breakIfNotMgr_kept (hap _) .wm m
  | wifiApKickAllAssocDevices => exact breakIfNotMgr_kept (hap _) .wm m
  | wifiApKickAssocDevice => exact breakIfNotMgr_kept (hap _) .wm m
  | wifiRadioChannel => exact breakIfNotMgr_kept (hradio _) .wm m
  | wifiRadioChannelMode => exact breakIfNotMgr_kept (hradio _) .wm m
  | wifiReset => exact breakIfNotMgr_kept hresync .wm m
  | urlChange => exact breakIfNotMgr_kept hrestart .cm m
  | subnetChange => exact breakIfNotMgr_kept hrestart .nm m
  | stateChange => exact breakIfNotMgr_kept (stateChange_kept build W _ taken) .cm m
  | clientConnect => exact breakIfNotMgr_kept hlog .nm m
  | dhcpResyncLeases => exact breakIfNotMgr_kept hlog .nm m
  | dhcpAddLease => exact breakIfNotMgr_kept hlog .nm m
  | dhcpRemoveLease => exact breakIfNotMgr_kept hlog .nm m
  | dhcpUpdateLease => exact breakIfNotMgr_kept hlog .nm m
  | other val => exact breakIfNotMgr_kept hlog .wm m

theorem syncProcessMsg_kept (build : Build) (W : Wire) (hal : Hal) (taken : Nat) (msg : Msg)
    (m : Manager)
    : Kept m (m.syncProcessMsg build W hal taken msg) := by
  have hkept := branch_kept build W hal taken msg m
  unfold syncProcessMsg
  dsimp only
  split
  . exact hkept.trans (Kept.of_client rfl)
  . exact hkept

structure SameWork (m t : Manager) : Prop where
  cloudMode : t.cloudMode = m.cloudMode
  awlanCb : t.awlanCb = m.awlanCb
  awlan : t.awlan = m.awlan
  externals : t.externals = m.externals
  resyncs : t.resyncs = m.resyncs
  restarts : t.restarts = m.restarts

theorem syncSend_sameWork (W : Wire) (msg : OutMsg) (taken : Nat) (m : Manager)
    : SameWork m (m.syncSend W msg taken).1 := by
  unfold syncSend
  split <;> exact ⟨rfl, rfl, rfl, rfl, rfl, rfl⟩

theorem radioCloudModeSet_sameWork (build : Build) (W : Wire) (mode : CloudMode) (taken : Nat)
    (m : Manager)
    : SameWork { m with cloudMode := mode } (m.radioCloudModeSet build W mode taken).1 := by
  unfold radioCloudModeSet
  dsimp only
  split
  . exact ⟨rfl, rfl, rfl, rfl, rfl, rfl⟩
  . cases mode with
    | unknown =>
      unfold syncSendStatus
      dsimp only
      split <;> exact ⟨rfl, rfl, rfl, rfl, rfl, rfl⟩
    | monitor => apply syncSend_sameWork
    | full => apply syncSend_sameWork

structure Sound (build : Build) (m : Manager) : Prop where
  client : m.client.Sound
  mgr : m.client.mgr ≠ .nm
  onConnectCb : m.client.onConnectCb = decide (m.client.mgr = .cm)
  disabled : build.disableSync → m.client.initialized = false ∧ m.client.opened = []

theorem Kept.manager_sound {m t : Manager} {build : Build} (hkept : Kept m t) (hs : m.Sound build)
    : t.Sound build where
  client := hkept.sound hs.client
  mgr := by rw [hkept.mgr]; exact hs.mgr
  onConnectCb := by rw [hkept.onConnectCb, hkept.mgr]; exact hs.onConnectCb
  disabled := by rw [hkept.initialized, hkept.opened]; exact hs.disabled

theorem start_sound (build : Build)
    : start.Sound build where
  client := Client.start_sound
  mgr := by decide
  onConnectCb := rfl
  disabled := fun _ => ⟨rfl, rfl⟩

theorem Sound.of_client {m : Manager} {build : Build} {client : Client} (hs : m.Sound build)
    (hclient : client.Sound) (hsame : Client.SameInit m.client client)
    (henabled : m.client.initialized ∨ client = m.client)
    : Sound build { m with client := client } where
  client := hclient
  mgr := by rw [hsame.mgr]; exact hs.mgr
  onConnectCb := by rw [hsame.onConnectCb, hsame.mgr]; exact hs.onConnectCb
  disabled := by
    intro hdisable
    have hinit := hs.disabled hdisable
    cases henabled with
    | inl hinit' =>
      rw [hinit.1] at hinit'
      contradiction
    | inr heq => exact heq ▸ hinit

theorem Sound.init {m : Manager} {build : Build} (hs : m.Sound build) (hsync : ¬build.disableSync)
    (mgr : Mgr) (hmgr : mgr ≠ .nm)
    : Sound build { m with client := m.client.init mgr (decide (mgr = .cm)) } where
  client := hs.client.init _ _
  mgr := by
    unfold Client.init
    split
    . exact hs.mgr
    . exact hmgr
  onConnectCb := by
    unfold Client.init
    split
    . exact hs.onConnectCb
    . exact (Client.reconnect_sameInit { m.client with onConnectCb := decide (mgr = .cm) }).onConnectCb
  disabled := fun hdisable => absurd hdisable hsync

theorem Sound.targetInit {m : Manager} {build : Build} (hs : m.Sound build) (opt : InitOpt)
    (halCapability : Bool)
    : (m.targetInit build opt halCapability).Sound build := by
  unfold Manager.targetInit
  split
  . exact hs
  . split
    . split
      . exact hs
      . next hsync => exact hs.init hsync .wm (by decide)
    . split
      . exact hs
      . next hsync => exact hs.init hsync .cm (by decide)
    . exact hs

theorem Sound.targetClose {m : Manager} {build : Build} (hs : m.Sound build) (opt : InitOpt)
    : (m.targetClose build opt).Sound build := by
  unfold Manager.targetClose
  split
  . split
    . exact hs
    . next hsync =>
      have hsame : m.client.cleanup.mgr = m.client.mgr
          ∧ m.client.cleanup.onConnectCb = m.client.onConnectCb := by
        have hsame := Client.disconnect_sameInit m.client
        unfold Client.cleanup
        split
        . exact ⟨rfl, rfl⟩
        . exact ⟨hsame.mgr, hsame.onConnectCb⟩
      exact
        { client := hs.client.cleanup
          mgr := by rw [hsame.1]; exact hs.mgr
          onConnectCb := by rw [hsame.1, hsame.2]; exact hs.onConnectCb
          disabled := fun hdisable => absurd hdisable hsync
        }
  . exact hs

theorem Sound.timer {m : Manager} {build : Build} (hs : m.Sound build) (htimer : m.client.timer)
    (W : Wire) (attempt : Attempt) (meshState : Option CStr) (taken : Nat)
    : ∃ t, m.syncTaskConnect build W attempt meshState taken = some t ∧ t.Sound build := by
  have hinit : m.client.initialized := by
    rw [hs.client.timer, Bool.and_eq_true] at htimer
    exact htimer.1
  have ⟨client, hclient, hsound⟩ := hs.client.taskConnect htimer attempt
  have hconn := hs.of_client hsound (Client.taskConnect_sameInit hclient) (Or.inl hinit)
  have hfresh : Sound build { m with client := client, sent := [] } :=
    ⟨hconn.client, hconn.mgr, hconn.onConnectCb, hconn.disabled⟩
  unfold syncTaskConnect
  rw [hclient]
  cases attempt with
  | noSocket => exact ⟨_, rfl, hconn⟩
  | refused fd => exact ⟨_, rfl, hconn⟩
  | connected fd =>
    refine ⟨_, rfl, ?_⟩
    split
    . exact (cloudConfigModeInit_kept build W meshState taken _).manager_sound hfresh
    . exact hfresh

theorem Sound.socket {m : Manager} {build : Build} (hs : m.Sound build) (hevio : m.client.evio.isSome)
    (W : Wire) (event : Event) (hal : Hal) (taken : Nat)
    : (m.syncEvioCb build W event hal taken).Sound build := by
  have hinit : m.client.initialized := by
    apply hs.client.initialized
    rw [← hs.client.evio]
    exact hevio
  have hconn := hs.of_client (hs.client.evioCb hevio W.toMeshSync event)
    (Client.evioCb_sameInit _ event m.client) (Or.inl hinit)
  unfold syncEvioCb
  dsimp only
  split
  . exact hconn
  . exact (syncProcessMsg_kept build W hal taken _ _).manager_sound hconn

theorem step_sound (build : Build) (W : Wire) {m : Manager} (hs : m.Sound build) (input : Input)
    : ∃ t, step build W m input = some t ∧ t.Sound build := by
  cases input with
  | targetInit opt halCapability => exact ⟨_, rfl, hs.targetInit opt halCapability⟩
  | targetClose opt => exact ⟨_, rfl, hs.targetClose opt⟩
  | deviceConfigRegister meshState meshUrl =>
    exact ⟨_, rfl, (targetDeviceConfigRegister_kept build meshState meshUrl m).manager_sound hs⟩
  | timer attempt meshState taken =>
    by_cases htimer : m.client.timer = true
    . rw [step, if_pos htimer]
      exact hs.timer htimer W attempt meshState taken
    . rw [step, if_neg htimer]
      exact ⟨m, rfl, hs⟩
  | socket event hal taken =>
    by_cases hevio : m.client.evio.isSome = true
    . rw [step, if_pos hevio]
      exact ⟨_, rfl, hs.socket hevio W event hal taken⟩
    . rw [step, if_neg hevio]
      exact ⟨m, rfl, hs⟩
  | send msg taken => exact ⟨_, rfl, (syncSendChange_kept W msg taken m).manager_sound hs⟩

theorem manager_run_sound (build : Build) (W : Wire) (inputs : List Input)
    : ∃ t, Machine.run (step build W) start inputs = some t ∧ t.Sound build := by
  apply Machine.run_total
  . intro m input _ hs
    exact step_sound build W hs input
  . exact start_sound build

end Manager
end Sync
end OpenSyncRdk
