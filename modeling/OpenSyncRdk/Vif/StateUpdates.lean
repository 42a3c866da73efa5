import OpenSyncRdk.Vif.ReadBack

/-!
The rows of `Wifi_VIF_State` that `vif_state_update` publishes, `vif.c`, while configurations are applied,
the wifi HAL changes, and the timers of the deferred updates expire.
-/

namespace OpenSyncRdk
namespace Vif

open Clients (MacAddr)

structure StaState where
  ifName : Column CStr
  enabled : Column Bool
  mode : Column CStr
  ssid : Column CStr
  vifRadioIdx : Column Nat
  parent : Column CStr
  mac : Column CStr
  channel : Column Nat
  security : List (CStr × CStr)
  wds : Column Bool
  deriving DecidableEq, Inhabited

structure StaVap extends StaInfo where
  mac : MacAddr
  scanChannel : Nat

def staModeStr : SecurityMode → Option CStr
  | .wpaWpa2Personal => some (cstr "mixed")
  | .wpa2Personal => some (cstr "2")
  | .wpaPersonal => some (cstr "1")
  | _ => none

def staSecurity (security : StaSecurity) : List (CStr × CStr) :=
  [(cstr "encryption", cstr "WPA-PSK"), (cstr "key", security.key)]
    ++ (staModeStr security.mode).toList.map (fun mode => (cstr "mode", mode))

def macColumn (build : ApBuild) (mac : MacAddr) (column : Column CStr) : Column CStr :=
  if build.macAddressFormat mac ≠ cstr "00:00:00:00:00:00" then
    .set (build.macAddressFormat mac)
  else
    column

def vifStaStateGet (build : ApBuild) (vap : StaVap) (vstate : StaState) : StaState :=
  let ssid := if vap.ssid.length ≠ 0 then .set vap.ssid else vstate.ssid
  { vstate with
    enabled := .set vap.enabled
    mode := .set (cstr "sta")
    ssid
    vifRadioIdx := .set 0
    parent := macColumn build vap.bssid vstate.parent
    mac := macColumn build vap.mac vstate.mac
    channel := if vap.scanChannel > 0 then .set vap.scanChannel else vstate.channel
    security := vstate.security ++ if ssid.val.length ≠ 0 then staSecurity vap.security else []
    wds := .set false
  }

inductive VifRow where
  | ap (vstate : VifState)
  | sta (vstate : StaState)
  -- any other mode leaves the row at the name
  | other (ifName : Column CStr)

structure VifReport (η : Type) where
  env : ConfigEnv η
  -- next to what is configured
  bssid : Nat → MacAddr
  radius : Nat → RadiusSettings
  staMac : Nat → MacAddr
  scanChannel : Nat → Nat
  answers : Nat → ApAnswers
  radioIfName : Int → Option CStr

def radioIfnameSize : Nat := 128

section

variable {η : Type}

def vifGetRadioIfname (build : ApBuild) (report : VifReport η) (ssidIndex : Int) : Option CStr :=
  match report.env.lookup.getSsidRadioIndex (unsignedInt ssidIndex) with
  | none => none
  | some radioIdx =>
    (report.radioIfName radioIdx).map (fun ifname => strscpy radioIfnameSize (build.unmapIfname ifname))

/-- `vif_state_get` for a VAP that was found. -/
def vifStateOf (build : ApBuild) (cachedKeyIds : Int → CStr) (report : VifReport η) (vap : HalVap)
    : Option VifRow :=
  let index := vap.vapInfo.vapIndex
  let ifName := .set (build.unmapIfname vap.vapInfo.vapName)
  match vap.vapMode with
  | .ap =>
    let ap := { vap.vapInfo with bssid := report.bssid index, radius := report.radius index }
    (vifStateGet build (report.answers index) cachedKeyIds ap).map .ap
  | .sta =>
    let sta := { vap.staInfo with mac := report.staMac index, scanChannel := report.scanChannel index }
    some (.sta (vifStaStateGet build sta { (default : StaState) with ifName }))
  | .other _ => some (.other ifName)

def vifStateUpdate (build : ApBuild) (cachedKeyIds : Int → CStr) (report : VifReport η) (ssidIndex : Int)
    : Option (VifRow × CStr) :=
  if ssidIndex < 0 then
    none
  else
    match ssidIndexToVapInfo report.env.lookup (unsignedInt ssidIndex) with
    | none => none
    | some vap =>
      match vifStateOf build cachedKeyIds report vap with
      | none => none
      | some row => (vifGetRadioIfname build report ssidIndex).map (fun radioIfname => (row, radioIfname))

/-- `published` are the rows that `op_vstate` was called with last. -/
structure VifSystem (η : Type) where
  report : VifReport η
  state : ConfigState η
  published : Int → Option (VifRow × CStr)

inductive VifInput (η : Type) where
  -- `report` is what the HAL reports from then on
  | config (vconf : VifConf) (radioIfname : CStr) (cconf : CredentialConf) (changed : VifFlags)
      (report : VifReport η)
  -- by another program, or by the HAL itself
  | outside (report : VifReport η) (hal : η)
  | expire (entry : UpdateEntry)
  -- for a resync of the radios or an event of the HAL
  | update (ssidIndex : Int)

namespace VifSystem

def read (build : ApBuild) (s : VifSystem η) (ssidIndex : Int) : Option (VifRow × CStr) :=
  vifStateUpdate build s.state.cachedKeyIds s.report ssidIndex

def publish (build : ApBuild) (s : VifSystem η) : UpdateEvent → VifSystem η
  | .requested _ => s
  | .updated ssidIndex =>
    match s.read build ssidIndex with
    | none => s
    | some row =>
      { s with published := fun index => if index = ssidIndex then some row else s.published index }

def publishSince (build : ApBuild) (before : Deferred) (s : VifSystem η) : VifSystem η :=
  (s.state.deferred.log.drop before.log.length).foldl (publish build) s

def step (build : ApBuild) (s : VifSystem η) : VifInput η → Option (VifSystem η)
  | .config vconf radioIfname cconf changed report =>
    let state := (targetVifConfigSet2 build.toConfigBuild s.report.env vconf radioIfname cconf changed
      s.state).1
    some ({ s with report, state }.publishSince build s.state.deferred)
  | .outside report hal => some { s with report, state := { s.state with hal } }
  | .expire entry =>
    (deferredStep s.state.deferred (.expire entry)).map (fun deferred =>
      { s with state := { s.state with deferred } }.publishSince build s.state.deferred)
  | .update ssidIndex => some (s.publish build (.updated ssidIndex))

end VifSystem

structure Frames (s t : ConfigState η) : Prop where
  cachedKeyIds : t.cachedKeyIds = s.cachedKeyIds
  deferred : t.deferred = s.deferred

namespace Frames

theorem refl (s : ConfigState η) : Frames s s :=
  ⟨rfl, rfl⟩

theorem trans {s t u : ConfigState η} (hst : Frames s t) (htu : Frames t u) : Frames s u :=
  ⟨htu.cachedKeyIds.trans hst.cachedKeyIds, htu.deferred.trans hst.deferred⟩

theorem ite {s t u : ConfigState η} (c : Prop) [Decidable c] (ht : Frames s t) (hu : Frames s u)
    : Frames s (if c then t else u) := by
  split
  . exact ht
  . exact hu

variable (build : ConfigBuild) (env : ConfigEnv η) (ssidIndex : Int) (vconf : VifConf) (changed : VifFlags)

theorem setVapInfo (flag : Bool) (set : VapInfo → VapInfo) (s : Configuring η)
    : Frames s.state (Vif.setVapInfo flag set s).state := by
  unfold Vif.setVapInfo
  split <;> exact refl _

theorem configFlags (s : Configuring η)
    : Frames s.state (Vif.configFlags vconf changed s).state :=
  ((setVapInfo changed.apBridge _ s).trans (setVapInfo changed.rrm _ _)).trans
    ((setVapInfo changed.btm _ _).trans (setVapInfo changed.uapsdEnable _ _))

theorem configSsidBroadcast {s t : Configuring η}
    (ht : Vif.configSsidBroadcast build env ssidIndex vconf changed s = some t)
    : Frames s.state t.state := by
  unfold Vif.configSsidBroadcast at ht
  split at ht
  . split at ht
    . contradiction
    . split at ht
      . injection ht with ht
        rw [← ht]
        exact ⟨rfl, rfl⟩
      . injection ht with ht
        rw [← ht]
        exact ⟨rfl, rfl⟩
  . injection ht with ht
    rw [ht]
    exact refl _

theorem configSsid (s : Configuring η)
    : Frames s.state (Vif.configSsid build env ssidIndex vconf changed s).state := by
  have hset := setVapInfo changed.ssid
    (fun vapInfo => { vapInfo with bssInfo.ssid := strscpy build.ssidSize vconf.ssid }) s
  unfold Vif.configSsid
  dsimp only
  split <;> exact ⟨hset.cachedKeyIds, hset.deferred⟩

theorem setMacList (acl : AclBackend η) (vconf : AclConf) (s : ConfigState η)
    : Frames s (Vif.setMacList acl ssidIndex vconf s) := by
  cases acl <;> exact ⟨rfl, rfl⟩

theorem aclApply (acl : AclBuild) {setMacList : ConfigState η → ConfigState η}
    (hset : ∀ s, Frames s (setMacList s)) (vconf : AclConf) (changed : AclFlags) (s : Configuring η)
    : Frames s.state (Vif.aclApply acl setMacList vconf changed s).state := by
  have happly : ∀ t : Configuring η, t.state = s.state →
      Frames s.state (aclApply.applyMacList setMacList changed t).state := by
    intro t ht
    rw [← ht]
    unfold aclApply.applyMacList
    split
    . exact hset t.state
    . exact refl _
  unfold Vif.aclApply
  split
  . exact refl _
  . split
    . split
      . exact happly _ rfl
      . split
        . exact refl _
        . exact happly _ rfl
    . exact happly s rfl

theorem vifConfigSetWps (radioIfname : CStr) (s : ConfigState η)
    : Frames s (Vif.vifConfigSetWps env ssidIndex vconf changed radioIfname s) := by
  have henable : Frames s (vifConfigSetWps.enableWps env ssidIndex vconf s) := by
    unfold vifConfigSetWps.enableWps
    dsimp only
    split
    . split <;> exact ⟨rfl, rfl⟩
    . exact ⟨rfl, rfl⟩
  unfold Vif.vifConfigSetWps
  split
  . have hset := ite (vconf.wps = true) henable (refl s)
    exact ⟨hset.cachedKeyIds, hset.deferred⟩
  . exact refl s

theorem vifConfigSetMultiAp (multiAp : CStr) (s : ConfigState η)
    : Frames s (Vif.vifConfigSetMultiAp ssidIndex multiAp changed s) := by
  unfold Vif.vifConfigSetMultiAp
  split <;> exact ⟨rfl, rfl⟩

theorem configMcast2ucast (s : Configuring η)
    : Frames s.state (Vif.configMcast2ucast env vconf changed s).state := by
  unfold Vif.configMcast2ucast
  split
  . split
    . exact refl _
    . split
      . exact refl _
      . exact setVapInfo true _ s
  . exact refl _

theorem createVap (triggerReconfig : Bool) (vap : HalVap) (s : ConfigState η)
    : Frames s (Vif.createVap triggerReconfig vap s) := by
  unfold Vif.createVap
  split <;> exact ⟨rfl, rfl⟩

/-- The update of the state is the last thing that a configuration does. -/
theorem configRest (vap : HalVap) (radioIfname : CStr) (s : Configuring η)
    : ∃ t, Frames s.state t
        ∧ Vif.configRest build env ssidIndex vap vconf changed radioIfname s
          = updateVifState build env ssidIndex t := by
  refine ⟨_, ?_, rfl⟩
  have hssid := configSsid build env ssidIndex vconf changed s
  have hbridge := hssid.trans (setVapInfo changed.bridge
    (fun vapInfo => { vapInfo with bridgeName := strscpy build.bridgeNameSize vconf.bridge }) _)
  have hacl := hbridge.trans (aclApply build.acl (setMacList ssidIndex env.acl vconf.toAclConf)
    vconf.toAclConf changed.toAclFlags _)
  have hwhen : ∀ (supported : Bool) {t : Configuring η} {u : ConfigState η}, Frames t.state u →
      Frames t.state (if supported then { t with state := u } else t).state := by
    intro supported t u hu
    split
    . exact hu
    . exact refl _
  have hwps := hacl.trans (hwhen build.wpsSupport (vifConfigSetWps env ssidIndex vconf changed radioIfname _))
  have hmultiAp := hwps.trans (hwhen build.multiApSupport
    (vifConfigSetMultiAp ssidIndex changed vconf.multiAp _))
  have hmcast := hmultiAp.trans (configMcast2ucast env vconf changed _)
  exact hmcast.trans (createVap _ _ _)

end Frames

theorem setSecurityExit_cachedKeyIds (build : Build) (ssidIndex : Int) (vconf : SecurityConf)
    (changed : SecurityFlags) (sendSync : Bool) (s : State)
    : (setSecurityExit build ssidIndex vconf changed sendSync s).cachedKeyIds = s.cachedKeyIds := by
  unfold setSecurityExit
  split <;> rfl

theorem setSecurityPsks_cachedKeyIds (build : Build) (ssidIndex : Int) (vconf : SecurityConf)
    (changed : SecurityFlags) (pushOk sendSync : Bool) (s : State) (index : Int)
    : (setSecurityPsks build ssidIndex vconf changed pushOk sendSync s).cachedKeyIds index
        = if (changed.wpaPsks = true ∧ 1 ≤ vconf.wpaPsks.length) ∧ index = ssidIndex then
            firstKeyId vconf
          else
            s.cachedKeyIds index := by
  have hpassword : (setPassword build ssidIndex vconf pushOk s).1.cachedKeyIds index
      = if index = ssidIndex then firstKeyId vconf else s.cachedKeyIds index := by
    unfold setPassword
    dsimp only
    split <;> rfl
  unfold setSecurityPsks
  split
  . next hsets =>
    simp only [hsets, and_self, true_and]
    rw [← hpassword]
    split
    . next t hpass => rw [hpass, setSecurityExit_cachedKeyIds]
    . next t hpass => rw [hpass, setSecurityExit_cachedKeyIds]
  . next hkeeps =>
    rw [setSecurityExit_cachedKeyIds, if_neg (fun hsets => hkeeps hsets.1)]

theorem setSecurity_cachedKeyIds (build : Build) (ssidIndex : Int) (vconf : SecurityConf)
    (changed : SecurityFlags) (pushOk : Bool) (s : State) (index : Int)
    : (setSecurity build ssidIndex vconf changed pushOk s).cachedKeyIds index
        = if SetsPassword vconf changed ∧ index = ssidIndex then
            firstKeyId vconf
          else
            s.cachedKeyIds index := by
  have ⟨mode, hmode⟩ := securityKeyMgmtOvsdbToHal_isSome vconf
  unfold setSecurity SetsPassword
  by_cases hoff : TurnsOff vconf changed
  . rw [if_pos (show changed.wpa = true ∧ vconf.wpa = 0 from hoff), setSecurityExit_cachedKeyIds]
    simp [hoff]
  . rw [if_neg (show ¬(changed.wpa = true ∧ vconf.wpa = 0) from hoff)]
    simp only [hoff, not_false_eq_true, true_and]
    split
    . rw [hmode]
      exact setSecurityPsks_cachedKeyIds ..
    . exact setSecurityPsks_cachedKeyIds ..

def configuredIndex (env : ConfigEnv η) (vconf : VifConf) : Option Int :=
  match findVap env.lookup vconf with
  | none => none
  | some (ssidIndex, vap) =>
    if vap.vapMode = .sta then (findVap env.staLookup vconf).map Prod.fst else some ssidIndex

def updateDeferred (build : ConfigBuild) (ssidIndex : Int) (deferred : Deferred) : Deferred :=
  if build.vifStateUpdateDelay > 0 then
    vifStateUpdateDeferred ssidIndex deferred
  else
    deferred.update ssidIndex

theorem updateVifState_updateDeferred (build : ConfigBuild) (env : ConfigEnv η) (ssidIndex : Int)
    (s : ConfigState η)
    : (updateVifState build env ssidIndex s).1.deferred = updateDeferred build ssidIndex s.deferred := by
  unfold updateVifState updateDeferred
  split <;> rfl

theorem targetVifConfigSet2_ap (build : ConfigBuild) {env : ConfigEnv η} {vconf : VifConf} {ssidIndex : Int}
    {vap : HalVap} (hfind : findVap env.lookup vconf = some (ssidIndex, vap)) (hap : vap.vapMode ≠ .sta)
    (changed : VifFlags) (radioIfname : CStr) (cconf : CredentialConf) (s : ConfigState η)
    : let t := (targetVifConfigSet2 build env vconf radioIfname cconf changed s).1
      (∀ index, t.cachedKeyIds index
          = if SetsPassword vconf.toSecurityConf changed.toSecurityFlags ∧ index = ssidIndex then
              firstKeyId vconf.toSecurityConf
            else
              s.cachedKeyIds index)
        ∧ (RejectsSsidBroadcast vconf changed → t.deferred = s.deferred)
        ∧ (¬RejectsSsidBroadcast vconf changed → t.deferred = updateDeferred build ssidIndex s.deferred) := by
  unfold targetVifConfigSet2
  rw [hfind]
  dsimp only
  rw [if_neg hap]
  generalize henabled : setVapInfo changed.enabled
    (fun vapInfo => { vapInfo with bssInfo.enabled := vconf.enabled })
    { vapInfo := vap.vapInfo, triggerReconfigure := false, state := s } = enabled
  have hframe : Frames s enabled.state := by
    rw [← henabled]
    exact Frames.setVapInfo changed.enabled _ { vapInfo := vap.vapInfo, triggerReconfigure := false, state := s }
  let secured := configSecurity build env ssidIndex vconf changed enabled
  have hkeyIds (index : Int)
      : secured.state.cachedKeyIds index
          = if SetsPassword vconf.toSecurityConf changed.toSecurityFlags ∧ index = ssidIndex then
              firstKeyId vconf.toSecurityConf
            else
              s.cachedKeyIds index := by
    rw [← hframe.cachedKeyIds]
    exact setSecurity_cachedKeyIds build.security ssidIndex vconf.toSecurityConf changed.toSecurityFlags
      env.pushMultiPskKeysOk (securityState enabled) index
  have hdeferred : secured.state.deferred = s.deferred := hframe.deferred
  have hflags := Frames.configFlags vconf changed secured
  split
  . next hnone =>
    rw [configSsidBroadcast_none_iff] at hnone
    dsimp only
    rw [hflags.deferred, hflags.cachedKeyIds]
    exact ⟨hkeyIds, fun _ => hdeferred, fun haccepts => absurd hnone haccepts⟩
  . next t hsome =>
    have haccepts := not_rejectsSsidBroadcast hsome
    have ⟨u, hrest, heq⟩ := Frames.configRest build env ssidIndex vconf changed vap radioIfname t
    have hframe := (hflags.trans (Frames.configSsidBroadcast build env ssidIndex vconf changed hsome)).trans
      hrest
    rw [heq, updateVifState_updateDeferred, (updateVifState_frame ..).1, hframe.deferred, hframe.cachedKeyIds]
    exact ⟨hkeyIds, fun hrejects => absurd hrejects haccepts, fun _ => congrArg _ hdeferred⟩

theorem targetVifConfigSet2_sta (build : ConfigBuild) {env : ConfigEnv η} {vconf : VifConf} {ssidIndex : Int}
    {vap : HalVap} {found : Int × HalVap} (hfound : findVap env.lookup vconf = some found)
    (hsta : found.2.vapMode = .sta) (hfind : findVap env.staLookup vconf = some (ssidIndex, vap))
    (changed : VifFlags) (radioIfname : CStr) (cconf : CredentialConf) (s : ConfigState η)
    : let t := (targetVifConfigSet2 build env vconf radioIfname cconf changed s).1
      t.cachedKeyIds = s.cachedKeyIds ∧ t.deferred = updateDeferred build ssidIndex s.deferred := by
  unfold targetVifConfigSet2 vifStaConfigSet2
  rw [hfound]
  dsimp only
  rw [if_pos hsta, hfind]
  dsimp only
  rw [updateVifState_updateDeferred, (updateVifState_frame ..).1, (Frames.createVap _ _ s).deferred,
    (Frames.createVap _ _ s).cachedKeyIds]
  exact ⟨rfl, rfl⟩

theorem targetVifConfigSet2_frame (build : ConfigBuild) (env : ConfigEnv η) (vconf : VifConf)
    (radioIfname : CStr) (cconf : CredentialConf) (changed : VifFlags) (s : ConfigState η)
    : let t := (targetVifConfigSet2 build env vconf radioIfname cconf changed s).1
      (∀ other, configuredIndex env vconf ≠ some other → t.cachedKeyIds other = s.cachedKeyIds other)
        ∧ (t.deferred = s.deferred
          ∨ ∃ ssidIndex, configuredIndex env vconf = some ssidIndex
            ∧ t.deferred = updateDeferred build ssidIndex s.deferred) := by
  dsimp only
  cases hfind : findVap env.lookup vconf with
  | none =>
    unfold targetVifConfigSet2
    rw [hfind]
    exact ⟨fun _ _ => rfl, Or.inl rfl⟩
  | some found =>
    rcases found with ⟨ssidIndex, vap⟩
    by_cases hsta : vap.vapMode = .sta
    . cases hfind' : findVap env.staLookup vconf with
      | none =>
        unfold targetVifConfigSet2 vifStaConfigSet2
        rw [hfind]
        dsimp only
        rw [if_pos hsta, hfind']
        exact ⟨fun _ _ => rfl, Or.inl rfl⟩
      | some found' =>
        have ⟨hkeyIds, hdeferred⟩ := targetVifConfigSet2_sta build hfind hsta hfind' changed radioIfname cconf s
        refine ⟨fun _ _ => by rw [hkeyIds], Or.inr ⟨found'.1, ?_, hdeferred⟩⟩
        simp [configuredIndex, hfind, hsta, hfind']
    . have hindex : configuredIndex env vconf = some ssidIndex := by simp [configuredIndex, hfind, hsta]
      have ⟨hkeyIds, hrejected, haccepted⟩ := targetVifConfigSet2_ap build hfind hsta changed radioIfname
        cconf s
      constructor
      . intro other hother
        rw [hkeyIds, if_neg]
        intro ⟨_, heq⟩
        exact hother (heq ▸ hindex)
      . by_cases hrejects : RejectsSsidBroadcast vconf changed
        . exact Or.inl (hrejected hrejects)
        . exact Or.inr ⟨ssidIndex, hindex, haccepted hrejects⟩

theorem DeferredInv.update {s : Deferred} (hinv : DeferredInv s) (ssidIndex : Int)
    : DeferredInv (s.update ssidIndex) where
  one := hinv.one
  mem_iff := hinv.mem_iff
  once := hinv.once
  pending := by
    intro other hrequested
    have hbefore : ssidIndex ≠ other ∧ Requested s.log other := (requested_concat_updated ..).mp hrequested
    exact hinv.pending other hbefore.2
  fresh := hinv.fresh
  init := hinv.init

theorem updateDeferred_inv (build : ConfigBuild) {s : Deferred} (hinv : DeferredInv s) (ssidIndex : Int)
    : DeferredInv (updateDeferred build ssidIndex s) := by
  unfold updateDeferred
  split
  . exact deferred_inv hinv ssidIndex
  . exact hinv.update ssidIndex

theorem vifStateUpdateDeferred_log (ssidIndex : Int) (s : Deferred)
    : (vifStateUpdateDeferred ssidIndex s).log = s.log ++ [.requested ssidIndex]
        ∨ (vifStateUpdateDeferred ssidIndex s).log
          = s.log ++ [.updated ssidIndex, .requested ssidIndex] := by
  have hinit : s.initQueue.log = s.log := by
    unfold Deferred.initQueue
    split <;> rfl
  unfold vifStateUpdateDeferred
  dsimp only
  rw [← hinit]
  cases hfind : s.initQueue.queue.find? (fun ptr => ssidIndex = ptr.ssidIndex) with
  | none => exact Or.inl rfl
  | some ptr =>
    have hindex : ssidIndex = ptr.ssidIndex := by simpa using List.find?_some hfind
    apply Or.inr
    rw [hindex]
    exact List.append_assoc ..

theorem updateDeferred_log (build : ConfigBuild) (ssidIndex : Int) (s : Deferred)
    : ∃ events, (updateDeferred build ssidIndex s).log = s.log ++ events
        ∧ (∀ event ∈ events, event.ssidIndex = ssidIndex)
        ∧ (.updated ssidIndex ∈ events ∨ Requested (s.log ++ events) ssidIndex) := by
  unfold updateDeferred
  split
  . rcases vifStateUpdateDeferred_log ssidIndex s with hlog | hlog
    . refine ⟨_, hlog, by simp [UpdateEvent.ssidIndex], Or.inr ?_⟩
      simp
    . exact ⟨_, hlog, by simp [UpdateEvent.ssidIndex], Or.inl (by simp)⟩
  . exact ⟨[.updated ssidIndex], rfl, by simp [UpdateEvent.ssidIndex], Or.inl (by simp)⟩

theorem requested_append_iff {events : List UpdateEvent} {ssidIndex : Int}
    (hother : ∀ event ∈ events, event.ssidIndex ≠ ssidIndex) (log : List UpdateEvent)
    : Requested (log ++ events) ssidIndex ↔ Requested log ssidIndex := by
  unfold Requested lastEvent
  rw [List.filter_append, (List.filter_eq_nil_iff (l := events)).mpr, List.append_nil]
  intro event hevent
  simpa using hother event hevent

theorem vifStateGet_cachedKeyIds (build : ApBuild) (hal : ApAnswers) {cachedKeyIds cachedKeyIds' : Int → CStr}
    {vap : ApVap} (hsame : cachedKeyIds vap.vapIndex = cachedKeyIds' vap.vapIndex)
    : vifStateGet build hal cachedKeyIds vap = vifStateGet build hal cachedKeyIds' vap := by
  unfold vifStateGet vifApStateGet getSecurity getPsks
  simp only [hsame]

def IsIndex (ssidIndex : Int) : Prop :=
  0 ≤ ssidIndex ∧ ssidIndex < 2 ^ 31

theorem IsIndex.unsignedInt {ssidIndex : Int} (hindex : IsIndex ssidIndex)
    : (unsignedInt ssidIndex : Int) = ssidIndex := by
  have ⟨hpos, hlt⟩ := hindex
  unfold OpenSyncRdk.unsignedInt
  omega

theorem vapIndex_of_ssidIndexToVapInfo {hal : LookupHal} {ssidIndex : Nat} {vap : HalVap}
    (hvap : ssidIndexToVapInfo hal ssidIndex = some vap)
    : vap.vapInfo.vapIndex = ssidIndex := by
  unfold ssidIndexToVapInfo at hvap
  split at hvap
  . contradiction
  . split at hvap
    . contradiction
    . simpa using List.find?_some hvap

theorem vifStateUpdate_cachedKeyIds (build : ApBuild) {cachedKeyIds cachedKeyIds' : Int → CStr}
    (report : VifReport η) {ssidIndex : Int} (hindex : IsIndex ssidIndex)
    (hsame : cachedKeyIds ssidIndex = cachedKeyIds' ssidIndex)
    : vifStateUpdate build cachedKeyIds report ssidIndex = vifStateUpdate build cachedKeyIds' report ssidIndex := by
  unfold vifStateUpdate
  cases hvap : ssidIndexToVapInfo report.env.lookup (unsignedInt ssidIndex) with
  | none => rfl
  | some vap =>
    have hof : vifStateOf build cachedKeyIds report vap = vifStateOf build cachedKeyIds' report vap := by
      unfold vifStateOf
      cases vap.vapMode with
      | ap =>
        dsimp only
        rw [vifStateGet_cachedKeyIds]
        dsimp only
        rw [vapIndex_of_ssidIndexToVapInfo hvap, hindex.unsignedInt, hsame]
      | sta => rfl
      | other val => rfl
    dsimp only
    rw [hof]

def VifReport.SameAt (build : ApBuild) (ssidIndex : Int) (before after : VifReport η) : Prop :=
  ∀ cachedKeyIds, vifStateUpdate build cachedKeyIds after ssidIndex
    = vifStateUpdate build cachedKeyIds before ssidIndex

def VifInput.Spares (build : ApBuild) (ssidIndex : Int) (s : VifSystem η) : VifInput η → Prop
  | .config vconf _ _ _ report =>
    configuredIndex s.report.env vconf ≠ some ssidIndex ∧ s.report.SameAt build ssidIndex report
  | .outside report _ => s.report.SameAt build ssidIndex report
  | .expire _ => True
  | .update _ => True

namespace VifSystem

/-- The row is the one that can be read, and is published if no timer is about to do that. -/
structure Follows (build : ApBuild) (ssidIndex : Int) (row : VifRow × CStr) (s : VifSystem η) : Prop where
  inv : DeferredInv s.state.deferred
  read : s.read build ssidIndex = some row
  due : s.published ssidIndex = some row ∨ Requested s.state.deferred.log ssidIndex

theorem publish_frame (build : ApBuild) (s : VifSystem η) (event : UpdateEvent)
    : (s.publish build event).report = s.report ∧ (s.publish build event).state = s.state := by
  cases event with
  | requested ssidIndex => exact ⟨rfl, rfl⟩
  | updated ssidIndex =>
    unfold publish
    dsimp only
    split <;> exact ⟨rfl, rfl⟩

theorem publish_published (build : ApBuild) {s : VifSystem η} {ssidIndex : Int} {row : VifRow × CStr}
    (hread : s.read build ssidIndex = some row) (event : UpdateEvent)
    : (s.publish build event).published ssidIndex
        = if event = .updated ssidIndex then some row else s.published ssidIndex := by
  cases event with
  | requested other => rfl
  | updated other =>
    unfold publish
    dsimp only
    by_cases heq : other = ssidIndex
    . rw [heq, hread]
      simp
    . have hne : ssidIndex ≠ other := fun h => heq h.symm
      split <;> simp [heq, hne]

theorem foldl_publish_frame (build : ApBuild) (events : List UpdateEvent) (s : VifSystem η)
    : (events.foldl (publish build) s).report = s.report ∧ (events.foldl (publish build) s).state = s.state := by
  induction events generalizing s with
  | nil => exact ⟨rfl, rfl⟩
  | cons event events ih =>
    have ⟨hreport, hstate⟩ := publish_frame build s event
    have ⟨hreport', hstate'⟩ := ih (s.publish build event)
    exact ⟨hreport'.trans hreport, hstate'.trans hstate⟩

theorem read_congr {build : ApBuild} {s t : VifSystem η} (hreport : t.report = s.report)
    (hstate : t.state = s.state) (ssidIndex : Int)
    : t.read build ssidIndex = s.read build ssidIndex := by
  unfold read
  rw [hreport, hstate]

theorem foldl_publish_published (build : ApBuild) {ssidIndex : Int} {row : VifRow × CStr}
    (events : List UpdateEvent) {s : VifSystem η} (hread : s.read build ssidIndex = some row)
    : (events.foldl (publish build) s).published ssidIndex
        = if .updated ssidIndex ∈ events then some row else s.published ssidIndex := by
  induction events generalizing s with
  | nil => rfl
  | cons event events ih =>
    have ⟨hreport, hstate⟩ := publish_frame build s event
    rw [List.foldl_cons, ih ((read_congr hreport hstate ssidIndex).trans hread),
      publish_published build hread]
    by_cases hmem : .updated ssidIndex ∈ events
    . simp [hmem]
    . simp only [hmem, ↓reduceIte, List.mem_cons, or_false, eq_comm]

theorem publishSince_follows (build : ApBuild) (before : Deferred) {s : VifSystem η} {ssidIndex : Int}
    {row : VifRow × CStr} (events : List UpdateEvent) (hinv : DeferredInv s.state.deferred)
    (hlog : s.state.deferred.log = before.log ++ events) (hread : s.read build ssidIndex = some row)
    (hdue : s.published ssidIndex = some row ∨ .updated ssidIndex ∈ events
      ∨ Requested (before.log ++ events) ssidIndex)
    : (s.publishSince build before).Follows build ssidIndex row := by
  have ⟨hreport, hstate⟩ := foldl_publish_frame build events s
  have heq : s.publishSince build before = events.foldl (publish build) s := by
    unfold publishSince
    rw [hlog, List.drop_left]
  rw [heq]
  constructor
  case inv =>
    rw [hstate]
    exact hinv
  case read => exact (read_congr hreport hstate ssidIndex).trans hread
  case due =>
    rw [foldl_publish_published build events hread, hstate, hlog]
    split
    . exact Or.inl rfl
    . next hnone =>
      rcases hdue with hdue | hdue | hdue
      . exact Or.inl hdue
      . exact absurd hdue hnone
      . exact Or.inr hdue

theorem Follows.frame {build : ApBuild} {s t : VifSystem η} {ssidIndex : Int} {row : VifRow × CStr}
    (hs : s.Follows build ssidIndex row) (hdeferred : t.state.deferred = s.state.deferred)
    (hread : t.read build ssidIndex = s.read build ssidIndex)
    (hpublished : t.published ssidIndex = s.published ssidIndex)
    : t.Follows build ssidIndex row where
  inv := hdeferred ▸ hs.inv
  read := hread.trans hs.read
  due := by
    rw [hdeferred, hpublished]
    exact hs.due

theorem step_follows (build : ApBuild) {s t : VifSystem η} {ssidIndex : Int} (hindex : IsIndex ssidIndex)
    {row : VifRow × CStr} {input : VifInput η} (hs : s.Follows build ssidIndex row)
    (hspares : input.Spares build ssidIndex s) (hstep : s.step build input = some t)
    : t.Follows build ssidIndex row := by
  cases input with
  | config vconf radioIfname cconf changed report =>
    have ⟨hother, hsame⟩ := hspares
    injection hstep with hstep
    have ⟨hkeyIds, hdeferred⟩ := targetVifConfigSet2_frame build.toConfigBuild s.report.env vconf radioIfname
      cconf changed s.state
    generalize (targetVifConfigSet2 build.toConfigBuild s.report.env vconf radioIfname cconf changed
      s.state).1 = state at hstep hkeyIds hdeferred
    have hread : read build { s with report, state } ssidIndex = some row := by
      rw [← hs.read]
      unfold read
      rw [hsame]
      exact vifStateUpdate_cachedKeyIds build s.report hindex (hkeyIds ssidIndex hother)
    rw [← hstep]
    rcases hdeferred with hdeferred | ⟨other, hconfigured, hdeferred⟩
    . apply publishSince_follows build s.state.deferred [] _ _ hread
      . rw [List.append_nil]
        rcases hs.due with hdue | hdue
        . exact Or.inl hdue
        . exact Or.inr (Or.inr hdue)
      . exact hdeferred ▸ hs.inv
      . rw [List.append_nil]
        exact congrArg Deferred.log hdeferred
    . have ⟨events, hlog, hevents, _⟩ := updateDeferred_log build.toConfigBuild other s.state.deferred
      have hne : ∀ event ∈ events, event.ssidIndex ≠ ssidIndex := by
        intro event hevent heq
        rw [hevents event hevent] at heq
        exact hother (heq ▸ hconfigured)
      apply publishSince_follows build s.state.deferred events _ _ hread
      . rw [requested_append_iff hne]
        rcases hs.due with hdue | hdue
        . exact Or.inl hdue
        . exact Or.inr (Or.inr hdue)
      . exact hdeferred ▸ updateDeferred_inv build.toConfigBuild hs.inv other
      . exact (congrArg Deferred.log hdeferred).trans hlog
  | outside report hal =>
    injection hstep with hstep
    rw [← hstep]
    exact hs.frame rfl (hspares s.state.cachedKeyIds) rfl
  | expire entry =>
    have ⟨deferred, hexpire, hstep⟩ := Option.map_eq_some_iff.mp hstep
    have hinv := deferredStep_inv s.state.deferred deferred (.expire entry) hs.inv hexpire
    have hlog : deferred.log = s.state.deferred.log ++ [.updated entry.ssidIndex] := by
      unfold deferredStep at hexpire
      dsimp only at hexpire
      split at hexpire
      . injection hexpire with hexpire
        rw [← hexpire]
        exact (expiresAlone hs.inv entry).updates
      . contradiction
    have hread : read build { s with state := { s.state with deferred } } ssidIndex = some row := hs.read
    rw [← hstep]
    apply publishSince_follows build s.state.deferred [.updated entry.ssidIndex] hinv hlog hread
    rw [requested_concat_updated, List.mem_singleton]
    by_cases heq : entry.ssidIndex = ssidIndex
    . exact Or.inr (Or.inl (by rw [heq]))
    . rcases hs.due with hdue | hdue
      . exact Or.inl hdue
      . exact Or.inr (Or.inr ⟨heq, hdue⟩)
  | update other =>
    injection hstep with hstep
    have ⟨hreport, hstate⟩ := publish_frame build s (.updated other)
    rw [← hstep]
    constructor
    case inv =>
      rw [hstate]
      exact hs.inv
    case read => exact (read_congr hreport hstate ssidIndex).trans hs.read
    case due =>
      rw [publish_published build hs.read, hstate]
      split
      . exact Or.inl rfl
      . exact hs.due

theorem run_follows (build : ApBuild) {s t : VifSystem η} {ssidIndex : Int} (hindex : IsIndex ssidIndex)
    {row : VifRow × CStr} {inputs : List (VifInput η)} (hs : s.Follows build ssidIndex row)
    (hspares : Machine.AllSteps (step build) (VifInput.Spares build ssidIndex) s inputs)
    (hrun : Machine.run (step build) s inputs = some t)
    : t.Follows build ssidIndex row := by
  refine Machine.run_of_allSteps ?_ hs hspares hrun
  intro s input t hs hspares hstep
  exact step_follows build hindex hs hspares hstep

/-- The row is published, or a timer runs that publishes it when it expires. -/
def Publishes (build : ApBuild) (ssidIndex : Int) (row : VifRow × CStr) (s : VifSystem η) : Prop :=
  s.published ssidIndex = some row
    ∨ ∃ entry t,
        entry.ssidIndex = ssidIndex
          ∧ s.step build (.expire entry) = some t
          ∧ t.published ssidIndex = some row

theorem Follows.publishes {build : ApBuild} {s : VifSystem η} {ssidIndex : Int} {row : VifRow × CStr}
    (hs : s.Follows build ssidIndex row)
    : s.Publishes build ssidIndex row := by
  rcases hs.due with hdue | hdue
  . exact Or.inl hdue
  . apply Or.inr
    have ⟨entry, hentry, hsame⟩ := hs.inv.pending ssidIndex hdue
    let deferred := vifStateUpdateTask entry (s.state.deferred.stop entry)
    have hexpire : deferredStep s.state.deferred (.expire entry) = some deferred := if_pos hentry
    have hlog : deferred.log = s.state.deferred.log ++ [.updated entry.ssidIndex] :=
      (expiresAlone hs.inv entry).updates
    let expired : VifSystem η := { s with state := { s.state with deferred } }
    have hread : expired.read build ssidIndex = some row := hs.read
    refine ⟨entry, expired.publishSince build s.state.deferred, hsame, ?_, ?_⟩
    . unfold step
      dsimp only
      rw [hexpire]
      rfl
    . have hevents : (expired.state.deferred.log).drop s.state.deferred.log.length
          = [.updated entry.ssidIndex] := by
        rw [show expired.state.deferred.log = _ from hlog, List.drop_left]
      unfold publishSince
      rw [hevents, foldl_publish_published build _ hread, hsame]
      simp

theorem publishSince_deferred (build : ApBuild) (before : Deferred) (s : VifSystem η)
    : (s.publishSince build before).state.deferred = s.state.deferred := by
  unfold publishSince
  rw [(foldl_publish_frame ..).2]

theorem run_inv (build : ApBuild) {s t : VifSystem η} {inputs : List (VifInput η)}
    (hs : DeferredInv s.state.deferred) (hrun : Machine.run (step build) s inputs = some t)
    : DeferredInv t.state.deferred := by
  refine Machine.run_invariant (P := fun s => DeferredInv s.state.deferred) ?_ hs hrun
  intro s t input _ hs hstep
  cases input with
  | config vconf radioIfname cconf changed report =>
    have ⟨_, hdeferred⟩ := targetVifConfigSet2_frame build.toConfigBuild s.report.env vconf radioIfname cconf
      changed s.state
    injection hstep with hstep
    rw [← hstep, publishSince_deferred]
    rcases hdeferred with hdeferred | ⟨ssidIndex, _, hdeferred⟩
    . exact hdeferred ▸ hs
    . exact hdeferred ▸ updateDeferred_inv build.toConfigBuild hs ssidIndex
  | outside report hal =>
    injection hstep with hstep
    rw [← hstep]
    exact hs
  | expire entry =>
    have ⟨deferred, hexpire, hstep⟩ := Option.map_eq_some_iff.mp hstep
    rw [← hstep, publishSince_deferred]
    exact deferredStep_inv s.state.deferred deferred (.expire entry) hs hexpire
  | update ssidIndex =>
    injection hstep with hstep
    rw [← hstep, (publish_frame ..).2]
    exact hs

end VifSystem

end

end Vif
end OpenSyncRdk
