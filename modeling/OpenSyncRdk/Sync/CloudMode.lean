import OpenSyncRdk.Sync.Dispatch

/-!
The cloud mode of the CM, and what it is known for: the device mode in `AWLAN_Node`, and the status that the
Mesh-Agent gets.
-/

namespace OpenSyncRdk
namespace Sync

def AwlanUpdate.deviceMode? : AwlanUpdate → Option DeviceMode
  | .deviceMode mode => some mode
  | .redirectorAddr _ => none

namespace Manager

def deviceMode (m : Manager) : Option DeviceMode :=
  (m.awlan.filterMap AwlanUpdate.deviceMode?).getLast?

def Follows (m : Manager) : Prop :=
  m.cloudMode = .unknown ∨ m.deviceMode = some m.cloudMode.deviceMode

def request (W : Wire) (m : Manager) : Input → Option CloudMode
  | .socket event hal taken =>
    if m.client.evio.isSome ∧ m.client.mgr = .cm then
      (event.message W.toMeshSync).bind (fun bytes => Delivery.mode { msg := W.decode bytes, hal, taken })
    else
      none
  | _ => none

def readOnConnect (m : Manager) : Input → Option CloudMode
  | .timer (.connected _) meshState _ =>
    if m.client.timer ∧ m.client.onConnectCb then meshState.map meshStateMode else none
  | _ => none

def registered (build : Build) : Input → Option DeviceMode
  | .deviceConfigRegister meshState _ =>
    if build.extender then some .cloud else meshState.map (fun buf => (meshStateMode buf).deviceMode)
  | _ => none

structure KeepsUp (build : Build) (W : Wire) (m : Manager) (input : Input) : Prop where
  request
    : ∀ mode, m.request W input = some mode
      → mode = m.cloudMode ∨ m.awlanCb ∨ m.deviceMode = some mode.deviceMode
  readOnConnect
    : ∀ mode, m.readOnConnect input = some mode → m.deviceMode = some mode.deviceMode
  registered
    : ∀ mode, registered build input = some mode
      → m.cloudMode = .unknown ∨ mode = m.cloudMode.deviceMode

theorem deviceMode_callAwlan (mode : DeviceMode) (m : Manager)
    : (m.callAwlan (.deviceMode mode)).deviceMode = if m.awlanCb then some mode else m.deviceMode := by
  unfold callAwlan
  split
  . simp [deviceMode, List.filterMap_append, AwlanUpdate.deviceMode?]
  . rfl

theorem deviceMode_callAwlan_redirectorAddr (addr : CStr) (m : Manager)
    : (m.callAwlan (.redirectorAddr addr)).deviceMode = m.deviceMode := by
  unfold callAwlan
  split
  . simp [deviceMode, List.filterMap_append, AwlanUpdate.deviceMode?]
  . rfl

theorem deviceMode_of_meshStateMode (buf : CStr)
    : (if meshStateMode buf = .full then DeviceMode.cloud else .monitor) = (meshStateMode buf).deviceMode := by
  cases meshStateMode buf <;> rfl

theorem deviceMode_of_change {m t : Manager} {mode : CloudMode}
    (hawlan : t.awlan
        =
      m.awlan ++
        if m.awlanCb then
          (modeChanges m.cloudMode [mode]).map (fun mode => .deviceMode mode.deviceMode)
        else
          [])
    : t.deviceMode
        =
      if mode ≠ m.cloudMode ∧ m.awlanCb then some mode.deviceMode else m.deviceMode := by
  rw [modeChanges_cons] at hawlan
  unfold deviceMode
  rw [hawlan]
  by_cases hmode : m.cloudMode = mode
  . simp [hmode]
  . have hmode' : mode ≠ m.cloudMode := fun heq => hmode heq.symm
    cases m.awlanCb with
    | false => simp
    | true => simp [hmode, hmode', AwlanUpdate.deviceMode?]

theorem callAwlan_cloudMode (update : AwlanUpdate) (m : Manager)
    : (m.callAwlan update).cloudMode = m.cloudMode := by
  unfold callAwlan
  split <;> rfl

structure Moves (build : Build) (W : Wire) (input : Input) (m t : Manager) : Prop where
  cloudMode
    : t.cloudMode = ((m.request W input).or (m.readOnConnect input)).getD m.cloudMode
  request
    : ∀ mode, m.request W input = some mode
      → t.deviceMode = if mode ≠ m.cloudMode ∧ m.awlanCb then some mode.deviceMode else m.deviceMode
  others
    : m.request W input = none → t.deviceMode = (registered build input).or m.deviceMode

theorem Moves.of_same {build : Build} {W : Wire} {input : Input} {m t : Manager}
    (hcloud : t.cloudMode = m.cloudMode) (hawlan : t.awlan = m.awlan)
    (hrequest : m.request W input = none) (hread : m.readOnConnect input = none)
    (hregistered : registered build input = none)
    : Moves build W input m t where
  cloudMode := by rw [hrequest, hread, hcloud]; rfl
  request := by simp [hrequest]
  others := fun _ => by rw [hregistered, deviceMode, hawlan]; rfl

theorem targetInit_moves (build : Build) (W : Wire) (opt : InitOpt) (halCapability : Bool) (m : Manager)
    : Moves build W (.targetInit opt halCapability) m (m.targetInit build opt halCapability) := by
  have hsame : (m.targetInit build opt halCapability).cloudMode = m.cloudMode
      ∧ (m.targetInit build opt halCapability).awlan = m.awlan := by
    unfold targetInit
    split
    . exact ⟨rfl, rfl⟩
    . split
      . split <;> exact ⟨rfl, rfl⟩
      . split <;> exact ⟨rfl, rfl⟩
      . exact ⟨rfl, rfl⟩
  exact Moves.of_same hsame.1 hsame.2 rfl rfl rfl

theorem targetClose_moves (build : Build) (W : Wire) (opt : InitOpt) (m : Manager)
    : Moves build W (.targetClose opt) m (m.targetClose build opt) := by
  have hsame : (m.targetClose build opt).cloudMode = m.cloudMode
      ∧ (m.targetClose build opt).awlan = m.awlan := by
    unfold targetClose
    split
    . split <;> exact ⟨rfl, rfl⟩
    . exact ⟨rfl, rfl⟩
  exact Moves.of_same hsame.1 hsame.2 rfl rfl rfl

theorem deviceConfigRegister_moves (build : Build) (W : Wire) (meshState meshUrl : Option CStr)
    (m : Manager)
    : Moves build W (.deviceConfigRegister meshState meshUrl) m
        (m.targetDeviceConfigRegister build meshState meshUrl) where
  cloudMode := by
    unfold targetDeviceConfigRegister updateRedirectorAddr
    dsimp only
    rw [callAwlan_cloudMode]
    split
    . apply callAwlan_cloudMode
    . split
      . rfl
      . apply callAwlan_cloudMode
  request := by simp [request]
  others := by
    intro _
    unfold targetDeviceConfigRegister updateRedirectorAddr registered
    dsimp only
    rw [deviceMode_callAwlan_redirectorAddr]
    split
    . rw [cloudConfigSetMode, deviceMode_callAwlan]
      simp
    . cases meshState with
      | none => rfl
      | some buf =>
        dsimp only
        rw [cloudConfigSetMode, deviceMode_callAwlan, if_pos rfl, deviceMode_of_meshStateMode]
        rfl

theorem timer_moves {build : Build} {W : Wire} {attempt : Attempt} {meshState : Option CStr}
    {taken : Nat} {m t : Manager}
    (ht : step build W m (.timer attempt meshState taken) = some t)
    : Moves build W (.timer attempt meshState taken) m t := by
  unfold step at ht
  dsimp only at ht
  split at ht
  . next htimer =>
    unfold syncTaskConnect at ht
    split at ht
    . contradiction
    . next client hclient =>
      have hcb := (Client.taskConnect_sameInit hclient).onConnectCb
      cases attempt with
      | noSocket =>
        injection ht with ht
        rw [← ht]
        exact Moves.of_same rfl rfl rfl rfl rfl
      | refused fd =>
        injection ht with ht
        rw [← ht]
        exact Moves.of_same rfl rfl rfl rfl rfl
      | connected fd =>
        injection ht with ht
        rw [← ht]
        split
        . next hcall =>
          rw [hcb] at hcall
          cases meshState with
          | none =>
            have hread : m.readOnConnect (.timer (.connected fd) none taken) = none := by
              simp [readOnConnect]
            exact Moves.of_same rfl rfl rfl hread rfl
          | some buf =>
            have hset := radioCloudModeSet_sameWork build W (meshStateMode buf) taken
              { m with client := client, sent := [] }
            exact
              { cloudMode := by
                  rw [cloudConfigModeInit, hset.cloudMode]
                  simp [request, readOnConnect, htimer, hcall]
                request := by simp [request]
                others := by
                  intro _
                  rw [cloudConfigModeInit, deviceMode, hset.awlan]
                  rfl
              }
        . next hcall =>
          rw [hcb] at hcall
          have hread : m.readOnConnect (.timer (.connected fd) meshState taken) = none := by
            simp [readOnConnect, hcall]
          exact Moves.of_same rfl rfl rfl hread rfl
  . next htimer =>
    injection ht with ht
    rw [← ht]
    have hread : m.readOnConnect (.timer attempt meshState taken) = none := by
      cases attempt <;> simp [readOnConnect, htimer]
    exact Moves.of_same rfl rfl rfl hread rfl

theorem socket_moves (build : Build) (W : Wire) (event : Event) (hal : Hal) (taken : Nat) {m : Manager}
    (hevio : m.client.evio.isSome)
    : Moves build W (.socket event hal taken) m (m.syncEvioCb build W event hal taken) := by
  have hmgr := (Client.evioCb_sameInit W.toMeshSync event m.client).mgr
  cases hmessage : event.message W.toMeshSync with
  | none =>
    have hrequest : m.request W (.socket event hal taken) = none := by
      simp [request, hmessage]
    have hnone : m.syncEvioCb build W event hal taken
        = { m with client := m.client.evioCb W.toMeshSync event } := by
      unfold syncEvioCb
      rw [hmessage]
    rw [hnone]
    exact Moves.of_same rfl rfl hrequest rfl rfl
  | some bytes =>
    have hsome : m.syncEvioCb build W event hal taken
        = receive build W { m with client := m.client.evioCb W.toMeshSync event }
            { msg := W.decode bytes, hal, taken } := by
      unfold syncEvioCb
      rw [hmessage]
      rfl
    have hhandled := receive_handled build W { m with client := m.client.evioCb W.toMeshSync event }
      { msg := W.decode bytes, hal, taken }
    rw [hsome]
    by_cases hcm : m.client.mgr = .cm
    . have hrequest : m.request W (.socket event hal taken)
          = Delivery.mode { msg := W.decode bytes, hal, taken } := by
        simp [request, hmessage, hevio, hcm]
      have hcloud := hhandled.cloudMode
      have hawlan := hhandled.awlan
      simp only [hmgr, hcm, ↓reduceIte, true_and] at hcloud hawlan
      constructor
      case cloudMode =>
        rw [hrequest, hcloud]
        cases hmode : Delivery.mode { msg := W.decode bytes, hal, taken } <;> simp [hmode, readOnConnect]
      case request =>
        intro mode hmode
        rw [hrequest] at hmode
        simp only [List.filterMap_cons, hmode, List.filterMap_nil] at hawlan
        exact deviceMode_of_change (m := m) hawlan
      case others =>
        intro hnone
        rw [hrequest] at hnone
        simp only [List.filterMap_cons, hnone, List.filterMap_nil, modeChanges_nil, List.map_nil,
          ite_self, List.append_nil] at hawlan
        rw [deviceMode, hawlan]
        rfl
    . have hrequest : m.request W (.socket event hal taken) = none := by
        simp [request, hcm]
      have hcloud := hhandled.cloudMode
      have hawlan := hhandled.awlan
      simp only [hmgr, hcm, ↓reduceIte, false_and, List.append_nil] at hcloud hawlan
      exact Moves.of_same hcloud hawlan hrequest rfl rfl

theorem step_moves {build : Build} {W : Wire} {m t : Manager} {input : Input}
    (ht : step build W m input = some t)
    : Moves build W input m t := by
  cases input with
  | targetInit opt halCapability =>
    injection ht with ht
    exact ht ▸ targetInit_moves build W opt halCapability m
  | targetClose opt =>
    injection ht with ht
    exact ht ▸ targetClose_moves build W opt m
  | deviceConfigRegister meshState meshUrl =>
    injection ht with ht
    exact ht ▸ deviceConfigRegister_moves build W meshState meshUrl m
  | timer attempt meshState taken => exact timer_moves ht
  | socket event hal taken =>
    unfold step at ht
    dsimp only at ht
    split at ht
    . next hevio =>
      injection ht with ht
      exact ht ▸ socket_moves build W event hal taken hevio
    . next hevio =>
      injection ht with ht
      have hrequest : m.request W (.socket event hal taken) = none := by
        simp [request, hevio]
      exact ht ▸ Moves.of_same rfl rfl hrequest rfl rfl
  | send msg taken =>
    injection ht with ht
    have ⟨sent, hsent⟩ := syncSendChange_eq W msg taken m
    have hsame := syncSend_sameWork W (.change sent) taken m
    rw [hsent] at ht
    exact ht ▸ Moves.of_same hsame.cloudMode hsame.awlan rfl rfl rfl

theorem request_ne_unknown {W : Wire} {m : Manager} {input : Input} {mode : CloudMode}
    (hrequest : m.request W input = some mode)
    : mode ≠ .unknown ∧ m.readOnConnect input = none ∧ ∀ build, registered build input = none := by
  have hmode : ∀ d : Delivery, d.mode = some mode → mode ≠ .unknown := by
    intro d hd
    unfold Delivery.mode at hd
    split at hd
    . injection hd with hd
      rw [← hd]
      cases d.msg.meshStateFull <;> decide
    . contradiction
  cases input with
  | socket event hal taken =>
    unfold request at hrequest
    dsimp only at hrequest
    split at hrequest
    . rw [Option.bind_eq_some_iff] at hrequest
      rcases hrequest with ⟨bytes, _, hd⟩
      exact ⟨hmode _ hd, rfl, fun _ => rfl⟩
    . contradiction
  | _ => simp [request] at hrequest

theorem readOnConnect_ne_unknown {m : Manager} {input : Input} {mode : CloudMode}
    (hread : m.readOnConnect input = some mode)
    : mode ≠ .unknown ∧ ∀ build, registered build input = none := by
  cases input with
  | timer attempt meshState taken =>
    refine ⟨?_, fun _ => rfl⟩
    unfold readOnConnect at hread
    split at hread
    . split at hread
      . rw [Option.map_eq_some_iff] at hread
        rcases hread with ⟨buf, _, hbuf⟩
        rw [← hbuf]
        unfold meshStateMode
        split <;> decide
      . contradiction
    . contradiction
  | _ => simp [readOnConnect] at hread

theorem step_follows_iff {build : Build} {W : Wire} {m t : Manager} {input : Input} (hm : m.Follows)
    (ht : step build W m input = some t)
    : t.Follows ↔ KeepsUp build W m input := by
  have hmoves := step_moves ht
  have hcloud := hmoves.cloudMode
  have hiff : KeepsUp build W m input
      ↔ (∀ mode, m.request W input = some mode
          → mode = m.cloudMode ∨ m.awlanCb ∨ m.deviceMode = some mode.deviceMode)
        ∧ (∀ mode, m.readOnConnect input = some mode → m.deviceMode = some mode.deviceMode)
        ∧ ∀ mode, registered build input = some mode
          → m.cloudMode = .unknown ∨ mode = m.cloudMode.deviceMode :=
    ⟨fun h => ⟨h.request, h.readOnConnect, h.registered⟩, fun ⟨h₁, h₂, h₃⟩ => ⟨h₁, h₂, h₃⟩⟩
  rw [hiff]
  unfold Follows at hm ⊢
  cases hrequest : m.request W input with
  | some mode =>
    have hone := request_ne_unknown hrequest
    have hdevice := hmoves.request mode hrequest
    rw [hrequest, Option.some_or, Option.getD_some] at hcloud
    rw [hcloud, hdevice, hone.2.1, hone.2.2 build]
    by_cases hmode : mode = m.cloudMode
    . have hkeep := hm.resolve_left (hmode ▸ hone.1)
      simp [hmode, hkeep]
    . cases m.awlanCb <;> simp [hmode, hone.1]
  | none =>
    have hdevice := hmoves.others hrequest
    rw [hrequest, Option.none_or] at hcloud
    cases hread : m.readOnConnect input with
    | some mode =>
      have hone := readOnConnect_ne_unknown hread
      rw [hread, Option.getD_some] at hcloud
      rw [hone.2 build, Option.none_or] at hdevice
      rw [hcloud, hdevice, hone.2 build]
      simp [hone.1]
    | none =>
      rw [hread, Option.getD_none] at hcloud
      rw [hcloud, hdevice]
      cases hregistered : registered build input with
      | none => simp [hm]
      | some mode => simp

/--
The device mode is the one of the cloud mode throughout a run if and only if every step keeps up. What a
connection reads is taken for the cloud mode without a look at the device mode.
-/
theorem device_mode_follows_iff (build : Build) (W : Wire) (inputs : List Input)
    : Machine.Everywhere (step build W) Follows start inputs
        ↔
      Machine.AllSteps (step build W) (KeepsUp build W) start inputs := by
  have ⟨t, hrun, _⟩ :=
    Machine.run_total (fun m input (_ : input ∈ inputs) hs => step_sound build W hs input)
      (start_sound build)
  apply Machine.everywhere_iff_allSteps (I := Follows)
  . intro m input t hm ht
    exact step_follows_iff hm ht
  . intro m input t hm ht hkeeps
    exact (step_follows_iff hm ht).mpr hkeeps
  . exact Or.inl rfl
  . exact Or.inl rfl
  . exact hrun

-- The connection breaks, and the mesh state is another one when there is a connection again.
example (build : Build) (W : Wire) (hsync : build.disableSync = false) (hext : build.extender = false)
    : (Machine.run (step build W) start
        [
          .targetInit .cm true,
          .deviceConfigRegister (some (cstr "Monitor")) none,
          .timer (.connected 7) (some (cstr "Monitor")) 1,
          .socket .error { getApName := fun _ => none, getRadioIfName := fun _ => false } 0,
          .timer (.connected 8) (some (cstr "Full")) 1
        ]).map (fun t => (t.cloudMode, t.deviceMode))
        =
      some (.full, some .monitor) := by
  cases build
  simp only at hsync hext
  subst hsync hext
  rfl

end Manager
end Sync
end OpenSyncRdk
