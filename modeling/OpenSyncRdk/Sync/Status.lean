import OpenSyncRdk.Sync.CloudMode

/-!
The status that the Mesh-Agent gets from the CM over one connection.
-/

namespace OpenSyncRdk
namespace Sync

def OutMsg.status? : OutMsg → Option Bool
  | .status full => some full
  | .change _ => none

namespace Manager

def status (m : Manager) : Option Bool :=
  (m.sent.filterMap OutMsg.status?).getLast?

def Informs (m : Manager) : Prop :=
  m.client.fd.isSome → m.cloudMode = .unknown ∨ m.status = some (decide (m.cloudMode = .full))

def Input.taken : Input → Nat
  | .timer _ _ taken => taken
  | .socket _ _ taken => taken
  | .send _ taken => taken
  | _ => 0

def connects (m : Manager) : Input → Bool
  | .timer (.connected _) _ _ => m.client.timer
  | _ => false

structure Reports (W : Wire) (m : Manager) (input : Input) : Prop where
  request : ∀ mode, m.request W input = some mode → mode = m.cloudMode ∨ input.taken ≠ 0
  connects
    : m.connects input → m.cloudMode = .unknown ∧ m.readOnConnect input = none
        ∨ (m.readOnConnect input).isSome ∧ input.taken ≠ 0

theorem syncSend_change (W : Wire) (msg : ChangeMsg) (taken : Nat) (m : Manager)
    : (m.syncSend W (.change msg) taken).1.status = m.status
        ∧ (m.syncSend W (.change msg) taken).1.client.fd = m.client.fd := by
  unfold syncSend
  split
  . exact ⟨rfl, rfl⟩
  . refine ⟨?_, (Client.sendMsg_frame m.client.toState _ taken).1⟩
    unfold syncSendMsg status
    dsimp only
    split
    . simp [List.filterMap_append, OutMsg.status?]
    . rfl

theorem radioCloudModeSet_status (build : Build) (W : Wire) {mode : CloudMode} (taken : Nat)
    {m : Manager} (hsync : ¬build.disableSync) (hinit : m.client.initialized) (hfd : m.client.fd.isSome)
    (hmode : mode ≠ .unknown)
    : (m.radioCloudModeSet build W mode taken).1.status
          =
        (if taken = 0 then m.status else some (decide (mode = .full)))
      ∧ (m.radioCloudModeSet build W mode taken).1.client.fd = m.client.fd := by
  have ⟨fd, hfd'⟩ := Option.isSome_iff_exists.mp hfd
  have hsend : ∀ full, (syncSend W (.status full) taken { m with cloudMode := mode }).1.status
        = (if taken = 0 then m.status else some full)
      ∧ (syncSend W (.status full) taken { m with cloudMode := mode }).1.client.fd = m.client.fd := by
    intro full
    unfold syncSend
    simp only [hinit, not_true_eq_false, ↓reduceIte]
    refine ⟨?_, (Client.sendMsg_frame m.client.toState _ taken).1⟩
    unfold syncSendMsg Client.sendMsg Sync.sendMsg status
    simp only [hfd']
    by_cases htaken : taken = 0
    . simp [htaken]
    . simp [htaken, List.filterMap_append, OutMsg.status?]
  unfold radioCloudModeSet
  rw [if_neg hsync]
  cases mode with
  | unknown => contradiction
  | monitor => simpa [syncSendStatus] using hsend false
  | full => simpa [syncSendStatus] using hsend true

structure Informed (build : Build) (m : Manager) : Prop where
  sound : m.Sound build
  informs : m.Informs
  unknown : m.cloudMode = .unknown → m.status = none

structure Quiet (m t : Manager) : Prop where
  status : t.status = m.status
  cloudMode : t.cloudMode = m.cloudMode
  fd : t.client.fd.isSome → m.client.fd.isSome

structure Tells (W : Wire) (m : Manager) (input : Input) (t : Manager) : Prop where
  informs : t.Informs ↔ Reports W m input
  unknown : t.cloudMode = .unknown → t.status = none

theorem Quiet.tells {build : Build} {W : Wire} {m t : Manager} {input : Input} (hm : m.Informed build)
    (hquiet : Quiet m t) (hreports : Reports W m input)
    : Tells W m input t where
  informs := by
    refine iff_of_true ?_ hreports
    intro hfd
    rw [hquiet.status, hquiet.cloudMode]
    exact hm.informs (hquiet.fd hfd)
  unknown := by
    rw [hquiet.status, hquiet.cloudMode]
    exact hm.unknown

theorem Reports.of_none {W : Wire} {m : Manager} {input : Input} (hrequest : m.request W input = none)
    (hconnects : m.connects input = false)
    : Reports W m input where
  request := by simp [hrequest]
  connects := by simp [hconnects]

theorem reconnect_fd (c : Client)
    : c.reconnect.fd = none := by
  unfold Client.reconnect
  apply Client.disconnect_fd

theorem targetInit_quiet (build : Build) (opt : InitOpt) (halCapability : Bool) (m : Manager)
    : Quiet m (m.targetInit build opt halCapability) := by
  have hinit : ∀ mgr cb, Quiet m { m with client := m.client.init mgr cb } := by
    intro mgr cb
    refine ⟨rfl, rfl, ?_⟩
    unfold Client.init
    split
    . exact id
    . simp [reconnect_fd]
  have hsame : Quiet m m := ⟨rfl, rfl, id⟩
  unfold targetInit
  split
  . exact hsame
  . split
    . split
      . exact hsame
      . apply hinit
    . split
      . exact hsame
      . apply hinit
    . exact hsame

theorem targetClose_quiet (build : Build) (opt : InitOpt) (m : Manager)
    : Quiet m (m.targetClose build opt) := by
  have hsame : Quiet m m := ⟨rfl, rfl, id⟩
  unfold targetClose
  split
  . split
    . exact hsame
    . refine ⟨rfl, rfl, ?_⟩
      unfold Client.cleanup
      split
      . exact id
      . simp [Client.disconnect_fd]
  . exact hsame

theorem callAwlan_quiet (update : AwlanUpdate) (m : Manager)
    : Quiet m (m.callAwlan update) := by
  unfold callAwlan
  split <;> exact ⟨rfl, rfl, id⟩

theorem Quiet.trans {m t u : Manager} (hmt : Quiet m t) (htu : Quiet t u)
    : Quiet m u where
  status := htu.status.trans hmt.status
  cloudMode := htu.cloudMode.trans hmt.cloudMode
  fd := fun hfd => hmt.fd (htu.fd hfd)

theorem deviceConfigRegister_quiet (build : Build) (meshState meshUrl : Option CStr) (m : Manager)
    : Quiet m (m.targetDeviceConfigRegister build meshState meshUrl) := by
  have hset : Quiet m { m with awlanCb := true } := ⟨rfl, rfl, id⟩
  unfold targetDeviceConfigRegister updateRedirectorAddr
  dsimp only
  refine Quiet.trans ?_ (callAwlan_quiet _ _)
  split
  . exact hset.trans (callAwlan_quiet _ _)
  . split
    . exact hset
    . exact hset.trans (callAwlan_quiet _ _)

theorem radioCloudModeSet_tells {build : Build} {W : Wire} {input : Input} {mode : CloudMode}
    {m u : Manager} (hsync : ¬build.disableSync) (hinit : u.client.initialized)
    (hfd : u.client.fd.isSome) (hmode : mode ≠ .unknown) (huntold : u.status ≠ some (decide (mode = .full)))
    (hreports : Reports W m input ↔ input.taken ≠ 0)
    : Tells W m input (u.radioCloudModeSet build W mode input.taken).1 := by
  have hstatus := radioCloudModeSet_status build W input.taken hsync hinit hfd hmode
  have hcloud := (radioCloudModeSet_sameWork build W mode input.taken u).cloudMode
  constructor
  . unfold Informs
    rw [hreports, hstatus.1, hstatus.2, hcloud]
    by_cases htaken : input.taken = 0
    . simp [htaken, hfd, hmode, huntold]
    . simp [htaken]
  . rw [hcloud]
    intro hunknown
    exact absurd hunknown hmode

theorem connected_tells {W : Wire} {input : Input} {m : Manager} {client : Client} {fd : Nat}
    (hfd : client.fd = some fd) (hconnects : m.connects input) (hread : m.readOnConnect input = none)
    (hrequest : m.request W input = none)
    : Tells W m input { m with client := client, sent := [] } where
  informs := by
    have hreports : Reports W m input ↔ m.cloudMode = .unknown := by
      constructor
      . intro hreports
        have hconnects := hreports.connects hconnects
        rw [hread] at hconnects
        simpa using hconnects
      . intro hunknown
        exact { request := by simp [hrequest], connects := fun _ => Or.inl ⟨hunknown, hread⟩ }
    rw [hreports]
    simp [Informs, hfd, status]
  unknown := fun _ => rfl

theorem taskConnect_fd {c client : Client} {fd : Nat} (hclient : c.taskConnect (.connected fd) = some client)
    : client.fd = some fd := by
  unfold Client.taskConnect at hclient
  dsimp only at hclient
  split at hclient
  . contradiction
  . injection hclient with hclient
    rw [← hclient]
    rfl

section

variable {build : Build} {W : Wire} {m : Manager} {client : Client} {fd : Nat}

theorem connected_read_tells (hm : m.Informed build) (htimer : m.client.timer = true)
    (hclient : m.client.taskConnect (.connected fd) = some client) (hcb : client.onConnectCb)
    (buf : CStr) (taken : Nat)
    : Tells W m (.timer (.connected fd) (some buf) taken)
        (radioCloudModeSet build W (meshStateMode buf) taken { m with client := client, sent := [] }).1 := by
  have hsame := Client.taskConnect_sameInit hclient
  have hinit : m.client.initialized := by
    have htimer := htimer
    rw [hm.sound.client.timer, Bool.and_eq_true] at htimer
    exact htimer.1
  have hsync : ¬build.disableSync := by
    intro hdisable
    rw [(hm.sound.disabled hdisable).1] at hinit
    contradiction
  rw [hsame.onConnectCb] at hcb
  have hread : m.readOnConnect (.timer (.connected fd) (some buf) taken) = some (meshStateMode buf) := by
    simp [readOnConnect, htimer, hcb]
  apply radioCloudModeSet_tells hsync
  . rw [hsame.initialized]
    exact hinit
  . simp [taskConnect_fd hclient]
  . exact (readOnConnect_ne_unknown hread).1
  . simp [status]
  . constructor
    . intro hreports
      have hconnects := hreports.connects htimer
      rw [hread] at hconnects
      simpa using hconnects
    . intro htaken
      exact { request := by simp [request], connects := by simp [hread, htaken] }

theorem connected_unread_tells (htimer : m.client.timer = true)
    (hclient : m.client.taskConnect (.connected fd) = some client) {meshState : Option CStr}
    (hnone : ¬(client.onConnectCb ∧ meshState.isSome)) (taken : Nat)
    : Tells W m (.timer (.connected fd) meshState taken) { m with client := client, sent := [] } := by
  rw [(Client.taskConnect_sameInit hclient).onConnectCb] at hnone
  apply connected_tells (taskConnect_fd hclient)
  . simpa [connects] using htimer
  . rw [← Option.not_isSome_iff_eq_none]
    simpa [readOnConnect, htimer] using hnone
  . rfl

end

theorem timer_tells {build : Build} {W : Wire} {attempt : Attempt} {meshState : Option CStr}
    {taken : Nat} {m t : Manager} (hm : m.Informed build)
    (ht : step build W m (.timer attempt meshState taken) = some t)
    : Tells W m (.timer attempt meshState taken) t := by
  unfold step at ht
  dsimp only at ht
  split at ht
  . next htimer =>
    unfold syncTaskConnect at ht
    split at ht
    . contradiction
    . next client hclient =>
      cases attempt with
      | noSocket =>
        injection ht with ht
        injection hclient with hclient
        rw [← ht, ← hclient]
        exact Quiet.tells hm ⟨rfl, rfl, id⟩ (Reports.of_none rfl rfl)
      | refused fd =>
        injection ht with ht
        injection hclient with hclient
        rw [← ht, ← hclient]
        exact Quiet.tells hm ⟨rfl, rfl, id⟩ (Reports.of_none rfl rfl)
      | connected fd =>
        injection ht with ht
        rw [← ht]
        split
        . next hcb =>
          cases meshState with
          | none => exact connected_unread_tells htimer hclient (by simp) taken
          | some buf => exact connected_read_tells hm htimer hclient hcb buf taken
        . next hcb => exact connected_unread_tells htimer hclient (by simp [hcb]) taken
  . next htimer =>
    injection ht with ht
    rw [← ht]
    have hconnects : m.connects (.timer attempt meshState taken) = false := by
      cases attempt <;> simp [connects, htimer]
    exact Quiet.tells hm ⟨rfl, rfl, id⟩ (Reports.of_none rfl hconnects)

theorem message_fd {M : MeshSync} {event : Event} {bytes : List UInt8}
    (hmessage : event.message M = some bytes) (c : Client)
    : (c.evioCb M event).fd = c.fd := by
  have hpos := M.size_pos
  cases event with
  | error => contradiction
  | recv bytes' =>
    unfold Event.message at hmessage
    dsimp only at hmessage
    split at hmessage
    . next hsize =>
      have hne : bytes'.length ≠ 0 := by omega
      have hfd := congrArg State.fd (c.evioCb_toState M (.recv bytes'))
      exact hfd.trans (Client.evioCb_recv_frame M c.toState hne).1
    . contradiction

theorem Informed.untold {build : Build} {m : Manager} (hm : m.Informed build)
    (hfd : m.client.fd.isSome) {mode : CloudMode} (hmode : mode ≠ .unknown) (hne : m.cloudMode ≠ mode)
    : m.status ≠ some (decide (mode = .full)) := by
  have hinforms := hm.informs hfd
  have hunknown := hm.unknown
  cases hcloud : m.cloudMode with
  | unknown =>
    rw [hunknown hcloud]
    simp
  | monitor =>
    rw [hcloud] at hinforms hne
    rw [hinforms.resolve_left (by decide)]
    cases mode <;> simp_all
  | full =>
    rw [hcloud] at hinforms hne
    rw [hinforms.resolve_left (by decide)]
    cases mode <;> simp_all

theorem receive_tells {build : Build} {W : Wire} {input : Input} {m : Manager} {client : Client}
    (hm : m.Informed build) (hfd : m.client.fd.isSome) (hclient : client.fd = m.client.fd)
    (hsame : Client.SameInit m.client client) (hconnects : m.connects input = false) {d : Delivery}
    (htaken : d.taken = input.taken)
    (hrequest : m.request W input = if m.client.mgr = .cm then d.mode else none)
    : Tells W m input (receive build W { m with client := client } d) := by
  have hinit : client.initialized := by
    rw [hsame.initialized]
    exact hm.sound.client.initialized hfd
  have hsync : ¬build.disableSync := by
    intro hdisable
    rw [hsame.initialized, (hm.sound.disabled hdisable).1] at hinit
    contradiction
  have hquiet : ∀ t : Manager, t.sent = m.sent → t.cloudMode = m.cloudMode
      → m.request W input = none → Tells W m input t := by
    intro t hsent hcloud hnone
    refine Quiet.tells hm ⟨?_, hcloud, fun _ => hfd⟩ (Reports.of_none hnone hconnects)
    rw [status, hsent]
    rfl
  cases hmgr : m.client.mgr with
  | wm =>
    rw [receive_wm build W (by rw [hsame.mgr, hmgr])]
    exact hquiet _ rfl rfl (by simp [hrequest, hmgr])
  | nm =>
    rw [receive_nm build W (by rw [hsame.mgr, hmgr])]
    exact hquiet _ rfl rfl (by simp [hrequest, hmgr])
  | cm =>
    rw [hmgr, if_pos rfl] at hrequest
    by_cases hstate : d.msg.msgType = .stateChange
    . rw [receive_cm_stateChange build W (by rw [hsame.mgr, hmgr]) hstate]
      rw [Delivery.mode_stateChange hstate] at hrequest
      have hknown := (request_ne_unknown hrequest).1
      unfold stateChange
      dsimp only
      split
      . next hmode =>
        refine Quiet.tells hm ⟨rfl, rfl, fun _ => hfd⟩ ?_
        exact { request := by simp [hrequest, hmode], connects := by simp [hconnects] }
      . next hmode =>
        rw [htaken, setDeviceMode_eq]
        apply radioCloudModeSet_tells hsync hinit
        . rw [hclient]
          exact hfd
        . exact hknown
        . exact hm.untold hfd hknown hmode
        . constructor
          . intro hreports
            have hor := hreports.request _ hrequest
            exact hor.resolve_left (fun heq => hmode heq.symm)
          . intro hpos
            exact { request := fun _ _ => Or.inr hpos, connects := by simp [hconnects] }
    . rw [receive_cm_other build W (by rw [hsame.mgr, hmgr]) hstate]
      rw [Delivery.mode_other hstate] at hrequest
      exact hquiet _ rfl rfl hrequest

theorem socket_tells {build : Build} {W : Wire} {event : Event} {hal : Hal} {taken : Nat}
    {m : Manager} (hm : m.Informed build) (hevio : m.client.evio.isSome)
    : Tells W m (.socket event hal taken) (m.syncEvioCb build W event hal taken) := by
  have hfd : m.client.fd.isSome := by
    rw [← hm.sound.client.evio]
    exact hevio
  have hclient : Quiet m { m with client := m.client.evioCb W.toMeshSync event } :=
    ⟨rfl, rfl, fun _ => hfd⟩
  unfold syncEvioCb
  dsimp only
  cases hmessage : event.message W.toMeshSync with
  | none =>
    have hrequest : m.request W (.socket event hal taken) = none := by
      simp [request, hmessage]
    exact hclient.tells hm (Reports.of_none hrequest rfl)
  | some bytes =>
    apply receive_tells hm hfd (message_fd hmessage m.client) (Client.evioCb_sameInit _ event _) rfl
      (d := { msg := W.decode bytes, hal, taken }) rfl
    simp [request, hmessage, hevio]

theorem step_tells {build : Build} {W : Wire} {m t : Manager} {input : Input} (hm : m.Informed build)
    (ht : step build W m input = some t)
    : Tells W m input t := by
  cases input with
  | targetInit opt halCapability =>
    injection ht with ht
    exact ht ▸ (targetInit_quiet build opt halCapability m).tells hm (Reports.of_none rfl rfl)
  | targetClose opt =>
    injection ht with ht
    exact ht ▸ (targetClose_quiet build opt m).tells hm (Reports.of_none rfl rfl)
  | deviceConfigRegister meshState meshUrl =>
    injection ht with ht
    exact ht ▸
      (deviceConfigRegister_quiet build meshState meshUrl m).tells hm (Reports.of_none rfl rfl)
  | timer attempt meshState taken => exact timer_tells hm ht
  | socket event hal taken =>
    unfold step at ht
    dsimp only at ht
    split at ht
    . next hevio =>
      injection ht with ht
      exact ht ▸ socket_tells hm hevio
    . next hevio =>
      injection ht with ht
      have hrequest : m.request W (.socket event hal taken) = none := by
        simp [request, hevio]
      exact ht ▸ Quiet.tells hm ⟨rfl, rfl, id⟩ (Reports.of_none hrequest rfl)
  | send msg taken =>
    injection ht with ht
    obtain ⟨sent, hsent⟩ := syncSendChange_eq W msg taken m
    have hchange := syncSend_change W sent taken m
    have hcloud := (syncSend_sameWork W (.change sent) taken m).cloudMode
    rw [hsent] at ht
    have hquiet : Quiet m t := by
      rw [← ht]
      exact ⟨hchange.1, hcloud, by rw [hchange.2]; exact id⟩
    exact hquiet.tells hm (Reports.of_none rfl rfl)

theorem status_informs_iff (build : Build) (W : Wire) (inputs : List Input)
    : Machine.Everywhere (step build W) Informs start inputs
        ↔
      Machine.AllSteps (step build W) (Reports W) start inputs := by
  have ⟨t, hrun, _⟩ :=
    Machine.run_total (fun m input (_ : input ∈ inputs) hs => step_sound build W hs input)
      (start_sound build)
  apply Machine.everywhere_iff_allSteps (I := Informed build)
  . intro m input t hm ht
    exact (step_tells hm ht).informs
  . intro m input t hm ht hreports
    have htells := step_tells hm ht
    have ⟨u, hu, hsound⟩ := step_sound build W hm.sound input
    rw [ht] at hu
    injection hu with hu
    exact ⟨hu ▸ hsound, htells.informs.mpr hreports, htells.unknown⟩
  . exact ⟨start_sound build, by simp [Informs, start], fun _ => rfl⟩
  . simp [Informs, start]
  . exact hrun

end Manager
end Sync
end OpenSyncRdk
