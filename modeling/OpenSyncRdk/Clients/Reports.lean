import OpenSyncRdk.Clients.Table
import OpenSyncRdk.Lib.Journal

/-!
The reports about the clients are a journal of the table: whoever replays them knows for every client
on which interface and with which key it is connected. Every function of `clients.c` that touches the
table keeps the two in step, also where the HAL fails halfway.
-/

namespace OpenSyncRdk
namespace Clients

open Journal (Tracks)

def Report.entry (report : Report) : Journal.Entry CStr (CStr × CStr) :=
  ⟨report.mac, (report.ifname, report.keyId), report.connected⟩

def Client.reported (env : Env) (client : Client) : CStr × CStr :=
  (env.unmapIfname (env.apName client.apIndex), client.keyId)

def view (env : Env) (table : Table) : CStr → Option (CStr × CStr) :=
  fun mac => table[mac]?.map (Client.reported env)

def InStep (env : Env) (s : State) : Prop :=
  Tracks (view env s.connected) (s.reports.map Report.entry)

theorem lower_length (mac : MacAddr)
    : mac.lower.length = 17 := by
  rfl

theorem strscpy_mac (hmac : mac.length < maxMacStr)
    : strscpy maxMacStr mac = mac := by
  unfold strscpy
  rw [List.take_of_length_le]
  omega

theorem view_insert (env : Env) (table : Table) (mac : CStr) (client : Client)
    : view env (table.insert mac client)
        =
      Function.update (view env table) mac (some (client.reported env)) := by
  funext other
  simp only [view, Std.ExtTreeMap.getElem?_insert, Function.update_apply, Std.compare_eq_iff_eq]
  by_cases hother : mac = other
  . simp [hother]
  . simp [hother, Ne.symm hother]

theorem view_erase (env : Env) (table : Table) (mac : CStr)
    : view env (table.erase mac) = Function.update (view env table) mac none := by
  funext other
  simp only [view, Std.ExtTreeMap.getElem?_erase, Function.update_apply, Std.compare_eq_iff_eq]
  by_cases hother : mac = other
  . simp [hother]
  . simp [hother, Ne.symm hother]

theorem getApName_state (hname : getApName env s apIndex = (t, ifname))
    : t = { s with calls := s.calls + 1 } := by
  rw [getApName, Prod.mk.injEq] at hname
  exact hname.1.symm

theorem getApName_some (hname : getApName env s apIndex = (t, some ifname))
    : t = { s with calls := s.calls + 1 } ∧ ifname = env.apName apIndex := by
  refine ⟨getApName_state hname, ?_⟩
  rw [getApName, Prod.mk.injEq] at hname
  have hname := hname.2
  split at hname
  . contradiction
  . injection hname with hname
    exact hname.symm

theorem clientsUpdate_spec (env : Env) (s : State) (mac : CStr) (client : Client) (ifname : CStr)
    (connected : Bool)
    : (clientsUpdate env s mac client ifname connected).connected = s.connected
        ∧ (clientsUpdate env s mac client ifname connected).reports.map Report.entry
          =
        s.reports.map Report.entry
          ++ [⟨mac, (env.unmapIfname ifname, client.keyId), connected⟩] := by
  simp [clientsUpdate, Report.entry]

section

variable {env : Env} {s : State} {mac : CStr} {client : Client}

theorem getApName_inStep {t : State} (hname : getApName env s apIndex = (t, ifname)) (hs : InStep env s)
    : InStep env t := by
  rw [getApName_state hname]
  exact hs

theorem clientsUpdate_inactive (hs : InStep env s) (hclient : s.connected[mac]? = some client)
    : Tracks (Function.update (view env s.connected) mac none)
        ((clientsUpdate env s mac client (env.apName client.apIndex) false).reports.map
          Report.entry) := by
  rw [(clientsUpdate_spec env s mac client _ false).2]
  apply hs.remove
  simp [view, hclient, Client.reported]

theorem setKeyId_inStep (client : Client) (keyId : CStr)
    (hs : Tracks (Function.update (view env s.connected) mac none) (s.reports.map Report.entry))
    : InStep env (setKeyId env s mac client keyId (env.apName client.apIndex)) := by
  unfold InStep setKeyId
  rw [(clientsUpdate_spec _ _ _ _ _ _).1, (clientsUpdate_spec _ _ _ _ _ _).2, view_insert]
  have hadd := hs.add mac (Client.reported env { client with keyId := strscpy maxBuffer keyId })
    (by simp)
  rw [Function.update_idem] at hadd
  exact hadd

theorem clientsConnection_inStep (apIndex : Int) (keyId : CStr) (hmac : mac.length < maxMacStr)
    (hs : InStep env s)
    : InStep env (clientsConnection env s apIndex mac keyId) := by
  unfold clientsConnection
  split
  . next t hname =>
    rw [getApName_state hname]
    exact hs
  . next t ifname hname =>
    have ⟨ht, hifname⟩ := getApName_some hname
    have ht : InStep env t := by
      rw [ht]
      exact hs
    rw [hifname]
    split
    . next hnew =>
      rw [strscpy_mac hmac]
      apply setKeyId_inStep { keyId := [], apIndex }
      rw [Function.update_eq_self_iff.mpr (by simp [view, hnew])]
      exact ht
    . next client hclient =>
      split
      . split
        . next u hname =>
          -- The old name is asked for before the table changes, so nothing has to be undone.
          rw [getApName_state hname]
          exact ht
        . next u ifnameOld hname =>
          have ⟨hu, hold⟩ := getApName_some hname
          have hu : InStep env u ∧ u.connected = t.connected := by
            rw [hu]
            exact ⟨ht, rfl⟩
          rw [hold]
          apply setKeyId_inStep { client with apIndex }
          rw [(clientsUpdate_spec _ _ _ _ _ _).1]
          apply clientsUpdate_inactive hu.1
          rw [hu.2]
          exact hclient
      . next hsame =>
        rw [ne_eq, Decidable.not_not] at hsame
        subst hsame
        split
        . apply setKeyId_inStep client
          rw [(clientsUpdate_spec _ _ _ _ _ _).1]
          apply clientsUpdate_inactive ht hclient
        . exact ht

theorem clientsDisconnection_cases (env : Env) (s : State) (apIndex : Int) (mac : CStr)
    : clientsDisconnection env s apIndex mac = ({ s with calls := s.calls + 1 }, none)
        ∨ ∃ client, s.connected[mac]? = some client
          ∧ client.apIndex = apIndex
          ∧ clientsDisconnection env s apIndex mac
              =
            ( clientsUpdate env { s with calls := s.calls + 1 } mac client (env.apName apIndex) false
            , some client
            ) := by
  unfold clientsDisconnection
  split
  . next t hname =>
    rw [getApName_state hname]
    exact .inl rfl
  . next t ifname hname =>
    have ⟨ht, hifname⟩ := getApName_some hname
    rw [ht, hifname]
    cases hclient : s.connected[mac]? with
    | none => exact .inl rfl
    | some client =>
      by_cases hindex : client.apIndex = apIndex
      . refine .inr ⟨client, rfl, hindex, ?_⟩
        simp only [hindex, ne_eq, not_true_eq_false, ↓reduceIte]
      . refine .inl ?_
        simp only [hindex, ne_eq, not_false_eq_true, ↓reduceIte]

theorem removeClient_inStep (apIndex : Int) (mac : CStr) (hs : InStep env s)
    : InStep env (removeClient env s apIndex mac) := by
  unfold removeClient
  rcases clientsDisconnection_cases env s apIndex mac with hnone | ⟨client, hclient, hindex, hsome⟩
  . rw [hnone]
    exact hs
  . subst hindex
    rw [hsome]
    unfold InStep
    simp only
    rw [view_erase, (clientsUpdate_spec _ _ _ _ _ _).1]
    apply clientsUpdate_inactive (s := { s with calls := s.calls + 1 })
    . exact hs
    . exact hclient

theorem addClient_inStep (keyIds : KeyIds) (apIndex : Int) (hmac : mac.length < maxMacStr)
    (hs : InStep env s)
    : InStep env (addClient env keyIds s apIndex mac) := by
  unfold addClient
  split
  . cases hkey : env.multiPskKey s.calls with
    | none => exact hs
    | some key =>
      dsimp only
      split
      . exact clientsConnection_inStep apIndex _ hmac hs
      . exact clientsConnection_inStep apIndex _ hmac hs
  . apply clientsConnection_inStep apIndex _ hmac hs

theorem asyncEntry_inStep (keyIds : KeyIds) (cbe : HalCbEntry) (hs : InStep env s)
    : InStep env (asyncEntry env keyIds s cbe) := by
  unfold asyncEntry
  split
  . next t hname => exact getApName_inStep hname hs
  . next t ifname hname =>
    have ht := getApName_inStep hname hs
    split
    . apply addClient_inStep
      . rw [lower_length]
        decide
      . exact ht
    . apply removeClient_inStep _ _ ht

theorem foldl_inStep {f : State → α → State} (items : List α)
    (hf : ∀ s item, InStep env s → InStep env (f s item)) (hs : InStep env s)
    : InStep env (items.foldl f s) := by
  induction items generalizing s with
  | nil => exact hs
  | cons item items ih =>
    rw [List.foldl_cons]
    exact ih (hf s item hs)

theorem detectDisconnection_inStep (apIndex : Int) (devices : List MacAddr) (hs : InStep env s)
    : InStep env (detectDisconnection env s apIndex devices) := by
  unfold detectDisconnection
  apply foldl_inStep
  . rintro s ⟨mac, client⟩ hs
    dsimp only
    split
    . exact hs
    . split
      . exact hs
      . apply removeClient_inStep apIndex mac hs
  . exact hs

theorem halFetchExisting_inStep (keyIds : KeyIds) (apIndex : Int) (hs : InStep env s)
    : InStep env (halFetchExisting env keyIds s apIndex).1 := by
  unfold halFetchExisting
  split
  . next t hname => exact getApName_inStep hname hs
  . next t ifname hname =>
    have ht := getApName_inStep hname hs
    cases hassoc : env.associated t.calls with
    | none => exact ht
    | some devices =>
      apply detectDisconnection_inStep
      apply foldl_inStep
      . intro s device hs
        apply addClient_inStep
        . rw [lower_length]
          decide
        . exact hs
      . exact ht

theorem step_inStep (input : Input) (hs : InStep env s)
    : ∃ t, step env s input = some t ∧ InStep env t := by
  cases input with
  | asyncCb keyIds entries =>
    refine ⟨_, rfl, foldl_inStep entries ?_ hs⟩
    intro s cbe hs
    apply asyncEntry_inStep keyIds cbe hs
  | fetchExisting keyIds apIndex => exact ⟨_, rfl, halFetchExisting_inStep keyIds apIndex hs⟩

end

theorem initial_inStep (env : Env)
    : InStep env .initial := by
  have hview : view env State.initial.connected = fun _ => none := by
    funext mac
    simp [view, State.initial]
  unfold InStep
  rw [hview]
  apply Journal.tracks_nil

theorem reports_replay_table (env : Env) (inputs : List Input)
    : ∃ s, Machine.run (step env) .initial inputs = some s
        ∧ Journal.replay (s.reports.map Report.entry)
          =
        (fun mac => s.connected[mac]?.map (fun client =>
          (env.unmapIfname (env.apName client.apIndex), client.keyId)))
        ∧ ∀ pre report, pre ++ [report] <+: s.reports
          → Journal.replay (pre.map Report.entry) report.mac
            =
          if report.connected then none else some (report.ifname, report.keyId) := by
  have hreached : ∃ s, Machine.run (step env) .initial inputs = some s ∧ InStep env s := by
    apply Machine.run_total
    . intro s input _ hs
      apply step_inStep input hs
    . apply initial_inStep env
  rcases hreached with ⟨s, hrun, htracks⟩
  refine ⟨s, hrun, htracks.replay_eq, ?_⟩
  intro pre report hpre
  have hentries := hpre.map Report.entry
  rw [List.map_append, List.map_singleton] at hentries
  exact htracks.exact _ _ hentries

end Clients
end OpenSyncRdk
