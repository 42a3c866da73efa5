import OpenSyncRdk.Clients.Reconcile

/-!
The whole table after `clients_hal_fetch_existing`, where the HAL answers every call. A `client_t` holds
its key id in `maxBuffer` bytes, which no run changes.
-/

namespace OpenSyncRdk
namespace Clients

def Fits (s : State) : Prop :=
  ∀ (mac : CStr) (client : Client),
    s.connected[mac]? = some client → client.keyId.length < maxBuffer

theorem strscpy_fits (keyId : CStr)
    : (strscpy maxBuffer keyId).length < maxBuffer := by
  unfold strscpy
  rw [List.length_take]
  exact Nat.lt_of_le_of_lt (Nat.min_le_left _ _) (by decide)

theorem strscpy_of_take_eq (hfits : stored.length < maxBuffer)
    (htake : stored.take maxBuffer = keyId.take maxBuffer)
    : stored = strscpy maxBuffer keyId := by
  have hlen := congrArg List.length htake
  rw [List.length_take, List.length_take] at hlen
  unfold strscpy
  rw [List.take_of_length_le (Nat.le_of_lt hfits), List.take_of_length_le (by omega)] at htake
  rw [List.take_of_length_le (by omega)]
  exact htake

section

variable {env : Env} {mac : CStr} {s : State}

theorem Fits.insert (hs : Fits s) (mac : CStr) (client : Client) (hclient : client.keyId.length < maxBuffer)
    : Fits { s with connected := s.connected.insert mac client } := by
  intro other stored hstored
  simp only [Std.ExtTreeMap.getElem?_insert, Std.compare_eq_iff_eq] at hstored
  split at hstored
  . injection hstored with hstored
    rw [← hstored]
    exact hclient
  . exact hs other stored hstored

theorem Fits.erase (hs : Fits s) (mac : CStr)
    : Fits { s with connected := s.connected.erase mac } := by
  intro other stored hstored
  simp only [Std.ExtTreeMap.getElem?_erase, Std.compare_eq_iff_eq] at hstored
  split at hstored
  . contradiction
  . exact hs other stored hstored

theorem Fits.setKeyId (hs : Fits s) (env : Env) (mac : CStr) (client : Client) (keyId ifname : CStr)
    : Fits (setKeyId env s mac client keyId ifname) := by
  apply hs.insert
  apply strscpy_fits

theorem Fits.getApName (hs : Fits s) (hname : getApName env s apIndex = (t, ifname))
    : Fits t := by
  rw [getApName_state hname]
  exact hs

theorem Fits.clientsConnection (hs : Fits s) (env : Env) (apIndex : Int) (mac keyId : CStr)
    : Fits (clientsConnection env s apIndex mac keyId) := by
  unfold Clients.clientsConnection
  split
  . next t hname => exact hs.getApName hname
  . next t ifname hname =>
    have ht := hs.getApName hname
    split
    . apply ht.setKeyId
    . split
      . split
        . next u hold => exact ht.getApName hold
        . next u ifnameOld hold =>
          have hu := ht.getApName hold
          apply Fits.setKeyId
          exact hu
      . split
        . apply Fits.setKeyId
          exact ht
        . exact ht

theorem Fits.removeClient (hs : Fits s) (env : Env) (apIndex : Int) (mac : CStr)
    : Fits (removeClient env s apIndex mac) := by
  unfold Clients.removeClient
  rcases clientsDisconnection_cases env s apIndex mac with hnone | ⟨client, _, _, hsome⟩
  . rw [hnone]
    exact hs
  . rw [hsome]
    apply Fits.erase
    exact hs

theorem Fits.addClient (hs : Fits s) (env : Env) (keyIds : KeyIds) (apIndex : Int) (mac : CStr)
    : Fits (addClient env keyIds s apIndex mac) := by
  have hcalls : Fits { s with calls := s.calls + 1 } := hs
  unfold Clients.addClient
  split
  . dsimp only
    split
    . exact hs
    . split
      . exact hcalls.clientsConnection env apIndex mac _
      . exact hcalls.clientsConnection env apIndex mac _
  . exact hs.clientsConnection env apIndex mac _

theorem Fits.foldl {f : State → α → State} (hf : ∀ s item, Fits s → Fits (f s item)) (items : List α)
    (hs : Fits s)
    : Fits (items.foldl f s) := by
  induction items generalizing s with
  | nil => exact hs
  | cons item items ih => exact ih (hf s item hs)

theorem Fits.detectDisconnection (hs : Fits s) (env : Env) (apIndex : Int) (devices : List MacAddr)
    : Fits (detectDisconnection env s apIndex devices) := by
  unfold Clients.detectDisconnection
  apply Fits.foldl _ _ hs
  rintro s ⟨mac, client⟩ hs
  dsimp only
  split
  . exact hs
  . split
    . exact hs
    . exact hs.removeClient env apIndex mac

theorem Fits.step (hs : Fits s) (hstep : step env s input = some t)
    : Fits t := by
  cases input with
  | asyncCb keyIds entries =>
    injection hstep with hstep
    rw [← hstep]
    apply Fits.foldl _ _ hs
    intro s cbe hs
    unfold asyncEntry
    split
    . next t hname => exact hs.getApName hname
    . next t ifname hname =>
      have ht := hs.getApName hname
      split
      . exact ht.addClient env keyIds _ _
      . exact ht.removeClient env _ _
  | fetchExisting keyIds apIndex =>
    injection hstep with hstep
    rw [← hstep]
    unfold halFetchExisting
    split
    . next t hname => exact hs.getApName hname
    . next t ifname hname =>
      have ht := hs.getApName hname
      dsimp only
      split
      . exact ht
      . apply Fits.detectDisconnection
        apply Fits.foldl
        . intro s device hs
          exact hs.addClient env keyIds apIndex _
        . exact ht

theorem initial_fits
    : Fits .initial := by
  intro mac client hclient
  simp [State.initial] at hclient

theorem fits_of_run {inputs : List Input} (hrun : Machine.run (step env) .initial inputs = some s)
    : Fits s := by
  apply Machine.run_invariant _ _ hrun
  . intro s t input _ hs hstep
    exact hs.step hstep
  . exact initial_fits

theorem entries_clientsConnection_fits (hname : ∀ calls, env.apNameFails calls = false) (hs : Fits s)
    (apIndex : Int) (keyId : CStr) (hmac : mac.length < maxMacStr)
    : entries (clientsConnection env s apIndex mac keyId)
        =
      Function.update (entries s) mac (some { keyId := strscpy maxBuffer keyId, apIndex }) := by
  have ⟨stored, hentries, hstored⟩ := entries_clientsConnection hname s apIndex keyId hmac
  rw [hentries]
  rcases hstored with hstored | ⟨hentry, htake⟩
  . rw [hstored]
  . have hfits : stored.length < maxBuffer := hs mac _ hentry
    rw [strscpy_of_take_eq hfits htake]

theorem entries_addClients (hok : Answers env) (hs : Fits s) (keyIds : KeyIds) (apIndex : Int)
    (devices : List MacAddr)
    : entries (devices.foldl (fun s device => addClient env keyIds s apIndex device.lower) s) mac
        =
      if mac ∈ macs devices then
        some { keyId := strscpy maxBuffer (keyIds apIndex), apIndex }
      else
        entries s mac := by
  induction devices generalizing s with
  | nil => simp [macs]
  | cons device devices ih =>
    rw [List.foldl_cons, ih (hs.addClient env keyIds apIndex _), addClient_answers hok,
      entries_clientsConnection_fits hok.apName hs apIndex _ (by rw [lower_length]; decide),
      Function.update_apply]
    simp only [mem_macs_cons]
    by_cases hdevice : device.lower = mac
    . simp only [hdevice, ↓reduceIte, ite_self, true_or]
    . simp only [hdevice, Ne.symm hdevice, ↓reduceIte, false_or]

theorem entries_halFetchExisting (hok : Answers env) (hs : Fits s) (keyIds : KeyIds) (apIndex : Int)
    {devices : List MacAddr} (hdevices : env.associated (s.calls + 1) = some devices) (mac : CStr)
    : entries (halFetchExisting env keyIds s apIndex).1 mac
        =
      if mac ∈ macs devices then
        some { keyId := strscpy maxBuffer (keyIds apIndex), apIndex }
      else
        (entries s mac).filter (fun client => client.apIndex ≠ apIndex) := by
  have ht : Fits { s with calls := s.calls + 1 + 1 } := hs
  unfold halFetchExisting
  rw [getApName_answers hok.apName]
  dsimp only
  rw [hdevices]
  dsimp only
  rw [entries_detectDisconnection hok, entries_addClients hok ht, entries_calls]
  split <;> rfl

end

structure Fetched (devices : List MacAddr) (keyId : CStr) (apIndex : Int) (s t : State) : Prop where
  tracked
    : {mac | ∃ client : Client, t.connected[mac]? = some client ∧ client.apIndex = apIndex}
        =
      macs devices
  keyId
    : ∀ (mac : CStr) (client : Client), t.connected[mac]? = some client → client.apIndex = apIndex
        → client.keyId = strscpy maxBuffer keyId
  others
    : ∀ (mac : CStr) (client : Client), mac ∉ macs devices → client.apIndex ≠ apIndex
        → (t.connected[mac]? = some client ↔ s.connected[mac]? = some client)
  nodup : (t.connected.toList.map Prod.fst).Nodup

theorem halFetchExisting_fetched {env : Env} {s : State} (hok : Answers env) (hs : Fits s)
    (keyIds : KeyIds) (apIndex : Int) {devices : List MacAddr}
    (hdevices : env.associated (s.calls + 1) = some devices)
    : Fetched devices (keyIds apIndex) apIndex s (halFetchExisting env keyIds s apIndex).1 := by
  have hentries := entries_halFetchExisting hok hs keyIds apIndex hdevices
  simp only [entries] at hentries
  constructor
  . ext mac
    rw [Set.mem_ofPred_eq, hentries]
    by_cases hmac : mac ∈ macs devices
    . simp only [hmac, ↓reduceIte, Option.some.injEq, exists_eq_left']
    . simp only [hmac, ↓reduceIte, iff_false, not_exists, not_and]
      intro client hclient
      exact of_decide_eq_true (Option.filter_eq_some_iff.mp hclient).2
  . intro mac client hclient hindex
    rw [hentries] at hclient
    split at hclient
    . injection hclient with hclient
      rw [← hclient]
    . have hother := (Option.filter_eq_some_iff.mp hclient).2
      exact absurd hindex (of_decide_eq_true hother)
  . intro mac client hmac hindex
    rw [hentries, if_neg hmac, Option.filter_eq_some_iff]
    simp only [hindex, ne_eq, not_false_eq_true, decide_true, and_true]
  . have hdistinct := Std.ExtTreeMap.distinct_keys_toList
      (t := (halFetchExisting env keyIds s apIndex).1.connected)
    rw [List.Nodup, List.pairwise_map]
    apply hdistinct.imp
    intro lhs rhs hne heq
    apply hne
    rw [Std.compare_eq_iff_eq]
    exact heq

def lists (devices : List MacAddr) : Env :=
  { multiPsk := false, unmapIfname := id, apName := fun _ => cstr "ath0", apNameFails := fun _ => false
    securityMode := fun _ => none, multiPskKey := fun _ => none, associated := fun _ => some devices
  }

def stale : State :=
  { State.initial with
    connected := State.initial.connected.insert (MacAddr.lower ⟨2, 0, 0, 0, 0, 1⟩) ⟨cstr "key", 1⟩
  }

theorem halFetchExisting_fetched_other
    : let devices : List MacAddr := [⟨2, 0, 0, 0, 0, 2⟩]
      Fetched devices (cstr "key") 1 stale
        (halFetchExisting (lists devices) (fun _ => cstr "key") stale 1).1 := by
  intro devices
  apply halFetchExisting_fetched ⟨rfl, fun _ => rfl⟩ _ (fun _ => cstr "key") 1 rfl
  exact initial_fits.insert _ ⟨cstr "key", 1⟩ (by decide)

end Clients
end OpenSyncRdk
