import OpenSyncRdk.Clients.Reports
import OpenSyncRdk.Lib.Settled

/-!
What `clients_hal_fetch_existing` leaves in the table where the HAL answers every call: the VAP that it
was called for has exactly the devices that the HAL lists for it.
-/

namespace OpenSyncRdk
namespace Clients

def tracked (s : State) : CStr → Option Int :=
  fun mac => s.connected[mac]?.map Client.apIndex

def entries (s : State) : CStr → Option Client :=
  fun mac => s.connected[mac]?

def macs (devices : List MacAddr) : Set CStr :=
  {mac | ∃ device ∈ devices, device.lower = mac}

instance (mac : CStr) (devices : List MacAddr) : Decidable (mac ∈ macs devices) :=
  inferInstanceAs (Decidable (∃ device ∈ devices, device.lower = mac))

structure Answers (env : Env) : Prop where
  singlePsk : env.multiPsk = false
  apName : ∀ calls, env.apNameFails calls = false

section

variable {env : Env} {mac : CStr}

theorem getApName_answers (hname : ∀ calls, env.apNameFails calls = false) (s : State) (apIndex : Int)
    : getApName env s apIndex = ({ s with calls := s.calls + 1 }, some (env.apName apIndex)) := by
  simp [getApName, hname]

@[simp]
theorem entries_calls (s : State) (calls : Nat)
    : entries { s with calls } = entries s := by
  rfl

@[simp]
theorem tracked_calls (s : State) (calls : Nat)
    : tracked { s with calls } = tracked s := by
  rfl

theorem tracked_eq (s : State) (mac : CStr)
    : tracked s mac = (entries s mac).map Client.apIndex := by
  rfl

@[simp]
theorem entries_clientsUpdate (s : State) (client : Client) (ifname : CStr) (connected : Bool)
    : entries (clientsUpdate env s mac client ifname connected) = entries s := by
  rfl

theorem entries_insert (s : State) (client : Client)
    : entries { s with connected := s.connected.insert mac client }
        =
      Function.update (entries s) mac (some client) := by
  funext other
  simp only [entries, Std.ExtTreeMap.getElem?_insert, Function.update_apply, Std.compare_eq_iff_eq]
  by_cases hother : mac = other
  . simp [hother]
  . simp [hother, Ne.symm hother]

theorem entries_erase (s : State)
    : entries { s with connected := s.connected.erase mac }
        =
      Function.update (entries s) mac none := by
  funext other
  simp only [entries, Std.ExtTreeMap.getElem?_erase, Function.update_apply, Std.compare_eq_iff_eq]
  by_cases hother : mac = other
  . simp [hother]
  . simp [hother, Ne.symm hother]

theorem entries_setKeyId (s : State) (client : Client) (keyId ifname : CStr)
    : entries (setKeyId env s mac client keyId ifname)
        =
      Function.update (entries s) mac (some { client with keyId := strscpy maxBuffer keyId }) := by
  unfold setKeyId
  rw [entries_clientsUpdate, entries_insert]

/-- The client keeps a key id that it had before only where `strncmp` finds no difference. -/
theorem entries_clientsConnection (hname : ∀ calls, env.apNameFails calls = false) (s : State)
    (apIndex : Int) (keyId : CStr) (hmac : mac.length < maxMacStr)
    : ∃ stored,
        entries (clientsConnection env s apIndex mac keyId)
            =
          Function.update (entries s) mac (some { keyId := stored, apIndex })
          ∧ (stored = strscpy maxBuffer keyId
            ∨ (entries s mac = some { keyId := stored, apIndex }
              ∧ stored.take maxBuffer = keyId.take maxBuffer)) := by
  unfold clientsConnection
  rw [getApName_answers hname]
  dsimp only
  split
  . rw [entries_setKeyId, strscpy_mac hmac, entries_calls]
    exact ⟨_, rfl, .inl rfl⟩
  . next client hclient =>
    split
    . rw [getApName_answers hname]
      dsimp only
      rw [entries_setKeyId, entries_clientsUpdate]
      exact ⟨_, rfl, .inl rfl⟩
    . next hsame =>
      rw [ne_eq, Decidable.not_not] at hsame
      split
      . rw [entries_setKeyId, entries_clientsUpdate, entries_calls, hsame]
        exact ⟨_, rfl, .inl rfl⟩
      . next hkeyId =>
        rw [ne_eq, Decidable.not_not] at hkeyId
        have hentry : entries s mac = some { keyId := client.keyId, apIndex } := by
          rw [← hsame]
          exact hclient
        refine ⟨client.keyId, ?_, .inr ⟨hentry, hkeyId⟩⟩
        rw [entries_calls, eq_comm, Function.update_eq_self_iff]
        exact hentry.symm

theorem tracked_clientsConnection (hok : Answers env) (s : State) (apIndex : Int) (keyId : CStr)
    (hmac : mac.length < maxMacStr)
    : tracked (clientsConnection env s apIndex mac keyId)
        =
      Function.update (tracked s) mac (some apIndex) := by
  have ⟨stored, hentries, _⟩ := entries_clientsConnection hok.apName s apIndex keyId hmac
  funext other
  rw [tracked_eq, hentries]
  simp only [Function.update_apply, tracked_eq]
  split <;> rfl

theorem addClient_answers (hok : Answers env) (keyIds : KeyIds) (s : State) (apIndex : Int)
    : addClient env keyIds s apIndex mac = clientsConnection env s apIndex mac (keyIds apIndex) := by
  simp only [addClient, hok.singlePsk, Bool.false_eq_true, ↓reduceIte]

theorem mem_macs_cons (device : MacAddr) (devices : List MacAddr)
    : mac ∈ macs (device :: devices) ↔ device.lower = mac ∨ mac ∈ macs devices := by
  simp [macs]

theorem tracked_addClients (hok : Answers env) (keyIds : KeyIds) (s : State) (apIndex : Int)
    (devices : List MacAddr) (place : Int)
    : tracked (devices.foldl (fun s device => addClient env keyIds s apIndex device.lower) s) mac
          = some place
        ↔
      (place = apIndex ∧ mac ∈ macs devices)
        ∨ (tracked s mac = some place ∧ mac ∉ macs devices) := by
  induction devices generalizing s with
  | nil => simp [macs]
  | cons device devices ih =>
    rw [List.foldl_cons, ih, addClient_answers hok]
    rw [tracked_clientsConnection hok s apIndex _ (by rw [lower_length]; decide)]
    rw [mem_macs_cons, Function.update_apply]
    by_cases hdevice : device.lower = mac
    . simp only [hdevice, ↓reduceIte, Option.some.injEq, true_or, not_true_eq_false, and_false,
        or_false, and_true]
      grind
    . simp only [Ne.symm hdevice, hdevice, ↓reduceIte, false_or]

theorem entries_removeClient (hok : Answers env) (s : State) (apIndex : Int)
    : entries (removeClient env s apIndex mac)
        =
      Function.update (entries s) mac ((entries s mac).filter (fun client => client.apIndex ≠ apIndex))
        := by
  unfold removeClient clientsDisconnection
  rw [getApName_answers hok.apName]
  dsimp only
  cases hclient : s.connected[mac]? with
  | none =>
    have hentry : entries s mac = none := hclient
    rw [hentry, Option.filter_none, eq_comm]
    exact Function.update_eq_self_iff.mpr hentry.symm
  | some client =>
    have hentry : entries s mac = some client := hclient
    dsimp only
    by_cases hindex : client.apIndex = apIndex
    . simp only [hindex, ne_eq, not_true_eq_false, ↓reduceIte]
      rw [entries_erase, entries_clientsUpdate, entries_calls, hentry,
        Option.filter_some_neg (by simpa using hindex)]
    . simp only [hindex, ne_eq, not_false_eq_true, ↓reduceIte, entries_calls]
      rw [hentry, Option.filter_some_pos (by simpa using hindex), eq_comm]
      exact Function.update_eq_self_iff.mpr hentry.symm

theorem entries_detect (hok : Answers env) (s : State) (apIndex : Int) (devices : List MacAddr)
    (items : List (CStr × Client))
    : entries (items.foldl
        (fun s (mac, client) =>
          if client.apIndex ≠ apIndex then
            s
          else if devices.any (fun device => mac = device.lower) then
            s
          else
            removeClient env s apIndex mac)
        s) mac
        =
      if (∃ item ∈ items, item.1 = mac ∧ item.2.apIndex = apIndex) ∧ mac ∉ macs devices then
        (entries s mac).filter (fun client => client.apIndex ≠ apIndex)
      else
        entries s mac := by
  induction items generalizing s with
  | nil => simp
  | cons item items ih =>
    rcases item with ⟨other, client⟩
    rw [List.foldl_cons, ih]
    dsimp only
    have hmem : devices.any (fun device => other = device.lower) ↔ other ∈ macs devices := by
      simp only [List.any_eq_true, decide_eq_true_eq, macs, Set.mem_ofPred_eq]
      constructor
      . rintro ⟨device, hdevice, hother⟩
        exact ⟨device, hdevice, hother.symm⟩
      . rintro ⟨device, hdevice, hother⟩
        exact ⟨device, hdevice, hother.symm⟩
    simp only [List.mem_cons, exists_eq_or_imp]
    by_cases hindex : client.apIndex = apIndex
    . by_cases hdevice : other ∈ macs devices
      . rw [if_neg (not_not.mpr hindex), if_pos (hmem.mpr hdevice)]
        by_cases hother : other = mac
        . rw [hother] at hdevice
          simp only [hdevice, not_true_eq_false, and_false, ↓reduceIte]
        . simp only [hother, false_and, false_or]
      . rw [if_neg (not_not.mpr hindex), if_neg (mt hmem.mp hdevice), entries_removeClient hok,
          Function.update_apply]
        by_cases hother : mac = other
        . simp only [hother, ↓reduceIte, Option.filter_filter, Bool.and_self, hindex, hdevice,
            true_and, true_or, not_false_eq_true, ite_self]
        . simp only [hother, Ne.symm hother, ↓reduceIte, false_and, false_or]
    . rw [if_pos hindex]
      simp only [hindex, and_false, false_or]

theorem entries_detectDisconnection (hok : Answers env) (s : State) (apIndex : Int)
    (devices : List MacAddr)
    : entries (detectDisconnection env s apIndex devices) mac
        =
      if mac ∈ macs devices then
        entries s mac
      else
        (entries s mac).filter (fun client => client.apIndex ≠ apIndex) := by
  unfold detectDisconnection
  rw [entries_detect hok]
  by_cases hmac : mac ∈ macs devices
  . simp only [hmac, not_true_eq_false, and_false, ↓reduceIte]
  . simp only [hmac, not_false_eq_true, and_true, ↓reduceIte]
    split
    . rfl
    . next hnone =>
      cases hentry : entries s mac with
      | none => rfl
      | some client =>
        rw [Option.filter_some_pos]
        rw [decide_eq_true_eq]
        intro hindex
        apply hnone
        refine ⟨(mac, client), ?_, rfl, hindex⟩
        rw [Std.ExtTreeMap.mem_toList_iff_getElem?_eq_some]
        exact hentry

theorem tracked_detectDisconnection (hok : Answers env) (s : State) (apIndex : Int)
    (devices : List MacAddr) (place : Int)
    : tracked (detectDisconnection env s apIndex devices) mac = some place
        ↔
      tracked s mac = some place ∧ (place = apIndex → mac ∈ macs devices) := by
  rw [tracked_eq, tracked_eq, entries_detectDisconnection hok]
  cases entries s mac <;> grind

theorem halFetchExisting_settled (hok : Answers env) (keyIds : KeyIds) (s : State) (apIndex : Int)
    {assoc : Int → List MacAddr} (hassoc : env.associated (s.calls + 1) = some (assoc apIndex))
    : Settled (fun index => macs (assoc index)) {apIndex} (tracked s)
        (tracked (halFetchExisting env keyIds s apIndex).1) := by
  intro mac place
  unfold halFetchExisting
  rw [getApName_answers hok.apName]
  dsimp only
  rw [hassoc]
  dsimp only
  rw [tracked_detectDisconnection hok, tracked_addClients hok]
  simp only [Set.mem_singleton_iff, forall_eq, tracked_calls]
  grind

end
end Clients
end OpenSyncRdk
