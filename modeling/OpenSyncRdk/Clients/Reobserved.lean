import OpenSyncRdk.Clients.Fetched

/-!
A client that is seen again where it already was. `clients_connection` compares the key id that it is
called with against the one that it stored, which is shorter where the field is too small for it.
-/

namespace OpenSyncRdk
namespace Clients

def Silent (env : Env) (s : State) (apIndex : Int) (mac keyId : CStr) : Prop :=
  (clientsConnection env s apIndex mac keyId).reports = s.reports
    ∧ (clientsConnection env s apIndex mac keyId).connected = s.connected

theorem take_strscpy_eq_iff (keyId : CStr)
    : (strscpy maxBuffer keyId).take maxBuffer = keyId.take maxBuffer ↔ keyId.length < maxBuffer := by
  constructor
  . intro heq
    have hlen := congrArg List.length heq
    unfold strscpy maxBuffer at *
    simp only [List.length_take] at hlen
    omega
  . intro hlen
    unfold strscpy
    rw [List.take_of_length_le (show keyId.length ≤ maxBuffer - 1 by omega)]

section

variable {env : Env} {mac : CStr} {s : State}

theorem setKeyId_reports (client : Client) (keyId ifname : CStr)
    : (setKeyId env s mac client keyId ifname).reports.length = s.reports.length + 1 := by
  simp [setKeyId, clientsUpdate]

theorem silent_iff_take (hname : ∀ calls, env.apNameFails calls = false) {client : Client}
    (hclient : s.connected[mac]? = some client) (keyId : CStr)
    : Silent env s client.apIndex mac keyId
        ↔
      client.keyId.take maxBuffer = keyId.take maxBuffer := by
  unfold Silent clientsConnection
  rw [getApName_answers hname]
  dsimp only
  rw [hclient]
  simp only [ne_eq, not_true_eq_false, ↓reduceIte]
  by_cases hkeyId : client.keyId.take maxBuffer = keyId.take maxBuffer
  . simp only [hkeyId, not_true_eq_false, ↓reduceIte, and_self]
  . simp only [hkeyId, not_false_eq_true, ↓reduceIte, iff_false, not_and]
    intro hreports
    have hlen := congrArg List.length hreports
    rw [setKeyId_reports] at hlen
    simp only [clientsUpdate, List.length_append, List.length_singleton] at hlen
    omega

end

theorem clientsConnection_silent_iff {env : Env} {s : State}
    (hname : ∀ calls, env.apNameFails calls = false) (hs : Fits s) (apIndex : Int) (mac : MacAddr)
    (keyId : CStr)
    : Silent env (clientsConnection env s apIndex mac.lower keyId) apIndex mac.lower keyId
        ↔
      keyId.length < maxBuffer := by
  have hmac : mac.lower.length < maxMacStr := by
    rw [lower_length]
    decide
  have hentry := congrFun (entries_clientsConnection_fits hname hs apIndex keyId hmac) mac.lower
  rw [Function.update_self] at hentry
  rw [← take_strscpy_eq_iff]
  exact silent_iff_take hname hentry keyId

def longKeyId : CStr :=
  List.replicate 64 107

/-- A key id of 64 characters is one that `cached_key_ids` holds and `client_t` does not. -/
theorem not_silent_longKeyId
    : let mac : MacAddr := ⟨2, 0, 0, 0, 0, 1⟩
      longKeyId.length = 64
        ∧ ¬Silent (lists []) (clientsConnection (lists []) .initial 0 mac.lower longKeyId) 0 mac.lower
          longKeyId := by
  intro mac
  refine ⟨by decide, ?_⟩
  intro hsilent
  have hlen := congrArg List.length hsilent.1
  revert hlen
  decide +kernel

theorem clientsConnection_silent_key
    : let mac : MacAddr := ⟨2, 0, 0, 0, 0, 1⟩
      Silent (lists []) (clientsConnection (lists []) stale 0 mac.lower (cstr "key")) 0 mac.lower
        (cstr "key") := by
  intro mac
  have hstale : Fits stale := initial_fits.insert _ ⟨cstr "key", 1⟩ (by decide)
  rw [clientsConnection_silent_iff (fun _ => rfl) hstale]
  decide

end Clients
end OpenSyncRdk
