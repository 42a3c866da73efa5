import OpenSyncRdk.Stats.ScanResults

/-!
The polls of one scan, from `stats_scan_start` to the callback that tells its end. The timer calls
`stats_scan_results_fetch` again and again until it is stopped.
-/

namespace OpenSyncRdk
namespace Stats

inductive PollOutcome where
  | lookupFails
  | succeeds
  | again
  | fails
  deriving DecidableEq

def Poll.outcome (hal : Poll) (request : ScanRequest) : PollOutcome :=
  match radioEntryToHalRadioIndex request.radioCfg hal.radioIfNames with
  | none => .lookupFails
  | some radioIndex =>
    match hal.status radioIndex with
    | .ok _ => .succeeds
    | .err .eagain => .again
    | .err .e2big => .fails
    | .err .other => .fails

/-- A timer that was stopped does not call back any more. -/
def timerExpires (s : Scan) (hal : Poll) : Scan :=
  match s.request with
  | none => s
  | some request => if s.timerActive then statsScanResultsFetch hal request s else s

/-- The first poll that is not told to come back later, or the last one that there is time for. -/
def notifyingPoll (request : ScanRequest) (polls : List Poll) : Nat :=
  min (polls.findIdx (fun hal => hal.outcome request ≠ .again)) (statsScanResultPollTimeout.toNat - 1)

def notifications (request : ScanRequest) (hal : Poll) : List Notification :=
  if request.scanCb then
    [{ scanCtx := request.scanCtx, scanStatus := hal.outcome request = .succeeds, timerActive := false
       timeout := statsScanResultPollTimeout }]
  else
    []

structure Waits (request : ScanRequest) (s t : Scan) (polls : Nat) : Prop where
  notified : t.notified = s.notified
  timerActive : t.timerActive = true
  timeout : t.timeout = s.timeout - polls
  request : t.request = some request

structure Ends (request : ScanRequest) (s t : Scan) (hal : Poll) : Prop where
  notified : t.notified = s.notified ++ notifications request hal
  timerActive : t.timerActive = false
  timeout : t.timeout = statsScanResultPollTimeout

theorem scanExit_ends {s t : Scan} (hsame : t.notified = s.notified) (request : ScanRequest) (hal : Poll)
    : Ends request s (scanExit request (hal.outcome request = .succeeds) t) hal := by
  unfold scanExit
  constructor
  . unfold notifications
    split
    . simp [hsame]
    . simp [hsame]
  . split <;> rfl
  . split <;> rfl

theorem fetch_cases (hal : Poll) (request : ScanRequest) (s : Scan)
    : (hal.outcome request = .again ∧ 0 < s.timeout - 1
          ∧ statsScanResultsFetch hal request s
              = { s with results := none, timeout := s.timeout - 1 })
        ∨ (¬(hal.outcome request = .again ∧ 0 < s.timeout - 1)
            ∧ ∃ t, t.notified = s.notified
              ∧ statsScanResultsFetch hal request s
                  = scanExit request (hal.outcome request = .succeeds) t) := by
  unfold statsScanResultsFetch
  cases hindex : radioEntryToHalRadioIndex request.radioCfg hal.radioIfNames with
  | none =>
    have houtcome : hal.outcome request = .lookupFails := by simp [Poll.outcome, hindex]
    rw [houtcome]
    exact .inr ⟨by simp, s, rfl, rfl⟩
  | some radioIndex =>
    dsimp only
    cases hstatus : hal.status radioIndex with
    | ok neighbors =>
      have houtcome : hal.outcome request = .succeeds := by simp [Poll.outcome, hindex, hstatus]
      rw [houtcome]
      refine .inr ⟨by simp, _, ?_, rfl⟩
      rfl
    | err errno =>
      cases errno with
      | eagain =>
        have houtcome : hal.outcome request = .again := by simp [Poll.outcome, hindex, hstatus]
        rw [houtcome]
        dsimp only
        split
        . next htime => exact .inl ⟨rfl, htime, rfl⟩
        . next htime =>
          refine .inr ⟨fun hagain => htime hagain.2, _, ?_, rfl⟩
          rfl
      | _ =>
        have houtcome : hal.outcome request = .fails := by simp [Poll.outcome, hindex, hstatus]
        rw [houtcome]
        refine .inr ⟨by simp, _, ?_, rfl⟩
        rfl

theorem timerExpires_stopped (hstopped : s.timerActive = false) (polls : List Poll)
    : polls.foldl timerExpires s = s := by
  induction polls with
  | nil => rfl
  | cons hal polls ih =>
    have hsame : timerExpires s hal = s := by
      unfold timerExpires
      split
      . rfl
      . simp [hstopped]
    rw [List.foldl_cons, hsame, ih]

theorem timerExpires_active (hactive : s.timerActive = true) (hrequest : s.request = some request)
    (hal : Poll)
    : timerExpires s hal = statsScanResultsFetch hal request s := by
  simp [timerExpires, hactive, hrequest]

theorem polls_notify (request : ScanRequest) (budget : Nat) (s : Scan) (polls : List Poll)
    (hactive : s.timerActive = true) (hrequest : s.request = some request)
    (htimeout : s.timeout = budget + 1)
    : let last := min (polls.findIdx (fun hal => hal.outcome request ≠ .again)) budget
      (polls.length ≤ last → Waits request s (polls.foldl timerExpires s) polls.length)
        ∧ ∀ hal, polls[last]? = some hal → Ends request s (polls.foldl timerExpires s) hal := by
  induction polls generalizing s budget with
  | nil =>
    intro last
    refine ⟨fun _ => ⟨rfl, hactive, ?_, hrequest⟩, fun hal hget => by simp at hget⟩
    simp
  | cons hal polls ih =>
    intro last
    rw [List.foldl_cons, timerExpires_active hactive hrequest]
    rcases fetch_cases hal request s with ⟨hagain, htime, hwaits⟩ | ⟨hends, t, ht, hexit⟩
    . have hbudget : 1 ≤ budget := by omega
      have hnext := ih (budget - 1) { s with results := none, timeout := s.timeout - 1 } hactive hrequest
        (by simp only; omega)
      have hlast : last = min (polls.findIdx (fun hal => hal.outcome request ≠ .again)) (budget - 1) + 1
          := by
        simp only [last, List.findIdx_cons, hagain, ne_eq, not_true_eq_false, decide_false, cond_false]
        omega
      rw [hwaits, hlast]
      constructor
      . intro hle
        have hrest := hnext.1 (by rw [List.length_cons] at hle; omega)
        refine ⟨hrest.notified, hrest.timerActive, ?_, hrest.request⟩
        have hrestTimeout := hrest.timeout
        dsimp only at hrestTimeout
        rw [hrestTimeout, List.length_cons]
        omega
      . intro other hother
        have hrest := hnext.2 other hother
        exact ⟨hrest.notified, hrest.timerActive, hrest.timeout⟩
    . have hended : Ends request s (statsScanResultsFetch hal request s) hal := by
        rw [hexit]
        exact scanExit_ends ht request hal
      have hlast : last = 0 := by
        simp only [last, List.findIdx_cons]
        by_cases hagain : hal.outcome request = .again
        . have htime : ¬0 < s.timeout - 1 := fun htime => hends ⟨hagain, htime⟩
          omega
        . simp [hagain]
      rw [timerExpires_stopped hended.timerActive, hlast]
      refine ⟨fun hle => by simp at hle, ?_⟩
      intro other hother
      injection hother with hother
      rw [← hother]
      exact hended

structure NotifiedOnce (request : ScanRequest) (s t : Scan) (polls : List Poll) : Prop where
  inTime : (notifyingPoll request polls : Int) < statsScanResultPollTimeout
  waits
    : polls.length ≤ notifyingPoll request polls
      → t.notified = s.notified ∧ t.timerActive = true
          ∧ t.timeout = statsScanResultPollTimeout - polls.length
  ends : ∀ hal, polls[notifyingPoll request polls]? = some hal → Ends request s t hal

theorem scan_notifies_once {build : Radio.Build} {hal : Initiation} {request : ScanRequest} (s : Scan)
    (hstart : statsScanInitiate build request.radioCfg hal = true) (polls : List Poll)
    : NotifiedOnce request s (polls.foldl timerExpires (statsScanStart build hal request s)) polls := by
  have hstarted
      : statsScanStart build hal request s
          =
        { s with
          request := some request
          timerActive := true
          timeout := statsScanResultPollTimeout
        } := by
    simp [statsScanStart, hstart]
  rw [hstarted]
  have ⟨hwaits, hends⟩ := polls_notify request (statsScanResultPollTimeout.toNat - 1)
    { s with request := some request, timerActive := true, timeout := statsScanResultPollTimeout }
    polls rfl rfl rfl
  constructor
  . have hlast : notifyingPoll request polls ≤ statsScanResultPollTimeout.toNat - 1 := Nat.min_le_right _ _
    unfold statsScanResultPollTimeout at *
    omega
  . intro hlength
    have hwait := hwaits hlength
    exact ⟨hwait.notified, hwait.timerActive, hwait.timeout⟩
  . intro hal hget
    have hend := hends hal hget
    exact ⟨hend.notified, hend.timerActive, hend.timeout⟩

def initiateWifi0 : Initiation :=
  { radioIfNames := some [some (cstr "wifi0")]
    vapInfoMap := fun _ => some [{ vapIndex := 0, vapName := cstr "wl0", enabled := true }]
    startNeighborScan := fun _ => true
  }

def scanWifi0 : ScanRequest :=
  { radioCfg := wifi0, scanType := .onchan, scanCb := true, scanCtx := 0 }

theorem scan_notifies_once_never_done
    : let hal : Poll := { radioIfNames := some [some (cstr "wifi0")], status := fun _ => .err .eagain }
      NotifiedOnce scanWifi0 .initial
        ((List.replicate 120 hal).foldl timerExpires
          (statsScanStart allVaps initiateWifi0 scanWifi0 .initial))
        (List.replicate 120 hal) := by
  intro hal
  apply scan_notifies_once
  decide

end Stats
end OpenSyncRdk
