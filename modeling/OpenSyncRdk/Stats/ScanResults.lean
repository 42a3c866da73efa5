import OpenSyncRdk.Stats.Scan

/-!
What `g_scan_results` and `g_scan_results_size` say of each other. A poll that fails after the old
results were freed leaves their size behind.
-/

namespace OpenSyncRdk
namespace Stats

def Consistent (s : Scan) : Prop :=
  match s.results with
  | none => s.size = 0
  | some neighbors => s.size.toNat ≤ neighbors.length

def ReadsLastPoll (env : DppEnv) (s : Scan) : Prop :=
  ∀ radioType, ∃ count,
    statsScanHalToDppRecordArray env radioType s.results s.size statsScanMaxRecords
      =
    some ((s.lastPoll.take count).mapIdx (statsScanHalToDppRecord env radioType))

def Poll.Fails (hal : Poll) (request : ScanRequest) : Prop :=
  ∃ radioIndex errno,
    radioEntryToHalRadioIndex request.radioCfg hal.radioIfNames = some radioIndex
      ∧ hal.status radioIndex = .err errno

def FailingPoll (s : Scan) (input : ScanInput) : Prop :=
  ∃ hal request, input = .poll hal ∧ s.request = some request ∧ hal.Fails request

def FailsWithoutSize (s : Scan) (input : ScanInput) : Prop :=
  FailingPoll s input → s.size = 0

def OfLastPoll (s : Scan) : Prop :=
  ∀ neighbors, s.results = some neighbors → neighbors = s.lastPoll

theorem scanExit_spec (request : ScanRequest) (scanStatus : Bool) (s : Scan)
    : (scanExit request scanStatus s).results = s.results
        ∧ (scanExit request scanStatus s).size = s.size
        ∧ (scanExit request scanStatus s).lastPoll = s.lastPoll := by
  unfold scanExit
  split <;> exact ⟨rfl, rfl, rfl⟩

theorem statsScanResultsFetch_fails {hal : Poll} {request : ScanRequest} (hfails : hal.Fails request)
    (s : Scan)
    : (statsScanResultsFetch hal request s).results = none
        ∧ (statsScanResultsFetch hal request s).size = s.size := by
  have ⟨radioIndex, errno, hindex, hstatus⟩ := hfails
  unfold statsScanResultsFetch
  rw [hindex]
  dsimp only
  rw [hstatus]
  have hexit := scanExit_spec request false { s with results := none }
  cases errno with
  | eagain =>
    dsimp only
    split
    . exact ⟨rfl, rfl⟩
    . have hexit := scanExit_spec request false { s with results := none, timeout := s.timeout - 1 }
      exact ⟨hexit.1, hexit.2.1⟩
  | e2big => exact ⟨hexit.1, hexit.2.1⟩
  | other => exact ⟨hexit.1, hexit.2.1⟩

theorem statsScanResultsFetch_not_fails {hal : Poll} {request : ScanRequest}
    (hfails : ¬ hal.Fails request) (s : Scan)
    : let t := statsScanResultsFetch hal request s
      (∃ neighbors, t.results = some neighbors ∧ t.size = UInt32.ofNat neighbors.length
          ∧ t.lastPoll = neighbors)
        ∨ (t.results = s.results ∧ t.size = s.size ∧ t.lastPoll = s.lastPoll) := by
  unfold statsScanResultsFetch
  cases hindex : radioEntryToHalRadioIndex request.radioCfg hal.radioIfNames with
  | none =>
    apply Or.inr
    apply scanExit_spec
  | some radioIndex =>
    dsimp only
    cases hstatus : hal.status radioIndex with
    | ok neighbors =>
      apply Or.inl
      refine ⟨neighbors, ?_⟩
      apply scanExit_spec
    | err errno => exact absurd ⟨radioIndex, errno, hindex, hstatus⟩ hfails

theorem statsScanStart_spec (build : Radio.Build) (hal : Initiation) (request : ScanRequest) (s : Scan)
    : (statsScanStart build hal request s).results = s.results
        ∧ (statsScanStart build hal request s).size = s.size
        ∧ (statsScanStart build hal request s).lastPoll = s.lastPoll := by
  unfold statsScanStart
  split <;> exact ⟨rfl, rfl, rfl⟩

theorem scanStep_cases {build : Radio.Build} {s t : Scan} {input : ScanInput}
    (hstep : scanStep build s input = some t)
    : (FailingPoll s input ∧ t.results = none ∧ t.size = s.size)
        ∨ (¬ FailingPoll s input ∧ ∃ neighbors, t.results = some neighbors
            ∧ t.size = UInt32.ofNat neighbors.length ∧ t.lastPoll = neighbors)
        ∨ (¬ FailingPoll s input ∧ t.results = s.results ∧ t.size = s.size
            ∧ t.lastPoll = s.lastPoll) := by
  cases input with
  | start hal request =>
    simp only [scanStep, Option.some.injEq] at hstep
    rw [← hstep]
    refine Or.inr (Or.inr ⟨by simp [FailingPoll], ?_⟩)
    apply statsScanStart_spec
  | poll hal =>
    unfold scanStep at hstep
    cases hrequest : s.request with
    | none =>
      simp only [hrequest, Option.some.injEq] at hstep
      rw [← hstep]
      exact Or.inr (Or.inr ⟨by simp [FailingPoll, hrequest], rfl, rfl, rfl⟩)
    | some request =>
      simp only [hrequest, Option.some.injEq] at hstep
      have hfailing : FailingPoll s (.poll hal) ↔ hal.Fails request := by
        simp [FailingPoll, hrequest]
      rw [hfailing, ← hstep]
      by_cases hfails : hal.Fails request
      . exact Or.inl ⟨hfails, statsScanResultsFetch_fails hfails s⟩
      . rcases statsScanResultsFetch_not_fails hfails s with hfetched | hkept
        . exact Or.inr (Or.inl ⟨hfails, hfetched⟩)
        . exact Or.inr (Or.inr ⟨hfails, hkept⟩)
  | stop =>
    simp only [scanStep, Option.some.injEq] at hstep
    rw [← hstep]
    exact Or.inr (Or.inr ⟨by simp [FailingPoll], rfl, rfl, rfl⟩)
  | get radioCfg chanList =>
    simp only [scanStep, Option.some.injEq] at hstep
    rw [← hstep]
    exact Or.inr (Or.inr ⟨by simp [FailingPoll], rfl, rfl, rfl⟩)

theorem scanStep_total (build : Radio.Build) (s : Scan) (input : ScanInput)
    : ∃ t, scanStep build s input = some t := by
  unfold scanStep
  split
  . exact ⟨_, rfl⟩
  . split <;> exact ⟨_, rfl⟩
  . exact ⟨_, rfl⟩
  . exact ⟨_, rfl⟩

theorem ofLastPoll_step (build : Radio.Build) (s : Scan) (input : ScanInput) (t : Scan)
    (hs : OfLastPoll s) (hstep : scanStep build s input = some t)
    : OfLastPoll t := by
  intro neighbors hneighbors
  rcases scanStep_cases hstep with ⟨_, hnone, _⟩ | ⟨_, records, hsome, _, hlast⟩
    | ⟨_, hkept, _, hlast⟩
  . rw [hnone] at hneighbors
    contradiction
  . rw [hsome] at hneighbors
    injection hneighbors with hneighbors
    rw [hlast, hneighbors]
  . rw [hkept] at hneighbors
    rw [hlast]
    exact hs neighbors hneighbors

theorem consistent_step {build : Radio.Build} {s t : Scan} {input : ScanInput} (hs : Consistent s)
    (hstep : scanStep build s input = some t)
    : Consistent t ↔ FailsWithoutSize s input := by
  unfold FailsWithoutSize
  rcases scanStep_cases hstep with ⟨hfails, hnone, hsize⟩ | ⟨hfails, records, hsome, hsize, _⟩
    | ⟨hfails, hkept, hsize, _⟩
  . unfold Consistent
    rw [hnone, hsize]
    simp [hfails]
  . unfold Consistent
    rw [hsome, hsize]
    simp only [hfails, false_implies, iff_true, UInt32.toNat_ofNat']
    apply Nat.mod_le
  . unfold Consistent at hs ⊢
    rw [hkept, hsize]
    simp only [hfails, false_implies, iff_true]
    exact hs

theorem go_reads (env : DppEnv) (radioType : Nat) (neighbors : List NeighborAp2) {max : Nat}
    (remaining i : Nat) (hbound : i + remaining ≤ neighbors.length) (hmax : i ≤ max)
    : statsScanHalToDppRecordArray.go env radioType (some neighbors) max remaining i
          ((neighbors.take i).mapIdx (statsScanHalToDppRecord env radioType))
        =
      some ((neighbors.take (min (i + remaining) max)).mapIdx (statsScanHalToDppRecord env radioType))
        := by
  induction remaining generalizing i with
  | zero =>
    rw [Nat.add_zero, Nat.min_eq_left hmax]
    rfl
  | succ remaining ih =>
    have hget : (neighbors.take i).length = i := by
      rw [List.length_take]
      omega
    unfold statsScanHalToDppRecordArray.go
    rw [List.length_mapIdx, hget]
    split
    . next hfull => rw [Nat.min_eq_right (by omega), Nat.le_antisymm hfull hmax]
    . have hnext : (neighbors.take (i + 1)).mapIdx (statsScanHalToDppRecord env radioType)
          =
          (neighbors.take i).mapIdx (statsScanHalToDppRecord env radioType)
            ++ [statsScanHalToDppRecord env radioType i neighbors[i]] := by
        rw [← List.take_append_getElem (by omega), List.mapIdx_concat, hget]
      rw [Option.getD_some, List.getElem?_eq_getElem (by omega)]
      dsimp only
      rw [← hnext, ih (i + 1) (by omega) (by omega), Nat.add_right_comm, Nat.add_assoc]

theorem array_reads (env : DppEnv) (radioType : Nat) {neighbors : List NeighborAp2} {size : UInt32}
    (hsize : size.toNat ≤ neighbors.length) (max : Nat)
    : statsScanHalToDppRecordArray env radioType (some neighbors) size max
        =
      some ((neighbors.take (min (cInt size.toNat).toNat max)).mapIdx
        (statsScanHalToDppRecord env radioType)) := by
  have hcount := cInt_le size.toNat
  have hreads := go_reads env radioType neighbors (cInt size.toNat).toNat 0 (by omega)
    (Nat.zero_le max)
  rw [Nat.zero_add] at hreads
  exact hreads

theorem readsLastPoll_of_consistent (env : DppEnv) {s : Scan} (hconsistent : Consistent s)
    (hlast : OfLastPoll s)
    : ReadsLastPoll env s := by
  intro radioType
  unfold Consistent at hconsistent
  cases hresults : s.results with
  | none =>
    rw [hresults] at hconsistent
    rw [hconsistent]
    exact ⟨0, rfl⟩
  | some neighbors =>
    rw [hresults] at hconsistent
    rw [← hlast neighbors hresults]
    exact ⟨_, array_reads env radioType hconsistent statsScanMaxRecords⟩

/-- A poll that fails is harmless only where no size is left that it would leave behind. -/
theorem scan_consistent_iff (build : Radio.Build) (env : DppEnv) (inputs : List ScanInput)
    : Machine.Always (scanStep build) (fun s => Consistent s ∧ ReadsLastPoll env s) Scan.initial inputs
        ↔
      Machine.AllSteps (scanStep build) FailsWithoutSize Scan.initial inputs := by
  apply Machine.always_iff_allSteps_of_invariant (ofLastPoll_step build)
  . intro s input hlast ⟨hconsistent, _⟩
    have ⟨t, ht⟩ := scanStep_total build s input
    rw [← consistent_step hconsistent ht]
    constructor
    . intro ⟨t', ht', hconsistent', _⟩
      rw [ht] at ht'
      injection ht' with ht'
      rw [ht']
      exact hconsistent'
    . intro hconsistent'
      exact ⟨t, ht, hconsistent',
        readsLastPoll_of_consistent env hconsistent' (ofLastPoll_step build s input t hlast ht)⟩
  . intro neighbors hneighbors
    contradiction
  . refine ⟨rfl, ?_⟩
    apply readsLastPoll_of_consistent
    . rfl
    . intro neighbors hneighbors
      contradiction

def wifi0 : RadioEntry :=
  { radioType := 1, phyName := cstr "wifi0", ifName := cstr "wl0" }

def noApIfnames : Radio.ApIfnames :=
  { ap24 := cstr "none", ap50 := cstr "none", ap60 := cstr "none" }

def allVaps : Radio.Build :=
  { controlAllVaps := true, radio6gSupport := false, home := noApIfnames, bhaul := noApIfnames
    onboard := noApIfnames, cPortal := noApIfnames, fronthaul := noApIfnames
  }

def startWifi0 : ScanInput :=
  .start
    { radioIfNames := some [some (cstr "wifi0")]
      vapInfoMap := fun _ => some [{ vapIndex := 0, vapName := cstr "wl0", enabled := true }]
      startNeighborScan := fun _ => true
    }
    { radioCfg := wifi0, scanType := .onchan, scanCb := true, scanCtx := 0 }

def pollWifi0 (status : NeighboringWiFiStatus) : ScanInput :=
  .poll { radioIfNames := some [some (cstr "wifi0")], status := fun _ => status }

def neighborAp : NeighborAp2 :=
  { apBSSID := cstr "02:00:00:00:00:01", apSSID := cstr "home", apChannel := 6
    apSignalStrength := -60, apOperatingChannelBandwidth := cstr "11NG_HT20"
  }

def dppEnv : DppEnv :=
  { bssidSize := 18, ssidSize := 33, time := fun _ => 1700000000 }

theorem not_scan_consistent
    : ∃ s,
        Machine.run (scanStep allVaps) Scan.initial
            [startWifi0, pollWifi0 (.ok [neighborAp]), startWifi0, pollWifi0 (.err .eagain)]
          = some s
          ∧ ¬ Consistent s
          ∧ statsScanGet dppEnv wifi0 [6] s [] = none := by
  refine ⟨_, rfl, ?_, ?_⟩
  . intro hconsistent
    have hsize : (1 : UInt32) = 0 := hconsistent
    exact absurd hsize (by decide)
  . decide

end Stats
end OpenSyncRdk
