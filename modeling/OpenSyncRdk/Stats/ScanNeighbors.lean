import OpenSyncRdk.Lib.Firsts
import OpenSyncRdk.Stats.ScanResults

/-!
The neighbors that a scan reports. `stats_scan_extract_neighbors_from_ssids` keeps one record for every
access point; the records that it gets were converted before, as many as there is space for.
-/

namespace OpenSyncRdk
namespace Stats

def DppNeighborRecord.key (record : DppNeighborRecord) : Nat × CStr :=
  (record.chan, record.bssid)

def onScannedChannel (chanList : List Nat) (record : DppNeighborRecord) : Bool :=
  record.lastseen ≠ 0 ∧ record.chan ∈ chanList

theorem filter_markDuplicates (chanList : List Nat) (recNew : DppNeighborRecord)
    (rest : List DppNeighborRecord)
    : (markDuplicates recNew rest).filter (onScannedChannel chanList)
        =
      (rest.filter (onScannedChannel chanList)).filter (fun record => record.key ≠ recNew.key) := by
  induction rest with
  | nil => rfl
  | cons recCmp rest ih =>
    unfold markDuplicates at *
    rw [List.map_cons]
    by_cases hkey : recCmp.key = recNew.key
    . have hchan : recNew.chan = recCmp.chan := (congrArg Prod.fst hkey).symm
      have hbssid : recNew.bssid = recCmp.bssid := (congrArg Prod.snd hkey).symm
      rw [List.filter_cons_of_neg (by simp [hchan, hbssid, onScannedChannel]), ih,
        List.filter_filter, List.filter_filter, List.filter_cons_of_neg (by simp [hkey])]
    . have hsame : ¬(recNew.chan = recCmp.chan ∧ recNew.bssid = recCmp.bssid) := by
        intro hboth
        apply hkey
        unfold DppNeighborRecord.key
        rw [hboth.1, hboth.2]
      have hunmarked
          : (if recNew.chan ≠ recCmp.chan then recCmp
              else if recNew.bssid = recCmp.bssid then { recCmp with lastseen := 0 } else recCmp)
              =
            recCmp := by
        split
        . rfl
        . next hchan =>
          rw [if_neg]
          intro hbssid
          exact hsame ⟨Decidable.not_not.mp hchan, hbssid⟩
      rw [hunmarked]
      cases hscanned : onScannedChannel chanList recCmp with
      | true =>
        rw [List.filter_cons_of_pos hscanned, List.filter_cons_of_pos hscanned, ih,
          List.filter_cons_of_pos (by simpa using hkey)]
      | false =>
        rw [List.filter_cons_of_neg (by simp [hscanned]), List.filter_cons_of_neg (by simp [hscanned]),
          ih]

theorem extract_eq_firsts (chanList : List Nat) (scanResults neighborList : List DppNeighborRecord)
    : statsScanExtractNeighborsFromSsids chanList scanResults neighborList
        =
      neighborList
        ++ firsts DppNeighborRecord.key (scanResults.filter (onScannedChannel chanList)) := by
  induction scanResults, neighborList using statsScanExtractNeighborsFromSsids.induct chanList with
  | case1 neighborList =>
    unfold statsScanExtractNeighborsFromSsids
    simp [firsts]
  | case2 neighborList recNew rest hseen ih =>
    unfold statsScanExtractNeighborsFromSsids
    rw [if_pos hseen, ih, List.filter_cons_of_neg (by simp [onScannedChannel, hseen])]
  | case3 neighborList recNew rest hseen hchan ih =>
    unfold statsScanExtractNeighborsFromSsids
    rw [if_neg hseen, if_pos hchan, ih,
      List.filter_cons_of_neg (by simpa [onScannedChannel, hseen] using hchan)]
  | case4 neighborList recNew rest hseen hchan ih =>
    unfold statsScanExtractNeighborsFromSsids
    rw [if_neg hseen, if_neg hchan, ih, filter_markDuplicates, firsts_filter_ne,
      List.filter_cons_of_pos (by simpa [onScannedChannel, hseen] using hchan), firsts,
      List.append_assoc, List.singleton_append]

def neighborsOf (chanList : List Nat) (scanResults : List DppNeighborRecord) : List DppNeighborRecord :=
  (scanResults.zipIdx.filter (fun entry =>
    FirstAt DppNeighborRecord.key (onScannedChannel chanList) scanResults entry.1 entry.2)).map Prod.fst

theorem extractNeighbors_appends (chanList : List Nat)
    (scanResults neighborList : List DppNeighborRecord)
    : statsScanExtractNeighborsFromSsids chanList scanResults neighborList
        =
      neighborList ++ neighborsOf chanList scanResults := by
  rw [extract_eq_firsts]
  unfold neighborsOf
  rw [← firsts_filter_eq_positions]

def Scan.polled (s : Scan) (halArray : List NeighborAp2) : Scan :=
  { s with
    results := some halArray
    size := UInt32.ofNat halArray.length
    lastPoll := halArray
  }

def NeighborsKept (env : DppEnv) (radioCfg : RadioEntry) (chanList : List Nat)
    (halArray : List NeighborAp2) (s : Scan) : Prop :=
  ∃ neighborList,
    statsScanGet env radioCfg chanList (s.polled halArray) [] = some neighborList
      ∧ ∀ hal ∈ halArray, hal.apChannel ∈ chanList
          → (neighborList.map DppNeighborRecord.key).count (hal.apChannel, hal.apBSSID) = 1

def convertedCount (halNum : Nat) : Nat :=
  min (cInt (UInt32.ofNat halNum).toNat).toNat statsScanMaxRecords

def AmongConverted (env : DppEnv) (halArray : List NeighborAp2) (hal : NeighborAp2) : Prop :=
  ∃ i other,
    i < convertedCount halArray.length ∧ halArray[i]? = some other ∧ env.time i ≠ 0
      ∧ other.apChannel = hal.apChannel ∧ other.apBSSID.take env.bssidSize = hal.apBSSID

theorem statsScanGet_polled (env : DppEnv) (radioCfg : RadioEntry) (chanList : List Nat)
    (halArray : List NeighborAp2) (s : Scan)
    : statsScanGet env radioCfg chanList (s.polled halArray) []
        =
      some (firsts DppNeighborRecord.key
        (((halArray.take (convertedCount halArray.length)).mapIdx
          (statsScanHalToDppRecord env radioCfg.radioType)).filter (onScannedChannel chanList))) := by
  have hsize : (UInt32.ofNat halArray.length).toNat ≤ halArray.length := by
    rw [UInt32.toNat_ofNat']
    apply Nat.mod_le
  unfold statsScanGet Scan.polled
  dsimp only
  rw [array_reads env radioCfg.radioType hsize]
  dsimp only
  rw [extract_eq_firsts]
  rfl

theorem mem_keys_iff (env : DppEnv) (radioType : Nat) {chanList : List Nat}
    (halArray : List NeighborAp2) {hal : NeighborAp2} (hchan : hal.apChannel ∈ chanList)
    : (hal.apChannel, hal.apBSSID)
          ∈ (firsts DppNeighborRecord.key
              (((halArray.take (convertedCount halArray.length)).mapIdx
                (statsScanHalToDppRecord env radioType)).filter (onScannedChannel chanList))).map
            DppNeighborRecord.key
        ↔
      AmongConverted env halArray hal := by
  rw [mem_keys_firsts]
  simp only [List.mem_map, List.mem_filter, List.mem_mapIdx]
  constructor
  . rintro ⟨record, ⟨⟨i, hi, hrecord⟩, hscanned⟩, hkey⟩
    rw [List.length_take] at hi
    rw [List.getElem_take] at hrecord
    subst hrecord
    have hseen := of_decide_eq_true hscanned
    simp only [DppNeighborRecord.key, statsScanHalToDppRecord, Prod.mk.injEq] at hkey
    exact ⟨i, halArray[i], by omega, List.getElem?_eq_getElem _, hseen.1, hkey.1, hkey.2⟩
  . rintro ⟨i, other, hi, hother, htime, hotherChan, hotherBssid⟩
    have ⟨hlt, hget⟩ := List.getElem?_eq_some_iff.mp hother
    refine ⟨statsScanHalToDppRecord env radioType i other, ⟨⟨i, ?_, ?_⟩, ?_⟩, ?_⟩
    . rw [List.length_take]
      omega
    . rw [List.getElem_take, hget]
    . rw [← hotherChan] at hchan
      exact decide_eq_true ⟨htime, hchan⟩
    . exact Prod.ext hotherChan hotherBssid

theorem neighborsKept_iff (env : DppEnv) (radioCfg : RadioEntry) (chanList : List Nat)
    (halArray : List NeighborAp2) (s : Scan)
    : NeighborsKept env radioCfg chanList halArray s
        ↔
      ∀ hal ∈ halArray, hal.apChannel ∈ chanList → AmongConverted env halArray hal := by
  have hnodup := nodup_keys_firsts DppNeighborRecord.key
    (((halArray.take (convertedCount halArray.length)).mapIdx
      (statsScanHalToDppRecord env radioCfg.radioType)).filter (onScannedChannel chanList))
  unfold NeighborsKept
  rw [statsScanGet_polled]
  constructor
  . intro ⟨neighborList, hlist, hcount⟩ hal hhal hchan
    injection hlist with hlist
    have hone := hcount hal hhal hchan
    rw [← mem_keys_iff env radioCfg.radioType halArray hchan, ← List.one_le_count_iff, hlist, hone]
  . intro hconverted
    refine ⟨_, rfl, ?_⟩
    intro hal hhal hchan
    rw [hnodup.count, if_pos]
    rw [mem_keys_iff env radioCfg.radioType halArray hchan]
    exact hconverted hal hhal hchan

def onChannel (chan : Nat) : NeighborAp2 :=
  { neighborAp with apChannel := chan }

def crowded : List NeighborAp2 :=
  List.replicate 300 (onChannel 1) ++ [onChannel 6]

theorem not_neighborsKept_crowded
    : (crowded.filter (fun hal => hal.apChannel ∈ [6])).length ≤ statsScanMaxRecords
        ∧ ¬NeighborsKept dppEnv wifi0 [6] crowded .initial := by
  refine ⟨by decide +kernel, ?_⟩
  rintro ⟨neighborList, hlist, hcount⟩
  have hone := hcount (onChannel 6) (List.mem_append_right _ (List.mem_singleton_self _))
    (by simp [onChannel])
  rw [statsScanGet_polled] at hlist
  injection hlist with hlist
  have hmem : ((onChannel 6).apChannel, (onChannel 6).apBSSID)
      ∈ neighborList.map DppNeighborRecord.key := by
    rw [← List.one_le_count_iff, hone]
  rw [← hlist, mem_keys_iff dppEnv wifi0.radioType crowded (by simp [onChannel])] at hmem
  have ⟨i, other, hi, hother, _, hchan, _⟩ := hmem
  have hcount : convertedCount crowded.length = 300 := by decide +kernel
  rw [hcount] at hi
  unfold crowded at hother
  rw [List.getElem?_append_left (by rw [List.length_replicate]; exact hi), List.getElem?_replicate, if_pos hi] at hother
  injection hother with hother
  rw [← hother] at hchan
  exact absurd hchan (by decide)

end Stats
end OpenSyncRdk
