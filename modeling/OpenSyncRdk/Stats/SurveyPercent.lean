import OpenSyncRdk.Stats.Survey

/-!
The percentages of a survey against the growth of the counters. The percentages of an off-channel scan
are computed in 32 bits, where a hundredfold growth has to fit.
-/

namespace OpenSyncRdk
namespace Stats

abbrev HalCounter := ChannelStats → UInt64

def grown (counter : HalCounter) (old new : ChannelStats) : Nat :=
  (counter new).toNat - (counter old).toNat

def active : HalCounter :=
  ChannelStats.chUtilizationTotal

def components : List HalCounter :=
  [ ChannelStats.chUtilizationBusy, ChannelStats.chUtilizationBusyTx
  , ChannelStats.chUtilizationBusySelf, ChannelStats.chUtilizationBusyRx
  , ChannelStats.chUtilizationBusyExt
  ]

structure Interval (old new : ChannelStats) : Prop where
  active_le : active old ≤ active new
  pos : 0 < grown active old new
  lt : grown active old new < 2 ^ 32
  component_le : ∀ counter ∈ components, counter old ≤ counter new
  share : ∀ counter ∈ components, grown counter old new ≤ grown active old new

def commonPercentages : List (HalCounter × (DppSurveyRecord → Nat)) :=
  [ (ChannelStats.chUtilizationBusy, DppSurveyRecord.chanBusy)
  , (ChannelStats.chUtilizationBusyTx, DppSurveyRecord.chanTx)
  , (ChannelStats.chUtilizationBusyRx, DppSurveyRecord.chanRx)
  ]

def onchanPercentages : List (HalCounter × (DppSurveyRecord → Nat)) :=
  [ (ChannelStats.chUtilizationBusySelf, DppSurveyRecord.chanSelf)
  , (ChannelStats.chUtilizationBusyExt, DppSurveyRecord.chanBusyExt)
  ]

def percentages : RadioScanType → List (HalCounter × (DppSurveyRecord → Nat))
  | .onchan => commonPercentages ++ onchanPercentages
  | .offchan => commonPercentages
  | .full => commonPercentages

def Exact (scanType : RadioScanType) (old new : ChannelStats) (report : DppSurveyRecord) : Prop :=
  ∀ entry ∈ percentages scanType,
    entry.2 report = 100 * grown entry.1 old new / grown active old new

def cumulative : SurveyBuild :=
  { cumulativeSurveyOnchan := true, cumulativeSurveyOffchan := true }

def SurveyHal.Snapshot (hal : SurveyHal) (radioCfg : RadioEntry) (chanList : List Nat) (i : Nat)
    (chan : ChannelStats) : Prop :=
  ∃ radioIndex stats,
    radioEntryToHalRadioIndex radioCfg hal.radioIfNames = some radioIndex
      ∧ hal.radioChannelStats radioIndex (chanList.map requestedChannel) = some stats
      ∧ stats i = chan

def surveyReport (build : SurveyBuild) (halNew halOld : SurveyHal) (radioCfg : RadioEntry)
    (chanList : List Nat) (i : Nat) (surveyRecord : DppSurveyRecord) (scanType : RadioScanType)
    : Option DppSurveyRecord := do
  let surveysNew ← statsSurveyGet halNew radioCfg chanList scanType []
  let surveysOld ← statsSurveyGet halOld radioCfg chanList scanType []
  let dataNew ← surveysNew[i]?
  let dataOld ← surveysOld[i]?
  statsSurveyConvert build scanType dataNew dataOld surveyRecord

def SurveyExact (old new : ChannelStats) (report : RadioScanType → Option DppSurveyRecord) : Prop :=
  ∃ onchan,
    report .onchan = some onchan ∧ Exact .onchan old new onchan
      ∧ ∀ scanType, ∃ record,
          report scanType = some record ∧ Exact scanType old new record
            ∧ ∀ entry ∈ commonPercentages, entry.2 record = entry.2 onchan

theorem percent64_toNat (lhs rhs : UInt64)
    : (percent lhs rhs).toNat = lhs.toNat * 100 % 2 ^ 64 / rhs.toNat := by
  unfold percent
  split
  . rw [UInt64.toNat_div, UInt64.toNat_mul]
    rfl
  . next hnot =>
    rw [gt_iff_lt, UInt64.lt_iff_toNat_lt, UInt64.toNat_zero] at hnot
    rw [Nat.eq_zero_of_not_pos hnot, Nat.div_zero]
    rfl

theorem percent32_toNat (lhs rhs : UInt32)
    : (percent lhs rhs).toNat = lhs.toNat * 100 % 2 ^ 32 / rhs.toNat := by
  unfold percent
  split
  . rw [UInt32.toNat_div, UInt32.toNat_mul]
    rfl
  . next hnot =>
    rw [gt_iff_lt, UInt32.lt_iff_toNat_lt, UInt32.toNat_zero] at hnot
    rw [Nat.eq_zero_of_not_pos hnot, Nat.div_zero]
    rfl

theorem percent64_eq {new old activeNew activeOld : UInt64} (hle : old ≤ new)
    (hactive : activeOld ≤ activeNew)
    (hlt : activeNew.toNat - activeOld.toNat < 2 ^ 32)
    (hshare : new.toNat - old.toNat ≤ activeNew.toNat - activeOld.toNat)
    : (percent (new - old) (activeNew - activeOld)).toNat
        =
      100 * (new.toNat - old.toNat) / (activeNew.toNat - activeOld.toNat) := by
  rw [percent64_toNat, UInt64.toNat_sub_of_le new old hle,
    UInt64.toNat_sub_of_le activeNew activeOld hactive]
  rw [Nat.mod_eq_of_lt (by omega), Nat.mul_comm]

theorem toUInt32_sub_toNat {new old : UInt64} (hle : old ≤ new)
    (hlt : new.toNat - old.toNat < 2 ^ 32)
    : (new.toUInt32 - old.toUInt32).toNat = new.toNat - old.toNat := by
  have hle' := UInt64.le_iff_toNat_le.mp hle
  rw [UInt32.toNat_sub, UInt64.toNat_toUInt32, UInt64.toNat_toUInt32]
  omega

theorem mod_div_eq_iff {val div size : Nat} (hpos : 0 < div) (hlt : div < size)
    : val % size / div = val / div ↔ val < size := by
  constructor
  . intro heq
    apply Decidable.byContradiction
    intro hge
    have hmod : val % size + div ≤ val := by
      have := Nat.mod_lt val (show size > 0 by omega)
      have := Nat.div_add_mod val size
      have := Nat.le_div_iff_mul_le (show 0 < size by omega) |>.mpr (show 1 * size ≤ val by omega)
      have := Nat.mul_le_mul_left size this
      omega
    have hdiv := Nat.div_le_div_right (c := div) hmod
    rw [Nat.add_div_right _ hpos] at hdiv
    omega
  . intro hval
    rw [Nat.mod_eq_of_lt hval]

theorem percent32_eq_iff {new old activeNew activeOld : UInt64} (hle : old ≤ new)
    (hactive : activeOld ≤ activeNew)
    (hpos : 0 < activeNew.toNat - activeOld.toNat)
    (hlt : activeNew.toNat - activeOld.toNat < 2 ^ 32)
    (hshare : new.toNat - old.toNat ≤ activeNew.toNat - activeOld.toNat)
    : (percent (new.toUInt32 - old.toUInt32) (activeNew.toUInt32 - activeOld.toUInt32)).toNat
          =
        100 * (new.toNat - old.toNat) / (activeNew.toNat - activeOld.toNat)
        ↔
      100 * (new.toNat - old.toNat) < 2 ^ 32 := by
  rw [percent32_toNat, toUInt32_sub_toNat hle (by omega), toUInt32_sub_toNat hactive hlt,
    Nat.mul_comm _ 100]
  apply mod_div_eq_iff hpos hlt

theorem convertOnchan_exact {old new : ChannelStats} (hinterval : Interval old new)
    (surveyRecord : DppSurveyRecord)
    : ∃ report,
        convertOnchan (xdelta true (surveyBss new) (surveyBss old)) surveyRecord = some report
          ∧ Exact .onchan old new report := by
  have ⟨hactive, hpos, hlt, hcomponent, hshare⟩ := hinterval
  have hpercent : ∀ counter ∈ components,
      (percent (counter new - counter old) (active new - active old)).toNat
        =
      100 * grown counter old new / grown active old new := by
    intro counter hmem
    apply percent64_eq (hcomponent counter hmem) hactive hlt (hshare counter hmem)
  have hne : (xdelta true (surveyBss new) (surveyBss old)).chanActive ≠ 0 := by
    change active new - active old ≠ 0
    intro hzero
    have hsub := UInt64.toNat_sub_of_le _ _ hactive
    rw [hzero, UInt64.toNat_zero] at hsub
    unfold grown at hpos
    omega
  unfold convertOnchan
  rw [if_neg hne]
  refine ⟨_, rfl, ?_⟩
  intro entry hentry
  simp only [percentages, commonPercentages, onchanPercentages, List.cons_append, List.nil_append,
    List.mem_cons, List.not_mem_nil, or_false] at hentry
  rcases hentry with rfl | rfl | rfl | rfl | rfl
  . exact hpercent ChannelStats.chUtilizationBusy (by simp [components])
  . exact hpercent ChannelStats.chUtilizationBusyTx (by simp [components])
  . exact hpercent ChannelStats.chUtilizationBusyRx (by simp [components])
  . exact hpercent ChannelStats.chUtilizationBusySelf (by simp [components])
  . exact hpercent ChannelStats.chUtilizationBusyExt (by simp [components])

theorem convertOffchan_exact {old new : ChannelStats} (hinterval : Interval old new)
    (surveyRecord : DppSurveyRecord)
    : ∃ report,
        convertOffchan (xdelta true (surveyObss new) (surveyObss old)) surveyRecord = some report
          ∧ ∀ entry ∈ commonPercentages,
              entry.2 report = 100 * grown entry.1 old new / grown active old new
                ↔ 100 * grown entry.1 old new < 2 ^ 32 := by
  have ⟨hactive, hpos, hlt, hcomponent, hshare⟩ := hinterval
  have hpercent : ∀ counter ∈ components,
      (percent ((counter new).toUInt32 - (counter old).toUInt32)
            ((active new).toUInt32 - (active old).toUInt32)).toNat
          =
        100 * grown counter old new / grown active old new
        ↔
      100 * grown counter old new < 2 ^ 32 := by
    intro counter hmem
    apply percent32_eq_iff (hcomponent counter hmem) hactive hpos hlt (hshare counter hmem)
  have hne : (xdelta true (surveyObss new) (surveyObss old)).chanActive ≠ 0 := by
    change (active new).toUInt32 - (active old).toUInt32 ≠ 0
    intro hzero
    have hsub := toUInt32_sub_toNat hactive hlt
    rw [hzero, UInt32.toNat_zero] at hsub
    unfold grown at hpos
    omega
  unfold convertOffchan
  rw [if_neg hne]
  refine ⟨_, rfl, ?_⟩
  intro entry hentry
  simp only [commonPercentages, List.mem_cons, List.not_mem_nil, or_false] at hentry
  rcases hentry with rfl | rfl | rfl
  . exact hpercent ChannelStats.chUtilizationBusy (by simp [components])
  . exact hpercent ChannelStats.chUtilizationBusyTx (by simp [components])
  . exact hpercent ChannelStats.chUtilizationBusyRx (by simp [components])

theorem statsSurveyGet_getElem {hal : SurveyHal} {radioCfg : RadioEntry} {chanList : List Nat} {i : Nat}
    {chan : ChannelStats} (hi : i < chanList.length) (hsnapshot : hal.Snapshot radioCfg chanList i chan)
    (scanType : RadioScanType)
    : ∃ surveys record,
        statsSurveyGet hal radioCfg chanList scanType [] = some surveys
          ∧ surveys[i]? = some record
          ∧ record.stats = surveyStats chan scanType := by
  have ⟨radioIndex, stats, hindex, hstats, hchan⟩ := hsnapshot
  unfold statsSurveyGet
  rw [hindex, ← hchan]
  dsimp only
  rw [hstats]
  refine ⟨_, ⟨chanList[i], hal.timestamp i, surveyStats (stats i) scanType⟩, rfl, ?_, rfl⟩
  simp [hi]

theorem surveyReport_eq {halNew halOld : SurveyHal} {radioCfg : RadioEntry} {chanList : List Nat}
    {i : Nat} {old new : ChannelStats} (hi : i < chanList.length)
    (hnew : halNew.Snapshot radioCfg chanList i new) (hold : halOld.Snapshot radioCfg chanList i old)
    (build : SurveyBuild) (surveyRecord : DppSurveyRecord) (scanType : RadioScanType)
    : ∃ dataNew dataOld : SurveyRecord scanType,
        dataNew.stats = surveyStats new scanType
          ∧ dataOld.stats = surveyStats old scanType
          ∧ surveyReport build halNew halOld radioCfg chanList i surveyRecord scanType
              = statsSurveyConvert build scanType dataNew dataOld surveyRecord := by
  have ⟨surveysNew, dataNew, hgetNew, hdataNew, hstatsNew⟩ := statsSurveyGet_getElem hi hnew scanType
  have ⟨surveysOld, dataOld, hgetOld, hdataOld, hstatsOld⟩ := statsSurveyGet_getElem hi hold scanType
  refine ⟨dataNew, dataOld, hstatsNew, hstatsOld, ?_⟩
  unfold surveyReport
  simp [hgetNew, hgetOld, hdataNew, hdataOld]

/--
Both scan types report the same exact percentages, unless one of the growths that the off-channel scan
multiplies by 100 is too large for its 32 bits.
-/
theorem survey_exact_iff {halNew halOld : SurveyHal} {radioCfg : RadioEntry} {chanList : List Nat}
    {i : Nat} {old new : ChannelStats} (hi : i < chanList.length)
    (hnew : halNew.Snapshot radioCfg chanList i new) (hold : halOld.Snapshot radioCfg chanList i old)
    (hinterval : Interval old new) (surveyRecord : DppSurveyRecord)
    : SurveyExact old new (surveyReport cumulative halNew halOld radioCfg chanList i surveyRecord)
        ↔
      ∀ entry ∈ commonPercentages, 100 * grown entry.1 old new < 2 ^ 32 := by
  have ⟨onchan, honchan, hexact⟩ := convertOnchan_exact hinterval surveyRecord
  have ⟨offchan, hoffchan, hiff⟩ := convertOffchan_exact hinterval surveyRecord
  have hreport : ∀ scanType,
      surveyReport cumulative halNew halOld radioCfg chanList i surveyRecord scanType
        =
      some (if scanType = .onchan then onchan else offchan) := by
    intro scanType
    have ⟨dataNew, dataOld, hstatsNew, hstatsOld, heq⟩ :=
      surveyReport_eq hi hnew hold cumulative surveyRecord scanType
    rw [heq]
    unfold statsSurveyConvert
    rw [hstatsNew, hstatsOld]
    cases scanType with
    | onchan => exact honchan
    | offchan => exact hoffchan
    | full => exact hoffchan
  constructor
  . intro ⟨_, _, _, hall⟩ entry hentry
    have ⟨record, hrecord, hexactOff, _⟩ := hall .offchan
    rw [hreport] at hrecord
    injection hrecord with hrecord
    rw [← hiff entry hentry]
    rw [show offchan = record from hrecord]
    exact hexactOff entry hentry
  . intro hfits
    have hexactOff : ∀ entry ∈ commonPercentages,
        entry.2 offchan = 100 * grown entry.1 old new / grown active old new := by
      intro entry hentry
      rw [hiff entry hentry]
      exact hfits entry hentry
    have hcommon : ∀ entry ∈ commonPercentages, entry.2 offchan = entry.2 onchan := by
      intro entry hentry
      rw [hexactOff entry hentry, hexact entry (List.mem_append_left _ hentry)]
    refine ⟨onchan, hreport .onchan, hexact, ?_⟩
    intro scanType
    refine ⟨_, hreport scanType, ?_⟩
    cases scanType with
    | onchan => exact ⟨hexact, fun _ _ => rfl⟩
    | offchan => exact ⟨hexactOff, hcommon⟩
    | full => exact ⟨hexactOff, hcommon⟩

def snapshotOf (busy : UInt64) : ChannelStats :=
  { requestedChannel 6 with chUtilizationTotal := 2 * busy, chUtilizationBusy := busy }

def halOf (chan : ChannelStats) : SurveyHal :=
  { radioIfNames := some [some (cstr "wifi0")], radioChannelStats := fun _ _ => some (fun _ => chan)
    timestamp := fun _ => 0
  }

def radio0 : RadioEntry :=
  { radioType := 1, phyName := cstr "wifi0", ifName := cstr "wl0" }

def emptySurvey : DppSurveyRecord :=
  { chanBusy := 0, chanTx := 0, chanRx := 0, chanSelf := 0, chanBusyExt := 0, durationMs := 0
    chanNoise := 0
  }

theorem snapshot_halOf (chan : ChannelStats)
    : (halOf chan).Snapshot radio0 [6] 0 chan :=
  ⟨0, _, rfl, rfl, rfl⟩

theorem survey_exact_iff_small
    : SurveyExact (snapshotOf 1000) (snapshotOf 31000)
        (surveyReport cumulative (halOf (snapshotOf 31000)) (halOf (snapshotOf 1000)) radio0 [6] 0
          emptySurvey) := by
  have hinterval : Interval (snapshotOf 1000) (snapshotOf 31000) := by
    constructor <;> decide
  apply (survey_exact_iff (by decide) (snapshot_halOf _) (snapshot_halOf _) hinterval emptySurvey).mpr
  decide

theorem not_survey_exact
    : Interval (snapshotOf 0) (snapshotOf 50000000)
        ∧ ¬ SurveyExact (snapshotOf 0) (snapshotOf 50000000)
              (surveyReport cumulative (halOf (snapshotOf 50000000)) (halOf (snapshotOf 0)) radio0 [6] 0
                emptySurvey) := by
  refine ⟨by constructor <;> decide, ?_⟩
  intro ⟨_, _, _, hall⟩
  have ⟨record, hrecord, hexact, _⟩ := hall .offchan
  have hbusy := hexact (ChannelStats.chUtilizationBusy, DppSurveyRecord.chanBusy)
    (by simp [percentages, commonPercentages])
  have hreported : (surveyReport cumulative (halOf (snapshotOf 50000000)) (halOf (snapshotOf 0)) radio0
      [6] 0 emptySurvey .offchan).map DppSurveyRecord.chanBusy = some 7 := by
    decide
  have hshare : 100 * grown ChannelStats.chUtilizationBusy (snapshotOf 0) (snapshotOf 50000000)
      / grown active (snapshotOf 0) (snapshotOf 50000000) = 50 := by
    decide
  rw [hrecord] at hreported
  injection hreported with hreported
  dsimp only at hbusy
  rw [hshare] at hbusy
  omega

end Stats
end OpenSyncRdk
