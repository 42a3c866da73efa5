import Mathlib.Algebra.Group.Int.Defs
import OpenSyncRdk.Lib.Machine
import OpenSyncRdk.Stats.SurveyPercent

/-!
The percentages of a survey where the driver may restart between the two snapshots. The differences of
the counters are taken in 64 bits on-channel and in 32 bits otherwise, and nothing tells a counter that
started from zero again from one that grew.
-/

namespace OpenSyncRdk
namespace Stats

def counterWidth : RadioScanType → Nat
  | .onchan => 64
  | .offchan => 32
  | .full => 32

def inWidth (scanType : RadioScanType) (val : Int) : Nat :=
  (val % 2 ^ counterWidth scanType).toNat

def change (counter : HalCounter) (old new : ChannelStats) : Int :=
  (counter new).toNat - (counter old).toNat

def WithinActive (scanType : RadioScanType) (old new : ChannelStats) (counter : HalCounter) : Prop :=
  inWidth scanType (100 * change counter old new) < 101 * inWidth scanType (change active old new)

def recordOf (scanType : RadioScanType) (chan timestampMs : Nat) (snapshot : ChannelStats)
    : SurveyRecord scanType :=
  { chan, timestampMs, stats := surveyStats snapshot scanType }

def PercentagesBounded (scanType : RadioScanType) (dataNew dataOld : SurveyRecord scanType)
    (surveyRecord : DppSurveyRecord) : Prop :=
  ∀ report,
    statsSurveyConvert cumulative scanType dataNew dataOld surveyRecord = some report
      → ∀ entry ∈ percentages scanType, entry.2 report ≤ 100

theorem inWidth_onchan (val : Int)
    : inWidth .onchan val = (val % 2 ^ 64).toNat := by
  rfl

theorem inWidth_offchan (val : Int)
    : inWidth .offchan val = (val % 2 ^ 32).toNat := by
  rfl

theorem hundredfold_mod (val : Int) {size : Nat} (hsize : 0 < size)
    : (val % size).toNat * 100 % size = (100 * val % size).toNat := by
  have hne : (size : Int) ≠ 0 := by omega
  have hval := Int.emod_nonneg val hne
  have hhundred := Int.emod_nonneg (100 * val) hne
  apply Int.ofNat_inj.mp
  rw [Int.natCast_emod, Int.natCast_mul, Int.toNat_of_nonneg hval, Int.toNat_of_nonneg hhundred,
    Int.mul_comm 100 val, Int.mul_emod val, Int.mul_emod (val % size), Int.emod_emod]
  rfl

theorem sub64_toNat (new old : UInt64)
    : (new - old).toNat = inWidth .onchan ((new.toNat : Int) - old.toNat) := by
  have hlt := old.toNat_lt
  rw [UInt64.toNat_sub, inWidth_onchan]
  omega

theorem sub32_toNat (new old : UInt64)
    : (new.toUInt32 - old.toUInt32).toNat = inWidth .offchan ((new.toNat : Int) - old.toNat) := by
  rw [UInt32.toNat_sub, UInt64.toNat_toUInt32, UInt64.toNat_toUInt32, inWidth_offchan]
  omega

theorem percent64_sub (new old activeNew activeOld : UInt64)
    : (percent (new - old) (activeNew - activeOld)).toNat
        =
      inWidth .onchan (100 * ((new.toNat : Int) - old.toNat))
        / inWidth .onchan ((activeNew.toNat : Int) - activeOld.toNat) := by
  rw [percent64_toNat, sub64_toNat, sub64_toNat]
  congr 1
  exact hundredfold_mod _ (by decide)

theorem percent32_sub (new old activeNew activeOld : UInt64)
    : (percent (new.toUInt32 - old.toUInt32) (activeNew.toUInt32 - activeOld.toUInt32)).toNat
        =
      inWidth .offchan (100 * ((new.toNat : Int) - old.toNat))
        / inWidth .offchan ((activeNew.toNat : Int) - activeOld.toNat) := by
  rw [percent32_toNat, sub32_toNat, sub32_toNat]
  congr 1
  exact hundredfold_mod _ (by decide)

theorem sub64_eq_zero_iff (new old : UInt64)
    : new - old = 0 ↔ inWidth .onchan ((new.toNat : Int) - old.toNat) = 0 := by
  rw [← UInt64.toNat_inj, sub64_toNat, UInt64.toNat_zero]

theorem sub32_eq_zero_iff (new old : UInt64)
    : new.toUInt32 - old.toUInt32 = 0 ↔ inWidth .offchan ((new.toNat : Int) - old.toNat) = 0 := by
  rw [← UInt32.toNat_inj, sub32_toNat, UInt32.toNat_zero]

theorem percentage_le_iff {hundredfold actives : Nat} (hpos : 0 < actives)
    : hundredfold / actives ≤ 100 ↔ hundredfold < 101 * actives := by
  rw [← Nat.lt_succ_iff, Nat.div_lt_iff_lt_mul hpos]

section

variable (old new : ChannelStats) (surveyRecord : DppSurveyRecord)

theorem convertOnchan_spec
    : let report := convertOnchan (xdelta true (surveyBss new) (surveyBss old)) surveyRecord
      (report = none ↔ inWidth .onchan (change active old new) = 0)
        ∧ ∀ record, report = some record
          → ∀ entry ∈ percentages .onchan,
              entry.2 record
                = inWidth .onchan (100 * change entry.1 old new)
                    / inWidth .onchan (change active old new) := by
  have hzero := sub64_eq_zero_iff (active new) (active old)
  unfold change
  rw [← hzero]
  dsimp only
  unfold convertOnchan
  split
  . next hactive => exact ⟨iff_of_true rfl hactive, fun _ hsome => by contradiction⟩
  . next hactive =>
    refine ⟨iff_of_false (fun hnone => by contradiction) hactive, ?_⟩
    intro record hrecord entry hentry
    injection hrecord with hrecord
    rw [← hrecord]
    simp only [percentages, commonPercentages, onchanPercentages, List.cons_append, List.nil_append,
      List.mem_cons, List.not_mem_nil, or_false] at hentry
    rcases hentry with rfl | rfl | rfl | rfl | rfl <;> apply percent64_sub

theorem convertOffchan_spec
    : let report := convertOffchan (xdelta true (surveyObss new) (surveyObss old)) surveyRecord
      (report = none ↔ inWidth .offchan (change active old new) = 0)
        ∧ ∀ record, report = some record
          → ∀ entry ∈ percentages .offchan,
              entry.2 record
                = inWidth .offchan (100 * change entry.1 old new)
                    / inWidth .offchan (change active old new) := by
  have hzero := sub32_eq_zero_iff (active new) (active old)
  unfold change
  rw [← hzero]
  dsimp only
  unfold convertOffchan
  split
  . next hactive => exact ⟨iff_of_true rfl hactive, fun _ hsome => by contradiction⟩
  . next hactive =>
    refine ⟨iff_of_false (fun hnone => by contradiction) hactive, ?_⟩
    intro record hrecord entry hentry
    injection hrecord with hrecord
    rw [← hrecord]
    simp only [percentages, commonPercentages, List.mem_cons, List.not_mem_nil, or_false] at hentry
    rcases hentry with rfl | rfl | rfl <;> apply percent32_sub

variable (chan timeOld timeNew : Nat)

theorem statsSurveyConvert_spec (scanType : RadioScanType)
    : let report := statsSurveyConvert cumulative scanType (recordOf scanType chan timeNew new)
        (recordOf scanType chan timeOld old) surveyRecord
      (report = none ↔ inWidth scanType (change active old new) = 0)
        ∧ ∀ record, report = some record
          → ∀ entry ∈ percentages scanType,
              entry.2 record
                = inWidth scanType (100 * change entry.1 old new)
                    / inWidth scanType (change active old new) := by
  cases scanType with
  | onchan => exact convertOnchan_spec old new surveyRecord
  | offchan => exact convertOffchan_spec old new surveyRecord
  | full => exact convertOffchan_spec old new surveyRecord

theorem percentagesBounded_iff_within (scanType : RadioScanType)
    : PercentagesBounded scanType (recordOf scanType chan timeNew new)
          (recordOf scanType chan timeOld old) surveyRecord
        ↔
      inWidth scanType (change active old new) = 0
        ∨ ∀ entry ∈ percentages scanType, WithinActive scanType old new entry.1 := by
  have ⟨hnone, hvalue⟩ := statsSurveyConvert_spec old new surveyRecord chan timeOld timeNew scanType
  rw [← hnone]
  unfold PercentagesBounded
  cases hreport : statsSurveyConvert cumulative scanType (recordOf scanType chan timeNew new)
      (recordOf scanType chan timeOld old) surveyRecord with
  | none => exact iff_of_true (fun _ hsome => by contradiction) (.inl rfl)
  | some report =>
    rw [hreport] at hnone hvalue
    have hpos : 0 < inWidth scanType (change active old new) := by
      apply Nat.pos_of_ne_zero
      intro hzero
      have hsome := hnone.mpr hzero
      contradiction
    have hentry : ∀ entry ∈ percentages scanType,
        entry.2 report ≤ 100 ↔ WithinActive scanType old new entry.1 := by
      intro entry hentry
      rw [hvalue report rfl entry hentry]
      exact percentage_le_iff hpos
    constructor
    . intro hbounded
      refine .inr ?_
      intro entry hmem
      rw [← hentry entry hmem]
      exact hbounded report rfl entry hmem
    . intro hwithin record hrecord entry hmem
      injection hrecord with hrecord
      rw [← hrecord, hentry entry hmem]
      exact (hwithin.resolve_left (by simp)) entry hmem

end

/-! The driver that the snapshots are taken from. -/

inductive DriverInput where
  | count (growth : ChannelStats)
  | restart

def ChannelStats.advance (s growth : ChannelStats) : ChannelStats :=
  { s with
    chUtilizationTotal := s.chUtilizationTotal + growth.chUtilizationTotal
    chUtilizationBusy := s.chUtilizationBusy + growth.chUtilizationBusy
    chUtilizationBusyTx := s.chUtilizationBusyTx + growth.chUtilizationBusyTx
    chUtilizationBusySelf := s.chUtilizationBusySelf + growth.chUtilizationBusySelf
    chUtilizationBusyRx := s.chUtilizationBusyRx + growth.chUtilizationBusyRx
    chUtilizationBusyExt := s.chUtilizationBusyExt + growth.chUtilizationBusyExt
  }

/-- The active time of a driver does not get to the end of its 64 bits. -/
def driverStep (s : ChannelStats) : DriverInput → Option ChannelStats
  | .count growth =>
    if (∀ counter ∈ components, counter growth ≤ active growth)
        ∧ (active s).toNat + (active growth).toNat < 2 ^ 64 then
      some (s.advance growth)
    else
      none
  | .restart => some (requestedChannel s.chNumber)

structure Accumulated (old new : ChannelStats) : Prop where
  active_le : active old ≤ active new
  component_le : ∀ counter ∈ components, counter old ≤ counter new
  share : ∀ counter ∈ components, grown counter old new ≤ grown active old new

def WithinShare (s : ChannelStats) : Prop :=
  ∀ counter ∈ components, counter s ≤ active s

theorem advance_counter (s growth : ChannelStats) (hcounter : counter ∈ components)
    : counter (s.advance growth) = counter s + counter growth := by
  simp only [components, List.mem_cons, List.not_mem_nil, or_false] at hcounter
  rcases hcounter with rfl | rfl | rfl | rfl | rfl <;> rfl

theorem requestedChannel_counter (chan : Nat) (hcounter : counter ∈ components)
    : counter (requestedChannel chan) = 0 := by
  simp only [components, List.mem_cons, List.not_mem_nil, or_false] at hcounter
  rcases hcounter with rfl | rfl | rfl | rfl | rfl <;> rfl

theorem driverStep_count {s t growth : ChannelStats} (hs : WithinShare s)
    (hstep : driverStep s (.count growth) = some t)
    : WithinShare t ∧ (active t).toNat = (active s).toNat + (active growth).toNat
        ∧ ∀ counter ∈ components,
            (counter t).toNat = (counter s).toNat + (counter growth).toNat
              ∧ (counter growth).toNat ≤ (active growth).toNat := by
  simp only [driverStep] at hstep
  split at hstep
  . next hcount =>
    injection hstep with hstep
    have ⟨hshare, hlt⟩ := hcount
    have hactive : (active t).toNat = (active s).toNat + (active growth).toNat := by
      rw [← hstep]
      change (active s + active growth).toNat = _
      rw [UInt64.toNat_add, Nat.mod_eq_of_lt hlt]
    have hcounter : ∀ counter ∈ components,
        (counter t).toNat = (counter s).toNat + (counter growth).toNat
          ∧ (counter growth).toNat ≤ (active growth).toNat := by
      intro counter hmem
      have hle := UInt64.le_iff_toNat_le.mp (hs counter hmem)
      have hgrowth := UInt64.le_iff_toNat_le.mp (hshare counter hmem)
      rw [← hstep, advance_counter s growth hmem, UInt64.toNat_add, Nat.mod_eq_of_lt (by omega)]
      exact ⟨rfl, hgrowth⟩
    refine ⟨?_, hactive, hcounter⟩
    intro counter hmem
    have hle := UInt64.le_iff_toNat_le.mp (hs counter hmem)
    have ⟨hadd, hgrowth⟩ := hcounter counter hmem
    rw [UInt64.le_iff_toNat_le, hactive, hadd]
    omega
  . contradiction

theorem withinShare_of_run {inputs : List DriverInput} {s : ChannelStats}
    (hrun : Machine.run driverStep (requestedChannel chan) inputs = some s)
    : WithinShare s := by
  apply Machine.run_invariant _ _ hrun
  . intro s t input _ hs hstep
    cases input with
    | count growth => exact (driverStep_count hs hstep).1
    | restart =>
      injection hstep with hstep
      intro counter hmem
      rw [← hstep, requestedChannel_counter _ hmem]
      exact UInt64.zero_le
  . intro counter hmem
    rw [requestedChannel_counter _ hmem]
    exact UInt64.zero_le

theorem accumulated_of_run {between : List DriverInput} {old new : ChannelStats} (hold : WithinShare old)
    (hcounts : DriverInput.restart ∉ between) (hrun : Machine.run driverStep old between = some new)
    : Accumulated old new := by
  have hboth : WithinShare new ∧ Accumulated old new := by
    apply Machine.run_invariant _ _ hrun
    . intro s t input hmem ⟨hs, hactive, hcomponent, hshare⟩ hstep
      cases input with
      | restart => contradiction
      | count growth =>
        have ⟨ht, hactive', hcounter⟩ := driverStep_count hs hstep
        rw [UInt64.le_iff_toNat_le] at hactive
        refine ⟨ht, ?_, ?_, ?_⟩
        . rw [UInt64.le_iff_toNat_le]
          omega
        . intro counter hmem
          have hle := UInt64.le_iff_toNat_le.mp (hcomponent counter hmem)
          have ⟨hadd, _⟩ := hcounter counter hmem
          rw [UInt64.le_iff_toNat_le]
          omega
        . intro counter hmem
          have hle := UInt64.le_iff_toNat_le.mp (hcomponent counter hmem)
          have hgrown := hshare counter hmem
          have ⟨hadd, hgrowth⟩ := hcounter counter hmem
          unfold grown at *
          omega
    . refine ⟨hold, UInt64.le_refl _, fun counter _ => UInt64.le_refl _, ?_⟩
      intro counter _
      simp [grown]
  exact hboth.2

theorem inWidth_natCast_le (scanType : RadioScanType) (val : Nat)
    : inWidth scanType val ≤ val := by
  cases scanType with
  | onchan =>
    rw [inWidth_onchan]
    omega
  | offchan =>
    rw [inWidth_offchan]
    omega
  | full =>
    change inWidth .offchan val ≤ val
    rw [inWidth_offchan]
    omega

theorem inWidth_natCast {scanType : RadioScanType} {val : Nat}
    (hval : val < 2 ^ counterWidth scanType)
    : inWidth scanType val = val := by
  have hint : (val : Int) < 2 ^ counterWidth scanType := by
    exact_mod_cast hval
  unfold inWidth
  rw [Int.emod_eq_of_lt (Int.natCast_nonneg val) hint]
  rfl

theorem change_eq_grown {counter : HalCounter} (hle : counter old ≤ counter new)
    : change counter old new = grown counter old new := by
  have hle' := UInt64.le_iff_toNat_le.mp hle
  unfold change grown
  omega

theorem withinActive_of_accumulated {old new : ChannelStats} {scanType : RadioScanType}
    (haccumulated : Accumulated old new) (hwidth : grown active old new < 2 ^ counterWidth scanType)
    : inWidth scanType (change active old new) = 0
        ∨ ∀ counter ∈ components, WithinActive scanType old new counter := by
  rw [change_eq_grown haccumulated.active_le, inWidth_natCast hwidth, or_iff_not_imp_left]
  intro hne counter hcounter
  have hshare := haccumulated.share counter hcounter
  have hle := inWidth_natCast_le scanType (100 * grown counter old new)
  unfold WithinActive
  rw [change_eq_grown haccumulated.active_le, inWidth_natCast hwidth,
    change_eq_grown (haccumulated.component_le counter hcounter)]
  rw [Int.natCast_mul] at hle
  apply Nat.lt_of_le_of_lt hle
  omega

theorem percentages_components (scanType : RadioScanType)
    : ∀ entry ∈ percentages scanType, entry.1 ∈ components := by
  cases scanType <;> simp [percentages, commonPercentages, onchanPercentages, components]

theorem withinActive_of_counts {before between : List DriverInput} {old new : ChannelStats}
    {scanType : RadioScanType}
    (hold : Machine.run driverStep (requestedChannel chan) before = some old)
    (hnew : Machine.run driverStep old between = some new) (hcounts : DriverInput.restart ∉ between)
    (hwidth : grown active old new < 2 ^ counterWidth scanType)
    : inWidth scanType (change active old new) = 0
        ∨ ∀ entry ∈ percentages scanType, WithinActive scanType old new entry.1 := by
  have haccumulated := accumulated_of_run (withinShare_of_run hold) hcounts hnew
  rcases withinActive_of_accumulated haccumulated hwidth with hzero | hwithin
  . exact .inl hzero
  . exact .inr (fun entry hentry => hwithin entry.1 (percentages_components scanType entry hentry))

theorem withinActive_of_behind {old new : ChannelStats} {scanType : RadioScanType}
    (hbehind : change active old new < 0)
    (hhalf : -2 ^ (counterWidth scanType - 1) ≤ change active old new) (counter : HalCounter)
    : WithinActive scanType old new counter := by
  unfold WithinActive
  cases scanType with
  | onchan =>
    rw [inWidth_onchan, inWidth_onchan]
    simp only [counterWidth] at hhalf
    omega
  | offchan =>
    rw [inWidth_offchan, inWidth_offchan]
    simp only [counterWidth] at hhalf
    omega
  | full =>
    change inWidth .offchan _ < 101 * inWidth .offchan _
    rw [inWidth_offchan, inWidth_offchan]
    simp only [counterWidth] at hhalf
    omega

theorem percentagesBounded_iff (old new : ChannelStats) (surveyRecord : DppSurveyRecord)
    (chan timeOld timeNew : Nat) (scanType : RadioScanType)
    : let bounded := PercentagesBounded scanType (recordOf scanType chan timeNew new)
        (recordOf scanType chan timeOld old) surveyRecord
      (bounded
          ↔
        inWidth scanType (change active old new) = 0
          ∨ ∀ entry ∈ percentages scanType, WithinActive scanType old new entry.1)
        ∧ ∀ before between : List DriverInput,
            Machine.run driverStep (requestedChannel chan) before = some old
              → Machine.run driverStep old between = some new
              → (DriverInput.restart ∉ between ∧ grown active old new < 2 ^ counterWidth scanType)
                  ∨ (change active old new < 0
                      ∧ -2 ^ (counterWidth scanType - 1) ≤ change active old new)
              → bounded := by
  intro bounded
  have hiff := percentagesBounded_iff_within old new surveyRecord chan timeOld timeNew scanType
  refine ⟨hiff, ?_⟩
  intro before between hold hnew hdriver
  apply hiff.mpr
  rcases hdriver with ⟨hcounts, hwidth⟩ | ⟨hbehind, hhalf⟩
  . exact withinActive_of_counts hold hnew hcounts hwidth
  . exact .inr (fun entry _ => withinActive_of_behind hbehind hhalf entry.1)

def growthOf (total busy : UInt64) : ChannelStats :=
  { requestedChannel 6 with chUtilizationTotal := total, chUtilizationBusy := busy }

theorem not_percentagesBounded_restart
    : ∃ old new,
        Machine.run driverStep (requestedChannel 6) [.count (growthOf 500000 0)] = some old
          ∧ Machine.run driverStep old [.restart, .count (growthOf 1000000 1000000)] = some new
          ∧ ∀ scanType,
              ¬PercentagesBounded scanType (recordOf scanType 6 1 new) (recordOf scanType 6 0 old)
                emptySurvey := by
  refine ⟨growthOf 500000 0, growthOf 1000000 1000000, rfl, rfl, ?_⟩
  intro scanType hbounded
  have hbusy : (statsSurveyConvert cumulative scanType
      (recordOf scanType 6 1 (growthOf 1000000 1000000)) (recordOf scanType 6 0 (growthOf 500000 0))
      emptySurvey).map DppSurveyRecord.chanBusy = some 200 := by
    cases scanType <;> decide
  rw [Option.map_eq_some_iff] at hbusy
  have ⟨report, hreport, htwice⟩ := hbusy
  have hle := hbounded report hreport (ChannelStats.chUtilizationBusy, DppSurveyRecord.chanBusy)
    (by cases scanType <;> simp [percentages, commonPercentages])
  dsimp only at hle
  omega

end Stats
end OpenSyncRdk
