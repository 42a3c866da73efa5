import Mathlib.Algebra.GroupWithZero.Nat
import OpenSyncRdk.Stats.Radio

/-!
The survey of the channels, `stats.c`: `stats_survey_get` copies the counters of the wifi HAL into a
record for every channel, and `stats_survey_convert` turns two records of a channel into percentages of
the time between them. On-channel records keep the counters in 64 bits, all others in 32.
-/

namespace OpenSyncRdk
namespace Stats

structure ChannelStats where
  chNumber : Nat
  chInPool : Bool
  chNoise : Int
  chUtilizationTotal : UInt64
  chUtilizationBusy : UInt64
  chUtilizationBusyTx : UInt64
  chUtilizationBusySelf : UInt64
  chUtilizationBusyRx : UInt64
  chUtilizationBusyExt : UInt64

structure SurveyCounters (α : Type) where
  chanActive : α
  chanBusy : α
  chanBusyExt : α
  chanSelf : α
  chanRx : α
  chanTx : α
  chanNoise : Int

abbrev StatsSurveyBss := SurveyCounters UInt64

abbrev StatsSurveyObss := SurveyCounters UInt32

abbrev SurveyStats : RadioScanType → Type
  | .onchan => StatsSurveyBss
  | .offchan => StatsSurveyObss
  | .full => StatsSurveyObss

structure SurveyRecord (scanType : RadioScanType) where
  chan : Nat
  timestampMs : Nat
  stats : SurveyStats scanType

structure DppSurveyRecord where
  chanBusy : Nat
  chanTx : Nat
  chanRx : Nat
  chanSelf : Nat
  chanBusyExt : Nat
  durationMs : Nat
  chanNoise : Int
  deriving DecidableEq

structure SurveyBuild where
  cumulativeSurveyOnchan : Bool
  cumulativeSurveyOffchan : Bool

/-- `radioChannelStats` is what `wifi_getRadioChannelStats` makes of the array that it is given. -/
structure SurveyHal where
  radioIfNames : RadioIfNames
  radioChannelStats : Nat → List ChannelStats → Option (Nat → ChannelStats)
  timestamp : Nat → Nat

def surveyBss (chan : ChannelStats) : StatsSurveyBss :=
  { chanActive := chan.chUtilizationTotal
    chanBusy := chan.chUtilizationBusy
    chanTx := chan.chUtilizationBusyTx
    chanSelf := chan.chUtilizationBusySelf
    chanRx := chan.chUtilizationBusyRx
    chanBusyExt := chan.chUtilizationBusyExt
    chanNoise := chan.chNoise
  }

def surveyObss (chan : ChannelStats) : StatsSurveyObss :=
  { chanActive := chan.chUtilizationTotal.toUInt32
    chanBusy := chan.chUtilizationBusy.toUInt32
    chanTx := chan.chUtilizationBusyTx.toUInt32
    chanSelf := chan.chUtilizationBusySelf.toUInt32
    chanRx := chan.chUtilizationBusyRx.toUInt32
    chanBusyExt := chan.chUtilizationBusyExt.toUInt32
    chanNoise := chan.chNoise
  }

def surveyStats (chan : ChannelStats) : (scanType : RadioScanType) → SurveyStats scanType
  | .onchan => surveyBss chan
  | .offchan => surveyObss chan
  | .full => surveyObss chan

def requestedChannel (chan : Nat) : ChannelStats :=
  { chNumber := chan, chInPool := true, chNoise := 0, chUtilizationTotal := 0, chUtilizationBusy := 0
    chUtilizationBusyTx := 0, chUtilizationBusySelf := 0, chUtilizationBusyRx := 0
    chUtilizationBusyExt := 0
  }

def statsSurveyGet (hal : SurveyHal) (radioCfg : RadioEntry) (chanList : List Nat)
    (scanType : RadioScanType) (surveyList : List (SurveyRecord scanType))
    : Option (List (SurveyRecord scanType)) :=
  match radioEntryToHalRadioIndex radioCfg hal.radioIfNames with
  | none => none
  | some radioIndex =>
    match hal.radioChannelStats radioIndex (chanList.map requestedChannel) with
    | none => none
    | some stats =>
      some (surveyList ++ chanList.mapIdx (fun i chan =>
        { chan, timestampMs := hal.timestamp i, stats := surveyStats (stats i) scanType }))

section

variable {α : Type} [Sub α] [Mul α] [Div α] [LT α] [DecidableLT α] [OfNat α 0] [OfNat α 100]

def percent (v1 v2 : α) : α :=
  if v2 > 0 then v1 * 100 / v2 else 0

def deltaType (cumulative : Bool) (new old : α) : α :=
  if cumulative then new - old else new

def xdelta (cumulative : Bool) (dataNew dataOld : SurveyCounters α) : SurveyCounters α :=
  { chanActive := deltaType cumulative dataNew.chanActive dataOld.chanActive
    chanTx := deltaType cumulative dataNew.chanTx dataOld.chanTx
    chanRx := deltaType cumulative dataNew.chanRx dataOld.chanRx
    chanBusy := deltaType cumulative dataNew.chanBusy dataOld.chanBusy
    chanBusyExt := deltaType cumulative dataNew.chanBusyExt dataOld.chanBusyExt
    chanSelf := deltaType cumulative dataNew.chanSelf dataOld.chanSelf
    chanNoise := dataNew.chanNoise
  }

end

def convertOnchan (data : StatsSurveyBss) (surveyRecord : DppSurveyRecord)
    : Option DppSurveyRecord :=
  if data.chanActive = 0 then
    none
  else
    some
      { surveyRecord with
        chanBusy := (percent data.chanBusy data.chanActive).toNat
        chanTx := (percent data.chanTx data.chanActive).toNat
        chanRx := (percent data.chanRx data.chanActive).toNat
        chanSelf := (percent data.chanSelf data.chanActive).toNat
        chanBusyExt := (percent data.chanBusyExt data.chanActive).toNat
        durationMs := (data.chanActive / 1000).toNat
        chanNoise := data.chanNoise
      }

def convertOffchan (data : StatsSurveyObss) (surveyRecord : DppSurveyRecord)
    : Option DppSurveyRecord :=
  if data.chanActive = 0 then
    none
  else
    some
      { surveyRecord with
        chanBusy := (percent data.chanBusy data.chanActive).toNat
        chanTx := (percent data.chanTx data.chanActive).toNat
        chanRx := (percent data.chanRx data.chanActive).toNat
        durationMs := (data.chanActive / 1000).toNat
        chanNoise := data.chanNoise
      }

/-- A measurement that must be repeated gives `none`. -/
def statsSurveyConvert (build : SurveyBuild) (scanType : RadioScanType)
    (dataNew dataOld : SurveyRecord scanType) (surveyRecord : DppSurveyRecord)
    : Option DppSurveyRecord :=
  match scanType, dataNew.stats, dataOld.stats with
  | .onchan, statsNew, statsOld =>
    convertOnchan (xdelta build.cumulativeSurveyOnchan statsNew statsOld) surveyRecord
  | .offchan, statsNew, statsOld =>
    convertOffchan (xdelta build.cumulativeSurveyOffchan statsNew statsOld) surveyRecord
  | .full, statsNew, statsOld =>
    convertOffchan (xdelta build.cumulativeSurveyOffchan statsNew statsOld) surveyRecord

end Stats
end OpenSyncRdk
