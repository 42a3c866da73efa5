import OpenSyncRdk.Lib.Machine
import OpenSyncRdk.Radio.Resync
import OpenSyncRdk.Stats.Radio

/-!
The neighbor scan, `stats.c`: `stats_scan_start` arms a timer, `stats_scan_results_fetch` polls the wifi
HAL for the results when it expires, and `stats_scan_get` reads the results that the last poll left in
`g_scan_results`. An array that is read outside of its bounds gives `none`.
-/

namespace OpenSyncRdk
namespace Stats

structure NeighborAp2 where
  apBSSID : CStr
  apSSID : CStr
  apChannel : Nat
  apSignalStrength : Int
  apOperatingChannelBandwidth : CStr
  deriving DecidableEq

structure DppEnv where
  bssidSize : Nat
  ssidSize : Nat
  time : Nat → Nat

inductive RadioChanwidth where
  | mhz20
  | mhz40
  | mhz40Above
  | mhz40Below
  | mhz80
  deriving DecidableEq

structure DppNeighborRecord where
  radioType : Nat
  bssid : CStr
  ssid : CStr
  chan : Nat
  sig : Int
  lastseen : Nat
  chanwidth : RadioChanwidth
  deriving DecidableEq

inductive ScanErrno where
  | eagain
  | e2big
  | other
  deriving DecidableEq

inductive NeighboringWiFiStatus where
  | ok (neighbors : List NeighborAp2)
  | err (errno : ScanErrno)

structure ScanRequest where
  radioCfg : RadioEntry
  scanType : RadioScanType
  scanCb : Bool
  scanCtx : Nat

structure Initiation where
  radioIfNames : RadioIfNames
  vapInfoMap : Nat → Option (List Radio.VapInfo)
  startNeighborScan : Nat → Bool

structure Poll where
  radioIfNames : RadioIfNames
  status : Nat → NeighboringWiFiStatus

structure Notification where
  scanCtx : Nat
  scanStatus : Bool
  timerActive : Bool
  timeout : Int

/-- `lastPoll` is no variable of the source: it remembers the records of the last successful poll. -/
structure Scan where
  results : Option (List NeighborAp2)
  size : UInt32
  timerActive : Bool
  timeout : Int
  request : Option ScanRequest
  notified : List Notification
  lastPoll : List NeighborAp2

def statsScanMaxRecords : Nat := 300

def statsScanResultPollTimeout : Int := 100

def Scan.initial : Scan :=
  { results := none, size := 0, timerActive := false, timeout := 0, request := none, notified := []
    lastPoll := []
  }

def statsScanInitiate (build : Radio.Build) (radioCfg : RadioEntry) (hal : Initiation) : Bool :=
  match radioEntryToHalRadioIndex radioCfg hal.radioIfNames with
  | none => false
  | some radioIndex =>
    match hal.vapInfoMap radioIndex with
    | none => false
    | some vaps =>
      let vap := vaps.find? (fun vap =>
        vap.enabled && Radio.vapControlled build vap.vapName && vap.vapName = radioCfg.ifName)
      match vap with
      | none => false
      | some vap => hal.startNeighborScan vap.vapIndex

def statsScanStart (build : Radio.Build) (hal : Initiation) (request : ScanRequest) (s : Scan) : Scan :=
  if ¬statsScanInitiate build request.radioCfg hal then
    s
  else
    { s with
      request := some request
      timerActive := true
      timeout := statsScanResultPollTimeout
    }

def statsScanStop (s : Scan) : Scan :=
  { s with timerActive := false }

/-- The end of `stats_scan_results_fetch` from its label `exit` on. -/
def scanExit (request : ScanRequest) (scanStatus : Bool) (s : Scan) : Scan :=
  let s := { s with timerActive := false, timeout := statsScanResultPollTimeout }
  if request.scanCb then
    let notification :=
      { scanCtx := request.scanCtx, scanStatus, timerActive := s.timerActive, timeout := s.timeout }
    { s with notified := s.notified ++ [notification] }
  else
    s

def statsScanResultsFetch (hal : Poll) (request : ScanRequest) (s : Scan) : Scan :=
  match radioEntryToHalRadioIndex request.radioCfg hal.radioIfNames with
  | none => scanExit request false s
  | some radioIndex =>
    let s := { s with results := none }
    match hal.status radioIndex with
    | .ok neighbors =>
      scanExit request true
        { s with
          results := some neighbors
          size := UInt32.ofNat neighbors.length
          lastPoll := neighbors
        }
    | .err .eagain =>
      let s := { s with timeout := s.timeout - 1 }
      if s.timeout > 0 then
        s
      else
        scanExit request false s
    | .err _ => scanExit request false s

def phymodeBwTable : List (CStr × RadioChanwidth) :=
  [ (cstr "11A", .mhz20)
  , (cstr "11B", .mhz20)
  , (cstr "11G", .mhz20)
  , (cstr "11NA_HT20", .mhz20)
  , (cstr "11NG_HT20", .mhz20)
  , (cstr "11NA_HT40PLUS", .mhz40Above)
  , (cstr "11NA_HT40MINUS", .mhz40Below)
  , (cstr "11NG_HT40PLUS", .mhz40Above)
  , (cstr "11NG_HT40MINUS", .mhz40Below)
  , (cstr "11NG_HT40", .mhz40)
  , (cstr "11NA_HT40", .mhz40)
  , (cstr "11AC_VHT20", .mhz20)
  , (cstr "11AC_VHT40PLUS", .mhz40Above)
  , (cstr "11AC_VHT40MINUS", .mhz40Below)
  , (cstr "11AC_VHT40", .mhz40)
  , (cstr "11AC_VHT80", .mhz80)
  ]

def phymodeToChanwidth (phymode : CStr) : RadioChanwidth :=
  match phymodeBwTable.find? (fun row => phymode = row.1) with
  | some row => row.2
  | none => .mhz20

def rssiToAboveNoiseFloor (rssi : Int) : Int :=
  if rssi + 95 < 0 then 0 else rssi + 95

def autoRssiToAboveNoiseFloor (rssi : Int) : Int :=
  if rssi < 0 then rssiToAboveNoiseFloor rssi else rssi

def statsScanHalToDppRecord (env : DppEnv) (radioType : Nat) (i : Nat) (hal : NeighborAp2)
    : DppNeighborRecord :=
  { radioType
    bssid := hal.apBSSID.take env.bssidSize
    ssid := strscpy env.ssidSize hal.apSSID
    chan := hal.apChannel
    sig := autoRssiToAboveNoiseFloor hal.apSignalStrength
    lastseen := env.time i
    chanwidth := phymodeToChanwidth hal.apOperatingChannelBandwidth
  }

def statsScanHalToDppRecordArray (env : DppEnv) (radioType : Nat) (halArray : Option (List NeighborAp2))
    (halNum : UInt32) (scanRecordsSize : Nat) : Option (List DppNeighborRecord) :=
  go (cInt halNum.toNat).toNat 0 []
where
  go : Nat → Nat → List DppNeighborRecord → Option (List DppNeighborRecord)
    | 0, _, scanRecords => some scanRecords
    | remaining + 1, i, scanRecords =>
      if scanRecords.length ≥ scanRecordsSize then
        some scanRecords
      else
        match (halArray.getD [])[i]? with
        | none => none
        | some hal =>
          go remaining (i + 1) (scanRecords ++ [statsScanHalToDppRecord env radioType i hal])

/-- The loop over `rec_cmp`, which marks the records that `recNew` stands for as not seen. -/
def markDuplicates (recNew : DppNeighborRecord) (rest : List DppNeighborRecord)
    : List DppNeighborRecord :=
  rest.map (fun recCmp =>
    if recNew.chan ≠ recCmp.chan then
      recCmp
    else if recNew.bssid = recCmp.bssid then
      { recCmp with lastseen := 0 }
    else
      recCmp)

@[simp]
theorem length_markDuplicates (recNew : DppNeighborRecord) (rest : List DppNeighborRecord)
    : (markDuplicates recNew rest).length = rest.length := by
  simp [markDuplicates]

def statsScanExtractNeighborsFromSsids (chanList : List Nat)
    : List DppNeighborRecord → List DppNeighborRecord → List DppNeighborRecord
  | [], neighborList => neighborList
  | recNew :: rest, neighborList =>
    if recNew.lastseen = 0 then
      statsScanExtractNeighborsFromSsids chanList rest neighborList
    else if ¬chanList.contains recNew.chan then
      statsScanExtractNeighborsFromSsids chanList rest neighborList
    else
      statsScanExtractNeighborsFromSsids chanList (markDuplicates recNew rest)
        (neighborList ++ [recNew])
termination_by scanResults => scanResults.length

def statsScanGet (env : DppEnv) (radioCfg : RadioEntry) (chanList : List Nat) (s : Scan)
    (neighborList : List DppNeighborRecord) : Option (List DppNeighborRecord) :=
  match statsScanHalToDppRecordArray env radioCfg.radioType s.results s.size statsScanMaxRecords with
  | none => none
  | some scanRecords => some (statsScanExtractNeighborsFromSsids chanList scanRecords neighborList)

inductive ScanInput where
  | start (hal : Initiation) (request : ScanRequest)
  | poll (hal : Poll)
  | stop
  | get (radioCfg : RadioEntry) (chanList : List Nat)

/--
The timer has no callback before the first scan. Other than that it may expire at any moment. The
callbacks of a scan, which may read the results or start another scan, come as inputs after the poll.
-/
def scanStep (build : Radio.Build) (s : Scan) : ScanInput → Option Scan
  | .start hal request => some (statsScanStart build hal request s)
  | .poll hal =>
    match s.request with
    | none => some s
    | some request => some (statsScanResultsFetch hal request s)
  | .stop => some (statsScanStop s)
  | .get _ _ => some s

end Stats
end OpenSyncRdk
