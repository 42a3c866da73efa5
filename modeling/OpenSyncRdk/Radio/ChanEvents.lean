import OpenSyncRdk.Lib.Bytes

/-!
The channel events of the radios, `radio.c`: `chan_event_async_cb` copies the queued events and handles
them one after another. What `radio_state_update` publishes is left out but for the radar information.
-/

namespace OpenSyncRdk
namespace Radio

inductive ChanEventType where
  | channelsChanged
  | dfsRadarDetected
  | other (val : Nat)
  deriving DecidableEq

structure HalCbEntry where
  radioIndex : Nat
  event : ChanEventType
  channel : UInt8
  tvSec : Int
  deriving DecidableEq

/-- An event of a batch. `stateGet` is what `radio_state_get` returns if it is called for the event. -/
structure Drained where
  entry : HalCbEntry
  stateGet : Bool
  deriving DecidableEq

structure RadarInfo where
  lastChannel : CStr
  numDetected : CStr
  time : CStr
  deriving DecidableEq

structure RadioUpdate where
  radioIndex : Nat
  event : HalCbEntry
  radar : Option RadarInfo
  deriving DecidableEq

structure Dfs where
  lastChannel : CStr
  numDetected : CStr
  radarTimestamp : Nat
  updates : List RadioUpdate
  deriving DecidableEq

def zeroEntry : HalCbEntry :=
  { radioIndex := 0, event := .channelsChanged, channel := 0, tvSec := 0 }

def updateRadarInfo (s : Dfs) : RadarInfo :=
  { lastChannel := if s.lastChannel.length > 0 then s.lastChannel else cstr "0"
    numDetected := if s.numDetected.length > 0 then s.numDetected else []
    time := decimal s.radarTimestamp
  }

def Dfs.radioStateUpdate (s : Dfs) (drained : Drained) : Dfs :=
  let radar := if drained.stateGet then some (updateRadarInfo s) else none
  let update := { radioIndex := drained.entry.radioIndex, event := drained.entry, radar }
  { s with updates := s.updates ++ [update] }

/-- The body of the loop over `cbe`. `first` is the entry that `cbe` points to, the first of the batch. -/
def chanEvent (first : HalCbEntry) (s : Dfs × Bool) (drained : Drained) : Dfs × Bool :=
  match drained.entry.event with
  | .channelsChanged =>
    if ¬s.2 then
      (s.1.radioStateUpdate drained, true)
    else
      s
  | .dfsRadarDetected =>
    let dfs :=
      { s.1 with
        lastChannel := decimal drained.entry.channel.toNat
        numDetected := cstr "1"
        radarTimestamp := unsignedInt first.tvSec
      }
    (dfs.radioStateUpdate drained, s.2)
  | .other _ => s

def firstOf (batch : List Drained) : HalCbEntry :=
  (batch.map Drained.entry).headD zeroEntry

def chanEventAsyncCb (s : Dfs) (batch : List Drained) : Dfs :=
  (batch.foldl (chanEvent (firstOf batch)) (s, false)).1

def HalCbEntry.isRadar (entry : HalCbEntry) : Bool :=
  entry.event = .dfsRadarDetected

def HalCbEntry.isChange (entry : HalCbEntry) : Bool :=
  entry.event = .channelsChanged

end Radio
end OpenSyncRdk
