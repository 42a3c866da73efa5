import OpenSyncRdk.Lib.Bytes

/-!
The radio that statistics are asked of, and the index under which the wifi HAL knows it.
-/

namespace OpenSyncRdk
namespace Stats

inductive RadioScanType where
  | onchan
  | offchan
  | full
  deriving DecidableEq

structure RadioEntry where
  radioType : Nat
  phyName : CStr
  ifName : CStr

abbrev RadioIfNames := Option (List (Option CStr))

def radioEntryToHalRadioIndex (radioCfg : RadioEntry) (radioIfNames : RadioIfNames) : Option Nat :=
  match radioIfNames with
  | none => none
  | some names => go names 0
where
  go : List (Option CStr) → Nat → Option Nat
    | [], _ => none
    | none :: _, _ => none
    | some radioIfname :: names, r =>
      if radioIfname = radioCfg.phyName then
        some r
      else
        go names (r + 1)

end Stats
end OpenSyncRdk
