import OpenSyncRdk.Bsal.Event
import OpenSyncRdk.BsalLegacy.Group

/-!
What `process_event` of `bsal_legacy.c` makes of steering events. Its allocations do not return on
failure.
-/

namespace OpenSyncRdk
namespace BsalLegacy

open Bsal (EvConnect ClientInfo ClientInfoList HalEvent Event)

def setBands (connect : EvConnect) (client : ClientInfo) : ClientInfo :=
  { client with bandCap2G := connect.bandCap2G, bandCap5G := connect.bandCap5G }

def bsalClientInfoUpdate : ClientInfoList → EvConnect → ClientInfoList :=
  Bsal.updateClientInfo setBands true

def groupGetIfaceByApIndex (group : Group) (apIndex : Int) : Option Iface :=
  match group.iface24g.filter (fun iface => iface.wifihalCfg.apIndex = apIndex) with
  | some iface24g => some iface24g
  | none => group.iface5g.filter (fun iface => iface.wifihalCfg.apIndex = apIndex)

def processEvent (registered : Bool) (group : Group) (list : ClientInfoList) (event : HalEvent)
    : ClientInfoList × Option Event :=
  if ¬registered then
    (list, none)
  else
    match groupGetIfaceByApIndex group event.apIndex with
    | none => (list, none)
    | some iface =>
      let (list, data) := Bsal.switchType bsalClientInfoUpdate list event.data
      (list, data.map (fun data => { ifname := iface.bsalCfg.ifname, data }))

end BsalLegacy
end OpenSyncRdk
