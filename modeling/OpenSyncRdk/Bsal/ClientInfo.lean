import OpenSyncRdk.Bsal.Group
import OpenSyncRdk.Clients.Table

/-!
What is known about a steered client, and the cache of it that connect events fill,
`g_client_info_list`.
-/

namespace OpenSyncRdk
namespace Bsal

open Clients (MacAddr)

structure DatarateInfo where
  maxChwidth : Nat
  maxStreams : Nat
  phyMode : Nat
  maxMCS : Nat
  maxTxpower : Nat
  isStaticSmps : Bool
  isMuMimoSupported : Bool
  deriving DecidableEq

structure RrmCaps where
  linkMeas : Bool
  neighRpt : Bool
  bcnRptPassive : Bool
  bcnRptActive : Bool
  bcnRptTable : Bool
  lciMeas : Bool
  ftmRangeRpt : Bool
  deriving DecidableEq

structure ClientInfo where
  connected : Bool
  snr : Int
  txBytes : Nat
  rxBytes : Nat
  isBTMSupported : Bool
  isRRMSupported : Bool
  bandCap2G : Bool
  bandCap5G : Bool
  bandCap6G : Bool
  datarateInfo : DatarateInfo
  rrmCaps : RrmCaps
  assocIes : List UInt8
  deriving DecidableEq

def DatarateInfo.zero : DatarateInfo :=
  { maxChwidth := 0, maxStreams := 0, phyMode := 0, maxMCS := 0, maxTxpower := 0
    isStaticSmps := false, isMuMimoSupported := false }

def RrmCaps.zero : RrmCaps :=
  { linkMeas := false, neighRpt := false, bcnRptPassive := false, bcnRptActive := false
    bcnRptTable := false, lciMeas := false, ftmRangeRpt := false }

def ClientInfo.zero : ClientInfo :=
  { connected := false, snr := 0, txBytes := 0, rxBytes := 0, isBTMSupported := false
    isRRMSupported := false, bandCap2G := false, bandCap5G := false, bandCap6G := false
    datarateInfo := DatarateInfo.zero, rrmCaps := RrmCaps.zero, assocIes := [] }

structure EvConnect where
  clientMac : MacAddr
  isBTMSupported : Bool
  isRRMSupported : Bool
  -- `none` stands for a combination of bands
  bandsCap : Option FreqBand
  -- the legacy HAL has these two in place of `bandsCap`
  bandCap2G : Bool
  bandCap5G : Bool
  datarateInfo : DatarateInfo
  rrmCaps : RrmCaps
  deriving DecidableEq

structure ClientInfoCache where
  mac : MacAddr
  client : ClientInfo
  deriving DecidableEq

abbrev ClientInfoList := List ClientInfoCache

def bsalFindClientInfo (list : ClientInfoList) (mac : MacAddr) : Option ClientInfoCache :=
  list.find? (fun cache => mac = cache.mac)

def chanWidthUnsupported : Nat := 4

def bsalConvertMaxChwidth (maxChwidth : Nat) : Nat :=
  if maxChwidth ≤ 3 then maxChwidth
  else if maxChwidth = 20 then 0
  else if maxChwidth = 40 then 1
  else if maxChwidth = 80 then 2
  else if maxChwidth = 160 then 3
  else chanWidthUnsupported

def EvConnect.setBands (connect : EvConnect) (client : ClientInfo) : ClientInfo :=
  match connect.bandsCap with
  | some .freq2_4 => { client with bandCap2G := true }
  | some .freq5 | some .freq5L | some .freq5H => { client with bandCap5G := true }
  | some .freq6 | some .freq60 => { client with bandCap6G := true }
  | none => client

def EvConnect.setClient (connect : EvConnect)
    (setBands : EvConnect → ClientInfo → ClientInfo) (client : ClientInfo) : ClientInfo :=
  let maxChanwidth := bsalConvertMaxChwidth connect.datarateInfo.maxChwidth
  { setBands connect client with
    isBTMSupported := connect.isBTMSupported
    isRRMSupported := connect.isRRMSupported
    datarateInfo :=
      { connect.datarateInfo with
        maxChwidth :=
          if maxChanwidth = chanWidthUnsupported then
            connect.datarateInfo.maxChwidth
          else
            maxChanwidth
      }
    rrmCaps := connect.rrmCaps
  }

def setClientInfo (list : ClientInfoList) (mac : MacAddr) (client : ClientInfo) : ClientInfoList :=
  (Slots.replaceFirst (fun cache => mac = cache.mac) { mac, client } list).getD list

def updateClientInfo (setBands : EvConnect → ClientInfo → ClientInfo) (calloc : Bool)
    (list : ClientInfoList) (connect : EvConnect) : ClientInfoList :=
  match bsalFindClientInfo list connect.clientMac with
  | some cache =>
    setClientInfo list connect.clientMac (connect.setClient setBands cache.client)
  | none =>
    if calloc then
      list ++ [{ mac := connect.clientMac, client := connect.setClient setBands ClientInfo.zero }]
    else
      list

def bsalClientInfoUpdate : Bool → ClientInfoList → EvConnect → ClientInfoList :=
  updateClientInfo EvConnect.setBands

def bsalClientInfoRemove (list : ClientInfoList) (mac : MacAddr) : ClientInfoList :=
  list.eraseP (fun cache => mac = cache.mac)

structure AssociatedDev where
  cliMACAddress : MacAddr
  cliSNR : Int
  cliBytesSent : Nat
  cliBytesReceived : Nat

/-- `devices` is the answer of the HAL; without assoc IEs the answer comes from the cache. -/
def bsalClientSetConnected (hasAssocReqIes : Bool) (devices : Option (List AssociatedDev))
    (list : ClientInfoList) (mac : MacAddr) : ClientInfoList × Option ClientInfo :=
  match devices with
  | none => (list, none)
  | some clients =>
    match clients.find? (fun client => mac = client.cliMACAddress) with
    | none => (list, some ClientInfo.zero)
    | some client =>
      let setConnected (info : ClientInfo) : ClientInfo :=
        { info with
          connected := true, snr := client.cliSNR, txBytes := client.cliBytesSent
          rxBytes := client.cliBytesReceived }
      match hasAssocReqIes, bsalFindClientInfo list mac with
      | false, some cache =>
        (setClientInfo list mac (setConnected cache.client), some (setConnected cache.client))
      | _, _ => (list, some (setConnected ClientInfo.zero))

end Bsal
end OpenSyncRdk
