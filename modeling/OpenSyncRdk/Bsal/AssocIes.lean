import Mathlib.Tactic.SplitIfs
import OpenSyncRdk.Bsal.ClientInfo
import OpenSyncRdk.Bsal.Elements

/-!
The capabilities that `target_bsal_client_info` takes from the association request of a client.
-/

namespace OpenSyncRdk
namespace Bsal

open Clients (MacAddr)

def getHtMcsMax (mcsSet : Nat) : Nat :=
  go 32 mcsSet 0
where
  go (left mcsSet i : Nat) : Nat :=
    match left with
    | 0 => i
    | left + 1 =>
      if mcsSet >>> 1 = 0 then
        i
      else
        go left (mcsSet >>> 1) (i + 1)

def getVhtMcsMax (rxMcsMap : Nat) : Nat :=
  go 8 rxMcsMap 0
where
  go (left rxMcsMap maxMcs : Nat) : Nat :=
    match left with
    | 0 => maxMcs
    | left + 1 =>
      let pair := rxMcsMap &&& 0x03
      let maxMcs' :=
        if pair = 0x00 then
          if maxMcs < 7 then 7 else maxMcs
        else if pair = 0x01 then
          if maxMcs < 8 then 8 else maxMcs
        else if pair = 0x02 then
          if maxMcs < 9 then 9 else maxMcs
        else
          maxMcs
      go left (rxMcsMap >>> 2) maxMcs'

def getVhtNssMax (rxMcsMap : Nat) : Nat :=
  go 8 rxMcsMap 0 0
where
  go (left rxMcsMap i numberOfSpatialStreams : Nat) : Nat :=
    match left with
    | 0 => numberOfSpatialStreams
    | left + 1 =>
      let numberOfSpatialStreams' :=
        if rxMcsMap &&& 0x03 ≠ 0x03 then i + 1 else numberOfSpatialStreams
      go left (rxMcsMap >>> 2) (i + 1) numberOfSpatialStreams'

def bmParseBtmSupported (info : ClientInfo) (extCaps : Nat) : ClientInfo :=
  { info with isBTMSupported := extCaps &&& 0x00080000 ≠ 0 }

def bmParseRrmSupported (info : ClientInfo) (rmCapOct1 rmCapOct2 rmCapOct5 : UInt8) : ClientInfo :=
  { info with
    isRRMSupported := true
    rrmCaps :=
      { linkMeas := rmCapOct1 &&& 0x01 ≠ 0
        neighRpt := rmCapOct1 &&& 0x02 ≠ 0
        bcnRptPassive := rmCapOct1 &&& 0x10 ≠ 0
        bcnRptActive := rmCapOct1 &&& 0x20 ≠ 0
        bcnRptTable := rmCapOct1 &&& 0x40 ≠ 0
        lciMeas := rmCapOct2 &&& 0x10 ≠ 0
        ftmRangeRpt := rmCapOct5 &&& 0x04 ≠ 0
      }
  }

def bmParseHtCap (info : ClientInfo) (htCapInfo mcsSet : Nat) : ClientInfo :=
  let rate := info.datarateInfo
  let htMcsMax := getHtMcsMax mcsSet
  let htNssMax := htMcsMax / 8 + 1
  { info with
    datarateInfo :=
      { rate with
        maxChwidth :=
          if htCapInfo &&& 0x0002 ≠ 0 ∧ rate.maxChwidth = 0 then 1 else rate.maxChwidth
        maxMCS := if rate.maxMCS < htMcsMax then htMcsMax % 8 else rate.maxMCS
        maxStreams := if rate.maxStreams < htNssMax then htNssMax else rate.maxStreams
        isStaticSmps := htCapInfo &&& 0x000c = 0
      }
  }

def bmParsePwrCap (info : ClientInfo) (maxTxPower : UInt8) : ClientInfo :=
  { info with datarateInfo := { info.datarateInfo with maxTxpower := maxTxPower.toNat } }

def bmParseVhtCap (info : ClientInfo) (vhtInfo rxMcsMap : Nat) : ClientInfo :=
  let rate := info.datarateInfo
  let vhtMax := getVhtMcsMax rxMcsMap
  let nssMax := getVhtNssMax rxMcsMap
  { info with
    datarateInfo :=
      { rate with
        maxChwidth := if vhtInfo &&& 0x00000040 ≠ 0 then 3 else 2
        maxMCS := if rate.maxMCS < vhtMax then vhtMax else rate.maxMCS
        maxStreams := if rate.maxStreams < nssMax then nssMax else rate.maxStreams
        isMuMimoSupported := vhtInfo &&& 0x00100000 ≠ 0
      }
  }

def setClientLegacy (info : ClientInfo) : ClientInfo :=
  { info with
    isBTMSupported := false
    isRRMSupported := false
    datarateInfo := DatarateInfo.zero
    rrmCaps := RrmCaps.zero
  }

def wlanEidPwrCapability : UInt8 := 33

def wlanEidHtCap : UInt8 := 45

def wlanEidRrmEnabledCapabilities : UInt8 := 70

def wlanEidExtCapab : UInt8 := 127

def wlanEidVhtCap : UInt8 := 191

/-- The switch on `elem->id`, with `elem->data` at `data`. -/
def bmParseElement (id : UInt8) (data : Nat) (info : ClientInfo) : Reads ClientInfo :=
  if id = wlanEidExtCapab then do
    let extCaps ← Reads.le32 data
    return bmParseBtmSupported info extCaps
  else if id = wlanEidRrmEnabledCapabilities then do
    let rmCapOct1 ← Reads.byte data
    let rmCapOct2 ← Reads.byte (data + 1)
    let rmCapOct5 ← Reads.byte (data + 4)
    return bmParseRrmSupported info rmCapOct1 rmCapOct2 rmCapOct5
  else if id = wlanEidHtCap then do
    let htCapInfo ← Reads.le16 data
    let mcsSet ← Reads.le32 (data + 3)
    return bmParseHtCap info htCapInfo mcsSet
  else if id = wlanEidVhtCap then do
    let vhtInfo ← Reads.le32 data
    let rxMcsMap ← Reads.le16 (data + 4)
    return bmParseVhtCap info vhtInfo rxMcsMap
  else if id = wlanEidPwrCapability then do
    let maxTxPower ← Reads.byte (data + 1)
    return bmParsePwrCap info maxTxPower
  else
    return info

structure AssocReq where
  reqIes : Mem
  reqIesLen : Nat

def AssocReq.elements (req : AssocReq) : List Element :=
  Bsal.elements req.reqIes req.reqIesLen 0

def parseAssocReq (info : ClientInfo) (reqIesLen : Nat) : Reads ClientInfo :=
  forEachElement
    (fun elem info => do
      let id ← Reads.byte elem
      bmParseElement id (elem + 2) info)
    reqIesLen
    0
    info

structure InfoCall where
  hasAssocReqIes : Bool
  sizeofAssocIes : Nat
  group : Group
  ifname : CStr
  macAddr : MacAddr
  devices : Int → Option (List AssociatedDev)
  list : ClientInfoList

def InfoCall.setConnected (call : InfoCall) (apIndex : Int) : ClientInfoList × Option ClientInfo :=
  bsalClientSetConnected call.hasAssocReqIes (call.devices apIndex) call.list call.macAddr

def targetBsalClientInfo (call : InfoCall) (req : Option AssocReq)
    : ClientInfoList × Option ClientInfo :=
  match groupGetIfaceByName call.group call.ifname with
  | none => (call.list, none)
  | some iface =>
    match call.setConnected iface.wifihalCfg.apIndex with
    | (list, none) => (list, none)
    | (list, some info) =>
      if call.hasAssocReqIes ∧ info.connected then
        match req with
        | none => (list, none)
        | some req =>
          if req.reqIesLen > call.sizeofAssocIes then
            (list, none)
          else
            let assocIes := (List.range req.reqIesLen).map req.reqIes
            let legacy := setClientLegacy { info with assocIes }
            (list, some ((parseAssocReq legacy req.reqIesLen).run req.reqIes))
      else
        (list, some info)

def InfoCall.Walks (call : InfoCall) (reqIesLen : Nat) : Prop :=
  ∃ iface list info, groupGetIfaceByName call.group call.ifname = some iface
    ∧ call.setConnected iface.wifihalCfg.apIndex = (list, some info)
    ∧ call.hasAssocReqIes ∧ info.connected ∧ reqIesLen ≤ call.sizeofAssocIes

def bytesRead (id : UInt8) : Nat :=
  if id = wlanEidExtCapab then 4
  else if id = wlanEidRrmEnabledCapabilities then 5
  else if id = wlanEidHtCap then 7
  else if id = wlanEidVhtCap then 6
  else if id = wlanEidPwrCapability then 2
  else 0

def ClientInfo.capabilities (info : ClientInfo) : ClientInfo :=
  { info with assocIes := [] }

namespace AssocReq

def HandlersInside (req : AssocReq) : Prop :=
  ∀ elem ∈ req.elements, ∀ info, ∀ off ∈ (bmParseElement elem.id elem.data info).trace req.reqIes,
    elem.Covers off

structure SamePayloads (req req' : AssocReq) : Prop where
  reqIesLen : req'.reqIesLen = req.reqIesLen
  elements : req'.elements = req.elements
  reqIes : ∀ elem ∈ req.elements, 0 < bytesRead elem.id →
    ∀ off, elem.Covers off → req'.reqIes off = req.reqIes off

def KeepsCapabilities (req : AssocReq) (call : InfoCall) : Prop :=
  ∀ req', req.SamePayloads req' →
    (targetBsalClientInfo call (some req')).snd.map ClientInfo.capabilities
      =
    (targetBsalClientInfo call (some req)).snd.map ClientInfo.capabilities

end AssocReq

theorem trace_bmParseElement_lt {mem : Mem} {id : UInt8} {data off : Nat} {info : ClientInfo}
    (hoff : off ∈ (bmParseElement id data info).trace mem)
    : data ≤ off ∧ off < data + bytesRead id := by
  unfold bmParseElement at hoff
  unfold bytesRead
  split_ifs at hoff ⊢ <;> simp at hoff <;> omega

theorem last_mem_trace_bmParseElement (mem : Mem) {id : UInt8} (data : Nat) (info : ClientInfo)
    (hid : 0 < bytesRead id)
    : data + (bytesRead id - 1) ∈ (bmParseElement id data info).trace mem := by
  unfold bytesRead at *
  unfold bmParseElement
  split_ifs at hid ⊢ <;> simp at hid ⊢

theorem trace_bmParseElement_covers_iff (mem : Mem) (elem : Element)
    : (∀ info, ∀ off ∈ (bmParseElement elem.id elem.data info).trace mem, elem.Covers off)
        ↔ bytesRead elem.id ≤ elem.datalen.toNat := by
  constructor
  . intro hcovers
    by_cases hid : 0 < bytesRead elem.id
    . have hlast := last_mem_trace_bmParseElement mem elem.data ClientInfo.zero hid
      have hbound := (hcovers ClientInfo.zero _ hlast).right
      unfold Element.next at hbound
      omega
    . omega
  . intro hlen info off hoff
    have ⟨hstart, hbound⟩ := trace_bmParseElement_lt hoff
    refine ⟨hstart, ?_⟩
    unfold Element.next
    omega

theorem handlersInside_iff (req : AssocReq)
    : req.HandlersInside ↔ ∀ elem ∈ req.elements, bytesRead elem.id ≤ elem.datalen.toNat := by
  apply forall₂_congr
  intro elem _
  apply trace_bmParseElement_covers_iff

theorem capabilities_run_bmParseElement (mem : Mem) (id : UInt8) (data : Nat) (info : ClientInfo)
    : (bmParseElement id data info.capabilities).run mem
        = ((bmParseElement id data info).run mem).capabilities := by
  unfold bmParseElement
  split_ifs <;> simp <;> rfl

theorem run_parseAssocReq (info : ClientInfo) (req : AssocReq)
    : (parseAssocReq info req.reqIesLen).run req.reqIes
        =
      req.elements.foldl
        (fun info elem => (bmParseElement elem.id elem.data info).run req.reqIes) info := by
  unfold parseAssocReq AssocReq.elements
  rw [run_forEachElement]
  apply List.foldl_ext
  intro info elem hmem
  have ⟨_, hid, _⟩ := of_mem_elements hmem
  simp [hid, Element.data]

theorem capabilities_parseAssocReq (info : ClientInfo) (req : AssocReq)
    : ((parseAssocReq info req.reqIesLen).run req.reqIes).capabilities
        = (parseAssocReq info.capabilities req.reqIesLen).run req.reqIes := by
  rw [run_parseAssocReq, run_parseAssocReq]
  apply Eq.symm
  apply List.foldl_hom
  intro info elem
  apply capabilities_run_bmParseElement

theorem capabilities_parseAssocReq_congr {req req' : AssocReq} {info info' : ClientInfo}
    (hinside : req.HandlersInside) (hsame : req.SamePayloads req')
    (hinfo : info'.capabilities = info.capabilities)
    : ((parseAssocReq info' req'.reqIesLen).run req'.reqIes).capabilities
        = ((parseAssocReq info req.reqIesLen).run req.reqIes).capabilities := by
  rw [capabilities_parseAssocReq, capabilities_parseAssocReq, hinfo]
  rw [run_parseAssocReq, run_parseAssocReq, hsame.elements]
  apply List.foldl_ext
  intro info elem hmem
  apply Reads.run_congr
  intro off hoff
  have ⟨_, _⟩ := trace_bmParseElement_lt hoff
  apply hsame.reqIes elem hmem
  . omega
  . exact hinside elem hmem info off hoff

theorem targetBsalClientInfo_walks {call : InfoCall} {reqIesLen : Nat} (hwalks : call.Walks reqIesLen)
    : ∃ info, ∀ req : AssocReq, req.reqIesLen = reqIesLen →
        (targetBsalClientInfo call (some req)).snd.map ClientInfo.capabilities
          =
        some ((parseAssocReq (setClientLegacy info) req.reqIesLen).run req.reqIes).capabilities := by
  rcases hwalks with ⟨iface, list, info, hiface, hset, hhas, hconnected, hlen⟩
  refine ⟨info, ?_⟩
  intro req hreq
  have hfits : ¬req.reqIesLen > call.sizeofAssocIes := by omega
  simp only [targetBsalClientInfo, hiface, hset]
  rw [if_pos ⟨hhas, hconnected⟩, if_neg hfits, Option.map_some]
  rw [capabilities_parseAssocReq, capabilities_parseAssocReq]
  rfl

theorem targetBsalClientInfo_congr {call : InfoCall} {req req' : AssocReq}
    (hlen : req'.reqIesLen = req.reqIesLen) (hwalks : ¬call.Walks req.reqIesLen)
    : targetBsalClientInfo call (some req') = targetBsalClientInfo call (some req) := by
  unfold targetBsalClientInfo
  split
  . rfl
  . next iface hiface =>
    split
    . rfl
    . next list info hset =>
      split
      . next hreq =>
        have hsize : req.reqIesLen > call.sizeofAssocIes := by
          apply Decidable.byContradiction
          intro hfits
          exact hwalks ⟨iface, list, info, hiface, hset, hreq.left, hreq.right, by omega⟩
        simp [hlen, hsize]
      . rfl

theorem keepsCapabilities_of_inside {call : InfoCall} {req : AssocReq}
    (hinside : call.Walks req.reqIesLen → req.HandlersInside)
    : req.KeepsCapabilities call := by
  intro req' hsame
  by_cases hwalks : call.Walks req.reqIesLen
  . have ⟨info, hinfo⟩ := targetBsalClientInfo_walks hwalks
    rw [hinfo req rfl, hinfo req' hsame.reqIesLen]
    congr 1
    apply capabilities_parseAssocReq_congr (hinside hwalks) hsame
    rfl
  . rw [targetBsalClientInfo_congr hsame.reqIesLen hwalks]

/--
No handler looks at `datalen`, so all is well for exactly the association requests in which each element
is as long as its handler takes it to be.
-/
theorem assocReq_handlers_iff (call : InfoCall) (req : AssocReq)
    : (call.Walks req.reqIesLen → req.HandlersInside) ∧ req.KeepsCapabilities call
        ↔ (call.Walks req.reqIesLen →
            ∀ elem ∈ req.elements, bytesRead elem.id ≤ elem.datalen.toNat) := by
  rw [← handlersInside_iff]
  constructor
  . intro hboth
    exact hboth.left
  . intro hinside
    exact ⟨hinside, keepsCapabilities_of_inside hinside⟩

def shortExtCapab (ssid : UInt8) : AssocReq :=
  { reqIes := Mem.ofBytes [127, 0, 0, 1, ssid], reqIesLen := 5 }

def connectedCall : InfoCall :=
  let mac : MacAddr := { b0 := 0, b1 := 1, b2 := 2, b3 := 3, b4 := 4, b5 := 5 }
  { hasAssocReqIes := true
    sizeofAssocIes := 1024
    group := { index := 0, iface := [{ Iface.zero with band := band5G }] }
    ifname := []
    macAddr := mac
    devices := fun _ =>
      some [{ cliMACAddress := mac, cliSNR := 0, cliBytesSent := 0, cliBytesReceived := 0 }]
    list := []
  }

theorem elements_shortExtCapab (ssid : UInt8)
    : (shortExtCapab ssid).elements
        = [{ off := 0, id := 127, datalen := 0 }, { off := 2, id := 0, datalen := 1 }] := by
  simp [AssocReq.elements, shortExtCapab, elements, Mem.ofBytes]

theorem samePayloads_shortExtCapab
    : (shortExtCapab 8).SamePayloads (shortExtCapab 0) := by
  constructor
  . rfl
  . rw [elements_shortExtCapab, elements_shortExtCapab]
  . intro elem hmem hid off hoff
    rw [elements_shortExtCapab, List.mem_pair] at hmem
    rcases hmem with rfl | rfl
    . -- there is no data between `data` and `next`
      have hempty := Nat.lt_of_le_of_lt hoff.left hoff.right
      exact absurd hempty (by decide)
    . exact absurd hid (by decide)

theorem shortExtCapab_reads_past_data
    : connectedCall.Walks (shortExtCapab 8).reqIesLen
        ∧ ¬(shortExtCapab 8).HandlersInside
        ∧ ¬(shortExtCapab 8).KeepsCapabilities connectedCall := by
  refine ⟨?_, ?_, ?_⟩
  . exact ⟨_, _, _, rfl, rfl, rfl, rfl, by decide⟩
  . rw [handlersInside_iff, elements_shortExtCapab]
    decide
  . intro hkeeps
    have hcaps := hkeeps (shortExtCapab 0) samePayloads_shortExtCapab
    -- bit 3 of the SSID is read as the bit of the BSS transition
    revert hcaps
    decide +kernel

end Bsal
end OpenSyncRdk
