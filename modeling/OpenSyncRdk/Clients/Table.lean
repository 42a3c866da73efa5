import Mathlib.Tactic.Common
import OpenSyncRdk.Lib.Bytes
import OpenSyncRdk.Lib.Machine

/-!
The table of connected clients, `clients.c`, and the reports about it. The wifi HAL answers every call
anew, so its answers are looked up by the number of calls made before: those of `wifi_getApName`,
`wifi_getApSecurityModeEnabled`, `wifi_getMultiPskClientKey` and
`wifi_getApAssociatedDeviceDiagnosticResult3` are the fields of `Env`. `setKeyId` is the end of
`clients_connection`, `removeClient` and `addClient` are the bodies that the loops over events and
over associated devices share.
-/

namespace OpenSyncRdk
namespace Clients

def maxBuffer : Nat := 64

def maxMacStr : Nat := 18

structure MacAddr where
  b0 : UInt8
  b1 : UInt8
  b2 : UInt8
  b3 : UInt8
  b4 : UInt8
  b5 : UInt8
  deriving DecidableEq

def hexByte (byte : UInt8) : CStr :=
  [digit (byte.toNat / 16), digit (byte.toNat % 16)]
where
  digit (val : Nat) : UInt8 :=
    UInt8.ofNat (if val < 10 then 48 + val else 87 + val)

def MacAddr.lower (mac : MacAddr) : CStr :=
  hexByte mac.b0 ++ [58] ++ hexByte mac.b1 ++ [58] ++ hexByte mac.b2 ++ [58] ++ hexByte mac.b3 ++ [58]
    ++ hexByte mac.b4 ++ [58] ++ hexByte mac.b5

structure Client where
  keyId : CStr
  apIndex : Int
  deriving DecidableEq

abbrev Table := Std.ExtTreeMap CStr Client

structure Report where
  mac : CStr
  keyId : CStr
  wpaKeyMgmt : Option CStr
  pairwiseCipher : Option CStr
  state : CStr
  ifname : CStr
  connected : Bool
  deriving DecidableEq

structure Env where
  multiPsk : Bool
  unmapIfname : CStr → CStr
  -- the HAL answers by the number of calls made before
  apName : Int → CStr
  apNameFails : Nat → Bool
  securityMode : Nat → Option CStr
  multiPskKey : Nat → Option CStr
  associated : Nat → Option (List MacAddr)

structure State where
  connected : Table
  calls : Nat
  reports : List Report

def State.initial : State :=
  { connected := ∅, calls := 0, reports := [] }

abbrev KeyIds := Int → CStr

structure SecurityModeMap where
  security : CStr
  wpaKeyMgmt : Option CStr
  pairwiseCipher : Option CStr

def csmm : List SecurityModeMap :=
  [
    ⟨cstr "WEP-64", none, cstr "wep"⟩,
    ⟨cstr "WEP-128", none, cstr "wep"⟩,
    ⟨cstr "WPA-Personal", cstr "wpa-psk", cstr "wpa-tkip"⟩,
    ⟨cstr "WPA-Enterprise", cstr "wpa-eap", cstr "wpa-tkip"⟩,
    ⟨cstr "WPA2-Personal", cstr "wpa-psk", cstr "rsn-ccmp"⟩,
    ⟨cstr "WPA2-Enterprise", cstr "wpa-eap", cstr "rsn-ccmp"⟩,
    ⟨cstr "WPA-WPA2-Personal", cstr "wpa-psk", cstr "rsn-ccmp"⟩,
    ⟨cstr "WPA-WPA2-Enterprise", cstr "wpa-eap", cstr "rsn-ccmp"⟩
  ]

def getApName (env : Env) (s : State) (apIndex : Int) : State × Option CStr :=
  ( { s with calls := s.calls + 1 }
  , if env.apNameFails s.calls then none else some (env.apName apIndex)
  )

def clientsUpdate (env : Env) (s : State) (mac : CStr) (client : Client) (ifname : CStr)
    (connected : Bool) : State :=
  let row : Option SecurityModeMap :=
    match env.securityMode s.calls with
    | none => none
    | some security => csmm.find? (fun row => row.security = security)
  let report :=
    { mac := mac
      keyId := client.keyId
      wpaKeyMgmt := row.bind SecurityModeMap.wpaKeyMgmt
      pairwiseCipher := row.bind SecurityModeMap.pairwiseCipher
      state := if connected then cstr "active" else cstr "inactive"
      ifname := env.unmapIfname ifname
      connected := connected
    }
  { s with calls := s.calls + 1, reports := s.reports ++ [report] }

def setKeyId (env : Env) (s : State) (mac : CStr) (client : Client) (keyId ifname : CStr) : State :=
  let client := { client with keyId := strscpy maxBuffer keyId }
  clientsUpdate env { s with connected := s.connected.insert mac client } mac client ifname true

def clientsConnection (env : Env) (s : State) (apIndex : Int) (mac keyId : CStr) : State :=
  match getApName env s apIndex with
  | (s, none) => s
  | (s, some ifname) =>
    match s.connected[mac]? with
    | none => setKeyId env s (strscpy maxMacStr mac) { keyId := [], apIndex } keyId ifname
    | some client =>
      if client.apIndex ≠ apIndex then
        match getApName env s client.apIndex with
        | (s, none) => s
        | (s, some ifnameOld) =>
          let s := clientsUpdate env s mac client ifnameOld false
          setKeyId env s mac { client with apIndex } keyId ifname
      else if client.keyId.take maxBuffer ≠ keyId.take maxBuffer then
        let s := clientsUpdate env s mac client ifname false
        setKeyId env s mac client keyId ifname
      else
        s

def clientsDisconnection (env : Env) (s : State) (apIndex : Int) (mac : CStr) : State × Option Client :=
  match getApName env s apIndex with
  | (s, none) => (s, none)
  | (s, some ifname) =>
    match s.connected[mac]? with
    | none => (s, none)
    | some client =>
      if client.apIndex ≠ apIndex then
        (s, none)
      else
        (clientsUpdate env s mac client ifname false, some client)

def removeClient (env : Env) (s : State) (apIndex : Int) (mac : CStr) : State :=
  match clientsDisconnection env s apIndex mac with
  | (s, none) => s
  | (s, some _) => { s with connected := s.connected.erase mac }

def addClient (env : Env) (keyIds : KeyIds) (s : State) (apIndex : Int) (mac : CStr) : State :=
  if env.multiPsk then
    let key := env.multiPskKey s.calls
    let s := { s with calls := s.calls + 1 }
    match key with
    | none => s
    | some key =>
      if key.length = 0 then
        clientsConnection env s apIndex mac (keyIds apIndex)
      else
        clientsConnection env s apIndex mac key
  else
    clientsConnection env s apIndex mac (keyIds apIndex)

structure HalCbEntry where
  ssidIndex : Int
  mac : MacAddr
  active : Bool
  deriving DecidableEq

def asyncEntry (env : Env) (keyIds : KeyIds) (s : State) (cbe : HalCbEntry) : State :=
  match getApName env s cbe.ssidIndex with
  | (s, none) => s
  | (s, some _) =>
    if cbe.active then
      addClient env keyIds s cbe.ssidIndex cbe.mac.lower
    else
      removeClient env s cbe.ssidIndex cbe.mac.lower

def halAsyncCb (env : Env) (keyIds : KeyIds) (s : State) (entries : List HalCbEntry) : State :=
  entries.foldl (asyncEntry env keyIds) s

def detectDisconnection (env : Env) (s : State) (apIndex : Int) (devices : List MacAddr) : State :=
  s.connected.toList.foldl
    (fun s (mac, client) =>
      if client.apIndex ≠ apIndex then
        s
      else if devices.any (fun device => mac = device.lower) then
        s
      else
        removeClient env s apIndex mac)
    s

def halFetchExisting (env : Env) (keyIds : KeyIds) (s : State) (apIndex : Int) : State × Bool :=
  match getApName env s apIndex with
  | (s, none) => (s, false)
  | (s, some _) =>
    let associated := env.associated s.calls
    let s := { s with calls := s.calls + 1 }
    match associated with
    | none => (s, false)
    | some devices =>
      let s := devices.foldl (fun s device => addClient env keyIds s apIndex device.lower) s
      (detectDisconnection env s apIndex devices, true)

inductive Input where
  | asyncCb (keyIds : KeyIds) (entries : List HalCbEntry)
  | fetchExisting (keyIds : KeyIds) (apIndex : Int)

def step (env : Env) (s : State) : Input → Option State
  | .asyncCb keyIds entries => some (halAsyncCb env keyIds s entries)
  | .fetchExisting keyIds apIndex => some (halFetchExisting env keyIds s apIndex).1

end Clients
end OpenSyncRdk
