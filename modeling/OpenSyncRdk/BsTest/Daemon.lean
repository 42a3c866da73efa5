import OpenSyncRdk.BsTest.Commands

/-!
The commands of `bs_testd.c`: each takes its fields one after another and makes one call of the wifi HAL
of them, or none. `stack` is what a variable for an address holds before it is written.
-/

namespace OpenSyncRdk
namespace BsTest

open Clients (MacAddr)

structure ClientConfig where
  rssiProbeHWM : UInt32
  rssiProbeLWM : UInt32
  rssiAuthHWM : UInt32
  rssiAuthLWM : UInt32
  rssiInactXing : UInt32
  rssiHighXing : UInt32
  rssiLowXing : UInt32
  authRejectReason : UInt32
  deriving DecidableEq

structure BeaconRequest where
  opClass : UInt8
  mode : UInt8
  channel : UInt8
  randomizationInterval : UInt16
  duration : UInt16
  ssidPresent : UInt8
  bssid : MacAddr
  deriving DecidableEq

structure VapInfo where
  vapIndex : Nat
  bssTransitionActivated : UInt8
  nbrReportActivated : UInt8
  -- what goes back to the HAL as it came
  rest : List UInt8
  deriving DecidableEq

inductive HalCall where
  | eventRegister
  | eventUnregister
  | setGroup (call : SetGroupCall)
  | clientSet (steeringgroupIndex : UInt32) (apIndex : Int) (clientMac : MacAddr) (config : ClientConfig)
  | setBTMRequest (run : BTMRun)
  | setRMBeaconRequest (apIndex : Int) (peerMac : MacAddr) (request : BeaconRequest) (dialogToken : UInt8)
  | clientDisconnect (steeringgroupIndex : UInt32) (apIndex : Int) (clientMac : MacAddr) (type : Int)
      (reason : UInt32)
  | clientMeasure (steeringgroupIndex : UInt32) (apIndex : Int) (clientMac : MacAddr)
  | clientRemove (steeringgroupIndex : UInt32) (apIndex : Int) (clientMac : MacAddr)
  | createVAP (radioIdx : Int) (map : List VapInfo)
  deriving DecidableEq

inductive Handled where
  | call (call : HalCall)
  | success
  | failure
  deriving DecidableEq

structure VapHal where
  getSSIDRadioIndex : Nat → Option Int
  getRadioVapInfoMap : Int → Option (List VapInfo)

namespace BsTestd

def handleSetClient (stack : MacAddr) : Params HalCall := do
  let token ← nextToken
  let steeringgroupIndex := UInt32.ofInt (strtol token)
  let token ← nextToken
  let apIndex := atoi token
  let token ← nextToken
  let clientMac := strToMacAddr token stack
  let token ← nextToken
  let rssiProbeHWM := UInt32.ofInt (strtol token)
  let token ← nextToken
  let rssiProbeLWM := UInt32.ofInt (strtol token)
  let token ← nextToken
  let rssiAuthHWM := UInt32.ofInt (strtol token)
  let token ← nextToken
  let rssiAuthLWM := UInt32.ofInt (strtol token)
  let token ← nextToken
  let rssiInactXing := UInt32.ofInt (strtol token)
  let token ← nextToken
  let rssiHighXing := UInt32.ofInt (strtol token)
  let token ← nextToken
  let rssiLowXing := UInt32.ofInt (strtol token)
  let token ← nextToken
  let authRejectReason := UInt32.ofInt (strtol token)
  return .clientSet steeringgroupIndex apIndex clientMac {
    rssiProbeHWM, rssiProbeLWM, rssiAuthHWM, rssiAuthLWM, rssiInactXing, rssiHighXing, rssiLowXing
    authRejectReason
  }

def handleSetRMBeaconRequest (stack : MacAddr) : Params HalCall := do
  let token ← nextToken
  let apIndex := atoi token
  let token ← nextToken
  let peerMac := strToMacAddr token stack
  let token ← nextToken
  let dialogToken := UInt8.ofInt (strtol token)
  let token ← nextToken
  let opClass := UInt8.ofInt (strtolPrefixed token)
  let token ← nextToken
  let mode := UInt8.ofInt (strtolPrefixed token)
  let token ← nextToken
  let channel := UInt8.ofInt (strtol token)
  let token ← nextToken
  let randomizationInterval := UInt16.ofInt (strtolPrefixed token)
  let token ← nextToken
  let duration := UInt16.ofInt (strtolPrefixed token)
  let token ← nextToken
  let ssidPresent := UInt8.ofInt (strtolPrefixed token)
  let token ← nextToken
  let bssid := strToMacAddr token zeroMac
  return .setRMBeaconRequest apIndex peerMac
    { opClass, mode, channel, randomizationInterval, duration, ssidPresent, bssid } dialogToken

def handleClientDisconnect (stack : MacAddr) : Params HalCall := do
  let token ← nextToken
  let steeringgroupIndex := UInt32.ofInt (strtol token)
  let token ← nextToken
  let apIndex := atoi token
  let token ← nextToken
  let clientMac := strToMacAddr token stack
  let token ← nextToken
  let type := atoi token
  let token ← nextToken
  let reason := UInt32.ofInt (strtol token)
  return .clientDisconnect steeringgroupIndex apIndex clientMac type reason

def handleClientMeasure (stack : MacAddr) : Params HalCall := do
  let token ← nextToken
  let steeringgroupIndex := UInt32.ofInt (strtol token)
  let token ← nextToken
  let apIndex := atoi token
  let token ← nextToken
  let clientMac := strToMacAddr token stack
  return .clientMeasure steeringgroupIndex apIndex clientMac

def handleClientRemove (stack : MacAddr) : Params HalCall := do
  let token ← nextToken
  let steeringgroupIndex := UInt32.ofInt (strtol token)
  let token ← nextToken
  let apIndex := atoi token
  let token ← nextToken
  let clientMac := strToMacAddr token stack
  return .clientRemove steeringgroupIndex apIndex clientMac

section

variable (hal : VapHal)

def ssidIndexToVapInfo (ssidIndex : Nat) : Option (Int × List VapInfo × Nat) :=
  match hal.getSSIDRadioIndex ssidIndex with
  | none => none
  | some radioIdx =>
    match hal.getRadioVapInfoMap radioIdx with
    | none => none
    | some map => (map.findIdx? (fun vap => vap.vapIndex = ssidIndex)).map (fun i => (radioIdx, map, i))

/-- The value is only logged. -/
def handleGetActivated : Params Handled := do
  let token ← nextToken
  let apIndex := atoi token
  match ssidIndexToVapInfo hal (unsignedInt apIndex) with
  | none => return .failure
  | some _ => return .success

def handleGetBssTransitionActivated : Params Handled :=
  handleGetActivated hal

def handleGetNbrReportActivated : Params Handled :=
  handleGetActivated hal

def handleActivated (set : UInt8 → VapInfo → VapInfo) : Params Handled := do
  let token ← nextToken
  let apIndex := atoi token
  let token ← nextToken
  let state := UInt8.ofInt (strtol token)
  match ssidIndexToVapInfo hal (unsignedInt apIndex) with
  | none => return .failure
  | some (radioIdx, map, i) => return .call (.createVAP radioIdx (map.modify i (set state)))

def handleBssTransitionActivated : Params Handled :=
  handleActivated hal (fun btm vap => { vap with bssTransitionActivated := btm })

def handleNbrReportActivated : Params Handled :=
  handleActivated hal (fun rrm vap => { vap with nbrReportActivated := rrm })

/-- A command that is not known is not a failure. -/
def dispatchCmd (phase2 : Bool) (stack : MacAddr) (cmdName : CStr) : Params Handled :=
  match CmdName.ofText cmdName with
  | some .eventRegister => return .call .eventRegister
  | some .eventUnregister => return .call .eventUnregister
  | some .setGroup => (fun call => .call (.setGroup call)) <$> handleSetGroup phase2
  | some .clientSet => .call <$> handleSetClient stack
  | some .setBTMRequest => (fun run => .call (.setBTMRequest run)) <$> handleSetBTMRequest stack
  | some .setRMBeaconRequest => .call <$> handleSetRMBeaconRequest stack
  | some .clientDisconnect => .call <$> handleClientDisconnect stack
  | some .clientMeasure => .call <$> handleClientMeasure stack
  | some .clientRemove => .call <$> handleClientRemove stack
  | some .getBssTransitionActivated => handleGetBssTransitionActivated hal
  | some .getNbrReportActivated => handleGetNbrReportActivated hal
  | some .bssTransitionActivated => handleBssTransitionActivated hal
  | some .nbrReportActivated => handleNbrReportActivated hal
  | some .exit => return .success
  | none => return .success

/-- There is no result where a field is missing that the command reads. -/
def handleCmd (phase2 : Bool) (stack : MacAddr) (cmd : CStr) : Option Handled :=
  let handle : Params Handled := do
    let token ← nextToken
    dispatchCmd hal phase2 stack token
  handle.run' (some cmd)

end

def Handled.ok (answer : HalCall → Bool) : Handled → Bool
  | .call call => answer call
  | .success => true
  | .failure => false

theorem handleCmd_joined (hal : VapHal) (phase2 : Bool) (stack : MacAddr) (name : CmdName)
    (fields : List CStr)
    : (joined 59 (name.text :: fields)).bind (handleCmd hal phase2 stack)
        =
      (dispatchCmd hal phase2 stack name.text (joined 59 fields)).map Prod.fst := by
  have hsome : ∃ cmd, joined 59 (name.text :: fields) = some cmd := ⟨_, rfl⟩
  have ⟨cmd, hcmd⟩ := hsome
  rw [hcmd, Option.bind_some]
  show ((nextToken >>= dispatchCmd hal phase2 stack) (some cmd)).map Prod.fst = _
  rw [← hcmd, bind_nextToken _ name.text_separated]

def Handled.SetsNoGroup (handled : Handled) : Prop :=
  ∀ call, handled ≠ .call (.setGroup call)

theorem handleSetClient_returns (stack : MacAddr)
    : Returns (fun call => Handled.SetsNoGroup (.call call)) (handleSetClient stack) := by
  unfold handleSetClient
  iterate 11 refine returns_bind fun _ => ?_
  apply returns_pure
  exact nofun

theorem handleSetRMBeaconRequest_returns (stack : MacAddr)
    : Returns (fun call => Handled.SetsNoGroup (.call call)) (handleSetRMBeaconRequest stack) := by
  unfold handleSetRMBeaconRequest
  iterate 10 refine returns_bind fun _ => ?_
  apply returns_pure
  exact nofun

theorem handleClientDisconnect_returns (stack : MacAddr)
    : Returns (fun call => Handled.SetsNoGroup (.call call)) (handleClientDisconnect stack) := by
  unfold handleClientDisconnect
  iterate 5 refine returns_bind fun _ => ?_
  apply returns_pure
  exact nofun

theorem handleClientMeasure_returns (stack : MacAddr)
    : Returns (fun call => Handled.SetsNoGroup (.call call)) (handleClientMeasure stack) := by
  unfold handleClientMeasure
  iterate 3 refine returns_bind fun _ => ?_
  apply returns_pure
  exact nofun

theorem handleClientRemove_returns (stack : MacAddr)
    : Returns (fun call => Handled.SetsNoGroup (.call call)) (handleClientRemove stack) := by
  unfold handleClientRemove
  iterate 3 refine returns_bind fun _ => ?_
  apply returns_pure
  exact nofun

theorem handleGetActivated_returns (hal : VapHal)
    : Returns Handled.SetsNoGroup (handleGetActivated hal) := by
  unfold handleGetActivated
  refine returns_bind fun _ => ?_
  dsimp only
  split
  . apply returns_pure
    exact nofun
  . apply returns_pure
    exact nofun

theorem handleActivated_returns (hal : VapHal) (set : UInt8 → VapInfo → VapInfo)
    : Returns Handled.SetsNoGroup (handleActivated hal set) := by
  unfold handleActivated
  iterate 2 refine returns_bind fun _ => ?_
  dsimp only
  split
  . apply returns_pure
    exact nofun
  . apply returns_pure
    exact nofun

theorem dispatchCmd_returns (hal : VapHal) (phase2 : Bool) (stack : MacAddr) {cmdName : CStr}
    (hname : CmdName.ofText cmdName ≠ some .setGroup)
    : Returns Handled.SetsNoGroup (dispatchCmd hal phase2 stack cmdName) := by
  unfold dispatchCmd
  split
  case h_3 hsetGroup => contradiction
  case h_4 => exact returns_map (handleSetClient_returns stack)
  case h_5 =>
    apply returns_map
    intro _ _ _ _
    exact nofun
  case h_6 => exact returns_map (handleSetRMBeaconRequest_returns stack)
  case h_7 => exact returns_map (handleClientDisconnect_returns stack)
  case h_8 => exact returns_map (handleClientMeasure_returns stack)
  case h_9 => exact returns_map (handleClientRemove_returns stack)
  case h_10 => exact handleGetActivated_returns hal
  case h_11 => exact handleGetActivated_returns hal
  case h_12 => exact handleActivated_returns hal _
  case h_13 => exact handleActivated_returns hal _
  all_goals
    apply returns_pure
    exact nofun

theorem handleCmd_setGroup_iff (hal : VapHal) (phase2 : Bool) (stack : MacAddr) (cmd : CStr)
    (call : SetGroupCall)
    : handleCmd hal phase2 stack cmd = some (.call (.setGroup call))
        ↔
      BsTest.handleCmd phase2 cmd = some call := by
  unfold handleCmd BsTest.handleCmd
  simp only [StateT.run', params_bind]
  cases nextToken (some cmd) with
  | none => simp
  | some read =>
    rcases read with ⟨token, params⟩
    simp only [Option.bind_some]
    by_cases htoken : token = cstr "wifi_steering_setGroup"
    . have hname : CmdName.ofText token = some .setGroup := by
        rw [htoken]
        exact CmdName.ofText_text .setGroup
      unfold dispatchCmd
      rw [hname, if_pos htoken]
      dsimp only
      rw [params_map]
      cases handleSetGroup phase2 params with
      | none => simp
      | some read => simp
    . have hname : CmdName.ofText token ≠ some .setGroup :=
        fun hname => htoken (CmdName.eq_text_of_ofText hname)
      rw [if_neg htoken]
      apply iff_of_false
      . intro hhandled
        have hhandled : (dispatchCmd hal phase2 stack token params).map Prod.fst
            = some (.call (.setGroup call)) := hhandled
        rw [Option.map_eq_some_iff] at hhandled
        rcases hhandled with ⟨read, hread, hcall⟩
        exact dispatchCmd_returns hal phase2 stack hname params read.1 read.2 hread call hcall
      . intro hnone
        contradiction

end BsTestd
end BsTest
end OpenSyncRdk
