import OpenSyncRdk.BsTest.SetGroup

/-!
The commands of `bs_cmd.c`. Each is a line of words, and for three of them a file with more words, which
go into the command in the order of its lines and without their names.
-/

namespace OpenSyncRdk
namespace BsTest

inductive CmdName where
  | eventRegister
  | eventUnregister
  | setGroup
  | setBTMRequest
  | setRMBeaconRequest
  | clientSet
  | clientDisconnect
  | clientMeasure
  | clientRemove
  | getBssTransitionActivated
  | getNbrReportActivated
  | bssTransitionActivated
  | nbrReportActivated
  | exit
  deriving DecidableEq

namespace CmdName

def text : CmdName → CStr
  | eventRegister => cstr "wifi_steering_eventRegister"
  | eventUnregister => cstr "wifi_steering_eventUnregister"
  | setGroup => cstr "wifi_steering_setGroup"
  | setBTMRequest => cstr "wifi_setBTMRequest"
  | setRMBeaconRequest => cstr "wifi_setRMBeaconRequest"
  | clientSet => cstr "wifi_steering_clientSet"
  | clientDisconnect => cstr "wifi_steering_clientDisconnect"
  | clientMeasure => cstr "wifi_steering_clientMeasure"
  | clientRemove => cstr "wifi_steering_clientRemove"
  | getBssTransitionActivated => cstr "get_bssTransitionActivated"
  | getNbrReportActivated => cstr "get_nbrReportActivated"
  | bssTransitionActivated => cstr "bssTransitionActivated"
  | nbrReportActivated => cstr "nbrReportActivated"
  | exit => cstr "exit"

def all : List CmdName :=
  [ eventRegister, eventUnregister, setGroup, setBTMRequest, setRMBeaconRequest, clientSet, clientDisconnect
  , clientMeasure, clientRemove, getBssTransitionActivated, getNbrReportActivated, bssTransitionActivated
  , nbrReportActivated, exit
  ]

def ofText (word : CStr) : Option CmdName :=
  all.find? (fun name => name.text = word)

theorem ofText_text (name : CmdName)
    : ofText name.text = some name := by
  cases name <;> decide +kernel

theorem eq_text_of_ofText {word : CStr} {name : CmdName} (hname : ofText word = some name)
    : word = name.text := by
  have hfound := List.find?_some hname
  exact (of_decide_eq_true hfound).symm

theorem text_separated (name : CmdName)
    : 59 ∉ name.text := by
  cases name <;> decide +kernel

end CmdName

abbrev Files := CStr → Option CStr

def btmNames : List CStr :=
  [ cstr "token", cstr "requestMode", cstr "timer", cstr "validityInterval", cstr "termDuration.tsf"
  , cstr "termDuration.duration", cstr "numCandidates", cstr "bssid", cstr "info", cstr "opClass"
  , cstr "channel", cstr "phyTable", cstr "preference"
  ]

def rmNames : List CStr :=
  [ cstr "opClass", cstr "mode", cstr "channel", cstr "randomizationInterval", cstr "duration"
  , cstr "ssidPresent", cstr "bssid"
  ]

def clientNames : List CStr :=
  [ cstr "rssiProbeHWM", cstr "rssiProbeLWM", cstr "rssiAuthHWM", cstr "rssiAuthLWM", cstr "rssiInactXing"
  , cstr "rssiHighXing", cstr "rssiLowXing", cstr "authRejectReason"
  ]

namespace BsCmd

section

variable (names : List CStr) (cmdMaxSize : Nat)

/-- The body of the loop over the lines of a file, with the names that it knows. -/
def putLine (cmd line : CStr) : Option CStr :=
  match strsep 61 (some line) with
  | (some token, some buf) =>
    if names.contains token then putText cmdMaxSize cmd (59 :: buf.dropLast) else none
  | _ => none

def putLines : Nat → CStr → CStr → Option CStr
  | 0, cmd, _ => some cmd
  | fuel + 1, cmd, file =>
    match fgets lineSize file with
    | none => some cmd
    | some (line, file) => do
      let cmd ← putLine names cmdMaxSize cmd line
      putLines fuel cmd file

/-- A command with the values of a file behind its words. Every line takes a byte from the file. -/
def putFile (files : Files) (words path : CStr) : Option CStr := do
  let cmd ← putText cmdMaxSize [] words
  let file ← files path
  putLines names cmdMaxSize file.length cmd file

end

def snprintf (size : Nat) (text : CStr) : CStr :=
  text.take (size - 1)

def words : List CStr → CStr
  | [] => []
  | word :: rest => word ++ rest.flatMap (fun next => 59 :: next)

section

variable (files : Files) (cmdMaxSize : Nat)

def handleWifiSetBTMRequest (name apIndex peerMac btmParamsFile : CStr) : Option CStr :=
  putFile btmNames cmdMaxSize files (words [name, apIndex, peerMac]) btmParamsFile

def handleWifiSetRMBeaconRequest (name apIndex peerMac dialToken rmRequestFile : CStr) : Option CStr :=
  putFile rmNames cmdMaxSize files (words [name, apIndex, peerMac, dialToken]) rmRequestFile

def handleWifiSteeringClientSet (name groupIndex apIndex mac clientConfigFile : CStr) : Option CStr :=
  putFile clientNames cmdMaxSize files (words [name, groupIndex, apIndex, mac]) clientConfigFile

def handleWifiSteeringClientDisconnect (name groupIndex apIndex mac type reason : CStr) : CStr :=
  snprintf cmdMaxSize (words [name, groupIndex, apIndex, mac, type, reason])

def handleWifiSteeringClientMeasure (name groupIndex apIndex mac : CStr) : CStr :=
  snprintf cmdMaxSize (words [name, groupIndex, apIndex, mac])

def handleWifiSteeringClientRemove (name groupIndex apIndex mac : CStr) : CStr :=
  snprintf cmdMaxSize (words [name, groupIndex, apIndex, mac])

def cfgArgOf (path : CStr) : CfgArg :=
  if path = cstr "NULL" then
    .null
  else
    match files path with
    | none => .unreadable
    | some text => .file text

/-- The command for the words of a command line. Words that are too many or too few end the program. -/
def parseCmd : List CStr → Option CStr
  | [] => none
  | name :: params =>
    match CmdName.ofText name, params with
    | some .eventRegister, _ => some (CmdName.eventRegister.text.take cmdMaxSize)
    | some .eventUnregister, _ => some (CmdName.eventUnregister.text.take cmdMaxSize)
    | some .setGroup, groupIndex :: cfgs =>
      if cfgs.length < 2 ∨ 18 < cfgs.length then
        none
      else
        handleWifiSteeringSetGroup name groupIndex (cfgs.map (cfgArgOf files)) cmdMaxSize
    | some .setBTMRequest, [apIndex, peerMac, file] =>
      handleWifiSetBTMRequest files cmdMaxSize name apIndex peerMac file
    | some .setRMBeaconRequest, [apIndex, peerMac, dialToken, file] =>
      handleWifiSetRMBeaconRequest files cmdMaxSize name apIndex peerMac dialToken file
    | some .clientSet, [groupIndex, apIndex, mac, file] =>
      handleWifiSteeringClientSet files cmdMaxSize name groupIndex apIndex mac file
    | some .clientDisconnect, [groupIndex, apIndex, mac, type, reason] =>
      some (handleWifiSteeringClientDisconnect cmdMaxSize name groupIndex apIndex mac type reason)
    | some .clientMeasure, [groupIndex, apIndex, mac] =>
      some (handleWifiSteeringClientMeasure cmdMaxSize name groupIndex apIndex mac)
    | some .clientRemove, [groupIndex, apIndex, mac] =>
      some (handleWifiSteeringClientRemove cmdMaxSize name groupIndex apIndex mac)
    | some .getBssTransitionActivated, [apIndex] => some (snprintf cmdMaxSize (words [name, apIndex]))
    | some .getNbrReportActivated, [apIndex] => some (snprintf cmdMaxSize (words [name, apIndex]))
    | some .bssTransitionActivated, [apIndex, state] =>
      some (snprintf cmdMaxSize (words [name, apIndex, state]))
    | some .nbrReportActivated, [apIndex, state] => some (snprintf cmdMaxSize (words [name, apIndex, state]))
    | some .exit, _ => some (snprintf cmdMaxSize CmdName.exit.text)
    | _, _ => none

end

def rawLine (line : CStr × CStr) : CStr :=
  line.1 ++ 61 :: (line.2 ++ [10])

def fileText (lines : List (CStr × CStr)) : CStr :=
  lines.flatMap rawLine

structure Plain (names : List CStr) (lines : List (CStr × CStr)) : Prop where
  known : ∀ line ∈ lines, line.1 ∈ names
  unsplit : ∀ line ∈ lines, 61 ∉ line.1 ∧ 10 ∉ line.1 ∧ 10 ∉ line.2
  short : ∀ line ∈ lines, (rawLine line).length < lineSize

theorem Plain.tail {names : List CStr} {line : CStr × CStr} {lines : List (CStr × CStr)}
    (hplain : Plain names (line :: lines))
    : Plain names lines := by
  constructor
  . exact fun other hother => hplain.known other (by simp [hother])
  . exact fun other hother => hplain.unsplit other (by simp [hother])
  . exact fun other hother => hplain.short other (by simp [hother])

theorem isLine_rawLine {line : CStr × CStr} (hname : 10 ∉ line.1) (htext : 10 ∉ line.2) (rest : CStr)
    : IsLine (rawLine line) rest := by
  constructor
  case nonempty => simp [rawLine]
  case ends =>
    left
    refine ⟨line.1 ++ 61 :: line.2, by simp [rawLine], ?_⟩
    simp [hname, htext]

theorem putLine_rawLine {names : List CStr} {line : CStr × CStr} (hknown : line.1 ∈ names)
    (hname : 61 ∉ line.1) (cmdMaxSize : Nat) (cmd : CStr)
    : putLine names cmdMaxSize cmd (rawLine line) = putText cmdMaxSize cmd (59 :: line.2) := by
  unfold putLine rawLine
  rw [strsep_append _ _ hname]
  simp [hknown]

def valuesText (lines : List (CStr × CStr)) : CStr :=
  lines.flatMap (fun line => 59 :: line.2)

theorem putLines_fileText {names : List CStr} {lines : List (CStr × CStr)} (hplain : Plain names lines)
    {cmdMaxSize fuel : Nat} (hfuel : (fileText lines).length ≤ fuel) {cmd : CStr}
    (hroom : cmd.length + (valuesText lines).length < cmdMaxSize - 1)
    : putLines names cmdMaxSize fuel cmd (fileText lines) = some (cmd ++ valuesText lines) := by
  induction lines generalizing fuel cmd with
  | nil => cases fuel <;> simp [fileText, valuesText, putLines, fgets]
  | cons line lines ih =>
    have hunsplit := hplain.unsplit line (by simp)
    have hline := isLine_rawLine hunsplit.2.1 hunsplit.2.2 (fileText lines)
    have hpos := List.length_pos_of_ne_nil hline.nonempty
    unfold fileText at hfuel
    rw [List.flatMap_cons, List.length_append] at hfuel
    unfold valuesText at hroom ⊢
    rw [List.flatMap_cons, List.length_append] at hroom
    rcases fuel with _ | fuel
    . omega
    . have hput : putText cmdMaxSize cmd (59 :: line.2) = some (cmd ++ 59 :: line.2) := by
        apply if_pos
        omega
      unfold fileText
      rw [List.flatMap_cons, putLines, ← fileText, fgets_short hline (hplain.short line (by simp))]
      dsimp only
      rw [putLine_rawLine (hplain.known line (by simp)) hunsplit.1, hput]
      dsimp only [bind, Option.bind]
      rw [ih hplain.tail]
      . simp [valuesText]
      . unfold fileText
        omega
      . rw [List.length_append]
        unfold valuesText
        omega

theorem putFile_eq {names : List CStr} {lines : List (CStr × CStr)} (hplain : Plain names lines)
    {cmdMaxSize : Nat} {files : Files} {words path : CStr} (hfile : files path = some (fileText lines))
    (hroom : words.length + (valuesText lines).length < cmdMaxSize - 1)
    : putFile names cmdMaxSize files words path = some (words ++ valuesText lines) := by
  have hput : putText cmdMaxSize [] words = some words := by
    unfold putText
    rw [if_pos, List.nil_append]
    rw [List.length_nil]
    omega
  unfold putFile
  rw [hput, hfile]
  exact putLines_fileText hplain (Nat.le_refl _) hroom

end BsCmd
end BsTest
end OpenSyncRdk
