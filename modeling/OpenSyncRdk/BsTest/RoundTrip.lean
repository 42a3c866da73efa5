import OpenSyncRdk.BsTest.Daemon
import OpenSyncRdk.BsTest.Framing

/-!
What a user of `bs_cmd` asks for, and the call of the wifi HAL that comes of it on the other side. A word
stands for a value if the daemon's conversion of its place gives that value, and is not split on the way.
-/

namespace OpenSyncRdk
namespace BsTest

open Clients (MacAddr)
open Vif (sscanfMac sscanfOctets)

structure Word {α : Type} (Means : CStr → α → Prop) where
  text : CStr
  val : α
  means : Means text val

def MeansUInt (text : CStr) (val : UInt32) : Prop :=
  Spells text val.toNat

def MeansInt (text : CStr) (val : Int) : Prop :=
  Spells text val ∧ -2 ^ 31 ≤ val ∧ val < 2 ^ 31

def MeansByte (text : CStr) (val : UInt8) : Prop :=
  Spells text val.toNat

def MeansMac (text : CStr) (mac : MacAddr) : Prop :=
  sscanfMac text = some mac ∧ 59 ∉ text ∧ 10 ∉ text

def MeansUChar (text : CStr) (val : UInt8) : Prop :=
  Literal text val.toNat

def MeansUShort (text : CStr) (val : UInt16) : Prop :=
  Literal text val.toNat

def MeansLiteral (text : CStr) (val : UInt32) : Prop :=
  Literal text val.toNat

def MeansULong (text : CStr) (val : UInt64) : Prop :=
  Literal text val.toNat ∧ val.toNat < 2 ^ 63

def Unsplit (text : CStr) : Prop :=
  59 ∉ text ∧ 10 ∉ text

theorem unsplit_of_spells {text : CStr} {val : Int} (hspells : Spells text val)
    : Unsplit text :=
  ⟨hspells.not_mem (by decide) (by decide), hspells.not_mem (by decide) (by decide)⟩

theorem unsplit_of_literal {text : CStr} {val : Nat} (hliteral : Literal text val)
    : Unsplit text :=
  ⟨hliteral.not_mem (by decide) (by decide), hliteral.not_mem (by decide) (by decide)⟩

theorem MeansUInt.strtol_eq {text : CStr} {val : UInt32} (hmeans : MeansUInt text val)
    : UInt32.ofInt (strtol text) = val := by
  have hlt := val.toNat_lt
  rw [Spells.strtol_eq hmeans (by omega) (by omega)]
  unfold UInt32.ofInt
  rw [Int.emod_eq_of_lt (by omega) (by omega), Int.toNat_natCast, UInt32.ofNat_toNat]

theorem MeansInt.atoi_eq {text : CStr} {val : Int} (hmeans : MeansInt text val)
    : atoi text = val := by
  have ⟨hspells, hlow, hhigh⟩ := hmeans
  unfold atoi
  rw [hspells.strtol_eq (by omega) (by omega)]
  apply Int.bmod_eq_of_le
  . omega
  . omega

theorem MeansByte.strtol_eq {text : CStr} {val : UInt8} (hmeans : MeansByte text val)
    : UInt8.ofInt (strtol text) = val := by
  have hlt := val.toNat_lt
  rw [Spells.strtol_eq hmeans (by omega) (by omega)]
  unfold UInt8.ofInt
  rw [Int.emod_eq_of_lt (by omega) (by omega), Int.toNat_natCast, UInt8.ofNat_toNat]

theorem MeansMac.strToMacAddr_eq {text : CStr} {mac : MacAddr} (hmeans : MeansMac text mac)
    (stack : MacAddr)
    : strToMacAddr text stack = mac := by
  have hscan := hmeans.1
  unfold sscanfMac at hscan
  unfold strToMacAddr
  split at hscan
  . next b0 b1 b2 b3 b4 b5 hoctets =>
    injection hscan with hscan
    rw [hoctets, ← hscan]
    rfl
  . contradiction

theorem MeansUChar.strtolPrefixed_eq {text : CStr} {val : UInt8} (hmeans : MeansUChar text val)
    : UInt8.ofInt (strtolPrefixed text) = val := by
  have hlt := val.toNat_lt
  rw [Literal.strtolPrefixed_eq hmeans (by omega)]
  unfold UInt8.ofInt
  rw [Int.emod_eq_of_lt (by omega) (by omega), Int.toNat_natCast, UInt8.ofNat_toNat]

theorem MeansUShort.strtolPrefixed_eq {text : CStr} {val : UInt16} (hmeans : MeansUShort text val)
    : UInt16.ofInt (strtolPrefixed text) = val := by
  have hlt := val.toNat_lt
  rw [Literal.strtolPrefixed_eq hmeans (by omega)]
  unfold UInt16.ofInt
  rw [Int.emod_eq_of_lt (by omega) (by omega), Int.toNat_natCast, UInt16.ofNat_toNat]

theorem MeansLiteral.strtolPrefixed_eq {text : CStr} {val : UInt32} (hmeans : MeansLiteral text val)
    : UInt32.ofInt (strtolPrefixed text) = val := by
  have hlt := val.toNat_lt
  rw [Literal.strtolPrefixed_eq hmeans (by omega)]
  unfold UInt32.ofInt
  rw [Int.emod_eq_of_lt (by omega) (by omega), Int.toNat_natCast, UInt32.ofNat_toNat]

theorem MeansULong.strtolPrefixed_eq {text : CStr} {val : UInt64} (hmeans : MeansULong text val)
    : UInt64.ofInt (strtolPrefixed text) = val := by
  rw [Literal.strtolPrefixed_eq hmeans.1 hmeans.2]
  have hlt := hmeans.2
  unfold UInt64.ofInt
  rw [Int.emod_eq_of_lt (by omega) (by omega), Int.toNat_natCast, UInt64.ofNat_toNat]

structure CandidateWords where
  bssid : Word MeansMac
  info : Word MeansLiteral
  opClass : Word MeansUChar
  channel : Word MeansUChar
  phyTable : Word MeansUChar
  preference : Word MeansUChar

def CandidateWords.lines (candidate : CandidateWords) : List (CStr × CStr) :=
  [ (cstr "bssid", candidate.bssid.text), (cstr "info", candidate.info.text)
  , (cstr "opClass", candidate.opClass.text), (cstr "channel", candidate.channel.text)
  , (cstr "phyTable", candidate.phyTable.text), (cstr "preference", candidate.preference.text)
  ]

def CandidateWords.candidate (candidate : CandidateWords) : Candidate :=
  { bssid := candidate.bssid.val
    info := candidate.info.val
    opClass := candidate.opClass.val
    channel := candidate.channel.val
    phyTable := candidate.phyTable.val
    preference := candidate.preference.val
  }

structure BTMWords where
  token : Word MeansUChar
  requestMode : Word MeansUChar
  timer : Word MeansUShort
  validityInterval : Word MeansUChar
  tsf : Word MeansULong
  duration : Word MeansUShort
  numCandidates : Word MeansUChar
  candidates : List CandidateWords
  counted : numCandidates.val.toNat = candidates.length

def BTMWords.lines (file : BTMWords) : List (CStr × CStr) :=
  [ (cstr "token", file.token.text), (cstr "requestMode", file.requestMode.text)
  , (cstr "timer", file.timer.text), (cstr "validityInterval", file.validityInterval.text)
  , (cstr "termDuration.tsf", file.tsf.text), (cstr "termDuration.duration", file.duration.text)
  , (cstr "numCandidates", file.numCandidates.text)
  ] ++ file.candidates.flatMap CandidateWords.lines

def BTMWords.request (file : BTMWords) : BTMRequest :=
  { token := file.token.val
    requestMode := file.requestMode.val
    timer := file.timer.val
    validityInterval := file.validityInterval.val
    tsf := file.tsf.val
    duration := file.duration.val
    numCandidates := file.numCandidates.val
    candidates := file.candidates.map CandidateWords.candidate
  }

structure RMWords where
  opClass : Word MeansUChar
  mode : Word MeansUChar
  channel : Word MeansByte
  randomizationInterval : Word MeansUShort
  duration : Word MeansUShort
  ssidPresent : Word MeansUChar
  bssid : Word MeansMac

def RMWords.lines (file : RMWords) : List (CStr × CStr) :=
  [ (cstr "opClass", file.opClass.text), (cstr "mode", file.mode.text)
  , (cstr "channel", file.channel.text), (cstr "randomizationInterval", file.randomizationInterval.text)
  , (cstr "duration", file.duration.text), (cstr "ssidPresent", file.ssidPresent.text)
  , (cstr "bssid", file.bssid.text)
  ]

def RMWords.request (file : RMWords) : BeaconRequest :=
  { opClass := file.opClass.val
    mode := file.mode.val
    channel := file.channel.val
    randomizationInterval := file.randomizationInterval.val
    duration := file.duration.val
    ssidPresent := file.ssidPresent.val
    bssid := file.bssid.val
  }

structure ClientWords where
  rssiProbeHWM : Word MeansUInt
  rssiProbeLWM : Word MeansUInt
  rssiAuthHWM : Word MeansUInt
  rssiAuthLWM : Word MeansUInt
  rssiInactXing : Word MeansUInt
  rssiHighXing : Word MeansUInt
  rssiLowXing : Word MeansUInt
  authRejectReason : Word MeansUInt

def ClientWords.lines (file : ClientWords) : List (CStr × CStr) :=
  [ (cstr "rssiProbeHWM", file.rssiProbeHWM.text), (cstr "rssiProbeLWM", file.rssiProbeLWM.text)
  , (cstr "rssiAuthHWM", file.rssiAuthHWM.text), (cstr "rssiAuthLWM", file.rssiAuthLWM.text)
  , (cstr "rssiInactXing", file.rssiInactXing.text), (cstr "rssiHighXing", file.rssiHighXing.text)
  , (cstr "rssiLowXing", file.rssiLowXing.text), (cstr "authRejectReason", file.authRejectReason.text)
  ]

def ClientWords.config (file : ClientWords) : ClientConfig :=
  { rssiProbeHWM := file.rssiProbeHWM.val
    rssiProbeLWM := file.rssiProbeLWM.val
    rssiAuthHWM := file.rssiAuthHWM.val
    rssiAuthLWM := file.rssiAuthLWM.val
    rssiInactXing := file.rssiInactXing.val
    rssiHighXing := file.rssiHighXing.val
    rssiLowXing := file.rssiLowXing.val
    authRejectReason := file.authRejectReason.val
  }

/-- The command lines but for set group. A file has its lines in the order in which they are read. -/
inductive Invocation where
  | eventRegister
  | eventUnregister
  | setBTMRequest (apIndex : Word MeansInt) (peerMac : Word MeansMac) (path : CStr) (file : BTMWords)
  | setRMBeaconRequest (apIndex : Word MeansInt) (peerMac : Word MeansMac) (dialToken : Word MeansByte)
      (path : CStr) (file : RMWords)
  | clientSet (groupIndex : Word MeansUInt) (apIndex : Word MeansInt) (mac : Word MeansMac) (path : CStr)
      (file : ClientWords)
  | clientDisconnect (groupIndex : Word MeansUInt) (apIndex : Word MeansInt) (mac : Word MeansMac)
      (type : Word MeansInt) (reason : Word MeansUInt)
  | clientMeasure (groupIndex : Word MeansUInt) (apIndex : Word MeansInt) (mac : Word MeansMac)
  | clientRemove (groupIndex : Word MeansUInt) (apIndex : Word MeansInt) (mac : Word MeansMac)
  | getBssTransitionActivated (apIndex : Word MeansInt)
  | getNbrReportActivated (apIndex : Word MeansInt)
  | bssTransitionActivated (apIndex : Word MeansInt) (state : Word MeansByte)
  | nbrReportActivated (apIndex : Word MeansInt) (state : Word MeansByte)

namespace Invocation

def name : Invocation → CmdName
  | eventRegister => .eventRegister
  | eventUnregister => .eventUnregister
  | setBTMRequest _ _ _ _ => .setBTMRequest
  | setRMBeaconRequest _ _ _ _ _ => .setRMBeaconRequest
  | clientSet _ _ _ _ _ => .clientSet
  | clientDisconnect _ _ _ _ _ => .clientDisconnect
  | clientMeasure _ _ _ => .clientMeasure
  | clientRemove _ _ _ => .clientRemove
  | getBssTransitionActivated _ => .getBssTransitionActivated
  | getNbrReportActivated _ => .getNbrReportActivated
  | bssTransitionActivated _ _ => .bssTransitionActivated
  | nbrReportActivated _ _ => .nbrReportActivated

def args : Invocation → List CStr
  | eventRegister => []
  | eventUnregister => []
  | setBTMRequest apIndex peerMac _ _ => [apIndex.text, peerMac.text]
  | setRMBeaconRequest apIndex peerMac dialToken _ _ => [apIndex.text, peerMac.text, dialToken.text]
  | clientSet groupIndex apIndex mac _ _ => [groupIndex.text, apIndex.text, mac.text]
  | clientDisconnect groupIndex apIndex mac type reason =>
    [groupIndex.text, apIndex.text, mac.text, type.text, reason.text]
  | clientMeasure groupIndex apIndex mac => [groupIndex.text, apIndex.text, mac.text]
  | clientRemove groupIndex apIndex mac => [groupIndex.text, apIndex.text, mac.text]
  | getBssTransitionActivated apIndex => [apIndex.text]
  | getNbrReportActivated apIndex => [apIndex.text]
  | bssTransitionActivated apIndex state => [apIndex.text, state.text]
  | nbrReportActivated apIndex state => [apIndex.text, state.text]

def file? : Invocation → Option (CStr × List (CStr × CStr))
  | setBTMRequest _ _ path file => some (path, file.lines)
  | setRMBeaconRequest _ _ _ path file => some (path, file.lines)
  | clientSet _ _ _ path file => some (path, file.lines)
  | _ => none

def argv (inv : Invocation) : List CStr :=
  inv.name.text :: (inv.args ++ (inv.file?.map Prod.fst).toList)

def lines (inv : Invocation) : List (CStr × CStr) :=
  (inv.file?.map Prod.snd).getD []

def fields (inv : Invocation) : List CStr :=
  inv.args ++ inv.lines.map Prod.snd

def cmd (inv : Invocation) : CStr :=
  BsCmd.words (inv.name.text :: inv.fields)

def Opened (files : Files) (inv : Invocation) : Prop :=
  ∀ file ∈ inv.file?, files file.1 = some (BsCmd.fileText file.2)

def wanted (hal : VapHal) : Invocation → Handled
  | eventRegister => .call .eventRegister
  | eventUnregister => .call .eventUnregister
  | setBTMRequest apIndex peerMac _ file =>
    .call (.setBTMRequest {
      apIndex := apIndex.val
      peerMac := peerMac.val
      request := file.request
      indices := List.range file.candidates.length ++ List.range file.candidates.length
      prints := printRequest apIndex.val peerMac.val file.request
    })
  | setRMBeaconRequest apIndex peerMac dialToken _ file =>
    .call (.setRMBeaconRequest apIndex.val peerMac.val file.request dialToken.val)
  | clientSet groupIndex apIndex mac _ file =>
    .call (.clientSet groupIndex.val apIndex.val mac.val file.config)
  | clientDisconnect groupIndex apIndex mac type reason =>
    .call (.clientDisconnect groupIndex.val apIndex.val mac.val type.val reason.val)
  | clientMeasure groupIndex apIndex mac => .call (.clientMeasure groupIndex.val apIndex.val mac.val)
  | clientRemove groupIndex apIndex mac => .call (.clientRemove groupIndex.val apIndex.val mac.val)
  | getBssTransitionActivated apIndex => known apIndex.val
  | getNbrReportActivated apIndex => known apIndex.val
  | bssTransitionActivated apIndex state =>
    changed apIndex.val (fun vap => { vap with bssTransitionActivated := state.val })
  | nbrReportActivated apIndex state =>
    changed apIndex.val (fun vap => { vap with nbrReportActivated := state.val })
where
  known (apIndex : Int) : Handled :=
    if (BsTestd.ssidIndexToVapInfo hal (unsignedInt apIndex)).isSome then .success else .failure
  changed (apIndex : Int) (set : VapInfo → VapInfo) : Handled :=
    match BsTestd.ssidIndexToVapInfo hal (unsignedInt apIndex) with
    | none => .failure
    | some (radioIdx, map, i) => .call (.createVAP radioIdx (map.modify i set))

end Invocation

namespace Word

theorem unsplit_uint (word : Word MeansUInt)
    : Unsplit word.text :=
  unsplit_of_spells word.means

theorem unsplit_int (word : Word MeansInt)
    : Unsplit word.text :=
  unsplit_of_spells word.means.1

theorem unsplit_byte (word : Word MeansByte)
    : Unsplit word.text :=
  unsplit_of_spells word.means

theorem unsplit_mac (word : Word MeansMac)
    : Unsplit word.text :=
  word.means.2

theorem unsplit_uchar (word : Word MeansUChar)
    : Unsplit word.text :=
  unsplit_of_literal word.means

theorem unsplit_ushort (word : Word MeansUShort)
    : Unsplit word.text :=
  unsplit_of_literal word.means

theorem unsplit_literal (word : Word MeansLiteral)
    : Unsplit word.text :=
  unsplit_of_literal word.means

theorem unsplit_ulong (word : Word MeansULong)
    : Unsplit word.text :=
  unsplit_of_literal word.means.1

end Word

section

variable (stack : MacAddr) (groupIndex : Word MeansUInt) (apIndex : Word MeansInt) (mac : Word MeansMac)

theorem handleSetClient_joined (file : ClientWords)
    : BsTestd.handleSetClient stack
          (joined 59 ([groupIndex.text, apIndex.text, mac.text] ++ file.lines.map Prod.snd))
        =
      some (.clientSet groupIndex.val apIndex.val mac.val file.config, none) := by
  unfold ClientWords.lines BsTestd.handleSetClient
  simp only [List.map_cons, List.map_nil, List.cons_append, List.nil_append]
  rw [bind_nextToken _ groupIndex.unsplit_uint.1, bind_nextToken _ apIndex.unsplit_int.1,
    bind_nextToken _ mac.unsplit_mac.1, bind_nextToken _ file.rssiProbeHWM.unsplit_uint.1,
    bind_nextToken _ file.rssiProbeLWM.unsplit_uint.1, bind_nextToken _ file.rssiAuthHWM.unsplit_uint.1,
    bind_nextToken _ file.rssiAuthLWM.unsplit_uint.1, bind_nextToken _ file.rssiInactXing.unsplit_uint.1,
    bind_nextToken _ file.rssiHighXing.unsplit_uint.1, bind_nextToken _ file.rssiLowXing.unsplit_uint.1,
    bind_nextToken _ file.authRejectReason.unsplit_uint.1]
  rw [groupIndex.means.strtol_eq, apIndex.means.atoi_eq, mac.means.strToMacAddr_eq,
    file.rssiProbeHWM.means.strtol_eq, file.rssiProbeLWM.means.strtol_eq,
    file.rssiAuthHWM.means.strtol_eq, file.rssiAuthLWM.means.strtol_eq,
    file.rssiInactXing.means.strtol_eq, file.rssiHighXing.means.strtol_eq,
    file.rssiLowXing.means.strtol_eq, file.authRejectReason.means.strtol_eq]
  rfl

theorem handleSetRMBeaconRequest_joined (dialToken : Word MeansByte) (file : RMWords)
    : BsTestd.handleSetRMBeaconRequest stack
          (joined 59 ([apIndex.text, mac.text, dialToken.text] ++ file.lines.map Prod.snd))
        =
      some (.setRMBeaconRequest apIndex.val mac.val file.request dialToken.val, none) := by
  unfold RMWords.lines BsTestd.handleSetRMBeaconRequest
  simp only [List.map_cons, List.map_nil, List.cons_append, List.nil_append]
  rw [bind_nextToken _ apIndex.unsplit_int.1, bind_nextToken _ mac.unsplit_mac.1,
    bind_nextToken _ dialToken.unsplit_byte.1, bind_nextToken _ file.opClass.unsplit_uchar.1,
    bind_nextToken _ file.mode.unsplit_uchar.1, bind_nextToken _ file.channel.unsplit_byte.1,
    bind_nextToken _ file.randomizationInterval.unsplit_ushort.1,
    bind_nextToken _ file.duration.unsplit_ushort.1, bind_nextToken _ file.ssidPresent.unsplit_uchar.1,
    bind_nextToken _ file.bssid.unsplit_mac.1]
  rw [apIndex.means.atoi_eq, mac.means.strToMacAddr_eq, dialToken.means.strtol_eq,
    file.opClass.means.strtolPrefixed_eq, file.mode.means.strtolPrefixed_eq,
    file.channel.means.strtol_eq, file.randomizationInterval.means.strtolPrefixed_eq,
    file.duration.means.strtolPrefixed_eq, file.ssidPresent.means.strtolPrefixed_eq,
    file.bssid.means.strToMacAddr_eq]
  rfl

theorem handleClientDisconnect_joined (type : Word MeansInt) (reason : Word MeansUInt)
    : BsTestd.handleClientDisconnect stack
          (joined 59 [groupIndex.text, apIndex.text, mac.text, type.text, reason.text])
        =
      some (.clientDisconnect groupIndex.val apIndex.val mac.val type.val reason.val, none) := by
  unfold BsTestd.handleClientDisconnect
  rw [bind_nextToken _ groupIndex.unsplit_uint.1, bind_nextToken _ apIndex.unsplit_int.1,
    bind_nextToken _ mac.unsplit_mac.1, bind_nextToken _ type.unsplit_int.1,
    bind_nextToken _ reason.unsplit_uint.1]
  rw [groupIndex.means.strtol_eq, apIndex.means.atoi_eq, mac.means.strToMacAddr_eq, type.means.atoi_eq,
    reason.means.strtol_eq]
  rfl

theorem handleClientMeasure_joined
    : BsTestd.handleClientMeasure stack (joined 59 [groupIndex.text, apIndex.text, mac.text])
        =
      some (.clientMeasure groupIndex.val apIndex.val mac.val, none) := by
  unfold BsTestd.handleClientMeasure
  rw [bind_nextToken _ groupIndex.unsplit_uint.1, bind_nextToken _ apIndex.unsplit_int.1,
    bind_nextToken _ mac.unsplit_mac.1]
  rw [groupIndex.means.strtol_eq, apIndex.means.atoi_eq, mac.means.strToMacAddr_eq]
  rfl

theorem handleClientRemove_joined
    : BsTestd.handleClientRemove stack (joined 59 [groupIndex.text, apIndex.text, mac.text])
        =
      some (.clientRemove groupIndex.val apIndex.val mac.val, none) := by
  unfold BsTestd.handleClientRemove
  rw [bind_nextToken _ groupIndex.unsplit_uint.1, bind_nextToken _ apIndex.unsplit_int.1,
    bind_nextToken _ mac.unsplit_mac.1]
  rw [groupIndex.means.strtol_eq, apIndex.means.atoi_eq, mac.means.strToMacAddr_eq]
  rfl

theorem handleGetActivated_joined (hal : VapHal)
    : BsTestd.handleGetActivated hal (joined 59 [apIndex.text])
        =
      some (Invocation.wanted.known hal apIndex.val, none) := by
  unfold BsTestd.handleGetActivated Invocation.wanted.known
  rw [bind_nextToken _ apIndex.unsplit_int.1, apIndex.means.atoi_eq]
  cases BsTestd.ssidIndexToVapInfo hal (unsignedInt apIndex.val) with
  | none => rfl
  | some found => rfl

theorem handleActivated_joined (hal : VapHal) (set : UInt8 → VapInfo → VapInfo) (state : Word MeansByte)
    : BsTestd.handleActivated hal set (joined 59 [apIndex.text, state.text])
        =
      some (Invocation.wanted.changed hal apIndex.val (set state.val), none) := by
  unfold BsTestd.handleActivated Invocation.wanted.changed
  rw [bind_nextToken _ apIndex.unsplit_int.1, bind_nextToken _ state.unsplit_byte.1,
    apIndex.means.atoi_eq, state.means.strtol_eq]
  cases BsTestd.ssidIndexToVapInfo hal (unsignedInt apIndex.val) with
  | none => rfl
  | some found => rfl

def CandidateWords.texts (candidate : CandidateWords) : CandidateFields :=
  { bssid := candidate.bssid.text
    info := candidate.info.text
    opClass := candidate.opClass.text
    channel := candidate.channel.text
    phyTable := candidate.phyTable.text
    preference := candidate.preference.text
  }

theorem CandidateWords.read_texts (candidate : CandidateWords)
    : candidate.texts.read = candidate.candidate := by
  unfold CandidateFields.read CandidateWords.texts CandidateWords.candidate
  dsimp only
  rw [candidate.bssid.means.strToMacAddr_eq, candidate.info.means.strtolPrefixed_eq,
    candidate.opClass.means.strtolPrefixed_eq, candidate.channel.means.strtolPrefixed_eq,
    candidate.phyTable.means.strtolPrefixed_eq, candidate.preference.means.strtolPrefixed_eq]

theorem CandidateWords.unsplit (candidate : CandidateWords) {line : CStr × CStr}
    (hline : line ∈ candidate.lines)
    : Unsplit line.2 := by
  unfold CandidateWords.lines at hline
  simp only [List.mem_cons, List.not_mem_nil, or_false] at hline
  rcases hline with rfl | rfl | rfl | rfl | rfl | rfl
  . exact candidate.bssid.unsplit_mac
  . exact candidate.info.unsplit_literal
  . exact candidate.opClass.unsplit_uchar
  . exact candidate.channel.unsplit_uchar
  . exact candidate.phyTable.unsplit_uchar
  . exact candidate.preference.unsplit_uchar

theorem BTMWords.unsplit (file : BTMWords) {line : CStr × CStr} (hline : line ∈ file.lines)
    : Unsplit line.2 := by
  unfold BTMWords.lines at hline
  rw [List.mem_append] at hline
  rcases hline with hline | hline
  . simp only [List.mem_cons, List.not_mem_nil, or_false] at hline
    rcases hline with rfl | rfl | rfl | rfl | rfl | rfl | rfl
    . exact file.token.unsplit_uchar
    . exact file.requestMode.unsplit_uchar
    . exact file.timer.unsplit_ushort
    . exact file.validityInterval.unsplit_uchar
    . exact file.tsf.unsplit_ulong
    . exact file.duration.unsplit_ushort
    . exact file.numCandidates.unsplit_uchar
  . have ⟨candidate, _, hline⟩ := List.mem_flatMap.mp hline
    exact candidate.unsplit hline

def BTMWords.texts (file : BTMWords) (apIndex : Word MeansInt) (mac : Word MeansMac) : BTMFields :=
  { apIndex := apIndex.text
    peerMac := mac.text
    token := file.token.text
    requestMode := file.requestMode.text
    timer := file.timer.text
    validityInterval := file.validityInterval.text
    tsf := file.tsf.text
    duration := file.duration.text
    numCandidates := file.numCandidates.text
    candidates := file.candidates.map CandidateWords.texts
    more := []
  }

theorem BTMWords.fields_texts (file : BTMWords)
    : (file.texts apIndex mac).fields = [apIndex.text, mac.text] ++ file.lines.map Prod.snd := by
  have hcandidates
      : (file.candidates.map CandidateWords.texts).flatMap CandidateFields.fields
          =
        (file.candidates.flatMap CandidateWords.lines).map Prod.snd := by
    rw [List.flatMap_map, List.map_flatMap]
    rfl
  unfold BTMFields.fields BTMWords.texts BTMWords.lines
  dsimp only
  rw [hcandidates, List.map_append, List.append_nil]
  rfl

def BTMWords.command (file : BTMWords) (apIndex : Word MeansInt) (mac : Word MeansMac) : BTMCommand :=
  { file.texts apIndex mac with
    separated := by
      intro field hfield
      rw [BTMWords.fields_texts, List.mem_append, List.mem_pair] at hfield
      rcases hfield with (rfl | rfl) | hfield
      . exact apIndex.unsplit_int.1
      . exact mac.unsplit_mac.1
      . have ⟨line, hline, heq⟩ := List.mem_map.mp hfield
        rw [← heq]
        exact (file.unsplit hline).1
    counted := by
      unfold BTMWords.texts
      dsimp only
      rw [file.numCandidates.means.strtolPrefixed_eq, file.counted, List.length_map]
  }

theorem BTMWords.request_texts (file : BTMWords)
    : (file.texts apIndex mac).request = file.request := by
  unfold BTMFields.request BTMWords.texts BTMWords.request
  dsimp only
  rw [file.token.means.strtolPrefixed_eq, file.requestMode.means.strtolPrefixed_eq,
    file.timer.means.strtolPrefixed_eq, file.validityInterval.means.strtolPrefixed_eq,
    file.tsf.means.strtolPrefixed_eq, file.duration.means.strtolPrefixed_eq,
    file.numCandidates.means.strtolPrefixed_eq, List.map_map]
  congr 1
  apply List.map_congr_left
  intro candidate _
  exact candidate.read_texts

theorem handleSetBTMRequest_joined (file : BTMWords)
    : handleSetBTMRequest stack (joined 59 ([apIndex.text, mac.text] ++ file.lines.map Prod.snd))
        =
      some
        ({
          apIndex := apIndex.val
          peerMac := mac.val
          request := file.request
          indices := List.range file.candidates.length ++ List.range file.candidates.length
          prints := printRequest apIndex.val mac.val file.request
        }, none) := by
  have hread := handleSetBTMRequest_params stack (file.command apIndex mac)
  have hrequest : (file.command apIndex mac).request = file.request :=
    file.request_texts apIndex mac
  have hparams : (file.command apIndex mac).params
      = joined 59 ([apIndex.text, mac.text] ++ file.lines.map Prod.snd) := by
    rw [← file.fields_texts apIndex mac]
    rfl
  have hapIndex : atoi (file.command apIndex mac).apIndex = apIndex.val := apIndex.means.atoi_eq
  have hmac : strToMacAddr (file.command apIndex mac).peerMac stack = mac.val :=
    mac.means.strToMacAddr_eq stack
  have hlength : (file.command apIndex mac).candidates.length = file.candidates.length :=
    List.length_map _
  rw [hparams, hrequest, hapIndex, hmac, hlength] at hread
  exact hread

end

theorem map_params (f : α → β) (x : Params α) (params : Option CStr)
    : ((f <$> x) params).map Prod.fst = (x params).map (fun t => f t.1) := by
  show ((x params).bind (fun t => some (f t.1, t.2))).map Prod.fst = _
  cases x params with
  | none => rfl
  | some t => rfl

theorem Invocation.joined_cmd (inv : Invocation)
    : joined 59 (inv.name.text :: inv.fields) = some inv.cmd := by
  rfl

theorem dispatchCmd_fields (hal : VapHal) (phase2 : Bool) (stack : MacAddr) (inv : Invocation)
    : (BsTestd.dispatchCmd hal phase2 stack inv.name.text (joined 59 inv.fields)).map Prod.fst
        =
      some (inv.wanted hal) := by
  unfold BsTestd.dispatchCmd
  rw [CmdName.ofText_text]
  cases inv with
  | eventRegister => rfl
  | eventUnregister => rfl
  | setBTMRequest apIndex peerMac path file =>
    have hread := handleSetBTMRequest_joined stack apIndex peerMac file
    dsimp only [Invocation.fields, Invocation.args, Invocation.lines, Invocation.file?, Invocation.name]
    rw [map_params]
    exact congrArg (Option.map _) hread
  | setRMBeaconRequest apIndex peerMac dialToken path file =>
    have hread := handleSetRMBeaconRequest_joined stack apIndex peerMac dialToken file
    dsimp only [Invocation.fields, Invocation.args, Invocation.lines, Invocation.file?, Invocation.name]
    rw [map_params]
    exact congrArg (Option.map _) hread
  | clientSet groupIndex apIndex mac path file =>
    have hread := handleSetClient_joined stack groupIndex apIndex mac file
    dsimp only [Invocation.fields, Invocation.args, Invocation.lines, Invocation.file?, Invocation.name]
    rw [map_params]
    exact congrArg (Option.map _) hread
  | clientDisconnect groupIndex apIndex mac type reason =>
    have hread := handleClientDisconnect_joined stack groupIndex apIndex mac type reason
    dsimp only [Invocation.fields, Invocation.args, Invocation.lines, Invocation.file?, Invocation.name]
    rw [map_params]
    exact congrArg (Option.map _) hread
  | clientMeasure groupIndex apIndex mac =>
    have hread := handleClientMeasure_joined stack groupIndex apIndex mac
    dsimp only [Invocation.fields, Invocation.args, Invocation.lines, Invocation.file?, Invocation.name]
    rw [map_params]
    exact congrArg (Option.map _) hread
  | clientRemove groupIndex apIndex mac =>
    have hread := handleClientRemove_joined stack groupIndex apIndex mac
    dsimp only [Invocation.fields, Invocation.args, Invocation.lines, Invocation.file?, Invocation.name]
    rw [map_params]
    exact congrArg (Option.map _) hread
  | getBssTransitionActivated apIndex =>
    exact congrArg (Option.map Prod.fst) (handleGetActivated_joined apIndex hal)
  | getNbrReportActivated apIndex =>
    exact congrArg (Option.map Prod.fst) (handleGetActivated_joined apIndex hal)
  | bssTransitionActivated apIndex state =>
    exact congrArg (Option.map Prod.fst) (handleActivated_joined apIndex hal _ state)
  | nbrReportActivated apIndex state =>
    exact congrArg (Option.map Prod.fst) (handleActivated_joined apIndex hal _ state)

theorem words_append (word : CStr) (rest : List CStr) (lines : List (CStr × CStr))
    : BsCmd.words (word :: (rest ++ lines.map Prod.snd))
        =
      BsCmd.words (word :: rest) ++ BsCmd.valuesText lines := by
  show word ++ (rest ++ lines.map Prod.snd).flatMap _ = (word ++ rest.flatMap _) ++ _
  rw [List.flatMap_append, List.flatMap_map, List.append_assoc]
  rfl

theorem length_lt_valuesText {lines : List (CStr × CStr)} {line : CStr × CStr} (hline : line ∈ lines)
    : line.2.length < (BsCmd.valuesText lines).length := by
  have ⟨pre, post, hsplit⟩ := List.append_of_mem hline
  unfold BsCmd.valuesText
  rw [hsplit, List.flatMap_append, List.flatMap_cons, List.length_append, List.length_append,
    List.length_cons]
  omega

theorem plain_of_room {names : List CStr} {lines : List (CStr × CStr)} {words : CStr}
    (hknown : ∀ line ∈ lines, line.1 ∈ names) (hunsplit : ∀ line ∈ lines, Unsplit line.2)
    (hnames : ∀ name ∈ names, 61 ∉ name ∧ 10 ∉ name ∧ name.length ≤ words.length)
    (hroom : words.length + (BsCmd.valuesText lines).length < cmdBufSize - 1)
    : BsCmd.Plain names lines := by
  constructor
  . exact hknown
  . intro line hline
    have ⟨hsep, hend, _⟩ := hnames line.1 (hknown line hline)
    exact ⟨hsep, hend, (hunsplit line hline).2⟩
  . intro line hline
    have ⟨_, _, hlength⟩ := hnames line.1 (hknown line hline)
    have htext := length_lt_valuesText hline
    unfold BsCmd.rawLine lineSize
    unfold cmdBufSize at hroom
    rw [List.length_append, List.length_cons, List.length_append, List.length_singleton]
    omega

theorem putFile_cmd {names : List CStr} {inv : Invocation} {files : Files} {path : CStr}
    (hfile : files path = some (BsCmd.fileText inv.lines))
    (hknown : ∀ line ∈ inv.lines, line.1 ∈ names) (hunsplit : ∀ line ∈ inv.lines, Unsplit line.2)
    (hnames : ∀ name ∈ names, 61 ∉ name ∧ 10 ∉ name
      ∧ name.length ≤ (BsCmd.words (inv.name.text :: inv.args)).length)
    (hshort : inv.cmd.length + 1 < cmdBufSize)
    : BsCmd.putFile names cmdBufSize files (BsCmd.words (inv.name.text :: inv.args)) path
        =
      some inv.cmd := by
  have hcmd : inv.cmd = BsCmd.words (inv.name.text :: inv.args) ++ BsCmd.valuesText inv.lines :=
    words_append _ _ _
  have hroom
      : (BsCmd.words (inv.name.text :: inv.args)).length + (BsCmd.valuesText inv.lines).length
          < cmdBufSize - 1 := by
    rw [hcmd, List.length_append] at hshort
    omega
  rw [BsCmd.putFile_eq (plain_of_room hknown hunsplit hnames hroom) hfile hroom, ← hcmd]

theorem snprintf_short {text : CStr} (hshort : text.length + 1 < cmdBufSize)
    : BsCmd.snprintf cmdBufSize text = text := by
  unfold BsCmd.snprintf
  apply List.take_of_length_le
  omega

theorem RMWords.unsplit (file : RMWords) {line : CStr × CStr} (hline : line ∈ file.lines)
    : Unsplit line.2 := by
  unfold RMWords.lines at hline
  simp only [List.mem_cons, List.not_mem_nil, or_false] at hline
  rcases hline with rfl | rfl | rfl | rfl | rfl | rfl | rfl
  . exact file.opClass.unsplit_uchar
  . exact file.mode.unsplit_uchar
  . exact file.channel.unsplit_byte
  . exact file.randomizationInterval.unsplit_ushort
  . exact file.duration.unsplit_ushort
  . exact file.ssidPresent.unsplit_uchar
  . exact file.bssid.unsplit_mac

theorem ClientWords.unsplit (file : ClientWords) {line : CStr × CStr} (hline : line ∈ file.lines)
    : Unsplit line.2 := by
  unfold ClientWords.lines at hline
  simp only [List.mem_cons, List.not_mem_nil, or_false] at hline
  rcases hline with rfl | rfl | rfl | rfl | rfl | rfl | rfl | rfl
  . exact file.rssiProbeHWM.unsplit_uint
  . exact file.rssiProbeLWM.unsplit_uint
  . exact file.rssiAuthHWM.unsplit_uint
  . exact file.rssiAuthLWM.unsplit_uint
  . exact file.rssiInactXing.unsplit_uint
  . exact file.rssiHighXing.unsplit_uint
  . exact file.rssiLowXing.unsplit_uint
  . exact file.authRejectReason.unsplit_uint

theorem BTMWords.known (file : BTMWords)
    : ∀ line ∈ file.lines, line.1 ∈ btmNames := by
  intro line hline
  unfold BTMWords.lines at hline
  rw [List.mem_append, List.mem_flatMap] at hline
  have hnames : line.1 ∈ btmNames.take 7 ∨ line.1 ∈ btmNames.drop 7 := by
    rcases hline with hline | ⟨candidate, _, hline⟩
    . exact .inl (List.mem_map_of_mem hline)
    . exact .inr (List.mem_map_of_mem hline)
  rw [← List.take_append_drop 7 btmNames, List.mem_append]
  exact hnames

theorem names_short
    : (∀ name ∈ btmNames, 61 ∉ name ∧ 10 ∉ name ∧ name.length ≤ 21)
        ∧ (∀ name ∈ rmNames, 61 ∉ name ∧ 10 ∉ name ∧ name.length ≤ 21)
        ∧ ∀ name ∈ clientNames, 61 ∉ name ∧ 10 ∉ name ∧ name.length ≤ 21 := by
  decide +kernel

theorem length_words_ge (name : CStr) {arg : CStr} {args : List CStr} (hargs : args ≠ [])
    : name.length + arg.length + 2 ≤ (BsCmd.words (name :: arg :: args)).length := by
  cases args with
  | nil => contradiction
  | cons next args =>
    unfold BsCmd.words
    simp only [List.flatMap_cons, List.length_append, List.length_cons]
    omega

theorem Word.length_pos (word : Word MeansInt)
    : 0 < word.text.length := by
  have hspells := word.means.1
  generalize word.val = val at hspells
  generalize word.text = text at hspells
  cases hspells with
  | nonneg hne _ => exact List.length_pos_of_ne_nil hne
  | neg => simp

theorem handleCmd_cmd (hal : VapHal) (phase2 : Bool) (stack : MacAddr) (inv : Invocation)
    : BsTestd.handleCmd hal phase2 stack inv.cmd = some (inv.wanted hal) := by
  have hjoined := BsTestd.handleCmd_joined hal phase2 stack inv.name inv.fields
  rw [inv.joined_cmd, Option.bind_some, dispatchCmd_fields] at hjoined
  exact hjoined

theorem parseCmd_argv (files : Files) (inv : Invocation) (hopened : inv.Opened files)
    (hshort : inv.cmd.length + 1 < cmdBufSize)
    : BsCmd.parseCmd files cmdBufSize inv.argv = some inv.cmd := by
  unfold BsCmd.parseCmd Invocation.argv
  dsimp only
  rw [CmdName.ofText_text]
  cases inv with
  | eventRegister => exact congrArg some (List.take_of_length_le (by decide))
  | eventUnregister => exact congrArg some (List.take_of_length_le (by decide))
  | setBTMRequest apIndex peerMac path file =>
    refine putFile_cmd (hopened _ rfl) file.known (fun line hline => file.unsplit hline) ?_ hshort
    intro name hname
    have ⟨hsep, hend, hlength⟩ := names_short.1 name hname
    have hwords := @length_words_ge CmdName.setBTMRequest.text apIndex.text [peerMac.text] (by simp)
    have htext : CmdName.setBTMRequest.text.length = 18 := by decide
    have hpos := apIndex.length_pos
    refine ⟨hsep, hend, hlength.trans (Nat.le_trans ?_ hwords)⟩
    omega
  | setRMBeaconRequest apIndex peerMac dialToken path file =>
    refine putFile_cmd (hopened _ rfl) ?_ (fun line hline => file.unsplit hline) ?_ hshort
    . intro line hline
      exact List.mem_map_of_mem (f := Prod.fst) hline
    . intro name hname
      have ⟨hsep, hend, hlength⟩ := names_short.2.1 name hname
      have hwords := @length_words_ge CmdName.setRMBeaconRequest.text apIndex.text
        [peerMac.text, dialToken.text] (by simp)
      have htext : CmdName.setRMBeaconRequest.text.length = 23 := by decide
      refine ⟨hsep, hend, hlength.trans (Nat.le_trans ?_ hwords)⟩
      omega
  | clientSet groupIndex apIndex mac path file =>
    refine putFile_cmd (hopened _ rfl) ?_ (fun line hline => file.unsplit hline) ?_ hshort
    . intro line hline
      exact List.mem_map_of_mem (f := Prod.fst) hline
    . intro name hname
      have ⟨hsep, hend, hlength⟩ := names_short.2.2 name hname
      have hwords := @length_words_ge CmdName.clientSet.text groupIndex.text
        [apIndex.text, mac.text] (by simp)
      have htext : CmdName.clientSet.text.length = 23 := by decide
      refine ⟨hsep, hend, hlength.trans (Nat.le_trans ?_ hwords)⟩
      omega
  | clientDisconnect groupIndex apIndex mac type reason => exact congrArg some (snprintf_short hshort)
  | clientMeasure groupIndex apIndex mac => exact congrArg some (snprintf_short hshort)
  | clientRemove groupIndex apIndex mac => exact congrArg some (snprintf_short hshort)
  | getBssTransitionActivated apIndex => exact congrArg some (snprintf_short hshort)
  | getNbrReportActivated apIndex => exact congrArg some (snprintf_short hshort)
  | bssTransitionActivated apIndex state => exact congrArg some (snprintf_short hshort)
  | nbrReportActivated apIndex state => exact congrArg some (snprintf_short hshort)

theorem spells_of_all {text : CStr} (hall : (!text.isEmpty && text.all isDigit) = true)
    : Spells text (ofDecimal text) := by
  rw [Bool.and_eq_true, Bool.not_eq_true', List.isEmpty_eq_false_iff, List.all_eq_true] at hall
  exact .nonneg hall.1 hall.2

theorem literal_of_all {text : CStr} (hall : (!text.isEmpty && text.all isDigit) = true)
    (hzero : text.head? ≠ some 48 ∨ text = [48])
    : Literal text (ofDecimal text) := by
  rw [Bool.and_eq_true, Bool.not_eq_true', List.isEmpty_eq_false_iff, List.all_eq_true] at hall
  exact .decimal hall.1 hall.2 hzero

theorem literal_hex_of_all {digits : CStr} (hall : digits.all (fun c => digitValue c < 16) = true)
    : Literal (48 :: 120 :: digits) (ofDigits 16 digits) := by
  rw [List.all_eq_true] at hall
  exact .hex (fun c hc => of_decide_eq_true (hall c hc))

def exampleRequest : RMWords :=
  { opClass := ⟨cstr "81", 81, literal_of_all rfl (by decide)⟩
    mode := ⟨cstr "0x1", 1, @literal_hex_of_all (cstr "1") rfl⟩
    channel := ⟨cstr "006", 6, spells_of_all rfl⟩
    randomizationInterval := ⟨cstr "0", 0, literal_of_all rfl (by decide)⟩
    duration := ⟨cstr "0x64", 100, @literal_hex_of_all (cstr "64") rfl⟩
    ssidPresent := ⟨cstr "0", 0, literal_of_all rfl (by decide)⟩
    bssid := ⟨cstr "ff:ff:ff:ff:ff:ff", ⟨255, 255, 255, 255, 255, 255⟩, by decide, by decide, by decide⟩
  }

def exampleFiles : Files :=
  fun path => if path = cstr "rm.cfg" then some (BsCmd.fileText exampleRequest.lines) else none

def exampleHal : VapHal :=
  { getSSIDRadioIndex := fun _ => none
    getRadioVapInfoMap := fun _ => none
  }

end BsTest
end OpenSyncRdk
