import Mathlib.Algebra.GroupWithZero.Nat
import OpenSyncRdk.Lib.Fields
import OpenSyncRdk.Lib.Numerals
import OpenSyncRdk.Lib.Prints
import OpenSyncRdk.Vif.MacText

/-!
The BTM request command of the band steering test daemon, `bs_testd.c`. `handle_setBTMRequest` reads
the request from the fields of the command and prints it to a buffer, where it goes forward by what
`snprintf` says the text is long, be it cut or not.
-/

namespace OpenSyncRdk
namespace BsTest

open Clients (MacAddr)
open Vif (sscanfOctets)

abbrev Params := StateT (Option CStr) Option

def nextToken : Params CStr :=
  nextField 59

structure Candidate where
  bssid : MacAddr
  info : UInt32
  opClass : UInt8
  channel : UInt8
  phyTable : UInt8
  preference : UInt8
  deriving DecidableEq

structure BTMRequest where
  token : UInt8
  requestMode : UInt8
  timer : UInt16
  validityInterval : UInt8
  tsf : UInt64
  duration : UInt16
  numCandidates : UInt8
  candidates : List Candidate
  deriving DecidableEq

structure BTMRun where
  apIndex : Int
  peerMac : MacAddr
  request : BTMRequest
  indices : List Nat
  prints : List Print
  deriving DecidableEq

def upperByte (byte : UInt8) : CStr :=
  [digit (byte.toNat / 16), digit (byte.toNat % 16)]
where
  digit (val : Nat) : UInt8 :=
    UInt8.ofNat (if val < 10 then 48 + val else 55 + val)

def macText (mac : MacAddr) : CStr :=
  upperByte mac.b0 ++ [58] ++ upperByte mac.b1 ++ [58] ++ upperByte mac.b2 ++ [58] ++ upperByte mac.b3
    ++ [58] ++ upperByte mac.b4 ++ [58] ++ upperByte mac.b5

/-- Octets that are not converted stay as they are. -/
def strToMacAddr (macStr : CStr) (mac : MacAddr) : MacAddr :=
  let octets := sscanfOctets 6 macStr
  { b0 := octets.getD 0 mac.b0
    b1 := octets.getD 1 mac.b1
    b2 := octets.getD 2 mac.b2
    b3 := octets.getD 3 mac.b3
    b4 := octets.getD 4 mac.b4
    b5 := octets.getD 5 mac.b5
  }

def zeroMac : MacAddr :=
  { b0 := 0, b1 := 0, b2 := 0, b3 := 0, b4 := 0, b5 := 0 }

def readCandidates : Nat → Nat → Params (List Candidate × List Nat)
  | 0, _ => return ([], [])
  | left + 1, i => do
    let token ← nextToken
    let bssid := strToMacAddr token zeroMac
    let token ← nextToken
    let info := UInt32.ofInt (strtolPrefixed token)
    let token ← nextToken
    let opClass := UInt8.ofInt (strtolPrefixed token)
    let token ← nextToken
    let channel := UInt8.ofInt (strtolPrefixed token)
    let token ← nextToken
    let phyTable := UInt8.ofInt (strtolPrefixed token)
    let token ← nextToken
    let preference := UInt8.ofInt (strtolPrefixed token)
    let (candidates, indices) ← readCandidates left (i + 1)
    return ({ bssid, info, opClass, channel, phyTable, preference } :: candidates, i :: indices)

def headerText (apIndex : Int) (peerMac : MacAddr) (request : BTMRequest) : CStr :=
  cstr "\tapIndex=" ++ decimal (unsignedInt apIndex)
    ++ cstr "\n\tpeerMac=" ++ macText peerMac
    ++ cstr "\n\ttoken=0x" ++ hex request.token.toNat
    ++ cstr "\n\trequestMode=0x" ++ hex request.requestMode.toNat
    ++ cstr "\n\ttimer=0x" ++ hex request.timer.toNat
    ++ cstr "\n\tvalidityInterval=0x" ++ hex request.validityInterval.toNat
    ++ cstr "\n\ttermDuration.tsf=0x" ++ hex request.tsf.toNat
    ++ cstr "\n\ttermDuration.duration=0x" ++ hex request.duration.toNat
    ++ cstr "\n\tnumCandidates=" ++ decimal request.numCandidates.toNat
    ++ cstr "\n"

def candidateText (i : Nat) (candidate : Candidate) : CStr :=
  cstr "\tcandidates[" ++ decimal i ++ cstr "].bssid=" ++ macText candidate.bssid
    ++ cstr "\n\tcandidates[" ++ decimal i ++ cstr "].info=0x" ++ hex candidate.info.toNat
    ++ cstr "\n\tcandidates[" ++ decimal i ++ cstr "].opClass=" ++ hex candidate.opClass.toNat
    ++ cstr "\n\tcandidates[" ++ decimal i ++ cstr "].channel=" ++ decimal candidate.channel.toNat
    ++ cstr "\n\tcandidates[" ++ decimal i ++ cstr "].phyTable=" ++ hex candidate.phyTable.toNat
    ++ cstr "\n\tcandidates[" ++ decimal i ++ cstr "].bssTransitionCandidatePreference.preference="
    ++ hex candidate.preference.toNat
    ++ cstr "\n"

def bufSize : Nat := 1024

def printRequest (apIndex : Int) (peerMac : MacAddr) (request : BTMRequest) : List Print :=
  prints 0 bufSize (headerText apIndex peerMac request :: request.candidates.mapIdx candidateText)

def handleSetBTMRequest (stack : MacAddr) : Params BTMRun := do
  let token ← nextToken
  let apIndex := atoi token
  let token ← nextToken
  let peerMac := strToMacAddr token stack
  let token ← nextToken
  let requestToken := UInt8.ofInt (strtolPrefixed token)
  let token ← nextToken
  let requestMode := UInt8.ofInt (strtolPrefixed token)
  let token ← nextToken
  let timer := UInt16.ofInt (strtolPrefixed token)
  let token ← nextToken
  let validityInterval := UInt8.ofInt (strtolPrefixed token)
  let token ← nextToken
  let tsf := UInt64.ofInt (strtolPrefixed token)
  let token ← nextToken
  let duration := UInt16.ofInt (strtolPrefixed token)
  let token ← nextToken
  let numCandidates := UInt8.ofInt (strtolPrefixed token)
  let (candidates, indices) ← readCandidates numCandidates.toNat 0
  let request : BTMRequest := {
    token := requestToken
    requestMode, timer, validityInterval, tsf, duration, numCandidates, candidates
  }
  return {
    apIndex, peerMac, request
    indices := indices ++ List.range numCandidates.toNat
    prints := printRequest apIndex peerMac request
  }

structure CandidateFields where
  bssid : CStr
  info : CStr
  opClass : CStr
  channel : CStr
  phyTable : CStr
  preference : CStr

def CandidateFields.fields (candidate : CandidateFields) : List CStr :=
  [
    candidate.bssid, candidate.info, candidate.opClass, candidate.channel, candidate.phyTable,
    candidate.preference
  ]

structure BTMFields where
  apIndex : CStr
  peerMac : CStr
  token : CStr
  requestMode : CStr
  timer : CStr
  validityInterval : CStr
  tsf : CStr
  duration : CStr
  numCandidates : CStr
  candidates : List CandidateFields
  -- fields that nothing reads
  more : List CStr

def BTMFields.fields (cmd : BTMFields) : List CStr :=
  [
    cmd.apIndex, cmd.peerMac, cmd.token, cmd.requestMode, cmd.timer, cmd.validityInterval, cmd.tsf,
    cmd.duration, cmd.numCandidates
  ] ++ (cmd.candidates.flatMap CandidateFields.fields ++ cmd.more)

structure BTMCommand extends BTMFields where
  separated : ∀ field ∈ toBTMFields.fields, 59 ∉ field
  counted : (UInt8.ofInt (strtolPrefixed numCandidates)).toNat = candidates.length

def BTMCommand.params (cmd : BTMCommand) : Option CStr :=
  joined 59 cmd.fields

structure BTMRun.Inside (maxCandidates : Nat) (run : BTMRun) : Prop where
  prints : ∀ print ∈ run.prints, print.Inside bufSize
  indices : ∀ i ∈ run.indices, i < maxCandidates

def CandidateFields.read (candidate : CandidateFields) : Candidate :=
  { bssid := strToMacAddr candidate.bssid zeroMac
    info := UInt32.ofInt (strtolPrefixed candidate.info)
    opClass := UInt8.ofInt (strtolPrefixed candidate.opClass)
    channel := UInt8.ofInt (strtolPrefixed candidate.channel)
    phyTable := UInt8.ofInt (strtolPrefixed candidate.phyTable)
    preference := UInt8.ofInt (strtolPrefixed candidate.preference)
  }

def BTMFields.request (cmd : BTMFields) : BTMRequest :=
  { token := UInt8.ofInt (strtolPrefixed cmd.token)
    requestMode := UInt8.ofInt (strtolPrefixed cmd.requestMode)
    timer := UInt16.ofInt (strtolPrefixed cmd.timer)
    validityInterval := UInt8.ofInt (strtolPrefixed cmd.validityInterval)
    tsf := UInt64.ofInt (strtolPrefixed cmd.tsf)
    duration := UInt16.ofInt (strtolPrefixed cmd.duration)
    numCandidates := UInt8.ofInt (strtolPrefixed cmd.numCandidates)
    candidates := cmd.candidates.map CandidateFields.read
  }

def CandidateFields.textLength (i : Nat) (candidate : CandidateFields) : Nat :=
  189 + 6 * (decimal i).length
    + (hex (UInt32.ofInt (strtolPrefixed candidate.info)).toNat).length
    + (hex (UInt8.ofInt (strtolPrefixed candidate.opClass)).toNat).length
    + (decimal (UInt8.ofInt (strtolPrefixed candidate.channel)).toNat).length
    + (hex (UInt8.ofInt (strtolPrefixed candidate.phyTable)).toNat).length
    + (hex (UInt8.ofInt (strtolPrefixed candidate.preference)).toNat).length

def BTMFields.textLength (cmd : BTMFields) : Nat :=
  157 + (decimal (unsignedInt (atoi cmd.apIndex))).length
    + (hex (UInt8.ofInt (strtolPrefixed cmd.token)).toNat).length
    + (hex (UInt8.ofInt (strtolPrefixed cmd.requestMode)).toNat).length
    + (hex (UInt16.ofInt (strtolPrefixed cmd.timer)).toNat).length
    + (hex (UInt8.ofInt (strtolPrefixed cmd.validityInterval)).toNat).length
    + (hex (UInt64.ofInt (strtolPrefixed cmd.tsf)).toNat).length
    + (hex (UInt16.ofInt (strtolPrefixed cmd.duration)).toNat).length
    + (decimal (UInt8.ofInt (strtolPrefixed cmd.numCandidates)).toNat).length

structure BTMFields.Fits (maxCandidates : Nat) (cmd : BTMFields) : Prop where
  candidates : cmd.candidates.length ≤ maxCandidates
  texts : cmd.textLength + (cmd.candidates.dropLast.mapIdx CandidateFields.textLength).sum < bufSize

theorem nextToken_joined {field : CStr} (fields : List CStr) (hfield : 59 ∉ field)
    : nextToken (joined 59 (field :: fields)) = some (field, joined 59 fields) :=
  nextField_joined fields hfield

theorem params_bind (x : Params α) (f : α → Params β) (params : Option CStr)
    : (x >>= f) params = (x params).bind (fun t => f t.1 t.2) := by
  rfl

theorem params_map (f : α → β) (x : Params α) (params : Option CStr)
    : (f <$> x) params = (x params).bind (fun t => some (f t.1, t.2)) := by
  rfl

theorem bind_nextToken {f : CStr → Params α} {field : CStr} (fields : List CStr) (hfield : 59 ∉ field)
    : (nextToken >>= f) (joined 59 (field :: fields)) = f field (joined 59 fields) := by
  rw [params_bind, nextToken_joined fields hfield]
  rfl

theorem readCandidates_joined (candidates : List CandidateFields) (more : List CStr) (i : Nat)
    (hseparated : ∀ field ∈ candidates.flatMap CandidateFields.fields, 59 ∉ field)
    : readCandidates candidates.length i
          (joined 59 (candidates.flatMap CandidateFields.fields ++ more))
        =
      some
        ((candidates.map CandidateFields.read, List.range' i candidates.length), joined 59 more) := by
  induction candidates generalizing i with
  | nil => rfl
  | cons candidate candidates ih =>
    rw [List.flatMap_cons, List.forall_mem_append] at hseparated
    have ⟨hcandidate, hcandidates⟩ := hseparated
    simp only [CandidateFields.fields, List.forall_mem_cons] at hcandidate
    have ⟨hbssid, hinfo, hopClass, hchannel, hphyTable, hpreference, _⟩ := hcandidate
    simp only [List.flatMap_cons, CandidateFields.fields, List.cons_append, List.nil_append,
      List.length_cons, readCandidates]
    rw [bind_nextToken _ hbssid, bind_nextToken _ hinfo, bind_nextToken _ hopClass,
      bind_nextToken _ hchannel, bind_nextToken _ hphyTable, bind_nextToken _ hpreference]
    rw [params_bind, ih (i + 1) hcandidates]
    rfl

theorem handleSetBTMRequest_params (stack : MacAddr) (cmd : BTMCommand)
    : handleSetBTMRequest stack cmd.params
        =
      some
        ({
          apIndex := atoi cmd.apIndex
          peerMac := strToMacAddr cmd.peerMac stack
          request := cmd.request
          indices := List.range cmd.candidates.length ++ List.range cmd.candidates.length
          prints := printRequest (atoi cmd.apIndex) (strToMacAddr cmd.peerMac stack) cmd.request
        }, joined 59 cmd.more) := by
  have hseparated := cmd.separated
  simp only [BTMFields.fields, List.forall_mem_append, List.forall_mem_cons] at hseparated
  have ⟨⟨hapIndex, hpeerMac, htoken, hrequestMode, htimer, hvalidity, htsf, hduration, hnum, _⟩,
    hcandidates, _⟩ := hseparated
  simp only [BTMCommand.params, BTMFields.fields, List.cons_append, List.nil_append, handleSetBTMRequest]
  rw [bind_nextToken _ hapIndex, bind_nextToken _ hpeerMac, bind_nextToken _ htoken,
    bind_nextToken _ hrequestMode, bind_nextToken _ htimer, bind_nextToken _ hvalidity,
    bind_nextToken _ htsf, bind_nextToken _ hduration, bind_nextToken _ hnum, cmd.counted]
  rw [params_bind, readCandidates_joined cmd.candidates cmd.more 0 hcandidates]
  simp only [← List.range_eq_range']
  rfl

theorem macText_length (mac : MacAddr)
    : (macText mac).length = 17 := by
  rfl

theorem candidateText_length (i : Nat) (candidate : CandidateFields)
    : (candidateText i candidate.read).length = candidate.textLength i := by
  unfold candidateText
  simp only [List.length_append, macText_length, cstr_length, String.reduceToList, List.length_cons,
    List.length_nil]
  simp only [CandidateFields.read, CandidateFields.textLength]
  omega

theorem headerText_length (stack : MacAddr) (cmd : BTMFields)
    : (headerText (atoi cmd.apIndex) (strToMacAddr cmd.peerMac stack) cmd.request).length
        =
      cmd.textLength := by
  unfold headerText
  simp only [List.length_append, macText_length, cstr_length, String.reduceToList, List.length_cons,
    List.length_nil]
  simp only [BTMFields.request, BTMFields.textLength]
  omega

theorem unsignedInt_lt (val : Int)
    : unsignedInt val < 2 ^ 32 := by
  unfold unsignedInt
  omega

theorem textLength_lt (cmd : BTMFields)
    : cmd.textLength < bufSize := by
  have hdecimal : (decimal (unsignedInt (atoi cmd.apIndex))).length ≤ 10 :=
    (decimal_length_le_iff (by decide)).mpr (Nat.lt_trans (unsignedInt_lt _) (by decide))
  have hcount : ∀ val : UInt8, (decimal val.toNat).length ≤ 3 :=
    fun val => (decimal_length_le_iff (by decide)).mpr (Nat.lt_trans val.toNat_lt (by decide))
  have huchar : ∀ val : UInt8, (hex val.toNat).length ≤ 2 :=
    fun val => (hex_length_le_iff (by decide)).mpr val.toNat_lt
  have hushort : ∀ val : UInt16, (hex val.toNat).length ≤ 4 :=
    fun val => (hex_length_le_iff (by decide)).mpr val.toNat_lt
  have hulong : ∀ val : UInt64, (hex val.toNat).length ≤ 16 :=
    fun val => (hex_length_le_iff (by decide)).mpr val.toNat_lt
  have htoken := huchar (UInt8.ofInt (strtolPrefixed cmd.token))
  have hrequestMode := huchar (UInt8.ofInt (strtolPrefixed cmd.requestMode))
  have htimer := hushort (UInt16.ofInt (strtolPrefixed cmd.timer))
  have hvalidity := huchar (UInt8.ofInt (strtolPrefixed cmd.validityInterval))
  have htsf := hulong (UInt64.ofInt (strtolPrefixed cmd.tsf))
  have hduration := hushort (UInt16.ofInt (strtolPrefixed cmd.duration))
  have hnum := hcount (UInt8.ofInt (strtolPrefixed cmd.numCandidates))
  unfold BTMFields.textLength bufSize
  omega

theorem candidateTexts_length (candidates : List CandidateFields)
    : ((candidates.map CandidateFields.read).mapIdx candidateText).map List.length
        =
      candidates.mapIdx CandidateFields.textLength := by
  rw [eq_comm, List.mapIdx_eq_iff]
  intro i
  simp only [List.getElem?_map, List.getElem?_mapIdx]
  cases candidates[i]? with
  | none => rfl
  | some candidate => simp [candidateText_length]

theorem printRequest_inside_iff (stack : MacAddr) (cmd : BTMFields)
    : (∀ print ∈ printRequest (atoi cmd.apIndex) (strToMacAddr cmd.peerMac stack) cmd.request,
          print.Inside bufSize)
        ↔
      cmd.textLength + (cmd.candidates.dropLast.mapIdx CandidateFields.textLength).sum < bufSize := by
  have hprints := prints_inside_iff bufSize 0
    (headerText (atoi cmd.apIndex) (strToMacAddr cmd.peerMac stack) cmd.request)
    (cmd.request.candidates.mapIdx candidateText)
  refine hprints.trans ?_
  have htexts : (cmd.request.candidates.mapIdx candidateText).map List.length
      = cmd.candidates.mapIdx CandidateFields.textLength := candidateTexts_length cmd.candidates
  rw [List.map_dropLast, List.map_cons, headerText_length, htexts, Nat.zero_add]
  rcases List.eq_nil_or_concat cmd.candidates with hnil | ⟨front, last, hconcat⟩
  . have hheader := textLength_lt cmd
    simpa [hnil, bufSize] using hheader
  . have hne : cmd.candidates.mapIdx CandidateFields.textLength ≠ [] := by
      simp [hconcat]
    rw [List.dropLast_cons_of_ne_nil hne, List.sum_cons]
    simp only [hconcat, List.concat_eq_append, List.mapIdx_concat, List.dropLast_concat]

theorem handle_setBTMRequest_inside_iff (maxCandidates : Nat) (stack : MacAddr) (cmd : BTMCommand)
    : ∃ run rest, handleSetBTMRequest stack cmd.params = some (run, rest)
        ∧ (run.Inside maxCandidates ↔ cmd.Fits maxCandidates) := by
  refine ⟨_, _, handleSetBTMRequest_params stack cmd, ?_⟩
  have hindices : (∀ i ∈ List.range cmd.candidates.length ++ List.range cmd.candidates.length,
      i < maxCandidates) ↔ cmd.candidates.length ≤ maxCandidates := by
    simp only [List.forall_mem_append, and_self, List.mem_range]
    exact forall_lt_iff_le
  constructor
  . intro hinside
    constructor
    case candidates => exact hindices.mp hinside.indices
    case texts => exact (printRequest_inside_iff stack cmd.toBTMFields).mp hinside.prints
  . intro hfits
    constructor
    case prints => exact (printRequest_inside_iff stack cmd.toBTMFields).mpr hfits.texts
    case indices => exact hindices.mpr hfits.candidates

def shortCandidate : CandidateFields :=
  { bssid := cstr "02:00:00:00:00:01"
    info := cstr "0"
    opClass := cstr "81"
    channel := cstr "6"
    phyTable := cstr "7"
    preference := cstr "1"
  }

def sixCandidates : BTMCommand :=
  { apIndex := cstr "0"
    peerMac := cstr "02:00:00:00:00:02"
    token := cstr "1"
    requestMode := cstr "1"
    timer := cstr "0"
    validityInterval := cstr "255"
    tsf := cstr "0"
    duration := cstr "0"
    numCandidates := cstr "6"
    candidates := List.replicate 6 shortCandidate
    more := []
    separated := by decide
    counted := by decide
  }

theorem handle_setBTMRequest_not_inside
    : ∃ run rest, handleSetBTMRequest zeroMac sixCandidates.params = some (run, rest)
        ∧ ∀ maxCandidates, ¬run.Inside maxCandidates := by
  refine ⟨_, _, handleSetBTMRequest_params zeroMac sixCandidates, ?_⟩
  intro maxCandidates hinside
  have hroom := (printRequest_inside_iff zeroMac sixCandidates.toBTMFields).mp hinside.prints
  have hfull : ¬sixCandidates.textLength
      + (sixCandidates.candidates.dropLast.mapIdx CandidateFields.textLength).sum < bufSize := by
    decide
  exact hfull hroom

end BsTest
end OpenSyncRdk
