import OpenSyncRdk.BsTest.BtmRequest
import OpenSyncRdk.Lib.Lines
import Mathlib.Data.List.Forall2

/-!
The set group command, from the configuration files that `bs_cmd.c` reads to the call of the wifi HAL
that `bs_testd.c` makes. The files name their values and the command does not: it has them in the order
of the lines.
-/

namespace OpenSyncRdk
namespace BsTest

@[ext]
structure ApConfig where
  apIndex : Int
  utilCheckIntervalSec : Nat
  utilAvgCount : Nat
  inactCheckIntervalSec : Nat
  inactCheckThresholdSec : Nat
  deriving DecidableEq

inductive CfgArg where
  | null
  | unreadable
  | file (text : CStr)

inductive CfgKey where
  | apIndex
  | utilCheckIntervalSec
  | utilAvgCount
  | inactCheckIntervalSec
  | inactCheckThresholdSec
  deriving DecidableEq

def CfgKey.name : CfgKey → CStr
  | .apIndex => cstr "apIndex"
  | .utilCheckIntervalSec => cstr "utilCheckIntervalSec"
  | .utilAvgCount => cstr "utilAvgCount"
  | .inactCheckIntervalSec => cstr "inactCheckIntervalSec"
  | .inactCheckThresholdSec => cstr "inactCheckThresholdSec"

def cfgKeys : List CfgKey :=
  [.apIndex, .utilCheckIntervalSec, .utilAvgCount, .inactCheckIntervalSec, .inactCheckThresholdSec]

def putText (cmdMaxSize : Nat) (cmd text : CStr) : Option CStr :=
  if cmd.length + text.length < cmdMaxSize - 1 then some (cmd ++ text) else none

/-- The last character of a line goes, whatever it is. Without a `=` there is no value to go it from. -/
def serializeLine (cmdMaxSize : Nat) (cmd line : CStr) : Option CStr :=
  match strsep 61 (some line) with
  | (some token, some value) =>
    if (cfgKeys.map CfgKey.name).contains token then putText cmdMaxSize cmd (59 :: value.dropLast) else none
  | _ => none

def lineSize : Nat := 1024

def serializeLines (cmdMaxSize : Nat) : Nat → CStr → CStr → Option CStr
  | 0, cmd, _ => some cmd
  | fuel + 1, cmd, file =>
    match fgets lineSize file with
    | none => some cmd
    | some (line, file) => do
      let cmd ← serializeLine cmdMaxSize cmd line
      serializeLines cmdMaxSize fuel cmd file

def serializeApCfgParams (cmdMaxSize : Nat) (cmd file : CStr) : Option CStr :=
  serializeLines cmdMaxSize file.length cmd file

def serializeCfg (cmdMaxSize : Nat) (cmd : CStr) : CfgArg → Option CStr
  | .null => putText cmdMaxSize cmd (cstr ";NULL")
  | .unreadable => none
  | .file text => serializeApCfgParams cmdMaxSize cmd text

def handleWifiSteeringSetGroup (name groupIndexStr : CStr) (cfgStr : List CfgArg) (cmdMaxSize : Nat)
    : Option CStr := do
  let cmd ← putText cmdMaxSize [] (name ++ 59 :: groupIndexStr)
  cfgStr.foldlM (serializeCfg cmdMaxSize) cmd

inductive SetGroupCall where
  | pair (steeringgroupIndex : Nat) (cfg2 cfg5 : Option ApConfig)
  | array (steeringgroupIndex : Nat) (apCfg : List ApConfig)
  deriving DecidableEq

def setCfg (token : CStr) : Params ApConfig := do
  let apIndex := atoi token
  let token ← nextToken
  let utilCheckIntervalSec := unsignedInt (strtol token)
  let token ← nextToken
  let utilAvgCount := unsignedInt (strtol token)
  let token ← nextToken
  let inactCheckIntervalSec := unsignedInt (strtol token)
  let token ← nextToken
  let inactCheckThresholdSec := unsignedInt (strtol token)
  return {
    apIndex, utilCheckIntervalSec, utilAvgCount, inactCheckIntervalSec, inactCheckThresholdSec
  }

def zeroCfg : ApConfig :=
  { apIndex := 0
    utilCheckIntervalSec := 0
    utilAvgCount := 0
    inactCheckIntervalSec := 0
    inactCheckThresholdSec := 0
  }

def maxApCfgNumber : Nat := 20

/-- The loop ends when there is nothing after the token, even if the token itself is still to be read. -/
def readCfgs : Nat → Params (List ApConfig)
  | 0 => fun params => some ([], params)
  | left + 1 => fun params =>
    match strsep 59 params with
    | (some token, some params) => do
      let (cfg, params) ←
        if token = cstr "NULL" then some (zeroCfg, some params) else setCfg token (some params)
      let (cfgs, params) ← readCfgs left params
      return (cfg :: cfgs, params)
    | (_, params) => some ([], params)

def readCfg : Params (Option ApConfig) := do
  let token ← nextToken
  if token = cstr "NULL" then
    return none
  else
    return some (← setCfg token)

def handleSetGroup (phase2 : Bool) : Params SetGroupCall := do
  let token ← nextToken
  let steeringgroupIndex := unsignedInt (strtol token)
  if phase2 then
    return .array steeringgroupIndex (← readCfgs maxApCfgNumber)
  else
    return .pair steeringgroupIndex (← readCfg) (← readCfg)

def handleCmd (phase2 : Bool) (cmd : CStr) : Option SetGroupCall :=
  let handle : Params SetGroupCall := do
    let token ← nextToken
    if token = cstr "wifi_steering_setGroup" then handleSetGroup phase2 else failure
  handle.run' (some cmd)

def ApConfig.get (cfg : ApConfig) : CfgKey → Int
  | .apIndex => cfg.apIndex
  | .utilCheckIntervalSec => cfg.utilCheckIntervalSec
  | .utilAvgCount => cfg.utilAvgCount
  | .inactCheckIntervalSec => cfg.inactCheckIntervalSec
  | .inactCheckThresholdSec => cfg.inactCheckThresholdSec

structure ApConfig.InRange (cfg : ApConfig) : Prop where
  apIndex : -2 ^ 31 ≤ cfg.apIndex ∧ cfg.apIndex < 2 ^ 31
  utilCheckIntervalSec : cfg.utilCheckIntervalSec < 2 ^ 32
  utilAvgCount : cfg.utilAvgCount < 2 ^ 32
  inactCheckIntervalSec : cfg.inactCheckIntervalSec < 2 ^ 32
  inactCheckThresholdSec : cfg.inactCheckThresholdSec < 2 ^ 32

structure CfgLine where
  key : CfgKey
  text : CStr
  newline : Bool

def CfgLine.value (line : CfgLine) : CStr :=
  line.text ++ if line.newline then [10] else []

def CfgLine.raw (line : CfgLine) : CStr :=
  line.key.name ++ 61 :: line.value

/-- A file that assigns every key its value of `record` once. Only its last line can be without its end. -/
structure CfgFile where
  record : ApConfig
  lines : List CfgLine
  inRange : record.InRange
  keys : (lines.map CfgLine.key).Perm cfgKeys
  ends : ∀ line ∈ lines.dropLast, line.newline = true
  spells : ∀ line ∈ lines, Spells line.text (record.get line.key)

def CfgFile.text (file : CfgFile) : CStr :=
  file.lines.flatMap CfgLine.raw

def cfgArg : Option CfgFile → CfgArg
  | none => .null
  | some file => .file file.text

def CfgLine.sent (line : CfgLine) : CStr :=
  line.value.dropLast

def cfgTokens : Option CfgFile → List CStr
  | none => [cstr "NULL"]
  | some file => file.lines.map CfgLine.sent

theorem eq_of_putText {cmdMaxSize : Nat} {cmd text cmd' : CStr} (hput : putText cmdMaxSize cmd text = some cmd')
    : cmd' = cmd ++ text := by
  unfold putText at hput
  split at hput
  . injection hput with hput
    exact hput.symm
  . contradiction

theorem name_spec (key : CfgKey)
    : key.name ∈ cfgKeys.map CfgKey.name ∧ 61 ∉ key.name ∧ 10 ∉ key.name ∧ key.name.length < 24 := by
  cases key <;> decide

theorem serializeLine_raw (cmdMaxSize : Nat) (cmd : CStr) (line : CfgLine)
    : serializeLine cmdMaxSize cmd line.raw = putText cmdMaxSize cmd (59 :: line.sent) := by
  have ⟨hmem, hnot, _⟩ := name_spec line.key
  simp only [serializeLine, CfgLine.raw, strsep_append _ _ hnot, List.contains_iff_mem, hmem, ↓reduceIte,
    CfgLine.sent]

theorem serializeLine_none (cmdMaxSize : Nat) (cmd : CStr) {line : CStr} (hnot : 61 ∉ line)
    : serializeLine cmdMaxSize cmd line = none := by
  simp only [serializeLine, strsep_last _ hnot]

theorem serializeLines_none (cmdMaxSize fuel : Nat) (cmd : CStr) {line rest : CStr} (hline : IsLine line rest)
    (hnot : 61 ∉ line)
    : serializeLines cmdMaxSize (fuel + 1) cmd (line ++ rest) = none := by
  rw [serializeLines]
  rcases Nat.lt_or_ge line.length lineSize with hshort | hlong
  . rw [fgets_short hline hshort]
    simp only [serializeLine_none cmdMaxSize cmd hnot, bind, Option.bind]
  . rw [fgets_long hline hlong]
    have hpart : 61 ∉ line.take (lineSize - 1) := fun hmem => hnot (List.mem_of_mem_take hmem)
    simp only [serializeLine_none cmdMaxSize cmd hpart, bind, Option.bind]

theorem CfgLine.isLine {line : CfgLine} {rest : CStr} (hnot : 10 ∉ line.text)
    (hends : line.newline = true ∨ rest = [])
    : IsLine line.raw rest := by
  have ⟨_, _, hname, _⟩ := name_spec line.key
  have hfront : 10 ∉ line.key.name ++ 61 :: line.text := by
    simp [hname, hnot]
  constructor
  case nonempty => simp [CfgLine.raw]
  case ends =>
    cases hnewline : line.newline with
    | true =>
      left
      refine ⟨line.key.name ++ 61 :: line.text, ?_, hfront⟩
      simp [CfgLine.raw, CfgLine.value, hnewline]
    | false =>
      right
      simp only [hnewline, Bool.false_eq_true, false_or] at hends
      simpa [CfgLine.raw, CfgLine.value, hnewline, hends] using hfront

theorem serializeLines_long (cmdMaxSize fuel : Nat) (cmd : CStr) {line : CfgLine} {rest : CStr}
    (hnot : 61 ∉ line.text) (hline : IsLine line.raw rest) (hlong : lineSize ≤ line.raw.length)
    : serializeLines cmdMaxSize (fuel + 2) cmd (line.raw ++ rest) = none := by
  have ⟨_, _, _, hname⟩ := name_spec line.key
  have hlt : lineSize - 1 < line.raw.length := by
    unfold lineSize at *
    omega
  have hpart : 61 ∉ line.raw.drop (lineSize - 1) := by
    have hsplit : line.raw = (line.key.name ++ [61]) ++ line.value := by
      simp [CfgLine.raw]
    have hfront : (line.key.name ++ [61]).length ≤ lineSize - 1 := by
      rw [List.length_append, List.length_singleton]
      unfold lineSize
      omega
    rw [hsplit, List.drop_append, List.drop_eq_nil_of_le hfront, List.nil_append]
    intro hmem
    have hvalue := List.mem_of_mem_drop hmem
    unfold CfgLine.value at hvalue
    rcases List.mem_append.mp hvalue with htext | hend
    . exact hnot htext
    . split at hend
      . simp at hend
      . contradiction
  rw [serializeLines, fgets_long hline hlong]
  cases hfirst : serializeLine cmdMaxSize cmd (line.raw.take (lineSize - 1)) with
  | none => simp [hfirst]
  | some next => simpa [hfirst] using serializeLines_none cmdMaxSize fuel next (hline.drop hlt) hpart

theorem serializeLines_raw (record : ApConfig) (cmdMaxSize fuel : Nat) (cmd cmd' : CStr) (lines : List CfgLine)
    (hends : ∀ line ∈ lines.dropLast, line.newline = true)
    (hspells : ∀ line ∈ lines, Spells line.text (record.get line.key))
    (hfuel : (lines.flatMap CfgLine.raw).length ≤ fuel)
    (hcmd : serializeLines cmdMaxSize fuel cmd (lines.flatMap CfgLine.raw) = some cmd')
    : cmd' = cmd ++ (lines.map CfgLine.sent).flatMap (fun text => 59 :: text) := by
  induction lines generalizing fuel cmd with
  | nil =>
    cases fuel <;> simpa [serializeLines, fgets] using hcmd.symm
  | cons line lines ih =>
    have hspell := hspells line (by simp)
    have hnewline : line.newline = true ∨ lines.flatMap CfgLine.raw = [] := by
      cases lines with
      | nil => exact Or.inr rfl
      | cons next lines => exact Or.inl (hends line (by simp))
    have hline := CfgLine.isLine (hspell.not_mem (by decide) (by decide)) hnewline
    have hpos := List.length_pos_of_ne_nil hline.nonempty
    rw [List.flatMap_cons, List.length_append] at hfuel
    rw [List.flatMap_cons] at hcmd
    rcases fuel with _ | fuel
    . omega
    . rcases Nat.lt_or_ge line.raw.length lineSize with hshort | hlong
      . rw [serializeLines, fgets_short hline hshort] at hcmd
        simp only [serializeLine_raw, Option.bind_eq_bind, Option.bind_eq_some_iff] at hcmd
        rcases hcmd with ⟨next, hput, hcmd⟩
        have hends' : ∀ line ∈ lines.dropLast, line.newline = true := by
          intro other hother
          cases lines with
          | nil => contradiction
          | cons next lines => exact hends other (by simp [hother])
        rw [ih fuel next hends' (fun other hother => hspells other (by simp [hother])) (by omega) hcmd,
          eq_of_putText hput]
        simp
      . rcases fuel with _ | fuel
        . unfold lineSize at hlong
          omega
        . rw [serializeLines_long _ _ _ (hspell.not_mem (by decide) (by decide)) hline hlong] at hcmd
          contradiction

/-- The values of the files stand in the command in the order in which they stand in the files. -/
theorem eq_of_handleWifiSteeringSetGroup {name groupIndexStr cmd : CStr} {cfgs : List (Option CfgFile)}
    {cmdMaxSize : Nat}
    (hcmd : handleWifiSteeringSetGroup name groupIndexStr (cfgs.map cfgArg) cmdMaxSize = some cmd)
    : some cmd = joined 59 (name :: groupIndexStr :: cfgs.flatMap cfgTokens) := by
  unfold handleWifiSteeringSetGroup at hcmd
  rw [Option.bind_eq_bind, Option.bind_eq_some_iff] at hcmd
  rcases hcmd with ⟨start, hstart, hcmd⟩
  have hcfgs : cmd = start ++ (cfgs.flatMap cfgTokens).flatMap (fun text => 59 :: text) := by
    clear hstart
    induction cfgs generalizing start with
    | nil => simpa using hcmd.symm
    | cons cfg cfgs ih =>
      rw [List.map_cons, List.foldlM_cons, Option.bind_eq_bind, Option.bind_eq_some_iff] at hcmd
      rcases hcmd with ⟨next, hnext, hcmd⟩
      have hput : next = start ++ (cfgTokens cfg).flatMap (fun text => 59 :: text) := by
        cases cfg with
        | none => exact eq_of_putText hnext
        | some file =>
          exact serializeLines_raw file.record cmdMaxSize _ start next file.lines file.ends file.spells
            (Nat.le_refl _) hnext
      rw [ih next hcmd, hput]
      simp
  rw [hcfgs, eq_of_putText hstart]
  simp [joined]

theorem CfgLine.mem_text {line : CfgLine} {c : UInt8} (hc : c ∈ line.sent)
    : c ∈ line.text := by
  unfold CfgLine.sent CfgLine.value at hc
  split at hc
  . rwa [List.dropLast_concat] at hc
  . rw [List.append_nil] at hc
    exact List.mem_of_mem_dropLast hc

theorem sent_not_mem (file : CfgFile) {line : CfgLine} (hline : line ∈ file.lines) {c : UInt8}
    (hminus : c ≠ 45) (hdigit : isDigit c = false)
    : c ∉ line.sent :=
  fun hmem => (file.spells line hline).not_mem hminus hdigit (line.mem_text hmem)

def CfgFile.decoded (file : CfgFile) : ApConfig :=
  let texts := file.lines.map CfgLine.sent
  { apIndex := atoi (texts.getD 0 [])
    utilCheckIntervalSec := unsignedInt (strtol (texts.getD 1 []))
    utilAvgCount := unsignedInt (strtol (texts.getD 2 []))
    inactCheckIntervalSec := unsignedInt (strtol (texts.getD 3 []))
    inactCheckThresholdSec := unsignedInt (strtol (texts.getD 4 []))
  }

theorem lines_eq (file : CfgFile)
    : ∃ l0 l1 l2 l3 l4, file.lines = [l0, l1, l2, l3, l4] := by
  have hlength := file.keys.length_eq
  rw [List.length_map] at hlength
  generalize file.lines = lines at hlength ⊢
  rcases lines with _ | ⟨l0, _ | ⟨l1, _ | ⟨l2, _ | ⟨l3, _ | ⟨l4, _ | ⟨l5, lines⟩⟩⟩⟩⟩⟩
  case cons.cons.cons.cons.cons.nil => exact ⟨l0, l1, l2, l3, l4, rfl⟩
  all_goals simp [cfgKeys] at hlength

theorem setCfg_file (file : CfgFile) (more : List CStr)
    : ∃ token tokens, cfgTokens (some file) = token :: tokens
        ∧ 59 ∉ token
        ∧ token ≠ cstr "NULL"
        ∧ tokens ≠ []
        ∧ setCfg token (joined 59 (tokens ++ more)) = some (file.decoded, joined 59 more) := by
  have ⟨l0, l1, l2, l3, l4, hlines⟩ := lines_eq file
  have hsep : ∀ line ∈ file.lines, 59 ∉ line.sent :=
    fun line hline => sent_not_mem file hline (by decide) (by decide)
  have hletter : ∀ line ∈ file.lines, 78 ∉ line.sent :=
    fun line hline => sent_not_mem file hline (by decide) (by decide)
  rw [hlines] at hsep hletter
  refine ⟨l0.sent, [l1.sent, l2.sent, l3.sent, l4.sent], ?_, hsep l0 (by simp), ?_, by simp, ?_⟩
  . simp [cfgTokens, hlines]
  . intro hnull
    have := hletter l0 (by simp)
    rw [hnull] at this
    exact this (by decide)
  . simp only [List.cons_append, List.nil_append, setCfg]
    rw [bind_nextToken _ (hsep l1 (by simp)), bind_nextToken _ (hsep l2 (by simp)),
      bind_nextToken _ (hsep l3 (by simp)), bind_nextToken _ (hsep l4 (by simp))]
    simp [CfgFile.decoded, hlines]
    rfl

/-- The configuration that ends the command is lost if it is `NULL`. -/
def received : List (Option CfgFile) → List ApConfig
  | [] => []
  | none :: cfgs => if cfgs = [] then [] else zeroCfg :: received cfgs
  | some file :: cfgs => file.decoded :: received cfgs

theorem exists_joined {fields : List CStr} (hne : fields ≠ [])
    : ∃ text, joined 59 fields = some text := by
  cases fields with
  | nil => contradiction
  | cons field fields => exact ⟨_, rfl⟩

theorem cfgTokens_ne_nil (cfg : Option CfgFile)
    : cfgTokens cfg ≠ [] := by
  cases cfg with
  | none => simp [cfgTokens]
  | some file =>
    have ⟨token, tokens, heq, _⟩ := setCfg_file file []
    simp [heq]

theorem flatMap_cfgTokens_ne_nil {cfgs : List (Option CfgFile)} (hne : cfgs ≠ [])
    : cfgs.flatMap cfgTokens ≠ [] := by
  cases cfgs with
  | nil => contradiction
  | cons cfg cfgs => simp [cfgTokens_ne_nil cfg]

theorem readCfgs_joined (left : Nat) (cfgs : List (Option CfgFile)) (hleft : cfgs.length ≤ left)
    : readCfgs left (joined 59 (cfgs.flatMap cfgTokens)) = some (received cfgs, none) := by
  induction cfgs generalizing left with
  | nil =>
    cases left <;> rfl
  | cons cfg cfgs ih =>
    rcases left with _ | left
    . contradiction
    . have ih := ih left (Nat.le_of_succ_le_succ hleft)
      cases cfg with
      | none =>
        have hnull : 59 ∉ cstr "NULL" := by decide
        simp only [List.flatMap_cons, cfgTokens, List.cons_append, List.nil_append, readCfgs,
          strsep_joined _ hnull]
        by_cases hlast : cfgs = []
        . simp [hlast, joined, received]
        . rcases exists_joined (flatMap_cfgTokens_ne_nil hlast) with ⟨text, htext⟩
          rw [htext] at ih
          simp [htext, ih, hlast, received]
      | some file =>
        rcases setCfg_file file (cfgs.flatMap cfgTokens) with
          ⟨token, tokens, htokens, hsep, hnull, hne, hset⟩
        simp only [List.flatMap_cons, htokens, List.cons_append, readCfgs, strsep_joined _ hsep]
        have hmore := List.append_ne_nil_of_left_ne_nil hne (cfgs.flatMap cfgTokens)
        rcases exists_joined hmore with ⟨text, htext⟩
        rw [htext] at hset
        simp [htext, hnull, hset, ih, received]

theorem readCfg_joined (cfg : Option CfgFile) (more : List CStr)
    : readCfg (joined 59 (cfgTokens cfg ++ more)) = some (cfg.map CfgFile.decoded, joined 59 more) := by
  unfold readCfg
  cases cfg with
  | none =>
    simp only [cfgTokens, List.cons_append, List.nil_append]
    rw [bind_nextToken _ (by decide)]
    rfl
  | some file =>
    have ⟨token, tokens, htokens, hsep, hnull, _, hset⟩ := setCfg_file file more
    rw [htokens, List.cons_append, bind_nextToken _ hsep, if_neg hnull, params_bind, hset]
    rfl

def receivedCall (phase2 : Bool) (groupIndex : Nat) (cfgs : List (Option CfgFile)) : SetGroupCall :=
  if phase2 then
    .array groupIndex (received cfgs)
  else
    .pair groupIndex ((cfgs.getD 0 none).map CfgFile.decoded) ((cfgs.getD 1 none).map CfgFile.decoded)

def Supported (phase2 : Bool) (cfgs : List (Option CfgFile)) : Prop :=
  if phase2 then cfgs.length ≤ maxApCfgNumber else cfgs.length = 2

theorem handleCmd_joined {phase2 : Bool} {group cmd : CStr} {groupIndex : Nat} {cfgs : List (Option CfgFile)}
    (hsupported : Supported phase2 cfgs) (hspells : Spells group groupIndex) (hgroup : groupIndex < 2 ^ 32)
    (hcmd : some cmd = joined 59 (cstr "wifi_steering_setGroup" :: group :: cfgs.flatMap cfgTokens))
    : handleCmd phase2 cmd = some (receivedCall phase2 groupIndex cfgs) := by
  have hstrtol : unsignedInt (strtol group) = groupIndex := by
    rw [hspells.strtol_eq (by omega) (by omega)]
    unfold unsignedInt
    omega
  have hsep : 59 ∉ group := hspells.not_mem (by decide) (by decide)
  simp only [handleCmd, StateT.run', hcmd]
  rw [bind_nextToken _ (by decide), if_pos rfl, handleSetGroup, bind_nextToken _ hsep, hstrtol]
  cases phase2 with
  | true =>
    have hread := readCfgs_joined maxApCfgNumber cfgs hsupported
    simp only [↓reduceIte, params_bind, hread]
    rfl
  | false =>
    rcases List.length_eq_two.mp hsupported with ⟨cfg2, cfg5, hcfgs⟩
    have hread2 := readCfg_joined cfg2 (cfgTokens cfg5)
    have hread5 := readCfg_joined cfg5 []
    rw [List.append_nil] at hread5
    rw [hcfgs, List.flatMap_cons, List.flatMap_singleton]
    simp only [Bool.false_eq_true, ↓reduceIte, params_bind, hread2, hread5, Option.bind_some]
    rfl

theorem atoi_eq_iff {text : CStr} {val : Int} (hlow : -2 ^ 31 ≤ val) (hhigh : val < 2 ^ 31)
    : atoi text = val ↔ unsignedInt (strtol text) = unsignedInt val := by
  unfold atoi unsignedInt
  rw [Int.bmod_def]
  omega

theorem unsignedInt_eq_iff {text : CStr} {val : Nat} (hval : val < 2 ^ 32)
    : unsignedInt (strtol text) = val ↔ unsignedInt (strtol text) = unsignedInt val := by
  unfold unsignedInt
  omega

def CfgFile.InOrder (file : CfgFile) : Prop :=
  List.Forall₂ (fun line key => unsignedInt (strtol line.sent) = unsignedInt (file.record.get key))
    file.lines cfgKeys

theorem decoded_eq_iff (file : CfgFile)
    : file.decoded = file.record ↔ file.InOrder := by
  have ⟨l0, l1, l2, l3, l4, hlines⟩ := lines_eq file
  have hrange := file.inRange
  unfold CfgFile.InOrder
  simp only [CfgFile.decoded, hlines, cfgKeys, List.forall₂_cons, List.forall₂_nil_left_iff,
    ApConfig.get, and_true]
  rw [ApConfig.ext_iff, ← atoi_eq_iff hrange.apIndex.1 hrange.apIndex.2,
    ← unsignedInt_eq_iff hrange.utilCheckIntervalSec, ← unsignedInt_eq_iff hrange.utilAvgCount,
    ← unsignedInt_eq_iff hrange.inactCheckIntervalSec, ← unsignedInt_eq_iff hrange.inactCheckThresholdSec]
  rfl

theorem get_range {cfg : ApConfig} (hrange : cfg.InRange) (key : CfgKey)
    : -2 ^ 63 ≤ cfg.get key ∧ cfg.get key < 2 ^ 63 := by
  have ⟨⟨hlow, hhigh⟩, hcheck, hcount, hinact, hthreshold⟩ := hrange
  cases key
  all_goals
    simp only [ApConfig.get]
    omega

theorem inOrder_of_keys (file : CfgFile) (hkeys : file.lines.map CfgLine.key = cfgKeys)
    (hnewline : ∀ line ∈ file.lines, line.newline = true)
    : file.InOrder := by
  unfold CfgFile.InOrder
  rw [← hkeys, List.forall₂_map_right_iff, List.forall₂_same]
  intro line hline
  have hsent : line.sent = line.text := by
    simp [CfgLine.sent, CfgLine.value, hnewline line hline]
  have ⟨hlow, hhigh⟩ := get_range file.inRange line.key
  rw [hsent, (file.spells line hline).strtol_eq hlow hhigh]

def wantedCall (phase2 : Bool) (groupIndex : Nat) (cfgs : List (Option CfgFile)) : SetGroupCall :=
  if phase2 then
    .array groupIndex (cfgs.map (fun cfg => (cfg.map CfgFile.record).getD zeroCfg))
  else
    .pair groupIndex ((cfgs.getD 0 none).map CfgFile.record) ((cfgs.getD 1 none).map CfgFile.record)

structure Transmits (phase2 : Bool) (cfgs : List (Option CfgFile)) : Prop where
  inOrder : ∀ file, some file ∈ cfgs → file.InOrder
  last : phase2 = true → cfgs.getLast? ≠ some none

theorem getLast?_cons_some (file : CfgFile) (cfgs : List (Option CfgFile))
    : (some file :: cfgs).getLast? = some none ↔ cfgs.getLast? = some none := by
  rw [List.getLast?_cons]
  cases cfgs.getLast? with
  | none => simp
  | some last => simp

theorem received_eq_iff (cfgs : List (Option CfgFile))
    : received cfgs = cfgs.map (fun cfg => (cfg.map CfgFile.record).getD zeroCfg)
        ↔
      (∀ file, some file ∈ cfgs → file.InOrder) ∧ cfgs.getLast? ≠ some none := by
  induction cfgs with
  | nil => simp [received]
  | cons cfg cfgs ih =>
    cases cfg with
    | none =>
      by_cases hlast : cfgs = []
      . simp [hlast, received]
      . have ⟨last, hsome⟩ := Option.ne_none_iff_exists'.mp (mt List.getLast?_eq_none_iff.mp hlast)
        simp [received, hlast, ih, List.getLast?_cons, hsome]
    | some file =>
      simp [received, ih, decoded_eq_iff, getLast?_cons_some, and_assoc]

theorem map_decoded_eq_iff (cfg : Option CfgFile)
    : cfg.map CfgFile.decoded = cfg.map CfgFile.record ↔ ∀ file, cfg = some file → file.InOrder := by
  cases cfg with
  | none => simp
  | some file => simp [decoded_eq_iff]

theorem receivedCall_eq_iff {phase2 : Bool} (groupIndex : Nat) {cfgs : List (Option CfgFile)}
    (hsupported : Supported phase2 cfgs)
    : receivedCall phase2 groupIndex cfgs = wantedCall phase2 groupIndex cfgs ↔ Transmits phase2 cfgs := by
  cases phase2 with
  | true =>
    simp only [receivedCall, wantedCall, ↓reduceIte, SetGroupCall.array.injEq, true_and, received_eq_iff]
    constructor
    . intro ⟨hinOrder, hlast⟩
      exact ⟨hinOrder, fun _ => hlast⟩
    . intro htransmits
      exact ⟨htransmits.inOrder, htransmits.last rfl⟩
  | false =>
    have ⟨cfg2, cfg5, hcfgs⟩ := List.length_eq_two.mp hsupported
    have hcall : receivedCall false groupIndex cfgs = wantedCall false groupIndex cfgs
        ↔ (∀ file, cfg2 = some file → file.InOrder) ∧ ∀ file, cfg5 = some file → file.InOrder := by
      rw [← map_decoded_eq_iff, ← map_decoded_eq_iff, hcfgs]
      simp [receivedCall, wantedCall]
    rw [hcall]
    constructor
    . intro ⟨hcfg2, hcfg5⟩
      constructor
      case inOrder =>
        intro file hmem
        rw [hcfgs, List.mem_pair] at hmem
        rcases hmem with hmem | hmem
        . exact hcfg2 file hmem.symm
        . exact hcfg5 file hmem.symm
      case last =>
        intro hphase2
        contradiction
    . intro htransmits
      have hinOrder := htransmits.inOrder
      rw [hcfgs] at hinOrder
      constructor
      . intro file heq
        exact hinOrder file (by simp [heq])
      . intro file heq
        exact hinOrder file (by simp [heq])

theorem set_group_round_trip_iff (phase2 : Bool) (group cmd : CStr) (groupIndex cmdMaxSize : Nat)
    (cfgs : List (Option CfgFile)) (hspells : Spells group groupIndex) (hgroup : groupIndex < 2 ^ 32)
    (hsupported : Supported phase2 cfgs)
    (hfits : handleWifiSteeringSetGroup (cstr "wifi_steering_setGroup") group (cfgs.map cfgArg) cmdMaxSize
      = some cmd)
    : handleCmd phase2 cmd = some (wantedCall phase2 groupIndex cfgs) ↔ Transmits phase2 cfgs := by
  rw [handleCmd_joined hsupported hspells hgroup (eq_of_handleWifiSteeringSetGroup hfits), Option.some.injEq]
  exact receivedCall_eq_iff groupIndex hsupported

theorem spells_decimal (val : Nat)
    : Spells (decimal val) val := by
  have hspells := Spells.nonneg (decimal_ne_nil val) (fun c hc => isDigit_of_mem_decimal hc)
  rwa [ofDecimal_decimal] at hspells

def exampleCfg : ApConfig :=
  { apIndex := 1
    utilCheckIntervalSec := 10
    utilAvgCount := 3
    inactCheckIntervalSec := 5
    inactCheckThresholdSec := 60
  }

def exampleFile (keys : List CfgKey) (hkeys : keys.Perm cfgKeys) : CfgFile :=
  { record := exampleCfg
    lines := keys.map (fun key =>
      { key, text := decimal (exampleCfg.get key).toNat, newline := true })
    inRange := by
      constructor <;> decide
    keys := by
      rw [List.map_map]
      exact (List.map_id keys).symm ▸ hkeys
    ends := by
      intro line hline
      have ⟨key, _, heq⟩ := List.mem_map.mp (List.mem_of_mem_dropLast hline)
      rw [← heq]
    spells := by
      intro line hline
      have ⟨key, _, heq⟩ := List.mem_map.mp hline
      have hnonneg : ((exampleCfg.get key).toNat : Int) = exampleCfg.get key := by
        cases key <;> rfl
      have hspells := spells_decimal (exampleCfg.get key).toNat
      rw [hnonneg] at hspells
      rw [← heq]
      exact hspells
  }

def orderedFile : CfgFile :=
  exampleFile cfgKeys (List.Perm.refl cfgKeys)

def reversedFile : CfgFile :=
  exampleFile cfgKeys.reverse (List.reverse_perm cfgKeys)

theorem set_group_not_round_trip
    : ∃ cmd, handleWifiSteeringSetGroup (cstr "wifi_steering_setGroup") (cstr "7")
          ([none, some reversedFile].map cfgArg) 1024 = some cmd
        ∧ handleCmd true cmd ≠ some (wantedCall true 7 [none, some reversedFile])
        ∧ handleCmd false cmd ≠ some (wantedCall false 7 [none, some reversedFile]) := by
  refine ⟨cstr "wifi_steering_setGroup;7;NULL;60;5;3;10;1", ?_, ?_, ?_⟩
  . decide +kernel
  . decide +kernel
  . decide +kernel

theorem set_group_round_trip_iff_keys
    : ∃ cmd, handleWifiSteeringSetGroup (cstr "wifi_steering_setGroup") (cstr "7")
          ([none, some orderedFile].map cfgArg) 1024 = some cmd
        ∧ handleCmd true cmd = some (wantedCall true 7 [none, some orderedFile]) := by
  have hfits : handleWifiSteeringSetGroup (cstr "wifi_steering_setGroup") (cstr "7")
      ([none, some orderedFile].map cfgArg) 1024
        = some (cstr "wifi_steering_setGroup;7;NULL;1;10;3;5;60") := by
    decide +kernel
  have hsupported : Supported true [none, some orderedFile] := by
    show 2 ≤ maxApCfgNumber
    decide
  refine ⟨_, hfits, ?_⟩
  have hspells : Spells (cstr "7") (7 : Nat) := spells_decimal 7
  have hgroup : 7 < 2 ^ 32 := by
    decide
  apply (set_group_round_trip_iff true (cstr "7") _ 7 1024 _ hspells hgroup hsupported hfits).mpr
  constructor
  . intro file hmem
    rw [List.mem_cons, List.mem_singleton] at hmem
    rcases hmem with hfile | hfile
    . contradiction
    . injection hfile with hfile
      rw [hfile]
      apply inOrder_of_keys
      . rfl
      . decide
  . intro _
    exact nofun

end BsTest
end OpenSyncRdk
