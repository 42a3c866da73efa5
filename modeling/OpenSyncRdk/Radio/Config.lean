import OpenSyncRdk.Radio.InitialConfig
import OpenSyncRdk.Sync.Manager

/-!
The configuration of a radio, `target_radio_config_set2` of `radio.c`, against a wifi HAL that takes
settings and answers for them, and what `radio_state_get` shows after it.
-/

namespace OpenSyncRdk
namespace Radio

open Sync (ChangeMsg)

structure RadioConfigFlags where
  enabled : Bool
  channel : Bool
  htMode : Bool
  zeroWaitDfs : Bool

/-- The wifi HAL in a state of type `H`. A setter that is refused, `none`, changes nothing. -/
structure RadioHal (H : Type) where
  answers : H → InitAnswers
  setRadioEnable : H → Nat → Bool → Option H
  pushRadioChannel2 : H → Nat → Nat → Nat → Nat → Option H
  setZeroDfsState : H → Nat → Bool → Bool → Option H

def mapCsaChanwidth : List (Nat × CStr) :=
  [
    (20, cstr "HT20"),
    (40, cstr "HT40"),
    (80, cstr "HT80"),
    (80, cstr "HT80+80"),
    (160, cstr "HT160")
  ]

def csaTbtt : Nat := 25

def ifnameSize : Nat := 128

variable {H : Type}

/-- The loop of `radio_ifname_to_idx`; names are compared by `strncmp`. -/
def findRadio (answers : InitAnswers) (ifname : CStr) : List Nat → Option Nat
  | [] => none
  | radioIndex :: radios =>
    match (answers.radio radioIndex).radioIfName with
    | none => none
    | some radioIfname =>
      if radioIfname.take ifnameSize = ifname.take ifnameSize then
        some radioIndex
      else
        findRadio answers ifname radios

def radioIfnameToIdx (answers : InitAnswers) (ifname : CStr) : Option Nat :=
  answers.numRadios.bind (fun numRadios => findRadio answers ifname (List.range numRadios))

def radioChangeChannel (disableSync : Bool) (hal : RadioHal H) (radioIndex channel : Nat) (htMode : CStr)
    (h : H) : Option (H × List ChangeMsg) :=
  match ((hal.answers h).radio radioIndex).radioIfName with
  | none => none
  | some _ =>
    if channel = 0 then
      some (h, [])
    else
      match mapCsaChanwidth.find? (fun citem => citem.2 = htMode) with
      | none => none
      | some (chWidth, _) =>
        match hal.pushRadioChannel2 h radioIndex channel chWidth csaTbtt with
        | none => none
        | some h =>
          if disableSync then
            some (h, [])
          else
            some (h, [.radioChannel radioIndex channel, .radioChannelBw radioIndex chWidth])

def radioChangeZeroWaitDfs (hal : RadioHal H) (radioIndex : Nat) (zeroWaitDfs : CStr) (h : H) : Option H :=
  match ((hal.answers h).radio radioIndex).halCapability with
  | none => none
  | some caps =>
    match getRadioCapIndex caps radioIndex with
    | none => none
    | some cap =>
      if ¬cap.zeroDfsSupported then
        none
      else if zeroWaitDfs = cstr "enable" then
        hal.setZeroDfsState h radioIndex true false
      else if zeroWaitDfs = cstr "precac" then
        hal.setZeroDfsState h radioIndex true true
      else
        hal.setZeroDfsState h radioIndex false false

structure Outcome (H : Type) where
  hal : H
  sent : List ChangeMsg
  -- `radio_trigger_resync` is called only then
  ok : Bool

def targetRadioConfigSet2 (disableSync : Bool) (hal : RadioHal H) (rconf : RadioConfig)
    (changed : RadioConfigFlags) (h : H) : Outcome H :=
  match radioIfnameToIdx (hal.answers h) rconf.ifName.val with
  | none => { hal := h, sent := [], ok := false }
  | some radioIndex =>
    let enabled :=
      if changed.enabled then hal.setRadioEnable h radioIndex rconf.enabled.val else some h
    match enabled with
    | none => { hal := h, sent := [], ok := false }
    | some h =>
      let tuned :=
        if changed.channel || changed.htMode then
          radioChangeChannel disableSync hal radioIndex rconf.channel.val rconf.htMode.val h
        else
          some (h, [])
      match tuned with
      | none => { hal := h, sent := [], ok := false }
      | some (h, sent) =>
        let waiting :=
          if changed.zeroWaitDfs then
            radioChangeZeroWaitDfs hal radioIndex rconf.zeroWaitDfs.val h
          else
            some h
        match waiting with
        | none => { hal := h, sent, ok := false }
        | some h => { hal := h, sent, ok := true }

inductive Stage where
  | enabled
  | channel
  | zeroWaitDfs
  deriving DecidableEq

def RadioConfigFlags.stages (changed : RadioConfigFlags) : List Stage :=
  (if changed.enabled then [.enabled] else [])
    ++ ((if changed.channel || changed.htMode then [.channel] else [])
      ++ (if changed.zeroWaitDfs then [.zeroWaitDfs] else []))

/-- Two channels of 80 MHz are requested as one. -/
def shownHtMode (htMode : CStr) : CStr :=
  if htMode = cstr "HT80+80" then cstr "HT80" else htMode

def shownZeroWaitDfs (zeroWaitDfs : CStr) : CStr :=
  if zeroWaitDfs = cstr "enable" ∨ zeroWaitDfs = cstr "precac" then zeroWaitDfs else cstr "disable"

/-- What a stage makes of the row that is shown for the radio. A channel of 0 is no channel. -/
def Stage.shown (rconf : RadioConfig) (rstate : RadioState) : Stage → RadioState
  | .enabled => { rstate with enabled := .set rconf.enabled.val }
  | .channel =>
    if rconf.channel.val = 0 then
      rstate
    else
      { rstate with
        channel := .set rconf.channel.val
        htMode := .set (shownHtMode rconf.htMode.val)
      }
  | .zeroWaitDfs => { rstate with zeroWaitDfs := .set (shownZeroWaitDfs rconf.zeroWaitDfs.val) }

def InitAnswers.update (answers : InitAnswers) (radioIndex : Nat) (f : RadioAnswers → RadioAnswers)
    : InitAnswers :=
  { answers with
    radio := fun other => if other = radioIndex then f (answers.radio other) else answers.radio other
  }

def RadioAnswers.operate (answers : RadioAnswers) (f : OperationParam → OperationParam) : RadioAnswers :=
  { answers with operatingParameters := answers.operatingParameters.map f }

def RadioAnswers.waitDfs (answers : RadioAnswers) (enable precac : Bool) : RadioAnswers :=
  { answers with zeroDfsState := some (enable, precac) }

def channelWidth (chWidth : Nat) : ChannelBandwidth :=
  if chWidth = 20 then
    .mhz20
  else if chWidth = 40 then
    .mhz40
  else if chWidth = 80 then
    .mhz80
  else
    .mhz160

structure RadioHal.Lawful (hal : RadioHal H) : Prop where
  setRadioEnable : ∀ h radioIndex enable t, hal.setRadioEnable h radioIndex enable = some t
    → hal.answers t = (hal.answers h).update radioIndex
        (fun answers => answers.operate (fun params => { params with enable }))
  pushRadioChannel2 : ∀ h radioIndex channel chWidth t,
    hal.pushRadioChannel2 h radioIndex channel chWidth csaTbtt = some t
    → hal.answers t = (hal.answers h).update radioIndex
        (fun answers => answers.operate
          (fun params => { params with channel, channelWidth := channelWidth chWidth }))
  setZeroDfsState : ∀ h radioIndex enable precac t,
    hal.setZeroDfsState h radioIndex enable precac = some t
    → hal.answers t = (hal.answers h).update radioIndex (fun answers => answers.waitDfs enable precac)

def tableHal : RadioHal InitAnswers where
  answers := id
  setRadioEnable := fun h radioIndex enable =>
    some (h.update radioIndex
      (fun answers => answers.operate (fun params => { params with enable })))
  pushRadioChannel2 := fun h radioIndex channel chWidth _ =>
    some (h.update radioIndex (fun answers => answers.operate
      (fun params => { params with channel, channelWidth := channelWidth chWidth })))
  setZeroDfsState := fun h radioIndex enable precac =>
    some (h.update radioIndex (fun answers => answers.waitDfs enable precac))

theorem tableHal_lawful : tableHal.Lawful where
  setRadioEnable := fun _ _ _ _ hset => (Option.some.inj hset).symm
  pushRadioChannel2 := fun _ _ _ _ _ hset => (Option.some.inj hset).symm
  setZeroDfsState := fun _ _ _ _ _ hset => (Option.some.inj hset).symm

/-- The row that `radio_state_update` would hand over now. -/
def stateShown (build : InitBuild) (dfs : Dfs) (answers : RadioAnswers) (radioIndex : Nat)
    : Option RadioState :=
  match radioStateGet build answers radioIndex dfs default with
  | (_, false) => none
  | (rstate, true) => some rstate

section

variable (build : InitBuild) (dfs : Dfs)

theorem stateShown_eq (answers : RadioAnswers) (radioIndex : Nat)
    : stateShown build dfs answers radioIndex
        = answers.halCapability.bind (fun caps =>
            answers.radioIfName.bind (fun ifname =>
              answers.operatingParameters.map (fun params =>
                setChannels build answers caps radioIndex dfs
                  (setOperation build answers params { (default : RadioState) with
                    ifName := .set (build.unmapIfname ifname) })))) := by
  unfold stateShown radioStateGet
  cases answers.halCapability with
  | none => rfl
  | some caps =>
    cases answers.radioIfName with
    | none => rfl
    | some ifname =>
      cases answers.operatingParameters with
      | none => rfl
      | some params => rfl

def zeroWaitDfsGet (answers : RadioAnswers) (caps : List RadioCap) (radioIndex : Nat) : Option CStr :=
  (getRadioCapIndex caps radioIndex).bind
    (fun cap => (updateZeroWaitDfs answers cap default).zeroWaitDfs.toOption)

theorem updateZeroWaitDfs_eq (answers : RadioAnswers) (cap : RadioCap) (rstate : RadioState)
    : updateZeroWaitDfs answers cap rstate
        = { rstate with
            zeroWaitDfs :=
              Vif.setIfSome (updateZeroWaitDfs answers cap default).zeroWaitDfs.toOption rstate.zeroWaitDfs } := by
  unfold updateZeroWaitDfs
  split
  . rfl
  . cases answers.zeroDfsState with
    | none => rfl
    | some state => rfl

def channelsGet (answers : RadioAnswers) : Option (List (CStr × CStr)) :=
  answers.channelMap.map (fun _ => (updateChannelsMap answers default).channels)

theorem updateChannelsMap_eq (answers : RadioAnswers) (rstate : RadioState)
    : updateChannelsMap answers rstate
        = { rstate with channels := (channelsGet answers).getD rstate.channels } := by
  unfold updateChannelsMap channelsGet
  cases hmap : answers.channelMap with
  | none => rfl
  | some channelMap => simp [updateChannelsMap, hmap]

/-- `setChannels` adds to the row, and looks at no column of what `setOperation` has set. -/
theorem setChannels_eq (answers : RadioAnswers) (caps : List RadioCap) (radioIndex : Nat)
    (rstate : RadioState)
    : setChannels build answers caps radioIndex dfs rstate
        = { rstate with
            channels := (channelsGet answers).getD rstate.channels
            radar := radarRow dfs
            mac := Vif.setIfSome (answers.macaddr.map build.macStr) rstate.mac
            allowedChannels :=
              ((getRadioCapIndex caps radioIndex).map (fun cap => cap.channelList.flatten)).getD []
            zeroWaitDfs :=
              Vif.setIfSome (zeroWaitDfsGet answers caps radioIndex) rstate.zeroWaitDfs } := by
  unfold setChannels zeroWaitDfsGet
  rw [updateChannelsMap_eq]
  cases getRadioCapIndex caps radioIndex with
  | none => rfl
  | some cap => exact updateZeroWaitDfs_eq answers cap _

theorem stateShown_operate {f : OperationParam → OperationParam} {g : RadioState → RadioState}
    (answers : RadioAnswers) (radioIndex : Nat)
    (hfg : ∀ caps params rstate,
      setChannels build (answers.operate f) caps radioIndex dfs
          (setOperation build (answers.operate f) (f params) rstate)
        = g (setChannels build answers caps radioIndex dfs (setOperation build answers params rstate)))
    : stateShown build dfs (answers.operate f) radioIndex
        = (stateShown build dfs answers radioIndex).map g := by
  have hcaps : (answers.operate f).halCapability = answers.halCapability := rfl
  have hifname : (answers.operate f).radioIfName = answers.radioIfName := rfl
  have hparams : (answers.operate f).operatingParameters = answers.operatingParameters.map f := rfl
  rw [stateShown_eq, stateShown_eq, hcaps, hifname, hparams]
  simp only [Option.map_bind, Option.map_map, Function.comp_def, hfg]

theorem stateShown_setEnable (answers : RadioAnswers) (radioIndex : Nat) (enable : Bool)
    : stateShown build dfs (answers.operate (fun params => { params with enable })) radioIndex
        = (stateShown build dfs answers radioIndex).map
            (fun rstate => { rstate with enabled := .set enable }) := by
  apply stateShown_operate
  intro caps params rstate
  rw [setChannels_eq, setChannels_eq]
  rfl

theorem stateShown_pushChannel (answers : RadioAnswers) (radioIndex : Nat) {channel chWidth : Nat}
    {str : CStr} (hchannel : channel ≠ 0) (hwidth : (chWidth, str) ∈ mapCsaChanwidth)
    : stateShown build dfs
          (answers.operate (fun params => { params with channel, channelWidth := channelWidth chWidth }))
          radioIndex
        = (stateShown build dfs answers radioIndex).map
            (fun rstate => { rstate with channel := .set channel, htMode := .set (shownHtMode str) }) := by
  have hhtMode : ∀ column, setIfDecoded (strByKey mapHtmodeStr (channelWidth chWidth)) column
      = .set (shownHtMode str) := by
    intro column
    simp only [mapCsaChanwidth, List.mem_cons, Prod.mk.injEq, List.not_mem_nil, or_false] at hwidth
    rcases hwidth with ⟨rfl, rfl⟩ | ⟨rfl, rfl⟩ | ⟨rfl, rfl⟩ | ⟨rfl, rfl⟩ | ⟨rfl, rfl⟩ <;> rfl
  apply stateShown_operate
  intro caps params rstate
  rw [setChannels_eq, setChannels_eq]
  simp only [setOperation, hhtMode, if_neg hchannel]
  rfl

theorem stateShown_setZeroDfs {answers : RadioAnswers} {radioIndex : Nat} {caps : List RadioCap}
    {cap : RadioCap} (hcaps : answers.halCapability = some caps)
    (hcap : getRadioCapIndex caps radioIndex = some cap) (hsupported : cap.zeroDfsSupported)
    (enable precac : Bool)
    : stateShown build dfs (answers.waitDfs enable precac) radioIndex
        = (stateShown build dfs answers radioIndex).map
            (fun rstate => { rstate with
              zeroWaitDfs := .set
                (if enable ∧ precac then
                  cstr "precac"
                else if enable then
                  cstr "enable"
                else
                  cstr "disable") }) := by
  have hget : zeroWaitDfsGet (answers.waitDfs enable precac) caps radioIndex
      = some (if enable ∧ precac then
          cstr "precac"
        else if enable then
          cstr "enable"
        else
          cstr "disable") := by
    unfold zeroWaitDfsGet
    rw [hcap]
    simp only [Option.bind_some, updateZeroWaitDfs, hsupported, not_true, ↓reduceIte]
    rfl
  have hcaps' : (answers.waitDfs enable precac).halCapability = some caps := hcaps
  have hifname : (answers.waitDfs enable precac).radioIfName = answers.radioIfName := rfl
  have hparams : (answers.waitDfs enable precac).operatingParameters = answers.operatingParameters := rfl
  rw [stateShown_eq, stateShown_eq, hcaps', hifname, hparams, hcaps]
  simp only [Option.bind_some, Option.map_bind, Option.map_map, Function.comp_def, setChannels_eq, hget]
  rfl

def RadioHal.shown (hal : RadioHal H) (h : H) (radioIndex : Nat) : Option RadioState :=
  stateShown build dfs ((hal.answers h).radio radioIndex) radioIndex

def ShowsAs (hal : RadioHal H) (h t : H) (radioIndex : Nat) (f : RadioState → RadioState) : Prop :=
  ∀ other, hal.shown build dfs t other
    = if other = radioIndex then (hal.shown build dfs h other).map f else hal.shown build dfs h other

variable {build dfs} {hal : RadioHal H} {h t u : H} {radioIndex : Nat} {f g : RadioState → RadioState}

theorem ShowsAs.refl
    : ShowsAs build dfs hal h h radioIndex id := by
  intro other
  simp

theorem ShowsAs.trans (hf : ShowsAs build dfs hal h t radioIndex f)
    (hg : ShowsAs build dfs hal t u radioIndex g)
    : ShowsAs build dfs hal h u radioIndex (g ∘ f) := by
  intro other
  rw [hg other, hf other]
  split
  . rw [Option.map_map]
  . rfl

theorem ShowsAs.of_update {change : RadioAnswers → RadioAnswers}
    (hanswers : hal.answers t = (hal.answers h).update radioIndex change)
    (hchange : stateShown build dfs (change ((hal.answers h).radio radioIndex)) radioIndex
      = (stateShown build dfs ((hal.answers h).radio radioIndex) radioIndex).map f)
    : ShowsAs build dfs hal h t radioIndex f := by
  intro other
  unfold RadioHal.shown
  rw [hanswers]
  unfold InitAnswers.update
  dsimp only
  split
  . next heq => rw [heq, hchange]
  . rfl

def configured (rconf : RadioConfig) (done : List Stage) (rstate : RadioState) : RadioState :=
  done.foldl (Stage.shown rconf) rstate

theorem configured_append (rconf : RadioConfig) (lhs rhs : List Stage)
    : configured rconf (lhs ++ rhs) = configured rconf rhs ∘ configured rconf lhs := by
  funext rstate
  exact List.foldl_append

def told (disableSync : Bool) (rconf : RadioConfig) (radioIndex : Nat) (done : List Stage)
    : List ChangeMsg :=
  if disableSync ∨ .channel ∉ done ∨ rconf.channel.val = 0 then
    []
  else
    match mapCsaChanwidth.find? (fun citem => citem.2 = rconf.htMode.val) with
    | none => []
    | some (chWidth, _) =>
      [.radioChannel radioIndex rconf.channel.val, .radioChannelBw radioIndex chWidth]

theorem told_congr {lhs rhs : List Stage} (h : Stage.channel ∈ lhs ↔ Stage.channel ∈ rhs)
    (disableSync : Bool) (rconf : RadioConfig) (radioIndex : Nat)
    : told disableSync rconf radioIndex lhs = told disableSync rconf radioIndex rhs := by
  unfold told
  simp only [h]

theorem radioChangeChannel_shows (hlawful : hal.Lawful) {disableSync : Bool} {rconf : RadioConfig}
    {sent : List ChangeMsg}
    (hchange : radioChangeChannel disableSync hal radioIndex rconf.channel.val rconf.htMode.val h
      = some (t, sent))
    : ShowsAs build dfs hal h t radioIndex (configured rconf [.channel])
        ∧ sent = told disableSync rconf radioIndex [.channel] := by
  unfold radioChangeChannel at hchange
  split at hchange
  . contradiction
  . split at hchange
    . next hchannel =>
      simp only [Option.some.injEq, Prod.mk.injEq] at hchange
      have hsame : configured rconf [.channel] = id := by
        funext rstate
        simp [configured, Stage.shown, hchannel]
      rw [← hchange.1, ← hchange.2, hsame]
      exact ⟨ShowsAs.refl, by simp [told, hchannel]⟩
    . next hchannel =>
      split at hchange
      . contradiction
      . next chWidth str hfind =>
        split at hchange
        . contradiction
        . next pushed hpush =>
          have hmem := List.mem_of_find?_eq_some hfind
          have hstr : str = rconf.htMode.val := by simpa using List.find?_some hfind
          have hshows : ShowsAs build dfs hal h pushed radioIndex (configured rconf [.channel]) := by
            apply ShowsAs.of_update (hlawful.pushRadioChannel2 _ _ _ _ _ hpush)
            rw [stateShown_pushChannel build dfs _ _ hchannel hmem]
            congr 1
            funext rstate
            simp [configured, Stage.shown, hchannel, hstr]
          split at hchange
          . next hdisable =>
            simp only [Option.some.injEq, Prod.mk.injEq] at hchange
            rw [← hchange.1, ← hchange.2]
            exact ⟨hshows, by simp [told, hdisable]⟩
          . next hdisable =>
            simp only [Option.some.injEq, Prod.mk.injEq] at hchange
            rw [← hchange.1, ← hchange.2]
            exact ⟨hshows, by simp [told, hdisable, hchannel, hfind]⟩

theorem radioChangeZeroWaitDfs_shows (hlawful : hal.Lawful) {rconf : RadioConfig}
    (hchange : radioChangeZeroWaitDfs hal radioIndex rconf.zeroWaitDfs.val h = some t)
    : ShowsAs build dfs hal h t radioIndex (configured rconf [.zeroWaitDfs]) := by
  unfold radioChangeZeroWaitDfs at hchange
  split at hchange
  . contradiction
  . next caps hcaps =>
    split at hchange
    . contradiction
    . next cap hcap =>
      split at hchange
      . contradiction
      . next hsupported =>
        have hset : ∀ enable precac, hal.setZeroDfsState h radioIndex enable precac = some t
            → (if enable ∧ precac then
                cstr "precac"
              else if enable then
                cstr "enable"
              else
                cstr "disable") = shownZeroWaitDfs rconf.zeroWaitDfs.val
            → ShowsAs build dfs hal h t radioIndex (configured rconf [.zeroWaitDfs]) := by
          intro enable precac hset hstr
          apply ShowsAs.of_update (hlawful.setZeroDfsState _ _ _ _ _ hset)
          rw [stateShown_setZeroDfs build dfs hcaps hcap (by simpa using hsupported), hstr]
          rfl
        split at hchange
        . next henable => exact hset true false hchange (by simp [shownZeroWaitDfs, henable])
        . next henable =>
          split at hchange
          . next hprecac => exact hset true true hchange (by simp [shownZeroWaitDfs, hprecac])
          . next hprecac =>
            exact hset false false hchange (by simp [shownZeroWaitDfs, henable, hprecac])

theorem told_append_of_not_mem {lhs rhs : List Stage} (h : Stage.channel ∉ rhs) (disableSync : Bool)
    (rconf : RadioConfig) (radioIndex : Nat)
    : told disableSync rconf radioIndex (lhs ++ rhs) = told disableSync rconf radioIndex lhs := by
  apply told_congr
  simp [h]

theorem told_of_not_mem_append {lhs rhs : List Stage} (h : Stage.channel ∉ lhs) (disableSync : Bool)
    (rconf : RadioConfig) (radioIndex : Nat)
    : told disableSync rconf radioIndex (lhs ++ rhs) = told disableSync rconf radioIndex rhs := by
  apply told_congr
  simp [h]

theorem ShowsAs.append {rconf : RadioConfig} {lhs rhs : List Stage}
    (hlhs : ShowsAs build dfs hal h t radioIndex (configured rconf lhs))
    (hrhs : ShowsAs build dfs hal t u radioIndex (configured rconf rhs))
    : ShowsAs build dfs hal h u radioIndex (configured rconf (lhs ++ rhs)) := by
  rw [configured_append]
  exact hlhs.trans hrhs

variable (build dfs) in
theorem optional_shows {rconf : RadioConfig} {flag : Bool} {stage : Stage} {step : Option H}
    (hstep : step = some t → ShowsAs build dfs hal h t radioIndex (configured rconf [stage]))
    (hdone : (if flag then step else some h) = some t)
    : ShowsAs build dfs hal h t radioIndex (configured rconf (if flag then [stage] else [])) := by
  cases flag with
  | true => exact hstep hdone
  | false =>
    injection hdone with hsame
    rw [← hsame]
    exact ShowsAs.refl

theorem optional_refused {α : Type} {flag : Bool} {step : Option α} {other : α}
    (hnone : (if flag then step else some other) = none)
    : flag = true := by
  cases flag with
  | true => rfl
  | false => contradiction

theorem radioSetEnable_shows (hlawful : hal.Lawful) {rconf : RadioConfig}
    (hset : hal.setRadioEnable h radioIndex rconf.enabled.val = some t)
    : ShowsAs build dfs hal h t radioIndex (configured rconf [.enabled]) := by
  apply ShowsAs.of_update (hlawful.setRadioEnable _ _ _ _ hset)
  rw [stateShown_setEnable]
  rfl

variable (build dfs) in
theorem optional_radioChangeChannel_shows (hlawful : hal.Lawful) {disableSync flag : Bool}
    {rconf : RadioConfig} {sent : List ChangeMsg}
    (hdone
      : (if flag then
          radioChangeChannel disableSync hal radioIndex rconf.channel.val rconf.htMode.val h
        else
          some (h, [])) = some (t, sent))
    : ShowsAs build dfs hal h t radioIndex (configured rconf (if flag then [.channel] else []))
        ∧ sent = told disableSync rconf radioIndex (if flag then [.channel] else []) := by
  cases flag with
  | true => exact radioChangeChannel_shows hlawful hdone
  | false =>
    injection hdone with hsame
    injection hsame with hhal hsent
    rw [← hhal, ← hsent]
    exact ⟨ShowsAs.refl, by simp [told]⟩

variable (build dfs) in
theorem targetRadioConfigSet2_done (hlawful : hal.Lawful) (disableSync : Bool) {rconf : RadioConfig}
    (hidx : radioIfnameToIdx (hal.answers h) rconf.ifName.val = some radioIndex)
    (changed : RadioConfigFlags)
    : let out := targetRadioConfigSet2 disableSync hal rconf changed h
      ∃ done, done <+: changed.stages
        ∧ (out.ok = true ↔ done = changed.stages)
        ∧ ShowsAs build dfs hal h out.hal radioIndex (configured rconf done)
        ∧ out.sent = told disableSync rconf radioIndex done := by
  unfold targetRadioConfigSet2 RadioConfigFlags.stages
  rw [hidx]
  dsimp only
  have hnotEnabled : Stage.channel ∉ if changed.enabled then [Stage.enabled] else [] := by
    split <;> simp
  have hnotWait : Stage.channel ∉ if changed.zeroWaitDfs then [Stage.zeroWaitDfs] else [] := by
    split <;> simp
  generalize henabled
    : (if changed.enabled then hal.setRadioEnable h radioIndex rconf.enabled.val else some h) = enabled
  cases enabled with
  | none =>
    have hflag := optional_refused henabled
    exact ⟨[], List.nil_prefix, by simp [hflag], ShowsAs.refl, by simp [told]⟩
  | some t =>
    have hone := optional_shows build dfs (radioSetEnable_shows hlawful) henabled
    dsimp only
    generalize htuned
      : (if changed.channel || changed.htMode then
          radioChangeChannel disableSync hal radioIndex rconf.channel.val rconf.htMode.val t
        else
          some (t, [])) = tuned
    cases tuned with
    | none =>
      have hflag := optional_refused htuned
      refine ⟨_, List.prefix_append _ _, by simp [hflag], hone, ?_⟩
      simp [told, hnotEnabled]
    | some tuned =>
      obtain ⟨u, sent⟩ := tuned
      obtain ⟨htwo, hsent⟩ := optional_radioChangeChannel_shows build dfs hlawful htuned
      have htold := hsent.trans (told_of_not_mem_append hnotEnabled disableSync rconf radioIndex).symm
      dsimp only
      generalize hwaiting
        : (if changed.zeroWaitDfs then
            radioChangeZeroWaitDfs hal radioIndex rconf.zeroWaitDfs.val u
          else
            some u) = waiting
      cases waiting with
      | none =>
        have hflag := optional_refused hwaiting
        refine ⟨_, ?_, by simp [hflag], hone.append htwo, htold⟩
        rw [← List.append_assoc]
        exact List.prefix_append _ _
      | some v =>
        have hthree := optional_shows build dfs (radioChangeZeroWaitDfs_shows hlawful) hwaiting
        have hall := (hone.append htwo).append hthree
        rw [List.append_assoc] at hall
        refine ⟨_, List.prefix_rfl, by simp, hall, ?_⟩
        rw [htold, ← List.append_assoc, told_append_of_not_mem hnotWait]

end

end Radio
end OpenSyncRdk
