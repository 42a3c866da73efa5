import OpenSyncRdk.Radio.ChanEvents
import OpenSyncRdk.Vif.InitialConfig

/-!
The rows that `target_radio_config_init2` hands over at the start, `radio.c`: for every radio the state
that `radio_state_get` fills from the wifi HAL and the configuration that is copied from it, and the
same for the APs of the radio.
-/

namespace OpenSyncRdk
namespace Radio

open Clients (MacAddr)
open Vif (VifState VifConfigRow VapMode vifCopyToConfig)

inductive FreqBand where
  | band2_4
  | band5
  | band5L
  | band5H
  | band6
  | other (val : Nat)
  deriving DecidableEq

inductive ChannelBandwidth where
  | mhz20
  | mhz40
  | mhz80
  | mhz80_80
  | mhz160
  | other (val : Nat)
  deriving DecidableEq

inductive Variant where
  | a
  | b
  | g
  | n
  | h
  | ac
  | ad
  | ax
  deriving DecidableEq

inductive ChannelState where
  | available
  | dfsNopFinished
  | dfsNopStart
  | dfsCacStart
  | dfsCacCompleted
  deriving DecidableEq

/-- `wifi_radio_operationParam_t`; `countryCode` is how the code is called, `variant` the bits that are set. -/
structure OperationParam where
  band : FreqBand
  enable : Bool
  channel : Nat
  countryCode : CStr
  channelWidth : ChannelBandwidth
  variant : List Variant

structure RadioCap where
  index : Nat
  zeroDfsSupported : Bool
  -- of every supported band
  channelList : List (List Int)

structure RadioState where
  ifName : Column CStr
  freqBand : Column CStr
  hwType : Column CStr
  enabled : Column Bool
  channel : Column Nat
  txPower : Column Nat
  country : Column CStr
  htMode : Column CStr
  hwMode : Column CStr
  zeroWaitDfs : Column CStr
  channels : List (CStr × CStr)
  radar : List (CStr × CStr)
  mac : Column CStr
  allowedChannels : List Int
  deriving DecidableEq, Inhabited

structure RadioConfig where
  ifName : Column CStr
  freqBand : Column CStr
  hwType : Column CStr
  enabled : Column Bool
  channel : Column Nat
  txPower : Column Nat
  country : Column CStr
  htMode : Column CStr
  hwMode : Column CStr
  zeroWaitDfs : Column CStr
  deriving DecidableEq, Inhabited

/-- An entry of `vap_array`, with the state that `vif_state_get` gets if it is called for it. -/
structure InitVap where
  vapMode : VapMode
  vapName : CStr
  stateGet : Option VifState

structure RadioAnswers where
  halCapability : Option (List RadioCap)
  radioIfName : Option CStr
  operatingParameters : Option OperationParam
  transmitPower : Option Nat
  channelMap : Option (List (Nat × ChannelState))
  macaddr : Option MacAddr
  zeroDfsState : Option (Bool × Bool)
  vapInfoMap : Option (List InitVap)

structure InitAnswers where
  numRadios : Option Nat
  radio : Nat → RadioAnswers

structure InitBuild extends Build where
  chipset2g : CStr
  chipset5g : CStr
  chipset6g : CStr
  unmapIfname : CStr → CStr
  macStr : MacAddr → CStr

/-- Two calls of the operations each. `got` is what `radio_state_get` has returned. -/
inductive Pushed where
  | radio (radioIndex : Nat) (got : Bool) (rconf : RadioConfig) (rstate : RadioState)
  | vif (vconf : VifConfigRow) (rconfIfName : CStr) (vstate : VifState) (rstateIfName : CStr)

def mapBandStr : List (FreqBand × CStr) :=
  [
    (.band2_4, cstr "2.4G"),
    (.band5, cstr "5G"),
    (.band5L, cstr "5GL"),
    (.band5H, cstr "5GH"),
    (.band6, cstr "6G")
  ]

/-- The codes that are known; each is decoded to its own name. -/
def mapCountryStr : List CStr :=
  [
    "AC", "AD", "AE", "AF", "AG", "AI", "AL", "AM", "AN", "AO", "AQ", "AR", "AS", "AT", "AU", "AW",
    "AZ", "BA", "BB", "BD", "BE", "BF", "BG", "BH", "BI", "BJ", "BM", "BN", "BO", "BR", "BS", "BT",
    "BV", "BW", "BY", "BZ", "CA", "CC", "CD", "CF", "CG", "CH", "CI", "CK", "CL", "CM", "CN", "CO",
    "CP", "CR", "CU", "CV", "CY", "CX", "CZ", "DE", "DJ", "DK", "DM", "DO", "DZ", "EC", "EE", "EG",
    "EH", "ER", "ES", "ET", "FI", "FJ", "FK", "FM", "FO", "FR", "GA", "GB", "GD", "GE", "GF", "GG",
    "GH", "GI", "GL", "GM", "GN", "GP", "GQ", "GR", "GS", "GT", "GU", "GW", "GY", "HR", "HT", "HM",
    "HN", "HK", "HU", "IS", "IN", "ID", "IR", "IQ", "IE", "IL", "IM", "IT", "IO", "JM", "JP", "JE",
    "JO", "KE", "KG", "KH", "KI", "KM", "KN", "KP", "KR", "KW", "KY", "KZ", "LA", "LB", "LC", "LI",
    "LK", "LR", "LS", "LT", "LU", "LV", "LY", "MA", "MC", "MD", "ME", "MG", "MH", "MK", "ML", "MM",
    "MN", "MO", "MQ", "MR", "MS", "MT", "MU", "MV", "MW", "MX", "MY", "MZ", "NA", "NC", "NE", "NF",
    "NG", "NI", "NL", "NO", "NP", "NR", "NU", "NZ", "MP", "OM", "PA", "PE", "PF", "PG", "PH", "PK",
    "PL", "PM", "PN", "PR", "PS", "PT", "PW", "PY", "QA", "RE", "RO", "RS", "RU", "RW", "SA", "SB",
    "SD", "SE", "SC", "SG", "SH", "SI", "SJ", "SK", "SL", "SM", "SN", "SO", "SR", "ST", "SV", "SY",
    "SZ", "TA", "TC", "TD", "TF", "TG", "TH", "TJ", "TK", "TL", "TM", "TN", "TO", "TR", "TT", "TV",
    "TW", "TZ", "UA", "UG", "UM", "US", "UY", "UZ", "VA", "VC", "VE", "VG", "VI", "VN", "VU", "WF",
    "WS", "YE", "YT", "YU", "ZA", "ZM", "ZW"
  ].map cstr

def mapHtmodeStr : List (ChannelBandwidth × CStr) :=
  [
    (.mhz20, cstr "HT20"),
    (.mhz40, cstr "HT40"),
    (.mhz80, cstr "HT80"),
    (.mhz80_80, cstr "HT80+80"),
    (.mhz160, cstr "HT160")
  ]

def mapVariantStr : List (Variant × CStr) :=
  [
    (.a, cstr "11a"),
    (.b, cstr "11b"),
    (.g, cstr "11g"),
    (.n, cstr "11n"),
    (.h, cstr "11h"),
    (.ac, cstr "11ac"),
    (.ad, cstr "11ad"),
    (.ax, cstr "11ax")
  ]

def strByKey {κ : Type} [DecidableEq κ] (map : List (κ × CStr)) (key : κ) : CStr :=
  ((map.find? (fun citem => citem.1 = key)).map Prod.snd).getD []

def countryStr (code : CStr) : CStr :=
  if mapCountryStr.contains code then code else []

def setIfDecoded (str : CStr) (column : Column CStr) : Column CStr :=
  if str.length = 0 then column else .set str

def radioGetHwType (build : InitBuild) (band : CStr) : Option CStr :=
  if band = cstr "2.4G" then
    some build.chipset2g
  else if band = cstr "5G" then
    some build.chipset5g
  else if build.radio6gSupport ∧ band = cstr "6G" then
    some build.chipset6g
  else
    none

def maxVariant (variant : List Variant) : Variant :=
  ([.ax, .ad, .ac, .h, .n, .g, .b, .a].find? (fun bit => variant.contains bit)).getD .a

def channelStateToStateStr : ChannelState → CStr
  | .available => cstr "\x7b\"state\":\"allowed\"\x7d"
  | .dfsNopFinished => cstr "\x7b\"state\": \"nop_finished\"\x7d"
  | .dfsNopStart => cstr "\x7b\"state\": \"nop_started\"\x7d"
  | .dfsCacStart => cstr "\x7b\"state\": \"cac_started\"\x7d"
  | .dfsCacCompleted => cstr "\x7b\"state\": \"cac_completed\"\x7d"

def mapSize : Nat := 64

def updateChannelsMap (hal : RadioAnswers) (rstate : RadioState) : RadioState :=
  match hal.channelMap with
  | none => rstate
  | some channelMap =>
    let channels := (channelMap.take mapSize).filter (fun entry => entry.1 ≠ 0)
    { rstate with
      channels := channels.map (fun entry => (decimal entry.1, channelStateToStateStr entry.2))
    }

def radarRow (dfs : Dfs) : List (CStr × CStr) :=
  let radar := updateRadarInfo dfs
  [
    (cstr "last_channel", radar.lastChannel),
    (cstr "num_detected", radar.numDetected),
    (cstr "time", radar.time)
  ]

def getRadioCapIndex (caps : List RadioCap) (radioIndex : Nat) : Option RadioCap :=
  if radioIndex < caps.length then caps.find? (fun cap => cap.index = radioIndex) else none

def updateZeroWaitDfs (hal : RadioAnswers) (cap : RadioCap) (rstate : RadioState) : RadioState :=
  if ¬cap.zeroDfsSupported then
    rstate
  else
    match hal.zeroDfsState with
    | none => rstate
    | some (enable, precac) =>
      let str :=
        if enable ∧ precac then
          cstr "precac"
        else if enable then
          cstr "enable"
        else
          cstr "disable"
      { rstate with zeroWaitDfs := .set str }

/-- The columns up to the mode of the hardware, from what the HAL says about the radio in operation. -/
def setOperation (build : InitBuild) (hal : RadioAnswers) (params : OperationParam)
    (rstate : RadioState) : RadioState :=
  let rstate := { rstate with
    freqBand := setIfDecoded (strByKey mapBandStr params.band) rstate.freqBand
  }
  let rstate := { rstate with
    hwType := Vif.setIfSome (radioGetHwType build rstate.freqBand.val) rstate.hwType
    enabled := .set params.enable
    channel := if params.channel = 0 then rstate.channel else .set params.channel
    txPower := Vif.setIfSome (hal.transmitPower.map (fun lval => max 1 (min 32 lval))) rstate.txPower
  }
  { rstate with
    country := setIfDecoded (countryStr params.countryCode) rstate.country
    htMode := setIfDecoded (strByKey mapHtmodeStr params.channelWidth) rstate.htMode
    hwMode := setIfDecoded (strByKey mapVariantStr (maxVariant params.variant)) rstate.hwMode
  }

/-- The rest of the columns, which `radio_state_get` can do without. -/
def setChannels (build : InitBuild) (hal : RadioAnswers) (caps : List RadioCap) (radioIndex : Nat)
    (dfs : Dfs) (rstate : RadioState) : RadioState :=
  let rstate := { updateChannelsMap hal rstate with
    radar := radarRow dfs
    mac := Vif.setIfSome (hal.macaddr.map build.macStr) rstate.mac
    allowedChannels := []
  }
  match getRadioCapIndex caps radioIndex with
  | none => rstate
  | some cap => updateZeroWaitDfs hal cap { rstate with allowedChannels := cap.channelList.flatten }

def radioStateGet (build : InitBuild) (hal : RadioAnswers) (radioIndex : Nat) (dfs : Dfs)
    (rstate : RadioState) : RadioState × Bool :=
  match hal.halCapability with
  | none => (rstate, false)
  | some caps =>
    let rstate : RadioState := default
    match hal.radioIfName with
    | none => (rstate, false)
    | some radioIfname =>
      let rstate := { rstate with ifName := .set (build.unmapIfname radioIfname) }
      match hal.operatingParameters with
      | none => (rstate, false)
      | some params =>
        (setChannels build hal caps radioIndex dfs (setOperation build hal params rstate), true)

def radioCopyConfigFromState (rstate : RadioState) : RadioConfig :=
  let rconf : RadioConfig := default
  { ifName := .set rstate.ifName.val
    freqBand := .set rstate.freqBand.val
    hwType := .set rstate.hwType.val
    enabled := .set rstate.enabled.val
    channel := .set rstate.channel.val
    txPower := .set rstate.txPower.val
    country := .set rstate.country.val
    htMode := .set rstate.htMode.val
    hwMode := .set rstate.hwMode.val
    zeroWaitDfs := rstate.zeroWaitDfs.copyIf rconf.zeroWaitDfs
  }

def initVap (build : InitBuild) (rconf : RadioConfig) (rstate : RadioState) (vap : InitVap)
    : List Pushed :=
  if vap.vapMode ≠ .ap then
    []
  else if ¬vapControlled build.toBuild vap.vapName then
    []
  else
    match vap.stateGet with
    | none => []
    | some vstate => [.vif (vifCopyToConfig vstate) rconf.ifName.val vstate rstate.ifName.val]

/-- The loop over the radios. The row of the state is the one of the last radio until it is cleared. -/
def initRadios (build : InitBuild) (hal : InitAnswers) (dfs : Dfs)
    : List Nat → RadioState → List Pushed → List Pushed × Bool
  | [], _, pushed => (pushed, true)
  | radioIndex :: radios, rstate, pushed =>
    let (rstate, got) := radioStateGet build (hal.radio radioIndex) radioIndex dfs rstate
    let rconf := radioCopyConfigFromState rstate
    let pushed := pushed ++ [.radio radioIndex got rconf rstate]
    match (hal.radio radioIndex).vapInfoMap with
    | none => (pushed, false)
    | some vaps =>
      initRadios build hal dfs radios rstate (pushed ++ vaps.flatMap (initVap build rconf rstate))

/-- `rstate` is what the row on the stack holds before it is first written. -/
def targetRadioConfigInit2 (build : InitBuild) (hal : InitAnswers) (dfs : Dfs) (rstate : RadioState)
    : List Pushed × Bool :=
  match hal.numRadios with
  | none => ([], false)
  | some rnum => initRadios build hal dfs (List.range rnum) rstate []

structure MirrorsRadio (rstate : RadioState) (rconf : RadioConfig) : Prop where
  enabled : rstate.enabled.Mirrors rconf.enabled
  channel : rstate.channel.Mirrors rconf.channel
  txPower : rstate.txPower.Mirrors rconf.txPower
  country : rstate.country.Mirrors rconf.country
  htMode : rstate.htMode.Mirrors rconf.htMode
  hwMode : rstate.hwMode.Mirrors rconf.hwMode
  zeroWaitDfs : rstate.zeroWaitDfs.Mirrors rconf.zeroWaitDfs

def Pushed.Real : Pushed → Prop
  | .radio _ got rconf rstate => got = true ∧ MirrorsRadio rstate rconf
  | .vif .. => True

structure RadioAnswers.Complete (hal : RadioAnswers) : Prop where
  halCapability : hal.halCapability.isSome
  radioIfName : hal.radioIfName.isSome
  operatingParameters : ∃ params, hal.operatingParameters = some params
    ∧ params.channel ≠ 0
    ∧ (countryStr params.countryCode).length ≠ 0
    ∧ (strByKey mapHtmodeStr params.channelWidth).length ≠ 0
  transmitPower : hal.transmitPower.isSome

/-- No map of an earlier radio is missing, at which `target_radio_config_init2` gives up. -/
def InitAnswers.Reached (hal : InitAnswers) (radioIndex : Nat) : Prop :=
  (∃ rnum, hal.numRadios = some rnum ∧ radioIndex < rnum)
    ∧ ∀ earlier < radioIndex, (hal.radio earlier).vapInfoMap.isSome

open Column (mirrors_set_iff mirrors_copyIf)

theorem mirrorsRadio_copy_iff (rstate : RadioState)
    : MirrorsRadio rstate (radioCopyConfigFromState rstate)
        ↔
      rstate.enabled.present = true
        ∧ rstate.channel.present = true
        ∧ rstate.txPower.present = true
        ∧ rstate.country.present = true
        ∧ rstate.htMode.present = true
        ∧ rstate.hwMode.present = true := by
  constructor
  . intro hmirrors
    refine ⟨?_, ?_, ?_, ?_, ?_, ?_⟩
    . exact (mirrors_set_iff _).mp hmirrors.enabled
    . exact (mirrors_set_iff _).mp hmirrors.channel
    . exact (mirrors_set_iff _).mp hmirrors.txPower
    . exact (mirrors_set_iff _).mp hmirrors.country
    . exact (mirrors_set_iff _).mp hmirrors.htMode
    . exact (mirrors_set_iff _).mp hmirrors.hwMode
  . intro ⟨henabled, hchannel, htxPower, hcountry, hhtMode, hhwMode⟩
    constructor
    case enabled => exact (mirrors_set_iff _).mpr henabled
    case channel => exact (mirrors_set_iff _).mpr hchannel
    case txPower => exact (mirrors_set_iff _).mpr htxPower
    case country => exact (mirrors_set_iff _).mpr hcountry
    case htMode => exact (mirrors_set_iff _).mpr hhtMode
    case hwMode => exact (mirrors_set_iff _).mpr hhwMode
    case zeroWaitDfs => exact mirrors_copyIf _

theorem updateZeroWaitDfs_mirrors_iff (hal : RadioAnswers) (cap : RadioCap) (rstate : RadioState)
    : MirrorsRadio (updateZeroWaitDfs hal cap rstate)
          (radioCopyConfigFromState (updateZeroWaitDfs hal cap rstate))
        ↔
      MirrorsRadio rstate (radioCopyConfigFromState rstate) := by
  rw [mirrorsRadio_copy_iff, mirrorsRadio_copy_iff]
  unfold updateZeroWaitDfs
  split
  . rfl
  . split
    . rfl
    . rfl

theorem updateChannelsMap_mirrors_iff (hal : RadioAnswers) (rstate : RadioState)
    : MirrorsRadio (updateChannelsMap hal rstate)
          (radioCopyConfigFromState (updateChannelsMap hal rstate))
        ↔
      MirrorsRadio rstate (radioCopyConfigFromState rstate) := by
  rw [mirrorsRadio_copy_iff, mirrorsRadio_copy_iff]
  unfold updateChannelsMap
  split
  . rfl
  . rfl

theorem setChannels_mirrors_iff (build : InitBuild) (hal : RadioAnswers) (caps : List RadioCap)
    (radioIndex : Nat) (dfs : Dfs) (rstate : RadioState)
    : MirrorsRadio (setChannels build hal caps radioIndex dfs rstate)
          (radioCopyConfigFromState (setChannels build hal caps radioIndex dfs rstate))
        ↔
      MirrorsRadio rstate (radioCopyConfigFromState rstate) := by
  rw [← updateChannelsMap_mirrors_iff hal rstate]
  unfold setChannels
  dsimp only
  split
  . rw [mirrorsRadio_copy_iff, mirrorsRadio_copy_iff]
  . rw [updateZeroWaitDfs_mirrors_iff, mirrorsRadio_copy_iff, mirrorsRadio_copy_iff]

theorem setIfDecoded_present (str : CStr) {column : Column CStr} (habsent : column.present = false)
    : (setIfDecoded str column).present = true ↔ str.length ≠ 0 := by
  unfold setIfDecoded
  split
  . next hnone => simp [hnone, habsent]
  . next hsome => simp [hsome, Column.set]

theorem mapVariantStr_total (variant : Variant)
    : (strByKey mapVariantStr variant).length ≠ 0 := by
  cases variant <;> decide

theorem setOperation_mirrors_iff (build : InitBuild) (hal : RadioAnswers) (params : OperationParam)
    (ifName : Column CStr)
    : let rstate := setOperation build hal params { (default : RadioState) with ifName }
      MirrorsRadio rstate (radioCopyConfigFromState rstate)
        ↔
      params.channel ≠ 0
        ∧ hal.transmitPower.isSome
        ∧ (countryStr params.countryCode).length ≠ 0
        ∧ (strByKey mapHtmodeStr params.channelWidth).length ≠ 0 := by
  intro rstate
  rw [mirrorsRadio_copy_iff]
  have henabled : rstate.enabled.present = true := rfl
  have hchannel : rstate.channel.present = true ↔ params.channel ≠ 0 := by
    show (if params.channel = 0 then _ else _ : Column Nat).present = true ↔ _
    split
    . next hzero =>
      simp only [hzero, ne_eq, not_true_eq_false, iff_false]
      exact Bool.false_ne_true
    . next hset => simp [hset, Column.set]
  have htxPower : rstate.txPower.present = true ↔ hal.transmitPower.isSome := by
    show (Vif.setIfSome (hal.transmitPower.map _) _).present = true ↔ _
    cases hal.transmitPower with
    | none =>
      simp only [Vif.setIfSome, Option.map_none, Option.isSome_none]
      rfl
    | some lval => simp [Vif.setIfSome, Column.set]
  have hcountry : rstate.country.present = true ↔ (countryStr params.countryCode).length ≠ 0 :=
    setIfDecoded_present _ rfl
  have hhtMode
      : rstate.htMode.present = true ↔ (strByKey mapHtmodeStr params.channelWidth).length ≠ 0 :=
    setIfDecoded_present _ rfl
  have hhwMode : rstate.hwMode.present = true :=
    (setIfDecoded_present _ rfl).mpr (mapVariantStr_total _)
  rw [hchannel, htxPower, hcountry, hhtMode]
  simp [henabled, hhwMode]

theorem not_real_of_failed {rstate : RadioState} {rconf : RadioConfig} {radioIndex : Nat}
    : ¬(Pushed.radio radioIndex false rconf rstate).Real := by
  intro ⟨hgot, _⟩
  contradiction

theorem radioStateGet_real_iff (build : InitBuild) (hal : RadioAnswers) (radioIndex : Nat) (dfs : Dfs)
    (rstate : RadioState)
    : let t := radioStateGet build hal radioIndex dfs rstate
      (Pushed.radio radioIndex t.2 (radioCopyConfigFromState t.1) t.1).Real ↔ hal.Complete := by
  dsimp only
  unfold radioStateGet
  split
  . next hcaps =>
    refine iff_of_false not_real_of_failed ?_
    intro hcomplete
    have := hcomplete.halCapability
    simp [hcaps] at this
  . next caps hcaps =>
    dsimp only
    split
    . next hname =>
      refine iff_of_false not_real_of_failed ?_
      intro hcomplete
      have := hcomplete.radioIfName
      simp [hname] at this
    . next radioIfname hname =>
      split
      . next hparams =>
        refine iff_of_false not_real_of_failed ?_
        intro hcomplete
        have ⟨params, hsome, _⟩ := hcomplete.operatingParameters
        rw [hparams] at hsome
        contradiction
      . next params hparams =>
        have hmirrors := (setChannels_mirrors_iff build hal caps radioIndex dfs _).trans
          (setOperation_mirrors_iff build hal params (.set (build.unmapIfname radioIfname)))
        constructor
        . intro ⟨_, hreal⟩
          have ⟨hchannel, htxPower, hcountry, hhtMode⟩ := hmirrors.mp hreal
          constructor
          case halCapability => simp [hcaps]
          case radioIfName => simp [hname]
          case operatingParameters => exact ⟨params, hparams, hchannel, hcountry, hhtMode⟩
          case transmitPower => exact htxPower
        . intro hcomplete
          have ⟨params', hsome, hchannel, hcountry, hhtMode⟩ := hcomplete.operatingParameters
          obtain rfl : params = params' := by
            rw [hparams] at hsome
            exact Option.some.inj hsome
          exact ⟨rfl, hmirrors.mpr ⟨hchannel, hcomplete.transmitPower, hcountry, hhtMode⟩⟩

theorem initVap_real {build : InitBuild} {rconf : RadioConfig} {rstate : RadioState} {vap : InitVap}
    : ∀ pushed ∈ initVap build rconf rstate vap, pushed.Real := by
  unfold initVap
  split
  . simp
  . split
    . simp
    . split
      . simp
      . simp [Pushed.Real]

theorem initRadios_real_iff (build : InitBuild) (hal : InitAnswers) (dfs : Dfs) (n : Nat)
    (first : Nat) (rstate : RadioState) (pushed : List Pushed)
    : (∀ p ∈ (initRadios build hal dfs (List.range' first n) rstate pushed).1, p.Real)
        ↔
      (∀ p ∈ pushed, p.Real)
        ∧ ∀ i, first ≤ i → i < first + n
          → (∀ earlier, first ≤ earlier → earlier < i → (hal.radio earlier).vapInfoMap.isSome)
          → (hal.radio i).Complete := by
  induction n generalizing first rstate pushed with
  | zero =>
    have hnone : ∀ i, first ≤ i → ¬i < first + 0 := by
      intro i hfirst
      omega
    constructor
    . intro hreal
      exact ⟨hreal, fun i hfirst hlast => absurd hlast (hnone i hfirst)⟩
    . exact And.left
  | succ n ih =>
    have hradio := radioStateGet_real_iff build (hal.radio first) first dfs rstate
    cases hmap : (hal.radio first).vapInfoMap with
    | none =>
      simp only [List.range'_succ, initRadios, hmap, List.forall_mem_append, List.forall_mem_singleton,
        hradio, and_congr_right_iff]
      intro _
      constructor
      . intro hcomplete i hfirst _ hearlier
        obtain rfl | hlt := Nat.eq_or_lt_of_le hfirst
        . exact hcomplete
        . have := hearlier first (Nat.le_refl first) hlt
          simp [hmap] at this
      . intro hall
        exact hall first (Nat.le_refl first) (by omega) (fun earlier _ _ => by omega)
    | some vaps =>
      simp only [List.range'_succ, initRadios, hmap]
      rw [ih]
      have hvaps : ∀ rconf rstate, ∀ p ∈ vaps.flatMap (initVap build rconf rstate), p.Real := by
        intro rconf rstate p hp
        rcases List.mem_flatMap.mp hp with ⟨vap, _, hvap⟩
        exact initVap_real p hvap
      simp only [List.forall_mem_append, List.forall_mem_singleton, hradio, and_assoc,
        and_congr_right_iff, iff_true_intro (hvaps _ _), true_and]
      intro _
      constructor
      . rintro ⟨hcomplete, hall⟩ i hfirst hlast hearlier
        obtain rfl | hlt := Nat.eq_or_lt_of_le hfirst
        . exact hcomplete
        . exact hall i hlt (by omega) (fun earlier hge hlt => hearlier earlier (by omega) hlt)
      . intro hall
        refine ⟨hall first (Nat.le_refl first) (by omega) (fun earlier _ _ => by omega), ?_⟩
        intro i hfirst hlast hearlier
        refine hall i (by omega) (by omega) ?_
        intro earlier hge hlt
        obtain rfl | hgt := Nat.eq_or_lt_of_le hge
        . simp [hmap]
        . exact hearlier earlier hgt hlt

theorem target_radio_config_init2_real_iff (build : InitBuild) (hal : InitAnswers) (dfs : Dfs)
    (rstate : RadioState)
    : (∀ p ∈ (targetRadioConfigInit2 build hal dfs rstate).1, p.Real)
        ↔
      ∀ radioIndex, hal.Reached radioIndex → (hal.radio radioIndex).Complete := by
  unfold targetRadioConfigInit2
  split
  . next hnum =>
    simp [InitAnswers.Reached, hnum]
  . next rnum hnum =>
    rw [List.range_eq_range', initRadios_real_iff]
    simp [InitAnswers.Reached, hnum]

def initBuild : InitBuild :=
  let unused : ApIfnames := { ap24 := [], ap50 := [], ap60 := [] }
  {
    controlAllVaps := true
    radio6gSupport := false
    home := unused
    bhaul := unused
    onboard := unused
    cPortal := unused
    fronthaul := unused
    chipset2g := cstr "bcm43684"
    chipset5g := cstr "bcm43684"
    chipset6g := []
    unmapIfname := id
    macStr := fun _ => []
  }

def silentRadio : RadioAnswers :=
  {
    halCapability := some []
    radioIfName := some (cstr "wifi0")
    operatingParameters := none
    transmitPower := none
    channelMap := none
    macaddr := none
    zeroDfsState := none
    vapInfoMap := some []
  }

def noRadar : Dfs :=
  { lastChannel := [], numDetected := [], radarTimestamp := 0, updates := [] }

theorem target_radio_config_init2_pushes_failed
    : ∃ rconf rstate,
        targetRadioConfigInit2 initBuild (.mk (some 1) (fun _ => silentRadio)) noRadar default
            = ([.radio 0 false rconf rstate], true)
          ∧ rstate.channel.toOption = none
          ∧ rconf.channel.toOption = some 0
          ∧ ¬(Pushed.radio 0 false rconf rstate).Real :=
  ⟨_, _, rfl, rfl, rfl, not_real_of_failed⟩

end Radio
end OpenSyncRdk
