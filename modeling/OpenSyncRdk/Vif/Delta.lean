import OpenSyncRdk.Vif.SecurityMode

/-!
A VAP gets one configuration after another, and each time only what changed is applied. What is then
in the HAL is compared with what the latest configuration would lead to by itself. `configSet` is the
part of `target_vif_config_set2` that is about security: the settings are fetched from the HAL, and go
back there if `set_security` says so.
-/

namespace OpenSyncRdk
namespace Vif

def diff (last vconf : SecurityConf) : SecurityFlags :=
  { wpa := decide (last.wpa ≠ vconf.wpa)
    wpaKeyMgmt := decide (last.wpaKeyMgmt ≠ vconf.wpaKeyMgmt)
    wpaPairwiseTkip := decide (last.wpaPairwiseTkip ≠ vconf.wpaPairwiseTkip)
    wpaPairwiseCcmp := decide (last.wpaPairwiseCcmp ≠ vconf.wpaPairwiseCcmp)
    rsnPairwiseTkip := decide (last.rsnPairwiseTkip ≠ vconf.rsnPairwiseTkip)
    rsnPairwiseCcmp := decide (last.rsnPairwiseCcmp ≠ vconf.rsnPairwiseCcmp)
    pmf := decide (last.pmf ≠ vconf.pmf)
    wpaPsks := decide (last.wpaPsks ≠ vconf.wpaPsks)
  }

structure Vap where
  last : Option SecurityConf
  hal : Security
  cachedKeyIds : Int → CStr
  pushed : List (Int × List (CStr × CStr))
  synced : List MeshWifiAPSecurity

def configSet (build : Build) (ssidIndex : Int) (vap : Vap) (vconf : SecurityConf)
    (changed : SecurityFlags) (pushOk : Bool) : Vap :=
  let s := setSecurity build ssidIndex vconf changed pushOk
    { security := vap.hal
      triggerReconfig := false
      cachedKeyIds := vap.cachedKeyIds
      pushed := vap.pushed
      synced := vap.synced
    }
  { last := some vconf
    hal := if s.triggerReconfig then s.security else vap.hal
    cachedKeyIds := s.cachedKeyIds
    pushed := s.pushed
    synced := s.synced
  }

def Vap.toState (vap : Vap) : State :=
  { security := vap.hal
    triggerReconfig := false
    cachedKeyIds := vap.cachedKeyIds
    pushed := vap.pushed
    synced := vap.synced
  }

structure Config where
  vconf : SecurityConf
  pushOk : Bool

def configStep (build : Build) (ssidIndex : Int) (vap : Vap) (config : Config) : Option Vap :=
  let changed :=
    match vap.last with
    | none => .all
    | some last => diff last config.vconf
  some (configSet build ssidIndex vap config.vconf changed config.pushOk)

def AsConfigured (vconf : SecurityConf) (hal : Security) : Prop :=
  (vconf.wpa = 0 → hal.mode = .none)
    ∧ (vconf.wpa ≠ 0
      → securityKeyMgmtOvsdbToHal vconf = some hal.mode ∧ hal.mfp = mfpOf vconf.pmf)

def Applied (vap : Vap) : Prop :=
  ∀ vconf, vap.last = some vconf → AsConfigured vconf vap.hal

/-- The steps that apply their configuration. Those that do not either change an unprotected VAP's
other settings so that they would protect it, or turn WPA on without changing any of them. -/
def Applies (vap : Vap) (config : Config) : Prop :=
  ∀ last, vap.last = some last → last.wpa = 0
    → (config.vconf.wpa = 0 → (diff last config.vconf).decodes = true → ¬Protects config.vconf)
      ∧ (config.vconf.wpa ≠ 0 → (diff last config.vconf).decodes = false
        → ¬Protects config.vconf ∧ vap.hal.mfp = mfpOf config.vconf.pmf)

section

variable (build : Build) (ssidIndex : Int) (vap : Vap) {vconf : SecurityConf}
  {changed : SecurityFlags} (pushOk : Bool)

theorem configSet_hal
    : (configSet build ssidIndex vap vconf changed pushOk).hal
        =
      if (setSecurity build ssidIndex vconf changed pushOk vap.toState).triggerReconfig then
        (setSecurity build ssidIndex vconf changed pushOk vap.toState).security
      else
        vap.hal := by
  rfl

theorem configSet_off (hwpa : changed.wpa = true) (hoff : vconf.wpa = 0)
    : (configSet build ssidIndex vap vconf changed pushOk).hal.mode = .none := by
  rw [configSet_hal]
  have ⟨hmode, _, htrigger⟩ := setSecurity_off build ssidIndex pushOk vap.toState hwpa hoff
  rw [htrigger]
  exact hmode

theorem configSet_decodes (hon : ¬(changed.wpa = true ∧ vconf.wpa = 0))
    (hdecodes : changed.decodes = true) (hmode : securityKeyMgmtOvsdbToHal vconf = some mode)
    : (configSet build ssidIndex vap vconf changed pushOk).hal.mode = mode
        ∧ (configSet build ssidIndex vap vconf changed pushOk).hal.mfp = mfpOf vconf.pmf := by
  rw [configSet_hal]
  have ⟨hsets, hmfp, htrigger⟩ := setSecurity_decodes build ssidIndex pushOk vap.toState hon hdecodes hmode
  rw [htrigger]
  exact ⟨hsets, hmfp⟩

theorem configSet_keeps (hon : ¬(changed.wpa = true ∧ vconf.wpa = 0))
    (hdecodes : changed.decodes = false)
    : (configSet build ssidIndex vap vconf changed pushOk).hal.mode = vap.hal.mode
        ∧ (configSet build ssidIndex vap vconf changed pushOk).hal.mfp = vap.hal.mfp := by
  rw [configSet_hal]
  have ⟨hmode, hmfp⟩ := setSecurity_keeps build ssidIndex pushOk vap.toState hon hdecodes
  split
  . exact ⟨hmode, hmfp⟩
  . exact ⟨rfl, rfl⟩

end

theorem eq_of_not_decodes (hdecodes : (diff last vconf).decodes = false)
    : securityKeyMgmtOvsdbToHal last = securityKeyMgmtOvsdbToHal vconf ∧ last.pmf = vconf.pmf := by
  simp only [diff, SecurityFlags.decodes, Bool.or_eq_false_iff, decide_eq_false_iff_not, ne_eq,
    Decidable.not_not] at hdecodes
  rcases hdecodes with ⟨⟨⟨⟨⟨hmgmt, h1⟩, h2⟩, h3⟩, h4⟩, hpmf⟩
  refine ⟨?_, hpmf⟩
  simp only [securityKeyMgmtOvsdbToHal, securityWpaKeyMgmtMatch, hmgmt, h1, h2, h3, h4]

theorem applied_configSet_iff (build : Build) (ssidIndex : Int) (vap : Vap) (vconf : SecurityConf)
    (changed : SecurityFlags) (pushOk : Bool)
    : Applied (configSet build ssidIndex vap vconf changed pushOk)
        ↔
      AsConfigured vconf (configSet build ssidIndex vap vconf changed pushOk).hal := by
  constructor
  . intro happlied
    exact happlied vconf rfl
  . intro hconfigured other hlast
    injection hlast with hlast
    rw [← hlast]
    exact hconfigured

theorem applied_configSet_all (build : Build) (ssidIndex : Int) (vap : Vap) (vconf : SecurityConf)
    (pushOk : Bool)
    : Applied (configSet build ssidIndex vap vconf .all pushOk) := by
  rw [applied_configSet_iff]
  by_cases hoff : vconf.wpa = 0
  . have hsets := configSet_off build ssidIndex vap pushOk (show SecurityFlags.all.wpa from rfl) hoff
    exact ⟨fun _ => hsets, fun hon => absurd hoff hon⟩
  . have ⟨mode, hmode⟩ := securityKeyMgmtOvsdbToHal_isSome vconf
    have hon : ¬(SecurityFlags.all.wpa = true ∧ vconf.wpa = 0) := by
      simp [hoff]
    have ⟨hsets, hmfp⟩ := configSet_decodes build ssidIndex vap pushOk hon rfl hmode
    refine ⟨fun hoff' => absurd hoff' hoff, ?_⟩
    intro _
    rw [hsets, hmode]
    exact ⟨rfl, hmfp⟩

theorem applied_configSet_diff_iff (build : Build) (ssidIndex : Int) (vap : Vap)
    (last vconf : SecurityConf) (pushOk : Bool) (hlast : AsConfigured last vap.hal)
    : Applied (configSet build ssidIndex vap vconf (diff last vconf) pushOk)
        ↔
      (last.wpa = 0
        → (vconf.wpa = 0 → (diff last vconf).decodes = true → ¬Protects vconf)
          ∧ (vconf.wpa ≠ 0 → (diff last vconf).decodes = false
            → ¬Protects vconf ∧ vap.hal.mfp = mfpOf vconf.pmf)) := by
  have ⟨mode, hmode⟩ := securityKeyMgmtOvsdbToHal_isSome vconf
  rw [applied_configSet_iff]
  rw [← securityKeyMgmtOvsdbToHal_none_iff]
  unfold AsConfigured at *
  by_cases hturns : (diff last vconf).wpa = true ∧ vconf.wpa = 0
  . -- WPA is turned off, so it was on before.
    have hwas : last.wpa ≠ 0 := by
      have hdiffers := hturns.1
      rw [diff, decide_eq_true_eq, hturns.2] at hdiffers
      exact hdiffers
    rw [configSet_off build ssidIndex vap pushOk hturns.1 hturns.2]
    simp [hturns.2, hwas]
  . have hwas : vconf.wpa = 0 → last.wpa = 0 := by
      intro hoff
      apply Decidable.byContradiction
      intro hon
      apply hturns
      simp [diff, hoff, hon]
    cases hdecodes : (diff last vconf).decodes with
    | true =>
      -- The mode of `vconf` is set, also where WPA is off and stays off.
      have ⟨hsets, hmfp⟩ := configSet_decodes build ssidIndex vap pushOk hturns hdecodes hmode
      rw [hsets, hmfp, hmode]
      grind
    | false =>
      -- The HAL keeps what `last` left there, which is wrong where WPA is turned on.
      have ⟨hsets, hmfp⟩ := configSet_keeps build ssidIndex vap pushOk hturns hdecodes
      have ⟨hsame, hpmf⟩ := eq_of_not_decodes hdecodes
      rw [hsets, hmfp]
      rw [hsame, hpmf] at hlast
      grind

theorem configStep_applied_iff (build : Build) (ssidIndex : Int) (vap : Vap) (config : Config)
    (hs : Applied vap)
    : (∃ t, configStep build ssidIndex vap config = some t ∧ Applied t) ↔ Applies vap config := by
  unfold configStep Applies
  simp only [Option.some.injEq, exists_eq_left']
  cases hlast : vap.last with
  | none =>
    constructor
    . intro _ last hnone
      contradiction
    . intro _
      apply applied_configSet_all build ssidIndex vap config.vconf config.pushOk
  | some last =>
    dsimp only
    rw [applied_configSet_diff_iff build ssidIndex vap last config.vconf config.pushOk
      (hs last hlast)]
    simp only [Option.some.injEq, forall_eq']

theorem applied_iff_applies (build : Build) (ssidIndex : Int) (hal : Security)
    (cachedKeyIds : Int → CStr) (configs : List Config)
    : let vap := { last := none, hal, cachedKeyIds, pushed := [], synced := [] }
      Machine.Always (configStep build ssidIndex) Applied vap configs
        ↔
      Machine.AllSteps (configStep build ssidIndex) Applies vap configs := by
  apply Machine.always_iff_allSteps
  . intro vap config hs
    apply configStep_applied_iff build ssidIndex vap config hs
  . intro vconf hlast
    contradiction

theorem not_applied_off_on
    : let build := { multiPsk := false, disableSync := false, keySize := 65, keyIdSize := 64, pskSize := 65 }
      let vconf : SecurityConf :=
        { ifName := cstr "wl0", wpa := 1, wpaKeyMgmt := [cstr "sae"], wpaPairwiseTkip := false
          wpaPairwiseCcmp := false, rsnPairwiseTkip := false, rsnPairwiseCcmp := true
          pmf := cstr "required", wpaPsks := [(cstr "key", cstr "a passphrase")] }
      ¬Machine.Always (configStep build 0) Applied
        { last := none, hal := { mode := .none, mfp := .disabled, key := [] }
          cachedKeyIds := fun _ => cstr "key", pushed := [], synced := [] }
        [⟨vconf, true⟩, ⟨{ vconf with wpa := 0 }, true⟩, ⟨vconf, true⟩] := by
  intro build vconf halways
  have ⟨t, ht, happlied⟩ := halways _ List.prefix_rfl
  have hmode : t.last = some vconf ∧ t.hal.mode = .none := by
    injection ht with ht
    rw [← ht]
    decide +kernel
  have hconfigured := ((happlied vconf hmode.1).2 (by decide)).1
  rw [hmode.2, securityKeyMgmtOvsdbToHal_none_iff] at hconfigured
  exact absurd hconfigured (by decide +kernel)

end Vif
end OpenSyncRdk
