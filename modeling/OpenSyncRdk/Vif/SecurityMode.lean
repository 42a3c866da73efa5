import OpenSyncRdk.Vif.Security

/-!
Which configurations `set_security` protects, and which it opens. The entries of `wpa_key_mgmt` are
matched by `strstr`, and every entry contains the empty string that stands for no key management.
-/

namespace OpenSyncRdk
namespace Vif

def namesMethod (entry : CStr) : Bool :=
  strstr entry (cstr "psk") || strstr entry (cstr "sae") || strstr entry (cstr "eap")

def Protects (vconf : SecurityConf) : Prop :=
  (∃ entry ∈ vconf.wpaKeyMgmt, strstr entry keyMgmtSae ∨ strstr entry keyMgmtWpaEap)
    ∨ (∃ entry ∈ vconf.wpaKeyMgmt, strstr entry keyMgmtWpaPsk)
      ∧ (vconf.wpaPairwiseTkip ∨ vconf.wpaPairwiseCcmp ∨ vconf.rsnPairwiseTkip
        ∨ vconf.rsnPairwiseCcmp)

instance : Decidable (Protects vconf) :=
  inferInstanceAs (Decidable ((_ : Prop) ∨ (_ : Prop) ∧ (_ : Prop)))

theorem securityWpaKeyMgmtMatch_iff (vconf : SecurityConf) (hsome : keyMgmt ≠ keyMgmtNone)
    : securityWpaKeyMgmtMatch vconf keyMgmt ↔ ∃ entry ∈ vconf.wpaKeyMgmt, strstr entry keyMgmt := by
  simp [securityWpaKeyMgmtMatch, hsome]

theorem securityWpaKeyMgmtMatch_none (vconf : SecurityConf)
    : securityWpaKeyMgmtMatch vconf keyMgmtNone = true := by
  unfold securityWpaKeyMgmtMatch
  cases hlist : vconf.wpaKeyMgmt with
  | nil => rfl
  | cons entry entries =>
    -- What names no method names every method: `strstr` finds the empty string in any entry.
    have hentry : strstr entry keyMgmtNone = true := strstr_nil entry
    simp [hentry]

theorem securityKeyMgmtOvsdbToHal_isSome (vconf : SecurityConf)
    : ∃ mode, securityKeyMgmtOvsdbToHal vconf = some mode := by
  unfold securityKeyMgmtOvsdbToHal
  rw [securityWpaKeyMgmtMatch_none]
  split
  . exact ⟨_, rfl⟩
  . split
    . exact ⟨_, rfl⟩
    . split
      . exact ⟨_, rfl⟩
      . split
        . split
          . exact ⟨_, rfl⟩
          . split
            . exact ⟨_, rfl⟩
            . split
              . exact ⟨_, rfl⟩
              . exact ⟨_, rfl⟩
        . exact ⟨_, rfl⟩

theorem protects_iff_match (vconf : SecurityConf)
    : Protects vconf
        ↔
      securityWpaKeyMgmtMatch vconf keyMgmtSae
        ∨ securityWpaKeyMgmtMatch vconf keyMgmtWpaEap
        ∨ (securityWpaKeyMgmtMatch vconf keyMgmtWpaPsk
          ∧ (vconf.wpaPairwiseTkip ∨ vconf.wpaPairwiseCcmp ∨ vconf.rsnPairwiseTkip
            ∨ vconf.rsnPairwiseCcmp)) := by
  rw [securityWpaKeyMgmtMatch_iff vconf (show keyMgmtSae ≠ keyMgmtNone by decide)]
  rw [securityWpaKeyMgmtMatch_iff vconf (show keyMgmtWpaEap ≠ keyMgmtNone by decide)]
  rw [securityWpaKeyMgmtMatch_iff vconf (show keyMgmtWpaPsk ≠ keyMgmtNone by decide)]
  unfold Protects
  simp only [and_or_left, exists_or, or_assoc]

theorem securityKeyMgmtOvsdbToHal_none_iff (vconf : SecurityConf)
    : securityKeyMgmtOvsdbToHal vconf = some .none ↔ ¬Protects vconf := by
  rw [protects_iff_match]
  unfold securityKeyMgmtOvsdbToHal
  rw [securityWpaKeyMgmtMatch_none]
  grind

theorem setSecurityExit_frame (build : Build) (ssidIndex : Int) (vconf : SecurityConf)
    (changed : SecurityFlags) (sendSync : Bool) (s : State)
    : (setSecurityExit build ssidIndex vconf changed sendSync s).security = s.security
        ∧ (setSecurityExit build ssidIndex vconf changed sendSync s).triggerReconfig
          =
        s.triggerReconfig := by
  unfold setSecurityExit
  split
  . exact ⟨rfl, rfl⟩
  . exact ⟨rfl, rfl⟩

theorem setPassword_frame (build : Build) (ssidIndex : Int) (vconf : SecurityConf) (pushOk : Bool)
    (s : State)
    : (setPassword build ssidIndex vconf pushOk s).1.security.mode = s.security.mode
        ∧ (setPassword build ssidIndex vconf pushOk s).1.security.mfp = s.security.mfp
        ∧ (setPassword build ssidIndex vconf pushOk s).1.triggerReconfig = s.triggerReconfig := by
  unfold setPassword
  dsimp only
  split
  . exact ⟨rfl, rfl, rfl⟩
  . exact ⟨rfl, rfl, rfl⟩

theorem setSecurityPsks_frame (build : Build) (ssidIndex : Int) (vconf : SecurityConf)
    (changed : SecurityFlags) (pushOk sendSync : Bool) (s : State)
    : let t := setSecurityPsks build ssidIndex vconf changed pushOk sendSync s
      t.security.mode = s.security.mode
        ∧ t.security.mfp = s.security.mfp
        ∧ (s.triggerReconfig = true → t.triggerReconfig = true) := by
  have ⟨hmode, hmfp, htrigger⟩ := setPassword_frame build ssidIndex vconf pushOk s
  unfold setSecurityPsks
  dsimp only
  split
  . split
    . next t hpass =>
      rw [hpass] at hmode hmfp htrigger
      have ⟨hsecurity, hexit⟩ := setSecurityExit_frame build ssidIndex vconf changed sendSync t
      rw [hsecurity, hexit, htrigger]
      exact ⟨hmode, hmfp, id⟩
    . next t hpass =>
      rw [hpass] at hmode hmfp
      have ⟨hsecurity, hexit⟩ := setSecurityExit_frame build ssidIndex vconf changed true
        { t with triggerReconfig := true }
      rw [hsecurity, hexit]
      exact ⟨hmode, hmfp, fun _ => rfl⟩
  . have ⟨hsecurity, hexit⟩ := setSecurityExit_frame build ssidIndex vconf changed sendSync s
    rw [hsecurity, hexit]
    exact ⟨rfl, rfl, id⟩

section

variable (build : Build) (ssidIndex : Int) {vconf : SecurityConf} {changed : SecurityFlags}
  (pushOk : Bool) (s : State)

theorem setSecurity_off (hwpa : changed.wpa = true) (hoff : vconf.wpa = 0)
    : let t := setSecurity build ssidIndex vconf changed pushOk s
      t.security.mode = .none ∧ t.security.mfp = s.security.mfp ∧ t.triggerReconfig = true := by
  have ⟨hsecurity, htrigger⟩ := setSecurityExit_frame build ssidIndex vconf changed true
    { s with security := { s.security with mode := .none }, triggerReconfig := true }
  simp only [setSecurity, hwpa, hoff, and_self, ↓reduceIte]
  rw [hsecurity, htrigger]
  exact ⟨rfl, rfl, rfl⟩

theorem setSecurity_decodes (hon : ¬(changed.wpa = true ∧ vconf.wpa = 0))
    (hdecodes : changed.decodes = true) (hmode : securityKeyMgmtOvsdbToHal vconf = some mode)
    : let t := setSecurity build ssidIndex vconf changed pushOk s
      t.security.mode = mode ∧ t.security.mfp = mfpOf vconf.pmf ∧ t.triggerReconfig = true := by
  have ⟨hsets, hmfp, htrigger⟩ := setSecurityPsks_frame build ssidIndex vconf changed pushOk true
    { s with
      security := { s.security with mode := mode, mfp := mfpOf vconf.pmf }
      triggerReconfig := true
    }
  simp only [setSecurity, hon, hdecodes, hmode, ↓reduceIte]
  exact ⟨hsets, hmfp, htrigger rfl⟩

theorem setSecurity_keeps (hon : ¬(changed.wpa = true ∧ vconf.wpa = 0))
    (hdecodes : changed.decodes = false)
    : let t := setSecurity build ssidIndex vconf changed pushOk s
      t.security.mode = s.security.mode ∧ t.security.mfp = s.security.mfp := by
  have ⟨hmode, hmfp, _⟩ := setSecurityPsks_frame build ssidIndex vconf changed pushOk false s
  simp only [setSecurity, hon, hdecodes, Bool.false_eq_true, ↓reduceIte]
  exact ⟨hmode, hmfp⟩

end

theorem setSecurity_mode_iff (build : Build) (ssidIndex : Int) (vconf : SecurityConf)
    (changed : SecurityFlags) (pushOk : Bool) (s : State) (hwpa : vconf.wpa ≠ 0)
    (hdecodes : changed.decodes = true)
    : let t := setSecurity build ssidIndex vconf changed pushOk s
      t.triggerReconfig = true ∧ (t.security.mode ≠ .none ↔ Protects vconf) := by
  have ⟨mode, hmode⟩ := securityKeyMgmtOvsdbToHal_isSome vconf
  have hon : ¬(changed.wpa = true ∧ vconf.wpa = 0) := by
    rintro ⟨_, hoff⟩
    exact hwpa hoff
  have ⟨hsets, _, htrigger⟩ := setSecurity_decodes build ssidIndex pushOk s hon hdecodes hmode
  refine ⟨htrigger, ?_⟩
  rw [hsets]
  have hnone := securityKeyMgmtOvsdbToHal_none_iff vconf
  rw [hmode, Option.some.injEq] at hnone
  rw [ne_eq, hnone, Decidable.not_not]

def SecurityFlags.all : SecurityFlags :=
  { wpa := true
    wpaKeyMgmt := true
    wpaPairwiseTkip := true
    wpaPairwiseCcmp := true
    rsnPairwiseTkip := true
    rsnPairwiseCcmp := true
    pmf := true
    wpaPsks := true
  }

theorem setSecurity_mode_iff_wpa2
    : let build := { multiPsk := false, disableSync := false, keySize := 65, keyIdSize := 64, pskSize := 65 }
      let vconf : SecurityConf :=
        { ifName := cstr "wl0", wpa := 1, wpaKeyMgmt := [cstr "wpa-psk"], wpaPairwiseTkip := false
          wpaPairwiseCcmp := false, rsnPairwiseTkip := false, rsnPairwiseCcmp := true, pmf := []
          wpaPsks := [(cstr "key", cstr "a passphrase")] }
      let s : State :=
        { security := { mode := .none, mfp := .disabled, key := [] }, triggerReconfig := false
          cachedKeyIds := fun _ => cstr "key", pushed := [], synced := [] }
      (setSecurity build 0 vconf .all true s).security.mode ≠ .none := by
  intro build vconf s
  apply (setSecurity_mode_iff build 0 vconf .all true s (by decide) (by decide)).2.mpr
  decide +kernel

theorem setSecurity_opens_psk
    : ¬∀ (build : Build) (ssidIndex : Int) (vconf : SecurityConf) (changed : SecurityFlags)
        (pushOk : Bool) (s : State),
        vconf.wpa ≠ 0
          → (∃ entry ∈ vconf.wpaKeyMgmt, namesMethod entry)
          → changed.decodes = true
          → (setSecurity build ssidIndex vconf changed pushOk s).security.mode ≠ .none := by
  intro hall
  have hmode := hall
    { multiPsk := false, disableSync := false, keySize := 65, keyIdSize := 64, pskSize := 65 } 0
    { ifName := cstr "wl0", wpa := 1, wpaKeyMgmt := [cstr "wpa-psk"], wpaPairwiseTkip := false
      wpaPairwiseCcmp := false, rsnPairwiseTkip := false, rsnPairwiseCcmp := false, pmf := []
      wpaPsks := [(cstr "key", cstr "a passphrase")] }
    .all true
    { security := { mode := .wpa2Personal, mfp := .disabled, key := [] }, triggerReconfig := false
      cachedKeyIds := fun _ => cstr "key", pushed := [], synced := [] }
    (by decide) (by decide +kernel) (by decide)
  exact absurd hmode (by decide +kernel)

end Vif
end OpenSyncRdk
