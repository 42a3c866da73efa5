import OpenSyncRdk.Clients.Reconcile

/-!
The resync of all radios and VAPs with the wifi HAL, `radio.c`. A `Hal` holds what the HAL answers
while the resync runs; `radioResync` and `vapResync` are the bodies of the two loops of
`radio_resync_all_task`. What `radio_state_update` and `vif_state_update` report is left out but for
the index that they report on.
-/

namespace OpenSyncRdk
namespace Radio

open Clients (KeyIds MacAddr Answers macs)

structure ApIfnames where
  ap24 : CStr
  ap50 : CStr
  ap60 : CStr

structure Build where
  controlAllVaps : Bool
  radio6gSupport : Bool
  home : ApIfnames
  bhaul : ApIfnames
  onboard : ApIfnames
  cPortal : ApIfnames
  fronthaul : ApIfnames

def vapControlled (build : Build) (ifname : CStr) : Bool :=
  if build.controlAllVaps then
    true
  else
    let names := [build.home, build.bhaul, build.onboard, build.cPortal, build.fronthaul]
    names.any (fun name => ifname = name.ap24 ∨ ifname = name.ap50)
      || (build.radio6gSupport && names.any (fun name => ifname = name.ap60))

structure VapInfo where
  vapIndex : Nat
  vapName : CStr
  enabled : Bool

structure Hal where
  numRadios : Option Nat
  radioIfName : Nat → Bool
  radioOperatingParameters : Nat → Bool
  vapInfoMap : Nat → Option (List VapInfo)
  associated : Int → Option (List MacAddr)

structure State where
  clients : Clients.State
  radioUpdates : List Nat
  vifUpdates : List Nat
  resyncOngoing : Bool

def radioStateUpdate (hal : Hal) (s : State) (radioIndex : Nat) : State × Bool :=
  if hal.numRadios.isSome ∧ hal.radioIfName radioIndex ∧ hal.radioOperatingParameters radioIndex then
    ({ s with radioUpdates := s.radioUpdates ++ [radioIndex] }, true)
  else
    (s, false)

def vapResync (build : Build) (env : Clients.Env) (keyIds : KeyIds) (hal : Hal) (s : State)
    (vap : VapInfo) : State :=
  if ¬vapControlled build vap.vapName then
    s
  else if ¬vap.enabled then
    s
  else
    let env := { env with associated := fun _ => hal.associated vap.vapIndex }
    { s with
      clients := (Clients.halFetchExisting env keyIds s.clients vap.vapIndex).1
      vifUpdates := s.vifUpdates ++ [vap.vapIndex]
    }

def radioResync (build : Build) (env : Clients.Env) (keyIds : KeyIds) (hal : Hal)
    : List Nat → State → State
  | [], s => s
  | radio :: radios, s =>
    match radioStateUpdate hal s radio with
    | (s, false) => radioResync build env keyIds hal radios s
    | (s, true) =>
      match hal.vapInfoMap radio with
      | none => s
      | some vaps =>
        radioResync build env keyIds hal radios (vaps.foldl (vapResync build env keyIds hal) s)

def radioResyncAllTask (build : Build) (env : Clients.Env) (keyIds : KeyIds) (hal : Hal) (s : State)
    : State :=
  match hal.numRadios with
  | none => { s with resyncOngoing := false }
  | some numRadios =>
    { radioResync build env keyIds hal (List.range numRadios) s with resyncOngoing := false }

def tracked (s : State) : CStr → Option Int :=
  Clients.tracked s.clients

structure Hal.Answers (hal : Hal) (numRadios : Nat) (vaps : Nat → List VapInfo)
    (assoc : Int → List MacAddr) : Prop where
  numRadios : hal.numRadios = some numRadios
  radioIfName : ∀ radio, hal.radioIfName radio = true
  radioOperatingParameters : ∀ radio, hal.radioOperatingParameters radio = true
  vapInfoMap : ∀ radio, hal.vapInfoMap radio = some (vaps radio)
  associated : ∀ index, hal.associated index = some (assoc index)

def resynced (build : Build) (vap : VapInfo) : Set Int :=
  {index | vapControlled build vap.vapName ∧ vap.enabled ∧ index = vap.vapIndex}

section

variable (build : Build) {env : Clients.Env} {hal : Hal} {numRadios : Nat} {vaps : Nat → List VapInfo}
  {assoc : Int → List MacAddr}

theorem vapResync_settled (hok : Answers env) (hhal : hal.Answers numRadios vaps assoc)
    (keyIds : KeyIds) (s : State) (vap : VapInfo)
    : Settled (fun index => macs (assoc index)) (resynced build vap) (tracked s)
        (tracked (vapResync build env keyIds hal s vap)) := by
  unfold vapResync
  split
  . next hcontrolled =>
    have hnone : resynced build vap = ∅ := by
      simp [resynced, hcontrolled]
    rw [hnone]
    apply Settled.empty
  . next hcontrolled =>
    split
    . next henabled =>
      have hnone : resynced build vap = ∅ := by
        simp [resynced, henabled]
      rw [hnone]
      apply Settled.empty
    . next henabled =>
      have hone : resynced build vap = {(vap.vapIndex : Int)} := by
        ext index
        simp only [Decidable.not_not] at hcontrolled henabled
        simp [resynced, hcontrolled, henabled]
      rw [hone]
      apply Clients.halFetchExisting_settled
      . exact ⟨hok.singlePsk, hok.apName⟩
      . apply hhal.associated

theorem radioResync_settled (hok : Answers env) (hhal : hal.Answers numRadios vaps assoc)
    (hdisj : ∀ p q mac, mac ∈ macs (assoc p) → mac ∈ macs (assoc q) → p = q) (keyIds : KeyIds)
    (radios : List Nat) (s : State)
    : Settled (fun index => macs (assoc index))
        (⋃ radio ∈ radios, ⋃ vap ∈ vaps radio, resynced build vap) (tracked s)
        (tracked (radioResync build env keyIds hal radios s)) := by
  induction radios generalizing s with
  | nil =>
    simp only [List.not_mem_nil, Set.iUnion_of_empty, Set.iUnion_empty]
    apply Settled.empty
  | cons radio radios ih =>
    have hunion : (⋃ other ∈ radio :: radios, ⋃ vap ∈ vaps other, resynced build vap)
        = (⋃ vap ∈ vaps radio, resynced build vap)
          ∪ ⋃ other ∈ radios, ⋃ vap ∈ vaps other, resynced build vap := by
      ext index
      simp
    rw [hunion]
    simp only [radioResync, radioStateUpdate, hhal.numRadios, hhal.radioIfName,
      hhal.radioOperatingParameters, hhal.vapInfoMap, Option.isSome_some, and_self, ↓reduceIte]
    apply Settled.union hdisj _ (ih _)
    have hstart : tracked s = tracked { s with radioUpdates := s.radioUpdates ++ [radio] } := rfl
    rw [hstart]
    apply Settled.foldl hdisj
    intro s vap _
    apply vapResync_settled build hok hhal

theorem radioResyncAllTask_tracked (hok : Answers env)
    (hhal : hal.Answers numRadios vaps assoc)
    (hdisj : ∀ p q mac, mac ∈ macs (assoc p) → mac ∈ macs (assoc q) → p = q) (keyIds : KeyIds)
    (s : State) (mac : CStr) (index : Int)
    : let resyncs := fun index => ∃ radio < numRadios, ∃ vap ∈ vaps radio, index ∈ resynced build vap
      tracked (radioResyncAllTask build env keyIds hal s) mac = some index
          ↔
        (resyncs index ∧ mac ∈ macs (assoc index))
          ∨ (¬resyncs index ∧ tracked s mac = some index
            ∧ ∀ other, resyncs other → mac ∉ macs (assoc other)) := by
  intro resyncs
  have hsettled := radioResync_settled build hok hhal hdisj keyIds (List.range numRadios) s mac index
  have hplaces : ∀ other, other ∈ (⋃ radio ∈ List.range numRadios, ⋃ vap ∈ vaps radio,
      resynced build vap) ↔ resyncs other := by
    intro other
    simp [resyncs]
  simp only [hplaces] at hsettled
  unfold radioResyncAllTask
  rw [hhal.numRadios]
  exact hsettled

end

def home : Build :=
  let names : ApIfnames := { ap24 := cstr "ath0", ap50 := cstr "ath1", ap60 := [] }
  { controlAllVaps := false, radio6gSupport := false, home := names, bhaul := names
    onboard := names, cPortal := names, fronthaul := names }

def quietEnv : Clients.Env :=
  { multiPsk := false, unmapIfname := id, apName := fun _ => cstr "ath0"
    apNameFails := fun _ => false, securityMode := fun _ => none, multiPskKey := fun _ => none
    associated := fun _ => none }

def oneVap (enabled : Bool) (devices : List MacAddr) : Hal :=
  { numRadios := some 1, radioIfName := fun _ => true, radioOperatingParameters := fun _ => true
    vapInfoMap := fun _ => some [{ vapIndex := 0, vapName := cstr "ath0", enabled }]
    associated := fun index => some (if index = 0 then devices else []) }

def connectedTo (mac : MacAddr) (apIndex : Int) : State :=
  { clients := { connected := (∅ : Clients.Table).insert mac.lower { keyId := cstr "key", apIndex }
                 calls := 0, reports := [] }
    radioUpdates := [], vifUpdates := [], resyncOngoing := true }

theorem radioResyncAllTask_tracked_moved
    : let mac : MacAddr := ⟨2, 0, 0, 0, 0, 1⟩
      tracked (radioResyncAllTask home quietEnv (fun _ => cstr "key") (oneVap true [mac])
        (connectedTo mac 1)) mac.lower = some 0 := by
  intro mac
  have hdisj : ∀ (p q : Int) key, key ∈ macs (if p = 0 then [mac] else [])
      → key ∈ macs (if q = 0 then [mac] else []) → p = q := by
    intro p q key hp hq
    by_cases hp0 : p = 0
    . by_cases hq0 : q = 0
      . rw [hp0, hq0]
      . simp [macs, hq0] at hq
    . simp [macs, hp0] at hp
  have hok : Answers quietEnv := ⟨rfl, fun _ => rfl⟩
  have hhal : (oneVap true [mac]).Answers 1 (fun _ => [⟨0, cstr "ath0", true⟩])
      (fun index => if index = 0 then [mac] else []) :=
    ⟨rfl, fun _ => rfl, fun _ => rfl, fun _ => rfl, fun _ => rfl⟩
  have htracked := radioResyncAllTask_tracked home hok hhal hdisj (fun _ => cstr "key")
    (connectedTo mac 1) mac.lower 0
  apply htracked.mpr
  apply Or.inl
  constructor
  . exact ⟨0, by decide, _, List.mem_singleton_self _, by decide, rfl, rfl⟩
  . simp [macs]

theorem not_radioResyncAllTask_exact
    : ¬∀ (build : Build) (env : Clients.Env) (hal : Hal) (numRadios : Nat)
        (vaps : Nat → List VapInfo) (assoc : Int → List MacAddr) (keyIds : KeyIds) (s : State),
        Answers env
          → hal.Answers numRadios vaps assoc
          → (((List.range numRadios).flatMap vaps).map VapInfo.vapName).Nodup
          → (∀ p q mac, mac ∈ macs (assoc p) → mac ∈ macs (assoc q) → p = q)
          → ∀ radio < numRadios, ∀ vap ∈ vaps radio, vapControlled build vap.vapName
          → ∀ mac, tracked (radioResyncAllTask build env keyIds hal s) mac = some (vap.vapIndex : Int)
              ↔
            vap.enabled ∧ mac ∈ macs (assoc vap.vapIndex) := by
  intro hall
  have hexact := hall home quietEnv (oneVap false []) 1 (fun _ => [⟨0, cstr "ath0", false⟩])
    (fun _ => []) (fun _ => cstr "key") (connectedTo ⟨2, 0, 0, 0, 0, 1⟩ 0) ⟨rfl, fun _ => rfl⟩
    ⟨rfl, fun _ => rfl, fun _ => rfl, fun _ => rfl, fun _ => by simp [oneVap]⟩ (by decide)
    (by simp [macs]) 0 (by decide) _ (List.mem_singleton_self _) (by decide)
    (MacAddr.lower ⟨2, 0, 0, 0, 0, 1⟩)
  have hstays : tracked (radioResyncAllTask home quietEnv (fun _ => cstr "key") (oneVap false [])
      (connectedTo ⟨2, 0, 0, 0, 0, 1⟩ 0)) (MacAddr.lower ⟨2, 0, 0, 0, 0, 1⟩) = some 0 := by
    have hsame : (radioResyncAllTask home quietEnv (fun _ => cstr "key") (oneVap false [])
        (connectedTo ⟨2, 0, 0, 0, 0, 1⟩ 0)).clients = (connectedTo ⟨2, 0, 0, 0, 0, 1⟩ 0).clients := rfl
    unfold tracked
    rw [hsame]
    simp [Clients.tracked, connectedTo]
  have hnot := (hexact.mp hstays).1
  contradiction

end Radio
end OpenSyncRdk
