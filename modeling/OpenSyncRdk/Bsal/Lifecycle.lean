import OpenSyncRdk.Bsal.Event
import OpenSyncRdk.Bsal.Group

/-!
The start and the end of the module `bsal.c`. What `target_bsal_init` has set up before it fails stays as
it is, and `target_bsal_cleanup` takes back only a part.
-/

namespace OpenSyncRdk
namespace Bsal

open Machine

inductive IfaceArray where
  | null
  | live (entries : List Iface)
  | freed
  deriving DecidableEq

/-- The globals of `bsal.c`, and what the wifi HAL knows of the module. A function is known by its address. -/
structure Lifecycle where
  eventCb : Option Nat
  ifaceNumber : Nat
  iface : IfaceArray
  steeringRegistered : Bool
  mgmtRegistered : Bool
  -- an init has succeeded, and no cleanup has followed
  ready : Bool
  deriving DecidableEq

structure InitEnv where
  -- `wifi_getHalCapability` fails, or finds this number of radios
  numRadios : Option Nat
  calloc : Bool
  eventRegister : Bool
  mgmtRegister : Bool
  deriving DecidableEq

def InitEnv.succeeds (mgmtSupport : Bool) (env : InitEnv) : Bool :=
  env.numRadios.isSome && env.calloc && env.eventRegister && (!mgmtSupport || env.mgmtRegister)

structure MgmtFrame where
  apIndex : Int
  action : Bool
  uplink : Bool
  frame : List UInt8

structure MgmtLib where
  maxActionFrameLen : Nat
  getApName : Int → Option CStr

namespace Lifecycle

def start : Lifecycle where
  eventCb := none
  ifaceNumber := 0
  iface := .null
  steeringRegistered := false
  mgmtRegistered := false
  ready := false

def targetBsalInit (mgmtSupport : Bool) (env : InitEnv) (eventCb : Nat) (s : Lifecycle) : Lifecycle × Int :=
  if s.eventCb.isSome then
    (s, -1)
  else
    let s := { s with eventCb := some eventCb, ifaceNumber := 0, iface := .null }
    match env.numRadios with
    | none => (s, -1)
    | some numRadios =>
      let s := { s with ifaceNumber := numRadios }
      if ¬env.calloc then
        (s, -1)
      else
        let s := { s with iface := .live (List.replicate numRadios Iface.zero) }
        if ¬env.eventRegister then
          (s, -1)
        else
          let s := { s with steeringRegistered := true }
          if mgmtSupport then
            if ¬env.mgmtRegister then
              (s, -1)
            else
              ({ s with mgmtRegistered := true }, 0)
          else
            (s, 0)

/-- `none` if the array is freed a second time. -/
def targetBsalCleanup (s : Lifecycle) : Option Lifecycle :=
  let s := { s with steeringRegistered := false, eventCb := none }
  match s.iface with
  | .null => some s
  | .live _ => some { s with iface := .freed }
  | .freed => none

def group (s : Lifecycle) : Option Group :=
  if s.ifaceNumber = 0 then
    some { index := 0, iface := [] }
  else
    match s.iface with
    | .live entries => some { index := 0, iface := entries }
    | _ => none

/-- The event that is passed on and the return value, or `none` if the null pointer is called. -/
def mgmtFrameCb (lib : MgmtLib) (s : Lifecycle) (frame : MgmtFrame)
    : Option (Option (Nat × CStr × List UInt8) × Int) :=
  if ¬frame.action then
    some (none, 0)
  else if ¬frame.uplink then
    some (none, 0)
  else if frame.frame.length ≥ lib.maxActionFrameLen then
    some (none, -1)
  else
    match lib.getApName frame.apIndex with
    | none => some (none, -1)
    | some ifname => s.eventCb.map (fun eventCb => (some (eventCb, ifname, frame.frame), 0))

def processEvent (callocEvent callocClient : Bool) (s : Lifecycle) (group : Group) (list : ClientInfoList)
    (event : HalEvent) : ClientInfoList × Option Event :=
  Bsal.processEvent { registered := s.eventCb.isSome, callocEvent, callocClient } group list event

inductive Input where
  | init (env : InitEnv) (eventCb : Nat)
  | cleanup
  deriving DecidableEq

def step (mgmtSupport : Bool) (s : Lifecycle) : Input → Option Lifecycle
  | .init env eventCb =>
    let out := s.targetBsalInit mgmtSupport env eventCb
    some { out.1 with ready := s.ready || out.2 = 0 }
  | .cleanup => s.targetBsalCleanup.map (fun s => { s with ready := false })

structure Uninitialised (mgmtSupport : Bool) (s : Lifecycle) : Prop where
  eventCb : s.eventCb = none
  ifaceNumber : s.ifaceNumber = 0
  ifaces
    : ∃ group, s.group = some group
        ∧ (∀ ifname, groupGetIfaceByName group ifname = none)
        ∧ ∀ (op : Op) env ifcfg, op.call env group ifcfg = some (Outcome.error group)
  events : ∀ callocEvent callocClient group list event,
    s.processEvent callocEvent callocClient group list event = (list, none)
  init : ∀ env eventCb,
    s.targetBsalInit mgmtSupport env eventCb = start.targetBsalInit mgmtSupport env eventCb

structure Sound (mgmtSupport : Bool) (s : Lifecycle) : Prop where
  uninitialised : s.ready = false → s.Uninitialised mgmtSupport
  callback : s.mgmtRegistered = true → ∀ lib frame, (mgmtFrameCb lib s frame).isSome = true

def Allowed (mgmtSupport : Bool) (s : Lifecycle) : Input → Prop
  | .init env _ => s.eventCb = none → env.succeeds mgmtSupport = true
  | .cleanup => s.ifaceNumber = 0 ∧ s.mgmtRegistered = false ∧ s.iface ≠ .freed

variable {mgmtSupport : Bool} {s : Lifecycle}

theorem targetBsalInit_refused (hcb : s.eventCb ≠ none) (env : InitEnv) (eventCb : Nat)
    : s.targetBsalInit mgmtSupport env eventCb = (s, -1) := by
  unfold targetBsalInit
  rw [if_pos (Option.isSome_iff_ne_none.mpr hcb)]

theorem targetBsalInit_spec (hcb : s.eventCb = none) (env : InitEnv) (eventCb : Nat)
    : (s.targetBsalInit mgmtSupport env eventCb).1.eventCb = some eventCb
        ∧ (s.targetBsalInit mgmtSupport env eventCb).2 = if env.succeeds mgmtSupport then 0 else -1 := by
  have ⟨numRadios, calloc, eventRegister, mgmtRegister⟩ := env
  simp only [targetBsalInit, hcb, Option.isSome_none, Bool.false_eq_true, ↓reduceIte]
  cases numRadios with
  | none => exact ⟨rfl, rfl⟩
  | some numRadios =>
    cases calloc with
    | false => exact ⟨rfl, rfl⟩
    | true =>
      cases eventRegister with
      | false => exact ⟨rfl, rfl⟩
      | true => cases mgmtSupport <;> cases mgmtRegister <;> exact ⟨rfl, rfl⟩

theorem callback_iff
    : (∀ lib frame, (mgmtFrameCb lib s frame).isSome = true) ↔ s.eventCb.isSome = true := by
  constructor
  . intro hcalls
    -- a frame that nothing filters out
    have hcall := hcalls
      { maxActionFrameLen := 1, getApName := fun _ => some [] }
      { apIndex := 0, action := true, uplink := true, frame := [] }
    simpa [mgmtFrameCb] using hcall
  . intro hcb lib frame
    unfold mgmtFrameCb
    split
    . rfl
    . split
      . rfl
      . split
        . rfl
        . split
          . rfl
          . rw [Option.isSome_map]
            exact hcb

theorem uninitialised_iff
    : s.Uninitialised mgmtSupport
        ↔
      s.eventCb = none ∧ s.ifaceNumber = 0 ∧ s.steeringRegistered = false ∧ s.mgmtRegistered = false
        ∧ s.ready = false := by
  constructor
  . intro hs
    have hinit := hs.init { numRadios := none, calloc := true, eventRegister := true, mgmtRegister := true } 0
    simp only [targetBsalInit, hs.eventCb, start, Option.isSome_none, Bool.false_eq_true, ↓reduceIte,
      Prod.mk.injEq, Lifecycle.mk.injEq, true_and, and_true] at hinit
    exact ⟨hs.eventCb, hs.ifaceNumber, hinit⟩
  . intro ⟨heventCb, hifaceNumber, hsteering, hmgmt, hready⟩
    constructor
    . exact heventCb
    . exact hifaceNumber
    . refine ⟨{ index := 0, iface := [] }, by rw [group, if_pos hifaceNumber], fun _ => rfl, ?_⟩
      intro op env ifcfg
      rw [Op.call_eq]
      split
      . rfl
      . split
        . rfl
        . rfl
    . intro callocEvent callocClient group list event
      simp [processEvent, Bsal.processEvent, heventCb]
    . intro env eventCb
      simp [targetBsalInit, start, heventCb, hsteering, hmgmt, hready]

theorem sound_iff
    : s.Sound mgmtSupport
        ↔
      (s.ready = false
          → s.eventCb = none ∧ s.ifaceNumber = 0 ∧ s.steeringRegistered = false ∧ s.mgmtRegistered = false)
        ∧ (s.mgmtRegistered = true → s.eventCb.isSome = true) := by
  rw [← callback_iff]
  constructor
  . intro ⟨huninitialised, hcallback⟩
    refine ⟨?_, hcallback⟩
    intro hready
    have ⟨heventCb, hifaceNumber, hsteering, hmgmt, _⟩ := uninitialised_iff.mp (huninitialised hready)
    exact ⟨heventCb, hifaceNumber, hsteering, hmgmt⟩
  . intro ⟨huninitialised, hcallback⟩
    refine ⟨?_, hcallback⟩
    intro hready
    have ⟨heventCb, hifaceNumber, hsteering, hmgmt⟩ := huninitialised hready
    exact uninitialised_iff.mpr ⟨heventCb, hifaceNumber, hsteering, hmgmt, hready⟩

theorem start_sound
    : start.Sound mgmtSupport := by
  rw [sound_iff]
  simp [start]

def Ready (s : Lifecycle) : Prop :=
  s.ready = true → s.eventCb ≠ none

theorem step_ready (s : Lifecycle) (input : Input) (t : Lifecycle) (_ : s.Ready)
    (hstep : s.step mgmtSupport input = some t)
    : t.Ready := by
  cases input with
  | init env eventCb =>
    injection hstep with hstep
    rw [← hstep]
    by_cases hcb : s.eventCb = none
    . intro _
      show (s.targetBsalInit mgmtSupport env eventCb).1.eventCb ≠ none
      rw [(targetBsalInit_spec hcb env eventCb).1]
      exact Option.some_ne_none eventCb
    . rw [targetBsalInit_refused hcb]
      intro _
      exact hcb
  | cleanup =>
    have ⟨u, _, ht⟩ := Option.map_eq_some_iff.mp hstep
    rw [← ht]
    intro hready
    contradiction

theorem init_sound_iff (hready : s.Ready) (hs : s.Sound mgmtSupport) (env : InitEnv) (eventCb : Nat)
    : (∃ t, s.step mgmtSupport (.init env eventCb) = some t ∧ t.Sound mgmtSupport)
        ↔
      s.Allowed mgmtSupport (.init env eventCb) := by
  have hstep : s.step mgmtSupport (.init env eventCb) = some _ := rfl
  by_cases hcb : s.eventCb = none
  . have hnotReady : s.ready = false := by
      rw [← Bool.not_eq_true]
      intro h
      exact hready h hcb
    have ⟨hnew, hret⟩ : (s.targetBsalInit mgmtSupport env eventCb).1.eventCb = _ ∧ _ :=
      targetBsalInit_spec hcb env eventCb
    simp only [Allowed, hcb, true_imp_iff, hstep, Option.some.injEq, exists_eq_left', sound_iff, hnotReady,
      Bool.false_or, hnew, Option.isSome_some]
    rw [hret]
    cases env.succeeds mgmtSupport <;> simp
  . apply iff_of_true
    . refine ⟨_, hstep, ?_⟩
      rw [targetBsalInit_refused hcb]
      simpa using hs
    . intro h
      exact absurd h hcb

theorem cleanup_sound_iff
    : (∃ t, s.step mgmtSupport .cleanup = some t ∧ t.Sound mgmtSupport) ↔ s.Allowed mgmtSupport .cleanup := by
  unfold step targetBsalCleanup Allowed
  dsimp only
  cases s.iface with
  | null => simp [sound_iff]
  | live entries => simp [sound_iff]
  | freed => simp

theorem step_sound_iff (s : Lifecycle) (input : Input) (hready : s.Ready) (hs : s.Sound mgmtSupport)
    : (∃ t, s.step mgmtSupport input = some t ∧ t.Sound mgmtSupport) ↔ s.Allowed mgmtSupport input := by
  cases input with
  | init env eventCb => exact init_sound_iff hready hs env eventCb
  | cleanup => exact cleanup_sound_iff

theorem always_sound_iff (mgmtSupport : Bool) (inputs : List Input)
    : Always (step mgmtSupport) (Sound mgmtSupport) start inputs
        ↔
      AllSteps (step mgmtSupport) (Allowed mgmtSupport) start inputs := by
  apply always_iff_allSteps_of_invariant step_ready step_sound_iff _ start_sound
  intro hready
  contradiction

theorem not_always_sound
    : ¬Always (step true) (Sound true) start
        [
          .init { numRadios := some 2, calloc := true, eventRegister := true, mgmtRegister := true } 1,
          .cleanup
        ] := by
  intro halways
  have ⟨t, hrun, hsound⟩ := halways _ List.prefix_rfl
  injection hrun with hrun
  rw [← hrun] at hsound
  have hcall := hsound.callback rfl
    { maxActionFrameLen := 256, getApName := fun _ => some (cstr "wl0") }
    { apIndex := 0, action := true, uplink := true, frame := [4, 10] }
  contradiction

end Lifecycle

end Bsal
end OpenSyncRdk
