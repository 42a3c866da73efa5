import OpenSyncRdk.BsalLegacy.Group
import OpenSyncRdk.Lib.Machine

/-!
The order in which the legacy group is set and unset at the wifi HAL.
-/

namespace OpenSyncRdk
namespace BsalLegacy

open Bsal (Radios)

structure State where
  group : Group
  setGroups : List SetGroup
  deriving DecidableEq

def State.init : State :=
  { group := Group.init, setGroups := [] }

def Call.step (call : Call) (s : State) : State :=
  let out := call.run s.group
  { group := out.group, setGroups := s.setGroups ++ out.setGroups }

/--
`torn` says that an interface was taken out of a pair that the HAL had accepted, and that the HAL has
not accepted null pointers since.
-/
structure Watched extends State where
  torn : Bool
  deriving DecidableEq

def Watched.init : Watched :=
  { State.init with torn := false }

def watch (w : Watched) (call : Call) : Option Watched :=
  let out := call.run w.group
  some { call.step w.toState with
    torn :=
      if ⟨none, true⟩ ∈ out.setGroups then
        false
      else if w.group.configs.isSome ∧ out.group.configs.isNone then
        Handover.held w.setGroups
      else
        w.torn
  }

def Call.completes (call : Call) (group : Group) : Bool :=
  match call.op, lookupIfname call.toRadios call.ifcfg with
  | .add, some iface =>
    (group.iface iface.band).isNone && (group.setIface (some iface) iface.band).configs.isSome
  | _, _ => false

theorem configs_eq_none {group : Group} {band : Band} (hiface : group.iface band = none)
    : group.configs = none := by
  cases band with
  | band24G =>
    simp only [Group.iface] at hiface
    simp [Group.configs, hiface]
  | band5G =>
    simp only [Group.iface] at hiface
    simp [Group.configs, hiface]

theorem configs_setIface_none (group : Group) (band : Band)
    : (group.setIface none band).configs = none := by
  have hiface : (group.setIface none band).iface band = none := by
    cases band <;> rfl
  apply configs_eq_none hiface

theorem configs_of_setIface_empty {group : Group} {band : Band}
    (h24g : (group.setIface none band).iface24g.isNone)
    (h5g : (group.setIface none band).iface5g.isNone)
    : group.configs = none := by
  rcases group with ⟨_ | _, _ | _⟩ <;> cases band <;>
    simp_all [Group.setIface, Group.configs]

inductive Effect (call : Call) (group after : Group) : List SetGroup → Prop where
  | quiet : ¬call.completes group → (group.configs = none → after.configs = none) →
    Effect call group after []
  | set : call.completes group → group.configs = none → after.configs = some configs →
    Effect call group after [⟨some configs, call.setOk⟩]
  | reset : ¬call.completes group → after.configs = some configs → call.unsetOk →
    Effect call group after [⟨none, true⟩, ⟨some configs, call.setOk⟩]
  | stuck : ¬call.completes group → after.configs = some configs →
    Effect call group after [⟨none, false⟩]
  | unset : ¬call.completes group → group.configs = none → after.configs = none →
    Effect call group after [⟨none, call.unsetOk⟩]

theorem add_effect (call : Call) (group : Group) (hop : call.op = .add)
    : Effect call group (targetBsalIfaceAdd call group).group
        (targetBsalIfaceAdd call group).setGroups := by
  unfold targetBsalIfaceAdd
  cases hlookup : lookupIfname call.toRadios call.ifcfg with
  | none =>
    apply Effect.quiet
    . simp [Call.completes, hop, hlookup]
    . exact id
  | some iface =>
    have hcompletes : call.completes group = ((group.iface iface.band).isNone
        && (group.setIface (some iface) iface.band).configs.isSome) := by
      simp only [Call.completes, hop, hlookup]
    by_cases hiface : (group.iface iface.band).isSome
    . simp only [hiface, ↓reduceIte]
      rw [Option.isSome_iff_ne_none] at hiface
      apply Effect.quiet
      . simp [hcompletes, hiface]
      . exact id
    . simp only [hiface, Bool.false_eq_true, ↓reduceIte]
      rw [Bool.not_eq_true, Option.isSome_eq_false_iff, Option.isNone_iff_eq_none] at hiface
      cases hconfigs : (group.setIface (some iface) iface.band).configs with
      | none =>
        apply Effect.quiet
        . simp [hcompletes, hconfigs]
        . intro _
          exact hconfigs
      | some configs =>
        apply Effect.set
        . simp [hcompletes, hconfigs, hiface]
        . apply configs_eq_none hiface
        . exact hconfigs

theorem update_effect (call : Call) (group : Group) (hop : call.op = .update)
    : Effect call group (targetBsalIfaceUpdate call group).group
        (targetBsalIfaceUpdate call group).setGroups := by
  have hcompletes : ¬call.completes group := by
    simp [Call.completes, hop]
  unfold targetBsalIfaceUpdate
  cases lookupIfname call.toRadios call.ifcfg with
  | none =>
    apply Effect.quiet hcompletes
    exact id
  | some iface =>
    by_cases hiface : (group.iface iface.band).isNone
    . simp only [hiface, ↓reduceIte]
      apply Effect.quiet hcompletes
      exact id
    . simp only [hiface, Bool.false_eq_true, ↓reduceIte]
      cases hconfigs : (group.setIface (some iface) iface.band).configs with
      | none =>
        apply Effect.quiet hcompletes
        intro _
        exact hconfigs
      | some configs =>
        by_cases hunset : call.unsetOk
        . simp only [hunset, not_true_eq_false, ↓reduceIte]
          apply Effect.reset hcompletes hconfigs hunset
        . simp only [hunset, Bool.false_eq_true, not_false_eq_true, ↓reduceIte]
          apply Effect.stuck hcompletes hconfigs

theorem remove_effect (call : Call) (group : Group) (hop : call.op = .remove)
    : Effect call group (targetBsalIfaceRemove call group).group
        (targetBsalIfaceRemove call group).setGroups := by
  have hcompletes : ¬call.completes group := by
    simp [Call.completes, hop]
  unfold targetBsalIfaceRemove
  cases lookupIfname call.toRadios call.ifcfg with
  | none =>
    apply Effect.quiet hcompletes
    exact id
  | some iface =>
    by_cases hiface : (group.iface iface.band).isNone
    . simp only [hiface, ↓reduceIte]
      apply Effect.quiet hcompletes
      exact id
    . simp only [hiface, Bool.false_eq_true, ↓reduceIte]
      split
      . next hempty =>
        apply Effect.unset hcompletes
        . apply configs_of_setIface_empty hempty.1 hempty.2
        . apply configs_setIface_none
      . apply Effect.quiet hcompletes
        intro _
        apply configs_setIface_none

theorem run_effect (call : Call) (group : Group)
    : Effect call group (call.run group).group (call.run group).setGroups := by
  unfold Call.run
  cases hop : call.op with
  | add => apply add_effect call group hop
  | update => apply update_effect call group hop
  | remove => apply remove_effect call group hop

def Watched.Inv (w : Watched) : Prop :=
  w.group.configs = none → Handover.held w.setGroups = w.torn

theorem watch_inv {w w' : Watched} {call : Call} (hinv : w.Inv) (hwatch : watch w call = some w')
    : w'.Inv := by
  injection hwatch with hwatch
  rw [← hwatch]
  intro hnone
  simp only [Call.step] at hnone ⊢
  have heffect := run_effect call w.group
  generalize (call.run w.group).setGroups = setGroups at heffect ⊢
  cases heffect with
  | quiet _ hkeep =>
    cases hconfigs : w.group.configs with
    | none => simp [hinv hconfigs]
    | some configs => simp [hnone]
  | set _ _ hsome =>
    rw [hnone] at hsome
    contradiction
  | reset _ hsome =>
    rw [hnone] at hsome
    contradiction
  | stuck _ hsome =>
    rw [hnone] at hsome
    contradiction
  | unset _ hbefore _ =>
    rw [Handover.held_concat, hinv hbefore]
    cases call.unsetOk <;> simp [hbefore]

theorem watch_exclusive_iff {w : Watched} (hinv : w.Inv) (hexclusive : Handover.Exclusive w.setGroups)
    (call : Call)
    : (∃ w', watch w call = some w' ∧ Handover.Exclusive w'.setGroups)
        ↔
      (call.completes w.group → ¬w.torn) := by
  have hexists : (∃ w', watch w call = some w' ∧ Handover.Exclusive w'.setGroups)
      ↔ Handover.Exclusive (w.setGroups ++ (call.run w.group).setGroups) := by
    simp [watch, Call.step]
  rw [hexists]
  have heffect := run_effect call w.group
  generalize (call.run w.group).setGroups = setGroups at heffect ⊢
  cases heffect with
  | quiet hcompletes _ => simp [hcompletes, hexclusive]
  | set hcompletes hnone _ => simp [hcompletes, hexclusive, hinv hnone]
  | reset hcompletes _ _ =>
    rw [List.append_cons, Handover.exclusive_concat, Handover.exclusive_concat]
    simp [hcompletes, hexclusive]
  | stuck hcompletes _ => simp [hcompletes, hexclusive]
  | unset hcompletes _ _ => simp [hcompletes, hexclusive]

/--
Two configs are set on a group that is already set only by an add, after a remove that the HAL was not
told about.
-/
theorem always_exclusive_iff (calls : List Call)
    : Machine.Always watch (fun w => Handover.Exclusive w.setGroups) Watched.init calls
        ↔
      Machine.AllSteps watch (fun w call => call.completes w.group → ¬w.torn) Watched.init calls := by
  apply Machine.always_iff_allSteps_of_invariant
  . intro w call w' hinv hwatch
    apply watch_inv hinv hwatch
  . intro w call hinv hexclusive
    apply watch_exclusive_iff hinv hexclusive
  . intro _
    rfl
  . apply Handover.exclusive_nil

def twoBands : Radios :=
  { interfaceMap := some [(cstr "ath0", 0), (cstr "ath1", 1)], ssidRadioIndex := some
    radioBand := fun radio => some (if radio = 0 then .freq2_4 else .freq5) }

def accepted (op : Op) (ifname : CStr) : Call :=
  { twoBands with op, ifcfg := { Bsal.IfConfig.zero with ifname }, unsetOk := true, setOk := true }

theorem not_always_exclusive
    : ¬∀ calls : List Call,
        Machine.Always watch (fun w => Handover.Exclusive w.setGroups) Watched.init calls := by
  intro hall
  let calls := [accepted .add (cstr "ath0"), accepted .add (cstr "ath1"),
    accepted .remove (cstr "ath1"), accepted .add (cstr "ath1")]
  let pair : SetGroup := ⟨some (Bsal.IfConfig.zero.apConfig 0, Bsal.IfConfig.zero.apConfig 1), true⟩
  have ⟨w, hw, hexclusive⟩ := hall calls calls List.prefix_rfl
  have hset : (Machine.run watch Watched.init calls).map (fun w => w.setGroups)
      = some ([pair] ++ [pair]) := by
    decide
  rw [hw] at hset
  injection hset with hset
  simp only [hset, Handover.exclusive_concat] at hexclusive
  revert hexclusive
  simp [Handover.held, pair]

end BsalLegacy
end OpenSyncRdk
