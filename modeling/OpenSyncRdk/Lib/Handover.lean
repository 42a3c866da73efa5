import Mathlib.Data.List.Infix

/-!
Histories of calls that hand something over to a peer or, with no argument, take it back. The peer
holds what was handed over by the last call that succeeded.
-/

namespace OpenSyncRdk
namespace Handover

variable {α : Type}

structure Call (α : Type) where
  arg : Option α
  ok : Bool
  deriving DecidableEq

def held (calls : List (Call α)) : Bool :=
  calls.foldl (fun held call => if call.ok then call.arg.isSome else held) false

def Exclusive (calls : List (Call α)) : Prop :=
  ∀ pre call, pre ++ [call] <+: calls → call.arg.isSome → ¬held pre

@[simp]
theorem held_concat (calls : List (Call α)) (call : Call α)
    : held (calls ++ [call]) = if call.ok then call.arg.isSome else held calls := by
  simp [held]

@[simp]
theorem exclusive_nil
    : Exclusive ([] : List (Call α)) := by
  intro pre call hpre
  have hnil := List.prefix_nil.mp hpre
  simp at hnil

@[simp]
theorem exclusive_concat (calls : List (Call α)) (call : Call α)
    : Exclusive (calls ++ [call]) ↔ Exclusive calls ∧ (call.arg.isSome → ¬held calls) := by
  constructor
  . intro hall
    constructor
    . intro pre other hpre
      apply hall
      exact hpre.trans (List.prefix_append calls [call])
    . apply hall
      exact List.prefix_rfl
  . intro ⟨hcalls, hcall⟩ pre other hpre
    rw [List.prefix_concat_iff] at hpre
    rcases hpre with hsame | hpre
    . have ⟨hpre, hother⟩ := List.append_inj' hsame rfl
      injection hother with hother
      rw [hpre, hother]
      exact hcall
    . exact hcalls pre other hpre

end Handover
end OpenSyncRdk
