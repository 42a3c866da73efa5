import Mathlib.Data.List.Forall2

/-!
Arrays of slots in which the first slot that qualifies is overwritten.
-/

namespace OpenSyncRdk
namespace Slots

variable {α : Type} {p : α → Bool} {new : α} {slots : List α}

def replaceFirst (p : α → Bool) (new : α) : List α → Option (List α)
  | [] => none
  | slot :: slots =>
    if p slot then
      some (new :: slots)
    else
      (replaceFirst p new slots).map (slot :: ·)

theorem replaceFirst_append {pre post : List α} {old : α} (hpre : ∀ slot ∈ pre, ¬p slot)
    (hold : p old)
    : replaceFirst p new (pre ++ old :: post) = some (pre ++ new :: post) := by
  induction pre with
  | nil => simp [replaceFirst, hold]
  | cons slot pre ih =>
    have hslot := hpre slot (by simp)
    have htail := ih (fun slot hmem => hpre slot (by simp [hmem]))
    simp [replaceFirst, hslot, htail]

theorem find?_split (old : α) (hfind : slots.find? p = some old)
    : ∃ pre post, slots = pre ++ old :: post ∧ (∀ slot ∈ pre, ¬p slot) ∧ p old := by
  rw [List.find?_eq_some_iff_append] at hfind
  rcases hfind with ⟨hold, pre, post, hslots, hpre⟩
  refine ⟨pre, post, hslots, ?_, hold⟩
  intro slot hmem
  have := hpre slot hmem
  simpa using this

theorem replaceFirst_eq_none_iff
    : replaceFirst p new slots = none ↔ slots.find? p = none := by
  induction slots with
  | nil => simp [replaceFirst]
  | cons slot slots ih =>
    by_cases hslot : p slot
    . simp [replaceFirst, hslot]
    . simp [replaceFirst, hslot, ih]

theorem replaceFirst_cases (p : α → Bool) (new : α) (slots : List α)
    : (slots.find? p = none ∧ replaceFirst p new slots = none)
        ∨ ∃ pre old post, slots = pre ++ old :: post ∧ (∀ slot ∈ pre, ¬p slot) ∧ p old
          ∧ slots.find? p = some old ∧ slots.eraseP p = pre ++ post
          ∧ replaceFirst p new slots = some (pre ++ new :: post) := by
  match hfind : slots.find? p with
  | none =>
    apply Or.inl
    rw [replaceFirst_eq_none_iff]
    exact ⟨rfl, hfind⟩
  | some old =>
    apply Or.inr
    have ⟨pre, post, hslots, hpre, hold⟩ := find?_split old hfind
    refine ⟨pre, old, post, hslots, hpre, hold, rfl, ?_, ?_⟩
    . rw [hslots, List.eraseP_append_right _ hpre]
      simp [hold]
    . rw [hslots]
      apply replaceFirst_append hpre hold

theorem find?_replace {q : α → Bool} {pre post : List α} {old : α} (hold : ¬q old) (hnew : ¬q new)
    : (pre ++ new :: post).find? q = (pre ++ old :: post).find? q := by
  simp [List.find?_append, hold, hnew]

theorem find?_replace_of_none {q : α → Bool} {pre post : List α} {old : α}
    (hnone : (pre ++ old :: post).find? q = none) (hnew : q new)
    : (pre ++ new :: post).find? q = some new := by
  rw [List.find?_eq_none] at hnone
  rw [List.find?_append]
  have hpre : pre.find? q = none := by
    rw [List.find?_eq_none]
    intro slot hmem
    exact hnone slot (by simp [hmem])
  simp [hpre, hnew]

theorem forall₂_replace {R : α → α → Prop} {pre post : List α} {old : α}
    : List.Forall₂ R (pre ++ old :: post) (pre ++ new :: post)
        ↔
      R old new ∧ ∀ slot ∈ pre ++ post, R slot slot := by
  induction pre with
  | nil => simp [List.forall₂_same]
  | cons slot pre ih =>
    simp only [List.cons_append, List.forall₂_cons, ih, List.forall_mem_cons]
    apply and_left_comm

theorem pairwise_replace {R : α → α → Prop} {pre post : List α} {old : α}
    (hslots : (pre ++ old :: post).Pairwise R) (hleft : ∀ slot ∈ pre, R slot old → R slot new)
    (hright : ∀ slot ∈ post, R old slot → R new slot)
    : (pre ++ new :: post).Pairwise R := by
  rw [List.pairwise_append, List.pairwise_cons] at hslots ⊢
  rcases hslots with ⟨hpre, ⟨hold, hpost⟩, hcross⟩
  refine ⟨hpre, ⟨?_, hpost⟩, ?_⟩
  . intro slot hmem
    exact hright slot hmem (hold slot hmem)
  . intro slot hmem
    rw [List.forall_mem_cons]
    constructor
    . exact hleft slot hmem (hcross slot hmem old (by simp))
    . intro other hother
      exact hcross slot hmem other (by simp [hother])

end Slots
end OpenSyncRdk
