import Mathlib.Data.List.Infix
import Mathlib.Data.Set.Basic

/-!
Messages of which none is a proper prefix of another. A stream of such messages can be cut into its
messages in one way only, and a stream that ends within a message is no stream of messages at all.
-/

namespace OpenSyncRdk

structure PrefixCode {α : Type} (code : Set (List α)) : Prop where
  ne_nil : ∀ word ∈ code, word ≠ []
  eq_of_prefix : ∀ lhs ∈ code, ∀ rhs ∈ code, lhs <+: rhs → lhs = rhs

namespace PrefixCode

variable {α : Type} {code : Set (List α)}

theorem eq_of_append_eq (hcode : PrefixCode code) {lhs rhs : List α} (hlhs : lhs ∈ code)
    (hrhs : rhs ∈ code) (heq : lhs ++ restL = rhs ++ restR)
    : lhs = rhs ∧ restL = restR := by
  have hpre : lhs <+: rhs ∨ rhs <+: lhs := by
    apply List.prefix_or_prefix_of_prefix
    . apply List.prefix_append lhs restL
    . rw [heq]
      apply List.prefix_append rhs restR
  have hword : lhs = rhs := by
    cases hpre with
    | inl h => exact hcode.eq_of_prefix lhs hlhs rhs hrhs h
    | inr h => exact (hcode.eq_of_prefix rhs hrhs lhs hlhs h).symm
  subst hword
  exact ⟨rfl, List.append_cancel_left heq⟩

theorem tail_eq_nil (hcode : PrefixCode code) {lhs rhs : List (List α)} {tail word : List α}
    (hlhs : ∀ w ∈ lhs, w ∈ code) (hrhs : ∀ w ∈ rhs, w ∈ code) (hword : word ∈ code)
    (htail : tail <+: word) (hne : tail ≠ word) (heq : lhs.flatten ++ tail = rhs.flatten)
    : tail = [] := by
  induction lhs generalizing rhs with
  | nil =>
    cases rhs with
    | nil => simpa using heq
    | cons first rhs =>
      -- The tail would start with a whole word, but it is only a part of one.
      exfalso
      simp only [List.flatten_nil, List.nil_append, List.flatten_cons] at heq
      have hfirst : first <+: word := by
        apply List.IsPrefix.trans _ htail
        rw [heq]
        apply List.prefix_append first rhs.flatten
      have hsame := hcode.eq_of_prefix first (hrhs first (by simp)) word hword hfirst
      apply hne
      apply List.IsPrefix.eq_of_length_le htail
      rw [heq, List.length_append, hsame]
      omega
  | cons first lhs ih =>
    cases rhs with
    | nil =>
      have := hcode.ne_nil first (hlhs first (by simp))
      simp [this] at heq
    | cons second rhs =>
      simp only [List.flatten_cons, List.append_assoc] at heq
      have hsame := hcode.eq_of_append_eq (hlhs first (by simp)) (hrhs second (by simp)) heq
      refine ih ?_ ?_ hsame.2
      . intro w hw
        exact hlhs w (by simp [hw])
      . intro w hw
        exact hrhs w (by simp [hw])

theorem prefix_of_flatten_prefix (hcode : PrefixCode code) {lhs rhs : List (List α)} {rest : List α}
    (hlhs : ∀ w ∈ lhs, w ∈ code) (hrhs : ∀ w ∈ rhs, w ∈ code) (hrest : ∀ w ∈ code, ¬w <+: rest)
    (hpre : rhs.flatten <+: lhs.flatten ++ rest)
    : rhs <+: lhs := by
  induction rhs generalizing lhs with
  | nil => exact List.nil_prefix
  | cons first rhs ih =>
    have hfirst := hrhs first (by simp)
    rcases hpre with ⟨after, hafter⟩
    rw [List.flatten_cons, List.append_assoc] at hafter
    cases lhs with
    | nil =>
      exfalso
      apply hrest first hfirst
      rw [List.flatten_nil, List.nil_append] at hafter
      rw [← hafter]
      apply List.prefix_append first (rhs.flatten ++ after)
    | cons second lhs =>
      rw [List.flatten_cons, List.append_assoc] at hafter
      have hsame := hcode.eq_of_append_eq hfirst (hlhs second (by simp)) hafter
      rw [hsame.1, List.cons_prefix_cons]
      refine ⟨rfl, ih ?_ ?_ ⟨after, hsame.2⟩⟩
      . intro w hw
        exact hlhs w (by simp [hw])
      . intro w hw
        exact hrhs w (by simp [hw])

end PrefixCode
end OpenSyncRdk
