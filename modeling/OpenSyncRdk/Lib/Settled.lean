import Mathlib.Data.Set.Lattice

/-!
Keys that each sit at one place or at none, and the members that a place should have. Where some
places are settled, they hold exactly their members; all others keep what they had, less the keys
that are now at a settled place.
-/

namespace OpenSyncRdk

variable {κ π σ : Type}

def Settled (members : π → Set κ) (places : Set π) (old new : κ → Option π) : Prop :=
  ∀ key place, new key = some place
    ↔
  (place ∈ places ∧ key ∈ members place)
    ∨ (place ∉ places ∧ old key = some place ∧ ∀ other ∈ places, key ∉ members other)

namespace Settled

variable {members : π → Set κ} {old mid new : κ → Option π}

theorem empty (old : κ → Option π)
    : Settled members ∅ old old := by
  intro key place
  simp

theorem union (hdisj : ∀ p q key, key ∈ members p → key ∈ members q → p = q) {P Q : Set π}
    (hfst : Settled members P old mid) (hsnd : Settled members Q mid new)
    : Settled members (P ∪ Q) old new := by
  intro key place
  rw [hsnd key place, hfst key place]
  constructor
  . rintro (⟨hplace, hkey⟩ | ⟨hplace, ⟨hfirst, hkey⟩ | ⟨hfirst, hold, hnone⟩, hrest⟩)
    . exact .inl ⟨.inr hplace, hkey⟩
    . exact .inl ⟨.inl hfirst, hkey⟩
    . refine .inr ⟨?_, hold, ?_⟩
      . rintro (hmem | hmem)
        . apply hfirst hmem
        . apply hplace hmem
      . rintro other (hmem | hmem)
        . apply hnone other hmem
        . apply hrest other hmem
  . rintro (⟨hplace, hkey⟩ | ⟨hplace, hold, hnone⟩)
    . by_cases hlast : place ∈ Q
      . exact .inl ⟨hlast, hkey⟩
      . have hfirst := hplace.resolve_right hlast
        refine .inr ⟨hlast, .inl ⟨hfirst, hkey⟩, ?_⟩
        intro other hother hmem
        rw [hdisj place other key hkey hmem] at hlast
        apply hlast hother
    . refine .inr ⟨?_, .inr ⟨?_, hold, ?_⟩, ?_⟩
      . intro hmem
        apply hplace (.inr hmem)
      . intro hmem
        apply hplace (.inl hmem)
      . intro other hmem
        apply hnone other (.inl hmem)
      . intro other hmem
        apply hnone other (.inr hmem)

theorem foldl (hdisj : ∀ p q key, key ∈ members p → key ∈ members q → p = q) {ι : Type}
    {view : σ → κ → Option π} {f : σ → ι → σ} {places : ι → Set π} (items : List ι) (s : σ)
    (hstep : ∀ s, ∀ item ∈ items, Settled members (places item) (view s) (view (f s item)))
    : Settled members (⋃ item ∈ items, places item) (view s) (view (items.foldl f s)) := by
  induction items generalizing s with
  | nil =>
    simp only [List.not_mem_nil, Set.iUnion_of_empty, Set.iUnion_empty, List.foldl_nil]
    apply Settled.empty
  | cons item items ih =>
    have hunion : (⋃ other ∈ item :: items, places other)
        = places item ∪ ⋃ other ∈ items, places other := by
      ext place
      simp
    rw [hunion, List.foldl_cons]
    apply union hdisj
    . apply hstep s item
      simp
    . apply ih
      intro s other hother
      apply hstep s other
      simp [hother]

end Settled
end OpenSyncRdk
