import Mathlib.Data.List.Infix
import Mathlib.Logic.Function.Basic

/-!
Journals of a map: every entry says that a key is now present with some value, or that it is gone.
-/

namespace OpenSyncRdk
namespace Journal

variable {κ ν : Type} [DecidableEq κ]

structure Entry (κ ν : Type) where
  key : κ
  value : ν
  present : Bool

def apply (map : κ → Option ν) (entry : Entry κ ν) : κ → Option ν :=
  Function.update map entry.key (if entry.present then some entry.value else none)

def replay (entries : List (Entry κ ν)) : κ → Option ν :=
  entries.foldl apply (fun _ => none)

theorem replay_concat (entries : List (Entry κ ν)) (entry : Entry κ ν)
    : replay (entries ++ [entry]) = apply (replay entries) entry := by
  unfold replay
  rw [List.foldl_append]
  rfl

def Fits (map : κ → Option ν) (entry : Entry κ ν) : Prop :=
  map entry.key = if entry.present then none else some entry.value

def Exact (entries : List (Entry κ ν)) : Prop :=
  ∀ pre entry, pre ++ [entry] <+: entries → Fits (replay pre) entry

theorem Exact.concat {entries : List (Entry κ ν)} {entry : Entry κ ν} (hexact : Exact entries)
    (hfits : Fits (replay entries) entry)
    : Exact (entries ++ [entry]) := by
  intro pre other hpre
  rw [List.prefix_concat_iff] at hpre
  cases hpre with
  | inl hall =>
    rw [List.append_singleton_inj] at hall
    rw [hall.1, hall.2]
    exact hfits
  | inr hpart => exact hexact pre other hpart

structure Tracks (map : κ → Option ν) (entries : List (Entry κ ν)) : Prop where
  replay_eq : replay entries = map
  exact : Exact entries

theorem tracks_nil
    : Tracks (fun _ => none) ([] : List (Entry κ ν)) := by
  constructor
  . rfl
  . intro pre entry hpre
    simp at hpre

namespace Tracks

variable {map : κ → Option ν} {entries : List (Entry κ ν)}

theorem add (htracks : Tracks map entries) (key : κ) (value : ν) (habsent : map key = none)
    : Tracks (Function.update map key (some value)) (entries ++ [⟨key, value, true⟩]) := by
  rcases htracks with ⟨rfl, hexact⟩
  constructor
  . rw [replay_concat]
    rfl
  . exact hexact.concat habsent

theorem remove (htracks : Tracks map entries) (key : κ) (value : ν) (hpresent : map key = some value)
    : Tracks (Function.update map key none) (entries ++ [⟨key, value, false⟩]) := by
  rcases htracks with ⟨rfl, hexact⟩
  constructor
  . rw [replay_concat]
    rfl
  . exact hexact.concat hpresent

end Tracks
end Journal
end OpenSyncRdk
