import Mathlib.Data.List.Basic

/-!
Arrays that are filled from the front, with an index that counts up. A write at an index that the
array does not have leaves the array alone and is noted.
-/

namespace OpenSyncRdk

structure Filled (α : Type) where
  cells : List α
  count : Nat
  outside : List Nat

namespace Filled

variable {α : Type} {a : Filled α} {initial xs : List α}

def ofCells (cells : List α) : Filled α :=
  { cells, count := 0, outside := [] }

def put (a : Filled α) (x : α) : Filled α :=
  { cells := a.cells.set a.count x
    count := a.count + 1
    outside := if a.count < a.cells.length then a.outside else a.outside ++ [a.count]
  }

def front (a : Filled α) : List α :=
  a.cells.take a.count

structure Holds (a : Filled α) (initial xs : List α) : Prop where
  cells_eq : a.cells = xs ++ initial.drop xs.length
  count_eq : a.count = xs.length
  inside : a.outside = []

theorem holds_ofCells (cells : List α)
    : (ofCells cells).Holds cells [] := by
  exact ⟨rfl, rfl, rfl⟩

theorem Holds.put (hholds : a.Holds initial xs) (hroom : xs.length < initial.length) (x : α)
    : (a.put x).Holds initial (xs ++ [x]) := by
  rcases hholds with ⟨hcells, hcount, hinside⟩
  have hrest : initial.drop xs.length = initial[xs.length] :: initial.drop (xs.length + 1) :=
    List.drop_eq_getElem_cons hroom
  constructor
  . rw [List.length_append, List.length_singleton]
    unfold Filled.put
    dsimp only
    rw [hcells, hcount, List.set_append_right _ _ (Nat.le_refl _), Nat.sub_self, hrest,
      List.set_cons_zero, List.append_assoc, List.singleton_append]
  . simp [Filled.put, hcount]
  . have hlength : a.count < a.cells.length := by
      rw [hcells, hcount, hrest, List.length_append, List.length_cons]
      omega
    simp [Filled.put, hlength, hinside]

theorem Holds.foldl_put (hholds : a.Holds initial xs) (ys : List α)
    (hroom : xs.length + ys.length ≤ initial.length)
    : (ys.foldl Filled.put a).Holds initial (xs ++ ys) := by
  induction ys generalizing a xs with
  | nil =>
    rw [List.append_nil]
    exact hholds
  | cons y ys ih =>
    rw [List.length_cons] at hroom
    have hput := hholds.put (by omega) y
    have htail := ih hput (by rw [List.length_append, List.length_singleton]; omega)
    rw [List.append_assoc, List.singleton_append] at htail
    exact htail

theorem Holds.front_eq (hholds : a.Holds initial xs)
    : a.front = xs := by
  unfold front
  rw [hholds.cells_eq, hholds.count_eq, List.take_left]

end Filled
end OpenSyncRdk
