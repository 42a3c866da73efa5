import Mathlib.Data.List.Basic
import Mathlib.Data.List.Induction

/-!
Lists that keep a value only where no value before it has the same key, and the loop that appends to an
array what is not yet in it.
-/

namespace OpenSyncRdk

variable {α κ : Type} [DecidableEq κ] (key : α → κ)

def firsts : List α → List α
  | [] => []
  | x :: xs => x :: (firsts xs).filter (fun y => key y ≠ key x)

def addNew (xs : List α) (x : α) : List α :=
  if ∃ y ∈ xs, key y = key x then xs else xs ++ [x]

theorem foldl_addNew (acc xs : List α)
    : xs.foldl (addNew key) acc
        =
      acc ++ (firsts key xs).filter (fun y => ∀ x ∈ acc, key x ≠ key y) := by
  induction xs generalizing acc with
  | nil => simp [firsts]
  | cons x xs ih =>
    rw [List.foldl_cons, ih, firsts]
    unfold addNew
    split
    . next hold =>
      have ⟨y, hy, heq⟩ := hold
      congr 1
      rw [List.filter_cons_of_neg (by simpa using ⟨y, hy, heq⟩), List.filter_filter]
      apply List.filter_congr
      intro z _
      rw [← Bool.decide_and, decide_eq_decide]
      constructor
      . intro hnew
        exact ⟨hnew, heq ▸ (hnew y hy).symm⟩
      . exact And.left
    . next hnew =>
      rw [List.filter_cons_of_pos (by simpa using hnew), List.append_assoc, List.singleton_append,
        List.filter_filter]
      congr 2
      apply List.filter_congr
      intro z _
      rw [← Bool.decide_and, decide_eq_decide]
      simp only [List.mem_append, List.mem_singleton]
      constructor
      . intro hall
        exact ⟨fun y hy => hall y (.inl hy), (hall x (.inr rfl)).symm⟩
      . rintro ⟨hall, hx⟩ y (hy | rfl)
        . exact hall y hy
        . exact hx.symm

theorem foldl_addNew_nil (xs : List α)
    : xs.foldl (addNew key) [] = firsts key xs := by
  rw [foldl_addNew]
  simp

theorem firsts_filter_ne (k : κ) (xs : List α)
    : firsts key (xs.filter (fun y => key y ≠ k)) = (firsts key xs).filter (fun y => key y ≠ k) := by
  induction xs with
  | nil => rfl
  | cons x xs ih =>
    by_cases hx : key x = k
    . rw [List.filter_cons_of_neg (by simpa using hx), ih, firsts,
        List.filter_cons_of_neg (by simpa using hx), List.filter_filter, hx]
      simp only [Bool.and_self]
    . rw [List.filter_cons_of_pos (by simpa using hx), firsts, ih, firsts,
        List.filter_cons_of_pos (by simpa using hx), List.filter_comm]

theorem mem_keys_firsts (k : κ) (xs : List α)
    : k ∈ (firsts key xs).map key ↔ k ∈ xs.map key := by
  induction xs with
  | nil => rfl
  | cons x xs ih =>
    rw [firsts, List.map_cons, List.map_cons, List.mem_cons, List.mem_cons, ← ih]
    simp only [List.mem_map, List.mem_filter, decide_eq_true_eq]
    constructor
    . rintro (hk | ⟨y, ⟨hy, _⟩, heq⟩)
      . exact .inl hk
      . exact .inr ⟨y, hy, heq⟩
    . rintro (hk | ⟨y, hy, heq⟩)
      . exact .inl hk
      . by_cases hkx : k = key x
        . exact .inl hkx
        . exact .inr ⟨y, ⟨hy, heq ▸ hkx⟩, heq⟩

theorem nodup_keys_firsts (xs : List α)
    : ((firsts key xs).map key).Nodup := by
  induction xs with
  | nil => exact List.nodup_nil
  | cons x xs ih =>
    rw [firsts, List.map_cons, List.nodup_cons]
    constructor
    . simp
    . exact ih.sublist (List.filter_sublist.map key)

theorem firsts_concat (xs : List α) (x : α)
    : firsts key (xs ++ [x]) = if key x ∈ xs.map key then firsts key xs else firsts key xs ++ [x] := by
  rw [← foldl_addNew_nil, List.foldl_append, foldl_addNew_nil]
  simp only [List.foldl_cons, List.foldl_nil, addNew, ← mem_keys_firsts key (key x) xs, List.mem_map]

def FirstAt (p : α → Bool) (xs : List α) (x : α) (i : Nat) : Prop :=
  p x ∧ ∀ y ∈ xs.take i, p y → key y ≠ key x

instance (p : α → Bool) (xs : List α) (x : α) (i : Nat) : Decidable (FirstAt key p xs x i) :=
  inferInstanceAs (Decidable (_ ∧ _))

theorem firsts_filter_eq_positions (p : α → Bool) (xs : List α)
    : firsts key (xs.filter p)
        =
      (xs.zipIdx.filter (fun entry => FirstAt key p xs entry.1 entry.2)).map Prod.fst := by
  induction xs using List.reverseRecOn with
  | nil => rfl
  | append_singleton xs x ih =>
    have hearlier
        : xs.zipIdx.filter (fun entry => FirstAt key p (xs ++ [x]) entry.1 entry.2)
            =
          xs.zipIdx.filter (fun entry => FirstAt key p xs entry.1 entry.2) := by
      apply List.filter_congr
      intro entry hentry
      have hlt := List.snd_lt_of_mem_zipIdx hentry
      rw [decide_eq_decide]
      unfold FirstAt
      rw [List.take_append_of_le_length (by omega)]
    rw [List.zipIdx_append, List.filter_append, List.filter_append, List.map_append, hearlier, ← ih]
    have hlast : FirstAt key p (xs ++ [x]) x xs.length ↔ p x ∧ key x ∉ (xs.filter p).map key := by
      simp [FirstAt]
    by_cases hx : p x
    . rw [List.filter_cons_of_pos hx, List.filter_nil, firsts_concat]
      split
      . next hold => simp [hlast, hold]
      . next hnew => simp [hlast, hx, hnew]
    . rw [List.filter_cons_of_neg hx, List.filter_nil, List.append_nil]
      simp [hlast, hx]

end OpenSyncRdk
