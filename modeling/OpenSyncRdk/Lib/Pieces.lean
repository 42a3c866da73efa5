import Mathlib.Algebra.GroupWithZero.Nat
import Mathlib.Data.List.Basic

/-!
A stream of records of one size, and the ways to cut it into pieces.
-/

namespace OpenSyncRdk

variable {α : Type}

def pieces : List Nat → List α → List (List α)
  | [], _ => []
  | cut :: cuts, data => data.take cut :: pieces cuts (data.drop cut)

structure RecordCut (size count : Nat) (cuts : List Nat) : Prop where
  pos : ∀ cut ∈ cuts, 0 < cut
  le : ∀ cut ∈ cuts, cut ≤ size
  sum : cuts.sum = count * size

theorem pieces_lengths (cuts : List Nat) (data : List α) (hsum : cuts.sum ≤ data.length)
    : (pieces cuts data).map List.length = cuts := by
  induction cuts generalizing data with
  | nil => rfl
  | cons cut cuts ih =>
    rw [List.sum_cons] at hsum
    simp only [pieces, List.map_cons, List.length_take]
    rw [ih (data.drop cut) (by rw [List.length_drop]; omega)]
    rw [Nat.min_eq_left (by omega)]

theorem length_filter_pieces (cuts : List Nat) (data : List α) (size : Nat)
    (hsum : cuts.sum ≤ data.length)
    : ((pieces cuts data).filter (fun piece => piece.length == size)).length = cuts.count size := by
  rw [← List.countP_eq_length_filter]
  conv => rhs; rw [← pieces_lengths cuts data hsum]
  rw [List.count, List.countP_map]
  rfl

theorem length_records (records : List (List α)) (hsize : ∀ record ∈ records, record.length = size)
    : records.flatten.length = records.length * size := by
  induction records with
  | nil => simp
  | cons record records ih =>
    rw [List.flatten_cons, List.length_append, List.length_cons, Nat.succ_mul]
    rw [hsize record (by simp), ih (fun record hmem => hsize record (by simp [hmem]))]
    omega

theorem pieces_records (records : List (List α)) (hsize : ∀ record ∈ records, record.length = size)
    : pieces (List.replicate records.length size) records.flatten = records := by
  induction records with
  | nil => rfl
  | cons record records ih =>
    have hrecord := hsize record (by simp)
    rw [List.length_cons, List.replicate_succ, List.flatten_cons, pieces]
    rw [List.take_left' hrecord, List.drop_left' hrecord]
    rw [ih (fun record hmem => hsize record (by simp [hmem]))]

theorem count_mul_le_sum (size : Nat) (cuts : List Nat)
    : cuts.count size * size ≤ cuts.sum := by
  induction cuts with
  | nil => simp
  | cons cut cuts ih =>
    rw [List.sum_cons]
    by_cases hfull : cut = size
    . rw [hfull, List.count_cons_self, Nat.succ_mul]
      omega
    . rw [List.count_cons_of_ne hfull]
      omega

theorem count_mul_lt_sum {cuts : List Nat} (hpos : ∀ cut ∈ cuts, 0 < cut) (hother : ∃ cut ∈ cuts, cut ≠ size)
    : cuts.count size * size < cuts.sum := by
  induction cuts with
  | nil => simp at hother
  | cons cut cuts ih =>
    have hcut := hpos cut (by simp)
    rw [List.sum_cons]
    by_cases hfull : cut = size
    . rw [hfull, List.count_cons_self, Nat.succ_mul]
      rcases hother with ⟨other, hmem, hne⟩
      have := ih (fun cut hmem => hpos cut (by simp [hmem])) ⟨other, by grind, hne⟩
      omega
    . rw [List.count_cons_of_ne hfull]
      have := count_mul_le_sum size cuts
      omega

namespace RecordCut

theorem count_lt (hcut : RecordCut size count cuts) (hshort : ∃ cut ∈ cuts, cut ≠ size)
    : cuts.count size < count := by
  have hlt := count_mul_lt_sum hcut.pos hshort
  rw [hcut.sum] at hlt
  apply Nat.lt_of_mul_lt_mul_right hlt

theorem eq_replicate (hcut : RecordCut size count cuts) (hsize : 0 < size)
    (hfull : ∀ cut ∈ cuts, cut = size)
    : cuts = List.replicate count size := by
  have hall := List.eq_replicate_of_mem hfull
  have hsum := hcut.sum
  rw [hall, List.sum_replicate_nat] at hsum
  rw [← Nat.eq_of_mul_eq_mul_right hsize hsum]
  exact hall

end RecordCut
end OpenSyncRdk
