import Mathlib.Data.List.TakeWhile
import OpenSyncRdk.Lib.Bytes

/-!
C strings in a memory, byte by byte: which bytes they are made of, and what a store of a terminator or
of a whole string does to them.
-/

namespace OpenSyncRdk

def terminated (bytes : List UInt8) : CStr :=
  bytes.takeWhile (fun byte => byte ≠ 0)

theorem terminated_eq (hnul : 0 ∉ bytes)
    : terminated bytes = bytes := by
  unfold terminated
  rw [List.takeWhile_eq_self_iff]
  intro byte hmem
  rw [decide_eq_true_eq]
  exact ne_of_mem_of_not_mem hmem hnul

namespace Mem

theorem str_succ (mem : Mem) (off size : Nat)
    : mem.str off (size + 1) = if mem off = 0 then [] else mem off :: mem.str (off + 1) size := by
  unfold str
  rw [List.range_succ_eq_map, List.map_cons, List.map_map, List.takeWhile_cons, Nat.add_zero]
  split
  . next hbyte =>
    rw [decide_eq_true_eq] at hbyte
    rw [if_neg hbyte]
    congr 3
    funext idx
    simp only [Function.comp_apply, Nat.succ_eq_add_one, Nat.add_assoc, Nat.add_comm 1 idx]
  . next hnul =>
    rw [decide_eq_true_eq, not_not] at hnul
    rw [if_pos hnul]

theorem length_str_le (mem : Mem) (off size : Nat)
    : (mem.str off size).length ≤ size := by
  have hle := (List.takeWhile_prefix (fun byte => decide (byte ≠ 0))
    (l := (List.range size).map (fun idx => mem (off + idx)))).length_le
  rwa [List.length_map, List.length_range] at hle

theorem str_get (mem : Mem) (off size idx : Nat) (hidx : idx < (mem.str off size).length)
    : (mem.str off size)[idx] = mem (off + idx) := by
  have hprefix := List.takeWhile_prefix (fun byte => decide (byte ≠ 0))
    (l := (List.range size).map (fun idx => mem (off + idx)))
  have hsame := hprefix.getElem hidx
  rwa [List.getElem_map, List.getElem_range] at hsame

theorem str_store_front (mem : Mem) {addr off : Nat} (hfront : addr < off) (byte : UInt8) (size : Nat)
    : (mem.store addr [byte]).str off size = mem.str off size := by
  unfold str
  congr 1
  apply List.map_congr_left
  intro idx _
  have hlt : addr ≤ off + idx := by omega
  have hpast : [byte].length ≤ off + idx - addr := by
    rw [List.length_singleton]
    omega
  rw [store, if_pos hlt, List.getD_eq_default _ _ hpast]

theorem str_store_nul (mem : Mem) (off size idx : Nat) (hidx : idx < (mem.str off size).length)
    : (mem.store (off + idx) [0]).str off size = (mem.str off size).take idx := by
  induction idx generalizing off size with
  | zero =>
    cases size with
    | zero => contradiction
    | succ size =>
      rw [str_succ]
      simp [store]
  | succ idx ih =>
    cases size with
    | zero => contradiction
    | succ size =>
      have hkept : mem.store (off + (idx + 1)) [0] off = mem off := by
        have hlt : ¬off + (idx + 1) ≤ off := by omega
        rw [store, if_neg hlt]
      rw [str_succ] at hidx
      rw [str_succ, str_succ mem, hkept]
      split
      . rfl
      . next hbyte =>
        rw [if_neg hbyte, List.length_cons] at hidx
        have hrest := ih (off + 1) size (Nat.lt_of_succ_lt_succ hidx)
        rw [Nat.add_assoc, Nat.add_comm 1 idx] at hrest
        rw [hrest, List.take_succ_cons]

theorem store_get (mem : Mem) (off : Nat) (bytes : List UInt8) (hidx : idx < bytes.length)
    : mem.store off bytes (off + idx) = bytes[idx] := by
  rw [store, if_pos (Nat.le_add_right off idx), Nat.add_sub_cancel_left, List.getD_eq_getElem _ _ hidx]

theorem str_eq_terminated (mem : Mem) (off : Nat) (bytes : List UInt8) (hsize : bytes.length ≤ size)
    (hbytes : ∀ idx (hidx : idx < bytes.length), mem (off + idx) = bytes[idx])
    (hends : bytes.length < size → mem (off + bytes.length) = 0)
    : mem.str off size = terminated bytes := by
  induction bytes generalizing off size with
  | nil =>
    cases size with
    | zero => rfl
    | succ size =>
      have hnul : mem off = 0 := hends (Nat.zero_lt_succ size)
      rw [str_succ, if_pos hnul]
      rfl
  | cons byte bytes ih =>
    cases size with
    | zero => contradiction
    | succ size =>
      have hfirst : mem off = byte := hbytes 0 (Nat.zero_lt_succ bytes.length)
      have hrest : mem.str (off + 1) size = terminated bytes := by
        apply ih (off + 1) (Nat.le_of_succ_le_succ hsize)
        . intro idx hidx
          rw [Nat.add_assoc, Nat.add_comm 1 idx]
          exact hbytes (idx + 1) (Nat.succ_lt_succ hidx)
        . intro hlt
          rw [Nat.add_assoc, Nat.add_comm 1]
          exact hends (Nat.succ_lt_succ hlt)
      rw [str_succ, hfirst, hrest]
      unfold terminated
      rw [List.takeWhile_cons]
      by_cases hnul : byte = 0
      . simp [hnul]
      . simp [hnul]

theorem str_store_terminated (mem : Mem) (off : Nat) (bytes : List UInt8) (hsize : bytes.length < size)
    : (mem.store off (bytes ++ [0])).str off size = terminated bytes := by
  have hlength : (bytes ++ [0]).length = bytes.length + 1 := by
    rw [List.length_append, List.length_singleton]
  apply str_eq_terminated _ off bytes (Nat.le_of_lt hsize)
  . intro idx hidx
    rw [store_get mem off _ (by omega), List.getElem_append_left hidx]
  . intro _
    rw [store_get mem off _ (by omega), List.getElem_concat_length rfl]

end Mem
end OpenSyncRdk
