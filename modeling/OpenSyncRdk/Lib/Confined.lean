import Mathlib.Data.List.TakeWhile
import OpenSyncRdk.Lib.Bytes

/-!
Two runs over one memory that differ in what the memory held before some bytes were stored at its
start. What a run reads is confined to these bytes if both runs read the same.
-/

namespace OpenSyncRdk
namespace Mem

def Confined (bytes : List UInt8) (read : Mem → β) : Prop :=
  ∀ mem mem' : Mem, read (mem.store 0 bytes) = read (mem'.store 0 bytes)

theorem store_zero_get_ge (mem : Mem) (bytes : List UInt8) (hidx : bytes.length ≤ idx)
    : mem.store 0 bytes idx = mem idx := by
  unfold store
  rw [if_pos (Nat.zero_le idx), Nat.sub_zero]
  apply List.getD_eq_default
  exact hidx

theorem confined_congr {f g : Mem → α}
    (hsame : ∀ mem : Mem, f (mem.store 0 bytes) = g (mem.store 0 bytes))
    : Confined bytes f ↔ Confined bytes g := by
  unfold Confined
  simp only [hsame]

theorem confined_injective_iff (bytes : List UInt8) (f : Mem → α) {g : α → β}
    (hinj : ∀ x y, g x = g y → x = y)
    : Confined bytes (fun mem => g (f mem)) ↔ Confined bytes f := by
  constructor
  . intro hconfined mem mem'
    apply hinj
    exact hconfined mem mem'
  . intro hconfined mem mem'
    dsimp only
    rw [hconfined mem mem']

theorem length_str_eq_iff (mem : Mem) (off size : Nat)
    : (mem.str off size).length = size ↔ ∀ idx < size, mem (off + idx) ≠ 0 := by
  have hprefix := List.takeWhile_prefix (fun byte => decide (byte ≠ 0))
    (l := (List.range size).map (fun idx => mem (off + idx)))
  have hall := List.takeWhile_eq_self_iff (p := fun byte => decide (byte ≠ 0))
    (l := (List.range size).map (fun idx => mem (off + idx)))
  simp only [List.mem_map, List.mem_range, decide_eq_true_eq, forall_exists_index, and_imp,
    forall_apply_eq_imp_iff₂] at hall
  unfold str
  rw [← hall]
  constructor
  . intro hlen
    apply hprefix.eq_of_length
    rw [hlen, List.length_map, List.length_range]
  . intro heq
    rw [heq, List.length_map, List.length_range]

theorem str_nil (mem : Mem) (size : Nat) (hnul : mem off = 0)
    : mem.str off size = [] := by
  unfold str
  cases size with
  | zero => rfl
  | succ size => simp [List.range_succ_eq_map, hnul]

theorem str_cut (mem : Mem) (hsize : front ≤ size) (hidx : idx < front) (hnul : mem (off + idx) = 0)
    : mem.str off size = mem.str off front := by
  have hpart
      : (List.range size).map (fun idx => mem (off + idx))
          =
        (List.range front).map (fun idx => mem (off + idx))
          ++ (List.range (size - front)).map (fun idx => mem (off + (front + idx))) := by
    rw [← Nat.add_sub_of_le hsize, List.range_add]
    simp
  have hends : (mem.str off front).length ≠ front := by
    intro hfull
    rw [length_str_eq_iff] at hfull
    exact hfull idx hidx hnul
  unfold str at *
  rw [hpart, List.takeWhile_append, if_neg]
  rw [List.length_map, List.length_range]
  exact hends

theorem str_confined_of_nul (bytes : List UInt8) (hnul : 0 ∈ bytes.drop off) (size : Nat)
    : Confined bytes (fun mem => mem.str off size) := by
  intro mem mem'
  have ⟨idx, hidx, hget⟩ := List.getElem_of_mem hnul
  rw [List.length_drop] at hidx
  rw [List.getElem_drop] at hget
  by_cases hsize : off + size ≤ bytes.length
  . dsimp only
    rw [str_store mem bytes hsize, str_store mem' bytes hsize]
  . have hget' : ofBytes bytes (off + idx) = 0 := by
      unfold ofBytes
      rw [List.getD_eq_getElem _ _ (by omega), hget]
    have hcut : ∀ mem : Mem,
        (mem.store 0 bytes).str off size = (ofBytes bytes).str off (bytes.length - off) := by
      intro mem
      rw [← str_store mem bytes (by omega)]
      apply str_cut _ (by omega) hidx
      rw [store_zero_get mem bytes (by omega), hget']
    dsimp only
    rw [hcut mem, hcut mem']

/-- The two runs that show what is not confined find a memory of zeros and one without a zero. -/
theorem str_confined_iff (bytes : List UInt8) (hsize : 0 < size)
    : Confined bytes (fun mem => mem.str off size)
        ↔
      off + size ≤ bytes.length ∨ 0 ∈ bytes.drop off := by
  constructor
  . intro hconfined
    apply Decidable.byContradiction
    intro hnot
    rw [not_or] at hnot
    have ⟨hbeyond, hnul⟩ := hnot
    have hfull : (str (store (fun _ => 1) 0 bytes) off size).length = size := by
      rw [length_str_eq_iff]
      intro idx hidx
      by_cases hin : off + idx < bytes.length
      . rw [store_zero_get _ bytes hin]
        intro hzero
        apply hnul
        unfold ofBytes at hzero
        rw [List.getD_eq_getElem _ _ hin] at hzero
        rw [← hzero, ← List.getElem_drop (h := by rw [List.length_drop]; omega)]
        apply List.getElem_mem
      . rw [store_zero_get_ge _ bytes (by omega)]
        decide
    have hsame : str (store (fun _ => 1) 0 bytes) off size = str (store (fun _ => 0) 0 bytes) off size :=
      hconfined (fun _ => 1) (fun _ => 0)
    rw [hsame, length_str_eq_iff] at hfull
    apply hfull (max bytes.length off - off) (by omega)
    rw [store_zero_get_ge _ bytes (by omega)]
  . intro hor
    rcases hor with hin | hnul
    . intro mem mem'
      dsimp only
      rw [str_store mem bytes hin, str_store mem' bytes hin]
    . exact str_confined_of_nul bytes hnul size

theorem sized_str_confined_iff (bytes : List UInt8) (size : Nat)
    : Confined bytes (fun mem => mem.str (size + 2) (mem.u16 size))
        ↔
      size + 2 + (ofBytes bytes).u16 size ≤ bytes.length ∨ 0 ∈ bytes.drop (size + 2) := by
  by_cases hknown : size + 2 ≤ bytes.length
  . have hstr
        : Confined bytes (fun mem => mem.str (size + 2) (mem.u16 size))
            ↔
          Confined bytes (fun mem => mem.str (size + 2) ((ofBytes bytes).u16 size)) := by
      unfold Confined
      simp only [u16_store _ bytes hknown]
    rw [hstr]
    cases (ofBytes bytes).u16 size with
    | zero => exact iff_of_true (fun _ _ => rfl) (.inl hknown)
    | succ count => exact str_confined_iff bytes (Nat.succ_pos count)
  . rw [iff_false_right]
    . intro hconfined
      have hfull : (str (store (fun _ => 1) 0 bytes) (size + 2)
          (u16 (store (fun _ => 1) 0 bytes) size)).length
            =
          u16 (store (fun _ => 1) 0 bytes) size := by
        rw [length_str_eq_iff]
        intro idx _
        rw [store_zero_get_ge _ bytes (by omega)]
        decide
      have hsame : str (store (fun _ => 1) 0 bytes) (size + 2)
          (u16 (store (fun _ => 1) 0 bytes) size)
            =
          str (store (fun _ => 0) 0 bytes) (size + 2) (u16 (store (fun _ => 0) 0 bytes) size) :=
        hconfined (fun _ => 1) (fun _ => 0)
      rw [hsame, str_nil] at hfull
      . have hhigh : store (fun _ => 1) 0 bytes (size + 1) = 1 := by
          rw [store_zero_get_ge _ bytes (by omega)]
        unfold u16 at hfull
        rw [hhigh] at hfull
        simp at hfull
      . rw [store_zero_get_ge _ bytes (by omega)]
    . rw [List.drop_eq_nil_of_le (by omega)]
      simp only [List.not_mem_nil, or_false]
      omega

end Mem
end OpenSyncRdk
