import Mathlib.Algebra.Group.Int.Defs
import Mathlib.Algebra.Group.Nat.Defs
import Mathlib.Data.List.GetD
import Mathlib.Data.List.Infix

/-!
Byte strings and byte buffers as C code sees them. A buffer is filled by copies of byte strings and
read back at fixed offsets, through packed structs in little endian order or as a C string.
-/

namespace OpenSyncRdk

abbrev CStr := List UInt8

def cstr (s : String) : CStr :=
  s.toList.map (fun c => UInt8.ofNat c.toNat)

theorem cstr_length (s : String)
    : (cstr s).length = s.toList.length := by
  simp [cstr]

def strscpy (size : Nat) (src : CStr) : CStr :=
  src.take (size - 1)

def strstr (haystack needle : CStr) : Bool :=
  decide (needle <:+: haystack)

@[simp]
theorem strstr_nil (haystack : CStr)
    : strstr haystack [] = true := by
  simp [strstr]

def cInt (val : Nat) : Int :=
  if val % 2 ^ 32 < 2 ^ 31 then val % 2 ^ 32 else val % 2 ^ 32 - 2 ^ 32

def unsignedInt (val : Int) : Nat :=
  (val % 2 ^ 32).toNat

def sizeT (val : Int) : Nat :=
  (val % 2 ^ 64).toNat

theorem cInt_lt (val : Nat)
    : cInt val < 2 ^ 31 ∧ -2 ^ 31 ≤ cInt val := by
  unfold cInt
  split <;> omega

theorem cInt_le (val : Nat)
    : cInt val ≤ val := by
  unfold cInt
  split <;> omega

theorem cInt_eq {val : Nat} (hval : val < 2 ^ 31)
    : cInt val = val := by
  unfold cInt
  split <;> omega

theorem sizeT_natCast {val : Nat} (hval : val < 2 ^ 64)
    : sizeT (val : Int) = val := by
  unfold sizeT
  omega

/-- What `%u` prints, and `%d` of a number that is not negative. -/
def decimal (val : Nat) : CStr :=
  (Nat.toDigits 10 val).map (fun c => UInt8.ofNat c.toNat)

def ofDecimal (s : CStr) : Nat :=
  s.foldl (fun val c => 10 * val + (c.toNat - 48)) 0

theorem ofDecimal_decimal (val : Nat)
    : ofDecimal (decimal val) = val := by
  unfold ofDecimal decimal
  rw [List.foldl_map]
  have hdigits : ∀ c ∈ Nat.toDigits 10 val, (UInt8.ofNat c.toNat).toNat = c.toNat := by
    intro c hc
    have hdigit := Nat.isDigit_of_mem_toDigits (by decide) (by decide) hc
    rw [Char.isDigit_iff_toNat] at hdigit
    have hnine : '9'.toNat = 57 := by rfl
    rw [UInt8.toNat_ofNat']
    omega
  rw [List.foldl_ext _ (fun val c => 10 * val + (c.toNat - 48))]
  . exact Nat.ofDigitChars_ten_toDigits
  . intro val c hc
    rw [hdigits c hc]

theorem decimal_injective {lhs rhs : Nat} (heq : decimal lhs = decimal rhs)
    : lhs = rhs := by
  rw [← ofDecimal_decimal lhs, heq, ofDecimal_decimal]

def le16 (val : Nat) : List UInt8 :=
  [UInt8.ofNat val, UInt8.ofNat (val / 256)]

def le32 (val : Nat) : List UInt8 :=
  [UInt8.ofNat val, UInt8.ofNat (val / 256), UInt8.ofNat (val / 65536), UInt8.ofNat (val / 16777216)]

abbrev Mem := Nat → UInt8

namespace Mem

def store (mem : Mem) (off : Nat) (bytes : List UInt8) : Mem :=
  fun idx => if off ≤ idx then bytes.getD (idx - off) (mem idx) else mem idx

def ofBytes (bytes : List UInt8) : Mem :=
  fun idx => bytes.getD idx 0

def u16 (mem : Mem) (off : Nat) : Nat :=
  (mem off).toNat + 256 * (mem (off + 1)).toNat

def u32 (mem : Mem) (off : Nat) : Nat :=
  mem.u16 off + 65536 * mem.u16 (off + 2)

def str (mem : Mem) (off size : Nat) : CStr :=
  ((List.range size).map (fun idx => mem (off + idx))).takeWhile (fun byte => byte ≠ 0)

theorem u16_lt (mem : Mem) (off : Nat)
    : mem.u16 off < 65536 := by
  unfold u16
  have := (mem off).toNat_lt
  have := (mem (off + 1)).toNat_lt
  omega

theorem store_store (mem : Mem) (off : Nat) (lhs rhs : List UInt8)
    : (mem.store off lhs).store (off + lhs.length) rhs = mem.store off (lhs ++ rhs) := by
  funext idx
  unfold store
  split
  . have h1 : off ≤ idx := by omega
    have h2 : lhs.length ≤ idx - off := by omega
    simp only [h1, ↓reduceIte]
    rw [List.getD_append_right _ _ _ _ h2]
    rw [List.getD_eq_default lhs _ h2]
    rw [Nat.sub_add_eq]
  . split
    . rw [List.getD_append]
      omega
    . rfl

theorem store_zero_get (mem : Mem) (bytes : List UInt8) (hidx : idx < bytes.length)
    : mem.store 0 bytes idx = ofBytes bytes idx := by
  simp [store, ofBytes, hidx]

theorem u16_store (mem : Mem) (bytes : List UInt8) (hoff : off + 2 ≤ bytes.length)
    : (mem.store 0 bytes).u16 off = (ofBytes bytes).u16 off := by
  unfold u16
  rw [store_zero_get mem bytes (by omega)]
  rw [store_zero_get mem bytes (by omega)]

theorem u32_store (mem : Mem) (bytes : List UInt8) (hoff : off + 4 ≤ bytes.length)
    : (mem.store 0 bytes).u32 off = (ofBytes bytes).u32 off := by
  unfold u32
  rw [u16_store mem bytes (by omega)]
  rw [u16_store mem bytes (by omega)]

theorem str_store (mem : Mem) (bytes : List UInt8) (hoff : off + size ≤ bytes.length)
    : (mem.store 0 bytes).str off size = (ofBytes bytes).str off size := by
  unfold str
  congr 1
  apply List.map_congr_left
  intro idx hidx
  rw [List.mem_range] at hidx
  rw [store_zero_get]
  omega

theorem str_ofBytes (front field back : List UInt8)
    : (ofBytes (front ++ field ++ back)).str front.length field.length
        =
      field.takeWhile (fun byte => byte ≠ 0) := by
  unfold str
  congr 1
  apply List.ext_getElem
  . simp
  . intro idx h1 h2
    simp only [ofBytes, List.getElem_map, List.getElem_range, List.append_assoc]
    rw [List.getD_append_right _ _ _ _ (by omega)]
    rw [Nat.add_sub_cancel_left]
    rw [List.getD_append _ _ _ _ h2]
    rw [List.getD_eq_getElem _ _ h2]

theorem str_ofBytes_pad (front s back : List UInt8) (pad : Nat) (hnul : 0 ∉ s)
    : (ofBytes (front ++ (s ++ List.replicate pad 0) ++ back)).str front.length (s.length + pad)
        =
      s := by
  have hfield := str_ofBytes front (s ++ List.replicate pad 0) back
  rw [List.length_append, List.length_replicate] at hfield
  rw [hfield, List.takeWhile_append_of_pos]
  . rw [List.takeWhile_replicate]
    simp
  . intro byte hmem
    rw [decide_eq_true_eq]
    exact ne_of_mem_of_not_mem hmem hnul

theorem str_ends (mem : Mem) (off size : Nat) (hends : (mem.str off (size + 1)).length ≤ size)
    : mem.str off size = mem.str off (size + 1) := by
  unfold str at *
  rw [List.range_succ, List.map_append, List.takeWhile_append] at *
  split
  . next hfull =>
    rw [if_pos hfull, List.length_append, List.length_map, List.length_range] at hends
    have hnil := List.length_eq_zero_iff.mp (Nat.le_zero.mp (Nat.le_of_add_le_add_left hends))
    rw [hnil, List.append_nil]
    exact (List.takeWhile_prefix _).eq_of_length hfull
  . rfl

end Mem

theorem u16_le16 (val : Nat)
    : (UInt8.ofNat val).toNat + 256 * (UInt8.ofNat (val / 256)).toNat = val % 65536 := by
  simp only [UInt8.toNat_ofNat']
  omega

theorem u32_le32 (val : Nat)
    : (UInt8.ofNat val).toNat + 256 * (UInt8.ofNat (val / 256)).toNat
        + 65536 * ((UInt8.ofNat (val / 65536)).toNat + 256 * (UInt8.ofNat (val / 16777216)).toNat)
        =
      val % 4294967296 := by
  simp only [UInt8.toNat_ofNat']
  omega

end OpenSyncRdk
