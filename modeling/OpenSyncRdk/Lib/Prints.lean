import Mathlib.Algebra.GroupWithZero.Nat
import OpenSyncRdk.Lib.Bytes

/-!
Texts that are printed to a buffer one after another by code that goes forward by the length of each
text, whether or not there was room for it.
-/

namespace OpenSyncRdk

structure Print where
  offset : Int
  size : Int
  text : CStr
  deriving DecidableEq

def prints : Int → Int → List CStr → List Print
  | _, _, [] => []
  | ptr, bytesLeft, text :: texts =>
    let counter := text.length
    { offset := ptr, size := bytesLeft, text } :: prints (ptr + counter) (bytesLeft - counter) texts

structure Print.Inside (bufSize : Nat) (print : Print) : Prop where
  offset_nonneg : 0 ≤ print.offset
  offset_lt : print.offset < bufSize
  size_nonneg : 0 ≤ print.size
  size_eq : print.size = bufSize - print.offset

theorem inside_iff (bufSize ptr : Nat) (text : CStr)
    : ({ offset := ptr, size := bufSize - ptr, text } : Print).Inside bufSize ↔ ptr < bufSize := by
  constructor
  . intro hinside
    have := hinside.offset_lt
    dsimp only at this
    omega
  . intro hlt
    constructor
    case offset_nonneg => exact Int.natCast_nonneg ptr
    case offset_lt => exact Int.ofNat_lt.mpr hlt
    case size_nonneg =>
      dsimp only
      omega
    case size_eq => rfl

theorem prints_inside_iff (bufSize ptr : Nat) (text : CStr) (texts : List CStr)
    : (∀ print ∈ prints ptr (bufSize - ptr) (text :: texts), print.Inside bufSize)
        ↔
      ptr + ((text :: texts).dropLast.map List.length).sum < bufSize := by
  induction texts generalizing ptr text with
  | nil => simp [prints, inside_iff]
  | cons next texts ih =>
    have hptr : (ptr : Int) + text.length = (ptr + text.length : Nat) := by
      omega
    have hleft : (bufSize : Int) - ptr - text.length = bufSize - (ptr + text.length : Nat) := by
      omega
    rw [prints, List.forall_mem_cons, inside_iff, hptr, hleft, ih]
    rw [List.dropLast_cons_cons, List.map_cons, List.sum_cons]
    omega

end OpenSyncRdk
