import OpenSyncRdk.Clients.Table

/-!
MACs as `sscanf` reads and `snprintf` writes them under `MAC_ADDR_FMT`, six times `%hhx` between colons.
-/

namespace OpenSyncRdk
namespace Vif

open Clients (MacAddr hexByte)

def isSpace (c : UInt8) : Bool :=
  c = 32 || (9 ≤ c && c ≤ 13)

def hexDigit (c : UInt8) : Option Nat :=
  if 48 ≤ c ∧ c ≤ 57 then
    some (c.toNat - 48)
  else if 97 ≤ c ∧ c ≤ 102 then
    some (c.toNat - 87)
  else if 65 ≤ c ∧ c ≤ 70 then
    some (c.toNat - 55)
  else
    none

def hexDigits : CStr → List Nat × CStr
  | [] => ([], [])
  | c :: s =>
    match hexDigit c with
    | none => ([], c :: s)
    | some digit => (digit :: (hexDigits s).1, (hexDigits s).2)

def scanSign : CStr → Bool × CStr
  | [] => (false, [])
  | c :: s => if c = 45 then (true, s) else if c = 43 then (false, s) else (false, c :: s)

def scanPrefix : CStr → CStr
  | c :: d :: s => if c = 48 ∧ (d = 120 ∨ d = 88) then s else c :: d :: s
  | s => s

def ulongMax : Nat := 18446744073709551615

def scanHhx (s : CStr) : Option (UInt8 × CStr) :=
  let (negative, s) := scanSign (s.dropWhile isSpace)
  match hexDigits (scanPrefix s) with
  | ([], _) => none
  | (digits, rest) =>
    let val := UInt8.ofNat (min ulongMax (digits.foldl (fun val digit => 16 * val + digit) 0))
    some (if negative then -val else val, rest)

def scanColon : CStr → Option CStr
  | [] => none
  | c :: s => if c = 58 then some s else none

def sscanfOctets : Nat → CStr → List UInt8
  | 0, _ => []
  | count + 1, s =>
    match scanHhx s with
    | none => []
    | some (octet, rest) =>
      match scanColon rest with
      | none => [octet]
      | some rest => octet :: sscanfOctets count rest

def sscanfMac (s : CStr) : Option MacAddr :=
  match sscanfOctets 6 s with
  | [b0, b1, b2, b3, b4, b5] => some { b0, b1, b2, b3, b4, b5 }
  | _ => none

def printHhx (byte : UInt8) : CStr :=
  if byte.toNat < 16 then [hexByte.digit byte.toNat] else hexByte byte

def snprintfMac (size : Nat) (mac : MacAddr) : CStr :=
  strscpy size
    (printHhx mac.b0 ++ [58] ++ printHhx mac.b1 ++ [58] ++ printHhx mac.b2 ++ [58] ++ printHhx mac.b3
      ++ [58] ++ printHhx mac.b4 ++ [58] ++ printHhx mac.b5)

theorem digit_spec
    : ∀ val < 16,
        hexDigit (hexByte.digit val) = some val
          ∧ isSpace (hexByte.digit val) = false
          ∧ hexByte.digit val ≠ 45 ∧ hexByte.digit val ≠ 43
          ∧ hexByte.digit val ≠ 120 ∧ hexByte.digit val ≠ 88 := by
  decide

def EndsOctet (rest : CStr) : Prop :=
  hexDigits rest = ([], rest)

theorem endsOctet_nil
    : EndsOctet [] := by
  rfl

theorem endsOctet_colon (rest : CStr)
    : EndsOctet (58 :: rest) := by
  rfl

theorem scanHhx_hexByte (byte : UInt8) {rest : CStr} (hrest : EndsOctet rest)
    : scanHhx (hexByte byte ++ rest) = some (byte, rest) := by
  have hlt := byte.toNat_lt
  have ⟨hhigh, hspace, hminus, hplus, _, _⟩ := digit_spec (byte.toNat / 16) (by omega)
  have ⟨hlow, _, _, _, hx, hX⟩ := digit_spec (byte.toNat % 16) (by omega)
  have hval : UInt8.ofNat (min ulongMax (16 * (byte.toNat / 16) + byte.toNat % 16)) = byte := by
    rw [Nat.min_eq_right (by unfold ulongMax; omega), Nat.div_add_mod, UInt8.ofNat_toNat]
  have hstart : (hexByte byte ++ rest).dropWhile isSpace = hexByte byte ++ rest := by
    unfold hexByte
    rw [List.cons_append, List.dropWhile_cons_of_neg (by simp [hspace])]
  have hsign : scanSign (hexByte byte ++ rest) = (false, hexByte byte ++ rest) := by
    simp [hexByte, scanSign, hminus, hplus]
  have hprefix : scanPrefix (hexByte byte ++ rest) = hexByte byte ++ rest := by
    simp [hexByte, scanPrefix, hx, hX]
  have hdigits : hexDigits (hexByte byte ++ rest) = ([byte.toNat / 16, byte.toNat % 16], rest) := by
    unfold EndsOctet at hrest
    simp [hexByte, hexDigits, hhigh, hlow, hrest]
  unfold scanHhx
  simp only [hstart, hsign, hprefix, hdigits]
  simp [hval]

theorem sscanfOctets_colon (count : Nat) (byte : UInt8) (rest : CStr)
    : sscanfOctets (count + 1) (hexByte byte ++ 58 :: rest) = byte :: sscanfOctets count rest := by
  rw [sscanfOctets, scanHhx_hexByte byte (endsOctet_colon rest)]
  rfl

theorem sscanfOctets_last (count : Nat) (byte : UInt8)
    : sscanfOctets (count + 1) (hexByte byte) = [byte] := by
  have hscan := scanHhx_hexByte byte endsOctet_nil
  rw [List.append_nil] at hscan
  rw [sscanfOctets, hscan]
  rfl

theorem sscanfMac_lower (mac : MacAddr)
    : sscanfMac mac.lower = some mac := by
  unfold sscanfMac MacAddr.lower
  simp only [List.append_assoc, List.cons_append, List.nil_append]
  rw [sscanfOctets_colon, sscanfOctets_colon, sscanfOctets_colon, sscanfOctets_colon,
    sscanfOctets_colon, sscanfOctets_last]

def octets (mac : MacAddr) : List UInt8 :=
  [mac.b0, mac.b1, mac.b2, mac.b3, mac.b4, mac.b5]

theorem length_printHhx_le (byte : UInt8)
    : (printHhx byte).length ≤ 2 := by
  unfold printHhx
  split
  . simp
  . simp [hexByte]

theorem length_printHhx_of_lt {byte : UInt8} (hlt : byte.toNat < 16)
    : (printHhx byte).length = 1 := by
  unfold printHhx
  rw [if_pos hlt]
  rfl

theorem printHhx_of_le {byte : UInt8} (hle : 16 ≤ byte.toNat)
    : printHhx byte = hexByte byte := by
  unfold printHhx
  rw [if_neg (by omega)]

theorem snprintfMac_eq_lower_iff (mac : MacAddr)
    : snprintfMac 18 mac = mac.lower ↔ ∀ octet ∈ octets mac, 16 ≤ octet.toNat := by
  constructor
  . intro heq octet hoctet
    have hlength := congrArg List.length heq
    simp only [snprintfMac, strscpy, MacAddr.lower, List.length_take, List.length_append,
      hexByte, List.length_cons, List.length_nil] at hlength
    have h0 := length_printHhx_le mac.b0
    have h1 := length_printHhx_le mac.b1
    have h2 := length_printHhx_le mac.b2
    have h3 := length_printHhx_le mac.b3
    have h4 := length_printHhx_le mac.b4
    have h5 := length_printHhx_le mac.b5
    simp only [octets, List.mem_cons, List.not_mem_nil, or_false] at hoctet
    apply Decidable.byContradiction
    intro hnot
    have hshort := length_printHhx_of_lt (Nat.lt_of_not_le hnot)
    rcases hoctet with rfl | rfl | rfl | rfl | rfl | rfl <;> omega
  . intro hle
    simp only [octets, List.mem_cons, List.not_mem_nil, or_false, forall_eq_or_imp, forall_eq] at hle
    have ⟨h0, h1, h2, h3, h4, h5⟩ := hle
    unfold snprintfMac
    rw [printHhx_of_le h0, printHhx_of_le h1, printHhx_of_le h2, printHhx_of_le h3, printHhx_of_le h4,
      printHhx_of_le h5]
    rfl

end Vif
end OpenSyncRdk
