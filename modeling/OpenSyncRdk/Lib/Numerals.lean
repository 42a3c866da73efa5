import OpenSyncRdk.Lib.Bytes
import Mathlib.Data.List.TakeWhile

/-!
Numbers as text: what `%d` prints and what `atoi` reads, with an `int` of 32 bits and a `long` of 64.
-/

namespace OpenSyncRdk

def isSpace (c : UInt8) : Bool :=
  c == 32 || (9 ≤ c && c ≤ 13)

def isDigit (c : UInt8) : Bool :=
  48 ≤ c && c ≤ 57

/-- `strtol` in base ten. What does not fit is cut off at the end of the range. -/
def strtol (s : CStr) : Int :=
  match s.dropWhile isSpace with
  | 45 :: digits => max (-2 ^ 63) (-(ofDecimal (digits.takeWhile isDigit) : Int))
  | 43 :: digits => min (2 ^ 63 - 1) (ofDecimal (digits.takeWhile isDigit))
  | digits => min (2 ^ 63 - 1) (ofDecimal (digits.takeWhile isDigit))

def digitValue (c : UInt8) : Nat :=
  if isDigit c then
    c.toNat - 48
  else if 97 ≤ c ∧ c ≤ 122 then
    c.toNat - 87
  else if 65 ≤ c ∧ c ≤ 90 then
    c.toNat - 55
  else
    36

def ofDigits (base : Nat) (s : CStr) : Nat :=
  (s.takeWhile (digitValue · < base)).foldl (fun val c => base * val + digitValue c) 0

def ofPrefixed : CStr → Nat
  | 48 :: c :: s => if c = 120 ∨ c = 88 then ofDigits 16 s else ofDigits 8 (c :: s)
  | s => ofDigits 10 s

/-- `strtol` with the base left to the text. -/
def strtolPrefixed (s : CStr) : Int :=
  match s.dropWhile isSpace with
  | 45 :: digits => max (-2 ^ 63) (-(ofPrefixed digits : Int))
  | 43 :: digits => min (2 ^ 63 - 1) (ofPrefixed digits)
  | digits => min (2 ^ 63 - 1) (ofPrefixed digits)

def atoi (s : CStr) : Int :=
  (strtol s).bmod (2 ^ 32)

def decimalInt (val : Int) : CStr :=
  if val < 0 then 45 :: decimal val.natAbs else decimal val.natAbs

def hex (val : Nat) : CStr :=
  (Nat.toDigits 16 val).map (fun c => UInt8.ofNat c.toNat)

theorem isDigit_of_mem_decimal {val : Nat} {c : UInt8} (hc : c ∈ decimal val)
    : isDigit c = true := by
  unfold decimal at hc
  rw [List.mem_map] at hc
  have ⟨digit, hmem, heq⟩ := hc
  have hdigit := Nat.isDigit_of_mem_toDigits (by decide) (by decide) hmem
  rw [Char.isDigit_iff_toNat] at hdigit
  have hnine : '9'.toNat = 57 := by rfl
  have hzero : '0'.toNat = 48 := by rfl
  have hval : c.toNat = digit.toNat := by
    rw [← heq, UInt8.toNat_ofNat']
    omega
  unfold isDigit
  rw [Bool.and_eq_true, decide_eq_true_eq, decide_eq_true_eq, UInt8.le_iff_toNat_le,
    UInt8.le_iff_toNat_le, hval]
  exact ⟨by simpa [hzero] using hdigit.1, by simpa [hnine] using hdigit.2⟩

theorem decimal_ne_nil (val : Nat)
    : decimal val ≠ [] := by
  simp [decimal]

theorem decimal_length_le_iff {val size : Nat} (hsize : 0 < size)
    : (decimal val).length ≤ size ↔ val < 10 ^ size := by
  unfold decimal
  rw [List.length_map]
  exact Nat.length_toDigits_le_iff (by decide) hsize

theorem hex_length_le_iff {val size : Nat} (hsize : 0 < size)
    : (hex val).length ≤ size ↔ val < 16 ^ size := by
  unfold hex
  rw [List.length_map]
  exact Nat.length_toDigits_le_iff (by decide) hsize

theorem takeWhile_decimal_append (val : Nat) {c : UInt8} (hc : isDigit c = false) (rest : CStr)
    : (decimal val ++ c :: rest).takeWhile isDigit = decimal val := by
  rw [List.takeWhile_append_of_pos (fun c hc => isDigit_of_mem_decimal hc)]
  simp [hc]

theorem decimal_append_inj {lhs rhs : Nat} {c : UInt8} {lhsRest rhsRest : CStr}
    (hc : isDigit c = false) (heq : decimal lhs ++ c :: lhsRest = decimal rhs ++ c :: rhsRest)
    : lhs = rhs ∧ lhsRest = rhsRest := by
  have hdigits := takeWhile_decimal_append lhs hc lhsRest
  rw [heq, takeWhile_decimal_append rhs hc rhsRest] at hdigits
  rw [hdigits, List.append_cancel_left_eq, List.cons.injEq] at heq
  exact ⟨(decimal_injective hdigits).symm, heq.2⟩

theorem strtol_digits {digits : CStr} (hne : digits ≠ []) (hdigits : ∀ c ∈ digits, isDigit c = true)
    : strtol digits = min (2 ^ 63 - 1) (ofDecimal digits : Int) := by
  have htake := List.takeWhile_eq_self_iff.mpr hdigits
  have hdrop : digits.dropWhile isSpace = digits := by
    cases digits with
    | nil => contradiction
    | cons c digits =>
      have hdigit := hdigits c (by simp)
      apply List.dropWhile_cons_of_neg
      unfold isSpace isDigit at *
      grind
  unfold strtol
  rw [hdrop]
  split
  . next rest =>
    have hdigit := hdigits 45 (by simp)
    contradiction
  . next rest =>
    have hdigit := hdigits 43 (by simp)
    contradiction
  . rw [htake]

theorem strtol_decimal {val : Nat} (hval : val < 2 ^ 63)
    : strtol (decimal val) = val := by
  rw [strtol_digits (decimal_ne_nil val) (fun c hc => isDigit_of_mem_decimal hc), ofDecimal_decimal]
  omega

theorem atoi_decimal {val : Nat} (hval : val < 2 ^ 31)
    : atoi (decimal val) = val := by
  unfold atoi
  rw [strtol_decimal (by omega)]
  apply Int.bmod_eq_of_le
  . omega
  . omega

theorem decimalInt_natCast (val : Nat)
    : decimalInt val = decimal val := by
  unfold decimalInt
  rw [if_neg (by omega), Int.natAbs_natCast]

theorem atoi_decimalInt {val : Int} (hpos : 0 ≤ val) (hval : val < 2 ^ 31)
    : atoi (decimalInt val) = val := by
  obtain ⟨nat, rfl⟩ := Int.eq_ofNat_of_zero_le hpos
  rw [decimalInt_natCast, atoi_decimal (by omega)]

inductive Spells : CStr → Int → Prop where
  | nonneg {digits : CStr} (hne : digits ≠ []) (hdigits : ∀ c ∈ digits, isDigit c = true)
    : Spells digits (ofDecimal digits)
  | neg {digits : CStr} (hne : digits ≠ []) (hdigits : ∀ c ∈ digits, isDigit c = true)
    : Spells (45 :: digits) (-(ofDecimal digits : Int))

theorem Spells.not_mem {text : CStr} {val : Int} (hspells : Spells text val) {c : UInt8} (hminus : c ≠ 45)
    (hdigit : isDigit c = false)
    : c ∉ text := by
  intro hmem
  cases hspells with
  | nonneg _ hdigits =>
    rw [hdigits c hmem] at hdigit
    contradiction
  | neg _ hdigits =>
    rcases List.mem_cons.mp hmem with heq | hmem
    . exact hminus heq
    . rw [hdigits c hmem] at hdigit
      contradiction

theorem Spells.strtol_eq {text : CStr} {val : Int} (hspells : Spells text val) (hlow : -2 ^ 63 ≤ val)
    (hhigh : val < 2 ^ 63)
    : strtol text = val := by
  cases hspells with
  | nonneg hne hdigits =>
    rw [strtol_digits hne hdigits]
    omega
  | @neg digits hne hdigits =>
    have htake := List.takeWhile_eq_self_iff.mpr hdigits
    have hspace : ¬isSpace 45 = true := by decide
    unfold strtol
    rw [List.dropWhile_cons_of_neg hspace]
    show max (-2 ^ 63) (-(ofDecimal (digits.takeWhile isDigit) : Int)) = _
    rw [htake]
    omega

inductive Literal : CStr → Nat → Prop where
  | decimal {digits : CStr} (hne : digits ≠ []) (hdigits : ∀ c ∈ digits, isDigit c = true)
      (hzero : digits.head? ≠ some 48 ∨ digits = [48])
    : Literal digits (ofDecimal digits)
  | hex {digits : CStr} (hdigits : ∀ c ∈ digits, digitValue c < 16)
    : Literal (48 :: 120 :: digits) (ofDigits 16 digits)

theorem digitValue_of_isDigit {c : UInt8} (hdigit : isDigit c = true)
    : digitValue c = c.toNat - 48 ∧ digitValue c < 10 := by
  unfold digitValue
  rw [if_pos hdigit]
  unfold isDigit at hdigit
  rw [Bool.and_eq_true, decide_eq_true_eq, decide_eq_true_eq, UInt8.le_iff_toNat_le,
    UInt8.le_iff_toNat_le] at hdigit
  refine ⟨rfl, ?_⟩
  have hnine : (57 : UInt8).toNat = 57 := by rfl
  omega

theorem ofDigits_ten {digits : CStr} (hdigits : ∀ c ∈ digits, isDigit c = true)
    : ofDigits 10 digits = ofDecimal digits := by
  have htake : digits.takeWhile (digitValue · < 10) = digits := by
    rw [List.takeWhile_eq_self_iff]
    intro c hc
    exact decide_eq_true (digitValue_of_isDigit (hdigits c hc)).2
  unfold ofDigits ofDecimal
  rw [htake]
  apply List.foldl_ext
  intro val c hc
  rw [(digitValue_of_isDigit (hdigits c hc)).1]

theorem Literal.not_mem {text : CStr} {val : Nat} (hliteral : Literal text val) {c : UInt8}
    (hmarker : c ≠ 120) (hdigit : 16 ≤ digitValue c)
    : c ∉ text := by
  have hnot : isDigit c = false := by
    rw [← Bool.not_eq_true]
    intro hc
    have := (digitValue_of_isDigit hc).2
    omega
  intro hmem
  cases hliteral with
  | decimal _ hdigits _ =>
    rw [hdigits c hmem] at hnot
    contradiction
  | hex hdigits =>
    rcases List.mem_cons.mp hmem with heq | hmem
    . rw [heq] at hnot
      contradiction
    . rcases List.mem_cons.mp hmem with heq | hmem
      . exact hmarker heq
      . have := hdigits c hmem
        omega

theorem ofPrefixed_decimal {digits : CStr} (hdigits : ∀ c ∈ digits, isDigit c = true)
    (hzero : digits.head? ≠ some 48 ∨ digits = [48])
    : ofPrefixed digits = ofDecimal digits := by
  rw [← ofDigits_ten hdigits]
  unfold ofPrefixed
  split
  . next c s =>
    simp at hzero
  . rfl

theorem Literal.strtolPrefixed_eq {text : CStr} {val : Nat} (hliteral : Literal text val)
    (hval : val < 2 ^ 63)
    : strtolPrefixed text = val := by
  cases hliteral with
  | decimal hne hdigits hzero =>
    have hmarkered := ofPrefixed_decimal hdigits hzero
    have hdrop : text.dropWhile isSpace = text := by
      cases text with
      | nil => contradiction
      | cons c digits =>
        have hdigit := hdigits c (by simp)
        apply List.dropWhile_cons_of_neg
        unfold isSpace isDigit at *
        grind
    unfold strtolPrefixed
    rw [hdrop]
    split
    . next rest =>
      have hdigit := hdigits 45 (by simp)
      contradiction
    . next rest =>
      have hdigit := hdigits 43 (by simp)
      contradiction
    . rw [hmarkered]
      omega
  | @hex digits hdigits =>
    have hspace : ¬isSpace 48 = true := by decide
    unfold strtolPrefixed
    rw [List.dropWhile_cons_of_neg hspace]
    show min (2 ^ 63 - 1) (ofDigits 16 digits : Int) = _
    omega

def tolower (c : UInt8) : UInt8 :=
  if 65 ≤ c ∧ c ≤ 90 then c + 32 else c

def strcaseeq (lhs rhs : CStr) : Bool :=
  lhs.map tolower == rhs.map tolower

end OpenSyncRdk
