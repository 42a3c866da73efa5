import Mathlib.Computability.RegularExpressions
import Mathlib.Data.List.TakeWhile
import OpenSyncRdk.Lib.Bytes

/-!
A line of the lease file, as `dhcp_server_lease_parse_line` of `osn_dhcps.c` takes it apart. No field but the
vendor class can hold a space, so there is only one way in which the regular expression matches a line.
-/

namespace OpenSyncRdk
namespace Osn

open RegularExpression

def oneOf (chars : CStr) : RegularExpression UInt8 :=
  chars.foldr (fun c re => char c + re) 0

def optional (re : RegularExpression UInt8) : RegularExpression UInt8 :=
  1 + re

def oneOrMore (re : RegularExpression UInt8) : RegularExpression UInt8 :=
  re * re.star

def digit : RegularExpression UInt8 :=
  oneOf (cstr "0123456789")

def timestampRe : RegularExpression UInt8 :=
  oneOrMore digit

def macRe : RegularExpression UInt8 :=
  let hexDigit := oneOf (cstr "abcdefABCDEF0123456789")
  (hexDigit * hexDigit * optional (char 58)) ^ 6

def ipRe : RegularExpression UInt8 :=
  (oneOrMore digit * optional (char 46)) ^ 4

def hostnameRe : RegularExpression UInt8 :=
  char 42
    + oneOrMore (oneOf (cstr "abcdefghijklmnopqrstuvwxyzABCDEFGHIJKLMNOPQRSTUVWXYZ0123456789_-"))

def fingerprintRe : RegularExpression UInt8 :=
  char 42 + oneOrMore (oneOrMore digit * optional (char 44))

structure Groups where
  timestamp : CStr
  mac : CStr
  ip : CStr
  hostname : CStr
  fingerprint : CStr
  vendorClass : CStr
  deriving DecidableEq

def field (re : RegularExpression UInt8) (line : CStr) : Option (CStr × CStr) :=
  let text := line.takeWhile (fun c => c ≠ 32)
  match line.dropWhile (fun c => c ≠ 32) with
  | [] => none
  | _ :: rest => if re.rmatch text then some (text, rest) else none

def quoted (line : CStr) : Option CStr :=
  match line with
  | 34 :: rest =>
    let text := rest.takeWhile (fun c => c ≠ 34)
    match rest.dropWhile (fun c => c ≠ 34) with
    | 34 :: 32 :: cid => if text ≠ [] ∧ cid ≠ [] ∧ 32 ∉ cid then some text else none
    | _ => none
  | _ => none

def leaseRegexec (line : CStr) : Option Groups := do
  let (timestamp, line) ← field timestampRe line
  let (mac, line) ← field macRe line
  let (ip, line) ← field ipRe line
  let (hostname, line) ← field hostnameRe line
  let (fingerprint, line) ← field fingerprintRe line
  let vendorClass ← quoted line
  some { timestamp, mac, ip, hostname, fingerprint, vendorClass }

def noSpace : RegularExpression UInt8 → Bool
  | zero => true
  | epsilon => true
  | char c => c != 32
  | plus lhs rhs => noSpace lhs && noSpace rhs
  | comp lhs rhs => noSpace lhs && noSpace rhs
  | .star re => noSpace re

theorem space_not_mem {re : RegularExpression UInt8} (hre : noSpace re = true) {word : CStr}
    (hword : word ∈ re.matches')
    : 32 ∉ word := by
  induction re generalizing word with
  | zero => exact absurd hword (Language.notMem_zero word)
  | epsilon =>
    rw [show word = [] from hword]
    exact List.not_mem_nil
  | char c =>
    rw [show word = [c] from hword, List.mem_singleton]
    exact (bne_iff_ne.mp hre).symm
  | plus lhs rhs hlhs hrhs =>
    have ⟨hl, hr⟩ := Bool.and_eq_true_iff.mp hre
    cases (hword : word ∈ lhs.matches' ∨ word ∈ rhs.matches') with
    | inl hword => exact hlhs hl hword
    | inr hword => exact hrhs hr hword
  | comp lhs rhs hlhs hrhs =>
    have ⟨hl, hr⟩ := Bool.and_eq_true_iff.mp hre
    have ⟨front, hfront, back, hback, heq⟩ := Language.mem_mul.mp hword
    rw [← heq, List.mem_append, not_or]
    exact ⟨hlhs hl hfront, hrhs hr hback⟩
  | star re ih =>
    have ⟨words, heq, hwords⟩ := Language.mem_kstar.mp hword
    rw [heq, List.mem_flatten]
    intro ⟨word, hmem, hspace⟩
    exact ih hre (hwords word hmem) hspace

theorem takeWhile_ne_append {c : UInt8} {text : CStr} (htext : c ∉ text) (rest : CStr)
    : (text ++ c :: rest).takeWhile (fun d => d ≠ c) = text
        ∧ (text ++ c :: rest).dropWhile (fun d => d ≠ c) = c :: rest := by
  have hne : ∀ d ∈ text, decide (d ≠ c) = true := by
    intro d hd
    rw [decide_eq_true_eq]
    exact ne_of_mem_of_not_mem hd htext
  rw [List.takeWhile_append_of_pos hne, List.dropWhile_append_of_pos hne]
  simp

theorem dropWhile_ne_cons {c d : UInt8} {text rest : CStr}
    (hdrop : text.dropWhile (fun d => d ≠ c) = d :: rest)
    : d = c ∧ text = text.takeWhile (fun d => d ≠ c) ++ c :: rest := by
  induction text with
  | nil => contradiction
  | cons head tail ih =>
    rw [List.dropWhile_cons] at hdrop
    rw [List.takeWhile_cons]
    split at hdrop
    . next hne =>
      have ⟨hd, htail⟩ := ih hdrop
      rw [if_pos hne, List.cons_append, ← htail]
      exact ⟨hd, rfl⟩
    . next hne =>
      injection hdrop with hhead hrest
      rw [decide_eq_true_eq, not_not] at hne
      rw [if_neg (by simp [hne]), ← hhead, hne, hrest]
      exact ⟨rfl, rfl⟩

theorem field_iff {re : RegularExpression UInt8} (hre : noSpace re = true) {line text rest : CStr}
    : field re line = some (text, rest) ↔ line = text ++ 32 :: rest ∧ text ∈ re.matches' := by
  constructor
  . intro hfield
    unfold field at hfield
    dsimp only at hfield
    split at hfield
    . contradiction
    . next hdrop =>
      split at hfield
      . next hmatch =>
        injection hfield with hfield
        injection hfield with htext hrest
        rw [rmatch_iff_matches', htext] at hmatch
        rw [hrest] at hdrop
        have ⟨_, hline⟩ := dropWhile_ne_cons hdrop
        rw [htext] at hline
        exact ⟨hline, hmatch⟩
      . contradiction
  . intro ⟨hline, hmatch⟩
    have ⟨htake, hdrop⟩ := takeWhile_ne_append (space_not_mem hre hmatch) rest
    unfold field
    rw [hline, htake, hdrop]
    dsimp only
    rw [if_pos]
    rw [rmatch_iff_matches']
    exact hmatch

theorem field_append {re : RegularExpression UInt8} (hre : noSpace re = true) {text : CStr}
    (htext : text ∈ re.matches') (rest : CStr)
    : field re (text ++ 32 :: rest) = some (text, rest) :=
  (field_iff hre).mpr ⟨rfl, htext⟩

theorem quoted_iff {line text : CStr}
    : quoted line = some text
        ↔
      ∃ cid, line = 34 :: (text ++ 34 :: 32 :: cid) ∧ (text ≠ [] ∧ 34 ∉ text) ∧ cid ≠ [] ∧ 32 ∉ cid := by
  constructor
  . intro hquoted
    unfold quoted at hquoted
    split at hquoted
    . next rest =>
      dsimp only at hquoted
      split at hquoted
      . next cid hdrop =>
        split at hquoted
        . next hcid =>
          injection hquoted with htext
          have ⟨_, hrest⟩ := dropWhile_ne_cons hdrop
          rw [htext] at hrest hcid
          refine ⟨cid, by rw [← hrest], ⟨hcid.1, ?_⟩, hcid.2⟩
          intro hmem
          rw [← htext] at hmem
          simpa using List.mem_takeWhile_imp hmem
        . contradiction
      . contradiction
    . contradiction
  . intro ⟨cid, hline, ⟨hne, hquote⟩, hcid⟩
    have ⟨htake, hdrop⟩ := takeWhile_ne_append hquote (32 :: cid)
    simp only [quoted, hline, htake, hdrop]
    rw [if_pos ⟨hne, hcid⟩]

structure LineMatches (line : CStr) (groups : Groups) (cid : CStr) : Prop where
  line
    : line
        =
      groups.timestamp ++ 32 :: (groups.mac ++ 32 :: (groups.ip ++ 32 :: (groups.hostname ++ 32
        :: (groups.fingerprint ++ 32 :: (34 :: (groups.vendorClass ++ 34 :: (32 :: cid)))))))
  timestamp : groups.timestamp ∈ timestampRe.matches'
  mac : groups.mac ∈ macRe.matches'
  ip : groups.ip ∈ ipRe.matches'
  hostname : groups.hostname ∈ hostnameRe.matches'
  fingerprint : groups.fingerprint ∈ fingerprintRe.matches'
  vendorClass : groups.vendorClass ≠ [] ∧ 34 ∉ groups.vendorClass
  cid : cid ≠ [] ∧ 32 ∉ cid

theorem leaseRegexec_iff {line : CStr} {groups : Groups}
    : leaseRegexec line = some groups ↔ ∃ cid, LineMatches line groups cid := by
  constructor
  . intro hexec
    simp only [leaseRegexec, Option.bind_eq_bind, Option.bind_eq_some_iff, Prod.exists] at hexec
    obtain ⟨timestamp, line1, h1, mac, line2, h2, ip, line3, h3, hostname, line4, h4, fingerprint, line5,
      h5, vendorClass, h6, hgroups⟩ := hexec
    rw [field_iff (by decide)] at h1 h2 h3 h4 h5
    obtain ⟨cid, h6, hvendorClass, hcid⟩ := quoted_iff.mp h6
    injection hgroups with hgroups
    subst hgroups
    refine ⟨cid, ?_, h1.2, h2.2, h3.2, h4.2, h5.2, hvendorClass, hcid⟩
    rw [h1.1, h2.1, h3.1, h4.1, h5.1, h6]
  . intro ⟨cid, hline, htimestamp, hmac, hip, hhostname, hfingerprint, hvendorClass, hcid⟩
    have hcopied := quoted_iff.mpr ⟨cid, rfl, hvendorClass, hcid⟩
    simp only [leaseRegexec, Option.bind_eq_bind, hline]
    rw [field_append (by decide) htimestamp]
    simp only [Option.bind_some]
    rw [field_append (by decide) hmac]
    simp only [Option.bind_some]
    rw [field_append (by decide) hip]
    simp only [Option.bind_some]
    rw [field_append (by decide) hhostname]
    simp only [Option.bind_some]
    rw [field_append (by decide) hfingerprint]
    simp only [Option.bind_some, hcopied]

end Osn
end OpenSyncRdk
