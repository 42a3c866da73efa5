import OpenSyncRdk.Stats.Clients
import Mathlib.Algebra.GroupWithZero.Nat
import Mathlib.Data.List.Induction
import Mathlib.Data.List.Infix

/-!
The deltas that `stats_clients_convert` reports over a whole association, against what the driver counted.
The record that one call leaves in `data_new` is the `data_old` of the next.
-/

namespace OpenSyncRdk
namespace Stats

structure Account where
  dataOld : ClientRecord
  reported : Counter → Nat

def Account.empty : Account :=
  { dataOld := ClientRecord.zero, reported := fun _ => 0 }

def Account.sample (account : Account) (dataNew : ClientRecord) : Account :=
  let converted := statsClientsConvert dataNew account.dataOld
  { dataOld := converted.dataNew
    reported := fun counter =>
      account.reported counter + (converted.clientResult.get counter).toNat
  }

def accountOf (samples : List ClientRecord) : Account :=
  samples.foldl Account.sample Account.empty

def values (counter : Counter) (samples : List ClientRecord) : List Nat :=
  samples.map (fun sample => (sample.stats.get counter).toNat)

/-- A driver that restarted counts from zero. -/
def growth (previous current : Nat) : Nat :=
  if previous ≤ current then current - previous else current

def growths (previous : Nat) : List Nat → List Nat
  | [] => []
  | current :: rest => growth previous current :: growths current rest

def last (counts : List Nat) : Nat :=
  counts.getLastD 0

def EndsInDrop (counts : List Nat) : Prop :=
  ∃ pre current, counts = pre ++ [current] ∧ current < last pre

def NoDoubleDrop (counts : List Nat) : Prop :=
  ∀ a b c, [a, b, c] <:+: counts → ¬ (b < a ∧ c < b)

@[simp]
theorem accountOf_concat (samples : List ClientRecord) (dataNew : ClientRecord)
    : accountOf (samples ++ [dataNew]) = (accountOf samples).sample dataNew := by
  unfold accountOf
  rw [List.foldl_append]
  rfl

@[simp]
theorem values_concat (counter : Counter) (samples : List ClientRecord) (dataNew : ClientRecord)
    : values counter (samples ++ [dataNew])
        =
      values counter samples ++ [(dataNew.stats.get counter).toNat] := by
  simp [values]

@[simp]
theorem last_concat (counts : List Nat) (count : Nat)
    : last (counts ++ [count]) = count := by
  simp [last]

theorem growths_append (previous : Nat) (lhs rhs : List Nat)
    : growths previous (lhs ++ rhs)
        =
      growths previous lhs ++ growths (lhs.getLastD previous) rhs := by
  induction lhs generalizing previous with
  | nil => rfl
  | cons current rest ih =>
    rw [List.cons_append, growths, growths, ih current, List.getLastD_cons]
    rfl

theorem growths_concat (counts : List Nat) (count : Nat)
    : growths 0 (counts ++ [count]) = growths 0 counts ++ [growth (last counts) count] := by
  rw [growths_append]
  rfl

@[simp]
theorem sum_growths_concat (counts : List Nat) (count : Nat)
    : (growths 0 (counts ++ [count])).sum = (growths 0 counts).sum + growth (last counts) count := by
  rw [growths_concat]
  simp

@[simp]
theorem endsInDrop_concat {counts : List Nat} {count : Nat}
    : EndsInDrop (counts ++ [count]) ↔ count < last counts := by
  constructor
  . intro ⟨pre, current, heq, hlt⟩
    rw [List.append_singleton_inj] at heq
    rw [heq.1, heq.2]
    exact hlt
  . intro hlt
    exact ⟨counts, count, rfl, hlt⟩

theorem not_noDoubleDrop {counts : List Nat} {count : Nat} (hdrop : EndsInDrop counts)
    (hlt : count < last counts)
    : ¬ NoDoubleDrop (counts ++ [count]) := by
  have ⟨pre, current, heq, hlt'⟩ := hdrop
  rw [heq, last_concat] at hlt
  intro hno
  induction pre using List.reverseRecOn with
  | nil => simp [last] at hlt'
  | append_singleton pre previous _ =>
    rw [last_concat] at hlt'
    apply hno previous current count
    . rw [heq]
      exact ⟨pre, [], by simp⟩
    . exact ⟨hlt', hlt⟩

theorem NoDoubleDrop.of_concat {counts : List Nat} {count : Nat}
    (hno : NoDoubleDrop (counts ++ [count]))
    : NoDoubleDrop counts := by
  intro a b c hinfix
  apply hno
  exact hinfix.trans (List.prefix_append counts [count]).isInfix

theorem accountOf_connection {cookie : UInt64} {samples : List ClientRecord}
    (hcookie : ∀ sample ∈ samples, sample.statsCookie = cookie)
    : accountOf samples = Account.empty ∨ (accountOf samples).dataOld.statsCookie = cookie := by
  induction samples using List.reverseRecOn with
  | nil =>
    apply Or.inl
    rfl
  | append_singleton pre sample _ =>
    apply Or.inr
    rw [accountOf_concat]
    exact hcookie sample (by simp)

theorem compared_accountOf {cookie : UInt64} {samples : List ClientRecord}
    (hcookie : ∀ sample ∈ samples, sample.statsCookie = cookie) {sample : ClientRecord}
    (hsample : sample.statsCookie = cookie) (counter : Counter)
    : compared sample (accountOf samples).dataOld counter
        =
      addDelta (sample.stats.get counter) ((accountOf samples).dataOld.stats.get counter) := by
  unfold compared
  rcases accountOf_connection hcookie with hempty | hconnection
  . have hzero : (accountOf samples).dataOld.stats.get counter = 0 := by
      rw [hempty]
      apply zero_get
    rw [hzero, ite_self]
  . rw [if_neg]
    rw [hsample, hconnection]
    simp

/--
After a drop of the counter nothing is kept, and the value that it dropped to is reported with the next
sample, unless the counter drops again: then it is `lost`.
-/
structure Balanced (counts : List Nat) (stored reported : Nat) (lost : Nat) : Prop where
  balance : reported + lost + (last counts - stored) = (growths 0 counts).sum
  kept : stored = last counts ∨ (stored = 0 ∧ last counts < 2 ^ 31 ∧ EndsInDrop counts)
  lossless : NoDoubleDrop counts → lost = 0

theorem balanced_nil
    : Balanced [] 0 0 0 := by
  constructor
  . rfl
  . exact Or.inl rfl
  . intro _
    rfl

theorem Balanced.sample {counts : List Nat} {stored : UInt64} {reported lost : Nat}
    (hbalanced : Balanced counts stored.toNat reported lost) (current : UInt64)
    (hgrowth : growth (last counts) current.toNat < 2 ^ 31)
    : ∃ lost',
        Balanced (counts ++ [current.toNat]) (addDelta current stored).new.toNat
          (reported + (addDelta current stored).delta.toNat) lost' := by
  have ⟨hbalance, hkept, hlossless⟩ := hbalanced
  unfold growth at hgrowth
  by_cases hle : stored ≤ current
  . have hle' := UInt64.le_iff_toNat_le.mp hle
    rw [addDelta_le hle]
    dsimp only
    by_cases hdrop : current.toNat < last counts
    . -- `stored` is zero since an earlier drop, which this one follows
      rw [if_neg (by omega)] at hgrowth
      have ⟨hzero, _, hends⟩ : stored.toNat = 0 ∧ last counts < 2 ^ 31 ∧ EndsInDrop counts := by
        rcases hkept with hkept | hkept
        . omega
        . exact hkept
      refine ⟨lost + last counts, ?_, ?_, ?_⟩
      . rw [calcDelta32_toNat hle, sum_growths_concat, last_concat, growth, if_neg (by omega)]
        omega
      . apply Or.inl
        rw [last_concat]
      . intro hno
        exact absurd hno (not_noDoubleDrop hends hdrop)
    . rw [if_pos (by omega)] at hgrowth
      refine ⟨lost, ?_, ?_, ?_⟩
      . rw [calcDelta32_toNat hle, sum_growths_concat, last_concat, growth, if_pos (by omega)]
        omega
      . apply Or.inl
        rw [last_concat]
      . intro hno
        exact hlossless hno.of_concat
  . have hlt := UInt64.not_le.mp hle
    have hlt' := UInt64.lt_iff_toNat_lt.mp hlt
    have hlast : stored.toNat = last counts := by
      omega
    rw [if_neg (by omega)] at hgrowth
    rw [addDelta_gt hlt]
    refine ⟨lost, ?_, ?_, ?_⟩
    . rw [sum_growths_concat, last_concat, growth, if_neg (by omega), UInt64.toNat_zero]
      omega
    . apply Or.inr
      rw [last_concat, endsInDrop_concat, ← hlast]
      exact ⟨rfl, hgrowth, hlt'⟩
    . intro hno
      exact hlossless hno.of_concat

theorem accountOf_balanced {cookie : UInt64} {samples : List ClientRecord}
    (hcookie : ∀ sample ∈ samples, sample.statsCookie = cookie) (counter : Counter)
    (hgrowths : ∀ grown ∈ growths 0 (values counter samples), grown < 2 ^ 31)
    : ∃ lost,
        Balanced (values counter samples) ((accountOf samples).dataOld.stats.get counter).toNat
          ((accountOf samples).reported counter) lost := by
  induction samples using List.reverseRecOn with
  | nil =>
    refine ⟨0, ?_⟩
    rw [show accountOf [] = Account.empty by rfl]
    unfold Account.empty ClientRecord.zero
    rw [zero_get]
    exact balanced_nil
  | append_singleton samples sample ih =>
    rw [values_concat, growths_concat] at hgrowths
    have hcookie' : ∀ sample ∈ samples, sample.statsCookie = cookie := by
      intro sample hmem
      apply hcookie
      simp [hmem]
    have ⟨lost, hbalanced⟩ := ih hcookie' (fun grown hmem => hgrowths grown (by simp [hmem]))
    have hsample := hbalanced.sample (sample.stats.get counter) (hgrowths _ (by simp))
    have hcompared := compared_accountOf hcookie' (hcookie sample (by simp)) counter
    rw [values_concat, accountOf_concat, Account.sample]
    dsimp only
    rw [statsClientsConvert_new_get, statsClientsConvert_result_get, hcompared]
    exact hsample

theorem reported_growths (cookie : UInt64) (samples : List ClientRecord) (counter : Counter)
    (hcookie : ∀ sample ∈ samples, sample.statsCookie = cookie)
    (hgrowths : ∀ grown ∈ growths 0 (values counter samples), grown < 2 ^ 31)
    (pre : List ClientRecord) (sample : ClientRecord) (hpre : pre ++ [sample] <+: samples)
    : let account := accountOf (pre ++ [sample])
      let counts := values counter (pre ++ [sample])
      account.reported counter ≤ (growths 0 counts).sum
        ∧ (NoDoubleDrop counts → last (values counter pre) ≤ (sample.stats.get counter).toNat
            → account.reported counter = (growths 0 counts).sum) := by
  have ⟨rest, hrest⟩ := hpre
  rw [← hrest] at hcookie
  rw [← hrest, values, List.map_append, ← values, ← values, growths_append] at hgrowths
  have ⟨lost, hbalance, hkept, hlossless⟩ := accountOf_balanced
    (fun sample hmem => hcookie sample (List.mem_append_left rest hmem)) counter
    (fun grown hmem => hgrowths grown (List.mem_append_left _ hmem))
  constructor
  . omega
  . intro hno hle
    have hlost := hlossless hno
    rcases hkept with hkept | ⟨_, _, hends⟩
    . omega
    . rw [values_concat, endsInDrop_concat] at hends
      omega

def sampleOf (count : UInt64) : ClientRecord :=
  { stats := { DevStats.zero with cliTxBytes := count }, cliSNR := 30, statsCookie := 7 }

theorem reported_growths_restart
    : (accountOf [sampleOf 500, sampleOf 40, sampleOf 90]).reported .bytesTx
        =
      (growths 0 (values .bytesTx [sampleOf 500, sampleOf 40, sampleOf 90])).sum := by
  apply (reported_growths 7 [sampleOf 500, sampleOf 40, sampleOf 90] .bytesTx
    (by decide) (by decide) [sampleOf 500, sampleOf 40] (sampleOf 90) List.prefix_rfl).2
  . intro a b c hinfix
    have heq := hinfix.eq_of_length rfl
    have ⟨ha, hb, hc⟩ : a = 500 ∧ b = 40 ∧ c = 90 := by
      simpa [values, sampleOf, DevStats.get] using heq
    omega
  . decide

end Stats
end OpenSyncRdk
