import Mathlib.Algebra.Group.Nat.Defs

/-!
The statistics of the clients, `stats.c`: what `stats_clients_convert` reports for the time between two
records of a client.
-/

namespace OpenSyncRdk
namespace Stats

structure DevStats where
  cliTxBytes : UInt64
  cliRxBytes : UInt64
  cliTxFrames : UInt64
  cliRxFrames : UInt64
  cliTxRetries : UInt64
  cliRxRetries : UInt64
  cliTxErrors : UInt64
  cliRxErrors : UInt64
  cliTxRate : Nat
  cliRxRate : Nat
  deriving DecidableEq

structure ClientRecord where
  stats : DevStats
  cliSNR : Int
  statsCookie : UInt64
  deriving DecidableEq

structure ClientResult where
  bytesTx : UInt64
  bytesRx : UInt64
  framesTx : UInt64
  framesRx : UInt64
  retriesTx : UInt64
  retriesRx : UInt64
  errorsTx : UInt64
  errorsRx : UInt64
  rssi : Int
  rateTx : Nat
  rateRx : Nat
  deriving DecidableEq

def DevStats.zero : DevStats :=
  { cliTxBytes := 0, cliRxBytes := 0, cliTxFrames := 0, cliRxFrames := 0, cliTxRetries := 0
    cliRxRetries := 0, cliTxErrors := 0, cliRxErrors := 0, cliTxRate := 0, cliRxRate := 0 }

def ClientRecord.zero : ClientRecord :=
  { stats := DevStats.zero, cliSNR := 0, statsCookie := 0 }

def calcDelta32 (lhs rhs : UInt64) : UInt32 :=
  lhs.toUInt32 - rhs.toUInt32

structure Delta where
  new : UInt64
  old : UInt64
  delta : UInt64
  deriving DecidableEq

def addDelta (new old : UInt64) : Delta :=
  if old > new then
    { new := 0, old := 0, delta := (calcDelta32 0 0).toUInt64 }
  else
    { new, old, delta := (calcDelta32 new old).toUInt64 }

structure Converted where
  dataNew : ClientRecord
  dataOld : ClientRecord
  clientResult : ClientResult
  deriving DecidableEq

def forgetOtherConnection (dataNew dataOld : ClientRecord) : ClientRecord :=
  if dataNew.statsCookie ≠ dataOld.statsCookie then
    { dataOld with stats := DevStats.zero, cliSNR := 0 }
  else
    dataOld

def statsClientsConvert (dataNew dataOld : ClientRecord) : Converted :=
  let dataOld := forgetOtherConnection dataNew dataOld
  let txBytes := addDelta dataNew.stats.cliTxBytes dataOld.stats.cliTxBytes
  let rxBytes := addDelta dataNew.stats.cliRxBytes dataOld.stats.cliRxBytes
  let txFrames := addDelta dataNew.stats.cliTxFrames dataOld.stats.cliTxFrames
  let rxFrames := addDelta dataNew.stats.cliRxFrames dataOld.stats.cliRxFrames
  let txRetries := addDelta dataNew.stats.cliTxRetries dataOld.stats.cliTxRetries
  let rxRetries := addDelta dataNew.stats.cliRxRetries dataOld.stats.cliRxRetries
  let txErrors := addDelta dataNew.stats.cliTxErrors dataOld.stats.cliTxErrors
  let rxErrors := addDelta dataNew.stats.cliRxErrors dataOld.stats.cliRxErrors
  { dataNew :=
      { dataNew with
        stats :=
          { dataNew.stats with
            cliTxBytes := txBytes.new, cliRxBytes := rxBytes.new
            cliTxFrames := txFrames.new, cliRxFrames := rxFrames.new
            cliTxRetries := txRetries.new, cliRxRetries := rxRetries.new
            cliTxErrors := txErrors.new, cliRxErrors := rxErrors.new
          }
      }
    dataOld :=
      { dataOld with
        stats :=
          { dataOld.stats with
            cliTxBytes := txBytes.old, cliRxBytes := rxBytes.old
            cliTxFrames := txFrames.old, cliRxFrames := rxFrames.old
            cliTxRetries := txRetries.old, cliRxRetries := rxRetries.old
            cliTxErrors := txErrors.old, cliRxErrors := rxErrors.old
          }
      }
    clientResult :=
      { bytesTx := txBytes.delta, bytesRx := rxBytes.delta
        framesTx := txFrames.delta, framesRx := rxFrames.delta
        retriesTx := txRetries.delta, retriesRx := rxRetries.delta
        errorsTx := txErrors.delta, errorsRx := rxErrors.delta
        rssi := dataNew.cliSNR
        rateTx := dataNew.stats.cliTxRate
        rateRx := dataNew.stats.cliRxRate
      }
  }

inductive Counter where
  | bytesTx
  | bytesRx
  | framesTx
  | framesRx
  | retriesTx
  | retriesRx
  | errorsTx
  | errorsRx
  deriving DecidableEq

def DevStats.get (stats : DevStats) : Counter → UInt64
  | .bytesTx => stats.cliTxBytes
  | .bytesRx => stats.cliRxBytes
  | .framesTx => stats.cliTxFrames
  | .framesRx => stats.cliRxFrames
  | .retriesTx => stats.cliTxRetries
  | .retriesRx => stats.cliRxRetries
  | .errorsTx => stats.cliTxErrors
  | .errorsRx => stats.cliRxErrors

def ClientResult.get (result : ClientResult) : Counter → UInt64
  | .bytesTx => result.bytesTx
  | .bytesRx => result.bytesRx
  | .framesTx => result.framesTx
  | .framesRx => result.framesRx
  | .retriesTx => result.retriesTx
  | .retriesRx => result.retriesRx
  | .errorsTx => result.errorsTx
  | .errorsRx => result.errorsRx

@[simp]
theorem zero_get (counter : Counter)
    : DevStats.zero.get counter = 0 := by
  cases counter <;> rfl

theorem forgetOtherConnection_get (dataNew dataOld : ClientRecord) (counter : Counter)
    : (forgetOtherConnection dataNew dataOld).stats.get counter
        =
      if dataNew.statsCookie ≠ dataOld.statsCookie then 0 else dataOld.stats.get counter := by
  unfold forgetOtherConnection
  split
  . apply zero_get
  . rfl

/-- The values of a counter that are compared, in which that of another connection counts as zero. -/
def compared (dataNew dataOld : ClientRecord) (counter : Counter) : Delta :=
  addDelta (dataNew.stats.get counter)
    (if dataNew.statsCookie ≠ dataOld.statsCookie then 0 else dataOld.stats.get counter)

theorem statsClientsConvert_new_get (dataNew dataOld : ClientRecord) (counter : Counter)
    : (statsClientsConvert dataNew dataOld).dataNew.stats.get counter
        =
      (compared dataNew dataOld counter).new := by
  unfold compared
  rw [← forgetOtherConnection_get]
  cases counter <;> rfl

theorem statsClientsConvert_result_get (dataNew dataOld : ClientRecord) (counter : Counter)
    : (statsClientsConvert dataNew dataOld).clientResult.get counter
        =
      (compared dataNew dataOld counter).delta := by
  unfold compared
  rw [← forgetOtherConnection_get]
  cases counter <;> rfl

theorem addDelta_le {new old : UInt64} (hle : old ≤ new)
    : addDelta new old = { new, old, delta := (calcDelta32 new old).toUInt64 } := by
  unfold addDelta
  rw [if_neg]
  exact UInt64.not_lt.mpr hle

theorem addDelta_gt {new old : UInt64} (hgt : new < old)
    : addDelta new old = { new := 0, old := 0, delta := 0 } := by
  unfold addDelta
  rw [if_pos hgt]
  rfl

theorem calcDelta32_toNat {new old : UInt64} (hle : old ≤ new)
    : (calcDelta32 new old).toUInt64.toNat = (new.toNat - old.toNat) % 2 ^ 32 := by
  have hle' := UInt64.le_iff_toNat_le.mp hle
  unfold calcDelta32
  rw [UInt32.toNat_toUInt64, UInt32.toNat_sub, UInt64.toNat_toUInt32, UInt64.toNat_toUInt32]
  omega

theorem calcDelta32_eq_iff {new old : UInt64} (hle : old ≤ new)
    : (calcDelta32 new old).toUInt64 = new - old ↔ (new - old).toNat < 2 ^ 32 := by
  rw [← UInt64.toNat_inj, calcDelta32_toNat hle, UInt64.toNat_sub_of_le new old hle]
  exact Nat.mod_eq_iff_lt (by decide)

structure ExactDeltas (dataNew dataOld : ClientRecord) (result : ClientResult) : Prop where
  same
    : dataNew.statsCookie = dataOld.statsCookie
      → ∀ counter, result.get counter = dataNew.stats.get counter - dataOld.stats.get counter
  other
    : dataNew.statsCookie ≠ dataOld.statsCookie
      → ∀ counter, result.get counter = dataNew.stats.get counter

structure FitDeltas (dataNew dataOld : ClientRecord) : Prop where
  same
    : dataNew.statsCookie = dataOld.statsCookie
      → ∀ counter, (dataNew.stats.get counter - dataOld.stats.get counter).toNat < 2 ^ 32
  other
    : dataNew.statsCookie ≠ dataOld.statsCookie
      → ∀ counter, (dataNew.stats.get counter).toNat < 2 ^ 32

theorem delta_same {dataNew dataOld : ClientRecord} (hcookie : dataNew.statsCookie = dataOld.statsCookie)
    (hle : dataOld.stats.get counter ≤ dataNew.stats.get counter)
    : (statsClientsConvert dataNew dataOld).clientResult.get counter
        =
      (calcDelta32 (dataNew.stats.get counter) (dataOld.stats.get counter)).toUInt64 := by
  rw [statsClientsConvert_result_get, compared, if_neg (Decidable.not_not.mpr hcookie),
    addDelta_le hle]

theorem delta_other {dataNew dataOld : ClientRecord} (hcookie : dataNew.statsCookie ≠ dataOld.statsCookie)
    (counter : Counter)
    : (statsClientsConvert dataNew dataOld).clientResult.get counter
        =
      (calcDelta32 (dataNew.stats.get counter) 0).toUInt64 := by
  rw [statsClientsConvert_result_get, compared, if_pos hcookie, addDelta_le UInt64.zero_le]

theorem exactDeltas_iff {dataNew dataOld : ClientRecord}
    (hle
      : dataNew.statsCookie = dataOld.statsCookie
        → ∀ counter, dataOld.stats.get counter ≤ dataNew.stats.get counter)
    : ExactDeltas dataNew dataOld (statsClientsConvert dataNew dataOld).clientResult
        ↔
      FitDeltas dataNew dataOld := by
  by_cases hcookie : dataNew.statsCookie = dataOld.statsCookie
  . have hiff : ∀ counter,
        (statsClientsConvert dataNew dataOld).clientResult.get counter
            = dataNew.stats.get counter - dataOld.stats.get counter
          ↔ (dataNew.stats.get counter - dataOld.stats.get counter).toNat < 2 ^ 32 := by
      intro counter
      rw [delta_same hcookie (hle hcookie counter)]
      exact calcDelta32_eq_iff (hle hcookie counter)
    constructor
    . intro hexact
      refine ⟨fun _ counter => ?_, fun hne => absurd hcookie hne⟩
      exact (hiff counter).mp (hexact.same hcookie counter)
    . intro hfit
      refine ⟨fun _ counter => ?_, fun hne => absurd hcookie hne⟩
      exact (hiff counter).mpr (hfit.same hcookie counter)
  . have hiff : ∀ counter,
        (statsClientsConvert dataNew dataOld).clientResult.get counter = dataNew.stats.get counter
          ↔ (dataNew.stats.get counter).toNat < 2 ^ 32 := by
      intro counter
      have hzero := calcDelta32_eq_iff (UInt64.zero_le (a := dataNew.stats.get counter))
      rw [UInt64.sub_zero] at hzero
      rw [delta_other hcookie]
      exact hzero
    constructor
    . intro hexact
      refine ⟨fun heq => absurd heq hcookie, fun _ counter => ?_⟩
      exact (hiff counter).mp (hexact.other hcookie counter)
    . intro hfit
      refine ⟨fun heq => absurd heq hcookie, fun _ counter => ?_⟩
      exact (hiff counter).mpr (hfit.other hcookie counter)

def bytesSent (bytes cookie : UInt64) : ClientRecord :=
  { ClientRecord.zero with
    stats := { DevStats.zero with cliTxBytes := bytes }
    statsCookie := cookie
  }

theorem not_exactDeltas_wraps
    : ¬ExactDeltas (bytesSent 4294967296 7) (bytesSent 0 7)
        (statsClientsConvert (bytesSent 4294967296 7) (bytesSent 0 7)).clientResult := by
  intro hexact
  have hbytes := hexact.same rfl .bytesTx
  revert hbytes
  decide

theorem exactDeltas_small
    : ExactDeltas (bytesSent 1500 7) (bytesSent 500 7)
        (statsClientsConvert (bytesSent 1500 7) (bytesSent 500 7)).clientResult := by
  rw [exactDeltas_iff]
  . refine ⟨fun _ counter => ?_, fun hne => absurd rfl hne⟩
    cases counter <;> decide
  . intro _ counter
    cases counter <;> decide

end Stats
end OpenSyncRdk
