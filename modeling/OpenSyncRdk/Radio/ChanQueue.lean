import OpenSyncRdk.Lib.AsyncQueue
import OpenSyncRdk.Lib.Filled
import OpenSyncRdk.Radio.ChanEvents

/-!
The queue of channel events between the threads of the wifi HAL and the event loop, `radio.c`. The
drain copies the queue to an array on its stack while it holds the lock, and handles the copies later.
-/

namespace OpenSyncRdk
namespace Radio

open AsyncQueue (Processed Counted BatchesFit)

def halCbQueueMax : Nat := 20

def zeroCbe : Filled HalCbEntry :=
  .ofCells (List.replicate halCbQueueMax zeroEntry)

structure Drains where
  cbe : Filled HalCbEntry
  dfs : Dfs
  -- the copies that each of the drains so far has handled
  copied : List (List HalCbEntry)
  outside : List Nat

def Drains.copy (s : Drains) (ptr : HalCbEntry) : Drains :=
  { s with cbe := s.cbe.put ptr }

def drained (stateGet : Nat → Nat → Bool) (drain : Nat) (batch : List HalCbEntry) : List Drained :=
  batch.mapIdx (fun i entry => { entry, stateGet := stateGet drain i })

-- What follows the unlock; the next drain clears `cbe` before it copies.
def Drains.handle (stateGet : Nat → Nat → Bool) (s : Drains) : Drains :=
  { cbe := zeroCbe
    dfs := chanEventAsyncCb s.dfs (drained stateGet s.copied.length s.cbe.front)
    copied := s.copied ++ [s.cbe.front]
    outside := s.outside ++ s.cbe.outside
  }

def queueConfig (stateGet : Nat → Nat → Bool) : AsyncQueue.Config HalCbEntry Drains :=
  { cap := halCbQueueMax
    body := Drains.copy
    finish := Drains.handle stateGet
  }

def chanEventCb (thread radioIndex : Nat) (event : ChanEventType) (channel : UInt8) (tvSec : Int)
    : AsyncQueue.Input HalCbEntry :=
  .enqueue thread { radioIndex, event, channel, tvSec }

def unregistered (dfs : Dfs) : AsyncQueue.State HalCbEntry Drains :=
  { queue := []
    len := 0
    loop := false
    started := false
    pending := false
    called := false
    inside := []
    env := { cbe := zeroCbe, dfs, copied := [], outside := [] }
    accepted := []
    batches := []
    refused := []
  }

def registerChanEvents (s : AsyncQueue.State HalCbEntry Drains)
    : AsyncQueue.State HalCbEntry Drains :=
  { s with queue := [], len := 0, loop := true, started := true, pending := false }

def queueStep (stateGet : Nat → Nat → Bool) (s : AsyncQueue.State HalCbEntry Drains)
    (input : AsyncQueue.Input HalCbEntry) : Option (AsyncQueue.State HalCbEntry Drains) :=
  AsyncQueue.step (queueConfig stateGet) s input

def handleBatches (stateGet : Nat → Nat → Bool) (dfs : Dfs) (batches : List (List HalCbEntry)) : Dfs :=
  batches.zipIdx.foldl
    (fun dfs (batch, drain) => chanEventAsyncCb dfs (drained stateGet drain batch)) dfs

structure QueueInv (stateGet : Nat → Nat → Bool) (env : Drains)
    (s : AsyncQueue.State HalCbEntry Drains) : Prop where
  counted : Counted halCbQueueMax s
  fit : BatchesFit halCbQueueMax s
  processed : Processed (queueConfig stateGet) env s

variable {stateGet : Nat → Nat → Bool} {s t : AsyncQueue.State HalCbEntry Drains}

theorem QueueInv.step {env : Drains} {input : AsyncQueue.Input HalCbEntry}
    (hs : QueueInv stateGet env s) (hstep : queueStep stateGet s input = some t)
    : QueueInv stateGet env t := by
  have hcounted : Counted (queueConfig stateGet).cap s := hs.counted
  have hfit : BatchesFit (queueConfig stateGet).cap s := hs.fit
  constructor
  . exact hcounted.step hstep
  . exact hfit.step hcounted hstep
  . exact hs.processed.step hstep

theorem registerChanEvents_queueInv (stateGet : Nat → Nat → Bool) (dfs : Dfs)
    : QueueInv stateGet (unregistered dfs).env (registerChanEvents (unregistered dfs)) := by
  refine ⟨⟨rfl, ?_, rfl, ?_⟩, ?_, rfl⟩
  . exact Nat.zero_le halCbQueueMax
  . intro count hcount
    contradiction
  . intro batch hbatch
    contradiction

theorem copy_foldl (s : Drains) (batch : List HalCbEntry)
    : batch.foldl Drains.copy s = { s with cbe := batch.foldl Filled.put s.cbe } := by
  induction batch generalizing s with
  | nil => rfl
  | cons ptr batch ih => exact ih (s.copy ptr)

theorem drain_batch (stateGet : Nat → Nat → Bool) {env : Drains} (hzero : env.cbe = zeroCbe)
    {batch : List HalCbEntry} (hfits : batch.length ≤ halCbQueueMax)
    : (batch.foldl Drains.copy env).handle stateGet
        =
      { cbe := zeroCbe
        dfs := chanEventAsyncCb env.dfs (drained stateGet env.copied.length batch)
        copied := env.copied ++ [batch]
        outside := env.outside
      } := by
  have hholds
      : (batch.foldl Filled.put zeroCbe).Holds (List.replicate halCbQueueMax zeroEntry) batch := by
    apply (Filled.holds_ofCells _).foldl_put
    simpa using hfits
  rw [copy_foldl, hzero]
  unfold Drains.handle
  dsimp only
  rw [hholds.front_eq, hholds.inside, List.append_nil]

theorem drain_batches (stateGet : Nat → Nat → Bool) {env : Drains} (hzero : env.cbe = zeroCbe)
    {batches : List (List HalCbEntry)} (hfits : ∀ batch ∈ batches, batch.length ≤ halCbQueueMax)
    : batches.foldl (fun env batch => (batch.foldl Drains.copy env).handle stateGet) env
        =
      { cbe := zeroCbe
        dfs :=
          (batches.zipIdx env.copied.length).foldl
            (fun dfs (batch, drain) => chanEventAsyncCb dfs (drained stateGet drain batch)) env.dfs
        copied := env.copied ++ batches
        outside := env.outside
      } := by
  induction batches generalizing env with
  | nil =>
    rw [← hzero]
    simp
  | cons batch batches ih =>
    have hbatch := hfits batch (by simp)
    rw [List.foldl_cons, drain_batch stateGet hzero hbatch, ih rfl]
    . simp
    . intro batch hmem
      apply hfits
      simp [hmem]

theorem chan_event_drain_bound (stateGet : Nat → Nat → Bool) (dfs : Dfs)
    (inputs : List (AsyncQueue.Input HalCbEntry)) (s : AsyncQueue.State HalCbEntry Drains)
    (hrun : Machine.run (queueStep stateGet) (registerChanEvents (unregistered dfs)) inputs = some s)
    : s.len = s.queue.length
        ∧ s.len ≤ halCbQueueMax
        ∧ (∀ count ∈ s.refused, count = halCbQueueMax)
        ∧ s.env.outside = []
        ∧ (∀ batch ∈ s.env.copied, batch.length ≤ halCbQueueMax)
        ∧ s.accepted = s.env.copied.flatten ++ s.queue
        ∧ s.env.dfs = handleBatches stateGet dfs s.env.copied := by
  have hinv : QueueInv stateGet (unregistered dfs).env s := by
    refine Machine.run_invariant ?_ (registerChanEvents_queueInv stateGet dfs) hrun
    intro s t input _ hs hstep
    exact hs.step hstep
  rcases hinv with ⟨hcounted, hfit, hprocessed⟩
  have henv := hprocessed.trans (drain_batches stateGet rfl hfit)
  have hlen := hcounted.len_eq
  have hcap := hcounted.le_cap
  rw [henv]
  refine ⟨hlen, by omega, hcounted.refused, rfl, ?_, ?_, rfl⟩
  . exact hfit
  . exact hcounted.fifo

theorem chan_event_drain_bound_two
    : let dfs : Dfs := { lastChannel := [], numDetected := [], radarTimestamp := 0, updates := [] }
      let inputs :=
        [
          chanEventCb 1 0 .dfsRadarDetected 52 1700000000,
          chanEventCb 2 1 .channelsChanged 36 1700000001,
          .notify 2,
          .dispatch,
          .drain
        ]
      ∃ s,
        Machine.run (queueStep (fun _ _ => true)) (registerChanEvents (unregistered dfs)) inputs = some s
          ∧ s.env.copied.map List.length = [2]
          ∧ s.env.outside = [] := by
  intro dfs inputs
  have hreached
      : ∃ s,
        Machine.run (queueStep (fun _ _ => true)) (registerChanEvents (unregistered dfs)) inputs = some s
          ∧ s.env.copied.map List.length = [2] := by
    exact ⟨_, rfl, rfl⟩
  rcases hreached with ⟨s, hrun, hcopied⟩
  exact ⟨s, hrun, hcopied, (chan_event_drain_bound _ dfs inputs s hrun).2.2.2.1⟩

end Radio
end OpenSyncRdk
