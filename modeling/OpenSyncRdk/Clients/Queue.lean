import OpenSyncRdk.Clients.Table
import OpenSyncRdk.Lib.AsyncQueue

/-!
The queue between the threads of the wifi HAL and the event loop, `clients.c`. A callback of the HAL is
an `enqueue` followed by a `notify` of the same thread, if the event was accepted; the watcher's
callback is a `dispatch` by the loop followed by a `drain`, which is `clients_hal_async_cb`.
-/

namespace OpenSyncRdk
namespace Clients

open AsyncQueue (Processed Counted Awake)

def halCbQueueMax : Nat := 20

-- `keyIds` is `cached_key_ids` after so many calls of the HAL
def queueConfig (env : Env) (keyIds : Nat → KeyIds) : AsyncQueue.Config HalCbEntry State :=
  { cap := halCbQueueMax
    body := fun s cbe => asyncEntry env (keyIds s.calls) s cbe
    finish := id
  }

structure AssociatedDev where
  cliMacAddress : MacAddr
  cliActive : Bool

def halAssocdevCb (thread : Nat) (ssidIndex : Int) (sta : AssociatedDev)
    : AsyncQueue.Input HalCbEntry :=
  .enqueue thread { ssidIndex, mac := sta.cliMacAddress, active := sta.cliActive }

-- `scanMac` is what `sscanf` leaves in a zeroed address
def halDissocdevCb (scanMac : CStr → MacAddr) (thread : Nat) (ssidIndex : Int) (mac : CStr)
    : AsyncQueue.Input HalCbEntry :=
  halAssocdevCb thread ssidIndex { cliMacAddress := scanMac mac, cliActive := false }

def uninit : AsyncQueue.State HalCbEntry State :=
  { queue := []
    len := 0
    loop := false
    started := false
    pending := false
    called := false
    inside := []
    env := .initial
    accepted := []
    batches := []
    refused := []
  }

def halInit (evloop : Bool) (s : AsyncQueue.State HalCbEntry State)
    : AsyncQueue.State HalCbEntry State × Bool :=
  if s.loop then
    ({ s with started := true }, true)
  else
    let s := { s with env := { s.env with connected := ∅ } }
    if ¬evloop then
      (s, false)
    else
      ({ s with queue := [], len := 0, loop := true, started := true, pending := false }, true)

def queueStep (env : Env) (keyIds : Nat → KeyIds) (s : AsyncQueue.State HalCbEntry State)
    (input : AsyncQueue.Input HalCbEntry) : Option (AsyncQueue.State HalCbEntry State) :=
  AsyncQueue.step (queueConfig env keyIds) s input

structure QueueInv (env : Env) (keyIds : Nat → KeyIds) (s : AsyncQueue.State HalCbEntry State)
    : Prop where
  counted : Counted halCbQueueMax s
  awake : Awake s
  processed : Processed (queueConfig env keyIds) .initial s

theorem QueueInv.step (hs : QueueInv env keyIds s) (hstep : queueStep env keyIds s input = some t)
    : QueueInv env keyIds t := by
  have hcounted : Counted (queueConfig env keyIds).cap s := hs.counted
  constructor
  . exact hcounted.step hstep
  . exact hs.awake.step hstep
  . exact hs.processed.step hstep

theorem halInit_queueInv (env : Env) (keyIds : Nat → KeyIds)
    : QueueInv env keyIds (halInit true uninit).1 := by
  refine ⟨⟨rfl, by decide, rfl, ?_⟩, ⟨rfl, rfl, ?_⟩, rfl⟩
  . intro count hcount
    contradiction
  . intro hqueue
    contradiction

theorem hal_queue_sound (env : Env) (keyIds : Nat → KeyIds)
    (inputs : List (AsyncQueue.Input HalCbEntry)) (s : AsyncQueue.State HalCbEntry State)
    (hrun : Machine.run (queueStep env keyIds) (halInit true uninit).1 inputs = some s)
    : s.len = s.queue.length
        ∧ s.queue.length ≤ halCbQueueMax
        ∧ (∀ count ∈ s.refused, count = halCbQueueMax)
        ∧ s.accepted = s.batches.flatten ++ s.queue
        ∧ s.env = s.batches.flatten.foldl (fun t cbe => asyncEntry env (keyIds t.calls) t cbe) .initial
        ∧ (s.queue ≠ [] → s.inside = [] → s.pending = true ∨ s.called = true) := by
  have hinv : QueueInv env keyIds s := by
    refine Machine.run_invariant ?_ (halInit_queueInv env keyIds) hrun
    intro s t input _ hs hstep
    exact hs.step hstep
  rcases hinv with ⟨hcounted, hawake, hprocessed⟩
  refine ⟨hcounted.len_eq, hcounted.le_cap, hcounted.refused, hcounted.fifo, ?_, hawake.wakeup⟩
  rw [hprocessed, List.foldl_flatten]
  rfl

theorem hal_queue_sound_two
    : let env : Env :=
        { multiPsk := false, unmapIfname := id, apName := fun _ => cstr "wl0", apNameFails := fun _ => false
          securityMode := fun _ => none, multiPskKey := fun _ => none, associated := fun _ => none }
      let mac : MacAddr := ⟨2, 0, 0, 0, 0, 1⟩
      let inputs :=
        [
          halAssocdevCb 1 0 { cliMacAddress := mac, cliActive := true },
          halDissocdevCb (fun _ => mac) 2 0 (cstr "02:00:00:00:00:01"),
          .notify 1,
          .notify 2
        ]
      ∃ s, Machine.run (queueStep env (fun _ _ => cstr "key")) (halInit true uninit).1 inputs = some s
        ∧ s.queue = [⟨0, mac, true⟩, ⟨0, mac, false⟩]
        ∧ (s.pending = true ∨ s.called = true) := by
  intro env mac inputs
  have hreached
      : ∃ s, Machine.run (queueStep env (fun _ _ => cstr "key")) (halInit true uninit).1 inputs = some s
        ∧ s.queue = [⟨0, mac, true⟩, ⟨0, mac, false⟩]
        ∧ s.inside = [] := by
    exact ⟨_, rfl, rfl, rfl⟩
  rcases hreached with ⟨s, hrun, hqueue, hinside⟩
  refine ⟨s, hrun, hqueue, ?_⟩
  apply (hal_queue_sound env _ inputs s hrun).2.2.2.2.2
  . simp [hqueue]
  . exact hinside

end Clients
end OpenSyncRdk
