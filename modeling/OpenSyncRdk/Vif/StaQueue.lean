import OpenSyncRdk.Lib.AsyncQueue

/-!
The queue of station events in the extender build, `vif.c`. It has the shape of the queue in
`clients.c`, but its initialisation neither keeps the loop nor starts the watcher. `vapInfo` says for
which index `ssid_index_to_vap_info` succeeds, by the number of calls made before.
-/

namespace OpenSyncRdk
namespace Vif

open AsyncQueue (Counted Deaf)

def halCbQueueMax : Nat := 20

structure ClientAssociatedDev where
  connected : Bool
  macAddress : List UInt8
  reason : Int
  locallyGenerated : Int

structure HalCbEntry where
  ssidIndex : Int
  sta : ClientAssociatedDev

structure StaUpdates where
  lookups : Nat
  updates : List Int

def staUpdateEntry (vapInfo : Nat → Int → Bool) (s : StaUpdates) (cbe : HalCbEntry) : StaUpdates :=
  let found := vapInfo s.lookups cbe.ssidIndex
  let s := { s with lookups := s.lookups + 1 }
  if ¬found then
    s
  else
    { s with updates := s.updates ++ [cbe.ssidIndex] }

def staConfig (vapInfo : Nat → Int → Bool) : AsyncQueue.Config HalCbEntry StaUpdates :=
  { cap := halCbQueueMax
    body := staUpdateEntry vapInfo
    finish := id
  }

structure StaQueue where
  registered : Bool
  queue : AsyncQueue.State HalCbEntry StaUpdates

def StaQueue.uninit : StaQueue :=
  { registered := false
    queue :=
      { queue := []
        len := 0
        loop := false
        started := false
        pending := false
        called := false
        inside := []
        env := { lookups := 0, updates := [] }
        accepted := []
        batches := []
        refused := []
      }
  }

def staHalInit (s : StaQueue) : StaQueue :=
  if s.queue.loop then
    { s with queue := { s.queue with started := true } }
  else
    { registered := true
      queue := { s.queue with queue := [], len := 0, started := false, pending := false }
    }

def staHalInits : Nat → StaQueue
  | 0 => .uninit
  | count + 1 => staHalInit (staHalInits count)

def staStep (vapInfo : Nat → Int → Bool) (s : StaQueue) (input : AsyncQueue.Input HalCbEntry)
    : Option StaQueue :=
  if s.registered then
    (AsyncQueue.step (staConfig vapInfo) s.queue input).map (fun queue => { s with queue })
  else
    none

def Heard (s : StaQueue) : Prop :=
  s.queue.queue ≠ [] → s.queue.inside = [] → s.queue.started = true ∧ s.queue.pending = true

structure Stranded (queue : AsyncQueue.State HalCbEntry StaUpdates) : Prop where
  deaf : Deaf queue
  counted : Counted halCbQueueMax queue
  env : queue.env = { lookups := 0, updates := [] }

theorem staHalInits_queue (count : Nat)
    : (staHalInits count).queue = StaQueue.uninit.queue := by
  induction count with
  | zero => rfl
  | succ count ih =>
    simp only [staHalInits, staHalInit]
    rw [ih]
    rfl

theorem uninit_stranded
    : Stranded StaQueue.uninit.queue := by
  constructor
  . exact ⟨rfl, rfl, rfl, rfl, rfl⟩
  . refine ⟨rfl, by decide, rfl, ?_⟩
    intro count hcount
    contradiction
  . rfl

theorem staStep_queue (hstep : staStep vapInfo s input = some t)
    : AsyncQueue.step (staConfig vapInfo) s.queue input = some t.queue := by
  unfold staStep at hstep
  split at hstep
  . rw [Option.map_eq_some_iff] at hstep
    rcases hstep with ⟨queue, hqueue, rfl⟩
    exact hqueue
  . contradiction

theorem Stranded.step (hs : Stranded s.queue) (hstep : staStep vapInfo s input = some t)
    : Stranded t.queue := by
  have hstep := staStep_queue hstep
  have hcounted : Counted (staConfig vapInfo).cap s.queue := hs.counted
  have ⟨hdeaf, henv⟩ := hs.deaf.step hstep
  constructor
  . exact hdeaf
  . exact hcounted.step hstep
  . rw [henv]
    exact hs.env

theorem Stranded.step_queue (hs : Stranded s.queue) (hstep : staStep vapInfo s input = some t)
    : t.queue.queue = [] ↔ s.queue.queue = [] ∧ ∀ thread event, input ≠ .enqueue thread event := by
  have hstarted := hs.deaf.started
  have hcalled := hs.deaf.called
  have hlen := hs.counted.len_eq
  rcases AsyncQueue.step_cases (staStep_queue hstep) with
    ⟨thread, event, rfl, hfull, ht⟩ | ⟨thread, event, rfl, _, ht⟩ | ⟨thread, rfl, _, ht⟩
      | ⟨_, hready, _⟩ | ⟨_, hready, _⟩
  . rw [ht]
    constructor
    . intro hnil
      have hzero : s.queue.queue.length = 0 := by
        rw [List.length_eq_zero_iff]
        exact hnil
      simp only [staConfig, halCbQueueMax] at hfull
      omega
    . rintro ⟨_, hno⟩
      exact absurd rfl (hno thread event)
  . rw [ht]
    constructor
    . intro hnil
      simp at hnil
    . rintro ⟨_, hno⟩
      exact absurd rfl (hno thread event)
  . rw [ht]
    simp
  . simp [hstarted] at hready
  . simp [hcalled] at hready

theorem run_stranded (hs : Stranded s.queue) (hrun : Machine.run (staStep vapInfo) s inputs = some t)
    : Stranded t.queue
        ∧ (t.queue.queue = []
            ↔
          s.queue.queue = [] ∧ ∀ thread event, .enqueue thread event ∉ inputs) := by
  induction inputs generalizing s with
  | nil =>
    rw [Machine.run_nil] at hrun
    injection hrun with hrun
    rw [← hrun]
    exact ⟨hs, by simp⟩
  | cons input inputs ih =>
    rw [Machine.run_cons, Option.bind_eq_some_iff] at hrun
    rcases hrun with ⟨u, hstep, hrun⟩
    have ⟨ht, hnil⟩ := ih (hs.step hstep) hrun
    refine ⟨ht, ?_⟩
    rw [hnil, hs.step_queue hstep]
    constructor
    . rintro ⟨⟨hqueue, hinput⟩, hinputs⟩
      refine ⟨hqueue, ?_⟩
      intro thread event hmem
      rw [List.mem_cons] at hmem
      cases hmem with
      | inl hhead => exact hinput thread event hhead.symm
      | inr htail => exact hinputs thread event htail
    . rintro ⟨hqueue, hinputs⟩
      refine ⟨⟨hqueue, ?_⟩, ?_⟩
      . rintro thread event rfl
        exact hinputs thread event (List.mem_cons_self)
      . intro thread event hmem
        exact hinputs thread event (List.mem_cons_of_mem _ hmem)

/--
After any number of calls of `sta_hal_init` a run leads to a state whose events have a wakeup if and
only if `vif_sta_update_cb` was never called or a call of it is still under way. Not a single event
ever leads to a call of `vif_state_update`.
-/
theorem sta_heard_iff (vapInfo : Nat → Int → Bool) (count : Nat)
    (inputs : List (AsyncQueue.Input HalCbEntry)) (s : StaQueue)
    (hrun : Machine.run (staStep vapInfo) (staHalInits count) inputs = some s)
    : (Heard s ↔ (∀ thread event, .enqueue thread event ∉ inputs) ∨ s.queue.inside ≠ [])
        ∧ s.queue.queue = s.queue.accepted
        ∧ s.queue.env.updates = [] := by
  have hinit : Stranded (staHalInits count).queue := by
    rw [staHalInits_queue]
    apply uninit_stranded
  have ⟨hs, hnil⟩ := run_stranded hinit hrun
  rw [staHalInits_queue] at hnil
  refine ⟨?_, ?_, ?_⟩
  . constructor
    . intro hheard
      -- The watcher is never started, so the queue must be empty or some producer at work.
      by_cases hinside : s.queue.inside = []
      . refine .inl ?_
        have hqueue : s.queue.queue = [] := by
          apply Decidable.byContradiction
          intro hqueue
          have hstarted := (hheard hqueue hinside).1
          rw [hs.deaf.started] at hstarted
          contradiction
        exact (hnil.mp hqueue).2
      . exact .inr hinside
    . intro hwhen hqueue hinside
      cases hwhen with
      | inl hno => exact absurd (hnil.mpr ⟨rfl, hno⟩) hqueue
      | inr hbusy => exact absurd hinside hbusy
  . rw [hs.counted.fifo, hs.deaf.batches]
    rfl
  . rw [hs.env]

theorem sta_heard_iff_busy
    : let event := { ssidIndex := 0
                     sta := { connected := true, macAddress := [2, 0, 0, 0, 0, 1], reason := 0
                              locallyGenerated := 0 } }
      ∃ s, Machine.run (staStep (fun _ _ => true)) (staHalInits 1) [.enqueue 1 event] = some s
        ∧ Heard s := by
  intro event
  refine ⟨_, rfl, ?_⟩
  apply (sta_heard_iff (fun _ _ => true) 1 [.enqueue 1 event] _ rfl).1.mpr
  refine .inr ?_
  intro hinside
  contradiction

theorem not_sta_heard
    : ¬∀ vapInfo count inputs s, Machine.run (staStep vapInfo) (staHalInits count) inputs = some s
        → Heard s := by
  intro hall
  have hheard := hall (fun _ _ => true) 2
    [
      .enqueue 1 { ssidIndex := 0
                   sta := { connected := true, macAddress := [2, 0, 0, 0, 0, 1], reason := 0
                            locallyGenerated := 0 } },
      .notify 1
    ] _ rfl
  have hstarted := (hheard (by intro hqueue; contradiction) rfl).1
  contradiction

end Vif
end OpenSyncRdk
