import Mathlib.Data.List.Nodup
import OpenSyncRdk.Lib.Machine

/-!
The deferred updates of `Wifi_VIF_State`, `vif.c`. An entry of `vif_update_queue` begins with its timer,
so the timer of an entry is the entry. `armed` are the timers for which the event loop is going to call
`vif_state_update_task`. What `vif_state_update` reports is left out but for the index.
-/

namespace OpenSyncRdk
namespace Vif

/-- `address` is where `CALLOC` placed the entry. -/
structure UpdateEntry where
  address : Nat
  ssidIndex : Int
  deriving DecidableEq

inductive UpdateEvent where
  | requested (ssidIndex : Int)
  | updated (ssidIndex : Int)
  deriving DecidableEq

def UpdateEvent.ssidIndex : UpdateEvent → Int
  | .requested ssidIndex => ssidIndex
  | .updated ssidIndex => ssidIndex

/-- A request is in the log from the return of `vif_state_update_deferred` on. -/
structure Deferred where
  initDone : Bool
  queue : List UpdateEntry
  armed : List UpdateEntry
  nextAddress : Nat
  log : List UpdateEvent

inductive DeferredInput where
  | deferred (ssidIndex : Int)
  | expire (entry : UpdateEntry)

def Deferred.initial : Deferred :=
  { initDone := false, queue := [], armed := [], nextAddress := 0, log := [] }

def Deferred.initQueue (s : Deferred) : Deferred :=
  if s.initDone then s else { s with initDone := true, queue := [] }

def Deferred.stop (s : Deferred) (entry : UpdateEntry) : Deferred :=
  { s with armed := s.armed.erase entry }

def Deferred.start (s : Deferred) (entry : UpdateEntry) : Deferred :=
  { s with armed := s.armed ++ [entry] }

def Deferred.update (s : Deferred) (ssidIndex : Int) : Deferred :=
  { s with log := s.log ++ [.updated ssidIndex] }

def vifStateUpdateTask (entry : UpdateEntry) (s : Deferred) : Deferred :=
  let s := s.update entry.ssidIndex
  let s := { s with queue := s.queue.erase entry }
  s.stop entry

def vifStateUpdateDeferred (ssidIndex : Int) (s : Deferred) : Deferred :=
  let s := s.initQueue
  let s :=
    match s.queue.find? (fun ptr => ssidIndex = ptr.ssidIndex) with
    | some ptr => ((s.stop ptr).update ptr.ssidIndex).start ptr
    | none =>
      let ptr : UpdateEntry := { address := s.nextAddress, ssidIndex }
      let s := { s with queue := s.queue ++ [ptr], nextAddress := s.nextAddress + 1 }
      s.start ptr
  { s with log := s.log ++ [.requested ssidIndex] }

/-- The timers do not repeat, the event loop stops them before it calls `vif_state_update_task`. -/
def deferredStep (s : Deferred) : DeferredInput → Option Deferred
  | .deferred ssidIndex => some (vifStateUpdateDeferred ssidIndex s)
  | .expire entry =>
    if entry ∈ s.armed then
      some (vifStateUpdateTask entry (s.stop entry))
    else
      none

def lastEvent (log : List UpdateEvent) (ssidIndex : Int) : Option UpdateEvent :=
  (log.filter (fun event => event.ssidIndex = ssidIndex)).getLast?

def Requested (log : List UpdateEvent) (ssidIndex : Int) : Prop :=
  lastEvent log ssidIndex = some (.requested ssidIndex)

structure ExpiresAlone (s : Deferred) (entry : UpdateEntry) (t : Deferred) : Prop where
  updates : t.log = s.log ++ [.updated entry.ssidIndex]
  mem_queue : ∀ other, other ∈ t.queue ↔ other ≠ entry ∧ other ∈ s.queue
  mem_armed : ∀ other, other ∈ t.armed ↔ other ≠ entry ∧ other ∈ s.armed

structure Queued (s : Deferred) : Prop where
  one : (s.queue.map UpdateEntry.ssidIndex).Nodup
  mem_iff : ∀ entry, entry ∈ s.queue ↔ entry ∈ s.armed
  once : s.armed.Nodup
  pending : ∀ ssidIndex, Requested s.log ssidIndex → ∃ entry ∈ s.armed, entry.ssidIndex = ssidIndex
  expires : ∀ entry ∈ s.armed, ∃ t, deferredStep s (.expire entry) = some t ∧ ExpiresAlone s entry t

structure DeferredInv (s : Deferred) : Prop where
  one : (s.queue.map UpdateEntry.ssidIndex).Nodup
  mem_iff : ∀ entry, entry ∈ s.queue ↔ entry ∈ s.armed
  once : s.armed.Nodup
  pending : ∀ ssidIndex, Requested s.log ssidIndex → ∃ entry ∈ s.armed, entry.ssidIndex = ssidIndex
  fresh : ∀ entry ∈ s.queue, entry.address < s.nextAddress
  init : s.initDone = false → s.queue = []

theorem lastEvent_concat (log : List UpdateEvent) (event : UpdateEvent) (ssidIndex : Int)
    : lastEvent (log ++ [event]) ssidIndex
        =
      if event.ssidIndex = ssidIndex then some event else lastEvent log ssidIndex := by
  unfold lastEvent
  rw [List.filter_append]
  split
  . next heq => simp [heq]
  . next hne => simp [hne]

@[simp]
theorem requested_concat_updated (log : List UpdateEvent) (other ssidIndex : Int)
    : Requested (log ++ [.updated other]) ssidIndex ↔ other ≠ ssidIndex ∧ Requested log ssidIndex := by
  unfold Requested
  rw [lastEvent_concat]
  by_cases heq : other = ssidIndex <;> simp [UpdateEvent.ssidIndex, heq]

@[simp]
theorem requested_concat_requested (log : List UpdateEvent) (other ssidIndex : Int)
    : Requested (log ++ [.requested other]) ssidIndex ↔ other = ssidIndex ∨ Requested log ssidIndex := by
  unfold Requested
  rw [lastEvent_concat]
  by_cases heq : other = ssidIndex <;> simp [UpdateEvent.ssidIndex, heq]

theorem expiresAlone {s : Deferred} (hinv : DeferredInv s) (entry : UpdateEntry)
    : ExpiresAlone s entry (vifStateUpdateTask entry (s.stop entry)) := by
  have ⟨hone, hiff, honce, _, _, _⟩ := hinv
  have hqueue : s.queue.Nodup := List.Nodup.of_map _ hone
  constructor
  . rfl
  . intro other
    exact hqueue.mem_erase_iff
  . intro other
    have htwice : (s.armed.erase entry).Nodup := honce.erase entry
    unfold vifStateUpdateTask Deferred.stop Deferred.update
    dsimp only
    rw [htwice.mem_erase_iff, honce.mem_erase_iff]
    grind

theorem expire_inv {s : Deferred} (hinv : DeferredInv s) (entry : UpdateEntry)
    : DeferredInv (vifStateUpdateTask entry (s.stop entry)) := by
  have halone := expiresAlone hinv entry
  have ⟨hone, hiff, honce, hpending, hfresh, hinit⟩ := hinv
  generalize ht : vifStateUpdateTask entry (s.stop entry) = t at halone
  have ⟨hlog, hqueue, harmed⟩ := halone
  constructor
  . rw [← ht]
    exact hone.sublist ((List.erase_sublist).map _)
  . intro other
    rw [hqueue, harmed, hiff]
  . rw [← ht]
    exact (honce.erase entry).erase entry
  . intro ssidIndex hrequested
    rw [hlog, requested_concat_updated] at hrequested
    have ⟨other, hother, hindex⟩ := hpending ssidIndex hrequested.2
    refine ⟨other, ?_, hindex⟩
    rw [harmed]
    refine ⟨?_, hother⟩
    intro heq
    apply hrequested.1
    rw [← heq]
    exact hindex
  . intro other hother
    rw [hqueue] at hother
    rw [← ht]
    exact hfresh other hother.2
  . intro hdone
    rw [← ht] at hdone
    rw [List.eq_nil_iff_forall_not_mem]
    intro other hother
    rw [hqueue, hinit hdone] at hother
    simp at hother

theorem initQueue_inv {s : Deferred} (hinv : DeferredInv s)
    : DeferredInv s.initQueue := by
  unfold Deferred.initQueue
  split
  . exact hinv
  . next hdone =>
    have hempty := hinv.init (by simpa using hdone)
    rw [← hempty]
    exact { hinv with init := by simp }

theorem initQueue_initDone (s : Deferred)
    : s.initQueue.initDone = true := by
  unfold Deferred.initQueue
  split
  . assumption
  . rfl

theorem restart_inv {s : Deferred} (hinv : DeferredInv s) {ptr : UpdateEntry} (hptr : ptr ∈ s.queue)
    : DeferredInv
        { ((s.stop ptr).update ptr.ssidIndex).start ptr with
          log := ((s.stop ptr).update ptr.ssidIndex).log ++ [.requested ptr.ssidIndex] } := by
  have ⟨hone, hiff, honce, hpending, hfresh, hinit⟩ := hinv
  have harmed : ∀ other, other ∈ s.armed.erase ptr ++ [ptr] ↔ other ∈ s.armed := by
    intro other
    have := (hiff ptr).mp hptr
    rw [List.mem_append, honce.mem_erase_iff, List.mem_singleton]
    grind
  constructor
  . exact hone
  . intro other
    exact (hiff other).trans (harmed other).symm
  . dsimp only [Deferred.start, Deferred.update, Deferred.stop]
    rw [← List.concat_eq_append, List.nodup_concat]
    exact ⟨honce.not_mem_erase, honce.erase ptr⟩
  . intro other hrequested
    have hother : ∃ entry ∈ s.armed, entry.ssidIndex = other := by
      dsimp only [Deferred.update, Deferred.stop] at hrequested
      rw [requested_concat_requested, requested_concat_updated] at hrequested
      rcases hrequested with heq | ⟨_, hrequested⟩
      . exact ⟨ptr, (hiff ptr).mp hptr, heq⟩
      . exact hpending other hrequested
    have ⟨entry, hentry, heq⟩ := hother
    exact ⟨entry, (harmed entry).mpr hentry, heq⟩
  . exact hfresh
  . exact hinit

theorem enqueue_inv {s : Deferred} (hinv : DeferredInv s) (hdone : s.initDone = true) {ssidIndex : Int}
    (hnew : ∀ entry ∈ s.queue, entry.ssidIndex ≠ ssidIndex)
    : DeferredInv
        { initDone := s.initDone
          queue := s.queue ++ [⟨s.nextAddress, ssidIndex⟩]
          armed := s.armed ++ [⟨s.nextAddress, ssidIndex⟩]
          nextAddress := s.nextAddress + 1
          log := s.log ++ [.requested ssidIndex]
        } := by
  have ⟨hone, hiff, honce, hpending, hfresh, _⟩ := hinv
  have hunused : ⟨s.nextAddress, ssidIndex⟩ ∉ s.armed := by
    rw [← hiff]
    intro hmem
    exact hnew _ hmem rfl
  constructor
  . dsimp only
    rw [List.map_append, List.map_singleton, ← List.concat_eq_append, List.nodup_concat]
    refine ⟨?_, hone⟩
    intro hmem
    have ⟨entry, hentry, hindex⟩ := List.mem_map.mp hmem
    exact hnew entry hentry hindex
  . intro other
    dsimp only
    rw [List.mem_append, List.mem_append, hiff]
  . dsimp only
    rw [← List.concat_eq_append, List.nodup_concat]
    exact ⟨hunused, honce⟩
  . intro other hrequested
    dsimp only at hrequested ⊢
    rw [requested_concat_requested] at hrequested
    rcases hrequested with heq | hrequested
    . exact ⟨_, List.mem_append_right _ (List.mem_singleton_self _), heq⟩
    . have ⟨entry, hentry, hindex⟩ := hpending other hrequested
      exact ⟨entry, List.mem_append_left _ hentry, hindex⟩
  . intro entry hentry
    dsimp only at hentry ⊢
    rcases List.mem_append.mp hentry with hold | hnew
    . have hlt := hfresh entry hold
      omega
    . rw [List.mem_singleton] at hnew
      rw [hnew]
      exact Nat.lt_succ_self _
  . intro hnot
    rw [hdone] at hnot
    contradiction

theorem deferred_inv {s : Deferred} (hinv : DeferredInv s) (ssidIndex : Int)
    : DeferredInv (vifStateUpdateDeferred ssidIndex s) := by
  have hinv := initQueue_inv hinv
  have hdone := initQueue_initDone s
  unfold vifStateUpdateDeferred
  generalize s.initQueue = s at hinv hdone
  dsimp only
  cases hfind : s.queue.find? (fun ptr => ssidIndex = ptr.ssidIndex) with
  | some ptr =>
    have hindex : ssidIndex = ptr.ssidIndex := by
      simpa using List.find?_some hfind
    rw [hindex]
    exact restart_inv hinv (List.mem_of_find?_eq_some hfind)
  | none =>
    apply enqueue_inv hinv hdone
    intro entry hentry heq
    have hnone := List.find?_eq_none.mp hfind entry hentry
    simp [heq] at hnone

theorem deferredStep_inv (s t : Deferred) (input : DeferredInput) (hinv : DeferredInv s)
    (hstep : deferredStep s input = some t)
    : DeferredInv t := by
  cases input with
  | deferred ssidIndex =>
    injection hstep with hstep
    rw [← hstep]
    exact deferred_inv hinv ssidIndex
  | expire entry =>
    unfold deferredStep at hstep
    dsimp only at hstep
    split at hstep
    . injection hstep with hstep
      rw [← hstep]
      exact expire_inv hinv entry
    . contradiction

theorem initial_deferredInv
    : DeferredInv Deferred.initial := by
  constructor <;> simp [Deferred.initial, Requested, lastEvent]

theorem DeferredInv.queued {s : Deferred} (hinv : DeferredInv s)
    : Queued s := by
  have hinv' := hinv
  have ⟨hone, hiff, honce, hpending, _, _⟩ := hinv'
  refine ⟨hone, hiff, honce, hpending, ?_⟩
  intro entry hentry
  exact ⟨_, if_pos hentry, expiresAlone hinv entry⟩

end Vif
end OpenSyncRdk
