import OpenSyncRdk.Lib.Machine

/-!
A bounded event queue between producer threads and an event loop. A producer appends its event under
a lock and, after it let go of the lock, tests whether a wakeup of the loop is pending and sends one
if not. The loop clears the pending flag before it calls the callback, and the callback empties the
queue under the lock.
-/

namespace OpenSyncRdk
namespace AsyncQueue

structure Config (ε σ : Type) where
  cap : Nat
  body : σ → ε → σ
  finish : σ → σ

structure State (ε σ : Type) where
  queue : List ε
  len : Int
  loop : Bool
  started : Bool
  pending : Bool
  -- the loop has taken `pending` back and is about to run the callback
  called : Bool
  -- the threads between their unlock and their test for a pending wakeup
  inside : List Nat
  env : σ
  -- what happened so far
  accepted : List ε
  batches : List (List ε)
  refused : List Nat

inductive Input (ε : Type) where
  | enqueue (thread : Nat) (event : ε)
  | notify (thread : Nat)
  | dispatch
  | drain

variable {ε σ : Type}

def produce (cap : Nat) (s : State ε σ) (event : ε) : State ε σ × Bool :=
  if s.len = cap then
    ({ s with refused := s.refused ++ [s.queue.length] }, false)
  else
    ({ s with
        queue := s.queue ++ [event]
        len := s.len + 1
        accepted := s.accepted ++ [event]
      }, true)

def send (s : State ε σ) : State ε σ :=
  if s.loop then
    if s.pending then s else { s with pending := true }
  else
    s

def takeAll (body : σ → ε → σ) : List ε → Int → σ → Int × σ
  | [], len, env => (len, env)
  | event :: queue, len, env => takeAll body queue (len - 1) (body env event)

def drain (config : Config ε σ) (s : State ε σ) : State ε σ :=
  let (len, env) := takeAll config.body s.queue s.len s.env
  { s with
    queue := []
    len := len
    env := config.finish env
    batches := s.batches ++ [s.queue]
  }

def step (config : Config ε σ) (s : State ε σ) : Input ε → Option (State ε σ)
  | .enqueue thread event =>
    if thread ∈ s.inside then
      none
    else
      match produce config.cap s event with
      | (s, true) => some { s with inside := thread :: s.inside }
      | (s, false) => some s
  | .notify thread =>
    if thread ∈ s.inside then
      some { send s with inside := s.inside.erase thread }
    else
      none
  | .dispatch =>
    if s.started ∧ s.pending ∧ ¬s.called then
      some { s with pending := false, called := true }
    else
      none
  | .drain =>
    if s.called then
      some { drain config s with called := false }
    else
      none

theorem takeAll_eq (body : σ → ε → σ) (queue : List ε) (len : Int) (env : σ)
    : takeAll body queue len env = (len - queue.length, queue.foldl body env) := by
  induction queue generalizing len env with
  | nil => simp [takeAll]
  | cons event queue ih =>
    simp only [takeAll, ih, List.length_cons, List.foldl_cons, Prod.mk.injEq, and_true]
    omega

theorem drain_eq (config : Config ε σ) (s : State ε σ)
    : drain config s =
        { s with
          queue := []
          len := s.len - s.queue.length
          env := config.finish (s.queue.foldl config.body s.env)
          batches := s.batches ++ [s.queue]
        } := by
  simp only [drain, takeAll_eq]

theorem step_cases {config : Config ε σ} {s t : State ε σ} {input : Input ε}
    (hstep : step config s input = some t)
    : (∃ thread event, input = .enqueue thread event ∧ s.len = config.cap
        ∧ t = { s with refused := s.refused ++ [s.queue.length] })
      ∨ (∃ thread event, input = .enqueue thread event ∧ s.len ≠ config.cap
        ∧ t =
          { s with
            queue := s.queue ++ [event]
            len := s.len + 1
            inside := thread :: s.inside
            accepted := s.accepted ++ [event]
          })
      ∨ (∃ thread, input = .notify thread ∧ thread ∈ s.inside
        ∧ t = { s with pending := s.pending || s.loop, inside := s.inside.erase thread })
      ∨ (input = .dispatch ∧ s.started = true ∧ s.pending = true
        ∧ t = { s with pending := false, called := true })
      ∨ (input = .drain ∧ s.called = true ∧ t = { drain config s with called := false }) := by
  cases input with
  | enqueue thread event =>
    simp only [step, produce] at hstep
    split at hstep
    . contradiction
    . by_cases hfull : s.len = config.cap
      . simp only [if_pos hfull, Option.some.injEq] at hstep
        exact .inl ⟨thread, event, rfl, hfull, hstep.symm⟩
      . simp only [if_neg hfull, Option.some.injEq] at hstep
        exact .inr (.inl ⟨thread, event, rfl, hfull, hstep.symm⟩)
  | notify thread =>
    simp only [step] at hstep
    split at hstep
    . next hmem =>
      refine .inr (.inr (.inl ⟨thread, rfl, hmem, ?_⟩))
      injection hstep with hstep
      rw [← hstep]
      unfold send
      cases hloop : s.loop <;> cases hpending : s.pending <;> simp [hloop, hpending]
    . contradiction
  | dispatch =>
    simp only [step] at hstep
    split at hstep
    . next hready =>
      injection hstep with hstep
      exact .inr (.inr (.inr (.inl ⟨rfl, hready.1, hready.2.1, hstep.symm⟩)))
    . contradiction
  | drain =>
    simp only [step] at hstep
    split at hstep
    . next hcalled =>
      injection hstep with hstep
      exact .inr (.inr (.inr (.inr ⟨rfl, hcalled, hstep.symm⟩)))
    . contradiction

structure Counted (cap : Nat) (s : State ε σ) : Prop where
  len_eq : s.len = s.queue.length
  le_cap : s.queue.length ≤ cap
  fifo : s.accepted = s.batches.flatten ++ s.queue
  refused : ∀ count ∈ s.refused, count = cap

theorem Counted.step {config : Config ε σ} {s t : State ε σ} {input : Input ε}
    (hs : Counted config.cap s) (hstep : step config s input = some t)
    : Counted config.cap t := by
  rcases hs with ⟨hlen, hcap, hfifo, hrefused⟩
  rcases step_cases hstep with
    ⟨thread, event, _, hfull, rfl⟩ | ⟨thread, event, _, hfull, rfl⟩ | ⟨thread, _, _, rfl⟩
      | ⟨_, _, _, rfl⟩ | ⟨_, _, rfl⟩
  . refine ⟨hlen, hcap, hfifo, ?_⟩
    intro count hcount
    rw [List.mem_append, List.mem_singleton] at hcount
    cases hcount with
    | inl hold => exact hrefused count hold
    | inr hnew => omega
  . refine ⟨?_, ?_, ?_, hrefused⟩
    . simp [hlen]
    . simp only [List.length_append, List.length_singleton]
      omega
    . simp [hfifo]
  . exact ⟨hlen, hcap, hfifo, hrefused⟩
  . exact ⟨hlen, hcap, hfifo, hrefused⟩
  . rw [drain_eq]
    refine ⟨?_, ?_, ?_, hrefused⟩
    . simp [hlen]
    . simp
    . simp [hfifo]

def BatchesFit (cap : Nat) (s : State ε σ) : Prop :=
  ∀ batch ∈ s.batches, batch.length ≤ cap

theorem BatchesFit.step {config : Config ε σ} {s t : State ε σ} {input : Input ε}
    (hs : BatchesFit config.cap s) (hcounted : Counted config.cap s)
    (hstep : step config s input = some t)
    : BatchesFit config.cap t := by
  rcases step_cases hstep with
    ⟨thread, event, _, _, rfl⟩ | ⟨thread, event, _, _, rfl⟩ | ⟨thread, _, _, rfl⟩
      | ⟨_, _, _, rfl⟩ | ⟨_, _, rfl⟩
  . exact hs
  . exact hs
  . exact hs
  . exact hs
  . rw [drain_eq]
    intro batch hbatch
    rw [List.mem_append, List.mem_singleton] at hbatch
    cases hbatch with
    | inl hold => exact hs batch hold
    | inr hnew =>
      rw [hnew]
      exact hcounted.le_cap

def Processed (config : Config ε σ) (env : σ) (s : State ε σ) : Prop :=
  s.env = s.batches.foldl (fun env batch => config.finish (batch.foldl config.body env)) env

theorem Processed.step {config : Config ε σ} {s t : State ε σ} {input : Input ε}
    (hs : Processed config env s) (hstep : step config s input = some t)
    : Processed config env t := by
  unfold Processed at *
  rcases step_cases hstep with
    ⟨thread, event, _, _, rfl⟩ | ⟨thread, event, _, _, rfl⟩ | ⟨thread, _, _, rfl⟩
      | ⟨_, _, _, rfl⟩ | ⟨_, _, rfl⟩
  . exact hs
  . exact hs
  . exact hs
  . exact hs
  . rw [drain_eq]
    simp only [List.foldl_append, List.foldl_cons, List.foldl_nil]
    rw [hs]

structure Awake (s : State ε σ) : Prop where
  loop : s.loop = true
  started : s.started = true
  wakeup : s.queue ≠ [] → s.inside = [] → s.pending = true ∨ s.called = true

theorem Awake.step {config : Config ε σ} {s t : State ε σ} {input : Input ε}
    (hs : Awake s) (hstep : step config s input = some t)
    : Awake t := by
  rcases hs with ⟨hloop, hstarted, hwakeup⟩
  rcases step_cases hstep with
    ⟨thread, event, _, _, rfl⟩ | ⟨thread, event, _, _, rfl⟩ | ⟨thread, _, _, rfl⟩
      | ⟨_, _, _, rfl⟩ | ⟨_, _, rfl⟩
  . exact ⟨hloop, hstarted, hwakeup⟩
  . refine ⟨hloop, hstarted, ?_⟩
    -- The producer that added the event still is to look for a wakeup.
    intro _ hinside
    contradiction
  . refine ⟨hloop, hstarted, ?_⟩
    intro _ _
    simp [hloop]
  . refine ⟨hloop, hstarted, ?_⟩
    intro _ _
    exact .inr rfl
  . rw [drain_eq]
    refine ⟨hloop, hstarted, ?_⟩
    intro hqueue
    contradiction

structure Deaf (s : State ε σ) : Prop where
  loop : s.loop = false
  started : s.started = false
  pending : s.pending = false
  called : s.called = false
  batches : s.batches = []

theorem Deaf.step {config : Config ε σ} {s t : State ε σ} {input : Input ε}
    (hs : Deaf s) (hstep : step config s input = some t)
    : Deaf t ∧ t.env = s.env := by
  rcases hs with ⟨hloop, hstarted, hpending, hcalled, hbatches⟩
  rcases step_cases hstep with
    ⟨thread, event, _, _, rfl⟩ | ⟨thread, event, _, _, rfl⟩ | ⟨thread, _, _, rfl⟩
      | ⟨_, hready, _, rfl⟩ | ⟨_, hready, rfl⟩
  . exact ⟨⟨hloop, hstarted, hpending, hcalled, hbatches⟩, rfl⟩
  . exact ⟨⟨hloop, hstarted, hpending, hcalled, hbatches⟩, rfl⟩
  . refine ⟨⟨hloop, hstarted, ?_, hcalled, hbatches⟩, rfl⟩
    simp [hloop, hpending]
  . simp [hstarted] at hready
  . simp [hcalled] at hready

end AsyncQueue
end OpenSyncRdk
