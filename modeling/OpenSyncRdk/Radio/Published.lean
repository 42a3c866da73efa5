import Mathlib.Data.List.Chain
import Mathlib.Data.List.Induction
import OpenSyncRdk.Radio.Config
import OpenSyncRdk.Radio.Resync

/-!
When the rows of the radios are published, `radio.c`: all requests for a resync go through
`radio_trigger_resync`, a timer puts it off, and another timer requests one from time to time.
-/

namespace OpenSyncRdk
namespace Radio

open Clients (KeyIds)

/-- `ev_timer` of libev, which fires once; `due` is when it does, if it is active. -/
structure EvTimer where
  after : Nat
  due : Option Nat

namespace EvTimer

def init (after : Nat) : EvTimer :=
  { after, due := none }

def stop (timer : EvTimer) : EvTimer :=
  { timer with due := none }

def set (timer : EvTimer) (after : Nat) : EvTimer :=
  { timer with after }

def start (timer : EvTimer) (now : Nat) : EvTimer :=
  { timer with due := some (timer.due.getD (now + timer.after)) }

def expired (timer : EvTimer) (now : Nat) : Bool :=
  timer.due.any (fun due => due ≤ now)

end EvTimer

/-- The unit of time is any; the loop comes to a timer when it is due, or at most `lag` later. -/
structure Times where
  second : Nat
  healthcheckInterval : Nat
  lag : Nat

namespace Times

def resyncUpdateDelay (times : Times) : Nat := 5 * times.second

def period (times : Times) : Nat := max (2 * times.second) times.healthcheckInterval

def patience (times : Times) : Nat := times.period + times.resyncUpdateDelay + 2 * times.lag

end Times

structure Round where
  requests : List Nat
  time : Nat

variable {H : Type}

structure Publisher (H : Type) where
  now : Nat
  healthcheckTimer : EvTimer
  radioResyncAllTaskTimer : EvTimer
  state : State
  hal : H
  dfs : Dfs
  -- the row that `op_rstate` was called with last
  published : Nat → Option RadioState
  -- logged
  waiting : List Nat
  rounds : List Round

namespace Publisher

def radioTriggerResync (times : Times) (p : Publisher H) : Publisher H :=
  let p := { p with waiting := p.waiting ++ [p.now] }
  if ¬p.state.resyncOngoing then
    { p with
      state := { p.state with resyncOngoing := true }
      radioResyncAllTaskTimer :=
        (p.radioResyncAllTaskTimer.stop.set times.resyncUpdateDelay).start p.now
    }
  else
    p

def healthcheckTask (times : Times) (p : Publisher H) : Publisher H :=
  let p := radioTriggerResync times p
  { p with
    healthcheckTimer := (p.healthcheckTimer.stop.set times.healthcheckInterval).start p.now
  }

/-- `target_radio_init` starts the clock. -/
def targetRadioInit (times : Times) (state : State) (hal : H) (dfs : Dfs)
    (published : Nat → Option RadioState) : Publisher H :=
  { now := 0
    healthcheckTimer := (EvTimer.init (2 * times.second)).start 0
    radioResyncAllTaskTimer := EvTimer.init times.resyncUpdateDelay
    state := { state with resyncOngoing := false }
    hal, dfs, published
    waiting := []
    rounds := []
  }

end Publisher

structure Surroundings (H : Type) where
  build : InitBuild
  env : Clients.Env
  keyIds : KeyIds
  vaps : H → Nat → List VapInfo
  associated : H → Int → Option (List Clients.MacAddr)
  disableSync : Bool

def RadioHal.toHal (hal : RadioHal H) (around : Surroundings H) (h : H) : Hal :=
  let answers := hal.answers h
  { numRadios := answers.numRadios
    radioIfName := fun radioIndex => (answers.radio radioIndex).radioIfName.isSome
    radioOperatingParameters := fun radioIndex => (answers.radio radioIndex).operatingParameters.isSome
    vapInfoMap := fun radioIndex => (answers.radio radioIndex).vapInfoMap.map (fun _ => around.vaps h radioIndex)
    associated := around.associated h
  }

inductive Input (H : Type) where
  | config (rconf : RadioConfig) (changed : RadioConfigFlags)
  -- by another program, or by the radio itself
  | outside (hal : H) (dfs : Dfs)
  | trigger
  | chanEvent (radioIndex : Nat)
  | pass (duration : Nat)
  | healthcheck
  | resync

namespace Publisher

def shown (hal : RadioHal H) (around : Surroundings H) (p : Publisher H) (radioIndex : Nat)
    : Option RadioState :=
  hal.shown around.build p.dfs p.hal radioIndex

def publish (hal : RadioHal H) (around : Surroundings H) (updates : List Nat) (p : Publisher H)
    : Publisher H :=
  { p with
    published := fun radioIndex =>
      if updates.contains radioIndex then
        (shown hal around p radioIndex).or (p.published radioIndex)
      else
        p.published radioIndex
  }

/-- `radio_resync_all_task`, with what `radio_state_update` publishes. -/
def resyncAllTask (hal : RadioHal H) (around : Surroundings H) (p : Publisher H) : Publisher H :=
  let state := radioResyncAllTask around.build.toBuild around.env around.keyIds
    (hal.toHal around p.hal) { p.state with radioUpdates := [] }
  let p := publish hal around state.radioUpdates p
  { p with
    state
    waiting := []
    rounds := p.rounds ++ [{ requests := p.waiting, time := p.now }]
  }

def mayPass (times : Times) (duration : Nat) (p : Publisher H) : Bool :=
  p.healthcheckTimer.due.all (fun due => p.now + duration ≤ due + times.lag)
    && p.radioResyncAllTaskTimer.due.all (fun due => p.now + duration ≤ due + times.lag)

def step (times : Times) (hal : RadioHal H) (around : Surroundings H) (p : Publisher H)
    : Input H → Publisher H
  | .config rconf changed =>
    let out := targetRadioConfigSet2 around.disableSync hal rconf changed p.hal
    let p := { p with hal := out.hal }
    if out.ok then p.radioTriggerResync times else p
  | .outside h dfs => { p with hal := h, dfs }
  | .trigger => p.radioTriggerResync times
  | .chanEvent radioIndex => p.publish hal around [radioIndex]
  | .pass duration => if p.mayPass times duration then { p with now := p.now + duration } else p
  | .healthcheck =>
    if p.healthcheckTimer.expired p.now then
      healthcheckTask times { p with healthcheckTimer := p.healthcheckTimer.stop }
    else
      p
  | .resync =>
    if p.radioResyncAllTaskTimer.expired p.now then
      resyncAllTask hal around { p with radioResyncAllTaskTimer := p.radioResyncAllTaskTimer.stop }
    else
      p

def run (times : Times) (hal : RadioHal H) (around : Surroundings H) (p : Publisher H)
    (inputs : List (Input H)) : Publisher H :=
  inputs.foldl (step times hal around) p

/-- When the last resync ran; the start counts as one. -/
def last (p : Publisher H) : Nat :=
  (p.rounds.getLast?.map Round.time).getD 0

end Publisher

def Round.Timely (times : Times) (round : Round) : Prop :=
  ∃ first rest, round.requests = first :: rest
    ∧ first + times.resyncUpdateDelay ≤ round.time
    ∧ round.time ≤ first + times.resyncUpdateDelay + times.lag
    ∧ ∀ request ∈ round.requests, first ≤ request ∧ request ≤ round.time

def Times.Follows (times : Times) (before after : Nat) : Prop :=
  before + times.resyncUpdateDelay ≤ after ∧ after ≤ before + times.patience

namespace Publisher

structure Pending (times : Times) (p : Publisher H) (due : Nat) : Prop where
  notLate : p.now ≤ due + times.lag
  bounded : due + times.lag ≤ p.last + times.patience
  waiting : ∃ first rest, p.waiting = first :: rest
    ∧ due = first + times.resyncUpdateDelay
    ∧ p.last ≤ first
    ∧ ∀ request ∈ p.waiting, first ≤ request ∧ request ≤ p.now

structure Idle (times : Times) (p : Publisher H) : Prop where
  waiting : p.waiting = []
  due : p.healthcheckTimer.due.all (fun due => due ≤ p.last + times.period)

structure Timely (times : Times) (p : Publisher H) : Prop where
  ongoing : p.state.resyncOngoing = p.radioResyncAllTaskTimer.due.isSome
  healthcheck : ∃ due, p.healthcheckTimer.due = some due
    ∧ p.now ≤ due + times.lag
    ∧ due ≤ p.now + times.period
  pending : ∀ due, p.radioResyncAllTaskTimer.due = some due → p.Pending times due
  idle : p.radioResyncAllTaskTimer.due = none → p.Idle times
  rounds : ∀ round ∈ p.rounds, round.Timely times
  spaced : List.IsChain times.Follows (0 :: p.rounds.map Round.time)
  last : p.last ≤ p.now

variable {times : Times} {p : Publisher H}

theorem targetRadioInit_timely (times : Times) (state : State) (hal : H) (dfs : Dfs)
    (published : Nat → Option RadioState)
    : (targetRadioInit times state hal dfs published).Timely times where
  ongoing := rfl
  healthcheck := ⟨2 * times.second, by simp [targetRadioInit, EvTimer.init, EvTimer.start],
    Nat.zero_le _, by simp [targetRadioInit, Times.period]⟩
  pending := by simp [targetRadioInit, EvTimer.init]
  idle := fun _ =>
    { waiting := rfl
      due := by simp [targetRadioInit, EvTimer.init, EvTimer.start, last, Times.period]
    }
  rounds := by simp [targetRadioInit]
  spaced := by simp [targetRadioInit]
  last := Nat.le_refl 0

theorem radioTriggerResync_frame (times : Times) (p : Publisher H)
    : (radioTriggerResync times p).now = p.now
        ∧ (radioTriggerResync times p).healthcheckTimer = p.healthcheckTimer
        ∧ (radioTriggerResync times p).waiting = p.waiting ++ [p.now]
        ∧ (radioTriggerResync times p).rounds = p.rounds
        ∧ (radioTriggerResync times p).hal = p.hal
        ∧ (radioTriggerResync times p).dfs = p.dfs
        ∧ (radioTriggerResync times p).published = p.published := by
  unfold radioTriggerResync
  dsimp only
  split <;> exact ⟨rfl, rfl, rfl, rfl, rfl, rfl, rfl⟩

theorem Timely.radioTriggerResync (hp : p.Timely times)
    : (p.radioTriggerResync times).Timely times := by
  have ⟨healthcheckDue, hhealthcheck, hnow, hperiod⟩ := hp.healthcheck
  have hlast := hp.last
  cases hdue : p.radioResyncAllTaskTimer.due with
  | none =>
    have hidle := hp.idle hdue
    have hongoing : p.state.resyncOngoing = false := by rw [hp.ongoing, hdue]; rfl
    have hbound := hidle.due
    rw [hhealthcheck] at hbound
    simp only [Option.all_some, decide_eq_true_eq] at hbound
    have heq : p.radioTriggerResync times
        = { p with
            waiting := [p.now]
            state := { p.state with resyncOngoing := true }
            radioResyncAllTaskTimer :=
              { after := times.resyncUpdateDelay, due := some (p.now + times.resyncUpdateDelay) } } := by
      simp [Publisher.radioTriggerResync, hongoing, hidle.waiting, EvTimer.start, EvTimer.stop, EvTimer.set]
    rw [heq]
    constructor
    case ongoing => rfl
    case healthcheck => exact ⟨healthcheckDue, hhealthcheck, hnow, hperiod⟩
    case pending =>
      intro due hdue
      injection hdue with hdue
      constructor
      case notLate => exact hdue ▸ by dsimp only; omega
      case bounded =>
        change due + times.lag ≤ p.last + times.patience
        unfold Times.patience
        omega
      case waiting => exact ⟨p.now, [], rfl, hdue.symm, hlast, by simp⟩
    case idle => simp
    case rounds => exact hp.rounds
    case spaced => exact hp.spaced
    case last => exact hlast
  | some due =>
    have hpending := hp.pending due hdue
    have hongoing : p.state.resyncOngoing = true := by rw [hp.ongoing, hdue]; rfl
    have heq : p.radioTriggerResync times = { p with waiting := p.waiting ++ [p.now] } := by
      simp [Publisher.radioTriggerResync, hongoing]
    rw [heq]
    constructor
    case ongoing => exact hp.ongoing
    case healthcheck => exact hp.healthcheck
    case pending =>
      intro due' hdue'
      have hpending' := hp.pending due' hdue'
      have ⟨first, rest, hwaiting, hfirst, hafter, hall⟩ := hpending'.waiting
      refine ⟨hpending'.notLate, hpending'.bounded, first, rest ++ [p.now], ?_, hfirst, hafter, ?_⟩
      . simp [hwaiting]
      . intro request hrequest
        simp only [List.mem_append, List.mem_singleton] at hrequest
        rcases hrequest with hrequest | hrequest
        . exact hall request hrequest
        . rw [hrequest]
          have hmem : first ∈ p.waiting := by simp [hwaiting]
          exact ⟨(hall first hmem).2, Nat.le_refl _⟩
    case idle =>
      intro hnone
      rw [hnone] at hdue
      contradiction
    case rounds => exact hp.rounds
    case spaced => exact hp.spaced
    case last => exact hlast

theorem Timely.radioTriggerResync_active (hp : p.Timely times)
    : (p.radioTriggerResync times).radioResyncAllTaskTimer.due.isSome := by
  unfold Publisher.radioTriggerResync
  dsimp only
  split
  . rfl
  . next hongoing =>
    rw [hp.ongoing] at hongoing
    exact Decidable.not_not.mp hongoing

theorem Timely.setHealthcheck (hp : p.Timely times) {timer : EvTimer} {due : Nat}
    (hactive : p.radioResyncAllTaskTimer.due.isSome) (hdue : timer.due = some due)
    (hnow : p.now ≤ due + times.lag) (hperiod : due ≤ p.now + times.period)
    : Timely times { p with healthcheckTimer := timer } where
  ongoing := hp.ongoing
  healthcheck := ⟨due, hdue, hnow, hperiod⟩
  pending := fun due hdue =>
    have hpending := hp.pending due hdue
    ⟨hpending.notLate, hpending.bounded, hpending.waiting⟩
  idle := by
    intro hnone
    dsimp only at hnone
    rw [hnone] at hactive
    contradiction
  rounds := hp.rounds
  spaced := hp.spaced
  last := hp.last

theorem healthcheckTask_eq (times : Times) (p : Publisher H) (timer : EvTimer)
    : healthcheckTask times { p with healthcheckTimer := timer }
        = { p.radioTriggerResync times with
            healthcheckTimer := (timer.stop.set times.healthcheckInterval).start p.now } := by
  unfold healthcheckTask radioTriggerResync
  dsimp only
  split <;> rfl

theorem Timely.healthcheckTask (hp : p.Timely times)
    : Timely times
        (Publisher.healthcheckTask times { p with healthcheckTimer := p.healthcheckTimer.stop }) := by
  have hframe := radioTriggerResync_frame times p
  rw [healthcheckTask_eq]
  apply hp.radioTriggerResync.setHealthcheck hp.radioTriggerResync_active rfl
  . rw [hframe.1]
    simp only [EvTimer.stop, EvTimer.set, Option.getD_none]
    omega
  . rw [hframe.1]
    have hle : times.healthcheckInterval ≤ times.period := Nat.le_max_right _ _
    simp only [EvTimer.stop, EvTimer.set, Option.getD_none]
    omega

theorem last_concat (p : Publisher H) (round : Round)
    : last { p with rounds := p.rounds ++ [round] } = round.time := by
  simp [last]

theorem isChain_concat {R : Nat → Nat → Prop} {p : Publisher H} {time : Nat}
    (hchain : List.IsChain R (0 :: p.rounds.map Round.time)) (hlast : R p.last time)
    : List.IsChain R (0 :: (p.rounds.map Round.time ++ [time])) := by
  rw [← List.cons_append, List.isChain_append]
  refine ⟨hchain, by simp, ?_⟩
  intro before hbefore after hafter
  simp only [List.head?_cons, Option.mem_def, Option.some.injEq] at hafter
  rw [← hafter]
  have heq : before = p.last := by
    unfold last
    rw [List.getLast?_cons, Option.mem_def, List.getLast?_map] at hbefore
    exact (Option.some.inj hbefore).symm
  exact heq ▸ hlast

theorem Timely.resyncAllTask (hp : p.Timely times) (hal : RadioHal H) (around : Surroundings H)
    (hexpired : p.radioResyncAllTaskTimer.expired p.now)
    : Timely times (Publisher.resyncAllTask hal around
        { p with radioResyncAllTaskTimer := p.radioResyncAllTaskTimer.stop }) := by
  unfold EvTimer.expired at hexpired
  rw [Option.any_eq_true] at hexpired
  have ⟨due, hdue, hle⟩ := hexpired
  rw [decide_eq_true_eq] at hle
  have hpending := hp.pending due hdue
  have hnotLate := hpending.notLate
  have hbounded := hpending.bounded
  have ⟨first, rest, hwaiting, hfirst, hafter, hall⟩ := hpending.waiting
  have ⟨healthcheckDue, hhealthcheck, hnow, hperiod⟩ := hp.healthcheck
  have hlast : (Publisher.resyncAllTask hal around
      { p with radioResyncAllTaskTimer := p.radioResyncAllTaskTimer.stop }).last = p.now := by
    exact last_concat p { requests := p.waiting, time := p.now }
  constructor
  case ongoing =>
    change (radioResyncAllTask _ _ _ _ _).resyncOngoing = false
    unfold radioResyncAllTask
    split <;> rfl
  case healthcheck => exact ⟨healthcheckDue, hhealthcheck, hnow, hperiod⟩
  case pending =>
    intro due hnone
    contradiction
  case idle =>
    intro _
    constructor
    case waiting => rfl
    case due =>
      rw [hlast]
      change p.healthcheckTimer.due.all (fun due => decide (due ≤ p.now + times.period))
      rw [hhealthcheck]
      simpa using hperiod
  case rounds =>
    intro round hround
    change round ∈ p.rounds ++ [{ requests := p.waiting, time := p.now }] at hround
    simp only [List.mem_append, List.mem_singleton] at hround
    rcases hround with hround | hround
    . exact hp.rounds round hround
    . rw [hround]
      refine ⟨first, rest, hwaiting, ?_, ?_, hall⟩
      . dsimp only; omega
      . dsimp only; omega
  case spaced =>
    change List.IsChain times.Follows
      (0 :: List.map Round.time (p.rounds ++ [({ requests := p.waiting, time := p.now } : Round)]))
    rw [List.map_append]
    apply isChain_concat hp.spaced
    constructor
    . dsimp only; omega
    . dsimp only; omega
  case last =>
    rw [hlast]
    exact Nat.le_refl _

theorem Timely.pass (hp : p.Timely times) {duration : Nat} (hmay : p.mayPass times duration)
    : Timely times { p with now := p.now + duration } := by
  have ⟨healthcheckDue, hhealthcheck, hnow, hperiod⟩ := hp.healthcheck
  have hlast := hp.last
  unfold mayPass at hmay
  rw [Bool.and_eq_true, hhealthcheck] at hmay
  have hlate : p.now + duration ≤ healthcheckDue + times.lag := by simpa using hmay.1
  constructor
  case ongoing => exact hp.ongoing
  case healthcheck =>
    refine ⟨healthcheckDue, hhealthcheck, hlate, ?_⟩
    dsimp only
    omega
  case pending =>
    intro due hdue
    have hpending := hp.pending due hdue
    have ⟨first, rest, hwaiting, hfirst, hafter, hall⟩ := hpending.waiting
    have hresync := hmay.2
    change p.radioResyncAllTaskTimer.due = some due at hdue
    rw [hdue] at hresync
    refine ⟨by simpa using hresync, hpending.bounded, first, rest, hwaiting, hfirst, hafter, ?_⟩
    intro request hrequest
    have hle := (hall request hrequest).2
    refine ⟨(hall request hrequest).1, ?_⟩
    dsimp only
    omega
  case idle =>
    intro hnone
    have hidle := hp.idle hnone
    exact ⟨hidle.waiting, hidle.due⟩
  case rounds => exact hp.rounds
  case spaced => exact hp.spaced
  case last =>
    change p.last ≤ p.now + duration
    omega

theorem Timely.setRows (hp : p.Timely times) (hal : H) (dfs : Dfs) (published : Nat → Option RadioState)
    : Timely times { p with hal, dfs, published } where
  ongoing := hp.ongoing
  healthcheck := hp.healthcheck
  pending := fun due hdue =>
    have hpending := hp.pending due hdue
    ⟨hpending.notLate, hpending.bounded, hpending.waiting⟩
  idle := fun hnone =>
    have hidle := hp.idle hnone
    ⟨hidle.waiting, hidle.due⟩
  rounds := hp.rounds
  spaced := hp.spaced
  last := hp.last

variable (hal : RadioHal H) (around : Surroundings H)

theorem Timely.step (hp : p.Timely times) (input : Input H)
    : (p.step times hal around input).Timely times := by
  cases input with
  | config rconf changed =>
    unfold Publisher.step
    dsimp only
    split
    . exact (hp.setRows _ p.dfs p.published).radioTriggerResync
    . exact hp.setRows _ p.dfs p.published
  | outside h dfs => exact hp.setRows h dfs p.published
  | trigger => exact hp.radioTriggerResync
  | chanEvent radioIndex => exact hp.setRows p.hal p.dfs _
  | pass duration =>
    unfold Publisher.step
    dsimp only
    split
    . next hmay => exact hp.pass hmay
    . exact hp
  | healthcheck =>
    unfold Publisher.step
    dsimp only
    split
    . exact hp.healthcheckTask
    . exact hp
  | resync =>
    unfold Publisher.step
    dsimp only
    split
    . next hexpired => exact hp.resyncAllTask hal around hexpired
    . exact hp

theorem Timely.run (hp : p.Timely times) (inputs : List (Input H))
    : (p.run times hal around inputs).Timely times := by
  unfold Publisher.run
  induction inputs generalizing p with
  | nil => exact hp
  | cons input inputs ih =>
    apply ih
    exact hp.step hal around input

theorem Timely.now_le (hp : p.Timely times)
    : p.now ≤ p.last + times.patience
        ∧ ∀ request ∈ p.waiting, p.now ≤ request + times.resyncUpdateDelay + times.lag := by
  have ⟨healthcheckDue, hhealthcheck, hnow, hperiod⟩ := hp.healthcheck
  cases hdue : p.radioResyncAllTaskTimer.due with
  | none =>
    have hidle := hp.idle hdue
    have hbound := hidle.due
    rw [hhealthcheck] at hbound
    simp only [Option.all_some, decide_eq_true_eq] at hbound
    constructor
    . unfold Times.patience
      omega
    . simp [hidle.waiting]
  | some due =>
    have hpending := hp.pending due hdue
    have hnotLate := hpending.notLate
    have hbounded := hpending.bounded
    have ⟨first, rest, hwaiting, hfirst, hafter, hall⟩ := hpending.waiting
    constructor
    . omega
    . intro request hrequest
      have hge := (hall request hrequest).1
      omega

theorem resync_rounds (state : State) (h : H) (dfs : Dfs) (published : Nat → Option RadioState)
    (inputs : List (Input H))
    : let p := (targetRadioInit times state h dfs published).run times hal around inputs
      (∀ round ∈ p.rounds, round.Timely times)
        ∧ List.IsChain times.Follows (0 :: p.rounds.map Round.time)
        ∧ p.now ≤ p.last + times.patience
        ∧ ∀ request ∈ p.waiting, p.now ≤ request + times.resyncUpdateDelay + times.lag := by
  intro p
  have hp : p.Timely times := (targetRadioInit_timely times state h dfs published).run hal around inputs
  exact ⟨hp.rounds, hp.spaced, hp.now_le⟩

end Publisher

def Hal.reads (hal : Hal) (radioIndex : Nat) : Prop :=
  hal.radioIfName radioIndex ∧ hal.radioOperatingParameters radioIndex

theorem foldl_vapResync_radioUpdates (build : Build) (env : Clients.Env) (keyIds : KeyIds) (hal : Hal)
    (vaps : List VapInfo) (s : State)
    : (vaps.foldl (vapResync build env keyIds hal) s).radioUpdates = s.radioUpdates := by
  induction vaps generalizing s with
  | nil => rfl
  | cons vap vaps ih =>
    rw [List.foldl_cons, ih]
    unfold vapResync
    split
    . rfl
    . split <;> rfl

theorem radioResync_radioUpdates_subset (build : Build) (env : Clients.Env) (keyIds : KeyIds) (hal : Hal)
    (radios : List Nat) (s : State)
    : s.radioUpdates ⊆ (radioResync build env keyIds hal radios s).radioUpdates := by
  induction radios generalizing s with
  | nil => exact List.Subset.refl _
  | cons radio radios ih =>
    unfold radioResync radioStateUpdate
    split
    . next heq =>
      split at heq
      . simp at heq
      . simp only [Prod.mk.injEq, and_true] at heq
        rw [← heq]
        exact ih s
    . next heq =>
      split at heq
      . simp only [Prod.mk.injEq, and_true] at heq
        rw [← heq]
        split
        . simp
        . apply List.Subset.trans _ (ih _)
          rw [foldl_vapResync_radioUpdates]
          simp
      . simp at heq

theorem mem_radioResync_radioUpdates {build : Build} {env : Clients.Env} {keyIds : KeyIds} {hal : Hal}
    (hnum : hal.numRadios.isSome) {radioIndex : Nat} (hreads : hal.reads radioIndex) (later : List Nat)
    {earlier : List Nat}
    (hmap : ∀ other ∈ earlier, hal.reads other → (hal.vapInfoMap other).isSome) (s : State)
    : radioIndex
        ∈ (radioResync build env keyIds hal (earlier ++ radioIndex :: later) s).radioUpdates := by
  induction earlier generalizing s with
  | nil =>
    rw [List.nil_append]
    unfold radioResync radioStateUpdate
    rw [if_pos ⟨hnum, hreads⟩]
    dsimp only
    split
    . simp
    . apply radioResync_radioUpdates_subset
      rw [foldl_vapResync_radioUpdates]
      simp
  | cons other earlier ih =>
    have ih := ih (fun other hother => hmap other (List.mem_cons_of_mem _ hother))
    rw [List.cons_append]
    unfold radioResync radioStateUpdate
    by_cases hother : hal.reads other
    . rw [if_pos ⟨hnum, hother⟩]
      dsimp only
      have hsome := hmap other List.mem_cons_self hother
      cases hvaps : hal.vapInfoMap other with
      | none =>
        rw [hvaps] at hsome
        contradiction
      | some vaps => exact ih _
    . rw [if_neg (fun hall => hother hall.2)]
      exact ih _

/-- The resync gets to the radio: no map is missing of an earlier one that could be read. -/
def InitAnswers.Resynced (answers : InitAnswers) (radioIndex : Nat) : Prop :=
  (∃ numRadios, answers.numRadios = some numRadios ∧ radioIndex < numRadios)
    ∧ ∀ earlier < radioIndex, (answers.radio earlier).radioIfName.isSome
      → (answers.radio earlier).operatingParameters.isSome
      → (answers.radio earlier).vapInfoMap.isSome

theorem mem_radioResyncAllTask_radioUpdates {hal : RadioHal H} {around : Surroundings H} {h : H}
    {radioIndex : Nat} (hresynced : (hal.answers h).Resynced radioIndex)
    (hreads : (hal.toHal around h).reads radioIndex) (s : State)
    : radioIndex ∈ (radioResyncAllTask around.build.toBuild around.env around.keyIds
        (hal.toHal around h) s).radioUpdates := by
  have ⟨⟨numRadios, hnum, hlt⟩, hmap⟩ := hresynced
  have hnum' : (hal.toHal around h).numRadios = some numRadios := hnum
  have ⟨later, hlater⟩ := Nat.exists_eq_add_of_lt hlt
  have hsplit : List.range numRadios
      = List.range radioIndex
        ++ radioIndex :: (List.range later).map (fun offset => radioIndex + (offset + 1)) := by
    rw [hlater, Nat.add_assoc, List.range_add, List.range_succ_eq_map, List.map_cons, List.map_map]
    rfl
  unfold radioResyncAllTask
  rw [hnum']
  dsimp only
  rw [hsplit]
  apply mem_radioResync_radioUpdates (by rw [hnum']; rfl) hreads
  intro other hother hreads
  have hsome := hmap other (List.mem_range.mp hother) hreads.1 hreads.2
  unfold RadioHal.toHal
  simpa using hsome

namespace Publisher

def Current (hal : RadioHal H) (around : Surroundings H) (p : Publisher H) : Prop :=
  ∀ radioIndex rstate, (hal.answers p.hal).Resynced radioIndex
    → p.shown hal around radioIndex = some rstate
    → p.published radioIndex = some rstate

structure Awaits (time : Nat) (announced : Bool) (p : Publisher H) : Prop where
  last : p.last ≤ time
  waiting : announced → time ∈ p.waiting

end Publisher

def Input.Quiet : Input H → Prop
  | .config .. => False
  | .outside .. => False
  | _ => True

namespace Publisher

variable {times : Times} {p : Publisher H} {hal : RadioHal H} {around : Surroundings H}

theorem reads_of_shown {radioIndex : Nat} {rstate : RadioState}
    (hshown : p.shown hal around radioIndex = some rstate)
    : (hal.toHal around p.hal).reads radioIndex := by
  unfold shown RadioHal.shown at hshown
  rw [stateShown_eq, Option.bind_eq_some_iff] at hshown
  have ⟨caps, _, hshown⟩ := hshown
  rw [Option.bind_eq_some_iff] at hshown
  have ⟨ifname, hifname, hshown⟩ := hshown
  rw [Option.map_eq_some_iff] at hshown
  have ⟨params, hparams, _⟩ := hshown
  unfold RadioHal.toHal Hal.reads
  simp [hifname, hparams]

theorem resyncAllTask_current (p : Publisher H)
    : (p.resyncAllTask hal around).Current hal around := by
  intro radioIndex rstate hresynced hshown
  have hresynced : (hal.answers p.hal).Resynced radioIndex := hresynced
  have hshown : p.shown hal around radioIndex = some rstate := hshown
  have hmem := mem_radioResyncAllTask_radioUpdates hresynced (reads_of_shown hshown)
    { p.state with radioUpdates := [] }
  unfold resyncAllTask publish
  dsimp only
  rw [if_pos (List.contains_iff_mem.mpr hmem), hshown]
  rfl

theorem Current.publish (hp : p.Current hal around) (updates : List Nat)
    : (p.publish hal around updates).Current hal around := by
  intro radioIndex rstate hresynced hshown
  have hsame : p.shown hal around radioIndex = some rstate := hshown
  unfold Publisher.publish
  dsimp only
  split
  . rw [hsame]
    rfl
  . exact hp radioIndex rstate hresynced hsame

theorem Current.congr {t : Publisher H} (hp : p.Current hal around) (hhal : t.hal = p.hal)
    (hdfs : t.dfs = p.dfs) (hpublished : t.published = p.published)
    : t.Current hal around := by
  unfold Current shown
  rw [hhal, hdfs, hpublished]
  exact hp

variable (times hal around) in
theorem step_quiet {input : Input H} (hquiet : input.Quiet) {time : Nat}
    {announced : Bool} (hawaits : p.Current hal around ∨ p.Awaits time announced)
    : let t := p.step times hal around input
      t.hal = p.hal ∧ t.dfs = p.dfs ∧ (t.Current hal around ∨ t.Awaits time announced) := by
  have htrigger : (p.radioTriggerResync times).hal = p.hal
      ∧ (p.radioTriggerResync times).dfs = p.dfs
      ∧ ((p.radioTriggerResync times).Current hal around
        ∨ (p.radioTriggerResync times).Awaits time announced) := by
    have ⟨_, _, hwaiting, hrounds, hhal, hdfs, hpublished⟩ := radioTriggerResync_frame times p
    refine ⟨hhal, hdfs, ?_⟩
    cases hawaits with
    | inl hcurrent => exact Or.inl (hcurrent.congr hhal hdfs hpublished)
    | inr hawaits =>
      apply Or.inr
      constructor
      case last =>
        unfold Publisher.last
        rw [hrounds]
        exact hawaits.last
      case waiting =>
        intro hannounced
        rw [hwaiting]
        exact List.mem_append_left _ (hawaits.waiting hannounced)
  unfold step
  cases input with
  | config rconf changed => exact hquiet.elim
  | outside h dfs => exact hquiet.elim
  | trigger => exact htrigger
  | chanEvent radioIndex =>
    refine ⟨rfl, rfl, ?_⟩
    cases hawaits with
    | inl hcurrent => exact Or.inl (hcurrent.publish _)
    | inr hawaits => exact Or.inr ⟨hawaits.last, hawaits.waiting⟩
  | pass duration =>
    dsimp only
    split
    . refine ⟨rfl, rfl, ?_⟩
      cases hawaits with
      | inl hcurrent => exact Or.inl hcurrent
      | inr hawaits => exact Or.inr ⟨hawaits.last, hawaits.waiting⟩
    . exact ⟨rfl, rfl, hawaits⟩
  | healthcheck =>
    dsimp only
    split
    . rw [healthcheckTask_eq]
      refine ⟨htrigger.1, htrigger.2.1, ?_⟩
      cases htrigger.2.2 with
      | inl hcurrent => exact Or.inl hcurrent
      | inr hawaits => exact Or.inr ⟨hawaits.last, hawaits.waiting⟩
    . exact ⟨rfl, rfl, hawaits⟩
  | resync =>
    dsimp only
    split
    . exact ⟨rfl, rfl, Or.inl (resyncAllTask_current _)⟩
    . exact ⟨rfl, rfl, hawaits⟩

variable (times hal around) in
theorem run_quiet {inputs : List (Input H)} (hquiet : ∀ input ∈ inputs, input.Quiet) {time : Nat}
    {announced : Bool} (hawaits : p.Current hal around ∨ p.Awaits time announced)
    : let t := p.run times hal around inputs
      t.hal = p.hal ∧ t.dfs = p.dfs ∧ (t.Current hal around ∨ t.Awaits time announced) := by
  unfold run
  induction inputs generalizing p with
  | nil => exact ⟨rfl, rfl, hawaits⟩
  | cons input inputs ih =>
    have hstep := step_quiet times hal around (hquiet input List.mem_cons_self) hawaits
    have hrest := ih (fun input hinput => hquiet input (List.mem_cons_of_mem _ hinput)) hstep.2.2
    exact ⟨hrest.1.trans hstep.1, hrest.2.1.trans hstep.2.1, hrest.2.2⟩

theorem Awaits.now_le {time : Nat} {announced : Bool} (hawaits : p.Awaits time announced)
    (hp : p.Timely times)
    : p.now ≤ time + times.patience
        ∧ (announced → p.now ≤ time + times.resyncUpdateDelay + times.lag) := by
  have hlast := hawaits.last
  have hnow := hp.now_le
  constructor
  . omega
  . intro hannounced
    exact hnow.2 time (hawaits.waiting hannounced)

variable (hal around) in
theorem run_current (hp : p.Timely times) {inputs : List (Input H)} (hquiet : ∀ input ∈ inputs, input.Quiet)
    {time : Nat} {announced : Bool} (hawaits : p.Awaits time announced)
    (hlate : let t := p.run times hal around inputs
      announced ∧ time + times.resyncUpdateDelay + times.lag < t.now ∨ time + times.patience < t.now)
    : let t := p.run times hal around inputs
      t.hal = p.hal ∧ t.dfs = p.dfs ∧ t.Current hal around := by
  have ⟨hhal, hdfs, hrun⟩ := run_quiet times hal around hquiet (Or.inr hawaits)
  refine ⟨hhal, hdfs, ?_⟩
  cases hrun with
  | inl hcurrent => exact hcurrent
  | inr hawaits =>
    have hnow := hawaits.now_le (hp.run hal around inputs)
    cases hlate with
    | inl hlate =>
      have hle := hnow.2 hlate.1
      omega
    | inr hlate => omega

def oneRadio : InitAnswers where
  numRadios := some 1
  radio := fun _ =>
    { halCapability := some [{ index := 0, zeroDfsSupported := true, channelList := [] }]
      radioIfName := some (cstr "wifi0")
      operatingParameters := some
        { band := .band5, enable := false, channel := 36, countryCode := cstr "US"
          channelWidth := .mhz80, variant := [.ac] }
      transmitPower := some 20, channelMap := none, macaddr := none
      zeroDfsState := some (false, false), vapInfoMap := some [] }

def noVaps : Surroundings InitAnswers where
  build :=
    { home with chipset2g := [], chipset5g := [], chipset6g := [], unmapIfname := id, macStr := fun _ => [] }
  env := quietEnv
  keyIds := fun _ => cstr "key"
  vaps := fun _ _ => []
  associated := fun _ _ => none
  disableSync := false

def soon : Times := { second := 1, healthcheckInterval := 30, lag := 1 }

def quietDfs : Dfs := { lastChannel := [], numDetected := [], radarTimestamp := 0, updates := [] }

def booted : Publisher InitAnswers :=
  targetRadioInit soon (connectedTo ⟨2, 0, 0, 0, 0, 1⟩ 0) oneRadio quietDfs (fun _ => none)

def dimmed : InitAnswers :=
  oneRadio.update 0 (fun answers => { answers with transmitPower := some 10 })

variable (times hal around) in
theorem outside_published (state : State) (h₀ : H) (dfs₀ : Dfs) (published : Nat → Option RadioState)
    (before after : List (Input H)) (hquiet : ∀ input ∈ after, input.Quiet) (h : H) (dfs : Dfs)
    : let p := (targetRadioInit times state h₀ dfs₀ published).run times hal around before
      let t := p.run times hal around (.outside h dfs :: after)
      p.now + times.patience < t.now
        → ∀ radioIndex rstate, (hal.answers h).Resynced radioIndex
          → hal.shown around.build dfs h radioIndex = some rstate
          → t.published radioIndex = some rstate := by
  intro p t hlate radioIndex rstate hresynced hshown
  have hp : p.Timely times := (targetRadioInit_timely times state h₀ dfs₀ published).run hal around before
  have hstep := hp.step hal around (.outside h dfs)
  have hawaits : (p.step times hal around (.outside h dfs)).Awaits p.now false := ⟨hp.last, by simp⟩
  have ⟨hhal, hdfs, hcurrent⟩ := run_current hal around hstep hquiet hawaits (Or.inr hlate)
  apply hcurrent
  . rw [hhal]
    exact hresynced
  . unfold Publisher.shown
    rw [hhal, hdfs]
    exact hshown

theorem outside_published_once
    : let p := booted.run soon tableHal noVaps [.trigger]
      let t := p.run soon tableHal noVaps (.outside dimmed quietDfs
        :: [.pass 2, .healthcheck, .pass 3, .resync, .pass 27, .healthcheck, .pass 6])
      t.published 0 = tableHal.shown noVaps.build quietDfs dimmed 0 := by
  have hpublished := outside_published soon tableHal noVaps (connectedTo ⟨2, 0, 0, 0, 0, 1⟩ 0) oneRadio
    quietDfs (fun _ => none) [.trigger]
    [.pass 2, .healthcheck, .pass 3, .resync, .pass 27, .healthcheck, .pass 6] (by simp [Input.Quiet])
    dimmed quietDfs
  have hresynced : (tableHal.answers dimmed).Resynced 0 := ⟨⟨1, rfl, by decide⟩, by simp⟩
  have ⟨rstate, hshown⟩ := Option.isSome_iff_exists.mp
    (show (tableHal.shown noVaps.build quietDfs dimmed 0).isSome by decide)
  rw [hshown]
  exact hpublished (by decide) 0 rstate hresynced hshown

variable (times hal around) in
theorem config_published (hlawful : hal.Lawful) (state : State) (h₀ : H) (dfs₀ : Dfs)
    (published : Nat → Option RadioState) (before after : List (Input H))
    (hquiet : ∀ input ∈ after, input.Quiet) (rconf : RadioConfig) (changed : RadioConfigFlags)
    : let p := (targetRadioInit times state h₀ dfs₀ published).run times hal around before
      let t := p.run times hal around (.config rconf changed :: after)
      ∀ radioIndex, radioIfnameToIdx (hal.answers p.hal) rconf.ifName.val = some radioIndex
        → ∃ done, done <+: changed.stages
          ∧ ((targetRadioConfigSet2 around.disableSync hal rconf changed p.hal).ok = true
            ↔ done = changed.stages)
          ∧ (done = changed.stages ∧ p.now + times.resyncUpdateDelay + times.lag < t.now
              ∨ p.now + times.patience < t.now
            → ∀ other rstate, (hal.answers t.hal).Resynced other
              → p.shown hal around other = some rstate
              → t.published other
                  = some (if other = radioIndex then configured rconf done rstate else rstate)) := by
  intro p t radioIndex hidx
  have hp : p.Timely times := (targetRadioInit_timely times state h₀ dfs₀ published).run hal around before
  have ⟨done, hprefix, hok, hshows, _⟩ := targetRadioConfigSet2_done around.build p.dfs hlawful
    around.disableSync hidx changed
  refine ⟨done, hprefix, hok, ?_⟩
  intro hlate other rstate hresynced hshown
  have hstep := hp.step hal around (.config rconf changed)
  have hframe := radioTriggerResync_frame times
    { p with hal := (targetRadioConfigSet2 around.disableSync hal rconf changed p.hal).hal }
  have hlast := hp.last
  have hconfig : let u := p.step times hal around (.config rconf changed)
      u.hal = (targetRadioConfigSet2 around.disableSync hal rconf changed p.hal).hal ∧ u.dfs = p.dfs
        ∧ u.Awaits p.now (decide (done = changed.stages)) := by
    unfold step
    dsimp only
    split
    . refine ⟨hframe.2.2.2.2.1, hframe.2.2.2.2.2.1, ?_, ?_⟩
      . unfold Publisher.last
        rw [hframe.2.2.2.1]
        exact hlast
      . intro _
        rw [hframe.2.2.1]
        simp
    . next hfailed =>
      rw [hok] at hfailed
      exact ⟨rfl, rfl, hlast, by simp [hfailed]⟩
  have hlate : decide (done = changed.stages) = true ∧ p.now + times.resyncUpdateDelay + times.lag < t.now
      ∨ p.now + times.patience < t.now := by
    rw [decide_eq_true_eq]
    exact hlate
  have ⟨hhal, hdfs, hcurrent⟩ := run_current hal around hstep hquiet hconfig.2.2 hlate
  apply hcurrent other _ hresynced
  unfold Publisher.shown
  rw [hhal, hdfs, hconfig.1, hconfig.2.1, hshows other]
  split
  . have hsame : hal.shown around.build p.dfs p.hal other = some rstate := hshown
    rw [hsame]
    rfl
  . exact hshown

def enabling : RadioConfig :=
  { (default : RadioConfig) with ifName := .set (cstr "wifi0"), enabled := .set true }

theorem config_published_enabled
    : let p := booted.run soon tableHal noVaps [.trigger]
      let t := p.run soon tableHal noVaps (.config enabling ⟨true, false, false, false⟩
        :: [.pass 2, .healthcheck, .pass 3, .resync, .pass 2])
      t.published 0
        = (p.shown tableHal noVaps 0).map (fun rstate => { rstate with enabled := .set true }) := by
  have ⟨done, _, hok, hpublished⟩ := config_published soon tableHal noVaps tableHal_lawful
    (connectedTo ⟨2, 0, 0, 0, 0, 1⟩ 0) oneRadio quietDfs (fun _ => none) [.trigger]
    [.pass 2, .healthcheck, .pass 3, .resync, .pass 2] (by simp [Input.Quiet])
    enabling ⟨true, false, false, false⟩ 0 (by decide)
  have hdone : done = [.enabled] := hok.mp (by decide)
  have ⟨rstate, hshown⟩ := Option.isSome_iff_exists.mp
    (show ((booted.run soon tableHal noVaps [.trigger]).shown tableHal noVaps 0).isSome by decide)
  rw [hdone] at hpublished
  dsimp only
  rw [hshown]
  exact hpublished (Or.inl ⟨rfl, by decide⟩) 0 rstate ⟨⟨1, rfl, by decide⟩, by simp⟩ hshown

end Publisher

end Radio
end OpenSyncRdk
