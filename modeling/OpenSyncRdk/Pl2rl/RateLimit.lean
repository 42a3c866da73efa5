import OpenSyncRdk.Pl2rl.Framing

/-!
The rate at which `pl2rl.c` tries to connect. `pl2rl_last_attempt` limits it after an attempt that came
to no connection, but an attempt whose `REGISTER` could not be sent leaves through `pl2rl_disconnect`,
which resets the timestamp.
-/

namespace OpenSyncRdk
namespace Pl2rl

structure Connects (res : ConnectRes) : Prop where
  socket : res.socket.isSome
  connect : res.connect = true
  nonblock : res.nonblock = true

def RegisterSent (res : ConnectRes) : Prop :=
  SentWhole (hdrSize + regDataSize) retries res.register

def Registered (res : ConnectRes) : Prop :=
  Connects res ∧ RegisterSent res

def Attempts (s : Sender) (res : ConnectRes) : Prop :=
  s.fd = none ∧ ¬(s.lastAttempt ≠ 0 ∧ res.now - s.lastAttempt < connectRate)

instance : Decidable (Attempts s res) :=
  inferInstanceAs (Decidable (_ ∧ _))

def Call.res : Call → ConnectRes
  | .init res => res
  | .log _ res _ => res

structure Watched where
  sender : Sender
  now : Int
  attempts : List ConnectRes

def Watched.initial : Watched :=
  { sender := .initial, now := 0, attempts := [] }

def watchedStep (proc : Process) (w : Watched) (call : Call) : Option Watched :=
  if 0 < call.res.now ∧ w.now ≤ call.res.now then
    (step proc w.sender call).map (fun sender =>
      { sender
        now := call.res.now
        attempts := if Attempts w.sender call.res then w.attempts ++ [call.res] else w.attempts
      })
  else
    none

def RateLimited (attempts : List ConnectRes) : Prop :=
  attempts.Pairwise (fun lhs rhs => ¬Registered lhs → lhs.now + connectRate ≤ rhs.now)

def Patient (w : Watched) (call : Call) : Prop :=
  ∀ last ∈ w.attempts.getLast?, Connects last → ¬RegisterSent last →
    last.now + connectRate ≤ call.res.now

variable {proc : Process} {s t : Sender} {res : ConnectRes}

theorem opens_iff
    : Opens s res
        ↔ ¬(s.lastAttempt ≠ 0 ∧ res.now - s.lastAttempt < connectRate) ∧ Registered res := by
  constructor
  . intro ⟨hrate, hsocket, hconnect, hnonblock, hregister⟩
    exact ⟨hrate, ⟨hsocket, hconnect, hnonblock⟩, hregister⟩
  . intro ⟨hrate, ⟨hsocket, hconnect, hnonblock⟩, hregister⟩
    exact ⟨hrate, hsocket, hconnect, hnonblock, hregister⟩

theorem connect_registered (proc : Process) (hattempts : Attempts s res)
    : (connect proc s res).2 = true ↔ Registered res := by
  rcases hattempts with ⟨hclosed, hrate⟩
  by_cases hregistered : Registered res
  . rw [connect_opens proc s res hclosed (opens_iff.mpr ⟨hrate, hregistered⟩)]
    simp [hregistered]
  . have hopens : ¬Opens s res := by
      intro hopens
      exact hregistered (opens_iff.mp hopens).2
    have ⟨_, hfails⟩ := connect_fails proc s res hclosed hopens
    simp [hfails, hregistered]

theorem connect_limited (proc : Process) (hclosed : s.fd = none) (hlimited : ¬Attempts s res)
    : connect proc s res = (s, false) := by
  have hrate : s.lastAttempt ≠ 0 ∧ res.now - s.lastAttempt < connectRate := by
    apply not_not.mp
    intro hrate
    exact hlimited ⟨hclosed, hrate⟩
  simp only [connect, hclosed]
  rw [if_pos hrate]

theorem connect_refused (proc : Process) (hattempts : Attempts s res) (hrefused : ¬Connects res)
    : connect proc s res = ({ s with lastAttempt := res.now }, false) := by
  rcases hattempts with ⟨hclosed, hrate⟩
  simp only [connect, hclosed]
  rw [if_neg hrate]
  cases hsocket : res.socket with
  | none => rfl
  | some fd =>
    cases hconnect : res.connect with
    | false => rfl
    | true =>
      cases hnonblock : res.nonblock with
      | false => rfl
      | true =>
        exfalso
        exact hrefused ⟨by simp [hsocket], hconnect, hnonblock⟩

theorem disconnect_lastAttempt (hzero : s.lastAttempt = 0)
    : (disconnect s).lastAttempt = 0 := by
  unfold disconnect
  split
  . exact hzero
  . rfl

theorem sendLoop_lastAttempt (data : List UInt8) (tries w : Nat) (results : List SendRes)
    (hzero : s.lastAttempt = 0)
    : (sendLoop data tries w results s).1.lastAttempt = 0 := by
  induction tries generalizing w results s with
  | zero => exact hzero
  | succ tries ih =>
    cases results with
    | nil => exact hzero
    | cons res results =>
      cases res with
      | again => exact ih w results hzero
      | error => exact disconnect_lastAttempt hzero
      | sent count =>
        simp only [sendLoop]
        split
        . exact hzero
        . apply ih
          exact hzero

theorem send_lastAttempt (data : List UInt8) (results : List SendRes) (hzero : s.lastAttempt = 0)
    : (send s data results).1.lastAttempt = 0 := by
  unfold send
  split
  . exact hzero
  . apply sendLoop_lastAttempt
    exact hzero

theorem connect_lastAttempt (proc : Process) (hattempts : Attempts s res) (hconnects : Connects res)
    : (connect proc s res).1.lastAttempt = 0 := by
  rcases hattempts with ⟨hclosed, hrate⟩
  rcases hconnects with ⟨hsocket, hconnect, hnonblock⟩
  have ⟨fd, hfd⟩ := Option.isSome_iff_exists.mp hsocket
  simp only [connect, hclosed]
  rw [if_neg hrate]
  simp only [hfd, hconnect, hnonblock, not_true, ↓reduceIte]
  have hsend := send_lastAttempt (s := { lastAttempt := 0, fd := some fd, wire := [], handed := [] })
    (registerMsg proc) res.register rfl
  split
  . next heq =>
    rw [heq] at hsend
    exact hsend
  . next heq =>
    rw [heq] at hsend
    exact disconnect_lastAttempt hsend

theorem connect_unregistered (proc : Process) (hattempts : Attempts s res) (hunsent : ¬Registered res)
    : (connect proc s res).1.fd = none ∧ (connect proc s res).2 = false := by
  apply connect_fails proc s res hattempts.1
  intro hopens
  exact hunsent (opens_iff.mp hopens).2

theorem step_closed {call : Call} (hclosed : s.fd = none) (hfails : (connect proc s call.res).2 = false)
    : step proc s call = some (connect proc s call.res).1 := by
  cases call with
  | init res => rfl
  | log lmsg res results =>
    apply log_closed
    rw [if_neg (by simp [hclosed])]
    exact Prod.ext rfl hfails

theorem log_lastAttempt {lmsg : LoggerMsg} {results : List SendRes} {u : Sender}
    (hopen : (if s.fd.isSome then (s, true) else connect proc s res) = (u, true))
    (hzero : u.lastAttempt = 0) (hlog : log proc s lmsg res results = some t)
    : t.lastAttempt = 0 := by
  by_cases hlong : bufSize < wrapped lmsg
  . rw [log_long hopen hlong] at hlog
    injection hlog with hlog
    rw [← hlog]
    exact hzero
  . by_cases hbuf : InBuf lmsg
    . rw [log_send hopen hbuf] at hlog
      injection hlog with hlog
      rw [← hlog]
      apply send_lastAttempt
      exact hzero
    . rw [log_overrun hopen hlong hbuf] at hlog
      contradiction

theorem step_open {call : Call} (hopen : s.fd.isSome) (hzero : s.lastAttempt = 0)
    (hstep : step proc s call = some t)
    : t.lastAttempt = 0 := by
  cases call with
  | init res =>
    injection hstep with hstep
    rw [← hstep, init, connect_open proc s res hopen]
    exact hzero
  | log lmsg res results =>
    exact log_lastAttempt (if_pos hopen) hzero hstep

theorem step_registered {call : Call} (hattempts : Attempts s call.res)
    (hregistered : Registered call.res) (hstep : step proc s call = some t)
    : t.lastAttempt = 0 := by
  have hzero := connect_lastAttempt proc hattempts hregistered.1
  have hok := (connect_registered proc hattempts).mpr hregistered
  cases call with
  | init res =>
    injection hstep with hstep
    rw [← hstep]
    exact hzero
  | log lmsg res results =>
    have hclosed : s.fd = none := hattempts.1
    refine log_lastAttempt ?_ hzero hstep
    rw [if_neg (by simp [hclosed])]
    exact Prod.ext rfl hok

structure Watched.Inv (w : Watched) : Prop where
  sorted : w.attempts.Pairwise (fun lhs rhs => lhs.now ≤ rhs.now)
  past : ∀ res ∈ w.attempts, 0 < res.now ∧ res.now ≤ w.now
  opened : w.sender.fd.isSome → w.sender.lastAttempt = 0
  refused : ∀ last ∈ w.attempts.getLast?, ¬Connects last →
    w.sender.fd = none ∧ w.sender.lastAttempt = last.now
  unregistered : ∀ last ∈ w.attempts.getLast?, Connects last → ¬RegisterSent last →
    w.sender.fd = none ∧ w.sender.lastAttempt = 0

theorem watchedStep_eq {w u : Watched} {call : Call} (hstep : watchedStep proc w call = some u)
    : (0 < call.res.now ∧ w.now ≤ call.res.now)
        ∧ step proc w.sender call = some u.sender
        ∧ u.now = call.res.now
        ∧ u.attempts = if Attempts w.sender call.res then w.attempts ++ [call.res] else w.attempts := by
  unfold watchedStep at hstep
  split at hstep
  . next htime =>
    rw [Option.map_eq_some_iff] at hstep
    rcases hstep with ⟨sender, hsender, hu⟩
    rw [← hu]
    exact ⟨htime, hsender, rfl, rfl⟩
  . contradiction

theorem Watched.Inv.initial
    : Inv .initial := by
  constructor
  . exact List.Pairwise.nil
  . intro res hres
    contradiction
  . intro hopen
    contradiction
  . intro last hlast
    contradiction
  . intro last hlast
    contradiction

theorem Watched.Inv.attempt {w u : Watched} {call : Call} (hw : w.Inv)
    (hattempts : Attempts w.sender call.res) (hstep : watchedStep proc w call = some u)
    : u.Inv := by
  have ⟨⟨hpos, hle⟩, hsender, hnow, hmade⟩ := watchedStep_eq hstep
  rw [if_pos hattempts] at hmade
  have hlast : ∀ last ∈ u.attempts.getLast?, last = call.res := by
    intro last hlast
    rw [hmade, List.getLast?_concat] at hlast
    exact (Option.mem_some_iff.mp hlast).symm
  constructor
  . rw [hmade, List.pairwise_append]
    refine ⟨hw.sorted, List.pairwise_singleton _ _, ?_⟩
    intro lhs hlhs rhs hrhs
    rw [List.mem_singleton.mp hrhs]
    have := (hw.past lhs hlhs).2
    omega
  . intro res hres
    rw [hmade, List.mem_append, List.mem_singleton] at hres
    rw [hnow]
    rcases hres with hold | hnew
    . have := hw.past res hold
      omega
    . rw [hnew]
      omega
  . intro hopen
    by_cases hregistered : Registered call.res
    . exact step_registered hattempts hregistered hsender
    . have ⟨hfd, hfails⟩ := connect_unregistered proc hattempts hregistered
      rw [step_closed hattempts.1 hfails] at hsender
      injection hsender with hsender
      rw [← hsender, hfd] at hopen
      contradiction
  . intro last hmem hrefused
    rw [hlast last hmem] at hrefused ⊢
    have hconnect := connect_refused proc hattempts hrefused
    rw [step_closed hattempts.1 (by rw [hconnect])] at hsender
    injection hsender with hsender
    rw [← hsender, hconnect]
    exact ⟨hattempts.1, rfl⟩
  . intro last hmem hconnects hunsent
    rw [hlast last hmem] at hconnects hunsent
    have hzero := connect_lastAttempt proc hattempts hconnects
    have ⟨hfd, hfails⟩ := connect_unregistered proc hattempts (fun hregistered => hunsent hregistered.2)
    rw [step_closed hattempts.1 hfails] at hsender
    injection hsender with hsender
    rw [← hsender]
    exact ⟨hfd, hzero⟩

theorem Watched.Inv.step {w u : Watched} {call : Call} (hw : w.Inv)
    (hstep : watchedStep proc w call = some u)
    : u.Inv := by
  by_cases hattempts : Attempts w.sender call.res
  . exact hw.attempt hattempts hstep
  . have ⟨⟨_, hle⟩, hsender, hnow, hmade⟩ := watchedStep_eq hstep
    rw [if_neg hattempts] at hmade
    have hpast : ∀ res ∈ u.attempts, 0 < res.now ∧ res.now ≤ u.now := by
      intro res hres
      rw [hmade] at hres
      have := hw.past res hres
      omega
    cases hfd : w.sender.fd with
    | none =>
      -- The rate limit leaves the sender as it is.
      have hlimited := connect_limited proc hfd hattempts
      rw [step_closed hfd (by rw [hlimited]), hlimited] at hsender
      injection hsender with hsender
      refine ⟨hmade ▸ hw.sorted, hpast, ?_, ?_, ?_⟩
      all_goals rw [← hsender]
      . exact hw.opened
      . rw [hmade]
        exact hw.refused
      . rw [hmade]
        exact hw.unregistered
    | some fd =>
      have hopen : w.sender.fd.isSome := by simp [hfd]
      have hzero := step_open hopen (hw.opened hopen) hsender
      refine ⟨hmade ▸ hw.sorted, hpast, fun _ => hzero, ?_, ?_⟩
      . intro last hlast hrefused
        rw [hmade] at hlast
        have ⟨hclosed, _⟩ := hw.refused last hlast hrefused
        rw [hfd] at hclosed
        contradiction
      . intro last hlast hconnects hunsent
        rw [hmade] at hlast
        have ⟨hclosed, _⟩ := hw.unregistered last hlast hconnects hunsent
        rw [hfd] at hclosed
        contradiction

theorem Watched.Inv.spaced {w : Watched} {call : Call} (hw : w.Inv) (hlimited : RateLimited w.attempts)
    (htime : w.now ≤ call.res.now) (hattempts : Attempts w.sender call.res)
    : (∀ res ∈ w.attempts, ¬Registered res → res.now + connectRate ≤ call.res.now)
        ↔ Patient w call := by
  constructor
  . intro hspaced last hlast hconnects hunsent
    apply hspaced last (List.mem_of_mem_getLast? hlast)
    intro hregistered
    exact hunsent hregistered.2
  . intro hpatient
    cases hlast : w.attempts.getLast? with
    | none =>
      rw [List.getLast?_eq_none_iff.mp hlast]
      simp
    | some last =>
      have ⟨front, hfront⟩ := List.getLast?_eq_some_iff.mp hlast
      have hpast := hw.past last (List.mem_of_mem_getLast? hlast)
      unfold RateLimited at hlimited
      rw [hfront, List.pairwise_append] at hlimited
      intro res hres hunregistered
      rw [hfront, List.mem_append, List.mem_singleton] at hres
      rcases hres with hold | heq
      . have := hlimited.2.2 res hold last (by simp) hunregistered
        omega
      . rw [heq] at hunregistered ⊢
        by_cases hconnects : Connects last
        . exact hpatient last hlast hconnects (fun hsent => hunregistered ⟨hconnects, hsent⟩)
        . -- The attempt came to no connection: its time is the timestamp.
          have ⟨_, hstamp⟩ := hw.refused last hlast hconnects
          have hrate := hattempts.2
          rw [hstamp] at hrate
          omega

theorem watchedStep_rateLimited {w u : Watched} {call : Call} (hw : w.Inv)
    (hstep : watchedStep proc w call = some u)
    : RateLimited u.attempts ↔ RateLimited w.attempts ∧ Patient w call := by
  have ⟨⟨_, hle⟩, _, _, hmade⟩ := watchedStep_eq hstep
  rw [hmade]
  by_cases hattempts : Attempts w.sender call.res
  . rw [if_pos hattempts]
    unfold RateLimited
    rw [List.pairwise_append]
    constructor
    . intro ⟨hold, _, hnew⟩
      refine ⟨hold, (hw.spaced hold hle hattempts).mp ?_⟩
      intro res hres
      exact hnew res hres call.res (by simp)
    . intro ⟨hold, hpatient⟩
      refine ⟨hold, List.pairwise_singleton _ _, ?_⟩
      intro res hres rhs hrhs
      rw [List.mem_singleton.mp hrhs]
      exact (hw.spaced hold hle hattempts).mpr hpatient res hres
  . rw [if_neg hattempts]
    refine ⟨?_, And.left⟩
    intro hlimited
    refine ⟨hlimited, ?_⟩
    -- After a failed `REGISTER` nothing keeps the sender from an attempt.
    intro last hlast hconnects hunsent
    have ⟨hclosed, hzero⟩ := hw.unregistered last hlast hconnects hunsent
    exact absurd ⟨hclosed, by simp [hzero]⟩ hattempts

theorem attempts_rate_limited_iff (proc : Process) (calls : List Call) (w : Watched)
    (hrun : Machine.run (watchedStep proc) .initial calls = some w)
    : RateLimited w.attempts ↔ Machine.AllSteps (watchedStep proc) Patient .initial calls := by
  have hinitial : RateLimited Watched.initial.attempts := List.Pairwise.nil
  refine Machine.run_iff_allSteps (P := fun w => RateLimited w.attempts) (I := Watched.Inv) ?_ ?_
    Watched.Inv.initial hinitial hrun
  . intro w call u hw hstep
    exact hw.step hstep
  . intro w call u hw hstep
    exact watchedStep_rateLimited hw hstep

def resetRes (now : Int) : ConnectRes :=
  { now, socket := some 3, connect := true, nonblock := true, register := [.error] }

theorem not_registered_resetRes (now : Int)
    : ¬Registered (resetRes now) := by
  have hbroken : Broken (hdrSize + regDataSize) retries [.error] := ⟨0, by decide, rfl, by decide⟩
  intro ⟨_, hsent⟩
  exact hsent.not_broken hbroken

theorem attempts_not_rate_limited
    : ¬∀ (proc : Process) (calls : List Call) (w : Watched),
        Machine.run (watchedStep proc) .initial calls = some w → RateLimited w.attempts := by
  intro hclaim
  have hlimited := hclaim { pid := 100, name := cstr "dm" }
    [.init (resetRes 1700000000), .init (resetRes 1700000000)] _ rfl
  have hspaced := List.rel_of_pairwise_cons hlimited (List.mem_singleton.mpr rfl)
    (not_registered_resetRes 1700000000)
  revert hspaced
  decide

theorem attempts_rate_limited_iff_two
    : let proc : Process := { pid := 100, name := cstr "dm" }
      let calls := [Call.init (resetRes 1700000000), .init (resetRes 1700000001)]
      ∃ w, Machine.run (watchedStep proc) .initial calls = some w
        ∧ w.attempts = [resetRes 1700000000, resetRes 1700000001]
        ∧ RateLimited w.attempts := by
  intro proc calls
  have hreached : ∃ w, Machine.run (watchedStep proc) .initial calls = some w
      ∧ w.attempts = [resetRes 1700000000, resetRes 1700000001] := by
    exact ⟨_, rfl, rfl⟩
  rcases hreached with ⟨w, hrun, hattempts⟩
  refine ⟨w, hrun, hattempts, ?_⟩
  apply (attempts_rate_limited_iff proc calls w hrun).mpr
  refine (Machine.allSteps_cons rfl _).mpr ⟨nofun, ?_⟩
  refine (Machine.allSteps_cons rfl _).mpr ⟨?_, Machine.allSteps_nil _⟩
  intro last hlast _ _
  injection hlast with hlast
  rw [← hlast]
  decide

end Pl2rl
end OpenSyncRdk
