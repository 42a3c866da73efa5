import OpenSyncRdk.Pl2rl.Framing
import OpenSyncRdk.Pl2rld.Chunks

/-!
The log channel from end to end: what the client library logs on a connection is what the daemon
passes on to the RDK logger.
-/

namespace OpenSyncRdk
namespace Pl2rld

open Pl2rl

structure Logged where
  lmsg : LoggerMsg
  conn : ConnectRes
  results : List SendRes

def Logged.call (logged : Logged) : Call :=
  .log logged.lmsg logged.conn logged.results

def Logged.Sent (logged : Logged) : Prop :=
  SentWhole (logMsg logged.lmsg).length retries logged.results

def messages (proc : Process) (logs : List Logged) : List (List UInt8) :=
  registerMsg proc :: logs.map (fun logged => logMsg logged.lmsg)

def severityLevels : List (LogSeverity × RdkLevel) :=
  [
    (.emerg, .fatal),
    (.alert, .error),
    (.crit, .error),
    (.err, .error),
    (.warning, .warn),
    (.notice, .notice),
    (.info, .info),
    (.debug, .debug),
    (.trace, .trace1)
  ]

def levelOf (severity : Option LogSeverity) : RdkLevel :=
  (severity.bind (fun severity => severityLevels.lookup severity)).getD .debug

theorem rdkLevel_eq_levelOf (severity : Option LogSeverity)
    : rdkLevel severity = levelOf severity := by
  cases severity with
  | none => rfl
  | some severity => cases severity <;> rfl

theorem cInt_text (hfits : (logMsg lmsg).length ≤ bufSize)
    : sizeT (cInt lmsg.text.length) = lmsg.text.length := by
  rw [logMsg_length] at hfits
  unfold bufSize at hfits
  rw [cInt_eq (by omega), sizeT_natCast (by omega)]

theorem inBuf_of_fits (hfits : (logMsg lmsg).length ≤ bufSize)
    : InBuf lmsg := by
  unfold InBuf
  rw [cInt_text hfits, ← logMsg_length]
  exact hfits

theorem copied_of_fits (hfits : (logMsg lmsg).length ≤ bufSize)
    : copied lmsg = lmsg := by
  have htext : lmsg.text.take (sizeT (cInt lmsg.text.length)) = lmsg.text := by
    rw [cInt_text hfits, List.take_length]
  cases lmsg
  simp only [copied, LoggerMsg.mk.injEq, true_and]
  exact htext

theorem log_whole (proc : Process) (s : Sender) (logged : Logged) (hopen : s.fd.isSome)
    (hfits : (logMsg logged.lmsg).length ≤ bufSize) (hsent : logged.Sent)
    : step proc s logged.call
        =
      some { s with
        wire := s.wire ++ logMsg logged.lmsg
        handed := s.handed ++ [logMsg logged.lmsg]
      } := by
  have hconn : (if s.fd.isSome then (s, true) else connect proc s logged.conn) = (s, true) := by
    simp only [hopen, ↓reduceIte]
  have hpos : 0 < (logMsg logged.lmsg).length := by
    rw [logMsg_length, hdrSize]
    omega
  simp only [step, Logged.call]
  rw [log_send hconn (inBuf_of_fits hfits), copied_of_fits hfits]
  rcases send_cases s (logMsg logged.lmsg) logged.results hopen hpos with
    ⟨_, hsend⟩ | ⟨hbroken, _⟩ | ⟨hstuck, _⟩
  . rw [hsend]
  . exact absurd hbroken hsent.not_broken
  . exact absurd hstuck hsent.not_stuck

theorem run_logs (proc : Process) (s : Sender) (logs : List Logged) (hopen : s.fd.isSome)
    (hfits : ∀ logged ∈ logs, (logMsg logged.lmsg).length ≤ bufSize)
    (hsent : ∀ logged ∈ logs, logged.Sent)
    : Machine.run (step proc) s (logs.map Logged.call)
        =
      some { s with
        wire := s.wire ++ (logs.map (fun logged => logMsg logged.lmsg)).flatten
        handed := s.handed ++ logs.map (fun logged => logMsg logged.lmsg)
      } := by
  induction logs generalizing s with
  | nil => simp
  | cons logged logs ih =>
    rw [List.map_cons, Machine.run_cons]
    rw [log_whole proc s logged hopen (hfits logged (by simp)) (hsent logged (by simp))]
    rw [Option.bind_some]
    rw [ih]
    . simp
    . exact hopen
    . intro other hmem
      exact hfits other (by simp [hmem])
    . intro other hmem
      exact hsent other (by simp [hmem])

theorem run_register_logs (proc : Process) (s : Sender) (res : ConnectRes) (logs : List Logged)
    (hclosed : s.fd = none) (hopens : Opens s res)
    (hfits : ∀ logged ∈ logs, (logMsg logged.lmsg).length ≤ bufSize)
    (hsent : ∀ logged ∈ logs, logged.Sent)
    : Machine.run (step proc) s (.init res :: logs.map Logged.call)
        =
      some {
        lastAttempt := 0
        fd := res.socket
        wire := (messages proc logs).flatten
        handed := messages proc logs
      } := by
  rw [Machine.run_cons]
  simp only [step, init, Option.bind_some]
  rw [connect_opens proc s res hclosed hopens]
  rw [run_logs proc _ logs hopens.socket hfits hsent]
  simp [messages]

theorem messages_wellFormed (proc : Process) (logs : List Logged)
    (hfits : ∀ logged ∈ logs, (logMsg logged.lmsg).length ≤ bufSize)
    : ∀ msg ∈ messages proc logs, WellFormed msg := by
  intro msg hmem
  simp only [messages, List.mem_cons, List.mem_map] at hmem
  rcases hmem with rfl | ⟨logged, hlogged, rfl⟩
  . apply registerMsg_wellFormed proc
  . apply logMsg_wellFormed logged.lmsg (hfits logged hlogged)

theorem deliver_logs (lib : LogLib) (pc : PClient) (logs : List Logged) (hreg : pc.registered = true)
    (hfits : ∀ logged ∈ logs, (logMsg logged.lmsg).length ≤ bufSize)
    : deliver lib (some pc) (logs.map (fun logged => logMsg logged.lmsg))
        =
      logs.map (fun logged => .rdkLog (rdkLogOf lib pc.pid pc.name logged.lmsg)) := by
  induction logs with
  | nil => rfl
  | cons logged logs ih =>
    simp only [List.map_cons, deliver]
    rw [handle_logMsg logged.lmsg lib pc hreg (hfits logged (by simp))]
    rw [ih (fun other hmem => hfits other (by simp [hmem]))]
    rfl

theorem deliver_messages (lib : LogLib) (proc : Process) (pc : PClient) (logs : List Logged)
    (hfits : ∀ logged ∈ logs, (logMsg logged.lmsg).length ≤ bufSize)
    : deliver lib (some pc) (messages proc logs)
        =
      .registered proc.pid (regName proc.name)
        :: logs.map (fun logged =>
          .rdkLog (rdkLogOf lib proc.pid (regName proc.name) logged.lmsg)) := by
  simp only [messages, deliver]
  rw [handle_registerMsg proc lib pc]
  rw [deliver_logs lib _ logs rfl hfits]
  rfl

theorem wakeups_nothing_complete (lib : LogLib) (pc : PClient) (bufs : List Mem)
    : (wakeups lib { sock := { bytes := [], cuts }, client := some pc, out } bufs).Complete := by
  induction bufs generalizing cuts with
  | nil => exact .inl rfl
  | cons buf bufs ih =>
    rw [wakeups_cons, wakeup_waits (.inl rfl)]
    exact ih

/-- A wakeup takes at least one cut, so there are enough of them to read what arrives whole. -/
theorem wakeups_complete (lib : LogLib) (bufs : List Mem) (hmsgs : ∀ msg ∈ msgs, WellFormed msg)
    (hwhole : ArrivesWhole msgs cuts) (henough : cuts.length ≤ bufs.length)
    : (wakeups lib { sock := { bytes := msgs.flatten, cuts }, client := some pc, out } bufs).Complete := by
  induction bufs generalizing msgs cuts pc out with
  | nil =>
    cases msgs with
    | nil => exact .inl rfl
    | cons msg msgs =>
      rw [List.length_eq_zero_iff.mp (Nat.le_zero.mp henough)] at hwhole
      exact hwhole.elim
  | cons buf bufs ih =>
    rw [List.length_cons] at henough
    cases msgs with
    | nil => exact wakeups_nothing_complete lib pc (buf :: bufs)
    | cons msg msgs =>
      have hmsg := hmsgs msg (by simp)
      have hrest : ∀ msg ∈ msgs, WellFormed msg := fun msg hmem => hmsgs msg (by simp [hmem])
      rw [wakeups_cons]
      cases cuts with
      | nil => exact hwhole.elim
      | cons cut cuts =>
        rw [List.length_cons] at henough
        by_cases hcut : cut = 0
        . subst hcut
          rw [wakeup_waits (.inr rfl)]
          rw [arrivesWhole_zero] at hwhole
          exact ih hmsgs hwhole (Nat.le_of_succ_le_succ henough)
        . have ⟨cs, hhead, hwhole⟩ := (arrivesWhole_cut hcut).mp hwhole
          have ⟨hsock, hres⟩ := clientRecv_whole lib buf pc msgs.flatten hmsg hhead
          have ⟨c1, c2, hcuts, _⟩ := hhead
          have hlength := congrArg List.length hcuts
          simp only [List.length_cons] at hlength
          simp only [List.flatten_cons, wakeup]
          rw [hsock]
          cases hclient : (clientRecv lib stream { bytes := msg ++ msgs.flatten, cuts := cut :: cuts } buf
            pc).client with
          | none =>
            rw [wakeups_closed rfl]
            exact .inr rfl
          | some pc' => exact ih hrest hwhole (by omega)

theorem register_logs_roundTrip (lib : LogLib) (proc : Process) (s : Sender) (res : ConnectRes)
    (logs : List Logged) (hclosed : s.fd = none) (hopens : Opens s res)
    (hfits : ∀ logged ∈ logs, logged.lmsg.text.length ≤ bufSize - 8)
    (hsent : ∀ logged ∈ logs, logged.Sent)
    : ∃ t, Machine.run (step proc) s (.init res :: logs.map Logged.call) = some t
        ∧ t.wire = t.handed.flatten
        ∧ ∀ fd cuts bufs,
          ArrivesWhole t.handed cuts
            → (cuts.length ≤ bufs.length
                → (wakeups lib (accept fd { bytes := t.wire, cuts }) bufs).Complete)
              ∧ ((wakeups lib (accept fd { bytes := t.wire, cuts }) bufs).Complete
                → (wakeups lib (accept fd { bytes := t.wire, cuts }) bufs).out
                    =
                  .registered proc.pid (regName proc.name)
                    :: logs.map (fun logged => .rdkLog {
                        level := levelOf (lib.severity logged.lmsg.severity)
                        component := rdkLoggerModule
                        name := regName proc.name
                        pid := proc.pid
                        module := lib.moduleStr logged.lmsg.module
                        text := logged.lmsg.text
                      })) := by
  have hfits : ∀ logged ∈ logs, (logMsg logged.lmsg).length ≤ bufSize := by
    intro logged hmem
    have := hfits logged hmem
    rw [logMsg_length]
    unfold bufSize hdrSize logDataSize at *
    omega
  have hmsgs := messages_wellFormed proc logs hfits
  refine ⟨_, run_register_logs proc s res logs hclosed hopens hfits hsent, rfl, ?_⟩
  intro fd cuts bufs hwhole
  constructor
  . intro henough
    exact wakeups_complete lib bufs hmsgs hwhole henough
  . intro hcomplete
    have hready : (clientAdd fd).registered = true ∨ ¬LogFirst (messages proc logs) := by
      refine .inr ?_
      rintro ⟨msg, hhead, hlog⟩
      simp only [messages, List.head?_cons, Option.mem_def, Option.some.injEq] at hhead
      rw [← hhead, registerMsg_type] at hlog
      contradiction
    have hout := (wakeups_out_iff lib bufs hmsgs hready hcomplete).mpr hwhole
    rw [List.nil_append, deliver_messages lib proc _ logs hfits] at hout
    simp only [rdkLogOf, rdkLevel_eq_levelOf] at hout
    exact hout

theorem register_logs_roundTrip_severities
    : let lib : LogLib :=
        { severity := fun sev => [LogSeverity.emerg, .alert, .crit, .err, .warning, .notice, .info, .debug,
            .trace][sev.toNat]?
          moduleStr := fun module => if module = 0 then cstr "MAIN" else cstr "WM" }
      let proc : Process := { pid := 100, name := cstr "a_process_name_longer_than_the_field" }
      let res : ConnectRes :=
        { now := 5, socket := some 7, connect := true, nonblock := true, register := [.sent 40] }
      let logged := fun lmsg : LoggerMsg =>
        { lmsg, conn := res, results := [.sent 5, .again, .sent (3 + lmsg.text.length)] : Logged }
      let rdkLog := fun level module text => Output.rdkLog
        { level, component := cstr "LOG.RDK.MeshService", name := cstr "a_process_name_longer_than_the"
          pid := 100, module := cstr module, text := cstr text }
      let logs :=
        [
          { severity := 0, module := 0, text := cstr "oops" },
          { severity := 2, module := 1, text := cstr "bad" },
          { severity := 4, module := 0, text := cstr "low" },
          { severity := 6, module := 1, text := cstr "up" },
          { severity := 8, module := 0, text := cstr "x" },
          { severity := 200, module := 0, text := cstr "?" }
        ].map logged
      let cuts := [4, 36, 4, 8, 0, 4, 7, 4, 7, 4, 6, 4, 5, 4, 5]
      ∃ t, Machine.run (step proc) .initial (.init res :: logs.map Logged.call) = some t
        ∧ (wakeups lib (accept 5 { bytes := t.wire, cuts }) (cuts.map (fun _ _ => 0))).out
          =
        [
          .registered 100 (cstr "a_process_name_longer_than_the"),
          rdkLog .fatal "MAIN" "oops",
          rdkLog .error "WM" "bad",
          rdkLog .warn "MAIN" "low",
          rdkLog .info "WM" "up",
          rdkLog .trace1 "MAIN" "x",
          rdkLog .debug "MAIN" "?"
        ] := by
  intro lib proc res logged rdkLog logs cuts
  have hopens : Opens .initial res :=
    ⟨by decide, rfl, rfl, rfl, 1, by decide, by decide, by decide⟩
  have hsent : ∀ logged ∈ logs, logged.Sent := by
    simp only [logs, List.map_cons, List.map_nil, List.forall_mem_cons]
    refine ⟨?_, ?_, ?_, ?_, ?_, ?_, by simp⟩
    all_goals exact ⟨3, by decide, by decide, by decide⟩
  obtain ⟨t, hrun, _, hout⟩ := register_logs_roundTrip lib proc .initial res logs rfl hopens
    (by decide) hsent
  have ht : t = { lastAttempt := 0, fd := some 7, wire := (messages proc logs).flatten
                  handed := messages proc logs } := by
    rw [run_register_logs proc .initial res logs rfl hopens (by decide) hsent] at hrun
    injection hrun with hrun
    exact hrun.symm
  have hwhole : ArrivesWhole t.handed cuts := by
    rw [ht]
    simp [messages, logs, logged, cuts, ArrivesWhole, hdrSize, regDataSize, nameLen, logDataSize, cstr]
  obtain ⟨hcomplete, hout⟩ := hout 5 cuts (cuts.map (fun _ _ => 0)) hwhole
  refine ⟨t, hrun, ?_⟩
  rw [hout (hcomplete (by decide))]
  decide

end Pl2rld
end OpenSyncRdk
