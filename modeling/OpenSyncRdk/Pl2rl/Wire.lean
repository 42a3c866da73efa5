import OpenSyncRdk.Pl2rl.RateLimit

/-!
What one call of the library leaves on a connection, under the condition that an open connection is left
with whole messages.
-/

namespace OpenSyncRdk
namespace Pl2rl

structure Part (msg part : List UInt8) : Prop where
  start : part <+: msg
  shorter : part.length < msg.length

theorem sendLoop_wire (data : List UInt8) (tries w : Nat) (results : List SendRes) (s : Sender)
    (hw : w < data.length) (hfails : (sendLoop data tries w results s).2 = false)
    : ∃ count, w + count < data.length
        ∧ (sendLoop data tries w results s).1.wire = s.wire ++ (data.drop w).take count := by
  induction tries generalizing w results s with
  | zero => exact ⟨0, by omega, by simp [sendLoop]⟩
  | succ tries ih =>
    cases results with
    | nil => exact ⟨0, by omega, by simp [sendLoop]⟩
    | cons res results =>
      cases res with
      | again => exact ih w results s hw hfails
      | error =>
        refine ⟨0, by omega, ?_⟩
        unfold sendLoop disconnect
        cases s.fd <;> simp
      | sent count =>
        unfold sendLoop at hfails ⊢
        dsimp only at hfails ⊢
        split at hfails
        . contradiction
        . next hleft =>
          have hlt : w + min count (data.length - w) < data.length := by omega
          obtain ⟨more, hmore, hwire⟩ := ih _ results _ hlt hfails
          refine ⟨min count (data.length - w) + more, by omega, ?_⟩
          rw [if_neg hleft, hwire, List.take_add, List.drop_drop, List.append_assoc]

theorem send_wire (s : Sender) (data : List UInt8) (results : List SendRes) (hopen : s.fd.isSome)
    (hdata : 0 < data.length) (hcut : ¬CutShort data.length results)
    : ((send s data results).1.fd.isSome ∧ (send s data results).1.wire = s.wire ++ data)
      ∨ ((send s data results).1.fd.isSome ∧ (send s data results).1.wire = s.wire)
      ∨ ((send s data results).1.fd = none
          ∧ ∃ part, Part data part ∧ (send s data results).1.wire = s.wire ++ part) := by
  rcases send_cases s data results hopen hdata with
    ⟨_, hsend⟩ | ⟨_, hclosed, hfails⟩ | ⟨hstuck, hsend⟩
  . rw [hsend]
    exact .inl ⟨hopen, rfl⟩
  . refine .inr (.inr ⟨hclosed, ?_⟩)
    cases hfd : s.fd with
    | none => simp [hfd] at hopen
    | some fd =>
      simp only [send, hfd] at hfails ⊢
      obtain ⟨count, hcount, hwire⟩ := sendLoop_wire data retries 0 results _ hdata hfails
      refine ⟨data.take count, ⟨List.take_prefix _ _, ?_⟩, ?_⟩
      . rw [List.length_take]
        omega
      . rw [hwire, List.drop_zero]
  . have hnone : total retries results = 0 := by
      by_contra hsome
      exact hcut ⟨hstuck, by omega⟩
    rw [hsend]
    refine .inr (.inl ⟨hopen, ?_⟩)
    simp [hnone]

inductive Wrote (before : List UInt8) : Call → Sender → Prop where
  | nothing (hopen : t.fd.isSome) (hwire : t.wire = before) : Wrote before call t
  | text (lmsg : LoggerMsg) (res : ConnectRes) (results : List SendRes) (hbuf : InBuf lmsg)
    (hopen : t.fd.isSome) (hwire : t.wire = before ++ logMsg (copied lmsg))
    : Wrote before (.log lmsg res results) t
  | part (lmsg : LoggerMsg) (res : ConnectRes) (results : List SendRes) (part : List UInt8)
    (hbuf : InBuf lmsg) (hclosed : t.fd = none) (hpart : Part (logMsg (copied lmsg)) part)
    (hwire : t.wire = before ++ part)
    : Wrote before (.log lmsg res results) t

theorem send_wrote {s : Sender} {lmsg : LoggerMsg} (res : ConnectRes) {results : List SendRes}
    (hopen : s.fd.isSome) (hbuf : InBuf lmsg) (hcut : ¬CutShort (wrapped lmsg) results)
    : Wrote s.wire (.log lmsg res results) (send s (logMsg (copied lmsg)) results).1 := by
  have hpos : 0 < (logMsg (copied lmsg)).length := by
    rw [logMsg_length, hdrSize]
    omega
  rw [wrapped_eq hbuf] at hcut
  rcases send_wire s _ results hopen hpos hcut with
    ⟨hstays, hwire⟩ | ⟨hstays, hwire⟩ | ⟨hclosed, part, hpart, hwire⟩
  . exact .text lmsg res results hbuf hstays hwire
  . exact .nothing hstays hwire
  . exact .part lmsg res results part hbuf hclosed hpart hwire

theorem log_wrote {proc : Process} {s t : Sender} {lmsg : LoggerMsg} {res : ConnectRes}
    {results : List SendRes} (hconnect : connect proc s res = (t, true)) (hopen : t.fd.isSome)
    (hok : wrapped lmsg ≤ bufSize → InBuf lmsg ∧ ¬CutShort (wrapped lmsg) results)
    : ∃ u, log proc s lmsg res results = some u ∧ Wrote t.wire (.log lmsg res results) u := by
  rw [← ite_connect] at hconnect
  by_cases hlong : bufSize < wrapped lmsg
  . exact ⟨t, log_long hconnect hlong, .nothing hopen rfl⟩
  . obtain ⟨hbuf, hcut⟩ := hok (by omega)
    exact ⟨_, log_send hconnect hbuf, send_wrote res hopen hbuf hcut⟩

theorem step_wrote_open {proc : Process} {s t : Sender} {call : Call} (hopen : s.fd.isSome)
    (hok : CallOk s call) (hstep : step proc s call = some t)
    : Wrote s.wire call t := by
  cases call with
  | init res =>
    injection hstep with hstep
    rw [← hstep, init, connect_open proc s res hopen]
    exact .nothing hopen rfl
  | log lmsg res results =>
    obtain ⟨u, hu, hwrote⟩ := log_wrote (connect_open proc s res hopen) hopen (hok (.inl hopen))
    rw [show log proc s lmsg res results = some t from hstep] at hu
    injection hu with hu
    exact hu ▸ hwrote

theorem step_wrote_opens {proc : Process} {s t : Sender} {call : Call} (hclosed : s.fd = none)
    (hopens : Opens s call.res) (hok : CallOk s call) (hstep : step proc s call = some t)
    : Wrote (registerMsg proc) call t := by
  cases call with
  | init res =>
    injection hstep with hstep
    rw [← hstep, init, connect_opens proc s res hclosed hopens]
    exact .nothing hopens.socket rfl
  | log lmsg res results =>
    obtain ⟨u, hu, hwrote⟩ := log_wrote (connect_opens proc s res hclosed hopens) hopens.socket
      (hok (.inr hopens))
    rw [show log proc s lmsg res results = some t from hstep] at hu
    injection hu with hu
    exact hu ▸ hwrote

theorem connect_unregistered_wire (proc : Process) {s : Sender} {res : ConnectRes}
    (hattempts : Attempts s res) (hconnects : Connects res) (hfails : ¬Opens s res)
    : ∃ part, Part (registerMsg proc) part ∧ (connect proc s res).1.wire = part := by
  obtain ⟨_, hok⟩ := connect_fails proc s res hattempts.1 hfails
  obtain ⟨hsocket, hconnect, hnonblock⟩ := hconnects
  have hpos : 0 < (registerMsg proc).length := by
    rw [registerMsg_length]
    decide
  cases hfd : res.socket with
  | none => simp [hfd] at hsocket
  | some fd =>
    simp only [connect, hattempts.1, hattempts.2, hfd, hconnect, hnonblock, ↓reduceIte, not_true] at hok ⊢
    simp only [send] at hok ⊢
    split
    . next heq =>
      rw [heq] at hok
      contradiction
    . next u heq =>
      obtain ⟨count, hcount, hwire⟩ := sendLoop_wire (registerMsg proc) retries 0 res.register
        { lastAttempt := 0, fd := some fd, wire := [], handed := [registerMsg proc] } hpos
        (by simpa using congrArg Prod.snd heq)
      have hu := congrArg (fun out => out.1.wire) heq
      dsimp only at hu
      refine ⟨(registerMsg proc).take count, ⟨List.take_prefix _ _, ?_⟩, ?_⟩
      . rw [List.length_take]
        omega
      . have hdisconnect : (disconnect u).wire = u.wire := by
          unfold disconnect
          cases u.fd <;> rfl
        rw [hdisconnect, ← hu]
        simpa using hwire

end Pl2rl
end OpenSyncRdk
