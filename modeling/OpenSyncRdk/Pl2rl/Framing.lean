import Mathlib.Algebra.GroupWithZero.Nat
import OpenSyncRdk.Lib.PrefixCode
import OpenSyncRdk.Pl2rl.Sender

/-!
What `pl2rl.c` puts on a connection. The results of `send` decide whether a message leaves whole, not
at all, or in part: `sendLoop_cases` says so once for the retry loop, and all that follows is about
these three cases. `connect` turns two of them into a closed connection, `log` only one.
-/

namespace OpenSyncRdk
namespace Pl2rl

def SendRes.taken : SendRes → Nat
  | .sent count => count
  | .again => 0
  | .error => 0

def total (tries : Nat) (results : List SendRes) : Nat :=
  ((results.take tries).map SendRes.taken).sum

def SentWhole (size tries : Nat) (results : List SendRes) : Prop :=
  ∃ k ≤ tries, (∀ res ∈ results.take k, res ≠ .error) ∧ size ≤ total k results

def Broken (size tries : Nat) (results : List SendRes) : Prop :=
  ∃ k < tries, results[k]? = some .error ∧ total k results < size

def Stuck (size tries : Nat) (results : List SendRes) : Prop :=
  (∀ res ∈ results.take tries, res ≠ .error) ∧ total tries results < size

@[simp]
theorem total_zero
    : total 0 results = 0 := by
  simp [total]

@[simp]
theorem total_nil
    : total tries [] = 0 := by
  simp [total]

@[simp]
theorem total_cons
    : total (tries + 1) (res :: results) = res.taken + total tries results := by
  simp [total]

theorem total_mono (results : List SendRes) (hle : k ≤ tries)
    : total k results ≤ total tries results := by
  induction results generalizing k tries with
  | nil => simp
  | cons res results ih =>
    cases k with
    | zero => simp
    | succ k =>
      cases tries with
      | zero => omega
      | succ tries =>
        simp only [total_cons]
        have := ih (show k ≤ tries by omega)
        omega

theorem mem_take_of_getElem? {results : List SendRes} (hidx : idx < k) (hres : results[idx]? = some res)
    : res ∈ results.take k := by
  apply List.mem_of_getElem? (i := idx)
  rw [List.getElem?_take_of_lt hidx]
  exact hres

theorem SentWhole.not_stuck (hwhole : SentWhole size tries results)
    : ¬Stuck size tries results := by
  rcases hwhole with ⟨k, hk, _, htotal⟩
  rintro ⟨_, hless⟩
  have := total_mono results hk
  omega

theorem SentWhole.not_broken (hwhole : SentWhole size tries results)
    : ¬Broken size tries results := by
  rcases hwhole with ⟨k, _, hnoerr, htotal⟩
  rintro ⟨j, _, herr, hless⟩
  by_cases hjk : j < k
  . exact hnoerr .error (mem_take_of_getElem? hjk herr) rfl
  . have := total_mono results (show k ≤ j by omega)
    omega

theorem Broken.not_stuck (hbroken : Broken size tries results)
    : ¬Stuck size tries results := by
  rcases hbroken with ⟨k, hk, herr, _⟩
  rintro ⟨hnoerr, _⟩
  exact hnoerr .error (mem_take_of_getElem? hk herr) rfl

theorem SentWhole.cons (hres : res ≠ .error) (hwhole : SentWhole (size - res.taken) tries results)
    : SentWhole size (tries + 1) (res :: results) := by
  rcases hwhole with ⟨k, hk, hnoerr, htotal⟩
  refine ⟨k + 1, by omega, ?_, ?_⟩
  . rw [List.take_succ_cons, List.forall_mem_cons]
    exact ⟨hres, hnoerr⟩
  . rw [total_cons]
    omega

theorem Broken.cons (hbroken : Broken (size - res.taken) tries results)
    : Broken size (tries + 1) (res :: results) := by
  rcases hbroken with ⟨k, hk, herr, htotal⟩
  refine ⟨k + 1, by omega, ?_, ?_⟩
  . rw [List.getElem?_cons_succ]
    exact herr
  . rw [total_cons]
    omega

theorem Stuck.cons (hres : res ≠ .error) (hstuck : Stuck (size - res.taken) tries results)
    : Stuck size (tries + 1) (res :: results) := by
  rcases hstuck with ⟨hnoerr, htotal⟩
  constructor
  . rw [List.take_succ_cons, List.forall_mem_cons]
    exact ⟨hres, hnoerr⟩
  . rw [total_cons]
    omega

theorem sendLoop_cases (data : List UInt8) (tries w : Nat) (results : List SendRes) (s : Sender)
    (hopen : s.fd.isSome) (hw : w < data.length)
    : (SentWhole (data.length - w) tries results
        ∧ sendLoop data tries w results s = ({ s with wire := s.wire ++ data.drop w }, true))
      ∨ (Broken (data.length - w) tries results
        ∧ (sendLoop data tries w results s).1.fd = none
        ∧ (sendLoop data tries w results s).2 = false)
      ∨ (Stuck (data.length - w) tries results
        ∧ sendLoop data tries w results s
            =
          ({ s with wire := s.wire ++ (data.drop w).take (total tries results) }, false)) := by
  -- The induction is on the attempts that are left when `w` bytes are out.
  induction tries generalizing w results s with
  | zero =>
    refine .inr (.inr ⟨⟨by simp, ?_⟩, ?_⟩)
    . simp only [total_zero]
      omega
    . simp [sendLoop]
  | succ tries ih =>
    cases results with
    | nil =>
      refine .inr (.inr ⟨⟨by simp, ?_⟩, ?_⟩)
      . simp only [total_nil]
        omega
      . simp [sendLoop]
    | cons res results =>
      cases res with
      | error =>
        refine .inr (.inl ⟨⟨0, by omega, rfl, ?_⟩, ?_, rfl⟩)
        . simp only [total_zero]
          omega
        . cases hfd : s.fd with
          | none => simp [hfd] at hopen
          | some fd => simp [sendLoop, disconnect, hfd]
      | again =>
        simp only [sendLoop]
        rcases ih w results s hopen hw with ⟨hwhole, hres⟩ | ⟨hbroken, hres⟩ | ⟨hstuck, hres⟩
        . apply Or.inl
          exact ⟨hwhole.cons (by simp), hres⟩
        . apply Or.inr ∘ Or.inl
          exact ⟨hbroken.cons, hres⟩
        . apply Or.inr ∘ Or.inr
          refine ⟨hstuck.cons (by simp), ?_⟩
          simpa [SendRes.taken] using hres
      | sent count =>
        simp only [sendLoop]
        by_cases hall : data.length - w ≤ count
        . have hret : min count (data.length - w) = data.length - w := by omega
          have hdone : w + (data.length - w) = data.length := by omega
          refine .inl ⟨⟨1, by omega, by simp, ?_⟩, ?_⟩
          . simpa [SendRes.taken] using hall
          . simp only [hret, hdone, ↓reduceIte]
            rw [List.take_of_length_le (by simp)]
        . have hret : min count (data.length - w) = count := by omega
          have hmore : ¬(w + count = data.length) := by omega
          have hsize : data.length - (w + count) = data.length - w - count := by omega
          have hnext := ih (w + count) results
            { s with wire := s.wire ++ (data.drop w).take count } hopen (by omega)
          rw [hsize] at hnext
          simp only [hret, hmore, ↓reduceIte]
          rcases hnext with ⟨hwhole, hres⟩ | ⟨hbroken, hres⟩ | ⟨hstuck, hres⟩
          . apply Or.inl
            refine ⟨SentWhole.cons (by simp) hwhole, ?_⟩
            rw [hres, ← List.drop_drop]
            simp
          . apply Or.inr ∘ Or.inl
            exact ⟨Broken.cons hbroken, hres⟩
          . apply Or.inr ∘ Or.inr
            refine ⟨Stuck.cons (by simp) hstuck, ?_⟩
            rw [hres, ← List.drop_drop]
            simp [SendRes.taken, List.take_add]

theorem send_cases (s : Sender) (data : List UInt8) (results : List SendRes) (hopen : s.fd.isSome)
    (hdata : 0 < data.length)
    : (SentWhole data.length retries results
        ∧ send s data results
            =
          ({ s with wire := s.wire ++ data, handed := s.handed ++ [data] }, true))
      ∨ (Broken data.length retries results
        ∧ (send s data results).1.fd = none
        ∧ (send s data results).2 = false)
      ∨ (Stuck data.length retries results
        ∧ send s data results
            =
          ({ s with
              wire := s.wire ++ data.take (total retries results)
              handed := s.handed ++ [data]
            }, false)) := by
  have hloop := sendLoop_cases data retries 0 results { s with handed := s.handed ++ [data] } hopen
    hdata
  have hsend
      : send s data results
          =
        sendLoop data retries 0 results { s with handed := s.handed ++ [data] } := by
    cases hfd : s.fd with
    | none => simp [hfd] at hopen
    | some fd => simp only [send, hfd]
  rw [hsend]
  simpa using hloop

structure Opens (s : Sender) (res : ConnectRes) : Prop where
  rate : ¬(s.lastAttempt ≠ 0 ∧ res.now - s.lastAttempt < connectRate)
  socket : res.socket.isSome
  connect : res.connect = true
  nonblock : res.nonblock = true
  register : SentWhole (hdrSize + regDataSize) retries res.register

theorem connect_open (proc : Process) (s : Sender) (res : ConnectRes) (hopen : s.fd.isSome)
    : connect proc s res = (s, true) := by
  cases hfd : s.fd with
  | none => simp [hfd] at hopen
  | some fd => simp [connect, hfd]

theorem connect_opens (proc : Process) (s : Sender) (res : ConnectRes) (hclosed : s.fd = none)
    (hopens : Opens s res)
    : connect proc s res
        =
      ({ lastAttempt := 0
         fd := res.socket
         wire := registerMsg proc
         handed := [registerMsg proc]
       }, true) := by
  rcases hopens with ⟨hrate, hsocket, hconnect, hnonblock, hregister⟩
  cases hfd : res.socket with
  | none => simp [hfd] at hsocket
  | some fd =>
    have hsend := send_cases { lastAttempt := 0, fd := some fd, wire := [], handed := [] }
      (registerMsg proc) res.register rfl (by rw [registerMsg_length]; decide)
    rw [registerMsg_length] at hsend
    simp only [connect, hclosed, hrate, hfd, hconnect, hnonblock, ↓reduceIte, not_true]
    rcases hsend with ⟨_, hsend⟩ | ⟨hbroken, _⟩ | ⟨hstuck, _⟩
    . rw [hsend]
      rfl
    . exact absurd hbroken hregister.not_broken
    . exact absurd hstuck hregister.not_stuck

theorem connect_fails (proc : Process) (s : Sender) (res : ConnectRes) (hclosed : s.fd = none)
    (hopens : ¬Opens s res)
    : (connect proc s res).1.fd = none ∧ (connect proc s res).2 = false := by
  simp only [connect, hclosed]
  split
  . exact ⟨hclosed, rfl⟩
  . next hrate =>
    cases hfd : res.socket with
    | none => exact ⟨rfl, rfl⟩
    | some fd =>
      dsimp only
      split
      . exact ⟨rfl, rfl⟩
      . next hconnect =>
        split
        . exact ⟨rfl, rfl⟩
        . next hnonblock =>
          have hsend := send_cases { lastAttempt := 0, fd := some fd, wire := [], handed := [] }
            (registerMsg proc) res.register rfl (by rw [registerMsg_length]; decide)
          rw [registerMsg_length] at hsend
          rcases hsend with ⟨hwhole, _⟩ | ⟨_, hfd', hok⟩ | ⟨_, hsend⟩
          . exfalso
            apply hopens
            exact ⟨hrate, by simp [hfd], by simpa using hconnect, by simpa using hnonblock, hwhole⟩
          . split
            . next heq =>
              rw [heq] at hok
              contradiction
            . next heq =>
              rw [heq] at hfd'
              simp only at hfd'
              simp [disconnect, hfd']
          . rw [hsend]
            simp [disconnect]

def wrapped (lmsg : LoggerMsg) : Nat :=
  ((hdrSize + logDataSize + cInt lmsg.text.length) % 65536).toNat

def copied (lmsg : LoggerMsg) : LoggerMsg :=
  { lmsg with
    text := lmsg.text.take (sizeT (cInt lmsg.text.length))
    text_nul := fun hmem => lmsg.text_nul (List.mem_of_mem_take hmem)
  }

def InBuf (lmsg : LoggerMsg) : Prop :=
  hdrSize + logDataSize + sizeT (cInt lmsg.text.length) ≤ bufSize

theorem wrapped_eq (hbuf : InBuf lmsg)
    : wrapped lmsg = (logMsg (copied lmsg)).length := by
  have hlt := cInt_lt lmsg.text.length
  have hle := cInt_le lmsg.text.length
  rw [logMsg_length]
  simp only [InBuf, sizeT, bufSize, hdrSize, logDataSize] at hbuf
  simp only [wrapped, copied, sizeT, hdrSize, logDataSize, List.length_take]
  omega

theorem copied_fits (hbuf : InBuf lmsg)
    : hdrSize + logDataSize + (copied lmsg).text.length ≤ bufSize := by
  have := List.length_take_le (sizeT (cInt lmsg.text.length)) lmsg.text
  simp only [InBuf] at hbuf
  simp only [copied]
  omega

theorem copied_length (hbuf : InBuf lmsg)
    : (copied lmsg).text.length = sizeT (cInt lmsg.text.length) := by
  have hle := cInt_le lmsg.text.length
  have hlt := cInt_lt lmsg.text.length
  simp only [InBuf, sizeT, bufSize, hdrSize, logDataSize] at hbuf
  simp only [copied, sizeT, List.length_take]
  omega

section

variable {proc : Process} {s t : Sender} {res : ConnectRes} {results : List SendRes}

theorem log_closed (h : (if s.fd.isSome then (s, true) else connect proc s res) = (t, false))
    : log proc s lmsg res results = some t := by
  simp only [log, h]

theorem log_long (h : (if s.fd.isSome then (s, true) else connect proc s res) = (t, true))
    (hlong : bufSize < wrapped lmsg)
    : log proc s lmsg res results = some t := by
  simp only [wrapped] at hlong
  simp only [log, h, hlong, ↓reduceIte]

theorem log_overrun (h : (if s.fd.isSome then (s, true) else connect proc s res) = (t, true))
    (hshort : ¬(bufSize < wrapped lmsg)) (hbuf : ¬InBuf lmsg)
    : log proc s lmsg res results = none := by
  simp only [wrapped] at hshort
  simp only [InBuf, Nat.not_le] at hbuf
  simp only [log, h, hshort, hbuf, ↓reduceIte]

theorem log_send (h : (if s.fd.isSome then (s, true) else connect proc s res) = (t, true))
    (hbuf : InBuf lmsg)
    : log proc s lmsg res results = some (send t (logMsg (copied lmsg)) results).1 := by
  have hlen := copied_length hbuf
  have hfits := copied_fits hbuf
  have hwrapped := wrapped_eq hbuf
  rw [logMsg_length] at hwrapped
  have hshort : ¬(bufSize < wrapped lmsg) := by omega
  have hdata : hdr .log (wrapped lmsg) ++ [lmsg.severity, lmsg.module]
      ++ le16 (sizeT (cInt lmsg.text.length)) ++ lmsg.text.take (sizeT (cInt lmsg.text.length))
      = logMsg (copied lmsg) := by
    simp only [logMsg]
    rw [hwrapped, hlen]
    rfl
  have hin : ¬(bufSize < hdrSize + logDataSize + sizeT (cInt lmsg.text.length)) := by
    simp only [InBuf] at hbuf
    omega
  rw [wrapped] at hshort hdata
  simp only [log, h, hshort, hin, hdata, ↓reduceIte]
  rw [List.take_of_length_le]
  rw [logMsg_length, ← hwrapped]
  apply Nat.le_refl _

end

def logCode : Set (List UInt8) :=
  fun msg => ∃ lmsg, hdrSize + logDataSize + lmsg.text.length ≤ bufSize ∧ msg = logMsg lmsg

theorem logCode_prefixCode
    : PrefixCode logCode := by
  constructor
  . rintro msg ⟨lmsg, _, rfl⟩ hnil
    have := congrArg List.length hnil
    simp [hdrSize] at this
  . rintro lhs ⟨l, hl, rfl⟩ rhs ⟨r, hr, rfl⟩ hpre
    apply hpre.eq_of_length
    rcases hpre with ⟨rest, heq⟩
    simp only [logMsg, hdr, le16, List.cons_append, List.nil_append, List.cons.injEq] at heq
    have hl16 := u16_le16 (hdrSize + logDataSize + l.text.length)
    have hr16 := u16_le16 (hdrSize + logDataSize + r.text.length)
    rw [heq.2.2.1, heq.2.2.2.1, hr16] at hl16
    rw [logMsg_length, logMsg_length]
    simp only [bufSize] at hl hr
    omega

def Framed (proc : Process) (wire : List UInt8) : Prop :=
  ∃ msgs : List (List UInt8), (∀ msg ∈ msgs, msg ∈ logCode) ∧ wire = registerMsg proc ++ msgs.flatten

def CutShort (size : Nat) (results : List SendRes) : Prop :=
  Stuck size retries results ∧ 0 < total retries results

theorem framed_register
    : Framed proc (registerMsg proc) := by
  refine ⟨[], by simp, by simp⟩

theorem Framed.append (hframed : Framed proc wire) (hmsg : msg ∈ logCode)
    : Framed proc (wire ++ msg) := by
  rcases hframed with ⟨msgs, hmsgs, rfl⟩
  refine ⟨msgs ++ [msg], ?_, by simp⟩
  intro other hother
  rw [List.mem_append, List.mem_singleton] at hother
  cases hother with
  | inl hold => exact hmsgs other hold
  | inr hnew => exact hnew ▸ hmsg

theorem Framed.not_append_part (hframed : Framed proc wire) (hmsg : msg ∈ logCode)
    (hpos : 0 < count) (hlt : count < msg.length)
    : ¬Framed proc (wire ++ msg.take count) := by
  rcases hframed with ⟨lhs, hlhs, rfl⟩
  rintro ⟨rhs, hrhs, heq⟩
  rw [List.append_assoc, List.append_right_inj] at heq
  -- If both are streams of whole messages, the part is what one of them has more than the other.
  have hnil : msg.take count = [] := by
    refine logCode_prefixCode.tail_eq_nil hlhs hrhs hmsg (List.take_prefix count msg) ?_ heq
    intro hsame
    have := congrArg List.length hsame
    simp only [List.length_take] at this
    omega
  have := congrArg List.length hnil
  simp only [List.length_take, List.length_nil] at this
  omega

def FramedIfOpen (proc : Process) (s : Sender) : Prop :=
  s.fd.isSome → Framed proc s.wire

theorem connect_cases (res : ConnectRes) (hs : FramedIfOpen proc s)
    : ((s.fd.isSome ∨ Opens s res)
        ∧ ∃ t, connect proc s res = (t, true) ∧ t.fd.isSome ∧ Framed proc t.wire)
      ∨ (¬(s.fd.isSome ∨ Opens s res) ∧ ∃ t, connect proc s res = (t, false) ∧ t.fd = none) := by
  by_cases hopen : s.fd.isSome
  . exact .inl ⟨.inl hopen, s, connect_open proc s res hopen, hopen, hs hopen⟩
  . have hclosed : s.fd = none := by simpa using hopen
    by_cases hopens : Opens s res
    . refine .inl ⟨.inr hopens, _, connect_opens proc s res hclosed hopens, ?_, ?_⟩
      . exact hopens.socket
      . apply framed_register
    . have ⟨hfd, hok⟩ := connect_fails proc s res hclosed hopens
      exact .inr ⟨by simp [hopen, hopens], (connect proc s res).1, by rw [← hok], hfd⟩

theorem ite_connect (proc : Process) (s : Sender) (res : ConnectRes)
    : (if s.fd.isSome then (s, true) else connect proc s res) = connect proc s res := by
  split
  . next hopen => rw [connect_open proc s res hopen]
  . rfl

def CallOk (s : Sender) : Call → Prop
  | .init _ => True
  | .log lmsg res results =>
    s.fd.isSome ∨ Opens s res
      → wrapped lmsg ≤ bufSize
      → InBuf lmsg ∧ ¬CutShort (wrapped lmsg) results

theorem init_framed (res : ConnectRes) (hs : FramedIfOpen proc s)
    : FramedIfOpen proc (init proc s res) := by
  intro hopen
  unfold init at *
  rcases connect_cases res hs with ⟨_, t, ht, _, hframed⟩ | ⟨_, t, ht, hclosed⟩
  . rw [ht]
    exact hframed
  . simp [ht, hclosed] at hopen

theorem send_framed_iff (results : List SendRes) (hopen : t.fd.isSome) (hframed : Framed proc t.wire)
    (hbuf : InBuf lmsg)
    : FramedIfOpen proc (send t (logMsg (copied lmsg)) results).1
        ↔
      ¬CutShort (wrapped lmsg) results := by
  have hcode : logMsg (copied lmsg) ∈ logCode := ⟨copied lmsg, copied_fits hbuf, rfl⟩
  have hpos : 0 < (logMsg (copied lmsg)).length := by
    rw [logMsg_length, hdrSize]
    omega
  rw [wrapped_eq hbuf]
  rcases send_cases t (logMsg (copied lmsg)) results hopen hpos with
    ⟨hwhole, hsend⟩ | ⟨hbroken, hclosed, _⟩ | ⟨hstuck, hsend⟩
  . constructor
    . intro _ hcut
      exact hwhole.not_stuck hcut.1
    . intro _ _
      rw [hsend]
      exact hframed.append hcode
  . constructor
    . intro _ hcut
      exact hbroken.not_stuck hcut.1
    . intro _ hopen
      simp [hclosed] at hopen
  . rw [hsend]
    constructor
    . intro hkeeps hcut
      exact hframed.not_append_part hcode hcut.2 hstuck.2 (hkeeps hopen)
    . intro hcut _
      have hnone : total retries results = 0 := by
        by_contra hsome
        exact hcut ⟨hstuck, by omega⟩
      simp only [hnone, List.take_zero, List.append_nil]
      exact hframed

theorem step_framed_iff (call : Call) (hs : FramedIfOpen proc s)
    : (∃ t, step proc s call = some t ∧ FramedIfOpen proc t) ↔ CallOk s call := by
  cases call with
  | init res =>
    constructor
    . intro _
      trivial
    . intro _
      exact ⟨init proc s res, rfl, init_framed res hs⟩
  | log lmsg res results =>
    simp only [step, CallOk]
    rcases connect_cases res hs with ⟨hconn, t, ht, hopen, hframed⟩ | ⟨hconn, t, ht, hclosed⟩
    . rw [← ite_connect] at ht
      by_cases hlong : bufSize < wrapped lmsg
      . rw [log_long ht hlong]
        constructor
        . intro _ _ hshort
          omega
        . intro _
          exact ⟨t, rfl, fun _ => hframed⟩
      . by_cases hbuf : InBuf lmsg
        . rw [log_send ht hbuf]
          simp only [Option.some.injEq, exists_eq_left']
          rw [send_framed_iff results hopen hframed hbuf]
          constructor
          . intro hcut _ _
            exact ⟨hbuf, hcut⟩
          . intro hok
            exact (hok hconn (by omega)).2
        . -- The length wraps around to a small one, but `memcpy` gets all of the text.
          rw [log_overrun ht hlong hbuf]
          constructor
          . rintro ⟨t, ht, _⟩
            contradiction
          . intro hok
            exact absurd (hok hconn (by omega)).1 hbuf
    . rw [← ite_connect] at ht
      rw [log_closed ht]
      constructor
      . intro _ hconn'
        exact absurd hconn' hconn
      . intro _
        refine ⟨t, rfl, ?_⟩
        intro hopen
        simp [hclosed] at hopen

theorem framed_iff_callOk (proc : Process) (calls : List Call)
    : Machine.Always (step proc) (FramedIfOpen proc) .initial calls
        ↔
      Machine.AllSteps (step proc) CallOk .initial calls := by
  apply Machine.always_iff_allSteps
  . intro s call hs
    apply step_framed_iff call hs
  . intro hopen
    simp [Sender.initial] at hopen

theorem not_always_framed
    : ¬Machine.Always (step { pid := 100, name := cstr "wm" })
        (FramedIfOpen { pid := 100, name := cstr "wm" }) .initial
        [
          .init { now := 5, socket := some 7, connect := true, nonblock := true, register := [.sent 40] },
          .log { severity := 6, module := 0, text := cstr "hello" }
            { now := 6, socket := none, connect := false, nonblock := false, register := [] }
            [.sent 3, .again, .again]
        ] := by
  intro halways
  have ⟨t, ht, hframed⟩ := halways _ List.prefix_rfl
  have hwire : t.fd = some 7 ∧ t.wire = registerMsg { pid := 100, name := cstr "wm" }
      ++ (logMsg { severity := 6, module := 0, text := cstr "hello" }).take 3 := by
    injection ht with ht
    rw [← ht]
    exact ⟨rfl, rfl⟩
  rw [FramedIfOpen, hwire.1, hwire.2] at hframed
  refine framed_register.not_append_part ⟨_, ?_, rfl⟩ ?_ ?_ (hframed rfl)
  . decide
  . decide
  . decide

end Pl2rl
end OpenSyncRdk
