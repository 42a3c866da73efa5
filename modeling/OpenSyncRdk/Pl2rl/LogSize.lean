import OpenSyncRdk.Pl2rl.Framing
import OpenSyncRdk.Pl2rld.Decode

/-!
The size check of `pl2rl_log`. It looks at the 16 bits of the header, while `memcpy` gets the length of the
text itself.
-/

namespace OpenSyncRdk
namespace Pl2rl

def Fits (lmsg : LoggerMsg) : Prop :=
  hdrSize + logDataSize + lmsg.text.length ≤ bufSize

instance : Decidable (Fits lmsg) :=
  inferInstanceAs (Decidable (_ ≤ _))

def SizeChecked (proc : Process) (s : Sender) (lmsg : LoggerMsg) (res : ConnectRes) (results : List SendRes)
    : Prop :=
  s.fd.isSome ∨ Opens s res
    → ∃ t, log proc s lmsg res results = some t
        ∧ t.handed = (connect proc s res).1.handed ++ (if Fits lmsg then [logMsg lmsg] else [])
        ∧ (Fits lmsg
            → (Mem.ofBytes (logMsg lmsg)).u16 2 = hdrSize + logDataSize + lmsg.text.length
              ∧ (Mem.ofBytes (logMsg lmsg)).u16 (hdrSize + 2) = lmsg.text.length)

theorem sendLoop_handed (data : List UInt8) (tries w : Nat) (results : List SendRes) (s : Sender)
    : (sendLoop data tries w results s).1.handed = s.handed := by
  induction tries generalizing w results s with
  | zero => rfl
  | succ tries ih =>
    cases results with
    | nil => rfl
    | cons res results =>
      cases res with
      | error =>
        simp only [sendLoop, disconnect]
        split <;> rfl
      | again => exact ih w results s
      | sent count =>
        simp only [sendLoop]
        split
        . rfl
        . apply ih

theorem send_handed (s : Sender) (data : List UInt8) (results : List SendRes) (hopen : s.fd.isSome)
    : (send s data results).1.handed = s.handed ++ [data] := by
  cases hfd : s.fd with
  | none => simp [hfd] at hopen
  | some fd =>
    simp only [send, hfd]
    apply sendLoop_handed

theorem connect_connects (proc : Process) {s : Sender} {res : ConnectRes}
    (hconnects : s.fd.isSome ∨ Opens s res)
    : ∃ t, connect proc s res = (t, true) ∧ t.fd.isSome := by
  by_cases hopen : s.fd.isSome
  . exact ⟨s, connect_open proc s res hopen, hopen⟩
  . cases hconnects with
    | inl hopen' => exact absurd hopen' hopen
    | inr hopens => exact ⟨_, connect_opens proc s res (by simpa using hopen) hopens, hopens.socket⟩

theorem wrapped_eq_mod (lmsg : LoggerMsg)
    : wrapped lmsg = (hdrSize + logDataSize + lmsg.text.length) % 65536 := by
  unfold wrapped cInt hdrSize logDataSize
  split <;> omega

theorem Fits.length_eq {lmsg : LoggerMsg} (hfits : Fits lmsg)
    : sizeT (cInt lmsg.text.length) = lmsg.text.length := by
  unfold Fits hdrSize logDataSize bufSize at hfits
  rw [cInt_eq (by omega), sizeT_natCast (by omega)]

theorem Fits.inBuf {lmsg : LoggerMsg} (hfits : Fits lmsg)
    : InBuf lmsg := by
  rw [InBuf, hfits.length_eq]
  exact hfits

theorem Fits.copied_eq {lmsg : LoggerMsg} (hfits : Fits lmsg)
    : logMsg (copied lmsg) = logMsg lmsg := by
  have htext : (copied lmsg).text = lmsg.text := by
    simp only [copied, hfits.length_eq, List.take_length]
  simp only [logMsg, htext]
  rfl

theorem sizeChecked_iff (proc : Process) (s : Sender) (lmsg : LoggerMsg) (res : ConnectRes)
    (results : List SendRes)
    : SizeChecked proc s lmsg res results
        ↔
      (s.fd.isSome ∨ Opens s res
        → hdrSize + logDataSize + lmsg.text.length ≤ bufSize
          ∨ bufSize < (hdrSize + logDataSize + lmsg.text.length) % 65536) := by
  apply imp_congr_right
  intro hconnects
  have ⟨t, hconnect, hopen⟩ := connect_connects proc hconnects
  have hite := (ite_connect proc s res).trans hconnect
  rw [hconnect, ← wrapped_eq_mod]
  by_cases hfits : Fits lmsg
  . apply iff_of_true _ (.inl hfits)
    refine ⟨_, log_send hite hfits.inBuf, ?_, fun _ => ⟨?_, ?_⟩⟩
    . rw [send_handed _ _ _ hopen, hfits.copied_eq, if_pos hfits]
    . rw [← logMsg_length]
      apply Pl2rld.logMsg_len
      rw [logMsg_length]
      exact hfits
    . apply Pl2rld.logMsg_textLen
      rw [logMsg_length]
      exact hfits
  . by_cases hlong : bufSize < wrapped lmsg
    . apply iff_of_true _ (.inr hlong)
      refine ⟨t, log_long hite hlong, ?_, fun h => absurd h hfits⟩
      rw [if_neg hfits, List.append_nil]
    . apply iff_of_false
      . intro ⟨u, hlog, hhanded, _⟩
        by_cases hbuf : InBuf lmsg
        . rw [log_send hite hbuf] at hlog
          injection hlog with hlog
          rw [← hlog, send_handed _ _ _ hopen, if_neg hfits] at hhanded
          simp at hhanded
        . rw [log_overrun hite hlong hbuf] at hlog
          contradiction
      . intro h
        cases h with
        | inl h => exact hfits h
        | inr h => exact hlong h

/-- With the 8 bytes in front of the text its length is 0 in 16 bits. -/
def longMsg : LoggerMsg where
  severity := 6
  module := 0
  text := List.replicate 65528 97
  text_nul := fun hmem => absurd (List.eq_of_mem_replicate hmem) (by decide)

theorem longMsg_length
    : longMsg.text.length = 65528 :=
  List.length_replicate

theorem not_sizeChecked
    : ¬SizeChecked
        { pid := 100, name := cstr "wm" }
        { lastAttempt := 0, fd := some 7, wire := [], handed := [] }
        longMsg
        { now := 6, socket := none, connect := false, nonblock := false, register := [] }
        [] := by
  intro hchecked
  have ⟨t, hlog, _⟩ := hchecked (.inl rfl)
  have hwraps : ¬bufSize < wrapped longMsg := by
    rw [wrapped_eq_mod, longMsg_length]
    decide
  have hoverrun : ¬InBuf longMsg := by
    rw [InBuf, longMsg_length]
    decide
  rw [log_overrun rfl hwraps hoverrun] at hlog
  contradiction

end Pl2rl
end OpenSyncRdk
