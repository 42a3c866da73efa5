import OpenSyncRdk.Pl2rld.Recv

/-!
What the daemon makes of a message that it holds in full, and of the messages that the client library
builds in particular. What the buffer held before does not matter then.
-/

namespace OpenSyncRdk
namespace Pl2rld

open Pl2rl

structure WellFormed (msg : List UInt8) : Prop where
  length : (Mem.ofBytes msg).u16 2 = msg.length
  fits : msg.length ≤ clientsBuf
  fields
    : ((Mem.ofBytes msg).u16 0 = MsgType.register.toNat ∧ hdrSize + regDataSize ≤ msg.length)
        ∨ ((Mem.ofBytes msg).u16 0 = MsgType.log.toNat
            ∧ hdrSize + logDataSize + (Mem.ofBytes msg).u16 (hdrSize + 2) ≤ msg.length)

theorem WellFormed.hdrSize_lt (hmsg : WellFormed msg)
    : hdrSize < msg.length := by
  rcases hmsg.fields with ⟨_, h⟩ | ⟨_, h⟩
  . unfold hdrSize regDataSize nameLen at *
    omega
  . unfold hdrSize logDataSize at *
    omega

theorem WellFormed.msgType_lt (hmsg : WellFormed msg)
    : (Mem.ofBytes msg).u16 0 < MsgType.max := by
  rcases hmsg.fields with ⟨h, _⟩ | ⟨h, _⟩
  . rw [h]
    decide
  . rw [h]
    decide

theorem handle_reg (lib : LogLib) (pc : PClient) {buf : Mem}
    (htype : buf.u16 0 = MsgType.register.toNat)
    : handle lib pc buf
        =
      ( some (clientRecvReg pc buf)
      , [.registered (clientRecvReg pc buf).pid (clientRecvReg pc buf).name]
      ) := by
  unfold handle
  rw [if_pos htype]

theorem handle_text (lib : LogLib) (pc : PClient) {buf : Mem} (htype : buf.u16 0 = MsgType.log.toNat)
    : handle lib pc buf = clientRecvLog lib pc buf (hdrSize + logDataSize) := by
  have hnot : MsgType.log.toNat ≠ MsgType.register.toNat := by decide
  unfold handle
  rw [htype, if_neg hnot, if_pos rfl]

theorem handle_store (lib : LogLib) (pc : PClient) (buf : Mem) (hmsg : WellFormed msg)
    : handle lib pc (buf.store 0 msg) = handle lib pc (Mem.ofBytes msg) := by
  have hlt := hmsg.hdrSize_lt
  have hstore := Mem.u16_store buf msg (show 0 + 2 ≤ msg.length by unfold hdrSize at hlt; omega)
  rcases hmsg.fields with ⟨htype, hsize⟩ | ⟨htype, hsize⟩
  . rw [handle_reg lib pc htype, handle_reg lib pc (hstore.trans htype)]
    unfold clientRecvReg
    rw [Mem.u32_store buf msg (by unfold regDataSize at hsize; omega)]
    rw [Mem.str_store buf msg (by unfold regDataSize nameLen at *; omega)]
  . rw [handle_text lib pc htype, handle_text lib pc (hstore.trans htype)]
    unfold clientRecvLog
    rw [Mem.u16_store buf msg (by unfold logDataSize at hsize; omega)]
    rw [Mem.str_store buf msg hsize]
    rw [Mem.store_zero_get buf msg hlt]
    rw [Mem.store_zero_get buf msg (by unfold logDataSize at hsize; omega)]

theorem handle_ready (lib : LogLib) (pc : PClient) (hmsg : WellFormed msg)
    (hready : pc.registered = true ∨ (Mem.ofBytes msg).u16 0 ≠ MsgType.log.toNat)
    : ∃ pc' out, handle lib pc (Mem.ofBytes msg) = (some pc', [out]) ∧ pc'.registered = true := by
  rcases hmsg.fields with ⟨htype, _⟩ | ⟨htype, _⟩
  . rw [handle_reg lib pc htype]
    exact ⟨_, _, rfl, rfl⟩
  . rw [handle_text lib pc htype]
    cases hready with
    | inr hreg => contradiction
    | inl hreg =>
      simp only [clientRecvLog, hreg, not_true, ↓reduceIte]
      exact ⟨pc, _, rfl, hreg⟩

theorem handle_unregistered (lib : LogLib) (pc : PClient)
    (hreg : pc.registered = false) (hlog : (Mem.ofBytes msg).u16 0 = MsgType.log.toNat)
    : handle lib pc (Mem.ofBytes msg) = (none, []) := by
  rw [handle_text lib pc hlog]
  simp [clientRecvLog, hreg]

section

variable (proc : Process) (lmsg : LoggerMsg)

theorem registerMsg_type
    : (Mem.ofBytes (registerMsg proc)).u16 0 = MsgType.register.toNat := by
  rfl

theorem registerMsg_len
    : (Mem.ofBytes (registerMsg proc)).u16 2 = (registerMsg proc).length := by
  rw [registerMsg_length]
  rfl

theorem registerMsg_pid
    : (Mem.ofBytes (registerMsg proc)).u32 hdrSize = proc.pid.toNat := by
  have hlt := proc.pid.toNat_lt
  have hval := u32_le32 proc.pid.toNat
  rw [Nat.mod_eq_of_lt hlt] at hval
  exact hval

theorem registerMsg_name
    : (Mem.ofBytes (registerMsg proc)).str (hdrSize + 4) (nameLen - 1) = regName proc.name := by
  have hlt := regName_length_lt proc.name
  have hnul : 0 ∉ regName proc.name := fun hmem => proc.name_nul (List.mem_of_mem_take hmem)
  have hmsg
      : registerMsg proc
          =
        hdr .register (hdrSize + regDataSize) ++ le32 proc.pid.toNat
          ++ (regName proc.name ++ List.replicate (nameLen - 1 - (regName proc.name).length) 0)
          ++ [0] := by
    have hpad
        : nameLen - (regName proc.name).length
            =
          nameLen - 1 - (regName proc.name).length + 1 := by
      omega
    unfold registerMsg
    rw [hpad, List.replicate_succ']
    simp only [List.append_assoc]
  have hstr := Mem.str_ofBytes_pad
    (hdr .register (hdrSize + regDataSize) ++ le32 proc.pid.toNat) (regName proc.name) [0]
    (nameLen - 1 - (regName proc.name).length) hnul
  have hsize
      : (regName proc.name).length + (nameLen - 1 - (regName proc.name).length)
          =
        nameLen - 1 := by
    omega
  rw [← hmsg, hsize] at hstr
  exact hstr

theorem registerMsg_wellFormed
    : WellFormed (registerMsg proc) := by
  constructor
  . apply registerMsg_len proc
  . rw [registerMsg_length]
    decide
  . rw [registerMsg_length]
    exact .inl ⟨registerMsg_type proc, Nat.le_refl _⟩

theorem handle_registerMsg (lib : LogLib) (pc : PClient)
    : handle lib pc (Mem.ofBytes (registerMsg proc))
        =
      ( some { pc with name := regName proc.name, pid := proc.pid, registered := true }
      , [.registered proc.pid (regName proc.name)]
      ) := by
  rw [handle_reg lib pc (registerMsg_type proc)]
  simp only [clientRecvReg, registerMsg_name, registerMsg_pid, UInt32.ofNat_toNat]

theorem logMsg_type
    : (Mem.ofBytes (logMsg lmsg)).u16 0 = MsgType.log.toNat := by
  rfl

theorem logMsg_len (hfits : (logMsg lmsg).length ≤ clientsBuf)
    : (Mem.ofBytes (logMsg lmsg)).u16 2 = (logMsg lmsg).length := by
  have hval := u16_le16 (logMsg lmsg).length
  rw [Nat.mod_eq_of_lt (by unfold clientsBuf at hfits; omega)] at hval
  rw [logMsg_length] at *
  exact hval

theorem logMsg_textLen (hfits : (logMsg lmsg).length ≤ clientsBuf)
    : (Mem.ofBytes (logMsg lmsg)).u16 (hdrSize + 2) = lmsg.text.length := by
  have hval := u16_le16 lmsg.text.length
  rw [logMsg_length] at hfits
  rw [Nat.mod_eq_of_lt (by unfold clientsBuf at hfits; omega)] at hval
  exact hval

theorem logMsg_text
    : (Mem.ofBytes (logMsg lmsg)).str (hdrSize + logDataSize) lmsg.text.length = lmsg.text := by
  have hstr := Mem.str_ofBytes_pad
    (hdr .log (hdrSize + logDataSize + lmsg.text.length) ++ [lmsg.severity, lmsg.module]
      ++ le16 lmsg.text.length)
    lmsg.text [] 0 lmsg.text_nul
  rw [List.replicate_zero, List.append_nil, List.append_nil] at hstr
  exact hstr

theorem logMsg_wellFormed (hfits : (logMsg lmsg).length ≤ clientsBuf)
    : WellFormed (logMsg lmsg) := by
  constructor
  . apply logMsg_len lmsg hfits
  . exact hfits
  . rw [logMsg_textLen lmsg hfits, logMsg_length]
    exact .inr ⟨logMsg_type lmsg, Nat.le_refl _⟩

def rdkLogOf (lib : LogLib) (pid : UInt32) (name : CStr) (lmsg : LoggerMsg) : RdkLog where
  level := rdkLevel (lib.severity lmsg.severity)
  component := rdkLoggerModule
  name := name
  pid := pid
  module := lib.moduleStr lmsg.module
  text := lmsg.text

theorem handle_logMsg (lib : LogLib) (pc : PClient) (hreg : pc.registered = true)
    (hfits : (logMsg lmsg).length ≤ clientsBuf)
    : handle lib pc (Mem.ofBytes (logMsg lmsg))
        =
      (some pc, [.rdkLog (rdkLogOf lib pc.pid pc.name lmsg)]) := by
  rw [handle_text lib pc (logMsg_type lmsg)]
  simp only [clientRecvLog, hreg, not_true, ↓reduceIte, logMsg_textLen lmsg hfits, logMsg_text]
  rfl

end

end Pl2rld
end OpenSyncRdk
