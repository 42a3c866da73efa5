import OpenSyncRdk.Lib.Confined
import OpenSyncRdk.Pl2rld.Chunks

/-!
What of a message reaches the log and the record of the client. The buffer that `pl2rld_client_recv`
reads into is not initialised, and neither the sizes within a message nor the end of the name are checked
against the bytes that came in.
-/

namespace OpenSyncRdk
namespace Pl2rld

open Pl2rl (MsgType hdrSize logDataSize nameLen)

structure Accepted (S : Socket σ) (sock : σ) (msg : List UInt8) : Prop where
  reads
    : ∃ next last,
        S.read sock hdrSize = (.data (msg.take hdrSize), next)
          ∧ S.read next (sizeT (msg.length - hdrSize : Int)) = (.data (msg.drop hdrSize), last)
  hdrSize_le : hdrSize ≤ msg.length
  msgType_lt : (Mem.ofBytes msg).u16 0 < MsgType.max
  length : (Mem.ofBytes msg).u16 2 = msg.length

structure LogsConfined (lib : LogLib) (S : Socket σ) (sock : σ) (pc : PClient) : Prop where
  inBuf : ∀ buf, (clientRecv lib S sock buf pc).InBuf
  client : ∀ buf buf', (clientRecv lib S sock buf pc).client = (clientRecv lib S sock buf' pc).client
  out : ∀ buf buf', (clientRecv lib S sock buf pc).out = (clientRecv lib S sock buf' pc).out

structure TextContained (pc : PClient) (msg : List UInt8) : Prop where
  register
    : (Mem.ofBytes msg).u16 0 = MsgType.register.toNat
      → hdrSize + 4 + (nameLen - 1) ≤ msg.length ∨ 0 ∈ msg.drop (hdrSize + 4)
  log
    : (Mem.ofBytes msg).u16 0 = MsgType.log.toNat
      → pc.registered = true
      → hdrSize + logDataSize + (Mem.ofBytes msg).u16 (hdrSize + 2) ≤ msg.length
          ∨ 0 ∈ msg.drop (hdrSize + logDataSize)

theorem clientRecv_accepted (lib : LogLib) (pc : PClient) (hmsg : Accepted S sock msg)
    : ∀ buf,
        (clientRecv lib S sock buf pc).client = (handle lib pc (buf.store 0 msg)).1
          ∧ (clientRecv lib S sock buf pc).out = (handle lib pc (buf.store 0 msg)).2 := by
  intro buf
  have ⟨next, last, hhead, hbody⟩ := hmsg.reads
  have hrest := clientRecv_rest lib buf pc hmsg.hdrSize_le hmsg.msgType_lt hmsg.length hhead hbody
  have ⟨_, hhandled⟩ := hrest.1 rfl
  rw [← hhandled]
  exact ⟨rfl, rfl⟩

theorem accepted_of_reads {S : Socket σ} {sock next last : σ} {head body : List UInt8}
    (hhead : S.read sock hdrSize = (.data head, next)) (hlen : head.length = hdrSize)
    (htype : (Mem.ofBytes head).u16 0 < MsgType.max)
    (hbody : S.read next (sizeT ((Mem.ofBytes head).u16 2 - hdrSize)) = (.data body, last))
    (hrlen : ((Mem.ofBytes head).u16 2 : Int) = hdrSize + body.length)
    : Accepted S sock (head ++ body) := by
  have htake : (head ++ body).take hdrSize = head := by
    rw [← hlen, List.take_left]
  have hdrop : (head ++ body).drop hdrSize = body := by
    rw [← hlen, List.drop_left]
  have hu16 : ∀ off, off + 2 ≤ hdrSize
      → (Mem.ofBytes (head ++ body)).u16 off = (Mem.ofBytes head).u16 off := by
    intro off hoff
    rw [← u16_take _ hoff, htake]
  have hlength : ((Mem.ofBytes head).u16 2 : Int) = (head ++ body).length := by
    rw [List.length_append, hrlen, hlen]
    rfl
  constructor
  . rw [htake, hdrop, ← hlength]
    exact ⟨next, last, hhead, hbody⟩
  . rw [List.length_append, hlen]
    omega
  . rw [hu16 0 (by decide)]
    exact htype
  . rw [hu16 2 (by decide)]
    omega

theorem clientRecv_rejected (lib : LogLib) (S : Socket σ) (sock : σ) (buf : Mem) (pc : PClient)
    (hnone : ∀ msg, ¬Accepted S sock msg)
    : (clientRecv lib S sock buf pc).out = []
        ∧ ((clientRecv lib S sock buf pc).client = none
          ∨ (clientRecv lib S sock buf pc).client = some pc) := by
  unfold clientRecv
  cases hread : S.read sock hdrSize with
  | mk res next =>
    cases res with
    | again => exact ⟨rfl, .inr rfl⟩
    | error => exact ⟨rfl, .inl rfl⟩
    | data head =>
      dsimp only
      split
      . exact ⟨rfl, .inl rfl⟩
      . next hhead =>
        have hlen : head.length = hdrSize := Decidable.not_not.mp hhead
        rw [u16_head buf head hlen (by decide), u16_head buf head hlen (by decide)]
        split
        . exact ⟨rfl, .inl rfl⟩
        . next htype =>
          cases hbody : S.read next (sizeT ((Mem.ofBytes head).u16 2 - hdrSize)) with
          | mk res last =>
            cases res with
            | again => exact ⟨rfl, .inl rfl⟩
            | error => exact ⟨rfl, .inl rfl⟩
            | data body =>
              dsimp only
              split
              . exact ⟨rfl, .inl rfl⟩
              . next hrlen =>
                exact absurd (accepted_of_reads hread hlen (by omega) hbody (by omega)) (hnone _)

theorem Accepted.kinds (hmsg : Accepted S sock msg)
    : (Mem.ofBytes msg).u16 0 = MsgType.register.toNat
        ∨ (Mem.ofBytes msg).u16 0 = MsgType.log.toNat := by
  have hlt : (Mem.ofBytes msg).u16 0 < 2 := hmsg.msgType_lt
  have hregister : MsgType.register.toNat = 0 := by rfl
  have hlog : MsgType.log.toNat = 1 := by rfl
  omega

theorem inBuf_accepted_iff (lib : LogLib) (pc : PClient) (hmsg : Accepted S sock msg) (buf : Mem)
    : (clientRecv lib S sock buf pc).InBuf ↔ msg.length ≤ clientsBuf := by
  have hle := hmsg.hdrSize_le
  have htype := hmsg.msgType_lt
  have ⟨next, last, hhead, hbody⟩ := hmsg.reads
  have hlen : (msg.take hdrSize).length = hdrSize := by
    rw [List.length_take]
    omega
  have htake := u16_take msg (show 0 + 2 ≤ hdrSize by decide)
  rw [clientRecv_inBuf_of_head lib buf pc hhead hlen (by omega), u16_take msg (by decide), hmsg.length]
  omega

theorem register_confined_iff (pc : PClient) (msg : List UInt8)
    : Mem.Confined msg (clientRecvReg pc)
        ↔
      hdrSize + 4 + (nameLen - 1) ≤ msg.length ∨ 0 ∈ msg.drop (hdrSize + 4) := by
  rw [← Mem.str_confined_iff msg (by decide)]
  constructor
  . intro hconfined mem mem'
    have hname := congrArg PClient.name (hconfined mem mem')
    exact hname
  . intro hname mem mem'
    have hpid : hdrSize + 4 ≤ msg.length := by
      rw [Mem.str_confined_iff msg (by decide)] at hname
      rcases hname with hin | hnul
      . omega
      . have hpos := List.length_pos_of_mem hnul
        rw [List.length_drop] at hpos
        omega
    have hsame := hname mem mem'
    dsimp only at hsame
    unfold clientRecvReg
    rw [hsame, Mem.u32_store mem msg hpid, Mem.u32_store mem' msg hpid]

theorem log_confined_iff (lib : LogLib) (pc : PClient) (msg : List UInt8) (hreg : pc.registered = true)
    : Mem.Confined msg (fun buf => clientRecvLog lib pc buf (hdrSize + logDataSize))
        ↔
      hdrSize + logDataSize + (Mem.ofBytes msg).u16 (hdrSize + 2) ≤ msg.length
        ∨ 0 ∈ msg.drop (hdrSize + logDataSize) := by
  have hoff : hdrSize + logDataSize = hdrSize + 2 + 2 := by rfl
  have htext := Mem.sized_str_confined_iff msg (hdrSize + 2)
  rw [hoff, ← htext]
  constructor
  . intro hconfined mem mem'
    have hcall := hconfined mem mem'
    simp only [clientRecvLog, hreg, not_true, ↓reduceIte, Prod.mk.injEq, List.cons.injEq,
      Output.rdkLog.injEq, RdkLog.mk.injEq, true_and, and_true] at hcall
    exact hcall.2.2
  . intro hconfined mem mem'
    have hdata : hdrSize + 2 + 2 ≤ msg.length := by
      rw [htext] at hconfined
      rcases hconfined with hin | hnul
      . exact Nat.le_of_add_right_le hin
      . have hpos := List.length_pos_of_mem hnul
        rw [List.length_drop] at hpos
        exact Nat.le_of_lt (Nat.lt_of_sub_pos hpos)
    have hsame := hconfined mem mem'
    dsimp only at hsame
    simp only [clientRecvLog, hreg, not_true, ↓reduceIte]
    rw [Mem.store_zero_get mem msg (by omega), Mem.store_zero_get mem' msg (by omega)]
    rw [Mem.store_zero_get mem msg (by omega), Mem.store_zero_get mem' msg (by omega)]
    rw [hsame]

theorem textContained_register (pc : PClient) (hkind : (Mem.ofBytes msg).u16 0 = MsgType.register.toNat)
    : TextContained pc msg
        ↔
      hdrSize + 4 + (nameLen - 1) ≤ msg.length ∨ 0 ∈ msg.drop (hdrSize + 4) := by
  have hnot : MsgType.register.toNat ≠ MsgType.log.toNat := by decide
  constructor
  . intro hcontained
    exact hcontained.register hkind
  . intro hname
    exact ⟨fun _ => hname, fun hlog => absurd (hkind.symm.trans hlog) hnot⟩

theorem textContained_log (pc : PClient) (hkind : (Mem.ofBytes msg).u16 0 = MsgType.log.toNat)
    : TextContained pc msg
        ↔
      (pc.registered = true
        → hdrSize + logDataSize + (Mem.ofBytes msg).u16 (hdrSize + 2) ≤ msg.length
          ∨ 0 ∈ msg.drop (hdrSize + logDataSize)) := by
  have hnot : MsgType.log.toNat ≠ MsgType.register.toNat := by decide
  constructor
  . intro hcontained
    exact hcontained.log hkind
  . intro htext
    exact ⟨fun hregister => absurd (hkind.symm.trans hregister) hnot, fun _ => htext⟩

theorem handle_confined_iff (lib : LogLib) (pc : PClient) (hmsg : Accepted S sock msg)
    : Mem.Confined msg (handle lib pc) ↔ TextContained pc msg := by
  have hle : 0 + 2 ≤ msg.length := Nat.le_trans (by decide) hmsg.hdrSize_le
  have htype : ∀ mem : Mem, (mem.store 0 msg).u16 0 = (Mem.ofBytes msg).u16 0 :=
    fun mem => Mem.u16_store mem msg hle
  rcases hmsg.kinds with hkind | hkind
  . have hreg
        : Mem.Confined msg (handle lib pc)
            ↔
          Mem.Confined msg (fun buf =>
            ( some (clientRecvReg pc buf)
            , [Output.registered (clientRecvReg pc buf).pid (clientRecvReg pc buf).name]
            )) := by
      apply Mem.confined_congr
      intro mem
      exact handle_reg lib pc ((htype mem).trans hkind)
    have hclient := Mem.confined_injective_iff msg (clientRecvReg pc)
      (g := fun client => (some client, [Output.registered client.pid client.name]))
      (fun client client' heq => Option.some.inj (congrArg Prod.fst heq))
    rw [hreg, hclient, register_confined_iff, textContained_register pc hkind]
  . have hlog
        : Mem.Confined msg (handle lib pc)
            ↔
          Mem.Confined msg (fun buf => clientRecvLog lib pc buf (hdrSize + logDataSize)) := by
      apply Mem.confined_congr
      intro mem
      exact handle_text lib pc ((htype mem).trans hkind)
    rw [hlog, textContained_log pc hkind]
    cases hreg : pc.registered with
    | true =>
      rw [log_confined_iff lib pc msg hreg]
      simp
    | false =>
      apply iff_of_true
      . intro mem mem'
        simp [clientRecvLog, hreg]
      . simp

theorem logsConfined_iff (lib : LogLib) (pc : PClient) (hmsg : Accepted S sock msg)
    : LogsConfined lib S sock pc ↔ msg.length ≤ clientsBuf ∧ TextContained pc msg := by
  rw [← handle_confined_iff lib pc hmsg]
  constructor
  . intro hconfined
    refine ⟨(inBuf_accepted_iff lib pc hmsg _).mp (hconfined.inBuf (fun _ => 0)), ?_⟩
    intro mem mem'
    have ⟨hclient, hout⟩ := clientRecv_accepted lib pc hmsg mem
    have ⟨hclient', hout'⟩ := clientRecv_accepted lib pc hmsg mem'
    apply Prod.ext
    . rw [← hclient, ← hclient', hconfined.client mem mem']
    . rw [← hout, ← hout', hconfined.out mem mem']
  . intro ⟨hfits, hconfined⟩
    constructor
    . intro buf
      rw [inBuf_accepted_iff lib pc hmsg]
      exact hfits
    . intro mem mem'
      rw [(clientRecv_accepted lib pc hmsg mem).1, (clientRecv_accepted lib pc hmsg mem').1,
        hconfined mem mem']
    . intro mem mem'
      rw [(clientRecv_accepted lib pc hmsg mem).2, (clientRecv_accepted lib pc hmsg mem').2,
        hconfined mem mem']

def registeredClient : PClient :=
  { fd := 5, pid := 812, name := cstr "wm", registered := true }

def textBeyond : List UInt8 :=
  [1, 0, 8, 0, 6, 0, 100, 0]

def textTerminated : List UInt8 :=
  [1, 0, 11, 0, 6, 0, 100, 0, 111, 107, 0]

theorem not_logsConfined_textBeyond
    : Accepted stream { bytes := textBeyond, cuts := [4, 4] } textBeyond
        ∧ ¬LogsConfined { severity := fun _ => none, moduleStr := fun _ => [] } stream
            { bytes := textBeyond, cuts := [4, 4] } registeredClient := by
  constructor
  . exact ⟨⟨_, _, rfl, rfl⟩, by decide, by decide, by decide⟩
  . intro hconfined
    have hout := hconfined.out (fun _ => 0) (fun _ => 65)
    revert hout
    decide +kernel

theorem logsConfined_textTerminated
    : LogsConfined { severity := fun _ => none, moduleStr := fun _ => [] } stream
        { bytes := textTerminated, cuts := [4, 7] } registeredClient := by
  have hmsg : Accepted stream { bytes := textTerminated, cuts := [4, 7] } textTerminated :=
    ⟨⟨_, _, rfl, rfl⟩, by decide, by decide, by decide⟩
  rw [logsConfined_iff _ _ hmsg]
  refine ⟨by decide, ?_, ?_⟩
  . intro hregister
    exact absurd hregister (by decide)
  . intro _ _
    exact .inr (by decide)

end Pl2rld
end OpenSyncRdk
