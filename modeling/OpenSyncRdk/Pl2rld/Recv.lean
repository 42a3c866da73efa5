import OpenSyncRdk.Pl2rl.Msg

/-!
The daemon side of the log channel, `pl2rld.c`: how a message is read from a client and handled. The
socket is a parameter, any function that returns at most as many bytes as it is asked for. A `Recv`
is what a call leaves behind, together with the size it asked `read` for and where it stored bytes.
-/

namespace OpenSyncRdk
namespace Pl2rld

open Pl2rl (MsgType hdrSize logDataSize nameLen)

def clientsBuf : Nat := 4096

def rdkLoggerModule : CStr := cstr "LOG.RDK.MeshService"

inductive ReadRes where
  | data (bytes : List UInt8)
  | again
  | error
  deriving DecidableEq, Repr

structure Socket (σ : Type) where
  read : σ → Nat → ReadRes × σ
  read_le : ∀ s count bytes t, read s count = (.data bytes, t) → bytes.length ≤ count

inductive LogSeverity where
  | emerg
  | alert
  | crit
  | err
  | warning
  | notice
  | info
  | debug
  | trace
  deriving DecidableEq, Repr

structure LogLib where
  severity : UInt8 → Option LogSeverity
  moduleStr : UInt8 → CStr

inductive RdkLevel where
  | fatal
  | error
  | warn
  | notice
  | info
  | debug
  | trace1
  deriving DecidableEq, Repr

structure RdkLog where
  level : RdkLevel
  component : CStr
  name : CStr
  pid : UInt32
  module : CStr
  text : CStr
  deriving DecidableEq

inductive Output where
  | registered (pid : UInt32) (name : CStr)
  | rdkLog (call : RdkLog)
  deriving DecidableEq

structure PClient where
  fd : Nat
  pid : UInt32
  name : CStr
  registered : Bool
  deriving DecidableEq

def clientAdd (fd : Nat) : PClient :=
  { fd := fd, pid := 0, name := [], registered := false }

structure Access where
  off : Nat
  len : Nat
  deriving DecidableEq

structure Recv (σ : Type) where
  sock : σ
  client : Option PClient
  -- the size that `read` was called with for the body
  asked : Option Nat
  stored : List Access
  out : List Output

def rdkLevel : Option LogSeverity → RdkLevel
  | some .emerg => .fatal
  | some .alert => .error
  | some .crit => .error
  | some .err => .error
  | some .warning => .warn
  | some .notice => .notice
  | some .info => .info
  | some .trace => .trace1
  | some .debug => .debug
  | none => .debug

def clientRecvReg (pc : PClient) (buf : Mem) : PClient :=
  { pc with
    name := buf.str (hdrSize + 4) (nameLen - 1)
    pid := UInt32.ofNat (buf.u32 hdrSize)
    registered := true
  }

def clientRecvLog (lib : LogLib) (pc : PClient) (buf : Mem) (text : Nat)
    : Option PClient × List Output :=
  if ¬pc.registered then
    (none, [])
  else
    (some pc, [.rdkLog {
        level := rdkLevel (lib.severity (buf hdrSize))
        component := rdkLoggerModule
        name := pc.name
        pid := pc.pid
        module := lib.moduleStr (buf (hdrSize + 1))
        text := buf.str text (buf.u16 (hdrSize + 2))
      }])

def handle (lib : LogLib) (pc : PClient) (buf : Mem) : Option PClient × List Output :=
  if buf.u16 0 = MsgType.register.toNat then
    let pc := clientRecvReg pc buf
    (some pc, [.registered pc.pid pc.name])
  else if buf.u16 0 = MsgType.log.toNat then
    clientRecvLog lib pc buf (hdrSize + logDataSize)
  else
    (some pc, [])

/--
`pl2rld_client_recv`, where `buf` is what the stack holds at the address of the buffer before the
call and `rlen` is the `int` that the body's length is kept in.
-/
def clientRecv (lib : LogLib) (S : Socket σ) (sock : σ) (buf : Mem) (pc : PClient) : Recv σ :=
  match S.read sock hdrSize with
  | (.again, sock) => { sock, client := some pc, asked := none, stored := [], out := [] }
  | (.error, sock) => { sock, client := none, asked := none, stored := [], out := [] }
  | (.data head, sock) =>
    let buf := buf.store 0 head
    let stored := [{ off := 0, len := head.length }]
    if head.length ≠ hdrSize then
      { sock, client := none, asked := none, stored, out := [] }
    else if MsgType.max ≤ buf.u16 0 then
      { sock, client := none, asked := none, stored, out := [] }
    else
      let rlen : Int := buf.u16 2 - hdrSize
      let asked := some (sizeT rlen)
      match S.read sock (sizeT rlen) with
      | (.again, sock) => { sock, client := none, asked, stored, out := [] }
      | (.error, sock) => { sock, client := none, asked, stored, out := [] }
      | (.data body, sock) =>
        let buf := buf.store hdrSize body
        let stored := stored ++ [{ off := hdrSize, len := body.length }]
        if (body.length : Int) ≠ rlen then
          { sock, client := none, asked, stored, out := [] }
        else
          let (client, out) := handle lib pc buf
          { sock, client, asked, stored, out }

structure Recv.InBuf (res : Recv σ) : Prop where
  asked : ∀ count, res.asked = some count → count ≤ clientsBuf - hdrSize
  stored : ∀ acc ∈ res.stored, ∀ idx, acc.off ≤ idx → idx < acc.off + acc.len → idx < clientsBuf

def HdrOk : ReadRes → Prop
  | .data head =>
    head.length = hdrSize
      → MsgType.max ≤ (Mem.ofBytes head).u16 0
        ∨ (hdrSize ≤ (Mem.ofBytes head).u16 2 ∧ (Mem.ofBytes head).u16 2 ≤ clientsBuf)
  | .again => True
  | .error => True

theorem inBuf_of_none {res : Recv σ} (hasked : res.asked = none)
    (hstored : ∀ acc ∈ res.stored, acc.off + acc.len ≤ clientsBuf)
    : res.InBuf := by
  constructor
  . intro count hcount
    simp [hasked] at hcount
  . intro acc hacc idx _ hidx
    apply Nat.lt_of_lt_of_le hidx (hstored acc hacc)

theorem sizeT_body_le_iff {length : Nat} (hlength : length < 65536)
    : sizeT (length - hdrSize : Int) ≤ clientsBuf - hdrSize
        ↔
      hdrSize ≤ length ∧ length ≤ clientsBuf := by
  unfold sizeT hdrSize clientsBuf
  omega

theorem inBuf_iff_asked {res : Recv σ} (hasked : res.asked = some count)
    (hstored : ∀ acc ∈ res.stored, acc.off + acc.len ≤ hdrSize + count)
    : res.InBuf ↔ count ≤ clientsBuf - hdrSize := by
  constructor
  . intro hbuf
    exact hbuf.asked count hasked
  . intro hcount
    constructor
    . intro other hother
      rw [hasked] at hother
      injection hother with hother
      omega
    . intro acc hacc idx _ hidx
      have := hstored acc hacc
      unfold clientsBuf hdrSize at *
      omega

theorem u16_head (buf : Mem) (head : List UInt8) (hhead : head.length = hdrSize)
    (hoff : off + 2 ≤ hdrSize)
    : (buf.store 0 head).u16 off = (Mem.ofBytes head).u16 off := by
  rw [Mem.u16_store]
  omega

theorem clientRecv_inBuf_of_head (lib : LogLib) (buf : Mem) (pc : PClient) {S : Socket σ} {sock next : σ}
    {head : List UInt8} (hread : S.read sock hdrSize = (.data head, next)) (hlen : head.length = hdrSize)
    (htype : (Mem.ofBytes head).u16 0 < MsgType.max)
    : (clientRecv lib S sock buf pc).InBuf
        ↔
      hdrSize ≤ (Mem.ofBytes head).u16 2 ∧ (Mem.ofBytes head).u16 2 ≤ clientsBuf := by
  unfold clientRecv
  rw [hread]
  dsimp only
  rw [u16_head buf head hlen (by decide), u16_head buf head hlen (by decide)]
  rw [if_neg (not_not.mpr hlen), if_neg (Nat.not_le.mpr htype), ← sizeT_body_le_iff (Mem.u16_lt _ _)]
  cases hbody : S.read next (sizeT ((Mem.ofBytes head).u16 2 - hdrSize)) with
  | mk res last =>
    cases res with
    | again => apply inBuf_iff_asked rfl (by simp [hlen])
    | error => apply inBuf_iff_asked rfl (by simp [hlen])
    | data body =>
      have hbodyLe := S.read_le _ _ body last hbody
      dsimp only
      split
      . apply inBuf_iff_asked rfl (by simpa [hlen] using hbodyLe)
      . apply inBuf_iff_asked rfl (by simpa [hlen] using hbodyLe)

theorem clientRecv_inBuf_iff (lib : LogLib) (S : Socket σ) (sock : σ) (buf : Mem) (pc : PClient)
    : (clientRecv lib S sock buf pc).InBuf ↔ HdrOk (S.read sock hdrSize).1 := by
  cases hread : S.read sock hdrSize with
  | mk res next =>
    cases res with
    | again =>
      unfold clientRecv
      rw [hread]
      exact iff_of_true (inBuf_of_none rfl (by simp)) trivial
    | error =>
      unfold clientRecv
      rw [hread]
      exact iff_of_true (inBuf_of_none rfl (by simp)) trivial
    | data head =>
      have hle := S.read_le sock hdrSize head next hread
      have hstore : hdrSize ≤ clientsBuf := by decide
      have hfirst : head.length ≤ clientsBuf := by omega
      simp only [HdrOk]
      by_cases hlen : head.length = hdrSize
      . simp only [hlen, forall_const]
        by_cases htype : MsgType.max ≤ (Mem.ofBytes head).u16 0
        . simp only [htype, true_or, iff_true]
          unfold clientRecv
          rw [hread]
          dsimp only
          rw [if_neg (not_not.mpr hlen), u16_head buf head hlen (by decide), if_pos htype]
          apply inBuf_of_none rfl (by simpa using hfirst)
        . simp only [htype, false_or]
          exact clientRecv_inBuf_of_head lib buf pc hread hlen (Nat.lt_of_not_le htype)
      . simp only [hlen, false_implies, iff_true]
        unfold clientRecv
        rw [hread]
        dsimp only
        rw [if_pos hlen]
        apply inBuf_of_none rfl (by simpa using hfirst)

/-- The other end of a connection. A `read` takes what the next cut lets it, or returns `EAGAIN` where
the cut is empty; past the last cut there is nothing to read. -/
structure Stream where
  bytes : List UInt8
  cuts : List Nat

def Stream.read (s : Stream) (count : Nat) : ReadRes × Stream :=
  if count = 0 then
    (.data [], s)
  else
    match s.cuts with
    | [] => (.again, s)
    | cut :: cuts =>
      let ret := min (min cut count) s.bytes.length
      if ret = 0 then
        (.again, { s with cuts })
      else
        (.data (s.bytes.take ret), { bytes := s.bytes.drop ret, cuts })

theorem Stream.read_le (s : Stream) (count : Nat) (bytes : List UInt8) (t : Stream)
    (hread : s.read count = (.data bytes, t))
    : bytes.length ≤ count := by
  unfold Stream.read at hread
  split at hread
  . injection hread with hdata
    injection hdata with hdata
    simp [← hdata]
  . split at hread
    . simp at hread
    . dsimp only at hread
      split at hread
      . simp at hread
      . injection hread with hdata
        injection hdata with hdata
        rw [← hdata, List.length_take]
        omega

def stream : Socket Stream :=
  { read := Stream.read, read_le := Stream.read_le }

theorem not_inBuf_long
    : let res := clientRecv { severity := fun _ => none, moduleStr := fun _ => [] } stream
        { bytes := [0, 0, 0x88, 0x13] ++ List.replicate 4996 65, cuts := [4, 4996] } (fun _ => 0)
        (clientAdd 5)
      res.client.isSome ∧ ¬res.InBuf := by
  intro res
  have hstored : res.client.isSome = true
      ∧ res.stored = [{ off := 0, len := 4 }, { off := 4, len := 4996 }] := by
    decide +kernel
  refine ⟨hstored.1, ?_⟩
  intro hbuf
  have hidx := hbuf.stored { off := 4, len := 4996 } (by simp [hstored.2]) 4999 (by simp) (by simp)
  simp [clientsBuf] at hidx

end Pl2rld
end OpenSyncRdk
