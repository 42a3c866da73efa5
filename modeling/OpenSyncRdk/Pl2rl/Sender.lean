import OpenSyncRdk.Lib.Machine
import OpenSyncRdk.Pl2rl.Msg

/-!
The client side of the log channel, `pl2rl.c`. What the kernel answers is an input of every call: a
`ConnectRes` holds what `time`, `socket`, `connect` and `fcntl` return to `pl2rl_connect`, a list of
`SendRes` what `send` returns to `pl2rl_send`. `wire` are the bytes on the open connection, `handed`
the messages that `pl2rl_send` was called with there.
-/

namespace OpenSyncRdk
namespace Pl2rl

def connectRate : Int := 1

def retries : Nat := 3

def bufSize : Nat := 4096

inductive SendRes where
  -- or all that is offered, if these are fewer bytes
  | sent (count : Nat)
  | again
  | error
  deriving DecidableEq, Repr

structure ConnectRes where
  now : Int
  socket : Option Nat
  connect : Bool
  nonblock : Bool
  -- past their end `send` returns `EAGAIN`
  register : List SendRes

structure Sender where
  lastAttempt : Int
  -- `none` for -1
  fd : Option Nat
  wire : List UInt8
  handed : List (List UInt8)

def Sender.initial : Sender :=
  { lastAttempt := 0, fd := none, wire := [], handed := [] }

def disconnect (s : Sender) : Sender :=
  match s.fd with
  | none => s
  | some _ => { s with lastAttempt := 0, fd := none }

def sendLoop (data : List UInt8) : (tries w : Nat) → List SendRes → Sender → Sender × Bool
  | 0, _, _, s => (s, false)
  | _ + 1, _, [], s => (s, false)
  | tries + 1, w, .again :: results, s => sendLoop data tries w results s
  | _ + 1, _, .error :: _, s => (disconnect s, false)
  | tries + 1, w, .sent count :: results, s =>
    let ret := min count (data.length - w)
    let s := { s with wire := s.wire ++ (data.drop w).take ret }
    if w + ret = data.length then
      (s, true)
    else
      sendLoop data tries (w + ret) results s

def send (s : Sender) (data : List UInt8) (results : List SendRes) : Sender × Bool :=
  match s.fd with
  | none => (s, false)
  | some _ => sendLoop data retries 0 results { s with handed := s.handed ++ [data] }

def connect (proc : Process) (s : Sender) (res : ConnectRes) : Sender × Bool :=
  match s.fd with
  | some _ => (s, true)
  | none =>
    if s.lastAttempt ≠ 0 ∧ res.now - s.lastAttempt < connectRate then
      (s, false)
    else
      let s := { s with lastAttempt := res.now }
      match res.socket with
      | none => (s, false)
      | some fd =>
        if ¬res.connect then
          (s, false)
        else if ¬res.nonblock then
          (s, false)
        else
          let s := { lastAttempt := 0, fd := some fd, wire := [], handed := [] }
          match send s (registerMsg proc) res.register with
          | (s, true) => (s, true)
          | (s, false) => (disconnect s, false)

def init (proc : Process) (s : Sender) (res : ConnectRes) : Sender :=
  (connect proc s res).1

/--
`pl2rl_log`. There is no next state where `memcpy` runs over the end of the buffer, which is so for
texts whose length wraps the 16 bit `length` of the header back into the range of the buffer.
-/
def log (proc : Process) (s : Sender) (lmsg : LoggerMsg) (res : ConnectRes)
    (results : List SendRes) : Option Sender :=
  let textLen := cInt lmsg.text.length
  match if s.fd.isSome then (s, true) else connect proc s res with
  | (s, false) => some s
  | (s, true) =>
    let length := ((hdrSize + logDataSize + textLen) % 65536).toNat
    if bufSize < length then
      some s
    else if bufSize < hdrSize + logDataSize + sizeT textLen then
      none
    else
      let data := hdr .log length ++ [lmsg.severity, lmsg.module] ++ le16 (sizeT textLen)
        ++ lmsg.text.take (sizeT textLen)
      some (send s (data.take length) results).1

inductive Call where
  | init (res : ConnectRes)
  | log (lmsg : LoggerMsg) (res : ConnectRes) (results : List SendRes)

def step (proc : Process) (s : Sender) : Call → Option Sender
  | .init res => some (init proc s res)
  | .log lmsg res results => log proc s lmsg res results

end Pl2rl
end OpenSyncRdk
