import Mathlib.Logic.Function.Basic
import OpenSyncRdk.Pl2rld.Daemon
import OpenSyncRdk.Pl2rld.Pipe

/-!
Any number of processes that log through the library, the kernel's connections, and the daemon. A process
has at most one connection that it has not closed, and the daemon takes the connections in the order in
which they were made.
-/

namespace OpenSyncRdk
namespace Pl2rld

open Pl2rl

inductive Held where
  | waiting
  | served (evio : Nat)
  | gone
  deriving DecidableEq

structure Link where
  owner : Nat
  -- the texts of which a part, or all, is on the wire
  texts : List LoggerMsg
  wire : List UInt8
  closed : Bool
  taken : Nat
  held : Held

def Link.unread (l : Link) : List UInt8 :=
  l.wire.drop l.taken

def writes (before : Nat) (wire : List UInt8) : Call → List LoggerMsg
  | .init _ => []
  | .log lmsg _ _ => if before < wire.length then [copied lmsg] else []

def Link.after (l : Link) (call : Call) (t : Sender) : Link :=
  { l with
    texts := l.texts ++ writes l.wire.length t.wire call
    wire := t.wire
    closed := t.fd.isNone
  }

structure System where
  senders : Nat → Sender
  -- what the descriptor of a process, or that of a client of the daemon, stands for
  current : Nat → Option Nat
  served : Nat → Option Nat
  links : List Link
  daemon : Daemon
  -- each with the connection that it came over
  log : List (Nat × Output)

inductive Event where
  | call (i : Nat) (call : Call)
  | exit (i : Nat)
  | accept (evio fd : Nat) (nonblock : Bool)
  | wakeup (evio : Nat) (cuts : List Nat) (buf : Mem)
  | error (evio : Nat)

namespace System

def start : System :=
  { senders := fun _ => .initial
    current := fun _ => none
    served := fun _ => none
    links := []
    daemon := .initial
    log := []
  }

def outOf (s : System) (n : Nat) : List Output :=
  (s.log.filter (fun entry => entry.1 = n)).map Prod.snd

def Links (s : Sender) (res : ConnectRes) : Prop :=
  Attempts s res ∧ res.socket.isSome ∧ res.connect = true

instance (s : Sender) (res : ConnectRes) : Decidable (Links s res) :=
  inferInstanceAs (Decidable (_ ∧ _ ∧ _))

variable (lib : LogLib) (proc : Nat → Process)

def call (s : System) (i : Nat) (call : Call) : Option System :=
  (Pl2rl.step (proc i) (s.senders i) call).map (fun t =>
    let senders := Function.update s.senders i t
    match s.current i with
    | some n =>
      { s with
        senders
        current := Function.update s.current i (if t.fd.isSome then some n else none)
        links := s.links.modify n (fun l => l.after call t)
      }
    | none =>
      if Links (s.senders i) call.res then
        -- a descriptor that stays blocking is closed again
        let wire := if call.res.nonblock then t.wire else []
        { s with
          senders
          current := Function.update s.current i (if t.fd.isSome then some s.links.length else none)
          links := s.links ++ [{
            owner := i
            texts := writes (registerMsg (proc i)).length wire call
            wire
            closed := t.fd.isNone
            taken := 0
            held := .waiting
          }]
        }
      else
        { s with senders })

def exit (s : System) (i : Nat) : System :=
  { s with
    senders := Function.update s.senders i .initial
    current := Function.update s.current i none
    links := match s.current i with
      | some n => s.links.modify n (fun l => { l with closed := true })
      | none => s.links
  }

def accept (s : System) (evio fd : Nat) (nonblock : Bool) : Option System :=
  match s.links.findIdx? (fun l => l.held = .waiting) with
  | none => none
  | some n =>
    if nonblock then
      (s.daemon.clientAdd evio fd).map (fun daemon =>
        { s with
          daemon
          served := Function.update s.served evio (some n)
          links := s.links.modify n (fun l => { l with held := .served evio })
        })
    else
      some { s with links := s.links.modify n (fun l => { l with held := .gone }) }

/-- `pl2rld_client_evio_cb` for a client that can be read from. -/
def wakeup (s : System) (evio : Nat) (cuts : List Nat) (buf : Mem) : Option System := do
  let n ← s.served evio
  let l ← s.links[n]?
  let pc ← s.daemon.clientByEvio evio
  let sock : Pipe := { queue := { bytes := l.unread, cuts }, closed := l.closed }
  let recv := clientRecv lib pipe sock buf pc
  let (daemon, out) := s.daemon.clientEvioCb lib pipe sock buf false evio
  return { s with
    daemon
    log := s.log ++ out.map (fun output => (n, output))
    served := if recv.client.isSome then s.served else Function.update s.served evio none
    links := s.links.modify n (fun l =>
      { l with
        taken := l.wire.length - recv.sock.queue.bytes.length
        held := if recv.client.isSome then .served evio else .gone
      })
  }

/-- `pl2rld_client_evio_cb` with `EV_ERROR`. -/
def error (s : System) (evio : Nat) : Option System := do
  let n ← s.served evio
  let (daemon, _) := s.daemon.clientEvioCb lib hungUp () (fun _ => 0) true evio
  return { s with
    daemon
    served := Function.update s.served evio none
    links := s.links.modify n (fun l => { l with held := .gone })
  }

def step (s : System) : Event → Option System
  | .call i call => s.call proc i call
  | .exit i => some (s.exit i)
  | .accept evio fd nonblock => s.accept evio fd nonblock
  | .wakeup evio cuts buf => s.wakeup lib evio cuts buf
  | .error evio => s.error lib evio

end System

def ArrivesNext (bytes : List UInt8) : List Nat → Prop
  | [] => True
  | [cut] => bytes = [] ∨ cut = 0
  | c1 :: c2 :: _ =>
    bytes = [] ∨ c1 = 0 ∨ (hdrSize ≤ c1 ∧ (Mem.ofBytes bytes).u16 2 - hdrSize ≤ c2)

def Undisturbed (s : System) : Event → Prop
  | .call i call => CallOk (s.senders i) call
  | .exit _ => True
  | .accept _ _ nonblock => nonblock = true
  | .wakeup evio cuts _ =>
    ∀ n ∈ s.served evio, ∀ l ∈ s.links[n]?, ArrivesNext l.unread cuts
  | .error _ => False

def wireMsgs (p : Process) (texts : List LoggerMsg) : List (List UInt8) :=
  registerMsg p :: texts.map logMsg

def outputs (lib : LogLib) (p : Process) (texts : List LoggerMsg) : List Output :=
  .registered p.pid (regName p.name)
    :: texts.map (fun lmsg => .rdkLog (rdkLogOf lib p.pid (regName p.name) lmsg))

structure Link.Written (p : Process) (l : Link) (whole : List (List UInt8)) (left : List UInt8)
    : Prop where
  wire : l.wire = whole.flatten ++ left
  fits : ∀ lmsg ∈ l.texts, (logMsg lmsg).length ≤ bufSize
  all
    : (whole = wireMsgs p l.texts ∧ left = [])
        ∨ (l.closed = true
            ∧ whole = (wireMsgs p l.texts).dropLast
            ∧ ∃ msg ∈ wireMsgs p l.texts, Part msg left)

def Knows (p : Process) (pc : PClient) (count : Nat) : Prop :=
  0 < count → pc.registered = true ∧ pc.pid = p.pid ∧ pc.name = regName p.name

def Follows (p : Process) (s : System) (n : Nat) (l : Link) (whole : List (List UInt8)) (count : Nat)
    : Held → Prop
  | .waiting => count = 0 ∧ l.taken = 0
  | .served evio =>
    l.taken = (whole.take count).flatten.length
      ∧ s.served evio = some n
      ∧ ∃ pc ∈ s.daemon.clientByEvio evio, Knows p pc count
  | .gone => l.closed = true ∧ count = whole.length

structure Link.Sound (lib : LogLib) (p : Process) (s : System) (n : Nat) (l : Link)
    (whole : List (List UInt8)) (left : List UInt8) (count : Nat) : Prop where
  written : l.Written p whole left
  le : count ≤ whole.length
  out : s.outOf n = (outputs lib p l.texts).take count
  follows : Follows p s n l whole count l.held

structure System.Ok (lib : LogLib) (proc : Nat → Process) (s : System) : Prop where
  current
    : ∀ i n,
        s.current i = some n
          → (s.senders i).fd.isSome
            ∧ ∃ l, s.links[n]? = some l ∧ l.owner = i ∧ l.closed = false ∧ l.wire = (s.senders i).wire
  idle : ∀ i, s.current i = none → (s.senders i).fd = none
  served : ∀ evio n, s.served evio = some n → ∃ l, s.links[n]? = some l ∧ l.held = .served evio
  links
    : ∀ (n : Nat) (l : Link),
        s.links[n]? = some l
          → ∃ whole left count, l.Sound lib (proc l.owner) s n whole left count
  log : ∀ entry ∈ s.log, entry.1 < s.links.length

end Pl2rld
end OpenSyncRdk
