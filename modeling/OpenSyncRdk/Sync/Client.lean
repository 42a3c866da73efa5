import OpenSyncRdk.Sync.Channel

/-!
The life of the connection to the Mesh-Agent, `sync.c`: `sync_init`, `sync_cleanup`, and what the event
loop calls in between. The loops that `EV_DEFAULT` and `wifihal_evloop` name are one.
-/

namespace OpenSyncRdk
namespace Sync

inductive Mgr where
  | wm
  | nm
  | cm
  deriving DecidableEq

/-- The statics of `sync.c`, and the descriptors that `socket` has returned and `close` has got. -/
structure Client extends State where
  initialized : Bool
  mgr : Mgr
  onConnectCb : Bool
  -- what `sync_evio` waits on while it is started
  evio : Option Nat
  opened : List Nat
  closed : List Nat

inductive Attempt where
  | noSocket
  | refused (fd : Nat)
  | connected (fd : Nat)
  deriving DecidableEq

def Event.message (M : MeshSync) : Event → Option (List UInt8)
  | .error => none
  | .recv bytes => if bytes.length = M.size ∧ M.known bytes then some bytes else none

namespace Client

def start : Client :=
  { fd := none, timer := false, processed := [], wire := [], accepted := []
    initialized := false, mgr := .wm, onConnectCb := false, evio := none, opened := [], closed := []
  }

/--
`sync_task_connect` but for its call of `sync_on_connect_cb`, which does not look at the timer. It is `none`
if `ev_io_init` gets a watcher that is started.
-/
def taskConnect (attempt : Attempt) (c : Client) : Option Client :=
  match attempt with
  | .noSocket => some { c with toState := Sync.taskConnect c.toState none }
  | .refused fd =>
    some { c with
      toState := Sync.taskConnect c.toState none
      opened := c.opened ++ [fd]
      closed := c.closed ++ [fd]
    }
  | .connected fd =>
    if c.evio.isSome then
      none
    else
      some { c with
        toState := Sync.taskConnect c.toState (some fd)
        evio := some fd
        opened := c.opened ++ [fd]
      }

def disconnect (c : Client) : Client :=
  match c.fd with
  | none => { c with toState := Sync.disconnect c.toState }
  | some fd =>
    { c with toState := Sync.disconnect c.toState, evio := none, closed := c.closed ++ [fd] }

def reconnect (c : Client) : Client :=
  { c.disconnect with timer := true }

def evioCb (M : MeshSync) (event : Event) (c : Client) : Client :=
  match event with
  | .error => c.reconnect
  | .recv bytes =>
    if bytes.length = 0 then c.reconnect else { c with toState := Sync.evioCb M c.toState event }

def init (mgr : Mgr) (onConnectCb : Bool) (c : Client) : Client :=
  if c.initialized then
    c
  else
    { reconnect { c with onConnectCb := onConnectCb } with initialized := true, mgr := mgr }

def cleanup (c : Client) : Client :=
  if ¬c.initialized then c else { c.disconnect with initialized := false }

/-- `sync_send_msg`, where `send` takes the first `sent` bytes. -/
def sendMsg (msg : List UInt8) (sent : Nat) (c : Client) : Client × Bool :=
  let out := Sync.sendMsg c.toState msg sent
  ({ c with toState := out.1 }, out.2)

structure SameInit (c d : Client) : Prop where
  initialized : d.initialized = c.initialized
  mgr : d.mgr = c.mgr
  onConnectCb : d.onConnectCb = c.onConnectCb

theorem disconnect_sameInit (c : Client)
    : SameInit c c.disconnect := by
  unfold disconnect
  cases c.fd <;> exact ⟨rfl, rfl, rfl⟩

theorem reconnect_sameInit (c : Client)
    : SameInit c c.reconnect := by
  have hsame := disconnect_sameInit c
  exact ⟨hsame.initialized, hsame.mgr, hsame.onConnectCb⟩

theorem evioCb_sameInit (M : MeshSync) (event : Event) (c : Client)
    : SameInit c (c.evioCb M event) := by
  cases event with
  | error => exact reconnect_sameInit c
  | recv bytes =>
    unfold evioCb
    dsimp only
    split
    . exact reconnect_sameInit c
    . exact ⟨rfl, rfl, rfl⟩

theorem taskConnect_sameInit {attempt : Attempt} {c d : Client} (hd : c.taskConnect attempt = some d)
    : SameInit c d := by
  unfold taskConnect at hd
  split at hd
  . injection hd with hd
    exact hd ▸ ⟨rfl, rfl, rfl⟩
  . injection hd with hd
    exact hd ▸ ⟨rfl, rfl, rfl⟩
  . split at hd
    . contradiction
    . injection hd with hd
      exact hd ▸ ⟨rfl, rfl, rfl⟩

theorem reconnect_toState (c : Client)
    : c.reconnect.toState = Sync.reconnect c.toState := by
  unfold reconnect disconnect
  cases c.fd <;> rfl

theorem evioCb_toState (c : Client) (M : MeshSync) (event : Event)
    : (c.evioCb M event).toState = Sync.evioCb M c.toState event := by
  cases event with
  | error => exact c.reconnect_toState
  | recv bytes =>
    unfold evioCb
    dsimp only
    split
    . next hzero =>
      rw [reconnect_toState]
      simp [Sync.evioCb, hzero]
    . rfl

/--
A client that is initialized is connected or is going to try, one that is not does neither. `sync_evio` waits
on the connection, and all descriptors but that one are closed, in the order in which they were opened.
-/
structure Sound (c : Client) : Prop where
  evio : c.evio = c.fd
  timer : c.timer = (c.initialized && c.fd.isNone)
  initialized : c.fd.isSome → c.initialized
  closed : c.opened = c.closed ++ c.fd.toList

structure Down (c : Client) : Prop where
  fd : c.fd = none
  evio : c.evio = none
  timer : c.timer = false
  closed : c.opened = c.closed

theorem start_sound : start.Sound where
  evio := rfl
  timer := rfl
  initialized := by simp [start]
  closed := rfl

theorem disconnect_fd (c : Client)
    : c.disconnect.fd = none := by
  unfold disconnect
  cases c.fd <;> rfl

theorem Sound.down {c : Client} (hs : c.Sound)
    : c.disconnect.Down := by
  have hclosed := hs.closed
  have hevio := hs.evio
  unfold disconnect
  cases hfd : c.fd with
  | none =>
    rw [hfd] at hclosed hevio
    exact { fd := rfl, evio := hevio, timer := rfl, closed := by simpa using hclosed }
  | some fd =>
    rw [hfd] at hclosed
    exact { fd := rfl, evio := rfl, timer := rfl, closed := hclosed }

theorem Down.sound_reconnect {c : Client} (hdown : c.Down) (hinit : c.initialized)
    : Sound { c with timer := true } where
  evio := by rw [hdown.evio, hdown.fd]
  timer := by simp [hinit, hdown.fd]
  initialized := by simp [hinit]
  closed := by simp [hdown.closed, hdown.fd]

theorem Sound.reconnect {c : Client} (hs : c.Sound) (hinit : c.initialized)
    : c.reconnect.Sound := by
  apply hs.down.sound_reconnect
  rw [(disconnect_sameInit c).initialized, hinit]

theorem Sound.init {c : Client} (hs : c.Sound) (mgr : Mgr) (onConnectCb : Bool)
    : (c.init mgr onConnectCb).Sound := by
  unfold Client.init
  split
  . exact hs
  . have hdown : (disconnect { c with onConnectCb := onConnectCb }).Down := by
      apply Sound.down
      exact ⟨hs.evio, hs.timer, hs.initialized, hs.closed⟩
    exact
      { evio := by rw [Client.reconnect, hdown.evio, hdown.fd]
        timer := by simp [Client.reconnect, hdown.fd]
        initialized := by simp
        closed := by simp [Client.reconnect, hdown.closed, hdown.fd]
      }

theorem Sound.cleanup {c : Client} (hs : c.Sound)
    : c.cleanup.Sound := by
  unfold Client.cleanup
  split
  . exact hs
  . have hdown := hs.down
    exact
      { evio := by rw [hdown.evio, hdown.fd]
        timer := by simp [hdown.timer]
        initialized := by simp [hdown.fd]
        closed := by simp [hdown.closed, hdown.fd]
      }

/-- The timer runs only where there is no connection, so `ev_io_init` gets a watcher that is stopped. -/
theorem Sound.taskConnect {c : Client} (hs : c.Sound) (htimer : c.timer) (attempt : Attempt)
    : ∃ d, c.taskConnect attempt = some d ∧ d.Sound := by
  have hboth : c.initialized ∧ c.fd = none := by
    rw [hs.timer] at htimer
    simpa using htimer
  have hevio : c.evio = none := by
    rw [hs.evio, hboth.2]
  have hclosed : c.opened = c.closed := by
    rw [hs.closed, hboth.2]
    simp
  cases attempt with
  | noSocket => exact ⟨c, rfl, hs⟩
  | refused fd =>
    refine ⟨_, rfl, ?_⟩
    exact
      { evio := hs.evio
        timer := hs.timer
        initialized := hs.initialized
        closed := by simp [Sync.taskConnect, hclosed, hboth.2]
      }
  | connected fd =>
    refine ⟨_, by rw [Client.taskConnect, hevio]; rfl, ?_⟩
    exact
      { evio := rfl
        timer := by simp [Sync.taskConnect]
        initialized := fun _ => hboth.1
        closed := by simp [Sync.taskConnect, hclosed]
      }

theorem evioCb_recv_frame (M : MeshSync) (s : State) {bytes : List UInt8} (hpos : bytes.length ≠ 0)
    : (Sync.evioCb M s (.recv bytes)).fd = s.fd ∧ (Sync.evioCb M s (.recv bytes)).timer = s.timer := by
  simp only [Sync.evioCb, hpos, ↓reduceIte]
  split
  . exact ⟨rfl, rfl⟩
  . split <;> exact ⟨rfl, rfl⟩

theorem Sound.evioCb {c : Client} (hs : c.Sound) (hevio : c.evio.isSome) (M : MeshSync) (event : Event)
    : (c.evioCb M event).Sound := by
  have hinit : c.initialized := by
    apply hs.initialized
    rw [← hs.evio]
    exact hevio
  cases event with
  | error => exact hs.reconnect hinit
  | recv bytes =>
    unfold Client.evioCb
    dsimp only
    split
    . exact hs.reconnect hinit
    . next hpos =>
      have hframe := evioCb_recv_frame M c.toState hpos
      exact
        { evio := by rw [hframe.1]; exact hs.evio
          timer := by rw [hframe.1, hframe.2]; exact hs.timer
          initialized := by rw [hframe.1]; exact hs.initialized
          closed := by rw [hframe.1]; exact hs.closed
        }

theorem sendMsg_frame (s : State) (msg : List UInt8) (sent : Nat)
    : (Sync.sendMsg s msg sent).1.fd = s.fd ∧ (Sync.sendMsg s msg sent).1.timer = s.timer := by
  unfold Sync.sendMsg
  split
  . exact ⟨rfl, rfl⟩
  . split <;> exact ⟨rfl, rfl⟩

theorem Sound.sendMsg {c : Client} (hs : c.Sound) (msg : List UInt8) (sent : Nat)
    : (c.sendMsg msg sent).1.Sound := by
  have hframe := sendMsg_frame c.toState msg sent
  exact
    { evio := by rw [Client.sendMsg, hframe.1]; exact hs.evio
      timer := by rw [Client.sendMsg, hframe.1, hframe.2]; exact hs.timer
      initialized := by rw [Client.sendMsg, hframe.1]; exact hs.initialized
      closed := by rw [Client.sendMsg, hframe.1]; exact hs.closed
    }

end Client
end Sync
end OpenSyncRdk
