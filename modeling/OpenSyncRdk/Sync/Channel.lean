import Mathlib.Data.List.TakeDrop
import OpenSyncRdk.Lib.Bytes
import OpenSyncRdk.Lib.Machine
import OpenSyncRdk.Lib.Pieces

/-!
The connection to the Mesh-Agent, `sync.c`. Its messages are structs of one size on a stream socket.
What is in them is up to `sync_process_msg`, so a `MeshSync` is only the size of the struct, how the
type is read from it, and the number of types.
-/

namespace OpenSyncRdk
namespace Sync

structure MeshSync where
  size : Nat
  size_pos : 0 < size
  msgType : List UInt8 → Nat
  total : Nat

def MeshSync.known (M : MeshSync) (msg : List UInt8) : Bool :=
  decide (M.msgType msg < M.total)

structure State where
  -- `none` for -1
  fd : Option Nat
  timer : Bool
  processed : List (List UInt8)
  wire : List UInt8
  accepted : List (List UInt8)

def taskConnect (s : State) (socket : Option Nat) : State :=
  match socket with
  | none => s
  | some fd => { fd := some fd, timer := false, processed := [], wire := [], accepted := [] }

def disconnect (s : State) : State :=
  { s with timer := false, fd := none }

def reconnect (s : State) : State :=
  { disconnect s with timer := true }

inductive Event where
  | error
  -- or a failure, if there are no bytes
  | recv (bytes : List UInt8)

def evioCb (M : MeshSync) (s : State) : Event → State
  | .error => reconnect s
  | .recv bytes =>
    if bytes.length = 0 then
      reconnect s
    else if bytes.length ≠ M.size then
      s
    else if M.total ≤ M.msgType bytes then
      s
    else
      { s with processed := s.processed ++ [bytes] }

-- a `send` that takes 0 bytes is one that fails
def sendMsg (s : State) (msg : List UInt8) (sent : Nat) : State × Bool :=
  match s.fd with
  | none => (s, false)
  | some _ =>
    if sent = 0 then
      (s, false)
    else
      ({ s with wire := s.wire ++ msg.take sent, accepted := s.accepted ++ [msg] }, true)

def connected (fd : Nat) : State :=
  taskConnect { fd := none, timer := true, processed := [], wire := [], accepted := [] } (some fd)

def received (M : MeshSync) (fd : Nat) (results : List (List UInt8)) : List (List UInt8) :=
  ((results.map Event.recv).foldl (evioCb M) (connected fd)).processed

structure SendCall (M : MeshSync) where
  msg : List UInt8
  msg_size : msg.length = M.size
  sent : Nat

def sendStep (s : State) (call : SendCall M) : Option State :=
  some (sendMsg s call.msg call.sent).1

def WireWhole (s : State) : Prop :=
  s.wire = s.accepted.flatten

def SendOk (s : State) (call : SendCall M) : Prop :=
  s.fd.isSome → call.sent ≠ 0 → M.size ≤ call.sent

theorem foldl_evioCb (M : MeshSync) (s : State) {results : List (List UInt8)}
    (hpos : ∀ bytes ∈ results, bytes.length ≠ 0)
    : ((results.map Event.recv).foldl (evioCb M) s).processed
        =
      s.processed ++ (results.filter (fun bytes => bytes.length == M.size)).filter M.known := by
  induction results generalizing s with
  | nil => simp
  | cons bytes results ih =>
    have hbytes := hpos bytes (by simp)
    rw [List.map_cons, List.foldl_cons]
    rw [ih _ (fun bytes hmem => hpos bytes (by simp [hmem]))]
    simp only [evioCb, hbytes, ↓reduceIte]
    split
    . next hsize => simp [hsize]
    . next hsize =>
      rw [ne_eq, Decidable.not_not] at hsize
      split
      . next htype => simp [hsize, MeshSync.known, Nat.not_lt.mpr htype]
      . next htype => simp [hsize, MeshSync.known, Nat.lt_of_not_le htype]

theorem received_eq (M : MeshSync) (fd : Nat) {results : List (List UInt8)}
    (hpos : ∀ bytes ∈ results, bytes.length ≠ 0)
    : received M fd results
        =
      (results.filter (fun bytes => bytes.length == M.size)).filter M.known := by
  unfold received
  rw [foldl_evioCb M _ hpos]
  rfl

section

variable {M : MeshSync} {cuts : List Nat} {msgs : List (List UInt8)}

theorem piece_pos (hcut : RecordCut M.size count cuts) (hsum : cuts.sum ≤ data.length)
    : ∀ bytes ∈ pieces cuts data, bytes.length ≠ 0 := by
  intro bytes hmem
  have hlen : bytes.length ∈ cuts := by
    rw [← pieces_lengths cuts data hsum]
    apply List.mem_map_of_mem hmem
  have := hcut.pos _ hlen
  omega

theorem sum_eq (hcut : RecordCut M.size msgs.length cuts)
    (hsize : ∀ msg ∈ msgs, msg.length = M.size)
    : cuts.sum = msgs.flatten.length := by
  rw [hcut.sum, length_records msgs hsize]

theorem received_full (fd : Nat) (hcut : RecordCut M.size msgs.length cuts)
    (hsize : ∀ msg ∈ msgs, msg.length = M.size) (hfull : ∀ cut ∈ cuts, cut = M.size)
    : received M fd (pieces cuts msgs.flatten) = msgs.filter M.known := by
  rw [received_eq M fd (piece_pos hcut (Nat.le_of_eq (sum_eq hcut hsize)))]
  rw [hcut.eq_replicate M.size_pos hfull, pieces_records msgs hsize]
  have hall : msgs.filter (fun bytes => bytes.length == M.size) = msgs := by
    rw [List.filter_eq_self]
    intro msg hmem
    simp [hsize msg hmem]
  rw [hall]

theorem received_length_lt (fd : Nat) (hcut : RecordCut M.size msgs.length cuts)
    (hsize : ∀ msg ∈ msgs, msg.length = M.size) (hshort : ∃ cut ∈ cuts, cut ≠ M.size)
    : (received M fd (pieces cuts msgs.flatten)).length < msgs.length := by
  have hsum := Nat.le_of_eq (sum_eq hcut hsize)
  have hcount := hcut.count_lt hshort
  rw [received_eq M fd (piece_pos hcut hsum)]
  apply Nat.lt_of_le_of_lt (List.length_filter_le _ _)
  rw [length_filter_pieces cuts _ _ hsum]
  exact hcount

theorem sendStep_wireWhole_iff (s : State) (call : SendCall M) (hs : WireWhole s)
    : (∃ t, sendStep s call = some t ∧ WireWhole t) ↔ SendOk s call := by
  unfold WireWhole at *
  simp only [sendStep, Option.some.injEq, exists_eq_left', sendMsg, SendOk]
  cases hfd : s.fd with
  | none => simp [hs]
  | some fd =>
    by_cases hsent : call.sent = 0
    . simp [hsent, hs]
    . simp only [hsent, ↓reduceIte, Option.isSome_some, ne_eq, not_false_eq_true, true_implies]
      rw [List.flatten_append, ← hs, List.append_right_inj, List.flatten_singleton]
      rw [List.take_eq_self_iff, call.msg_size]

theorem received_known_iff (fd : Nat) (hcut : RecordCut M.size msgs.length cuts)
    (hsize : ∀ msg ∈ msgs, msg.length = M.size) (hknown : ∀ msg ∈ msgs, M.known msg)
    : received M fd (pieces cuts msgs.flatten) = msgs ↔ ∀ cut ∈ cuts, cut = M.size := by
  constructor
  . intro heq cut hmem
    apply Decidable.byContradiction
    intro hshort
    have hlt := received_length_lt fd hcut hsize ⟨cut, hmem, hshort⟩
    rw [heq] at hlt
    omega
  . intro hfull
    rw [received_full fd hcut hsize hfull]
    rw [List.filter_eq_self]
    exact hknown

end

theorem framing_iff (M : MeshSync) (hknown : ∃ msg, msg.length = M.size ∧ M.known msg) (fd : Nat)
    : (∀ count cuts, RecordCut M.size count cuts
        → ((∀ msgs : List (List UInt8), msgs.length = count → (∀ msg ∈ msgs, msg.length = M.size)
              → received M fd (pieces cuts msgs.flatten) = msgs.filter M.known)
            ↔
          ∀ cut ∈ cuts, cut = M.size))
      ∧ (∀ (msgs : List (List UInt8)) cuts, RecordCut M.size msgs.length cuts
        → (∀ msg ∈ msgs, msg.length = M.size)
        → (∀ msg ∈ msgs, M.known msg)
        → (received M fd (pieces cuts msgs.flatten) = msgs.filter M.known
            ↔
          ∀ cut ∈ cuts, cut = M.size))
      ∧ ∀ calls : List (SendCall M),
        Machine.Always sendStep WireWhole (connected fd) calls
          ↔
        Machine.AllSteps sendStep SendOk (connected fd) calls := by
  refine ⟨?_, ?_, ?_⟩
  . intro count cuts hcut
    constructor
    . intro hall
      -- A sequence of known types needs the full pieces, so it stands for all others.
      rcases hknown with ⟨msg, hsize, hknown⟩
      have hrepl : ∀ other ∈ List.replicate count msg, other = msg := by
        intro other hmem
        apply List.eq_of_mem_replicate hmem
      have hsizes : ∀ other ∈ List.replicate count msg, other.length = M.size := by
        intro other hmem
        rw [hrepl other hmem, hsize]
      have hknowns : ∀ other ∈ List.replicate count msg, M.known other := by
        intro other hmem
        rw [hrepl other hmem, hknown]
      have heq := hall (List.replicate count msg) List.length_replicate hsizes
      rw [List.filter_eq_self.mpr hknowns] at heq
      rw [← List.length_replicate (n := count) (a := msg)] at hcut
      exact (received_known_iff fd hcut hsizes hknowns).mp heq
    . intro hfull msgs hlen hsize
      rw [← hlen] at hcut
      apply received_full fd hcut hsize hfull
  . intro msgs cuts hcut hsize hknown
    rw [List.filter_eq_self.mpr hknown]
    apply received_known_iff fd hcut hsize hknown
  . intro calls
    apply Machine.always_iff_allSteps
    . intro s call hs
      apply sendStep_wireWhole_iff s call hs
    . rfl

theorem framing_iff_bytes
    : let M : MeshSync := { size := 4, size_pos := by decide
                            msgType := fun msg => (msg.headD 0).toNat, total := 22 }
      received M 7 [[1, 0, 0, 0], [21, 0, 0, 0]] = [[1, 0, 0, 0], [21, 0, 0, 0]] := by
  intro M
  have hframing := (framing_iff M ⟨[1, 0, 0, 0], by decide⟩ 7).2.1 [[1, 0, 0, 0], [21, 0, 0, 0]] [4, 4]
    ⟨by decide, by decide, by decide⟩ (by decide) (by decide)
  exact hframing.mpr (by decide)

theorem not_framing_pieces
    : let M : MeshSync := { size := 4, size_pos := by decide
                            msgType := fun msg => (msg.headD 0).toNat, total := 22 }
      ¬(∀ (msgs : List (List UInt8)) cuts, RecordCut M.size msgs.length cuts
          → (∀ msg ∈ msgs, msg.length = M.size)
          → received M 7 (pieces cuts msgs.flatten) = msgs.filter M.known)
        ∧ ¬∀ calls : List (SendCall M), Machine.Always sendStep WireWhole (connected 7) calls := by
  intro M
  constructor
  . intro hall
    have heq := hall [[1, 0, 0, 0]] [2, 2] ⟨by decide, by decide, by decide⟩ (by decide)
    exact absurd heq (by decide)
  . intro hall
    have ⟨t, ht, hwhole⟩ := hall [{ msg := [1, 0, 0, 0], msg_size := rfl, sent := 3 }] _
      List.prefix_rfl
    injection ht with ht
    rw [← ht, WireWhole] at hwhole
    exact absurd hwhole (by decide)

end Sync
end OpenSyncRdk
