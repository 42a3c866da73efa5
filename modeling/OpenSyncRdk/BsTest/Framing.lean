import Mathlib.Algebra.GroupWithZero.Nat
import OpenSyncRdk.Lib.Machine
import OpenSyncRdk.Lib.Terminated

/-!
A connection between `send_cmd` of `bs_cmd.c` and `parse_cmd` of `bs_testd.c`. The commands go over
without their terminators, and `parse_cmd` takes a command for complete when it finds a terminator after
the bytes that it has got so far.
-/

namespace OpenSyncRdk
namespace BsTest

def cmdBufSize : Nat := 1024

structure Command where
  text : CStr
  noNul : 0 ∉ text
  short : text.length < cmdBufSize

inductive ParseRet where
  | success
  | exit
  | error
  deriving DecidableEq

/-- What `parse_cmd` keeps while it loops. `buf` goes on after the end of the array. `accesses` are the
indices at which `buf` was read or written. -/
structure Parser where
  buf : Mem
  ptr : Nat
  totalBytes : Nat
  incomplete : Bool
  accesses : List Nat

inductive Parsed where
  | closed
  | malformed
  | incomplete
  | command (cmd : CStr)

def clear (buf : Mem) : Mem :=
  fun i => if i < cmdBufSize then 0 else buf i

def parseBytes (s : Parser) (bytes : List UInt8) : Parser × Parsed :=
  let s := if s.incomplete then s else { s with buf := clear s.buf }
  if bytes = [] then
    (s, .closed)
  else
    let s := { s with
      buf := s.buf.store s.ptr bytes
      totalBytes := s.totalBytes + bytes.length
      accesses := s.accesses ++ List.range' s.ptr bytes.length
    }
    let full := cmdBufSize ≤ s.totalBytes
    let s := { s with
      accesses := s.accesses ++ if full then [cmdBufSize - 1] else []
    }
    if full ∧ s.buf (cmdBufSize - 1) ≠ 0 then
      (s, .malformed)
    else
      let s := { s with
        accesses := s.accesses ++ [s.totalBytes]
      }
      if s.buf s.totalBytes ≠ 0 then
        ({ s with incomplete := true, ptr := s.ptr + bytes.length }, .incomplete)
      else
        let cmd := s.buf.str 0 s.totalBytes
        let s := { s with
          incomplete := false
          accesses := s.accesses ++ List.range (cmd.length + 1)
        }
        (s, .command cmd)

structure Conn where
  sent : List CStr
  -- on the way from `bs_cmd`
  stream : List UInt8
  closed : Bool
  parser : Parser
  executed : List CStr
  acks : List CStr
  result : Option ParseRet

def parseCmd (stack : Mem) : Conn :=
  { sent := []
    stream := []
    closed := false
    parser := { buf := stack, ptr := 0, totalBytes := 0, incomplete := false, accesses := [] }
    executed := []
    acks := []
    result := none
  }

def exitCmd : CStr := cstr "exit"

def sendCmd (cmd : Command) : List UInt8 :=
  cmd.text.take cmdBufSize

inductive Input where
  | send (cmd : Command)
  | close
  -- `ok` is whether `handle_cmd` returns `RETURN_OK` and `acked` whether `send_ack` can write, if it
  -- comes to that
  | read (bytes : Nat) (ok acked : Bool)
  | readFails

def readReturns (s : Conn) (bytes : Nat) : Prop :=
  bytes ≤ s.stream.length
    ∧ bytes ≤ cmdBufSize - s.parser.totalBytes
    ∧ (bytes = 0 → s.parser.totalBytes = cmdBufSize ∨ (s.closed ∧ s.stream = []))

instance (s : Conn) (bytes : Nat) : Decidable (readReturns s bytes) :=
  inferInstanceAs (Decidable (_ ∧ _ ∧ (_ → _)))

def takeParsed (s : Conn) (ok acked : Bool) : Parsed → Conn
  | .closed => { s with result := some .success }
  | .malformed => { s with result := some .error }
  | .incomplete => s
  | .command cmd =>
    let s := { s with executed := s.executed ++ [cmd] }
    if cmd = exitCmd then
      { s with result := some .exit }
    else if acked then
      { s with acks := s.acks ++ [if ok then cstr "RETURN_OK" else cstr "RETURN_ERROR"] }
    else
      { s with result := some .error }

def step (s : Conn) : Input → Option Conn
  | .send cmd =>
    if s.closed ∨ s.acks.length < s.sent.length then
      none
    else
      some { s with
        sent := s.sent ++ [cmd.text]
        stream := s.stream ++ sendCmd cmd
      }
  | .close => if s.closed then none else some { s with closed := true }
  | .read bytes ok acked =>
    if s.result ≠ none ∨ ¬readReturns s bytes then
      none
    else
      let (parser, parsed) := parseBytes s.parser (s.stream.take bytes)
      some (takeParsed { s with parser, stream := s.stream.drop bytes } ok acked parsed)
  | .readFails => if s.result ≠ none then none else some { s with result := some .error }

/-- Where nothing is on the way, what was sent is what was executed. `send_cmd` does not wait for `exit`
to be acknowledged. -/
structure Framed (s : Conn) : Prop where
  executed : s.executed <+: s.sent
  all : s.stream = [] → s.executed = s.sent
  acks : s.acks.length = (s.executed.filter (fun cmd => cmd ≠ exitCmd)).length
  inside : ∀ i ∈ s.parser.accesses, i < cmdBufSize

def Whole (s : Conn) : Input → Prop
  | .send cmd => cmd.text ≠ []
  | .read bytes _ acked =>
    bytes = s.stream.length
      ∧ (s.sent.map List.length).sum < cmdBufSize
      ∧ (s.stream = [] ∨ s.stream = exitCmd ∨ acked = true)
  | _ => True

theorem store_clear_get (buf : Mem) {bytes : List UInt8} {i : Nat} (hpast : bytes.length ≤ i)
    (hlt : i < cmdBufSize)
    : (clear buf).store 0 bytes i = 0 := by
  simp [Mem.store, clear, hpast, hlt]

theorem str_store_clear (buf : Mem) {bytes : List UInt8} {pad : Nat} (hnul : 0 ∉ bytes)
    (hroom : bytes.length + pad ≤ cmdBufSize)
    : ((clear buf).store 0 bytes).str 0 (bytes.length + pad) = bytes := by
  rw [Mem.str_eq_terminated _ 0 bytes (Nat.le_add_right _ pad), terminated_eq hnul]
  . intro idx hidx
    exact Mem.store_get _ 0 bytes hidx
  . intro hpad
    rw [Nat.zero_add]
    exact store_clear_get buf (Nat.le_refl _) (by omega)

structure Parser.Fresh (s : Parser) : Prop where
  ptr : s.ptr = 0
  incomplete : s.incomplete = false
  room : s.totalBytes < cmdBufSize

theorem parseBytes_command {s : Parser} (hfresh : s.Fresh) {bytes : List UInt8} (hne : bytes ≠ [])
    (hnul : 0 ∉ bytes) (hroom : s.totalBytes + bytes.length < cmdBufSize)
    : parseBytes s bytes
        =
      ({
        buf := (clear s.buf).store 0 bytes
        ptr := 0
        totalBytes := s.totalBytes + bytes.length
        incomplete := false
        accesses := s.accesses ++ List.range' 0 bytes.length ++ [s.totalBytes + bytes.length]
          ++ List.range (bytes.length + 1)
      }, .command bytes) := by
  have hnotfull : ¬cmdBufSize ≤ s.totalBytes + bytes.length := by
    omega
  have hend := store_clear_get s.buf (Nat.le_add_left bytes.length s.totalBytes) hroom
  have hstr : ((clear s.buf).store 0 bytes).str 0 (s.totalBytes + bytes.length) = bytes := by
    rw [Nat.add_comm]
    exact str_store_clear s.buf hnul (by omega)
  simp [parseBytes, hfresh.ptr, hfresh.incomplete, hne, hnotfull, hend, hstr]

theorem parseBytes_full {s : Parser} (hfresh : s.Fresh) {bytes : List UInt8} (hne : bytes ≠ [])
    (hshort : bytes.length < cmdBufSize) (hfull : s.totalBytes + bytes.length = cmdBufSize)
    : cmdBufSize ∈ (parseBytes s bytes).1.accesses := by
  have hlast : (clear s.buf).store 0 bytes (cmdBufSize - 1) = 0 :=
    store_clear_get s.buf (by omega) (by decide)
  by_cases hend : (clear s.buf).store 0 bytes cmdBufSize = 0
  . simp [parseBytes, hfresh.ptr, hfresh.incomplete, hne, hfull, hlast, hend]
  . simp [parseBytes, hfresh.ptr, hfresh.incomplete, hne, hfull, hlast, hend]

structure Steady (s : Conn) : Prop where
  flight : (s.stream = [] ∧ s.sent = s.executed)
    ∨ ∃ cmd : Command, cmd.text ≠ [] ∧ s.stream = cmd.text ∧ s.sent = s.executed ++ [cmd.text]
  acks : s.acks.length = (s.executed.filter (fun cmd => cmd ≠ exitCmd)).length
  fresh : s.parser.Fresh
  total : s.parser.totalBytes = (s.executed.map List.length).sum
  inside : ∀ i ∈ s.parser.accesses, i < cmdBufSize

theorem Steady.ended {s : Conn} (hsteady : Steady s) (closed : Bool) (result : Option ParseRet)
    : Steady { s with closed, result } :=
  ⟨hsteady.flight, hsteady.acks, hsteady.fresh, hsteady.total, hsteady.inside⟩

theorem Steady.framed {s : Conn} (hsteady : Steady s)
    : Framed s := by
  constructor
  case executed =>
    rcases hsteady.flight with ⟨_, hsent⟩ | ⟨cmd, _, _, hsent⟩
    . rw [hsent]
    . rw [hsent]
      exact List.prefix_append _ _
  case all =>
    intro hempty
    rcases hsteady.flight with ⟨_, hsent⟩ | ⟨cmd, hne, hstream, _⟩
    . exact hsent.symm
    . rw [hempty] at hstream
      exact absurd hstream.symm hne
  case acks => exact hsteady.acks
  case inside => exact hsteady.inside

theorem sendCmd_eq (cmd : Command)
    : sendCmd cmd = cmd.text := by
  exact List.take_of_length_le (Nat.le_of_lt cmd.short)

theorem Steady.send {s t : Conn} {cmd : Command} (hsteady : Steady s) (hstep : step s (.send cmd) = some t)
    : s.stream = [] ∧ s.sent = s.executed
        ∧ t = { s with sent := s.sent ++ [cmd.text], stream := cmd.text } := by
  simp only [step] at hstep
  split at hstep
  . contradiction
  . next hacked =>
    injection hstep with hstep
    rw [not_or] at hacked
    rcases hsteady.flight with ⟨hempty, hsent⟩ | ⟨_, _, _, hsent⟩
    . refine ⟨hempty, hsent, ?_⟩
      rw [← hstep, hempty, sendCmd_eq, List.nil_append]
    . have hfilter := List.length_filter_le (fun cmd => cmd ≠ exitCmd) s.executed
      have hlength := congrArg List.length hsent
      rw [List.length_append, List.length_singleton] at hlength
      have := hsteady.acks
      omega

theorem parser_takeParsed (s : Conn) (ok acked : Bool) (parsed : Parsed)
    : (takeParsed s ok acked parsed).parser = s.parser := by
  unfold takeParsed
  split
  . rfl
  . rfl
  . rfl
  . split
    . rfl
    . split <;> rfl

theorem stream_takeParsed (s : Conn) (ok acked : Bool) (cmd : CStr)
    : (takeParsed s ok acked (.command cmd)).stream = s.stream := by
  simp only [takeParsed]
  split
  . rfl
  . split <;> rfl

theorem sent_takeParsed (s : Conn) (ok acked : Bool) (cmd : CStr)
    : (takeParsed s ok acked (.command cmd)).sent = s.sent := by
  simp only [takeParsed]
  split
  . rfl
  . split <;> rfl

theorem executed_takeParsed (s : Conn) (ok acked : Bool) (cmd : CStr)
    : (takeParsed s ok acked (.command cmd)).executed = s.executed ++ [cmd] := by
  simp only [takeParsed]
  split
  . rfl
  . split <;> rfl

theorem acks_takeParsed_iff {s : Conn} {cmd : CStr} {ok acked : Bool}
    (hacks : s.acks.length = (s.executed.filter (fun cmd => cmd ≠ exitCmd)).length)
    : (takeParsed s ok acked (.command cmd)).acks.length
          = ((takeParsed s ok acked (.command cmd)).executed.filter (fun cmd => cmd ≠ exitCmd)).length
        ↔
      cmd = exitCmd ∨ acked = true := by
  by_cases hexit : cmd = exitCmd
  . simp [takeParsed, hexit, hacks]
  . cases acked with
    | true => simp [takeParsed, hexit, hacks]
    | false => simp [takeParsed, hexit, hacks]

theorem Steady.read {s t : Conn} {bytes : Nat} {ok acked : Bool} (hsteady : Steady s)
    (hstep : step s (.read bytes ok acked) = some t)
    : (s.stream = [] ∧ bytes = 0 ∧ t = { s with
          parser := { s.parser with buf := clear s.parser.buf }
          result := some .success
        })
      ∨ (∃ cmd : Command, s.stream = cmd.text ∧ s.sent = s.executed ++ [cmd.text]
        ∧ cmd.text.take bytes ≠ []
        ∧ bytes ≤ cmd.text.length
        ∧ s.parser.totalBytes + bytes ≤ cmdBufSize
        ∧ t = takeParsed { s with
              parser := (parseBytes s.parser (cmd.text.take bytes)).1
              stream := cmd.text.drop bytes
            } ok acked (parseBytes s.parser (cmd.text.take bytes)).2) := by
  simp only [step] at hstep
  split at hstep
  . contradiction
  . next hreturns =>
    injection hstep with hstep
    rw [not_or, not_not, not_not] at hreturns
    have ⟨_, hle, hroom, hzero⟩ := hreturns
    have hfresh := hsteady.fresh
    have htotal := hfresh.room
    rcases hsteady.flight with ⟨hempty, _⟩ | ⟨cmd, hne, hstream, hsent⟩
    . left
      rw [hempty, List.length_nil, Nat.le_zero] at hle
      refine ⟨hempty, hle, ?_⟩
      rw [← hstep, hempty]
      simp [parseBytes, hfresh.incomplete, takeParsed]
    . right
      rw [hstream] at hle hzero hstep
      have hpos : 0 < bytes := by
        by_contra hnone
        rcases hzero (by omega) with hfull | ⟨_, hnil⟩
        . omega
        . exact hne hnil
      refine ⟨cmd, hstream, hsent, ?_, hle, by omega, hstep.symm⟩
      have hlength := List.length_take_of_le hle
      exact List.ne_nil_of_length_pos (by omega)

theorem Steady.step_whole {s t : Conn} {input : Input} (hsteady : Steady s) (hstep : step s input = some t)
    (hwhole : Whole s input)
    : Steady t := by
  cases input with
  | send cmd =>
    have ⟨_, hsent, ht⟩ := hsteady.send hstep
    rw [ht]
    constructor
    case flight => exact Or.inr ⟨cmd, hwhole, rfl, by rw [hsent]⟩
    case acks => exact hsteady.acks
    case fresh => exact hsteady.fresh
    case total => exact hsteady.total
    case inside => exact hsteady.inside
  | close =>
    simp only [step] at hstep
    split at hstep
    . contradiction
    . injection hstep with hstep
      rw [← hstep]
      exact hsteady.ended true s.result
  | readFails =>
    simp only [step] at hstep
    split at hstep
    . contradiction
    . injection hstep with hstep
      rw [← hstep]
      exact hsteady.ended s.closed (some .error)
  | read bytes ok acked =>
    have ⟨hbytes, hsum, hacked⟩ := hwhole
    rcases hsteady.read hstep with ⟨_, _, ht⟩ | ⟨cmd, hstream, hsent, hne, hle, _, ht⟩
    . rw [ht]
      have hfresh := hsteady.fresh
      exact ⟨hsteady.flight, hsteady.acks, ⟨hfresh.ptr, hfresh.incomplete, hfresh.room⟩, hsteady.total,
        hsteady.inside⟩
    . rw [hstream] at hbytes
      rw [hsent, List.map_append, List.sum_append, ← hsteady.total, List.map_singleton,
        List.sum_singleton] at hsum
      rw [hbytes, List.take_length, List.drop_length] at ht
      rw [hbytes, List.take_length] at hne
      rw [hstream] at hacked
      rw [parseBytes_command hsteady.fresh hne cmd.noNul hsum] at ht
      rw [ht]
      constructor
      case flight =>
        left
        rw [stream_takeParsed, sent_takeParsed, executed_takeParsed]
        exact ⟨rfl, hsent⟩
      case acks =>
        refine (acks_takeParsed_iff ?_).mpr (hacked.resolve_left hne)
        exact hsteady.acks
      case fresh =>
        rw [parser_takeParsed]
        exact ⟨rfl, rfl, hsum⟩
      case total =>
        rw [parser_takeParsed, executed_takeParsed, List.map_append, List.sum_append, ← hsteady.total,
          List.map_singleton, List.sum_singleton]
      case inside =>
        rw [parser_takeParsed]
        intro i hi
        simp only [List.mem_append, List.mem_range'_1, List.mem_singleton, List.mem_range] at hi
        rcases hi with ((hi | hi) | hi) | hi
        . exact hsteady.inside i hi
        . omega
        . omega
        . omega

theorem Steady.whole_of_framed {s t : Conn} {input : Input} (hsteady : Steady s)
    (hstep : step s input = some t) (hframed : Framed t)
    : Whole s input := by
  cases input with
  | send cmd =>
    have ⟨_, hsent, ht⟩ := hsteady.send hstep
    intro hempty
    have hall := hframed.all
    rw [ht] at hall
    have hlength := congrArg List.length (hall hempty)
    simp only [hsent, List.length_append, List.length_singleton] at hlength
    omega
  | close => trivial
  | readFails => trivial
  | read bytes ok acked =>
    rcases hsteady.read hstep with ⟨hempty, hzero, _⟩ | ⟨cmd, hstream, hsent, hne, hle, hroom, ht⟩
    . have hsent := hsteady.framed.all hempty
      have hroom := hsteady.fresh.room
      rw [hsteady.total, hsent] at hroom
      exact ⟨by rw [hzero, hempty, List.length_nil], hroom, .inl hempty⟩
    . have hlength := List.length_take_of_le hle
      have hnul : 0 ∉ cmd.text.take bytes := fun hmem => cmd.noNul (List.mem_of_mem_take hmem)
      rcases Nat.lt_or_eq_of_le hroom with hlt | hfull
      . rw [parseBytes_command hsteady.fresh hne hnul (by omega)] at ht
        have hexecuted := hframed.executed
        rw [ht, executed_takeParsed, sent_takeParsed] at hexecuted
        dsimp only at hexecuted
        rw [hsent, List.prefix_append_right_inj] at hexecuted
        have htext := List.head_eq_of_cons_eq (hexecuted.eq_of_length rfl)
        have hacks := hframed.acks
        rw [ht] at hacks
        have hacked := (acks_takeParsed_iff (by exact hsteady.acks)).mp hacks
        rw [htext] at hlength hacked
        refine ⟨by rw [hstream, hlength], ?_, .inr (hstream ▸ hacked)⟩
        rw [hsent, List.map_append, List.sum_append, ← hsteady.total, List.map_singleton,
          List.sum_singleton]
        omega
      . have hbeyond := hframed.inside
        rw [ht, parser_takeParsed] at hbeyond
        have hmem := parseBytes_full hsteady.fresh hne (by have := cmd.short; omega) (by omega)
        exact absurd (hbeyond cmdBufSize hmem) (Nat.lt_irrefl cmdBufSize)

theorem steady_parseCmd (stack : Mem)
    : Steady (parseCmd stack) := by
  constructor
  case flight => exact Or.inl ⟨rfl, rfl⟩
  case acks => rfl
  case fresh =>
    have hroom : 0 < cmdBufSize := by decide
    exact ⟨rfl, rfl, hroom⟩
  case total => rfl
  case inside => simp [parseCmd]

theorem parse_cmd_framed_iff (stack : Mem) (inputs : List Input) (s : Conn)
    (hrun : Machine.run step (parseCmd stack) inputs = some s)
    : Machine.Everywhere step Framed (parseCmd stack) inputs
        ↔
      Machine.AllSteps step Whole (parseCmd stack) inputs := by
  have hsteady := steady_parseCmd stack
  refine Machine.everywhere_iff_allSteps (I := Steady) ?_ ?_ hsteady hsteady.framed hrun
  . intro s input t hsteady hstep
    constructor
    . exact hsteady.whole_of_framed hstep
    . intro hwhole
      exact (hsteady.step_whole hstep hwhole).framed
  . intro s input t hsteady hstep hwhole
    exact hsteady.step_whole hstep hwhole

def eventRegister : Command :=
  { text := cstr "wifi_steering_eventRegister"
    noNul := by decide
    short := by decide
  }

/-- The first half of a command is executed and acknowledged like a command of its own, and since
`dispatch_cmd` returns `false` for a command it does not know, it is acknowledged with success. -/
theorem parse_cmd_executes_piece
    : ∃ s, Machine.run step (parseCmd (fun _ => 0)) [.send eventRegister, .read 13 true true] = some s
        ∧ s.executed = [cstr "wifi_steering"]
        ∧ s.acks = [cstr "RETURN_OK"]
        ∧ ¬Framed s := by
  refine ⟨_, rfl, rfl, rfl, ?_⟩
  intro hframed
  have hexecuted := hframed.executed
  revert hexecuted
  decide

theorem parse_cmd_framed_iff_register
    : Machine.Everywhere step Framed (parseCmd (fun _ => 0))
        [.send eventRegister, .read 27 true true, .close] := by
  have hrun : ∃ s, Machine.run step (parseCmd (fun _ => 0))
      [.send eventRegister, .read 27 true true, .close] = some s := ⟨_, rfl⟩
  rcases hrun with ⟨s, hrun⟩
  apply (parse_cmd_framed_iff _ _ s hrun).mpr
  refine (Machine.allSteps_cons rfl _).mpr ⟨List.cons_ne_nil _ _, ?_⟩
  refine (Machine.allSteps_cons rfl _).mpr ⟨⟨rfl, by decide, .inr (.inr rfl)⟩, ?_⟩
  refine (Machine.allSteps_cons rfl _).mpr ⟨trivial, ?_⟩
  exact Machine.allSteps_nil _

end BsTest
end OpenSyncRdk
