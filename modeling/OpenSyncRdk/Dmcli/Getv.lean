import Mathlib.Data.List.DropRight
import OpenSyncRdk.Lib.Lines
import OpenSyncRdk.Lib.Terminated

/-!
`dmcli.c`: a value of the data model, read from the output of a command into the array of a caller and
trimmed there. The index of the last character is a `size_t`, also when there is no character.
-/

namespace OpenSyncRdk
namespace Dmcli

def dmcliMaxPath : Nat := 128

def dmcliErtMaxCmd : Nat := dmcliMaxPath + 70

def dmcliErtCmd (path : CStr) : CStr :=
  cstr "/usr/bin/dmcli eRT getv " ++ path ++ cstr " | grep value | ( read a b c d e; echo $e )"

structure Dest where
  addr : Nat
  size : Nat
  notNull : 0 < addr
  inSpace : addr + size ≤ 2 ^ 64

def Dest.str (dest : Dest) (mem : Mem) : CStr :=
  mem.str dest.addr dest.size

def Dest.index (dest : Dest) (idx : Nat) : Nat :=
  (dest.addr + idx) % 2 ^ 64

def Dest.last (dest : Dest) (mem : Mem) : Nat :=
  dest.index (sizeT ((dest.str mem).length - 1))

def isEol (c : UInt8) : Bool :=
  c = 13 || c = 10

/-- The condition of the loop has looked at the last character once if it is a `\r`, and else twice. -/
def Dest.looks (dest : Dest) (mem : Mem) : List Nat :=
  let last := dest.last mem
  if mem last = 13 then [last] else [last, last]

structure Trim where
  mem : Mem
  indexed : List Nat

/-- Without a last character the byte in front of the array is taken for it. -/
theorem Dest.last_cases (dest : Dest) (mem : Mem)
    : (dest.str mem = [] ∧ dest.last mem = dest.addr - 1)
        ∨ ∃ line, dest.str mem = line ++ [mem (dest.last mem)]
            ∧ dest.last mem = dest.addr + line.length := by
  have := dest.notNull
  have := dest.inSpace
  rcases List.eq_nil_or_concat (dest.str mem) with hnil | ⟨line, c, hline⟩
  . left
    refine ⟨hnil, ?_⟩
    unfold last index sizeT
    rw [hnil, List.length_nil]
    omega
  . right
    have hlength : (dest.str mem).length = line.length + 1 := by
      rw [hline, List.length_concat]
    have hlast : dest.last mem = dest.addr + line.length := by
      have := mem.length_str_le dest.addr dest.size
      unfold last index sizeT
      unfold str at hlength ⊢
      omega
    have hget := mem.str_get dest.addr dest.size line.length (by unfold str at hlength; omega)
    unfold str at hline ⊢
    rw [List.concat_eq_append] at hline
    simp only [hline, List.getElem_concat_length] at hget
    rw [hlast, ← hget]
    exact ⟨line, hline, rfl⟩

theorem Dest.str_cut (dest : Dest) (mem : Mem)
    : dest.str (mem.store (dest.last mem) [0]) = (dest.str mem).dropLast := by
  rcases dest.last_cases mem with ⟨hnil, hlast⟩ | ⟨line, hline, hlast⟩
  . have := dest.notNull
    rw [hlast, hnil, List.dropLast_nil]
    exact (mem.str_store_front (by omega) 0 dest.size).trans hnil
  . have hlength : (dest.str mem).length = line.length + 1 := by
      rw [hline, List.length_append, List.length_singleton]
    have hcut := mem.str_store_nul dest.addr dest.size line.length (by unfold str at hlength; omega)
    rw [hlast, List.dropLast_eq_take, hlength]
    exact hcut

def Dest.left (dest : Dest) (mem : Mem) : Nat :=
  (dest.str mem).length + if mem (dest.addr - 1) = 0 then 0 else 1

theorem Dest.left_cut_lt {dest : Dest} {mem : Mem} (heol : isEol (mem (dest.last mem)) = true)
    : dest.left (mem.store (dest.last mem) [0]) < dest.left mem := by
  unfold left
  rw [dest.str_cut, List.length_dropLast]
  rcases dest.last_cases mem with ⟨hnil, hlast⟩ | ⟨line, hline, hlast⟩
  . have hbyte : mem (dest.addr - 1) ≠ 0 := by
      intro hzero
      rw [hlast, hzero] at heol
      contradiction
    have hcut : mem.store (dest.last mem) [0] (dest.addr - 1) = 0 := by
      rw [hlast]
      simp [Mem.store]
    simp [hnil, hbyte, hcut]
  . have hkept : mem.store (dest.last mem) [0] (dest.addr - 1) = mem (dest.addr - 1) := by
      have hfront : ¬dest.last mem ≤ dest.addr - 1 := by
        have := dest.notNull
        omega
      rw [Mem.store, if_neg hfront]
    rw [hkept, hline, List.length_append, List.length_singleton]
    omega

def trimLoop (dest : Dest) (s : Trim) : Trim :=
  let last := dest.last s.mem
  let indexed := s.indexed ++ dest.looks s.mem
  if _ : isEol (s.mem last) then
    trimLoop dest { mem := s.mem.store last [0], indexed := indexed ++ [last] }
  else
    { s with indexed }
termination_by dest.left s.mem
decreasing_by exact Dest.left_cut_lt ‹_›

/-- `fgets` gets the size as an `int`. -/
def fgetsDest (destsz : Nat) (output : CStr) : Option CStr :=
  let size := cInt destsz
  if size ≤ 0 then
    none
  else if size = 1 then
    -- nothing is read, not even the end of the output
    some []
  else
    (fgets size.toNat output).map Prod.fst

/-- What `fgets` leaves in `dest` in front of the terminator, if it comes to that. `popen` says what a
command prints. -/
def valueLine (popen : CStr → Option CStr) (path : CStr) (destsz : Nat) : Option CStr :=
  if path.length > dmcliMaxPath then
    none
  else if (dmcliErtCmd path).length ≥ dmcliErtMaxCmd - 1 then
    none
  else
    (popen (dmcliErtCmd path)).bind (fgetsDest destsz)

structure Getv extends Trim where
  ret : Bool

def dmcliErtGetv (popen : CStr → Option CStr) (path : CStr) (dest : Dest) (emptyOk : Bool) (mem : Mem)
    : Getv :=
  match valueLine popen path dest.size with
  | none => { mem, indexed := [], ret := false }
  | some line =>
    let s := trimLoop dest { mem := mem.store dest.addr (line ++ [0]), indexed := [] }
    if ¬emptyOk ∧ (dest.str s.mem).length = 0 then
      { s with ret := false }
    else
      { s with ret := true }

def Dest.Inside (dest : Dest) (indexed : List Nat) : Prop :=
  ∀ addr ∈ indexed, dest.addr ≤ addr

structure Getv.Trims (dest : Dest) (line : CStr) (emptyOk : Bool) (res : Getv) : Prop where
  inside : dest.Inside res.indexed
  trimmed : dest.str res.mem = line.rdropWhile isEol
  ret : res.ret = true ↔ dest.str res.mem ≠ [] ∨ emptyOk = true

theorem trimLoop_str (dest : Dest) (s : Trim)
    : dest.str (trimLoop dest s).mem = (dest.str s.mem).rdropWhile isEol := by
  fun_induction trimLoop dest s with
  | case1 s last indexed heol ih =>
    rw [ih, dest.str_cut]
    rcases dest.last_cases s.mem with ⟨hnil, _⟩ | ⟨line, hline, _⟩
    . rw [hnil, List.dropLast_nil]
    . rw [hline, List.dropLast_concat, List.rdropWhile_concat_pos _ _ _ heol]
  | case2 s last indexed heol =>
    rcases dest.last_cases s.mem with ⟨hnil, _⟩ | ⟨line, hline, _⟩
    . rw [hnil, List.rdropWhile_nil]
    . rw [hline, List.rdropWhile_concat_neg _ _ _ heol]

theorem last_inside_iff (dest : Dest) (mem : Mem)
    : dest.addr ≤ dest.last mem ↔ dest.str mem ≠ [] := by
  rcases dest.last_cases mem with ⟨hnil, hlast⟩ | ⟨line, hline, hlast⟩
  . have := dest.notNull
    rw [hnil, hlast]
    simp only [ne_eq, not_true_eq_false, iff_false]
    omega
  . rw [hline, hlast]
    simp

theorem looks_inside_iff (dest : Dest) (mem : Mem)
    : dest.Inside (dest.looks mem) ↔ dest.str mem ≠ [] := by
  rw [← last_inside_iff]
  unfold Dest.Inside Dest.looks
  dsimp only
  split
  . simp
  . simp

theorem inside_append_iff (dest : Dest) (lhs rhs : List Nat)
    : dest.Inside (lhs ++ rhs) ↔ dest.Inside lhs ∧ dest.Inside rhs := by
  unfold Dest.Inside
  exact List.forall_mem_append

theorem trimLoop_inside_iff (dest : Dest) (s : Trim)
    : dest.Inside (trimLoop dest s).indexed
        ↔
      dest.Inside s.indexed ∧ ∃ c ∈ dest.str s.mem, isEol c = false := by
  fun_induction trimLoop dest s with
  | case1 s last indexed heol ih =>
    have hlast : dest.Inside [last] ↔ dest.str s.mem ≠ [] := by
      rw [← last_inside_iff]
      unfold Dest.Inside
      exact List.forall_mem_singleton
    rw [ih]
    dsimp only
    rw [dest.str_cut, inside_append_iff, inside_append_iff, looks_inside_iff, hlast, and_assoc,
      and_assoc, and_congr_right_iff]
    intro _
    rcases dest.last_cases s.mem with ⟨hnil, _⟩ | ⟨line, hline, _⟩
    . simp [hnil]
    . have hlast : isEol (s.mem (dest.last s.mem)) = true := heol
      rw [hline, List.dropLast_concat]
      simp [hlast]
  | case2 s last indexed heol =>
    rw [inside_append_iff, looks_inside_iff, and_congr_right_iff]
    intro _
    rcases dest.last_cases s.mem with ⟨hnil, _⟩ | ⟨line, hline, _⟩
    . simp [hnil]
    . have hlast : isEol (s.mem (dest.last s.mem)) = false := eq_false_of_ne_true heol
      refine iff_of_true ?_ ⟨_, ?_, hlast⟩
      . simp [hline]
      . rw [hline]
        exact List.mem_concat_self

theorem fgetsDest_length_lt {destsz : Nat} {output line : CStr} (hline : fgetsDest destsz output = some line)
    : line.length < destsz := by
  have hint := cInt_le destsz
  unfold fgetsDest at hline
  dsimp only at hline
  split at hline
  . contradiction
  . split at hline
    . injection hline with hline
      rw [← hline, List.length_nil]
      omega
    . rw [Option.map_eq_some_iff] at hline
      rcases hline with ⟨⟨text, rest⟩, hfgets, htext⟩
      have hlength := fgets_length_le hfgets
      rw [← htext]
      dsimp only
      omega

theorem valueLine_length_lt {popen : CStr → Option CStr} {path line : CStr} {destsz : Nat}
    (hline : valueLine popen path destsz = some line)
    : line.length < destsz := by
  unfold valueLine at hline
  split at hline
  . contradiction
  . split at hline
    . contradiction
    . rw [Option.bind_eq_some_iff] at hline
      rcases hline with ⟨output, _, hfgets⟩
      exact fgetsDest_length_lt hfgets

section

variable {popen : CStr → Option CStr} {path line : CStr} {dest : Dest}

theorem dmcliErtGetv_trims (emptyOk : Bool) (mem : Mem)
    (hline : valueLine popen path dest.size = some line)
    : (dmcliErtGetv popen path dest emptyOk mem).toTrim
        =
      trimLoop dest { mem := mem.store dest.addr (line ++ [0]), indexed := [] } := by
  unfold dmcliErtGetv
  rw [hline]
  dsimp only
  split
  . rfl
  . rfl

theorem dmcliErtGetv_ret_iff (emptyOk : Bool) (mem : Mem)
    (hline : valueLine popen path dest.size = some line)
    : (dmcliErtGetv popen path dest emptyOk mem).ret = true
        ↔
      dest.str (dmcliErtGetv popen path dest emptyOk mem).mem ≠ [] ∨ emptyOk = true := by
  rw [dmcliErtGetv_trims emptyOk mem hline]
  unfold dmcliErtGetv
  rw [hline]
  dsimp only
  split
  . next hempty =>
    rw [List.length_eq_zero_iff] at hempty
    simp [hempty]
  . next hfull =>
    rw [List.length_eq_zero_iff, not_and_or, not_not, or_comm] at hfull
    simp [hfull]

theorem dmcliErtGetv_str (emptyOk : Bool) (mem : Mem)
    (hline : valueLine popen path dest.size = some line)
    : dest.str (dmcliErtGetv popen path dest emptyOk mem).mem = (terminated line).rdropWhile isEol := by
  have hstored := mem.str_store_terminated dest.addr line (valueLine_length_lt hline)
  rw [dmcliErtGetv_trims emptyOk mem hline, trimLoop_str]
  exact congrArg (List.rdropWhile isEol) hstored

theorem dmcliErtGetv_inside_iff (emptyOk : Bool) (mem : Mem)
    (hline : valueLine popen path dest.size = some line)
    : dest.Inside (dmcliErtGetv popen path dest emptyOk mem).indexed
        ↔
      ∃ c ∈ terminated line, isEol c = false := by
  have hstored := mem.str_store_terminated dest.addr line (valueLine_length_lt hline)
  have hnone : dest.Inside [] := by
    intro addr hmem
    contradiction
  rw [dmcliErtGetv_trims emptyOk mem hline, trimLoop_inside_iff, and_iff_right hnone]
  dsimp only [Dest.str]
  rw [hstored]

end

theorem dmcli_eRT_getv_trims_iff (popen : CStr → Option CStr) (path line : CStr) (dest : Dest)
    (emptyOk : Bool) (mem : Mem) (hline : valueLine popen path dest.size = some line)
    : (dmcliErtGetv popen path dest emptyOk mem).Trims dest (terminated line) emptyOk
        ↔
      ∃ c ∈ terminated line, isEol c = false := by
  constructor
  . intro htrims
    exact (dmcliErtGetv_inside_iff emptyOk mem hline).mp htrims.inside
  . intro htext
    constructor
    case inside => exact (dmcliErtGetv_inside_iff emptyOk mem hline).mpr htext
    case trimmed => exact dmcliErtGetv_str emptyOk mem hline
    case ret => exact dmcliErtGetv_ret_iff emptyOk mem hline

def meshUrl : CStr := cstr "Device.DeviceInfo.X_RDKCENTRAL-COM_xOpsDeviceMgmt.Mesh.URL"

def exampleDest : Dest where
  addr := 4096
  size := 64
  notNull := by decide
  inSpace := by decide

def printsNewline : CStr → Option CStr :=
  fun _ => some [10]

theorem dmcli_eRT_getv_before_array
    : valueLine printsNewline meshUrl exampleDest.size = some [10]
        ∧ 4095 ∈ (dmcliErtGetv printsNewline meshUrl exampleDest false (fun _ => 0)).indexed
        ∧ ¬(dmcliErtGetv printsNewline meshUrl exampleDest false (fun _ => 0)).Trims exampleDest
            (terminated [10]) false := by
  have hline : valueLine printsNewline meshUrl exampleDest.size = some [10] := by
    decide +kernel
  have hbefore
      : 4095 ∈ (dmcliErtGetv printsNewline meshUrl exampleDest false (fun _ => 0)).indexed := by
    decide +kernel
  refine ⟨hline, hbefore, ?_⟩
  intro htrims
  exact absurd (htrims.inside 4095 hbefore) (by decide)

theorem dmcli_eRT_getv_trims_iff_url
    : (dmcliErtGetv (fun _ => some (cstr "mesh-server\r\n")) meshUrl exampleDest false
        (fun _ => 0)).Trims exampleDest (terminated (cstr "mesh-server\r\n")) false := by
  have hline : valueLine (fun _ => some (cstr "mesh-server\r\n")) meshUrl exampleDest.size
      = some (cstr "mesh-server\r\n") := by
    decide +kernel
  exact (dmcli_eRT_getv_trims_iff _ meshUrl _ exampleDest false (fun _ => 0) hline).mpr (by decide +kernel)

end Dmcli
end OpenSyncRdk
