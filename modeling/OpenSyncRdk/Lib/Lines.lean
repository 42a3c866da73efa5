import OpenSyncRdk.Lib.Bytes
import OpenSyncRdk.Lib.Fields

/-!
The lines of a text file and `fgets`, which takes a line, or no more of it than it has room for.
-/

namespace OpenSyncRdk

/-- A terminator goes behind the line, so that `size - 1` bytes are read at most. -/
def fgets (size : Nat) (file : CStr) : Option (CStr × CStr) :=
  if file = [] then
    none
  else
    let room := file.take (size - 1)
    let line := room.takeWhile (· != 10) ++ (room.dropWhile (· != 10)).take 1
    some (line, file.drop line.length)

theorem fgets_length_le {size : Nat} {file line rest : CStr} (hline : fgets size file = some (line, rest))
    : line.length ≤ size - 1 := by
  unfold fgets at hline
  split at hline
  . contradiction
  . injection hline with hline
    injection hline with hline
    have hroom := List.length_take_le (size - 1) file
    have hparts := congrArg List.length
      (List.takeWhile_append_dropWhile (p := (· != 10)) (l := file.take (size - 1)))
    have hend := List.length_take_le' 1 ((file.take (size - 1)).dropWhile (· != 10))
    rw [List.length_append] at hparts
    rw [← hline, List.length_append]
    omega

structure IsLine (line rest : CStr) : Prop where
  nonempty : line ≠ []
  ends : (∃ text, line = text ++ [10] ∧ 10 ∉ text) ∨ (10 ∉ line ∧ rest = [])

theorem fgets_short {line rest : CStr} (hline : IsLine line rest) {size : Nat} (hsize : line.length < size)
    : fgets size (line ++ rest) = some (line, rest) := by
  have hroom : (line ++ rest).take (size - 1) = line ++ rest.take (size - 1 - line.length) := by
    rw [List.take_append, List.take_of_length_le (by omega)]
  have hne : line ++ rest ≠ [] := List.append_ne_nil_of_left_ne_nil hline.nonempty rest
  simp only [fgets, hne, ↓reduceIte, hroom]
  rcases hline.ends with ⟨text, htext, hnot⟩ | ⟨hnot, hlast⟩
  . rw [htext, List.append_assoc, List.takeWhile_append, List.dropWhile_append,
      takeWhile_of_not_mem hnot, dropWhile_of_not_mem hnot]
    simp
  . simp [hlast, takeWhile_of_not_mem hnot, dropWhile_of_not_mem hnot]

theorem fgets_long {line rest : CStr} (hline : IsLine line rest) {size : Nat} (hsize : size ≤ line.length)
    : fgets size (line ++ rest) = some (line.take (size - 1), line.drop (size - 1) ++ rest) := by
  have hpos := List.length_pos_of_ne_nil hline.nonempty
  have hlt : size - 1 < line.length := by
    omega
  have hroom : (line ++ rest).take (size - 1) = line.take (size - 1) :=
    List.take_append_of_le_length (Nat.le_of_lt hlt)
  have hnot : 10 ∉ line.take (size - 1) := by
    rcases hline.ends with ⟨text, htext, hnot⟩ | ⟨hnot, _⟩
    . rw [htext, List.length_append, List.length_singleton] at hlt
      rw [htext, List.take_append_of_le_length (by omega)]
      exact fun hmem => hnot (List.mem_of_mem_take hmem)
    . exact fun hmem => hnot (List.mem_of_mem_take hmem)
  have hne : line ++ rest ≠ [] := List.append_ne_nil_of_left_ne_nil hline.nonempty rest
  simp only [fgets, hne, ↓reduceIte, hroom, takeWhile_of_not_mem hnot, dropWhile_of_not_mem hnot,
    List.take_nil, List.append_nil]
  rw [List.length_take_of_le (Nat.le_of_lt hlt), List.drop_append_of_le_length (Nat.le_of_lt hlt)]

theorem IsLine.drop {line rest : CStr} (hline : IsLine line rest) {size : Nat} (hsize : size < line.length)
    : IsLine (line.drop size) rest := by
  constructor
  case nonempty =>
    apply List.ne_nil_of_length_pos
    rw [List.length_drop]
    omega
  case ends =>
    rcases hline.ends with ⟨text, htext, hnot⟩ | ⟨hnot, hlast⟩
    . left
      rw [htext, List.length_append, List.length_singleton] at hsize
      refine ⟨text.drop size, ?_, fun hmem => hnot (List.mem_of_mem_drop hmem)⟩
      rw [htext, List.drop_append_of_le_length (by omega)]
    . right
      exact ⟨fun hmem => hnot (List.mem_of_mem_drop hmem), hlast⟩

end OpenSyncRdk
