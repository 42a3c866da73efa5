import Mathlib.Data.List.TakeWhile

/-!
The words of a text between separators, and the loop over `strtok_r` that visits them.
-/

namespace OpenSyncRdk

variable {α : Type} (sep : α → Bool)

def words (text : List α) : List (List α) :=
  (text.splitOnP sep).filter (fun word => !word.isEmpty)

def strtok (text : List α) : Option (List α × List α) :=
  let start := text.dropWhile sep
  if start.isEmpty then
    none
  else
    some (start.takeWhile (fun c => !sep c), (start.dropWhile (fun c => !sep c)).tail)

theorem strtok_length_lt {text token rest : List α} (htoken : strtok sep text = some (token, rest))
    : rest.length < text.length := by
  unfold strtok at htoken
  dsimp only at htoken
  split at htoken
  . contradiction
  . next hstart =>
    injection htoken with htoken
    injection htoken with _ hrest
    have hdrop := (List.dropWhile_suffix (l := text) sep).length_le
    have hdrop' := (List.dropWhile_suffix (l := text.dropWhile sep) (fun c => !sep c)).length_le
    have hpos := List.length_pos_iff.mpr (List.isEmpty_iff.not.mp hstart)
    rw [← hrest, List.length_tail]
    omega

section

variable {sep}

@[simp]
theorem words_nil
    : words sep [] = [] := by
  simp [words, List.splitOnP_nil]

theorem words_cons_of_sep {c : α} (hsep : sep c = true) (text : List α)
    : words sep (c :: text) = words sep text := by
  unfold words
  rw [List.splitOnP_cons_eq_if_modifyHead, if_pos hsep]
  rfl

theorem words_dropWhile (text : List α)
    : words sep (text.dropWhile sep) = words sep text := by
  induction text with
  | nil => rfl
  | cons c text ih =>
    cases hsep : sep c with
    | true =>
      rw [List.dropWhile_cons_of_pos hsep, words_cons_of_sep hsep, ih]
    | false =>
      rw [List.dropWhile_cons_of_neg (by simp [hsep])]

theorem words_append_sep {c : α} (hsep : sep c = true) (lhs rhs : List α)
    : words sep (lhs ++ c :: rhs) = words sep lhs ++ words sep rhs := by
  unfold words
  rw [List.splitOnP_append_cons lhs rhs hsep, List.filter_append]

theorem words_word {word : List α} (hne : word ≠ []) (hword : ∀ c ∈ word, sep c = false)
    : words sep word = [word] := by
  unfold words
  rw [List.splitOnP_eq_singleton]
  . simp [hne]
  . simpa using hword

theorem words_append_of_sep {glue : List α} (hglue : ∀ c ∈ glue, sep c = true) (text : List α)
    : words sep (glue ++ text) = words sep text := by
  induction glue with
  | nil => rfl
  | cons c glue ih =>
    rw [List.cons_append, words_cons_of_sep (hglue c (by simp))]
    apply ih
    intro c hc
    exact hglue c (by simp [hc])

theorem words_intercalate {glue : List α} (hne : glue ≠ []) (hglue : ∀ c ∈ glue, sep c = true)
    {ws : List (List α)} (hws : ∀ word ∈ ws, word ≠ [] ∧ ∀ c ∈ word, sep c = false)
    : words sep (List.intercalate glue ws) = ws := by
  induction ws with
  | nil => exact words_nil
  | cons word ws ih =>
    have ⟨hword, hsep⟩ := hws word (by simp)
    have htail := ih (fun word hmem => hws word (by simp [hmem]))
    cases ws with
    | nil =>
      rw [List.intercalate_singleton]
      exact words_word hword hsep
    | cons second ws =>
      cases glue with
      | nil => contradiction
      | cons c glue =>
        have hc := hglue c (by simp)
        have hrest : ∀ c ∈ glue, sep c = true := by
          intro c hmem
          exact hglue c (by simp [hmem])
        rw [List.intercalate_cons_cons, List.append_assoc, List.cons_append, words_append_sep hc,
          words_word hword hsep, words_append_of_sep hrest, htail, List.singleton_append]

theorem strtok_word_sep {word : List α} (hne : word ≠ []) (hword : ∀ c ∈ word, sep c = false) {c : α}
    (hsep : sep c = true) (rest : List α)
    : strtok sep (word ++ c :: rest) = some (word, rest) := by
  have hdrop : (word ++ c :: rest).dropWhile sep = word ++ c :: rest := by
    cases word with
    | nil => contradiction
    | cons first word =>
      apply List.dropWhile_cons_of_neg
      simp [hword first]
  unfold strtok
  simp only [hdrop]
  rw [if_neg (by simp), List.takeWhile_append_of_pos (by simpa using hword),
    List.dropWhile_append_of_pos (by simpa using hword)]
  simp [hsep]

theorem strtok_word {word : List α} (hne : word ≠ []) (hword : ∀ c ∈ word, sep c = false)
    : strtok sep word = some (word, []) := by
  have hdrop : word.dropWhile sep = word := by
    cases word with
    | nil => contradiction
    | cons first word =>
      apply List.dropWhile_cons_of_neg
      simp [hword first]
  have htake : word.takeWhile (fun c => !sep c) = word :=
    List.takeWhile_eq_self_iff.mpr (by simpa using hword)
  have hrest : word.dropWhile (fun c => !sep c) = [] :=
    List.dropWhile_eq_nil_iff.mpr (by simpa using hword)
  unfold strtok
  simp only [hdrop]
  rw [if_neg (by simpa using hne), htake, hrest, List.tail_nil]

theorem words_of_strtok_none {text : List α} (hnone : strtok sep text = none)
    : words sep text = [] := by
  unfold strtok at hnone
  dsimp only at hnone
  split at hnone
  . next hstart =>
    rw [← words_dropWhile, List.isEmpty_iff.mp hstart, words_nil]
  . contradiction

theorem words_of_strtok_some {text token rest : List α}
    (htoken : strtok sep text = some (token, rest))
    : words sep text = token :: words sep rest := by
  unfold strtok at htoken
  dsimp only at htoken
  split at htoken
  . contradiction
  . next hstart =>
    injection htoken with htoken
    injection htoken with htoken hrest
    have hne := List.isEmpty_iff.not.mp hstart
    have hhead := List.head_dropWhile_not sep hne
    have hword : words sep token = [token] := by
      apply words_word
      . rw [← htoken, ← List.cons_head_tail hne, List.takeWhile_cons_of_pos (by simpa using hhead)]
        simp
      . intro c hc
        rw [← htoken] at hc
        simpa using List.mem_takeWhile_imp hc
    have hsplit := List.takeWhile_append_dropWhile (p := fun c => !sep c) (l := text.dropWhile sep)
    rw [htoken] at hsplit
    rw [← words_dropWhile, ← hsplit, ← hrest]
    cases hafter : (text.dropWhile sep).dropWhile (fun c => !sep c) with
    | nil =>
      rw [List.append_nil, List.tail_nil, hword, words_nil]
    | cons c after =>
      have hsep : sep c = true := by
        have hnot := List.head_dropWhile_not (l := text.dropWhile sep) (fun c => !sep c)
          (by simp [hafter])
        simpa [hafter] using hnot
      rw [words_append_sep hsep, hword, List.tail_cons, List.singleton_append]

end

end OpenSyncRdk
