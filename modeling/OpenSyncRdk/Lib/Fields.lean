import Mathlib.Data.List.TakeWhile

/-!
Texts of fields with a separator between them, and `strsep`, which cuts off one field after another.
-/

namespace OpenSyncRdk

variable [BEq α] [LawfulBEq α] {sep : α}

/-- The field in front and what is left, which is nothing, `none`, when no separator came. -/
def strsep (sep : α) : Option (List α) → Option (List α) × Option (List α)
  | none => (none, none)
  | some text =>
    match text.dropWhile (· != sep) with
    | [] => (some text, none)
    | _ :: rest => (some (text.takeWhile (· != sep)), some rest)

def joined (sep : α) : List (List α) → Option (List α)
  | [] => none
  | field :: fields => some (field ++ fields.flatMap (fun next => sep :: next))

/-- For code that makes use of the field at once, which it can not if there is none left. -/
def nextField (sep : α) : StateT (Option (List α)) Option (List α) := fun text =>
  match strsep sep text with
  | (none, _) => none
  | (some field, rest) => some (field, rest)

theorem takeWhile_of_not_mem {text : List α} (htext : sep ∉ text)
    : text.takeWhile (· != sep) = text := by
  rw [List.takeWhile_eq_self_iff]
  intro c hc
  rw [bne_iff_ne]
  exact ne_of_mem_of_not_mem hc htext

theorem dropWhile_of_not_mem {text : List α} (htext : sep ∉ text)
    : text.dropWhile (· != sep) = [] := by
  rw [List.dropWhile_eq_nil_iff]
  intro c hc
  rw [bne_iff_ne]
  exact ne_of_mem_of_not_mem hc htext

theorem strsep_append (field rest : List α) (hfield : sep ∉ field)
    : strsep sep (some (field ++ sep :: rest)) = (some field, some rest) := by
  simp [strsep, List.dropWhile_append, List.takeWhile_append, takeWhile_of_not_mem hfield,
    dropWhile_of_not_mem hfield]

theorem strsep_last (field : List α) (hfield : sep ∉ field)
    : strsep sep (some field) = (some field, none) := by
  simp [strsep, dropWhile_of_not_mem hfield]

theorem strsep_joined {field : List α} (fields : List (List α)) (hfield : sep ∉ field)
    : strsep sep (joined sep (field :: fields)) = (some field, joined sep fields) := by
  cases fields with
  | nil =>
    simp only [joined, List.flatMap_nil, List.append_nil]
    exact strsep_last field hfield
  | cons next fields =>
    simp only [joined, List.flatMap_cons, List.cons_append]
    exact strsep_append field _ hfield

theorem nextField_joined {field : List α} (fields : List (List α)) (hfield : sep ∉ field)
    : nextField sep (joined sep (field :: fields)) = some (field, joined sep fields) := by
  simp only [nextField, strsep_joined fields hfield]

section

variable {σ α β : Type}

def Returns (P : α → Prop) (read : StateT σ Option α) : Prop :=
  ∀ s a t, read s = some (a, t) → P a

theorem returns_pure {P : α → Prop} {a : α} (ha : P a)
    : Returns P (pure a : StateT σ Option α) := by
  intro s b t hread
  injection hread with hread
  injection hread with hresult _
  exact hresult ▸ ha

theorem returns_bind {P : β → Prop} {read : StateT σ Option α} {next : α → StateT σ Option β}
    (hnext : ∀ a, Returns P (next a))
    : Returns P (read >>= next) := by
  intro s b t hread
  have hread : (read s).bind (fun u => next u.1 u.2) = some (b, t) := hread
  rw [Option.bind_eq_some_iff] at hread
  rcases hread with ⟨u, _, hread⟩
  exact hnext u.1 u.2 b t hread

theorem returns_map {P : β → Prop} {read : StateT σ Option α} {f : α → β}
    (hread : Returns (fun a => P (f a)) read)
    : Returns P (f <$> read) := by
  intro s b t hmap
  have hmap : (read s).bind (fun u => some (f u.1, u.2)) = some (b, t) := hmap
  rw [Option.bind_eq_some_iff] at hmap
  rcases hmap with ⟨u, hu, hmap⟩
  injection hmap with hmap
  injection hmap with hresult _
  rw [← hresult]
  exact hread s u.1 u.2 hu

end

end OpenSyncRdk
