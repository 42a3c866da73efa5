import Mathlib.Data.List.Nodup
import Mathlib.Logic.Function.Basic

/-!
A loop over the cells of a table that remembers the value it has seen last under each of some names, and
compares them where one particular name comes by. The rows follow one another, each with its cells in
an order of its own.
-/

namespace OpenSyncRdk
namespace Carried

variable {ι ν α : Type}

structure Row (ι ν α : Type) where
  key : ι
  cells : List (ν × α)
  deriving DecidableEq

def Row.names (row : Row ι ν α) : List ν :=
  row.cells.map Prod.fst

def Row.layout (row : Row ι ν α) : ι × List ν :=
  (row.key, row.names)

def Row.flat (row : Row ι ν α) : List (ι × ν × α) :=
  row.cells.map (fun cell => (row.key, cell))

def flat (rows : List (Row ι ν α)) : List (ι × ν × α) :=
  rows.flatMap Row.flat

section

variable [DecidableEq ν]

def Row.get [Inhabited α] (row : Row ι ν α) (name : ν) : α :=
  (row.cells.lookup name).getD default

variable (fields : List ν) (trigger : ν) (test : List α → α → Bool)

def remember (last : ν → α) (cells : List (ι × ν × α)) : ν → α :=
  cells.foldl (fun last cell => if cell.2.1 ∈ fields then Function.update last cell.2.1 cell.2.2 else last) last

def scan : (ν → α) → List (ι × ν × α) → Option ι
  | _, [] => none
  | last, cell :: cells =>
    let last := remember fields last [cell]
    if cell.2.1 = trigger ∧ test (fields.map last) cell.2.2 then
      some cell.1
    else
      scan last cells

def Row.Matches [Inhabited α] (row : Row ι ν α) : Prop :=
  test (fields.map row.get) (row.get trigger) = true

instance [Inhabited α] (row : Row ι ν α) : Decidable (row.Matches fields trigger test) :=
  inferInstanceAs (Decidable (_ = true))

structure Complete (names : List ν) : Prop where
  nodup : names.Nodup
  trigger : trigger ∈ names
  fields : ∀ field ∈ fields, field ∈ names

def InOrder (names : List ν) : Prop :=
  ∀ field ∈ fields, field ∈ names.takeWhile (fun name => name ≠ trigger)

instance (names : List ν) : Decidable (InOrder fields trigger names) :=
  inferInstanceAs (Decidable (∀ field ∈ fields, _))

end

section

variable [DecidableEq ν] {fields : List ν} {trigger : ν} {test : List α → α → Bool}

theorem remember_append (last : ν → α) (lhs rhs : List (ι × ν × α))
    : remember fields last (lhs ++ rhs) = remember fields (remember fields last lhs) rhs := by
  unfold remember
  rw [List.foldl_append]

theorem remember_other {field : ν} (last : ν → α) {cells : List (ι × ν × α)}
    (hother : ∀ cell ∈ cells, cell.2.1 ≠ field)
    : remember fields last cells field = last field := by
  induction cells generalizing last with
  | nil => rfl
  | cons cell cells ih =>
    have hcell := hother cell (by simp)
    have htail := ih (remember fields last [cell]) (fun cell hmem => hother cell (by simp [hmem]))
    rw [← List.singleton_append, remember_append, htail]
    simp only [remember, List.foldl_cons, List.foldl_nil]
    split
    . exact Function.update_of_ne (Ne.symm hcell) _ _
    . rfl

theorem remember_lookup [Inhabited α] {field : ν} (hfield : field ∈ fields) (last : ν → α) (key : ι)
    {cells : List (ν × α)} (hnodup : (cells.map Prod.fst).Nodup) (hmem : field ∈ cells.map Prod.fst)
    : remember fields last (cells.map (fun cell => (key, cell))) field
        =
      (cells.lookup field).getD default := by
  induction cells generalizing last with
  | nil => simp at hmem
  | cons cell cells ih =>
    have ⟨name, value⟩ := cell
    rw [List.map_cons, List.nodup_cons] at hnodup
    rw [List.map_cons, ← List.singleton_append, remember_append]
    by_cases heq : field = name
    . rw [← heq, remember_other]
      . simp [remember, hfield]
      . intro other hother hname
        rw [List.mem_map] at hother
        have ⟨cell', hcell', hother⟩ := hother
        apply hnodup.1
        dsimp only
        rw [← heq, ← hname, ← hother]
        exact List.mem_map_of_mem hcell'
    . rw [List.map_cons, List.mem_cons] at hmem
      have htail := hmem.resolve_left heq
      have hne : (field == name) = false := by simpa using heq
      rw [ih _ hnodup.2 htail, List.lookup_cons, hne]

theorem scan_skip (last : ν → α) {cells : List (ι × ν × α)} (rest : List (ι × ν × α))
    (hskip : ∀ cell ∈ cells, cell.2.1 = trigger → ∀ last, test (fields.map last) cell.2.2 = false)
    : scan fields trigger test last (cells ++ rest)
        =
      scan fields trigger test (remember fields last cells) rest := by
  induction cells generalizing last with
  | nil => rfl
  | cons cell cells ih =>
    have hcell := hskip cell (by simp)
    have htail := ih (remember fields last [cell]) (fun cell hmem => hskip cell (by simp [hmem]))
    rw [List.cons_append, scan, if_neg, htail, ← remember_append, List.singleton_append]
    rintro ⟨hname, htest⟩
    rw [hcell hname] at htest
    contradiction

theorem scan_trigger (last : ν → α) (key : ι) (value : α) (rest : List (ι × ν × α))
    (hfields : trigger ∉ fields)
    : scan fields trigger test last ((key, trigger, value) :: rest)
        =
      if test (fields.map last) value then
        some key
      else
        scan fields trigger test last rest := by
  rw [scan]
  simp [remember, hfields]

theorem split_trigger {cells : List (ν × α)} (hnodup : (cells.map Prod.fst).Nodup)
    (htrigger : trigger ∈ cells.map Prod.fst)
    : ∃ front value back,
        cells = front ++ (trigger, value) :: back
          ∧ front.map Prod.fst = (cells.map Prod.fst).takeWhile (fun name => name ≠ trigger)
          ∧ (∀ cell ∈ front, cell.1 ≠ trigger)
          ∧ (∀ cell ∈ back, cell.1 ≠ trigger)
          ∧ cells.lookup trigger = some value := by
  induction cells with
  | nil => simp at htrigger
  | cons cell cells ih =>
    have ⟨name, value⟩ := cell
    rw [List.map_cons, List.nodup_cons] at hnodup
    by_cases heq : name = trigger
    . refine ⟨[], value, cells, ?_, ?_, by simp, ?_, ?_⟩
      . rw [heq]
        rfl
      . simp [heq]
      . intro cell hmem hname
        apply hnodup.1
        dsimp only
        rw [heq, ← hname]
        exact List.mem_map_of_mem hmem
      . rw [heq, List.lookup_cons_self]
    . rw [List.map_cons, List.mem_cons] at htrigger
      have htail := htrigger.resolve_left (Ne.symm heq)
      have ⟨front, value', back, hcells, hfront, hbefore, hafter, hlookup⟩ := ih hnodup.2 htail
      have hne : (trigger == name) = false := by simpa using Ne.symm heq
      refine ⟨(name, value) :: front, value', back, ?_, ?_, ?_, hafter, ?_⟩
      . rw [hcells]
        rfl
      . simp [hfront, heq]
      . simpa [heq] using hbefore
      . rw [List.lookup_cons, hne]
        exact hlookup

omit [DecidableEq ν] in
theorem flat_cons (row : Row ι ν α) (rows : List (Row ι ν α))
    : flat (row :: rows) = row.flat ++ flat rows := by
  rfl

theorem scan_row [Inhabited α] (test : List α → α → Bool) (hfields : trigger ∉ fields) {row : Row ι ν α}
    (hcomplete : Complete fields trigger row.names) (horder : InOrder fields trigger row.names)
    (last : ν → α) (rest : List (ι × ν × α))
    : ∃ last',
        scan fields trigger test last (row.flat ++ rest)
          =
        if row.Matches fields trigger test then some row.key else scan fields trigger test last' rest := by
  have ⟨front, value, back, hcells, hfront, hbefore, hafter, hlookup⟩ :=
    split_trigger hcomplete.nodup hcomplete.trigger
  have hnodup := hcomplete.nodup
  have hget : row.get trigger = value := by
    unfold Row.get
    rw [hlookup, Option.getD_some]
  have hvals
      : fields.map (remember fields last (front.map (fun cell => (row.key, cell))))
          =
        fields.map row.get := by
    apply List.map_congr_left
    intro field hfield
    have hmem := horder field hfield
    have hwhole := remember_lookup hfield last row.key hnodup (hcomplete.fields field hfield)
    rw [hcells, List.map_append, remember_append, remember_other] at hwhole
    . rw [hwhole, ← hcells]
      rfl
    . rw [List.forall_mem_map]
      intro cell hcell hname
      unfold Row.names at hnodup hmem
      rw [← hfront] at hmem
      rw [hcells, List.map_append, List.nodup_append] at hnodup
      apply hnodup.2.2 field hmem field _ rfl
      rw [← hname]
      exact List.mem_map_of_mem hcell
  have hflat
      : row.flat
          =
        front.map (fun cell => (row.key, cell)) ++ (row.key, trigger, value)
          :: back.map (fun cell => (row.key, cell)) := by
    unfold Row.flat
    rw [hcells, List.map_append, List.map_cons]
  rw [hflat, List.append_assoc, scan_skip, List.cons_append, scan_trigger _ _ _ _ hfields, hvals]
  . refine ⟨remember fields (remember fields last (front.map (fun cell => (row.key, cell))))
      (back.map (fun cell => (row.key, cell))), ?_⟩
    rw [← hget, scan_skip]
    . rfl
    rw [List.forall_mem_map]
    intro cell hcell hname
    exact absurd hname (hafter cell hcell)
  . rw [List.forall_mem_map]
    intro cell hcell hname
    exact absurd hname (hbefore cell hcell)

theorem scan_eq_find [Inhabited α] (hfields : trigger ∉ fields) {rows : List (Row ι ν α)}
    (hcomplete : ∀ row ∈ rows, Complete fields trigger row.names)
    (horder : ∀ row ∈ rows, InOrder fields trigger row.names) (last : ν → α)
    : scan fields trigger test last (flat rows)
        =
      (rows.find? (fun row => row.Matches fields trigger test)).map Row.key := by
  induction rows generalizing last with
  | nil => rfl
  | cons row rows ih =>
    have ⟨last', hrow⟩ := scan_row test hfields (hcomplete row (by simp)) (horder row (by simp)) last
      (flat rows)
    rw [flat_cons, hrow, List.find?_cons]
    split
    . next hmatches => simp [hmatches]
    . next hmatches =>
      rw [ih (fun row hmem => hcomplete row (by simp [hmem])) (fun row hmem => horder row (by simp [hmem]))]
      simp [hmatches]

theorem remember_invariant {P : α → Prop} {field : ν} {last : ν → α} {cells : List (ι × ν × α)}
    (hlast : P (last field)) (hcells : ∀ cell ∈ cells, cell.2.1 = field → P cell.2.2)
    : P (remember fields last cells field) := by
  induction cells generalizing last with
  | nil => exact hlast
  | cons cell cells ih =>
    rw [← List.singleton_append, remember_append]
    apply ih _ (fun cell hmem => hcells cell (by simp [hmem]))
    simp only [remember, List.foldl_cons, List.foldl_nil]
    split
    . by_cases hname : cell.2.1 = field
      . rw [hname, Function.update_self]
        exact hcells cell (by simp) hname
      . rw [Function.update_of_ne (Ne.symm hname)]
        exact hlast
    . exact hlast

theorem scan_stale {P : α → Prop} (hfields : trigger ∉ fields) {pre post : List (Row ι ν α)}
    {row : Row ι ν α} (hcomplete : Complete fields trigger row.names) {field : ν}
    (hlate : field ∉ row.names.takeWhile (fun name => name ≠ trigger)) {last : ν → α}
    (hlast : P (last field)) (hpre : ∀ cell ∈ flat pre, cell.2.1 = field → P cell.2.2)
    (htest : ∀ last value, P (last field) → test (fields.map last) value = false)
    (hothers : ∀ cell ∈ flat pre ++ flat post, cell.2.1 = trigger
      → ∀ last, test (fields.map last) cell.2.2 = false)
    : scan fields trigger test last (flat (pre ++ row :: post)) = none := by
  have ⟨front, value, back, hcells, hfront, hbefore, hafter, _⟩ :=
    split_trigger hcomplete.nodup hcomplete.trigger
  have hflat
      : flat (pre ++ row :: post)
          =
        flat pre ++ (front.map (fun cell => (row.key, cell)) ++ (row.key, trigger, value)
          :: (back.map (fun cell => (row.key, cell)) ++ (flat post ++ []))) := by
    unfold flat Row.flat
    rw [List.flatMap_append, List.flatMap_cons, hcells, List.map_append, List.map_cons, List.append_nil,
      List.append_assoc, List.cons_append]
  have hstale
      : P (remember fields (remember fields last (flat pre))
          (front.map (fun cell => (row.key, cell))) field) := by
    rw [remember_other]
    . exact remember_invariant hlast hpre
    . rw [List.forall_mem_map]
      intro cell hcell hname
      apply hlate
      unfold Row.names
      rw [← hfront, ← hname]
      exact List.mem_map_of_mem hcell
  rw [hflat, scan_skip, scan_skip, scan_trigger _ _ _ _ hfields, htest _ _ hstale, if_neg, scan_skip,
    scan_skip]
  . rfl
  . intro cell hcell
    apply hothers cell
    rw [List.mem_append]
    exact .inr hcell
  . rw [List.forall_mem_map]
    intro cell hcell hname
    exact absurd hname (hafter cell hcell)
  . simp
  . rw [List.forall_mem_map]
    intro cell hcell hname
    exact absurd hname (hbefore cell hcell)
  . intro cell hcell
    apply hothers cell
    rw [List.mem_append]
    exact .inl hcell

def fill (value : ι → ν → α) (layout : List (ι × List ν)) : List (Row ι ν α) :=
  layout.map (fun entry =>
    { key := entry.1, cells := entry.2.map (fun name => (name, value entry.1 name)) })

omit [DecidableEq ν] in
theorem fill_layout (value : ι → ν → α) (layout : List (ι × List ν))
    : (fill value layout).map Row.layout = layout := by
  simp [fill, Row.layout, Row.names, Function.comp_def]

omit [DecidableEq ν] in
theorem mem_flat_fill {value : ι → ν → α} {layout : List (ι × List ν)} {cell : ι × ν × α}
    (hcell : cell ∈ flat (fill value layout))
    : cell.2.2 = value cell.1 cell.2.1 ∧ cell.1 ∈ layout.map Prod.fst := by
  unfold flat fill Row.flat at hcell
  rw [List.mem_flatMap] at hcell
  have ⟨row, hrow, hcell⟩ := hcell
  rw [List.mem_map] at hrow
  have ⟨entry, hentry, hrow⟩ := hrow
  rw [← hrow, List.map_map, List.mem_map] at hcell
  have ⟨name, _, hcell⟩ := hcell
  rw [← hcell]
  exact ⟨rfl, List.mem_map_of_mem hentry⟩

structure Sample (fields : List ν) (trigger : ν) (test : List α → α → Bool) (sample : ν → α)
    (blank : α) : Prop where
  self : test (fields.map sample) (sample trigger) = true
  skip : ∀ vals, test vals blank = false
  other
    : ∀ field ∈ fields, ∀ last value,
        (last field = blank ∨ ∃ name, name ≠ field ∧ last field = sample name)
          → test (fields.map last) value = false

theorem get_fill [Inhabited α] {value : ι → ν → α} {key : ι} {names : List ν} {name : ν}
    (hmem : name ∈ names)
    : Row.get { key, cells := names.map (fun name => (name, value key name)) } name = value key name := by
  unfold Row.get
  dsimp only
  induction names with
  | nil => simp at hmem
  | cons other names ih =>
    rw [List.map_cons, List.lookup_cons]
    by_cases heq : name = other
    . simp [heq]
    . have hne : (name == other) = false := by simpa using heq
      rw [hne]
      exact ih ((List.mem_cons.mp hmem).resolve_left heq)

theorem get_map_cells [Inhabited α] (f : ν → α → α) {row : Row ι ν α} {name : ν} (hname : name ∈ row.names)
    : Row.get { row with cells := row.cells.map (fun cell => (cell.1, f cell.1 cell.2)) } name
        =
      f name (row.get name) := by
  have ⟨key, cells⟩ := row
  unfold Row.get
  unfold Row.names at hname
  dsimp only at hname ⊢
  induction cells with
  | nil => simp at hname
  | cons cell cells ih =>
    have ⟨other, value⟩ := cell
    rw [List.map_cons, List.lookup_cons, List.lookup_cons]
    by_cases heq : name = other
    . simp [heq]
    . have hne : (name == other) = false := by simpa using heq
      rw [hne]
      rw [List.map_cons, List.mem_cons] at hname
      exact ih (hname.resolve_left heq)

section

variable [DecidableEq ι] [Inhabited α] {sample : ν → α} {blank : α}

def sampleAt (sample : ν → α) (blank : α) (key : ι) (other : ι) (name : ν) : α :=
  if other = key then sample name else blank

theorem matches_fill_iff (hsample : Sample fields trigger test sample blank) {entry : ι × List ν}
    (hcomplete : Complete fields trigger entry.2) (key : ι)
    : Row.Matches fields trigger test
          { key := entry.1
            cells := entry.2.map (fun name => (name, sampleAt sample blank key entry.1 name)) }
        ↔
      entry.1 = key := by
  have hvals
      : fields.map (Row.get
          { key := entry.1
            cells := entry.2.map (fun name => (name, sampleAt sample blank key entry.1 name)) })
          =
        fields.map (sampleAt sample blank key entry.1) := by
    apply List.map_congr_left
    intro field hfield
    exact get_fill (hcomplete.fields field hfield)
  unfold Row.Matches
  rw [hvals, get_fill hcomplete.trigger]
  unfold sampleAt
  by_cases heq : entry.1 = key
  . simp only [heq, ↓reduceIte, iff_true]
    exact hsample.self
  . simp only [heq, ↓reduceIte, iff_false]
    rw [hsample.skip]
    simp

omit [DecidableEq ν] [Inhabited α] in
theorem blank_of_mem_fill {key : ι} {part : List (ι × List ν)} (hpart : key ∉ part.map Prod.fst)
    {cell : ι × ν × α} (hcell : cell ∈ flat (fill (sampleAt sample blank key) part))
    : cell.2.2 = blank := by
  have ⟨hvalue, hkey⟩ := mem_flat_fill hcell
  rw [hvalue]
  apply if_neg
  intro heq
  rw [heq] at hkey
  exact hpart hkey

def firstValue (rows : List (Row ι ν α)) : α :=
  ((flat rows).map (fun cell => cell.2.2)).headD default

theorem firstValue_fill (sample : ν → α) (blank : α) (hfields : trigger ∉ fields) {pre : List (ι × List ν)}
    {entry : ι × List ν} (hpre : entry.1 ∉ pre.map Prod.fst) (htrigger : trigger ∈ entry.2)
    (post : List (ι × List ν)) {field : ν} (hfield : field ∈ fields)
    (hlate : field ∉ entry.2.takeWhile (fun name => name ≠ trigger))
    : let first := firstValue (fill (sampleAt sample blank entry.1) (pre ++ entry :: post))
      first = blank ∨ ∃ name, name ≠ field ∧ first = sample name := by
  unfold firstValue flat fill
  rw [List.map_append, List.flatMap_append, List.map_append]
  cases hfirst : flat (fill (sampleAt sample blank entry.1) pre) with
  | nil =>
    unfold flat fill at hfirst
    rw [hfirst]
    have ⟨key, names⟩ := entry
    cases names with
    | nil => simp at htrigger
    | cons name names =>
      apply Or.inr
      refine ⟨name, ?_, by simp [Row.flat, sampleAt]⟩
      intro heq
      apply hlate
      have hne : field ≠ trigger := by
        intro htrigger
        rw [htrigger] at hfield
        exact hfields hfield
      rw [heq, List.takeWhile_cons_of_pos (by simpa using hne)]
      exact List.mem_cons_self
  | cons cell cells =>
    apply Or.inl
    have hcell := blank_of_mem_fill hpre (hfirst ▸ List.mem_cons_self)
    unfold flat fill at hfirst
    rw [hfirst]
    exact hcell

theorem scan_missed (hfields : trigger ∉ fields) (hsample : Sample fields trigger test sample blank)
    {pre post : List (ι × List ν)} {entry : ι × List ν}
    (hkeys : ((pre ++ entry :: post).map Prod.fst).Nodup) (hcomplete : Complete fields trigger entry.2)
    (hlate : ¬InOrder fields trigger entry.2)
    : let rows := fill (sampleAt sample blank entry.1) (pre ++ entry :: post)
      scan fields trigger test (fun _ => firstValue rows) (flat rows) = none := by
  unfold InOrder at hlate
  simp only [not_forall] at hlate
  have ⟨field, hfield, hlate⟩ := hlate
  rw [List.map_append, List.map_cons, List.nodup_append, List.nodup_cons] at hkeys
  have hpre : entry.1 ∉ pre.map Prod.fst := by
    intro hmem
    exact hkeys.2.2 _ hmem _ List.mem_cons_self rfl
  have hpost := hkeys.2.1.1
  have hlast := firstValue_fill sample blank hfields hpre hcomplete.trigger post hfield hlate
  dsimp only at hlast ⊢
  generalize firstValue (fill (sampleAt sample blank entry.1) (pre ++ entry :: post)) = first at hlast ⊢
  have hnames
      : Row.names
          { key := entry.1
            cells := entry.2.map (fun name => (name, sampleAt sample blank entry.1 entry.1 name)) }
          =
        entry.2 := by
    simp [Row.names, Function.comp_def]
  unfold fill
  rw [List.map_append, List.map_cons]
  apply scan_stale (P := fun value => value = blank ∨ ∃ name, name ≠ field ∧ value = sample name)
    hfields (hnames.symm ▸ hcomplete) (hnames.symm ▸ hlate)
  . exact hlast
  . intro cell hcell _
    exact .inl (blank_of_mem_fill hpre hcell)
  . intro last value hlast
    exact hsample.other field hfield last value hlast
  . intro cell hcell _ last
    have hvalue : cell.2.2 = blank := by
      rw [List.mem_append] at hcell
      cases hcell with
      | inl hcell => exact blank_of_mem_fill hpre hcell
      | inr hcell => exact blank_of_mem_fill hpost hcell
    rw [hvalue, hsample.skip]

end

end

end Carried
end OpenSyncRdk
