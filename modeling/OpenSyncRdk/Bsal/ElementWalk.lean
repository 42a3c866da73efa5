import OpenSyncRdk.Bsal.Elements
import OpenSyncRdk.Lib.PrefixCode

/-!
What `for_each_element` visits in an arbitrary string: the complete elements at its start, one after
another, up to the first that the string does not hold as a whole.
-/

namespace OpenSyncRdk
namespace Bsal

def bytes (mem : Nat → UInt8) (off len : Nat) : List UInt8 :=
  (List.range' off len).map mem

def Element.bytes (mem : Nat → UInt8) (elem : Element) : List UInt8 :=
  elem.id :: elem.datalen :: Bsal.bytes mem elem.data elem.datalen.toNat

def completeElements : Set (List UInt8) :=
  { word | ∃ id datalen data, word = id :: datalen :: data ∧ data.length = datalen.toNat }

def Incomplete (rest : List UInt8) : Prop :=
  rest.length < 2 ∨ ∃ id datalen data, rest = id :: datalen :: data ∧ data.length < datalen.toNat

variable {mem : Nat → UInt8} {len off : Nat}

theorem length_bytes
    : (bytes mem off len).length = len := by
  simp [bytes]

theorem bytes_add (lhs rhs : Nat)
    : bytes mem off (lhs + rhs) = bytes mem off lhs ++ bytes mem (off + lhs) rhs := by
  unfold bytes
  rw [← List.map_append, List.range'_append_1]

theorem bytes_header (len : Nat)
    : bytes mem off (2 + len) = mem off :: mem (off + 1) :: bytes mem (off + 2) len := by
  rw [bytes_add]
  rfl

theorem completeElements_prefixCode
    : PrefixCode completeElements := by
  constructor
  . intro word ⟨id, datalen, data, hword, _⟩
    rw [hword]
    simp
  . intro lhs ⟨id, datalen, data, hlhs, hdata⟩ rhs ⟨id', datalen', data', hrhs, hdata'⟩ hpre
    rw [hlhs, hrhs, List.cons_prefix_cons, List.cons_prefix_cons] at hpre
    rcases hpre with ⟨hid, hdatalen, hpre⟩
    have hsame : data = data' := by
      apply hpre.eq_of_length
      rw [hdata, hdata', hdatalen]
    rw [hlhs, hrhs, hid, hdatalen, hsame]

theorem Incomplete.not_prefix {rest word : List UInt8} (hrest : Incomplete rest)
    (hword : word ∈ completeElements)
    : ¬word <+: rest := by
  rcases hword with ⟨id, datalen, data, hword, hdata⟩
  intro hpre
  have hle := hpre.length_le
  rw [hword, List.length_cons, List.length_cons] at hle
  rcases hrest with hshort | ⟨id', datalen', data', hrest, hdata'⟩
  . omega
  . rw [hword, hrest, List.cons_prefix_cons, List.cons_prefix_cons] at hpre
    have hlonger := hpre.2.2.length_le
    rw [hpre.2.1] at hdata
    omega

theorem elements_complete (elem : Element)
    : elem.bytes mem ∈ completeElements := by
  exact ⟨_, _, _, rfl, length_bytes⟩

theorem elements_split (mem : Nat → UInt8) (len off : Nat)
    : ∃ rest,
        bytes mem off (len - off) = ((elements mem len off).map (Element.bytes mem)).flatten ++ rest
          ∧ Incomplete rest := by
  induction off using elements.induct mem len with
  | case1 off hfits ih =>
    rcases ih with ⟨rest, hsplit, hrest⟩
    refine ⟨rest, ?_, hrest⟩
    have hlen
        : len - off
          =
        2 + ((mem (off + 1)).toNat + (len - (off + 2 + (mem (off + 1)).toNat))) := by
      omega
    rw [hlen, bytes_header, bytes_add, hsplit, elements.eq_1 mem len off, if_pos hfits]
    simp [Element.bytes, Element.data]
  | case2 off hfits =>
    refine ⟨bytes mem off (len - off), ?_, ?_⟩
    . rw [elements, if_neg hfits]
      rfl
    . by_cases hhead : off + 2 ≤ len
      . apply Or.inr
        have hlen : len - off = 2 + (len - off - 2) := by omega
        rw [hlen, bytes_header]
        refine ⟨_, _, _, rfl, ?_⟩
        rw [length_bytes]
        omega
      . apply Or.inl
        rw [length_bytes]
        omega

theorem le_of_mem_elements {elem : Element} (hmem : elem ∈ elements mem len off)
    : off ≤ elem.off := by
  induction off using elements.induct mem len with
  | case1 off hfits ih =>
    rw [elements, if_pos hfits, List.mem_cons] at hmem
    cases hmem with
    | inl hhead => rw [hhead]
    | inr htail =>
      have := ih htail
      omega
  | case2 off hfits =>
    rw [elements, if_neg hfits] at hmem
    contradiction

theorem elements_pairwise (mem : Nat → UInt8) (len off : Nat)
    : (elements mem len off).Pairwise (fun lhs rhs => lhs.next ≤ rhs.off) := by
  induction off using elements.induct mem len with
  | case1 off hfits ih =>
    rw [elements, if_pos hfits, List.pairwise_cons]
    refine ⟨?_, ih⟩
    intro elem hmem
    exact le_of_mem_elements hmem
  | case2 off hfits =>
    rw [elements, if_neg hfits]
    exact List.Pairwise.nil

theorem length_elements_le (mem : Nat → UInt8) (len off : Nat)
    : 2 * (elements mem len off).length ≤ len - off := by
  induction off using elements.induct mem len with
  | case1 off hfits ih =>
    rw [elements, if_pos hfits, List.length_cons]
    omega
  | case2 off hfits =>
    rw [elements, if_neg hfits]
    exact Nat.zero_le _

theorem forEachElement_reads {σ : Type} (body : Nat → σ → Reads σ) (state : σ) {idx : Nat}
    (hread : idx ∈ (forEachElement body len off state).trace mem)
    : idx < len ∨ ∃ elem ∈ elements mem len off, ∃ state, idx ∈ (body elem.off state).trace mem := by
  induction off using elements.induct mem len generalizing state with
  | case1 off hfits ih =>
    rw [forEachElement] at hread
    simp only [hfits.1, ↓reduceIte, Reads.trace_bind, Reads.trace_byte, Reads.run_byte, hfits.2,
      List.mem_append, List.mem_singleton] at hread
    rw [elements, if_pos hfits]
    rcases hread with hlen | hbody | hrest
    . apply Or.inl
      omega
    . exact Or.inr ⟨_, List.mem_cons_self, state, hbody⟩
    . rcases ih _ hrest with hinside | ⟨elem, hmem, hstate⟩
      . exact Or.inl hinside
      . exact Or.inr ⟨elem, List.mem_cons_of_mem _ hmem, hstate⟩
  | case2 off hfits =>
    apply Or.inl
    rw [forEachElement] at hread
    split at hread
    . next hhead =>
      have hdata : ¬off + 2 + (mem (off + 1)).toNat ≤ len := by
        intro hdata
        exact hfits ⟨hhead, hdata⟩
      simp only [Reads.trace_bind, Reads.trace_byte, Reads.run_byte, hdata, ↓reduceIte,
        Reads.trace_pure, List.append_nil, List.mem_singleton] at hread
      omega
    . simp at hread

def visit (elem : Nat) (visited : List Nat) : Reads (List Nat) :=
  return visited ++ [elem]

theorem run_visit (mem : Nat → UInt8) (len off : Nat)
    : (forEachElement visit len off []).run mem = (elements mem len off).map Element.off := by
  have hfold : ∀ (elems : List Element) (visited : List Nat),
      elems.foldl (fun visited elem => (visit elem.off visited).run mem) visited
        = visited ++ elems.map Element.off := by
    intro elems
    induction elems with
    | nil => simp
    | cons elem elems ih =>
      intro visited
      rw [List.foldl_cons, ih]
      simp [visit]
  rw [run_forEachElement, hfold, List.nil_append]

structure Walks (mem : Nat → UInt8) (len : Nat) (visited : List Element) : Prop where
  visits : (forEachElement visit len 0 []).run mem = visited.map Element.off
  bounded : 2 * visited.length ≤ len
  increasing : (visited.map Element.off).Pairwise (· < ·)
  inside : ∀ idx ∈ (forEachElement visit len 0 []).trace mem, idx < len
  complete : ∀ elem ∈ visited, elem.id = mem elem.off
    ∧ elem.datalen = mem (elem.off + 1)
    ∧ elem.bytes mem ∈ completeElements
  left : ∃ rest, bytes mem 0 len = (visited.map (Element.bytes mem)).flatten ++ rest ∧ Incomplete rest
  longest : ∀ words : List (List UInt8), (∀ word ∈ words, word ∈ completeElements)
    → words.flatten <+: bytes mem 0 len
    → words.flatten <+: (visited.map (Element.bytes mem)).flatten
  -- the loop with any other body
  anyBody : ∀ (σ : Type) (body : Nat → σ → Reads σ) (state : σ),
    (forEachElement body len 0 state).run mem
        = visited.foldl (fun state elem => (body elem.off state).run mem) state
      ∧ ∀ idx ∈ (forEachElement body len 0 state).trace mem,
          idx < len ∨ ∃ elem ∈ visited, ∃ state, idx ∈ (body elem.off state).trace mem

theorem for_each_element_walk (mem : Nat → UInt8) (len : Nat)
    : Walks mem len (elements mem len 0) := by
  have ⟨rest, hsplit, hrest⟩ := elements_split mem len 0
  rw [Nat.sub_zero] at hsplit
  constructor
  case visits => exact run_visit mem len 0
  case bounded => exact length_elements_le mem len 0
  case increasing =>
    rw [List.pairwise_map]
    apply (elements_pairwise mem len 0).imp
    intro lhs rhs hle
    unfold Element.next Element.data at hle
    omega
  case inside =>
    intro idx hidx
    rcases forEachElement_reads visit [] hidx with hinside | ⟨elem, _, state, hbody⟩
    . exact hinside
    . contradiction
  case complete =>
    intro elem hmem
    have ⟨_, hid, hdatalen⟩ := of_mem_elements hmem
    exact ⟨hid, hdatalen, elements_complete elem⟩
  case left => exact ⟨rest, hsplit, hrest⟩
  case longest =>
    intro words hwords hpre
    rw [hsplit] at hpre
    have hcomplete : ∀ word ∈ (elements mem len 0).map (Element.bytes mem), word ∈ completeElements := by
      intro word hword
      rw [List.mem_map] at hword
      rcases hword with ⟨elem, _, hword⟩
      rw [← hword]
      apply elements_complete
    have hlist : words <+: (elements mem len 0).map (Element.bytes mem) := by
      apply completeElements_prefixCode.prefix_of_flatten_prefix hcomplete hwords _ hpre
      intro word hword
      exact hrest.not_prefix hword
    rcases hlist with ⟨others, hothers⟩
    refine ⟨others.flatten, ?_⟩
    rw [← List.flatten_append, hothers]
  case anyBody =>
    intro σ body state
    refine ⟨run_forEachElement body mem len 0 state, ?_⟩
    intro idx hidx
    exact forEachElement_reads body state hidx

end Bsal
end OpenSyncRdk
