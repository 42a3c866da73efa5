import OpenSyncRdk.Lib.Filled
import OpenSyncRdk.Vif.AclReconcile

/-!
`acl_buf_to_acl_list` with the array that its caller has allocated, and the size that it gets declared
and corrects, `vif.c`.
-/

namespace OpenSyncRdk
namespace Vif

structure AclArray where
  aclList : Filled CStr
  aclListSize : Nat

def storeAclTokens (aclBuf : CStr) (s : AclArray) : Bool × AclArray :=
  match h : strtok macListSeparator aclBuf with
  | none =>
    if s.aclList.count < s.aclListSize then
      (true, { s with aclListSize := s.aclList.count })
    else
      (true, s)
  | some (p, rest) =>
    have := strtok_length_lt macListSeparator h
    if p.length ≠ macStrLen - 1 then
      (false, s)
    else if s.aclList.count ≥ s.aclListSize then
      (false, s)
    else
      storeAclTokens rest { s with aclList := s.aclList.put (strscpy macStrLen p) }
termination_by aclBuf.length

/-- `acl_buf_to_acl_list` for an array as `get_acl_list` allocates it, with as many entries as declared. -/
def aclBufToAclArray (aclBuf : CStr) (allocated : List CStr) : Bool × AclArray :=
  storeAclTokens aclBuf { aclList := .ofCells allocated, aclListSize := allocated.length }

def IsMacText (run : CStr) : Prop :=
  run.length = macStrLen - 1

theorem storeAclTokens_of_none {aclBuf : CStr} (s : AclArray)
    (hnone : strtok macListSeparator aclBuf = none)
    : storeAclTokens aclBuf s
        =
      if s.aclList.count < s.aclListSize then
        (true, { s with aclListSize := s.aclList.count })
      else
        (true, s) := by
  rw [storeAclTokens]
  split
  . rfl
  . next htoken =>
    rw [hnone] at htoken
    contradiction

theorem storeAclTokens_of_some {aclBuf p rest : CStr} (s : AclArray)
    (hsome : strtok macListSeparator aclBuf = some (p, rest))
    : storeAclTokens aclBuf s
        =
      if p.length ≠ macStrLen - 1 then
        (false, s)
      else if s.aclList.count ≥ s.aclListSize then
        (false, s)
      else
        storeAclTokens rest { s with aclList := s.aclList.put (strscpy macStrLen p) } := by
  rw [storeAclTokens]
  split
  . next hnone =>
    rw [hsome] at hnone
    contradiction
  . next p' rest' htoken =>
    rw [hsome] at htoken
    injection htoken with htoken
    injection htoken with hp hrest
    rw [hp, hrest]

structure StoresRuns (allocated front runs : List CStr) (result : Bool × AclArray) : Prop where
  accepts : result.1 = true ↔
    (∀ run ∈ runs, IsMacText run) ∧ front.length + runs.length ≤ allocated.length
  holds : result.1 = true → result.2.aclList.Holds allocated (front ++ runs)
  size_eq : result.1 = true → result.2.aclListSize = front.length + runs.length
  inside : result.2.aclList.outside = []

theorem storeAclTokens_stores {aclBuf : CStr} {s : AclArray} {allocated front : List CStr}
    (hholds : s.aclList.Holds allocated front) (hsize : s.aclListSize = allocated.length)
    (hroom : front.length ≤ allocated.length)
    : StoresRuns allocated front (words macListSeparator aclBuf) (storeAclTokens aclBuf s) := by
  have hcount := hholds.count_eq
  induction aclBuf, s using storeAclTokens.induct generalizing front with
  | case1 aclBuf s hnone hshort =>
    rw [storeAclTokens_of_none s hnone, if_pos hshort, words_of_strtok_none hnone]
    refine ⟨?_, ?_, ?_, hholds.inside⟩
    . simpa using hroom
    . intro _
      rw [List.append_nil]
      exact hholds
    . intro _
      exact hcount
  | case2 aclBuf s hnone hfull =>
    rw [storeAclTokens_of_none s hnone, if_neg hfull, words_of_strtok_none hnone]
    refine ⟨?_, ?_, ?_, hholds.inside⟩
    . simpa using hroom
    . intro _
      rw [List.append_nil]
      exact hholds
    . intro _
      rw [List.length_nil]
      dsimp only
      omega
  | case3 aclBuf s p rest htoken _ hlength =>
    rw [storeAclTokens_of_some s htoken, if_pos hlength, words_of_strtok_some htoken]
    refine ⟨?_, by simp, by simp, hholds.inside⟩
    constructor
    . simp
    . intro ⟨hruns, _⟩
      exact absurd (hruns p (by simp)) hlength
  | case4 aclBuf s p rest htoken _ hlength hmany =>
    rw [storeAclTokens_of_some s htoken, if_neg hlength, if_pos hmany, words_of_strtok_some htoken]
    refine ⟨?_, by simp, by simp, hholds.inside⟩
    constructor
    . simp
    . intro ⟨_, hfits⟩
      rw [List.length_cons] at hfits
      omega
  | case5 aclBuf s p rest htoken _ hlength hmany ih =>
    have hcopy : strscpy macStrLen p = p := by
      apply List.take_of_length_le
      omega
    rw [hcopy] at ih
    have hput := hholds.put (by omega) p
    have ⟨haccepts, hstored, hsize', hinside⟩ :=
      ih hput hsize (by rw [List.length_append, List.length_singleton]; omega) hput.count_eq
    rw [storeAclTokens_of_some s htoken, if_neg hlength, if_neg hmany, words_of_strtok_some htoken,
      hcopy]
    rw [List.length_append, List.length_singleton] at haccepts hsize'
    rw [List.append_assoc, List.singleton_append] at hstored
    refine ⟨?_, hstored, ?_, hinside⟩
    . have hp : IsMacText p := not_not.mp hlength
      rw [haccepts, List.forall_mem_cons, List.length_cons]
      constructor
      . intro ⟨hruns, hfits⟩
        exact ⟨⟨hp, hruns⟩, by omega⟩
      . intro ⟨⟨_, hruns⟩, hfits⟩
        exact ⟨hruns, by omega⟩
    . intro hok
      rw [hsize' hok, List.length_cons]
      omega

/-- The parser over lists, `aclBufToAclList`, returns the entries that are filled. -/
theorem go_eq_storeAclTokens {aclBuf : CStr} {s : AclArray} {allocated front : List CStr}
    (hholds : s.aclList.Holds allocated front) (hsize : s.aclListSize = allocated.length)
    : aclBufToAclList.go allocated.length aclBuf front
        =
      if (storeAclTokens aclBuf s).1 then
        some (storeAclTokens aclBuf s).2.aclList.front
      else
        none := by
  have hcount := hholds.count_eq
  induction aclBuf, s using storeAclTokens.induct generalizing front with
  | case1 aclBuf s hnone hshort =>
    rw [go_of_none front hnone, storeAclTokens_of_none s hnone, if_pos hshort]
    simp [hholds.front_eq]
  | case2 aclBuf s hnone hfull =>
    rw [go_of_none front hnone, storeAclTokens_of_none s hnone, if_neg hfull]
    simp [hholds.front_eq]
  | case3 aclBuf s p rest htoken _ hlength =>
    rw [go_of_some front htoken, storeAclTokens_of_some s htoken, if_pos hlength, if_pos hlength]
    rfl
  | case4 aclBuf s p rest htoken _ hlength hmany =>
    rw [go_of_some front htoken, storeAclTokens_of_some s htoken, if_neg hlength, if_neg hlength,
      if_pos hmany, if_pos (by omega)]
    rfl
  | case5 aclBuf s p rest htoken _ hlength hmany ih =>
    have hput := hholds.put (by omega) (strscpy macStrLen p)
    rw [go_of_some front htoken, storeAclTokens_of_some s htoken, if_neg hlength, if_neg hlength,
      if_neg hmany, if_neg (by omega)]
    exact ih hput hsize hput.count_eq

theorem aclBufToAclArray_stores (aclBuf : CStr) (allocated : List CStr)
    : StoresRuns allocated [] (words macListSeparator aclBuf) (aclBufToAclArray aclBuf allocated) := by
  apply storeAclTokens_stores
  . apply Filled.holds_ofCells
  . rfl
  . exact Nat.zero_le _

theorem acl_buf_to_acl_list_exact (aclBuf : CStr) (allocated : List CStr)
    : let runs := words macListSeparator aclBuf
      let result := aclBufToAclArray aclBuf allocated
      (result.1 = true ↔ (∀ run ∈ runs, IsMacText run) ∧ runs.length ≤ allocated.length)
        ∧ (result.1 = true →
            result.2.aclList.cells = runs ++ allocated.drop runs.length
              ∧ result.2.aclListSize = runs.length)
        ∧ result.2.aclList.outside = []
        ∧ (aclBufToAclList allocated.length aclBuf
              =
            if result.1 then some result.2.aclList.front else none)
        ∧ (∀ (macs : List CStr) (glue : CStr),
            (∀ mac ∈ macs, IsMacText mac ∧ ∀ c ∈ mac, macListSeparator c = false) →
            glue ≠ [] → (∀ c ∈ glue, macListSeparator c = true) → macs.length ≤ allocated.length →
            aclBufToAclList allocated.length (List.intercalate glue macs) = some macs) := by
  intro runs result
  have hlist : ∀ aclBuf,
      aclBufToAclList allocated.length aclBuf
        =
      if (aclBufToAclArray aclBuf allocated).1 then
        some (aclBufToAclArray aclBuf allocated).2.aclList.front
      else
        none := by
    intro aclBuf
    exact go_eq_storeAclTokens (Filled.holds_ofCells allocated) rfl
  have ⟨haccepts, hholds, hsize, hinside⟩ := aclBufToAclArray_stores aclBuf allocated
  rw [List.length_nil, Nat.zero_add] at haccepts hsize
  refine ⟨haccepts, ?_, hinside, hlist aclBuf, ?_⟩
  . intro hok
    exact ⟨(hholds hok).cells_eq, hsize hok⟩
  . intro macs glue hmacs hne hglue hfits
    have hruns : words macListSeparator (List.intercalate glue macs) = macs := by
      apply words_intercalate hne hglue
      intro mac hmem
      have ⟨htext, hsep⟩ := hmacs mac hmem
      refine ⟨?_, hsep⟩
      intro hnil
      rw [hnil] at htext
      contradiction
    have ⟨haccepts, hholds, _, _⟩ := aclBufToAclArray_stores (List.intercalate glue macs) allocated
    rw [hruns, List.length_nil, Nat.zero_add] at haccepts
    rw [hruns, List.nil_append] at hholds
    have hok := haccepts.mpr ⟨fun mac hmem => (hmacs mac hmem).1, hfits⟩
    rw [hlist, if_pos hok, (hholds hok).front_eq]

end Vif
end OpenSyncRdk
