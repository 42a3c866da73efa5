import OpenSyncRdk.Lib.Reads

/-!
The walk through the elements of a management frame, `bm_ieee80211.h`. An element is its `id`, its
`datalen` and `datalen` bytes of data.
-/

namespace OpenSyncRdk
namespace Bsal

structure Element where
  off : Nat
  id : UInt8
  datalen : UInt8
  deriving DecidableEq

namespace Element

def data (elem : Element) : Nat :=
  elem.off + 2

def next (elem : Element) : Nat :=
  elem.data + elem.datalen.toNat

def Covers (elem : Element) (off : Nat) : Prop :=
  elem.data ≤ off ∧ off < elem.next

end Element

variable {σ : Type}

def forEachElement (body : Nat → σ → Reads σ) (len elem : Nat) (state : σ) : Reads σ :=
  if elem + 2 ≤ len then do
    let datalen ← Reads.byte (elem + 1)
    if elem + 2 + datalen.toNat ≤ len then do
      let state' ← body elem state
      forEachElement body len (elem + 2 + datalen.toNat) state'
    else
      return state
  else
    return state
termination_by len - elem

def elements (mem : Nat → UInt8) (len off : Nat) : List Element :=
  if off + 2 ≤ len ∧ off + 2 + (mem (off + 1)).toNat ≤ len then
    { off, id := mem off, datalen := mem (off + 1) }
      :: elements mem len (off + 2 + (mem (off + 1)).toNat)
  else
    []
termination_by len - off

theorem of_mem_elements {mem : Nat → UInt8} {len off : Nat} {elem : Element}
    (hmem : elem ∈ elements mem len off)
    : elem.next ≤ len ∧ elem.id = mem elem.off ∧ elem.datalen = mem (elem.off + 1) := by
  induction off using elements.induct mem len with
  | case1 off hfits ih =>
    rw [elements, if_pos hfits, List.mem_cons] at hmem
    cases hmem with
    | inl hhead =>
      subst hhead
      exact ⟨hfits.right, rfl, rfl⟩
    | inr htail => exact ih htail
  | case2 off hfits =>
    rw [elements, if_neg hfits] at hmem
    simp at hmem

theorem run_forEachElement (body : Nat → σ → Reads σ) (mem : Nat → UInt8) (len off : Nat) (state : σ)
    : (forEachElement body len off state).run mem
        =
      (elements mem len off).foldl (fun state elem => (body elem.off state).run mem) state := by
  induction off using elements.induct mem len generalizing state with
  | case1 off hfits ih =>
    have ⟨hhead, hdata⟩ := hfits
    rw [forEachElement, elements]
    simp [hhead, hdata, ih]
  | case2 off hfits =>
    rw [forEachElement, elements]
    by_cases hhead : off + 2 ≤ len
    . have hdata : ¬off + 2 + (mem (off + 1)).toNat ≤ len := by
        intro hdata
        exact hfits ⟨hhead, hdata⟩
      simp [hhead, hdata]
    . simp [hhead]

end Bsal
end OpenSyncRdk
