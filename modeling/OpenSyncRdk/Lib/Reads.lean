import Mathlib.Data.List.Basic

/-!
Code that reads single bytes of a memory, and at which offsets it reads them.
-/

namespace OpenSyncRdk

inductive Reads (α : Type) where
  | pure (val : α)
  | read (off : Nat) (next : UInt8 → Reads α)

namespace Reads

variable {α β : Type}

def bind : Reads α → (α → Reads β) → Reads β
  | .pure val, f => f val
  | .read off next, f => .read off (fun byte => (next byte).bind f)

instance : Monad Reads where
  pure := Reads.pure
  bind := Reads.bind

def byte (off : Nat) : Reads UInt8 :=
  .read off .pure

def le16 (off : Nat) : Reads Nat := do
  let lo ← byte off
  let hi ← byte (off + 1)
  return lo.toNat + 256 * hi.toNat

def le32 (off : Nat) : Reads Nat := do
  let lo ← le16 off
  let hi ← le16 (off + 2)
  return lo + 65536 * hi

def run (mem : Nat → UInt8) : Reads α → α
  | .pure val => val
  | .read off next => (next (mem off)).run mem

def trace (mem : Nat → UInt8) : Reads α → List Nat
  | .pure _ => []
  | .read off next => off :: (next (mem off)).trace mem

variable {mem mem' : Nat → UInt8}

@[simp]
theorem run_pure (val : α)
    : (Pure.pure val : Reads α).run mem = val := by
  rfl

@[simp]
theorem trace_pure (val : α)
    : (Pure.pure val : Reads α).trace mem = [] := by
  rfl

@[simp]
theorem run_bind (x : Reads α) (f : α → Reads β)
    : (x >>= f).run mem = (f (x.run mem)).run mem := by
  induction x with
  | pure val => rfl
  | read off next ih => exact ih (mem off)

@[simp]
theorem trace_bind (x : Reads α) (f : α → Reads β)
    : (x >>= f).trace mem = x.trace mem ++ (f (x.run mem)).trace mem := by
  induction x with
  | pure val => rfl
  | read off next ih => exact congrArg (off :: ·) (ih (mem off))

@[simp]
theorem run_byte (off : Nat)
    : (byte off).run mem = mem off := by
  rfl

@[simp]
theorem trace_byte (off : Nat)
    : (byte off).trace mem = [off] := by
  rfl

@[simp]
theorem trace_le16 (off : Nat)
    : (le16 off).trace mem = [off, off + 1] := by
  simp [le16]

@[simp]
theorem trace_le32 (off : Nat)
    : (le32 off).trace mem = [off, off + 1, off + 2, off + 3] := by
  simp [le32]

theorem run_congr (x : Reads α) (hagree : ∀ off ∈ x.trace mem, mem' off = mem off)
    : x.run mem' = x.run mem := by
  induction x with
  | pure val => rfl
  | read off next ih =>
    have hoff : mem' off = mem off := hagree off (by simp [trace])
    unfold run
    rw [hoff]
    apply ih
    intro idx hidx
    apply hagree
    simp [trace, hidx]

end Reads
end OpenSyncRdk
