import Mathlib.Data.Option.Basic

/-!
The columns of a row as C code holds them: a value, and a flag that says whether there is one. What a
column holds without the flag can be read all the same.
-/

namespace OpenSyncRdk

structure Column (α : Type) where
  present : Bool
  val : α
  deriving DecidableEq

namespace Column

variable {α : Type}

def set (val : α) : Column α :=
  { present := true, val }

def unset [Inhabited α] : Column α :=
  { present := false, val := default }

instance [Inhabited α] : Inhabited (Column α) :=
  ⟨unset⟩

def toOption (column : Column α) : Option α :=
  if column.present then some column.val else none

def Mirrors (src dst : Column α) : Prop :=
  dst.toOption = src.toOption

def copyIf (src dst : Column α) : Column α :=
  if src.present then set src.val else dst

theorem toOption_eq_none_iff (column : Column α)
    : column.toOption = none ↔ column.present = false := by
  unfold toOption
  cases column.present <;> simp

theorem mirrors_set_iff (src : Column α)
    : src.Mirrors (set src.val) ↔ src.present = true := by
  unfold Mirrors toOption set
  cases src.present <;> simp

theorem mirrors_unset_iff [Inhabited α] (src : Column α)
    : src.Mirrors unset ↔ src.present = false := by
  unfold Mirrors
  rw [eq_comm, show (unset : Column α).toOption = none from rfl, toOption_eq_none_iff]

theorem mirrors_copyIf [Inhabited α] (src : Column α)
    : src.Mirrors (src.copyIf unset) := by
  unfold Mirrors copyIf toOption
  cases src.present <;> rfl

end Column
end OpenSyncRdk
