/-!
# Partial updates

A change to one column either keeps what is stored or sets a new value. For a column that may be
empty the new value may be no value, so three things can be said about it: keep, clear, set.
-/

namespace Fostering

/-- What an update says about a column. -/
inductive Change (α : Type) where
  | keep
  | set (value : α)
  deriving DecidableEq

namespace Change

variable {α : Type}

instance : Inhabited (Change α) := ⟨keep⟩

/-- The column after the change. -/
def apply (change : Change α) (stored : α) : α :=
  match change with
  | keep => stored
  | set value => value

/-- Sets the value that is there, and keeps otherwise. -/
def ofOption : Option α → Change α
  | some value => set value
  | none => keep

/-- The value that is set. -/
def value? : Change α → Option α
  | keep => none
  | set value => some value

@[simp] theorem apply_keep (stored : α) : (keep : Change α).apply stored = stored := rfl

@[simp] theorem apply_set (value stored : α) : (set value).apply stored = value := rfl

end Change

end Fostering
