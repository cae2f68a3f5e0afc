import Fostering.Decimal.Binary64
import Fostering.Time.Rfc3339
import Fostering.Json.Value

/-!
# What the rows of most tables share

A row has an id, knows when it was made and last changed, and is never erased: deleting it sets a
mark and a date. A row is *live* while the mark is not set.

A list is sorted by the value of a column and then by id. `SortKey` is such a value; an absent value
comes after every other.
-/

namespace Fostering

/-- The columns that a row shares with the rows of other tables. -/
structure Entry where
  id : Int := 0
  isDeleted : Bool := false
  deletedAt : Option Instant := none
  createdAt : Instant := .unset
  updatedAt : Instant := .unset
  deriving DecidableEq, Inhabited

namespace Entry

/-- Whether a row has not been deleted. -/
def isLive (e : Entry) : Bool := !e.isDeleted

/-- A row that is deleted at an instant. -/
def deleted (e : Entry) (now : Instant) : Entry :=
  { e with isDeleted := true, deletedAt := some now, updatedAt := now }

/-- A row that is changed at an instant. -/
def touched (e : Entry) (now : Instant) : Entry := { e with updatedAt := now }

/-- A new row, with the dates that were not set filled in. -/
def stamped (e : Entry) (now : Instant) : Entry :=
  { e with createdAt := e.createdAt.fillIfUnset now, updatedAt := e.updatedAt.fillIfUnset now }

end Entry

/-- A kind of row with the shared columns. -/
class HasEntry (ρ : Type) where
  entry : ρ → Entry
  setEntry : Entry → ρ → ρ
  entry_setEntry : ∀ e r, entry (setEntry e r) = e

namespace HasEntry

variable {ρ : Type} [HasEntry ρ]

/-- The id of a row. -/
def id (r : ρ) : Int := (entry r).id

/-- Whether a row has not been deleted. -/
def isLive (r : ρ) : Bool := (entry r).isLive

/-- Changes the shared columns. -/
def modifyEntry (f : Entry → Entry) (r : ρ) : ρ := setEntry (f (entry r)) r

@[simp] theorem entry_modifyEntry (f : Entry → Entry) (r : ρ) :
    entry (modifyEntry f r) = f (entry r) := entry_setEntry _ _

end HasEntry

/-! ## Sorting -/

/-- The value of a column. All values of one column are of one kind. -/
inductive SortKey where
  | int (value : Int)
  | flag (value : Bool)
  | text (value : String)
  | moment (value : Instant)
  | real (value : Binary64)
  | absent
  deriving DecidableEq

namespace SortKey

/-- The rank of a kind; absent values come last. -/
def rank : SortKey → Nat
  | int _ => 0
  | flag _ => 1
  | text _ => 2
  | moment _ => 3
  | real _ => 4
  | absent => 5

/-- Whether a value comes before or with another. Texts are compared by code point. -/
def le : SortKey → SortKey → Bool
  | int a, int b => a ≤ b
  | flag a, flag b => !a || b
  | text a, text b => !decide (b < a)
  | moment a, moment b => !b.before a
  | real a, real b => a.le b
  | a, b => a.rank ≤ b.rank

/-- The key of a value that may be absent. -/
def ofOption {α : Type} (key : α → SortKey) : Option α → SortKey
  | some a => key a
  | none => absent

end SortKey

/-- The columns of a kind of row that its lists can be put in order by. -/
class Columns (ρ : Type) where
  column? : String → Option (ρ → SortKey)

/-- The shared columns by their names. -/
def Entry.column? : String → Option (Entry → SortKey)
  | "id" => some fun e => .int e.id
  | "is_deleted" => some fun e => .flag e.isDeleted
  | "deleted_at" => some fun e => .ofOption .moment e.deletedAt
  | "created_at" => some fun e => .moment e.createdAt
  | "updated_at" => some fun e => .moment e.updatedAt
  | _ => none

/-- The columns of a row: its own, and the shared ones. -/
def Columns.ofEntry {ρ : Type} [HasEntry ρ] (own : String → Option (ρ → SortKey)) (name : String) :
    Option (ρ → SortKey) :=
  own name <|> (Entry.column? name).map fun key r => key (HasEntry.entry r)

/-- An instant as it is shown to clients. -/
def Json.ofInstant (t : Instant) : Json := .text t.toText

end Fostering
