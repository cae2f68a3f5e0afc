import Fostering.Error
import Fostering.Text.Blank

/-!
# The order of a list

A client asks for an order with a text `field:direction`. `SortTerms.read` takes the text apart,
`ListOrder.resolve` checks the field against the columns that the list may be sorted by and puts the
configured defaults in place of what is missing. Only a column of the list, or `created_at`, ever
comes out.
-/

namespace Fostering

/-- The character between the two halves of a sort text. -/
def sortDelimiter : Char := ':'

/-- The column that every list has, used where the configured default does not apply. -/
def fallbackColumn : String := "created_at"

/-- A direction. -/
inductive Direction where
  | asc
  | desc
  deriving DecidableEq, Inhabited

/-- Why a sort text is refused. -/
inductive SortError where
  /-- The text has no delimiter. -/
  | malformed (text : String)
  /-- The direction is neither of the two. -/
  | direction (text : String)
  /-- The field is not a column of the list. -/
  | unknownField (field : String) (allowed : List String)
  deriving DecidableEq

/-- What the client is told. -/
def SortError.message : SortError → String
  | malformed text =>
    "Invalid sort expression '" ++ text ++ "', expected 'field" ++ sortDelimiter.toString
      ++ "direction'"
  | direction text => "Invalid sort direction '" ++ text ++ "', expected 'asc' or 'desc'"
  | unknownField field allowed =>
    "Cannot sort by '" ++ field ++ "'. Allowed fields: " ++ String.intercalate ", " allowed

/-- A refused sort is a fault of the caller's input. -/
def SortError.toError (e : SortError) : Error := .validation e.message

namespace Direction

/-- The name of a direction. -/
def name : Direction → String
  | asc => "asc"
  | desc => "desc"

/-- The keyword of a direction in an `ORDER BY` clause. -/
def keyword : Direction → String
  | asc => "ASC"
  | desc => "DESC"

/-- The direction of a list when nothing else is said: newest first. -/
def standard : Direction := .desc

/-- Reads a direction; the seven-bit letters count alike in both cases. -/
def read (text : String) : Except SortError Direction :=
  let letters := text.toList.map Char.toLower
  if letters = "asc".toList then .ok asc
  else if letters = "desc".toList then .ok desc
  else .error (.direction text)

@[simp] theorem read_name (o : Direction) : read o.name = .ok o := by
  cases o <;> rfl

end Direction

/-- The two halves of a sort text, each possibly empty. -/
structure SortTerms where
  field : String
  direction : String
  deriving DecidableEq

/-- Takes a sort text apart at its first delimiter; a blank text has two empty halves. -/
def SortTerms.read (text : String) : Except SortError SortTerms :=
  let cs := Text.trimChars text.toList
  if cs = [] then .ok ⟨"", ""⟩
  else
    match cs.dropWhile (· ≠ sortDelimiter) with
    | [] => .error (.malformed (String.ofList cs))
    | _ :: rest =>
      .ok ⟨String.ofList (Text.trimChars (cs.takeWhile (· ≠ sortDelimiter))),
        String.ofList (Text.trimChars rest)⟩

/-- A direction, or `default` where the text says nothing. -/
def Direction.readOr (default : Direction) (text : String) : Except SortError Direction :=
  if text = "" then .ok default else read text

/-- The order that applies where a client asks for none. -/
structure DefaultOrder where
  field : String
  direction : Direction
  deriving DecidableEq

namespace DefaultOrder

/-- Newest first. -/
def standard : DefaultOrder := ⟨fallbackColumn, .standard⟩

instance : Inhabited DefaultOrder := ⟨standard⟩

/-- Reads configured defaults; an empty half keeps the standard one. -/
def read (text : String) : Except SortError DefaultOrder := do
  let terms ← SortTerms.read text
  let direction ← standard.direction.readOr terms.direction
  return ⟨if terms.field = "" then standard.field else terms.field, direction⟩

end DefaultOrder

/-- An order that a list can be put in: one of its columns and a direction. -/
structure ListOrder where
  column : String
  direction : Direction
  deriving DecidableEq

namespace ListOrder

instance : Inhabited ListOrder := ⟨⟨fallbackColumn, .standard⟩⟩

/-- The `ORDER BY` clause of an order; rows that agree on the column are told apart by their id. -/
def clause (order : ListOrder) (table : String) : String :=
  "ORDER BY " ++ table ++ "." ++ order.column ++ " " ++ order.direction.keyword ++ ", " ++ table ++ ".id "
    ++ order.direction.keyword

/-- The column for a requested field: that field if the list has it, the default column if the
field is empty. -/
def column? (field : String) (allowed : List String) (defaults : DefaultOrder) :
    Except SortError String :=
  if field = "" then
    .ok (if defaults.field ∈ allowed then defaults.field else fallbackColumn)
  else if field ∈ allowed then .ok field
  else .error (.unknownField field allowed)

/-- The order that a request asks for. A fault in the text comes before an unknown field, and that
before a bad direction. -/
def resolve (text : Option String) (allowed : List String) (defaults : DefaultOrder) :
    Except SortError ListOrder := do
  let terms ← SortTerms.read (text.getD "")
  let column ← column? terms.field allowed defaults
  let direction ← defaults.direction.readOr terms.direction
  return ⟨column, direction⟩

/-- The order that a request asks for, or the refusal of the request. -/
def forRequest (text : Option String) (allowed : List String) (defaults : DefaultOrder) :
    Except Error ListOrder :=
  (resolve text allowed defaults).mapError SortError.toError

end ListOrder

end Fostering
