import Fostering.Change
import Fostering.Json.Fault

/-!
# Objects of a known shape

A shape names the fields of an object, says what each may hold and what its absence means. `Row` is
the type of what is read: one value for each field. The fields may come in any order in an object,
or as the items of a list in the order of the shape; keys outside the shape are passed over.
-/

namespace Fostering.Json

/-- A width of whole numbers. -/
inductive Width where
  | w16
  | w32
  | w64
  deriving DecidableEq

namespace Width

/-- The bits of a width. -/
def bits : Width → Nat
  | w16 => 16
  | w32 => 32
  | w64 => 64

/-- The name of a width in a message. -/
def name (w : Width) : String := "i" ++ toString w.bits

/-- Whether a number fits the width. -/
def fits (w : Width) (n : Int) : Bool := -(2 ^ (w.bits - 1)) ≤ n && n < 2 ^ (w.bits - 1)

end Width

/-- What a field may hold. -/
inductive Kind where
  | text
  | flag
  | whole (width : Width)
  | wholes (width : Width)
  | texts
  /-- A value of any type, kept as it is written. -/
  | raw
  deriving DecidableEq

/-- The type of what a field holds. -/
abbrev Kind.Value : Kind → Type
  | text => String
  | flag => Bool
  | whole _ => Int
  | wholes _ => List Int
  | texts => List String
  | raw => Bytes

/-- The value of a field that nobody filled in. -/
def Kind.empty : (kind : Kind) → kind.Value
  | text => ""
  | flag => false
  | whole _ => 0
  | wholes _ => []
  | texts => []
  | raw => []

/-- What the absence of a field means. -/
inductive Presence where
  /-- The field has to be there. -/
  | required
  /-- An absent field is empty; `null` is refused. -/
  | defaulted
  /-- An absent field and `null` are no value. -/
  | optional
  /-- An absent field and `null` keep what is stored. -/
  | changeable
  /-- An absent field keeps what is stored, `null` clears it. -/
  | clearable
  deriving DecidableEq

/-- One field of a shape. -/
structure Field where
  name : String
  kind : Kind
  presence : Presence
  deriving DecidableEq

/-- The type of what is read for a field. -/
abbrev Field.Value : Field → Type
  | ⟨_, kind, .required⟩ => kind.Value
  | ⟨_, kind, .defaulted⟩ => kind.Value
  | ⟨_, kind, .optional⟩ => Option kind.Value
  | ⟨_, kind, .changeable⟩ => Change kind.Value
  | ⟨_, kind, .clearable⟩ => Change (Option kind.Value)

/-- What an empty request has in a field. -/
def Field.empty : (field : Field) → field.Value
  | ⟨_, kind, .required⟩ => kind.empty
  | ⟨_, kind, .defaulted⟩ => kind.empty
  | ⟨_, _, .optional⟩ => none
  | ⟨_, _, .changeable⟩ => .keep
  | ⟨_, _, .clearable⟩ => .keep

/-- What an object without the field has in it. -/
def Field.absent : (field : Field) → Except Fault field.Value
  | ⟨name, _, .required⟩ => .error (.missingField name)
  | ⟨_, kind, .defaulted⟩ => .ok kind.empty
  | ⟨_, _, .optional⟩ => .ok none
  | ⟨_, _, .changeable⟩ => .ok .keep
  | ⟨_, _, .clearable⟩ => .ok .keep

/-- What a list that ends before the field has in it, if it may end there. -/
def Field.beyond? : (field : Field) → Option field.Value
  | ⟨_, _, .required⟩ => none
  | ⟨_, kind, .defaulted⟩ => some kind.empty
  | ⟨_, _, .optional⟩ => none
  | ⟨_, _, .changeable⟩ => none
  | ⟨_, _, .clearable⟩ => some .keep

/-- The named fields of an object, in the order of its list form. -/
structure Shape where
  name : String
  fields : List Field

/-- One value for each field. -/
abbrev Row : List Field → Type
  | [] => Unit
  | field :: fields => field.Value × Row fields

/-- The values that have been read so far. -/
abbrev PartialRow : List Field → Type
  | [] => Unit
  | field :: fields => Option field.Value × PartialRow fields

end Fostering.Json
