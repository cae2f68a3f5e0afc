import Fostering.Bytes
import Fostering.Decimal.Notation

/-!
# JSON values

The values that answers and tokens are made of. An object keeps its fields in the order in which
they were put; `Json.render` writes a value without any blanks.
-/

namespace Fostering

/-- A JSON value. -/
inductive Json where
  | null
  | flag (value : Bool)
  | int (value : Int)
  | real (value : Binary64)
  | text (value : String)
  | list (items : List Json)
  | object (fields : List (String × Json))
  deriving Inhabited

namespace Json

/-- How a double is written: in full from `1e-5` up to, but not including, `1e16`. -/
def numberStyle : NumberStyle := ⟨-5, 16, true, 2, "null", "null"⟩

/-- The text of a double; one that is not finite has no text of its own. -/
def realText : Binary64 → String
  | .finite s m e => numberStyle.write (.finite s m e)
  | .nan | .infinite _ => "null"

/-- A character inside a written string. -/
def escapeChar (c : Char) : List Char :=
  if c = '"' then ['\\', '"']
  else if c = '\\' then ['\\', '\\']
  else if c = '\n' then ['\\', 'n']
  else if c = '\r' then ['\\', 'r']
  else if c = '\t' then ['\\', 't']
  else if c = '\x08' then ['\\', 'b']
  else if c = '\x0C' then ['\\', 'f']
  else if c.toNat < 0x20 then
    ['\\', 'u', '0', '0', Bytes.hexDigit (c.toNat / 16), Bytes.hexDigit (c.toNat % 16)]
  else [c]

/-- A written string. -/
def quote (s : String) : String :=
  "\"" ++ String.ofList (s.toList.flatMap escapeChar) ++ "\""

mutual

/-- The text of a value. -/
def render : Json → String
  | null => "null"
  | flag b => if b then "true" else "false"
  | int n => toString n
  | real x => realText x
  | text s => quote s
  | list items => "[" ++ renderItems items ++ "]"
  | object fields => "\x7b" ++ renderFields fields ++ "\x7d"

/-- The items of a list, a comma between two. -/
def renderItems : List Json → String
  | [] => ""
  | [item] => render item
  | item :: items => render item ++ "," ++ renderItems items

/-- The fields of an object, a comma between two. -/
def renderFields : List (String × Json) → String
  | [] => ""
  | [(name, value)] => quote name ++ ":" ++ render value
  | (name, value) :: fields => quote name ++ ":" ++ render value ++ "," ++ renderFields fields

end

/-- A text, or `null` where there is none. -/
def ofText? : Option String → Json
  | some s => text s
  | none => null

/-- A whole number, or `null` where there is none. -/
def ofInt? : Option Int → Json
  | some n => int n
  | none => null

end Json

end Fostering
