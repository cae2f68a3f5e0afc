import Fostering.Text.IpAddress

/-!
# Tables of code points

A property of code points is written as a row of stretches, from code point zero on: a letter for
what the code points of a stretch have in common, and how many they are, in hexadecimal.
-/

namespace Fostering.Text

/-- Reads a hexadecimal number. -/
def hexNumber (cs : List Char) : Nat := cs.foldl (fun n c => 16 * n + (digit? 16 c).getD 0) 0

/-- The letter and the length of each stretch. -/
abbrev Stretches := List (Char × Nat)

namespace Stretches

/-- Reads the written form of a stretch. -/
def readWord? (word : String) : Option (Char × Nat) :=
  match word.toList with
  | letter :: digits => some (letter, hexNumber digits)
  | [] => none

/-- Reads a table, line by line. -/
def read (lines : List String) : Stretches :=
  lines.flatMap fun line => (line.splitOn " ").filterMap readWord?

/-- The letter at a place; `otherwise` holds behind the last stretch. -/
def letterAt (otherwise : Char) : Stretches → Nat → Char
  | [], _ => otherwise
  | (letter, length) :: table, n =>
    if n < length then letter else letterAt otherwise table (n - length)

/-- The letter of a character. -/
def letter (table : Stretches) (otherwise : Char) (c : Char) : Char :=
  letterAt otherwise table c.toNat

end Stretches

end Fostering.Text
