import Fostering.Bytes
import Fostering.Text.Unprintable

/-!
# Quoted text in messages

A message shows a text between double quotes. Quotes, backslashes and everything that would not be
seen are escaped, so that any two texts look different.
-/

namespace Fostering.Text

/-- The small hexadecimal digits of a number, without leading zeros. -/
def hexDigits (n : Nat) : String := String.ofList ((Nat.toDigits 16 n).map Char.toLower)

/-- How a character looks inside a quoted text. -/
def quoteChar (c : Char) : List Char :=
  if c = '"' ∨ c = '\\' then ['\\', c]
  else if c = '\n' then ['\\', 'n']
  else if c = '\r' then ['\\', 'r']
  else if c = '\t' then ['\\', 't']
  else if c = Char.ofNat 0 then ['\\', '0']
  else if isUnprintable c then
    ['\\', 'u', '\x7b'] ++ (hexDigits c.toNat).toList ++ ['\x7d']
  else [c]

/-- A text between quotes. -/
def quoted (s : String) : String :=
  "\"" ++ String.ofList (s.toList.flatMap quoteChar) ++ "\""

end Fostering.Text
