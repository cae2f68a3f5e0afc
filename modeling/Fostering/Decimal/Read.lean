import Fostering.Decimal.Notation

/-!
# Doubles read from text

A decimal number with or without a point and an exponent, or the name of an infinity or of no
number, after a sign or none. At least one digit has to stand before or after the point.
-/

namespace Fostering

/-- Why a text is not a double. -/
inductive RealFault where
  | empty
  | invalid
  deriving DecidableEq

/-- The fault in words. -/
def RealFault.message : RealFault → String
  | empty => "cannot parse float from empty string"
  | invalid => "invalid float literal"

namespace Binary64

/-- How a double is shown in a message: in full from `1e-4` up to, but not including, `1e16`. -/
def messageStyle : NumberStyle := ⟨-4, 16, false, 1, "NaN", "inf"⟩

/-- The value of decimal digits. -/
def digitsValue (cs : List Char) : Nat := cs.foldl (fun n c => 10 * n + (c.toNat - 48)) 0

/-- Reads an exponent, which begins with its letter, or nothing. -/
def readExponent? : List Char → Option Int
  | [] => some 0
  | c :: cs =>
    if c = 'e' ∨ c = 'E' then
      let (down, digits) : Bool × List Char :=
        match cs with
        | '-' :: cs => (true, cs)
        | '+' :: cs => (false, cs)
        | cs => (false, cs)
      if digits.isEmpty ∨ !digits.all Char.isDigit then none
      else
        let size : Int := digitsValue digits
        some (if down then -size else size)
    else none

/-- Reads a decimal number without its sign. -/
def readDecimal? (negative : Bool) (cs : List Char) : Option Binary64 := do
  let whole := cs.takeWhile Char.isDigit
  let rest := cs.dropWhile Char.isDigit
  let (fraction, rest) : List Char × List Char :=
    match rest with
    | '.' :: rest => (rest.takeWhile Char.isDigit, rest.dropWhile Char.isDigit)
    | rest => ([], rest)
  if whole.isEmpty ∧ fraction.isEmpty then none
  let exponent ← readExponent? rest
  return ofDecimal negative (digitsValue (whole ++ fraction)) (exponent - fraction.length)

/-- Reads a double without its sign. -/
def readMagnitude? (negative : Bool) (cs : List Char) : Option Binary64 :=
  let letters := cs.map Char.toLower
  if letters = "inf".toList ∨ letters = "infinity".toList then some (infinite negative)
  else if letters = "nan".toList then some nan
  else readDecimal? negative cs

/-- Reads a double. -/
def read (text : String) : Except RealFault Binary64 :=
  let found : Option Binary64 :=
    match text.toList with
    | '-' :: cs => readMagnitude? true cs
    | '+' :: cs => readMagnitude? false cs
    | cs => readMagnitude? false cs
  match found with
  | some x => .ok x
  | none => .error (if text.isEmpty then .empty else .invalid)

end Binary64

end Fostering
