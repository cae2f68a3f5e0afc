import Fostering.Power
import Fostering.Text.Blank

/-!
# Whole numbers as text

A whole number is one decimal digit or more, after a sign or none. Digits are read from the left, and
the first that is no digit or leaves the bounds decides what is wrong.
-/

namespace Fostering

/-- Why a text is not a whole number within bounds. -/
inductive IntegerFault where
  | empty
  | invalidDigit
  | tooLarge
  | tooSmall
  deriving DecidableEq

namespace IntegerFault

/-- The fault in words. -/
def message : IntegerFault → String
  | empty => "cannot parse integer from empty string"
  | invalidDigit => "invalid digit found in string"
  | tooLarge => "number too large to fit in target type"
  | tooSmall => "number too small to fit in target type"

/-- The name of the kind of fault. -/
def name : IntegerFault → String
  | empty => "Empty"
  | invalidDigit => "InvalidDigit"
  | tooLarge => "PosOverflow"
  | tooSmall => "NegOverflow"

end IntegerFault

/-- The numbers that a text may stand for. -/
structure Bounds where
  low : Int
  high : Int

namespace Bounds

/-- Signed words of 64 bits. -/
def i64 : Bounds := ⟨-(2 ^ 63), 2 ^ 63 - 1⟩

/-- Unsigned words of 64 bits. -/
def u64 : Bounds := ⟨0, 2 ^ 64 - 1⟩

/-- Unsigned words of 16 bits. -/
def u16 : Bounds := ⟨0, 2 ^ 16 - 1⟩

/-- Reads digits after a value, up or down from it. -/
def readDigits (bounds : Bounds) (down : Bool) (value : Int) :
    List Char → Except IntegerFault Int
  | [] => .ok value
  | c :: cs =>
    if c.isDigit then
      let digit : Int := c.toNat - 48
      let next := if down then 10 * value - digit else 10 * value + digit
      if bounds.high < next then .error .tooLarge
      else if next < bounds.low then .error .tooSmall
      else readDigits bounds down next cs
    else .error .invalidDigit

/-- Reads a whole number. A minus sign is no digit where nothing is below zero. -/
def read (bounds : Bounds) (text : String) : Except IntegerFault Int :=
  match text.toList with
  | [] => .error .empty
  | '+' :: [] => .error .invalidDigit
  | '+' :: cs => bounds.readDigits false 0 cs
  | '-' :: [] => .error .invalidDigit
  | '-' :: cs => if bounds.low < 0 then bounds.readDigits true 0 cs else .error .invalidDigit
  | cs => bounds.readDigits false 0 cs

end Bounds

end Fostering
