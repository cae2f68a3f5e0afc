import Fostering.Json.Scanner

/-!
# What a JSON number means

A number without fraction and exponent is whole if it fits the words of 64 bits; every other number
is a double. Digits are taken into 64 bits while they fit, and the double is then scaled by a power
of ten, which rounds a second time.
-/

namespace Fostering.Json

/-- A number. -/
inductive Number where
  | int (value : Int)
  | real (value : Binary64)
  deriving DecidableEq

/-- The number among what can be found in place of something else. -/
def Number.found : Number → Found
  | int n => .int n
  | real x => .real x

/-- The largest number of 64 bits. -/
def maxWord : Nat := 2 ^ 64 - 1

/-- Takes digits into a number of 64 bits while they fit: the number and how many were left. -/
def takeDigits (value : Nat) : Bytes → Nat × Nat
  | [] => (value, 0)
  | d :: digits =>
    if maxWord < 10 * value + digitValue d then (value, digits.length + 1)
    else takeDigits (10 * value + digitValue d) digits

/-- Scales a double by a power of ten, a step of `10 ^ 308` at a time. Each step rounds. -/
def scale (x : Binary64) (exponent : Int) : Except Fault Binary64 :=
  if 0 ≤ exponent then
    if x = .zero then .ok x
    else if 308 < exponent then .error .numberOutOfRange
    else
      let y := x.mul (.ofDecimal false 1 exponent)
      if y.isInfinite then .error .numberOutOfRange else .ok y
  else if exponent < -308 then
    if x = .zero then .ok x else scale (x.div (.ofDecimal false 1 308)) (exponent + 308)
  else .ok (x.div (.ofDecimal false 1 (-exponent)))
termination_by (-exponent).toNat

/-- The same double with the other sign, if so asked. -/
def withSign (negative : Bool) : Binary64 → Binary64
  | .finite _ m e => .finite negative m e
  | x => x

/-- The largest exponent that is taken as it stands. -/
def maxExponent : Int := 2 ^ 31 - 1

/-- The value of an exponent's digits, or nothing if it is too large. -/
def exponentValue? (value : Int) : Bytes → Option Int
  | [] => some value
  | d :: digits =>
    let next := 10 * value + digitValue d
    if maxExponent < next then none else exponentValue? next digits

/-- An exponent kept within 32 bits. -/
def clampExponent (e : Int) : Int := max (min e maxExponent) (-maxExponent - 1)

/-- A double from its sign, its significand and its decimal exponent. -/
def realOf (negative : Bool) (significand : Nat) (exponent : Int) : Except Fault Number := do
  let x ← scale (.ofNat significand) exponent
  return .real (withSign negative x)

/-- A whole number; what fits no word, and zero with a sign, becomes a double. -/
def wholeOf (negative : Bool) (value : Nat) : Number :=
  if !negative then .int value
  else if value = 0 ∨ 2 ^ 63 < value then .real (withSign true (.ofNat value))
  else .int (-value)

/-- The number that a text stands for. -/
def NumberText.value (text : NumberText) (negative : Bool) : Except Fault Number :=
  let (whole, left) := takeDigits 0 text.whole
  match text.fraction, text.exponent with
  | none, none => if left = 0 then .ok (wholeOf negative whole) else realOf negative whole left
  | fraction, exponent =>
    let (significand, start) : Nat × Int :=
      match fraction with
      | none => (whole, left)
      | some digits =>
        let (value, beyond) := takeDigits whole digits
        (value, left - (digits.length - beyond : Nat))
    match exponent with
    | none => realOf negative significand start
    | some (down, digits) =>
      match exponentValue? 0 digits with
      | some e => realOf negative significand (clampExponent (if down then start - e else start + e))
      | none =>
        if significand ≠ 0 ∧ !down then .error .numberOutOfRange
        else .ok (.real (withSign negative .zero))

end Fostering.Json
