import Fostering.Power

/-!
# Numbers of 64 binary digits

A double is a sign and a magnitude `mantissa · 2 ^ exponent`, or an infinity, or no number at all.
All arithmetic is exact arithmetic on natural numbers followed by one rounding: `ofRatio` gives the
double nearest to a quotient, the even one of two that are equally near.
-/

namespace Fostering

/-- A double. -/
inductive Binary64 where
  | nan
  | infinite (negative : Bool)
  /-- A finite number; the mantissa has at most 53 bits, and fewer only at the lowest exponent. -/
  | finite (negative : Bool) (mantissa : Nat) (exponent : Int)
  deriving DecidableEq, Inhabited

namespace Binary64

/-- The lowest exponent of a mantissa's last bit. -/
def minExponent : Int := -1074

/-- The highest exponent of a mantissa's last bit. -/
def maxExponent : Int := 971

/-- A zero without a sign. -/
def zero : Binary64 := finite false 0 minExponent

/-- The quotient of two natural numbers, rounded to the nearest, the even one of two. -/
def roundQuotient (num den : Nat) : Nat :=
  let q := num / den
  let twice := 2 * (num % den)
  if twice < den then q else if den < twice then q + 1 else q + q % 2

/-- `num / den · 2 ^ (-e)` as a quotient of natural numbers. -/
def scaled (num den : Nat) (e : Int) : Nat × Nat :=
  if 0 ≤ e then (num, den * 2 ^ e.toNat) else (num * 2 ^ (-e).toNat, den)

/-- The exponent at which a quotient is rounded: the lowest at which it still fits a mantissa. -/
def roundingExponent (num den : Nat) : Int :=
  let guess : Int := (num.log2 : Int) - den.log2 - 52
  let fits (e : Int) : Bool := let (n, d) := scaled num den e; n < d * 2 ^ 53
  max (if fits (guess - 1) then guess - 1 else guess) minExponent

/-- A quotient rounded at an exponent. -/
def roundAt (negative : Bool) (num den : Nat) (e : Int) : Binary64 :=
  let (n, d) := scaled num den e
  let m := roundQuotient n d
  let (m, e) := if m = 2 ^ 53 then (2 ^ 52, e + 1) else (m, e)
  if maxExponent < e then infinite negative else finite negative m e

/-- The double nearest to a quotient. -/
def ofRatio (negative : Bool) (num den : Nat) : Binary64 :=
  if num = 0 then finite negative 0 minExponent
  else roundAt negative num den (roundingExponent num den)

/-- The double nearest to a whole number. -/
def ofNat (n : Nat) : Binary64 := ofRatio false n 1

/-- The double nearest to `digits · 10 ^ exponent`. Exponents beyond every double are cut short. -/
def ofDecimal (negative : Bool) (digits : Nat) (exponent : Int) : Binary64 :=
  if digits = 0 then finite negative 0 minExponent
  else if 400 < exponent then infinite negative
  else if 0 ≤ exponent then ofRatio negative (digits * 10 ^ exponent.toNat) 1
  else
    let places := (-exponent).toNat
    -- beyond this no digit is left above half of the smallest double
    if digits.log2 + 1100 < 3 * places then finite negative 0 minExponent
    else ofRatio negative digits (10 ^ places)

/-- The sign of a double; no number has none. -/
def isNegative : Binary64 → Bool
  | nan => false
  | infinite s | finite s _ _ => s

/-- A finite magnitude as a quotient of natural numbers. -/
def magnitude (mantissa : Nat) (exponent : Int) : Nat × Nat :=
  if 0 ≤ exponent then (mantissa * 2 ^ exponent.toNat, 1) else (mantissa, 2 ^ (-exponent).toNat)

/-- The product of two finite doubles; any other operand goes through. -/
def mul : Binary64 → Binary64 → Binary64
  | finite s m e, finite t k f =>
    let (n1, d1) := magnitude m e
    let (n2, d2) := magnitude k f
    ofRatio (s != t) (n1 * n2) (d1 * d2)
  | finite .., other | other, _ => other

/-- The quotient of two finite doubles, the second not zero; any other operand goes through. -/
def div : Binary64 → Binary64 → Binary64
  | finite s m e, finite t k f =>
    let (n1, d1) := magnitude m e
    let (n2, d2) := magnitude k f
    ofRatio (s != t) (n1 * d2) (d1 * n2)
  | finite .., other | other, _ => other

/-- Whether a double is an infinity. -/
def isInfinite : Binary64 → Bool
  | infinite _ => true
  | _ => false

/-- A finite double as a numerator and a positive denominator. -/
def ratio (negative : Bool) (mantissa : Nat) (exponent : Int) : Int × Nat :=
  let (num, den) := magnitude mantissa exponent
  (if negative then -(num : Int) else num, den)

/-- The order in which a store sorts doubles: by value, the two zeros alike, with no number above
every number. -/
def le : Binary64 → Binary64 → Bool
  | _, nan => true
  | nan, _ => false
  | infinite s, infinite t => s || !t
  | infinite s, finite _ _ _ => s
  | finite _ _ _, infinite t => !t
  | finite s m e, finite t k f =>
    let (n1, d1) := ratio s m e
    let (n2, d2) := ratio t k f
    n1 * d2 ≤ n2 * d1

end Binary64

end Fostering
