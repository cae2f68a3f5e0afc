import Fostering.Decimal.Shortest

/-!
# Doubles as text

A `Notation` says how a double is written: which exponents are written out in full, how an exponent
looks, and the names of what is no finite number. Each place that writes doubles has one of its own.
-/

namespace Fostering

/-- How a double is written. -/
structure NumberStyle where
  /-- The lowest decimal exponent of the leading digit that is written out in full. -/
  lowest : Int
  /-- The first decimal exponent of the leading digit that is not written out in full. -/
  highest : Int
  /-- Whether a positive exponent has a sign. -/
  plus : Bool
  /-- The least number of digits of an exponent. -/
  exponentDigits : Nat
  nan : String
  infinity : String

namespace NumberStyle

/-- Zeros. -/
def zeros (n : Nat) : String := String.ofList (List.replicate n '0')

/-- A positive decimal whose leading digit has the exponent `lead`, written out in full. -/
def positional (digits : String) (lead : Int) : String :=
  if lead < 0 then "0." ++ zeros (-lead - 1).toNat ++ digits
  else
    let whole := lead.toNat + 1
    if digits.length ≤ whole then digits ++ zeros (whole - digits.length) ++ ".0"
    else String.ofList (digits.toList.take whole) ++ "." ++ String.ofList (digits.toList.drop whole)

/-- A positive decimal with an exponent. -/
def scientific (style : NumberStyle) (digits : String) (lead : Int) : String :=
  let tail := digits.toList.drop 1
  let mantissa := String.ofList (digits.toList.take 1) ++ (if tail.isEmpty then "" else "." ++ String.ofList tail)
  let size := toString lead.natAbs
  mantissa ++ "e" ++ (if lead < 0 then "-" else if style.plus then "+" else "")
    ++ zeros (style.exponentDigits - size.length) ++ size

/-- The text of a double. -/
def write (style : NumberStyle) : Binary64 → String
  | .nan => style.nan
  | .infinite negative => (if negative then "-" else "") ++ style.infinity
  | .finite negative mantissa exponent =>
    let magnitude :=
      if mantissa = 0 then "0.0"
      else
        let d := Binary64.shortest mantissa exponent
        let digits := toString d.digits
        let lead := d.exponent + digits.length - 1
        if style.lowest ≤ lead ∧ lead < style.highest then positional digits lead
        else style.scientific digits lead
    (if negative then "-" else "") ++ magnitude

end NumberStyle

end Fostering
