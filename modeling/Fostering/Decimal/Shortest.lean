import Fostering.Decimal.Binary64

/-!
# The fewest digits that read back

A positive double is the nearest double to every number of an interval around it; the ends belong to
the interval exactly if the mantissa is even. Of the decimals in the interval the shortest is taken,
and of two such the nearer to the double.
-/

namespace Fostering

namespace Binary64

/-- A positive decimal: `digits · 10 ^ exponent`, the last digit not zero. -/
structure Digits where
  digits : Nat
  exponent : Int
  deriving DecidableEq, Inhabited

/-- The interval of numbers that round to a double, as numerators over one denominator: the lower
end, the double, the upper end, the denominator. -/
def interval (mantissa : Nat) (exponent : Int) : Nat × Nat × Nat × Nat :=
  -- below a power of two the neighbour is half as far away
  let narrow := mantissa = 2 ^ 52 ∧ minExponent < exponent
  let low := if narrow then 4 * mantissa - 1 else 4 * mantissa - 2
  let up := 2 ^ exponent.toNat
  (low * up, 4 * mantissa * up, (4 * mantissa + 2) * up, 4 * 2 ^ (-exponent).toNat)

/-- `num / den · 10 ^ (-k)` as a quotient of natural numbers. -/
def onGrid (num den : Nat) (k : Int) : Nat × Nat :=
  if 0 ≤ k then (num, den * 10 ^ k.toNat) else (num * 10 ^ (-k).toNat, den)

/-- The multiple of `10 ^ k` in the interval that is nearest to the double, if there is one. -/
def gridPoint? (mantissa : Nat) (exponent k : Int) : Option Nat :=
  let (low, mid, high, den) := interval mantissa exponent
  let inside (n : Nat) : Bool :=
    let (ln, ld) := onGrid low den k
    let (hn, hd) := onGrid high den k
    if mantissa % 2 = 0 then decide (ln ≤ n * ld) && decide (n * hd ≤ hn)
    else decide (ln < n * ld) && decide (n * hd < hn)
  let (mn, md) := onGrid mid den k
  let below := mn / md
  let nearBelow := 2 * (mn % md) < md ∨ (2 * (mn % md) = md ∧ below % 2 = 0)
  match inside below, inside (below + 1) with
  | true, true => some (if nearBelow then below else below + 1)
  | true, false => some below
  | false, true => some (below + 1)
  | false, false => none

/-- Takes zeros off the end of a decimal; `fuel` bounds their number. -/
def dropZeros : Nat → Nat → Int → Digits
  | 0, n, k => ⟨n, k⟩
  | fuel + 1, n, k => if n % 10 = 0 ∧ n ≠ 0 then dropZeros fuel (n / 10) (k + 1) else ⟨n, k⟩

/-- Looks for the coarsest grid with a point in the interval, from `10 ^ k` down. -/
def search (mantissa : Nat) (exponent : Int) : Nat → Int → Digits
  | 0, k => ⟨mantissa, k⟩
  | fuel + 1, k =>
    match gridPoint? mantissa exponent k with
    | some n => if n = 0 then search mantissa exponent fuel (k - 1) else dropZeros 20 n k
    | none => search mantissa exponent fuel (k - 1)

/-- The decimal with the fewest digits that rounds to a positive double. -/
def shortest (mantissa : Nat) (exponent : Int) : Digits :=
  let bits : Int := mantissa.log2 + exponent
  -- a power of ten above the double
  let start := bits * 30103 / 100000 + 2
  search mantissa exponent 25 start

end Binary64

end Fostering
