/-!
# Byte strings

A byte string is a list of bytes: the reader of a request body walks down it, and the digests cut it
into groups of equal length.

* `flatten_groups`: cutting into groups loses nothing.
-/

namespace Fostering

/-- A byte string. -/
abbrev Bytes := List UInt8

namespace Bytes

/-- Cuts a list into groups of `size + 1` elements; the last group may be shorter. -/
def groups {α : Type} (size : Nat) (xs : List α) : List (List α) :=
  match xs with
  | [] => []
  | x :: xs => (x :: xs.take size) :: groups size (xs.drop size)
termination_by xs.length
decreasing_by simp only [List.length_drop, List.length_cons]; omega

/-- Groups lose nothing and change no order. -/
theorem flatten_groups {α : Type} (size : Nat) (xs : List α) : (groups size xs).flatten = xs := by
  fun_induction groups size xs with
  | case1 => rfl
  | case2 x xs ih => simp [ih]

/-- The bytes of a number, the lowest first. -/
def ofNatLow : Nat → Nat → Bytes
  | 0, _ => []
  | count + 1, n => UInt8.ofNat (n % 256) :: ofNatLow count (n / 256)

/-- The bytes of a number, the highest first. -/
def ofNatHigh (count n : Nat) : Bytes := (ofNatLow count n).reverse

/-- The number whose bytes these are, the lowest first. -/
def toNatLow (bytes : Bytes) : Nat := bytes.foldr (fun b n => b.toNat + 256 * n) 0

/-- The number whose bytes these are, the highest first. -/
def toNatHigh (bytes : Bytes) : Nat := bytes.foldl (fun n b => 256 * n + b.toNat) 0

/-- A number is written as as many bytes as are asked for. -/
@[simp] theorem length_ofNatLow (count n : Nat) : (ofNatLow count n).length = count := by
  induction count generalizing n with
  | zero => rfl
  | succ count ih => simp [ofNatLow, ih]

/-- A hexadecimal digit. -/
def hexDigit (n : Nat) : Char := Char.ofNat (if n < 10 then 48 + n else 87 + n)

/-- Two small hexadecimal digits for each byte. -/
def toHex (bytes : Bytes) : String :=
  String.ofList (bytes.flatMap fun b => [hexDigit (b.toNat / 16), hexDigit (b.toNat % 16)])

end Bytes

end Fostering
