import Fostering.Bytes

/-!
# Base 64

Three bytes are written as four characters of an alphabet of sixty-four. One or two bytes at the end
become two or three characters, without padding. Reading refuses what writing never produces: a
single character at the end, and bits at the end that belong to no byte.
-/

namespace Fostering.Base64

/-- The last two characters of an alphabet; the others are the letters and the digits. -/
structure Alphabet where
  char62 : Char
  char63 : Char
  deriving DecidableEq

/-- The common alphabet. -/
def Alphabet.standard : Alphabet := ⟨'+', '/'⟩

/-- The alphabet for addresses and file names. -/
def Alphabet.url : Alphabet := ⟨'-', '_'⟩

namespace Alphabet

/-- The character for a number below sixty-four. -/
def char (a : Alphabet) (n : Nat) : Char :=
  if n < 26 then Char.ofNat (65 + n)
  else if n < 52 then Char.ofNat (71 + n)
  else if n < 62 then Char.ofNat (n - 4)
  else if n = 62 then a.char62
  else a.char63

/-- The number that a character stands for. -/
def value? (a : Alphabet) (c : Char) : Option Nat :=
  let n := c.toNat
  if 65 ≤ n ∧ n ≤ 90 then some (n - 65)
  else if 97 ≤ n ∧ n ≤ 122 then some (n - 71)
  else if 48 ≤ n ∧ n ≤ 57 then some (n + 4)
  else if c = a.char62 then some 62
  else if c = a.char63 then some 63
  else none

end Alphabet

/-- Writes bytes. -/
def encodeChars (a : Alphabet) : Bytes → List Char
  | x :: y :: z :: rest =>
    let n := 65536 * x.toNat + 256 * y.toNat + z.toNat
    a.char (n / 262144) :: a.char (n / 4096 % 64) :: a.char (n / 64 % 64) :: a.char (n % 64)
      :: encodeChars a rest
  | [x, y] =>
    let n := 1024 * x.toNat + 4 * y.toNat
    [a.char (n / 4096), a.char (n / 64 % 64), a.char (n % 64)]
  | [x] => [a.char (x.toNat / 4), a.char (16 * (x.toNat % 4))]
  | [] => []

/-- Writes bytes as text. -/
def encode (a : Alphabet) (bytes : Bytes) : String := String.ofList (encodeChars a bytes)

/-- The bytes of groups of four numbers below sixty-four; the last group may be shorter. -/
def joinValues : List Nat → Option Bytes
  | p :: q :: r :: s :: rest => do
    let n := 262144 * p + 4096 * q + 64 * r + s
    let bytes ← joinValues rest
    return UInt8.ofNat (n / 65536) :: UInt8.ofNat (n / 256 % 256) :: UInt8.ofNat (n % 256) :: bytes
  | [p, q, r] =>
    if r % 4 = 0 then
      let n := 4096 * p + 64 * q + r
      some [UInt8.ofNat (n / 1024), UInt8.ofNat (n / 4 % 256)]
    else none
  | [p, q] => if q % 16 = 0 then some [UInt8.ofNat (4 * p + q / 16)] else none
  | [_] => none
  | [] => some []

/-- The numbers that characters stand for. -/
def valuesOf? (a : Alphabet) : List Char → Option (List Nat)
  | [] => some []
  | c :: cs => do
    let n ← a.value? c
    let ns ← valuesOf? a cs
    return n :: ns

/-- Reads bytes. -/
def decode? (a : Alphabet) (text : String) : Option Bytes :=
  valuesOf? a text.toList >>= joinValues

/-- The number of bytes that so many characters stand for. -/
def decodedLength (n : Nat) : Nat := 3 * n / 4

end Fostering.Base64
