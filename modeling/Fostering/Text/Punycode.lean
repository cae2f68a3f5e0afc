import Fostering.Text.IpAddress

/-!
# Letters for any characters

Any row of characters can be written with unaccented letters, digits and hyphens. The plain
characters come first; after the last hyphen stands, for every other character from the lowest up,
how far it is from the place of the one before. These distances are numbers to the base thirty-six
whose digits tell where they end.
-/

namespace Fostering.Text.Punycode

/-- Whether a character is written as itself. -/
def isBasic (c : Char) : Bool := c.toNat < 0x80

/-- The letter or digit for a value below thirty-six. -/
def digit (value : Nat) : Char :=
  if value < 26 then Char.ofNat (0x61 + value) else Char.ofNat (0x16 + value)

/-- The value of a letter or digit. -/
def digitValue? (c : Char) : Option Nat :=
  if c.isDigit then some (c.toNat - 0x16)
  else if c.isLower then some (c.toNat - 0x61)
  else if c.isUpper then some (c.toNat - 0x41)
  else none

/-- A digit below this value is the last one; `place` is 36 for the first digit and grows by 36. -/
def threshold (bias place : Nat) : Nat := min (max (place - bias) 1) 26

/-- A threshold is never zero. -/
theorem one_le_threshold (bias place : Nat) : 1 ≤ threshold bias place := by
  simp only [threshold]; omega

/-- Divides by 35 until the number is small: the quotient, and what the bias gains by it. -/
def shrink (delta gained : Nat) : Nat × Nat :=
  if 455 < delta then shrink (delta / 35) (gained + 36) else (delta, gained)
termination_by delta
decreasing_by omega

/-- The bias after a distance, when `count` characters are written. -/
def adapt (delta count : Nat) (isFirst : Bool) : Nat :=
  let start := if isFirst then delta / 700 else delta / 2
  let (delta, gained) := shrink (start + start / count) 0
  gained + 36 * delta / (delta + 38)

/-! ## Writing -/

/-- Writes a distance. -/
def writeNumber (bias place q : Nat) : List Char :=
  let t := threshold bias place
  if q < t then [digit q]
  else digit (t + (q - t) % (36 - t)) :: writeNumber bias (place + 36) ((q - t) / (36 - t))
termination_by q
decreasing_by
  have h := one_le_threshold bias place
  exact Nat.lt_of_le_of_lt (Nat.div_le_self _ _) (by omega)

/-- A text of which a part is written. -/
structure Writer where
  /-- What is written. -/
  text : List Char := []
  /-- The distance from the place of the last character that was written. -/
  delta : Nat := 0
  bias : Nat := 72
  /-- The number of characters that are written. -/
  count : Nat

/-- Passes a character while the character with a code point is written. -/
def Writer.pass (basicCount code : Nat) (w : Writer) (c : Char) : Writer :=
  if c.toNat < code then { w with delta := w.delta + 1 }
  else if c.toNat = code then
    ⟨w.text ++ writeNumber w.bias 36 w.delta, 0,
      adapt w.delta (w.count + 1) (w.count == basicCount), w.count + 1⟩
  else w

/-- Writes the characters with these code points, in order; `low` is the next code point. -/
def writeCodes (cs : List Char) (basicCount : Nat) : Nat → List Nat → Writer → Writer
  | _, [], w => w
  | low, code :: codes, w =>
    let w := { w with delta := w.delta + (code - low) * (w.count + 1) }
    let w := cs.foldl (Writer.pass basicCount code) w
    writeCodes cs basicCount (code + 1) codes { w with delta := w.delta + 1 }

/-- The code points that are not written as themselves, each once, in order. -/
def otherCodes (cs : List Char) : List Nat :=
  ((cs.filter (!isBasic ·)).map Char.toNat).mergeSort.eraseReps

/-- Writes a text. -/
def encode (cs : List Char) : List Char :=
  let basic := cs.filter isBasic
  let start := if basic.isEmpty then [] else basic ++ ['-']
  start ++ (writeCodes cs basic.length 0x80 (otherCodes cs) { count := basic.length }).text

/-! ## Reading -/

/-- A text of which a part is read. -/
structure Reader where
  /-- The characters so far. -/
  text : List Char
  /-- The code point and the place of the next character, if its distance were zero. -/
  code : Nat := 0x80
  index : Nat := 0
  bias : Nat := 72
  /-- The part of the distance that is read, and the weight and the place of its next digit. -/
  delta : Nat := 0
  weight : Nat := 1
  place : Nat := 36
  deriving DecidableEq

namespace Reader

/-- Whether the last distance is read to its end. -/
def isDone (r : Reader) : Bool := r.place = 36

/-- Puts the character in whose distance was read. -/
def put? (r : Reader) (delta : Nat) : Option Reader :=
  let count := r.text.length + 1
  let code := r.code + (r.index + delta) / count
  let index := (r.index + delta) % count
  if code.isValidChar then
    some { text := r.text.insertIdx index (Char.ofNat code), code, index := index + 1,
           bias := adapt delta count (r.code == 0x80 && r.index == 0) }
  else none

/-- Reads a digit. -/
def step? (r : Reader) (c : Char) : Option Reader := do
  let value ← digitValue? c
  let delta := r.delta + value * r.weight
  let t := threshold r.bias r.place
  if value < t then r.put? delta
  else some { r with delta, weight := r.weight * (36 - t), place := r.place + 36 }

end Reader

/-- Reads a text. -/
def decode? (cs : List Char) : Option (List Char) := do
  let digits := (cs.reverse.takeWhile (· ≠ '-')).reverse
  let basic := ((cs.reverse.dropWhile (· ≠ '-')).drop 1).reverse
  if basic.all isBasic then
    let r ← digits.foldlM Reader.step? { text := basic }
    if r.isDone then some r.text else none
  else none

end Fostering.Text.Punycode
