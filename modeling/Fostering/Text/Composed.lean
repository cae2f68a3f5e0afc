import Fostering.Text.Composed.Marks
import Fostering.Text.Composed.Pairs

/-!
# The composed form of a text

The same text can be written with a letter and a mark or with one character for both. Its composed
form is found in three steps: every character is taken apart, the marks behind a character are put
in the order of their classes, and what can be put together is put together again.
-/

namespace Fostering.Text

/-! ## Korean syllables -/

namespace Hangul

/-- The first syllable, and the places before the first letter of each kind. -/
def syllableBase : Nat := 0xAC00

def leadBase : Nat := 0x1100

def vowelBase : Nat := 0x1161

def tailBase : Nat := 0x11A7

/-- The numbers of letters of each kind; one of the tails is no tail. -/
def leadCount : Nat := 19

def vowelCount : Nat := 21

def tailCount : Nat := 28

/-- The letters of a syllable. -/
def takeApart? (n : Nat) : Option (List Char) :=
  if syllableBase ≤ n ∧ n < syllableBase + leadCount * vowelCount * tailCount then
    let i := n - syllableBase
    let lead := Char.ofNat (leadBase + i / tailCount / vowelCount)
    let vowel := Char.ofNat (vowelBase + i / tailCount % vowelCount)
    let tail := i % tailCount
    some (if tail = 0 then [lead, vowel] else [lead, vowel, Char.ofNat (tailBase + tail)])
  else none

/-- The syllable of two letters, or of a syllable without a tail and a tail. -/
def compose? (first second : Nat) : Option Char :=
  if leadBase ≤ first ∧ first < leadBase + leadCount ∧ vowelBase ≤ second
      ∧ second < vowelBase + vowelCount then
    some (Char.ofNat (syllableBase
      + ((first - leadBase) * vowelCount + (second - vowelBase)) * tailCount))
  else if syllableBase ≤ first ∧ first < syllableBase + leadCount * vowelCount * tailCount
      ∧ (first - syllableBase) % tailCount = 0 ∧ tailBase < second
      ∧ second < tailBase + tailCount then
    some (Char.ofNat (first + (second - tailBase)))
  else none

end Hangul

/-! ## Taking apart -/

/-- Takes a character apart, and the first of its parts again, as often as `depth` says. -/
def takeApartTimes : Nat → Char → List Char
  | 0, c => [c]
  | depth + 1, c =>
    match compositions.find? (·.whole = c) with
    | some p => takeApartTimes depth p.first ++ [p.second]
    | none => [c]

/-- How often a character can be taken apart, at most. -/
def compositionDepth : Nat := 4

/-- The parts of a character. -/
def takeApart (c : Char) : List Char :=
  (Hangul.takeApart? c.toNat).getD (takeApartTimes compositionDepth c)

/-! ## Ordering -/

/-- Puts a character before an ordered text: it goes behind the marks of lower classes. -/
def insertMark (c : Char) : List Char → List Char
  | [] => [c]
  | d :: rest =>
    if combiningClass d ≠ '0' ∧ combiningClass d < combiningClass c then d :: insertMark c rest
    else c :: d :: rest

/-- Puts the marks behind every character in order. -/
def orderMarks (cs : List Char) : List Char := cs.foldr insertMark []

/-! ## Putting together -/

/-- The character that two make. -/
def compose? (first second : Char) : Option Char :=
  match Hangul.compose? first.toNat second.toNat with
  | some whole => some whole
  | none =>
    (compositions.find? fun p => p.first = first && p.second = second).map (·.whole)

/-- A text of which a part is put together. -/
structure Composer where
  /-- What is finished, the last character first. -/
  done : List Char := []
  /-- The character to which others may still be added. -/
  base : Option Char := none
  /-- The marks behind it that were not added, the last one first. -/
  marks : List Char := []

namespace Composer

/-- All characters, the last one first. -/
def flush (s : Composer) : List Char := s.marks ++ s.base.toList ++ s.done

/-- Goes on after a character that was not added to the base. -/
def keep (s : Composer) (c : Char) : Composer :=
  if combiningClass c = '0' then { done := s.flush, base := some c }
  else { s with marks := c :: s.marks }

/-- Whether a mark before it keeps a character from the base. -/
def isBlocked (s : Composer) (c : Char) : Bool :=
  s.marks.head?.any fun mark => combiningClass c ≤ combiningClass mark

/-- Takes one more character. -/
def step (s : Composer) (c : Char) : Composer :=
  match s.base >>= fun base => if s.isBlocked c then none else compose? base c with
  | some whole => { s with base := some whole }
  | none => s.keep c

end Composer

/-- Puts together what can be put together. -/
def putTogether (cs : List Char) : List Char := (cs.foldl Composer.step {}).flush.reverse

/-- The composed form of a text. -/
def composed (cs : List Char) : List Char := putTogether (orderMarks (cs.flatMap takeApart))

end Fostering.Text
