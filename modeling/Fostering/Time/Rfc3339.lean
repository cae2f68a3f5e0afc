import Fostering.Time.Instant
import Fostering.Time.Calendar

/-!
# Instants as text

An instant is written in universal time, ends in `Z`, and has the fewest of none, three, six or nine
fraction digits that are exact. Any offset from universal time is read.
-/

namespace Fostering

namespace Instant

/-- A number in decimal digits, filled up with zeros on the left to at least this many. -/
def paddedDigits (width : Nat) (n : Nat) : String :=
  let digits := toString n
  String.ofList (List.replicate (width - digits.length) '0') ++ digits

/-- The fraction of a second: the fewest of none, three, six and nine digits that are exact. -/
def fraction (nanos : Nat) : String :=
  if nanos = 0 then ""
  else if nanos % 1000000 = 0 then "." ++ paddedDigits 3 (nanos / 1000000)
  else if nanos % 1000 = 0 then "." ++ paddedDigits 6 (nanos / 1000)
  else "." ++ paddedDigits 9 nanos

/-- A year: four digits, with a sign where four do not do. -/
def yearText (year : Int) : String :=
  if 0 ≤ year ∧ year ≤ 9999 then paddedDigits 4 year.toNat
  else (if year < 0 then "-" else "+") ++ paddedDigits 4 year.natAbs

/-- The text of an instant. -/
def toText (t : Instant) : String :=
  let date := Date.ofDays (t.seconds / 86400)
  let second := (t.seconds % 86400).toNat
  let leap := t.nanos / 1000000000
  yearText date.year ++ "-" ++ paddedDigits 2 date.month ++ "-" ++ paddedDigits 2 date.day ++ "T"
    ++ paddedDigits 2 (second / 3600) ++ ":" ++ paddedDigits 2 (second / 60 % 60) ++ ":"
    ++ paddedDigits 2 (second % 60 + leap) ++ fraction (t.nanos % 1000000000) ++ "Z"

/-- Reads exactly this many decimal digits. -/
def readDigits : Nat → List Char → Option (Nat × List Char) :=
  go 0
where
  /-- Reads on after digits of this value. -/
  go (value : Nat) : Nat → List Char → Option (Nat × List Char)
    | 0, cs => some (value, cs)
    | _ + 1, [] => none
    | n + 1, c :: cs => if c.isDigit then go (10 * value + (c.toNat - 48)) n cs else none

/-- Reads one expected character. -/
def readMark (mark : Char) : List Char → Option (List Char)
  | [] => none
  | c :: cs => if c = mark then some cs else none

/-- Reads an optional fraction of a second as nanoseconds; digits after the ninth do not count. -/
def readFraction : List Char → Option (Nat × List Char)
  | '.' :: cs =>
    let digits := cs.takeWhile Char.isDigit
    if digits.isEmpty then none
    else
      let nine := (digits ++ List.replicate 9 '0').take 9
      some (nine.foldl (fun n c => 10 * n + (c.toNat - 48)) 0, cs.dropWhile Char.isDigit)
  | cs => some (0, cs)

/-- Reads an offset from universal time, in seconds. -/
def readOffset : List Char → Option Int
  | ['Z'] | ['z'] => some 0
  | sign :: cs => do
    let (hours, cs) ← readDigits 2 cs
    let cs ← readMark ':' cs
    let (minutes, cs) ← readDigits 2 cs
    if cs.isEmpty ∧ hours < 24 ∧ minutes < 60 then
      let size : Int := hours * 3600 + minutes * 60
      if sign = '+' then some size else if sign = '-' then some (-size) else none
    else none
  | [] => none

/-- Reads an instant. -/
def ofText? (text : String) : Option Instant := do
  let (year, cs) ← readDigits 4 text.toList
  let cs ← readMark '-' cs
  let (month, cs) ← readDigits 2 cs
  let cs ← readMark '-' cs
  let (day, cs) ← readDigits 2 cs
  let cs ← match cs with
    | 'T' :: cs | 't' :: cs | ' ' :: cs => some cs
    | _ => none
  let (hour, cs) ← readDigits 2 cs
  let cs ← readMark ':' cs
  let (minute, cs) ← readDigits 2 cs
  let cs ← readMark ':' cs
  let (second, cs) ← readDigits 2 cs
  let (nanos, cs) ← readFraction cs
  let offset ← readOffset cs
  let date : Date := ⟨year, month, day⟩
  if date.isValid ∧ hour < 24 ∧ minute < 60 ∧ second ≤ 60 then
    let leap := second / 60
    some ⟨date.toDays * 86400 + hour * 3600 + minute * 60 + (second - leap) - offset,
      nanos + leap * 1000000000⟩
  else none

end Instant

end Fostering
