import Fostering.Text.Blank

/-!
# Internet addresses as text

Whether a text is an internet address: four decimal numbers below 256 with points between them, or
eight groups of up to four hexadecimal digits with colons between them. In the second form one run of
zero groups may be left out, and the last two groups may be written as four decimal numbers.
-/

namespace Fostering.Text

/-- The value of a digit, either case, if it is one in this base. -/
def digit? (base : Nat) (c : Char) : Option Nat :=
  let n := c.toNat
  let value := if 48 ≤ n ∧ n ≤ 57 then n - 48 else if 97 ≤ n ∧ n ≤ 122 then n - 87
    else if 65 ≤ n ∧ n ≤ 90 then n - 55 else base
  if value < base then some value else none

/-- The digits at the front of a text, and the characters after them. -/
def spanDigits (base : Nat) (cs : List Char) : List Nat × List Char :=
  (cs.takeWhile (fun c => (digit? base c).isSome) |>.filterMap (digit? base),
    cs.dropWhile fun c => (digit? base c).isSome)

/-- Passes over a decimal number below 256 without leading zeros. -/
def octetRest? (cs : List Char) : Option (List Char) :=
  match spanDigits 10 cs with
  | ([], _) => none
  | (digits, rest) =>
    if digits.length ≤ 3 ∧ digits.foldl (fun n d => 10 * n + d) 0 < 256
      ∧ (digits.head? ≠ some 0 ∨ digits.length = 1) then some rest
    else none

/-- Passes over one given character. -/
def charRest? (c : Char) : List Char → Option (List Char)
  | d :: rest => if d = c then some rest else none
  | [] => none

/-- Passes over four decimal numbers with points between them. -/
def quadRest? (cs : List Char) : Option (List Char) :=
  octetRest? cs >>= charRest? '.' >>= octetRest? >>= charRest? '.' >>= octetRest? >>= charRest? '.'
    >>= octetRest?

/-- Passes over a group of up to four hexadecimal digits. -/
def groupRest? (cs : List Char) : Option (List Char) :=
  match spanDigits 16 cs with
  | ([], _) => none
  | (digits, rest) => if digits.length ≤ 4 then some rest else none

/-- Passes over the colon before a group that is not the first. -/
def separatorRest? (first : Bool) (cs : List Char) : Option (List Char) :=
  if first then some cs else charRest? ':' cs

/-- What is found after passing over as many groups as there are, up to a limit. -/
structure Groups where
  /-- How many groups were passed over; four decimal numbers count as two. -/
  count : Nat
  /-- Whether the last two of them were four decimal numbers. -/
  quad : Bool
  rest : List Char

/-- Passes over groups. -/
def passGroups (first : Bool) (done : Nat) : Nat → List Char → Groups
  | 0, cs => ⟨done, false, cs⟩
  | left + 1, cs =>
    match if left = 0 then none else separatorRest? first cs >>= quadRest? with
    | some rest => ⟨done + 2, true, rest⟩
    | none =>
      match separatorRest? first cs >>= groupRest? with
      | some rest => passGroups false (done + 1) left rest
      | none => ⟨done, false, cs⟩

/-- Whether a text is an address in groups. -/
def isGroupAddress (cs : List Char) : Bool :=
  let head := passGroups true 0 8 cs
  if head.count = 8 then head.rest.isEmpty
  else if head.quad then false
  else
    match head.rest with
    | ':' :: ':' :: rest => (passGroups true 0 (7 - head.count) rest).rest.isEmpty
    | _ => false

/-- Whether a text is an internet address. -/
def isIpAddress (cs : List Char) : Bool := quadRest? cs = some [] || isGroupAddress cs

end Fostering.Text
