import Fostering.Text.IpAddress

/-!
# Host names

A host name is a row of labels with points between them. A label has letters, digits and hyphens, at
most sixty-three of them, and no hyphen at either end.
-/

namespace Fostering.Text

/-- Whether a character is an unaccented letter or a digit. -/
def isAlphanumeric (c : Char) : Bool := c.isAlphanum

/-- The pieces of a text between the occurrences of a character. -/
def splitOnChar (mark : Char) : List Char → List (List Char)
  | [] => [[]]
  | c :: cs =>
    if c = mark then [] :: splitOnChar mark cs
    else
      match splitOnChar mark cs with
      | piece :: pieces => (c :: piece) :: pieces
      | [] => [[c]]

/-- Whether a text is a label. -/
def isLabel (cs : List Char) : Bool :=
  cs.length ≤ 63 && cs.all (fun c => isAlphanumeric c || c = '-') &&
    (cs.head?.map isAlphanumeric).getD false && (cs.getLast?.map isAlphanumeric).getD false

/-- Whether a text is a host name. -/
def isHostName (cs : List Char) : Bool := (splitOnChar '.' cs).all isLabel

end Fostering.Text
