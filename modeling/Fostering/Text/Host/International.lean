import Fostering.Text.Composed
import Fostering.Text.Host.Direction
import Fostering.Text.Host.Joiner
import Fostering.Text.Host.Mapping
import Fostering.Text.HostName
import Fostering.Text.Punycode

/-!
# International host names

A host name may be given in any script. `plainHost?` finds the plain name for it: characters are
replaced by those for which they stand, the text is composed, and each label with other than plain
characters is written with plain ones behind a mark. A name that no host can have is refused.
-/

namespace Fostering.Text

/-- The start of a label that is written with plain characters in the place of others. -/
def encodedStart : List Char := "xn--".toList

/-- A label as it is read and as it is written. -/
structure HostLabel where
  shown : List Char
  plain : List Char

/-- Reads a label that is written with plain characters. What it stands for has to be in the form
that writing would start from. -/
def readEncoded? (digits plain : List Char) : Option HostLabel :=
  if digits.getLast?.all (· = '-') then none
  else
    match Punycode.decode? digits with
    | none => none
    | some shown =>
      if shown.all isHostChar && composed shown == shown then some ⟨shown, plain⟩ else none

/-- Reads a label whose characters have been replaced. -/
def HostLabel.read? (cs : List Char) : Option HostLabel :=
  if encodedStart.isPrefixOf cs then readEncoded? (cs.drop encodedStart.length) cs
  else if cs.all Punycode.isBasic then some ⟨cs, cs⟩
  else some ⟨cs, encodedStart ++ Punycode.encode cs⟩

/-- Whether a label starts with no mark and has joiners only where they belong. -/
def HostLabel.isSound (label : HostLabel) : Bool :=
  !label.shown.head?.any isMark && keepsJoiners [] label.shown

/-- Whether labels may stand in one name: if one of them is written from right to left, all keep the
rules of direction. -/
def keepDirections (labels : List HostLabel) : Bool :=
  !labels.any (fun label => label.shown.any isRightToLeft)
    || labels.all fun label => keepsDirection label.shown

/-- The labels of a host name in any script. -/
def hostLabels? (cs : List Char) : Option (List HostLabel) := do
  let mapped ← cs.mapM mapHostChar?
  let labels ← (splitOnChar '.' (composed mapped.flatten)).mapM HostLabel.read?
  if labels.all HostLabel.isSound && keepDirections labels then some labels else none

/-- The plain name of a host. -/
def plainHost? (cs : List Char) : Option (List Char) :=
  (hostLabels? cs).map fun labels => ['.'].intercalate (labels.map HostLabel.plain)

end Fostering.Text
