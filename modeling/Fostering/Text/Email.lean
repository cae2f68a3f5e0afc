import Fostering.Text.Host.International

/-!
# Electronic mail addresses

An address is a local part, an at sign and a host; the last at sign divides them. The host is a name,
in any script, or ends in an internet address between square brackets.
-/

namespace Fostering.Text

/-- Whether a character may stand in the local part of an address. -/
def isLocalChar (c : Char) : Bool := isAlphanumeric c || ".!#$%&'*+/=?^_`\x7b|\x7d~-".toList.contains c

/-- Whether a character may stand in an internet address. -/
def isAddressChar (c : Char) : Bool := (digit? 16 c).isSome || c = ':' || c = '.'

/-- Whether a text ends in an internet address between square brackets. -/
def endsInAddress (cs : List Char) : Bool :=
  match cs.reverse with
  | ']' :: before =>
    let inside := before.takeWhile isAddressChar
    !inside.isEmpty && (before.drop inside.length).head? = some '[' && isIpAddress inside.reverse
  | _ => false

/-- Whether a text is a host in its plain form. -/
def isPlainHost (cs : List Char) : Bool := isHostName cs || endsInAddress cs

/-- Whether a text is a host, in its plain form or in any script. -/
def isHost (cs : List Char) : Bool := isPlainHost cs || (plainHost? cs).any isPlainHost

/-- The local part and the host of an address, divided at the last at sign. -/
def splitAddress? (cs : List Char) : Option (List Char × List Char) :=
  match cs.reverse.dropWhile (· ≠ '@') with
  | [] => none
  | _ :: before => some (before.reverse, (cs.reverse.takeWhile (· ≠ '@')).reverse)

/-- Whether a text is a mail address. -/
def isEmail (text : String) : Bool :=
  match splitAddress? text.toList with
  | none => false
  | some (localPart, host) =>
    localPart.length ≤ 64 && host.length ≤ 255 && !localPart.isEmpty &&
      localPart.all isLocalChar && isHost host

end Fostering.Text
