import Fostering.Http.Message
import Fostering.Service.Posts
import Fostering.Token

/-!
# Who is asking

A client shows an access token in the `Authorization` header. Whoever bears a good one is believed to
be the user that it names; nobody looks whether that user exists.
-/

namespace Fostering

/-- Who sends a request. -/
structure Caller where
  userId : Int
  isModerator : Bool
  deriving DecidableEq

namespace Caller

/-- The caller as somebody who looks at posts. -/
def viewer (caller : Caller) : Viewer := ⟨caller.userId, caller.isModerator⟩

/-- Why a caller is not let in. -/
inductive Fault where
  /-- There is no header, or it holds characters that no header has. -/
  | missing
  /-- The header does not show a token. -/
  | format
  /-- The token is not good. -/
  | token
  /-- The caller is no moderator. -/
  | role
  deriving DecidableEq

/-- What the client is told. -/
def Fault.toError : Fault → Error
  | missing => .unauthorized "Missing Authorization header"
  | format => .unauthorized "Invalid Authorization format. Expected: Bearer <token>"
  | token => .unauthorized "Invalid or expired token"
  | role => .forbidden "Moderator role required"

/-- Whether a character is one of a header. -/
def isHeaderChar (c : Char) : Bool := c = '\t' || (0x20 ≤ c.toNat && c.toNat < 0x7F)

/-- What stands before the token in the header. -/
def scheme : List Char := "Bearer ".toList

/-- The token that a request shows. -/
def shownToken (incoming : Incoming) : Except Fault String :=
  match incoming.header? "authorization" with
  | none => .error .missing
  | some value =>
    if !value.toList.all isHeaderChar then .error .missing
    else if scheme.isPrefixOf value.toList then
      .ok (String.ofList (value.toList.drop scheme.length))
    else .error .format

/-- Who sends a request. -/
def authenticate (secret : String) (now : Instant) (incoming : Incoming) : Except Fault Caller := do
  let token ← shownToken incoming
  match Token.validate secret now token with
  | .ok claims => .ok ⟨claims.sub, claims.moderator⟩
  | .error _ => .error .token

/-- Who sends a request that is for moderators only. -/
def authenticateModerator (secret : String) (now : Instant) (incoming : Incoming) :
    Except Fault Caller := do
  let caller ← authenticate secret now incoming
  if caller.isModerator then .ok caller else .error .role

end Caller

end Fostering
