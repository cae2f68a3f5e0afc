import Fostering.Codec.Base64
import Fostering.Config
import Fostering.Digest.Hmac
import Fostering.Json.Record
import Fostering.Time.Lifetime
import Fostering.Uuid

/-!
# Access tokens

An access token says who its bearer is and until when. It has three parts with a point between two:
a header, the claims, and a keyed digest of the text before it. Whoever knows the secret can make
one, so a token is believed only if its digest is right and it has not run out.

* `Token.issue` makes a token;
* `Token.validate` reads one, or says what is wrong with it.
-/

namespace Fostering

open Json (Row Shape)

/-- What an access token says. -/
structure Claims where
  /-- The user who bears the token. -/
  sub : Int
  /-- Whether the bearer is a moderator. -/
  moderator : Bool
  /-- The second at which the token runs out. -/
  exp : Int
  /-- The second at which the token was made. -/
  iat : Int
  /-- A name of the token. -/
  jti : String
  deriving DecidableEq

namespace Claims

/-- The fields of the claims. -/
abbrev shape : Shape :=
  ⟨"Claims", [⟨"sub", .whole .w64, .required⟩, ⟨"moderator", .flag, .required⟩,
    ⟨"exp", .whole .w64, .required⟩, ⟨"iat", .whole .w64, .required⟩, ⟨"jti", .text, .required⟩]⟩

/-- The claims in a row. -/
def ofRow : Row shape.fields → Claims
  | (sub, moderator, exp, iat, jti, ()) => { sub, moderator, exp, iat, jti }

/-- The claims as they are written. -/
def toJson (c : Claims) : Json :=
  .object [("sub", .int c.sub), ("moderator", .flag c.moderator), ("exp", .int c.exp),
    ("iat", .int c.iat), ("jti", .text c.jti)]

end Claims

namespace Token

/-- What is wrong with a token. -/
inductive Fault where
  /-- The text does not have three parts. -/
  | shape
  /-- A part is no base 64. -/
  | base64
  /-- A part is no object of the right shape. -/
  | json
  /-- The digest is of another kind than ours. -/
  | algorithm
  /-- The digest is wrong. -/
  | signature
  /-- The token does not say when it runs out. -/
  | noExpiry
  /-- The token has run out. -/
  | expired
  /-- The token is meant for somebody else. -/
  | audience
  deriving DecidableEq

/-- A fault in a word. -/
def Fault.name : Fault → String
  | shape => "InvalidToken"
  | base64 => "Base64"
  | json => "Json"
  | algorithm => "InvalidAlgorithm"
  | signature => "InvalidSignature"
  | noExpiry => "MissingRequiredClaim"
  | expired => "ExpiredSignature"
  | audience => "InvalidAudience"

/-! ## Making tokens -/

/-- The header of the tokens that are made here. -/
def header : Json := .object [("typ", .text "JWT"), ("alg", .text "HS256")]

/-- One part of a token. -/
def part (bytes : Bytes) : String := Base64.encode .url bytes

/-- The keyed digest of the text before it, as the last part of a token. -/
def signature (secret message : String) : String :=
  part (Hmac.digest (Utf8.encode secret) (Utf8.encode message))

/-- The text of a token with these claims. -/
def sign (secret : String) (claims : Claims) : String :=
  let message := part (Utf8.encode header.render) ++ "." ++ part (Utf8.encode claims.toJson.render)
  message ++ "." ++ signature secret message

/-- The claims of a token made now, or why its time of expiry cannot be told. -/
def claims (config : TokenConfig) (now : Instant) (random : Bytes) (user : Int) (moderator : Bool) :
    Except Lifetime.Fault Claims := do
  let exp ← Lifetime.endSecond now (← Lifetime.ofMinutes config.accessMins)
  return ⟨user, moderator, exp, now.seconds, Uuid.text random⟩

/-- A token made now, or why it cannot be made. -/
def issue (config : TokenConfig) (now : Instant) (random : Bytes) (user : Int) (moderator : Bool) :
    Except Lifetime.Fault String :=
  (claims config now random user moderator).map (sign config.secret)

/-! ## Reading tokens -/

/-- The text before the last point, and the text after it. -/
def splitLast (cs : List Char) : Option (List Char × List Char) :=
  let tail := (cs.reverse.takeWhile (· ≠ '.')).reverse
  match cs.reverse.dropWhile (· ≠ '.') with
  | [] => none
  | _ :: front => some (front.reverse, tail)

/-- The fields of a header. -/
abbrev headerShape : Shape :=
  ⟨"Header", [⟨"typ", .text, .optional⟩, ⟨"alg", .text, .required⟩, ⟨"cty", .text, .optional⟩,
    ⟨"jku", .text, .optional⟩, ⟨"jwk", .raw, .optional⟩, ⟨"kid", .text, .optional⟩,
    ⟨"x5u", .text, .optional⟩, ⟨"x5c", .texts, .optional⟩, ⟨"x5t", .text, .optional⟩,
    ⟨"x5t#S256", .text, .optional⟩]⟩

/-- The kinds of digest that a header may name. -/
def algorithms : List String :=
  ["HS256", "HS384", "HS512", "ES256", "ES384", "RS256", "RS384", "RS512", "PS256", "PS384",
    "PS512", "EdDSA"]

/-- Checks the header of a token. -/
def checkHeader (bytes : Bytes) : Except Fault Unit :=
  match headerShape.read bytes with
  | .error _ => .error .json
  | .ok (_, alg, _, _, jwk, _) =>
    if jwk.isSome || !algorithms.contains alg then .error .json
    else if alg ≠ "HS256" then .error .algorithm
    else .ok ()

/-- The fields that bound the use of a token. -/
abbrev boundsShape : Shape :=
  ⟨"ClaimsForValidation", [⟨"exp", .raw, .defaulted⟩, ⟨"nbf", .raw, .defaulted⟩,
    ⟨"sub", .raw, .defaulted⟩, ⟨"iss", .raw, .defaulted⟩, ⟨"aud", .raw, .defaulted⟩]⟩

/-- Whether a value names those for whom a token is meant. -/
def isAudience (value : Bytes) : Bool :=
  (Json.readText value).isOk || (Json.readTexts value).isOk

/-- Seconds by which clocks may differ. -/
def leeway : Int := 60

/-- Checks that the token has not run out and is meant for everybody. -/
def checkBounds (now : Instant) (bytes : Bytes) : Except Fault Unit :=
  match boundsShape.read bytes with
  | .error _ => .error .json
  | .ok (exp, _, _, _, aud, ()) =>
    match Json.readWhole .w64 exp with
    | .error _ => .error .noExpiry
    | .ok (exp, _) =>
      if exp < 0 then .error .noExpiry
      else if exp < now.seconds - leeway then .error .expired
      else if isAudience aud then .error .audience
      else .ok ()

/-- Reads base 64. -/
def decodePart (cs : List Char) : Except Fault Bytes :=
  match Base64.decode? .url (String.ofList cs) with
  | some bytes => .ok bytes
  | none => .error .base64

/-- The claims of a token, or what is wrong with it. -/
def validate (secret : String) (now : Instant) (token : String) : Except Fault Claims := do
  let some (message, digest) := splitLast token.toList | .error .shape
  let some (head, body) := splitLast message | .error .shape
  checkHeader (← decodePart head)
  if String.ofList digest ≠ signature secret (String.ofList message) then .error .signature
  let bytes ← decodePart body
  match Claims.shape.read bytes with
  | .error _ => .error .json
  | .ok row =>
    checkBounds now bytes
    return Claims.ofRow row

end Token

end Fostering
