import Fostering.Codec.Base64
import Fostering.Digest.Argon2
import Fostering.Text.HostName
import Fostering.Text.Utf8

/-!
# Password digests as text

A stored password is a text of fields with dollar signs before them: the name of the function, its
version, its parameters, the salt and the digest. `verify` computes the digest again, with the
parameters of the text, and compares. `hash` makes such a text from a password and a fresh salt.
-/

namespace Fostering.Password

/-- What is wrong with a value in the text. -/
inductive ValueFault where
  | invalidChar (c : Char)
  | format
  | malformed
  | tooLong
  | tooShort
  deriving DecidableEq

/-- The fault in words. -/
def ValueFault.message : ValueFault → String
  | invalidChar c => "contains invalid character: '" ++ c.toString ++ "'"
  | format => "value format is invalid"
  | malformed => "value malformed"
  | tooLong => "value to long"
  | tooShort => "value to short"

/-- Why a text is no password digest. -/
inductive Fault where
  | missingField
  | trailingData
  | paramName
  | paramValue (fault : ValueFault)
  | tooManyParams
  | salt (fault : ValueFault)
  | encoding
  | encodedLength
  | outputTooShort
  | algorithm
  | version
  /-- Eight times the degree of parallelism does not fit a word. -/
  | lanesOverflow
  deriving DecidableEq

/-- The fault in words. -/
def Fault.message : Fault → String
  | missingField => "password hash string missing field"
  | trailingData => "password hash string contains trailing characters"
  | paramName => "invalid parameter name"
  | paramValue fault => "invalid parameter value: " ++ fault.message
  | tooManyParams => "maximum number of parameters reached"
  | salt fault => "salt invalid: " ++ fault.message
  | encoding => "invalid Base64 encoding"
  | encodedLength => "invalid Base64 length"
  | outputTooShort => "output size too short, expected at least 10 bytes"
  | algorithm => "unsupported algorithm"
  | version => "invalid algorithm version"
  | lanesOverflow => "attempt to multiply with overflow"

/-- The number of bytes of a text. -/
def byteLength (cs : List Char) : Nat := (String.ofList cs).utf8ByteSize

/-- A name: up to thirty-two small letters, digits and hyphens. -/
def checkName (cs : List Char) : Except Fault Unit :=
  if !cs.isEmpty ∧ cs.length ≤ 32 ∧ cs.all (fun c => c.isLower || c.isDigit || c = '-') then .ok ()
  else .error .paramName

/-- Whether a character may stand in a value. -/
def isValueChar (c : Char) : Bool := c.isAlphanum || c = '/' || c = '+' || c = '.' || c = '-'

/-- A value: up to sixty-four characters of a small set. -/
def checkValue (cs : List Char) : Except Fault Unit :=
  if 64 < byteLength cs then .error (.paramValue .tooLong)
  else
    match cs.find? fun c => !isValueChar c with
    | some c => .error (.paramValue (.invalidChar c))
    | none => .ok ()

/-- Reads a decimal number of 32 bits. -/
def readDecimal (cs : List Char) : Except Fault Nat :=
  match cs, cs.find? fun c => !c.isDigit with
  | [], _ => .error (.paramValue .malformed)
  | _, some c => .error (.paramValue (.invalidChar c))
  | c :: rest, none =>
    let n := cs.foldl (fun n c => 10 * n + (c.toNat - 48)) 0
    if (c = '0' ∧ !rest.isEmpty) ∨ 2 ^ 32 ≤ n then .error (.paramValue .format) else .ok n

/-- Reads bytes, up to a number of them. -/
def readBytes (limit : Nat) (cs : List Char) : Except Fault Bytes :=
  if limit < Base64.decodedLength (byteLength cs) then .error .encodedLength
  else
    match Base64.decode? .standard (String.ofList cs) with
    | some bytes => .ok bytes
    | none => .error .encoding

/-- A password digest taken apart. -/
structure Parts where
  algorithm : String
  version : Option Nat
  params : List (String × List Char)
  salt : Option (List Char)
  output : Option Bytes

/-- Reads one parameter. -/
def readParam (cs : List Char) : Except Fault (String × List Char) :=
  match Text.splitOnChar '=' cs with
  | [] => .error .paramName
  | name :: values => do
    checkName name
    match values with
    | [] => .error (.paramValue .malformed)
    | value :: more =>
      checkValue value
      if more.isEmpty then .ok (String.ofList name, value) else .error (.paramValue .malformed)

/-- Reads parameters. -/
def readParams (cs : List Char) : Except Fault (List (String × List Char)) :=
  if 127 < byteLength cs then .error .tooManyParams
  else (Text.splitOnChar ',' cs).mapM readParam

/-- Reads the version, if the first of the fields is one. -/
def readVersion : List (List Char) → Except Fault (Option Nat × List (List Char))
  | ('v' :: '=' :: value) :: fields =>
    if value.contains ',' then .ok (none, ('v' :: '=' :: value) :: fields)
    else do
      checkValue value
      .ok (some (← readDecimal value), fields)
  | fields => .ok (none, fields)

/-- Reads the parameters, if the first of the fields has an equals sign. -/
def readParamField : List (List Char) → Except Fault (List (String × List Char) × List (List Char))
  | field :: fields =>
    if field.contains '=' then do .ok (← readParams field, fields) else .ok ([], field :: fields)
  | [] => .ok ([], [])

/-- Checks a salt, still encoded. -/
def checkSalt (cs : List Char) : Except Fault Unit :=
  if byteLength cs < 4 then .error (.salt .tooShort)
  else if 64 < byteLength cs then .error (.salt .tooLong)
  else
    match cs.find? fun c => !isValueChar c with
    | some c => .error (.salt (.invalidChar c))
    | none => .ok ()

/-- Reads a digest. -/
def readOutput (cs : List Char) : Except Fault Bytes := do
  let bytes ← readBytes 64 cs
  if bytes.length < 10 then .error .outputTooShort else .ok bytes

/-- Reads the salt and the digest. -/
def readEnd : List (List Char) → Except Fault (Option (List Char) × Option Bytes)
  | [] => .ok (none, none)
  | [salt] => do
    checkSalt salt
    .ok (some salt, none)
  | salt :: output :: more => do
    checkSalt salt
    let output ← readOutput output
    if more.isEmpty then .ok (some salt, some output) else .error .trailingData

/-- Takes a password digest apart. -/
def parse (text : String) : Except Fault Parts :=
  match Text.splitOnChar '$' text.toList with
  | [] :: algorithm :: fields => do
    checkName algorithm
    let (version, fields) ← readVersion fields
    let (params, fields) ← readParamField fields
    let (salt, output) ← readEnd fields
    .ok ⟨String.ofList algorithm, version, params, salt, output⟩
  | _ => .error .missingField

/-- Takes one parameter over. -/
def applyParam (p : Argon2.Params) : String × List Char → Except Fault Argon2.Params
  | ("m", value) => do .ok { p with memory := ← readDecimal value }
  | ("t", value) => do .ok { p with passes := ← readDecimal value }
  | ("p", value) => do .ok { p with lanes := ← readDecimal value }
  | ("keyid", value) => do
    let _ ← readBytes 8 value
    .ok p
  | ("data", value) => do .ok { p with associated := ← readBytes 32 value }
  | _ => .error .paramName

/-- Checks that the parameters are large enough to compute with. -/
def checkParams (p : Argon2.Params) : Except Fault Unit :=
  if p.memory < 8 then .error (.paramValue .tooShort)
  else if 2 ^ 32 ≤ 8 * p.lanes then .error .lanesOverflow
  else if p.memory < 8 * p.lanes ∨ p.passes < 1 ∨ p.lanes < 1 then .error (.paramValue .tooShort)
  else if 0xFFFFFF < p.lanes then .error (.paramValue .tooLong)
  else .ok ()

/-- The variant with this name. -/
def variantOf : String → Except Fault Argon2.Variant
  | "argon2d" => .ok .d
  | "argon2i" => .ok .i
  | "argon2id" => .ok .id
  | _ => .error .algorithm

/-- Checks a version; without one it is 19. -/
def versionOf : Option Nat → Except Fault Nat
  | none => .ok 19
  | some n => if n = 16 ∨ n = 19 then .ok n else .error .version

/-- Whether a password is the one of a digest. A text without salt or digest belongs to none. -/
def verify (password stored : String) : Except Fault Bool := do
  let parts ← parse stored
  match parts.salt, parts.output with
  | some salt, some output =>
    let p ← parts.params.foldlM applyParam ({} : Argon2.Params)
    checkParams p
    let variant ← variantOf parts.algorithm
    let version ← versionOf parts.version
    let salt ← readBytes 64 salt
    if salt.length < 8 then .error (.salt .tooShort)
    else
      let p := { p with variant, version }
      .ok (Argon2.digest p (Utf8.encode password) salt output.length == output)
  | _, _ => .ok false

/-- The bytes of a fresh salt. -/
def saltLength : Nat := 16

/-- The bytes of the digest in a text that `hash` makes. -/
def outputLength : Nat := 32

/-- The start of every text that `hash` makes. -/
def standardStart : String := "$argon2id$v=19$m=19456,t=2,p=1$"

/-- The text for a password and a salt. -/
def hash (salt : Bytes) (password : String) : String :=
  standardStart ++ Base64.encode .standard salt ++ "$"
    ++ Base64.encode .standard (Argon2.digest {} (Utf8.encode password) salt outputLength)

end Fostering.Password
