import Fostering.Decimal.Read
import Fostering.Json.Scanner
import Fostering.Keeper
import Fostering.Listing.Page
import Fostering.Post
import Fostering.Seeker
import Fostering.Text.Integer
import Fostering.User
import Fostering.Vet

/-!
# Query strings

A query string is a row of pairs, `key=value`, with ampersands between them. A plus sign stands for a
space and a percent sign with two digits for a byte; bytes that are not UTF-8 are replaced. Keys that
nobody asks for are passed over; a key that is asked for may come once only. The first fault from the
left is reported.
-/

namespace Fostering.Query

/-- The pieces of a byte string between the occurrences of a byte. -/
def splitOnByte (mark : UInt8) : Bytes → List Bytes
  | [] => [[]]
  | b :: bytes =>
    if b = mark then [] :: splitOnByte mark bytes
    else
      match splitOnByte mark bytes with
      | piece :: pieces => (b :: piece) :: pieces
      | [] => [[b]]

/-- Puts the bytes in the place of their escapes. -/
def unescape : Bytes → Bytes
  | [] => []
  | b :: bytes =>
    if b = 0x25 then
      match bytes with
      | high :: low :: rest =>
        match Json.hexValue? high, Json.hexValue? low with
        | some h, some l => UInt8.ofNat (16 * h + l) :: unescape rest
        | _, _ => b :: unescape (high :: low :: rest)
      | rest => b :: rest
    else b :: unescape bytes
termination_by bytes => bytes.length

/-- The text that a piece of a query string stands for. -/
def decodePiece (bytes : Bytes) : String :=
  Utf8.decodeLossy (unescape (bytes.map fun b => if b = 0x2B then 0x20 else b))

/-- A key and its value; without an equals sign the value is empty. -/
def decodePair (bytes : Bytes) : String × String :=
  (decodePiece (bytes.takeWhile (· ≠ 0x3D)), decodePiece ((bytes.dropWhile (· ≠ 0x3D)).drop 1))

/-- The pairs of a query string. -/
def pairs (query : Bytes) : List (String × String) :=
  ((splitOnByte 0x26 query).filter (!·.isEmpty)).map decodePair

/-- What a value may be. -/
inductive Kind where
  | text
  | whole
  | flag
  | real
  deriving DecidableEq

/-- Reads a flag. -/
def readFlag? : String → Option Bool
  | "true" => some true
  | "false" => some false
  | _ => none

/-- What is wrong with a value. -/
def Kind.fault? (kind : Kind) (value : String) : Option String :=
  match kind with
  | text => none
  | whole =>
    match Bounds.i64.read value with
    | .ok _ => none
    | .error fault => some fault.message
  | flag => if (readFlag? value).isSome then none else some "provided string was not `true` or `false`"
  | real =>
    match Binary64.read value with
    | .ok _ => none
    | .error fault => some fault.message

/-- Looks for the first fault in pairs, some keys of which have been seen. -/
def firstFault? (fields : List (String × Kind)) (seen : List String) :
    List (String × String) → Option String
  | [] => none
  | (key, value) :: rest =>
    match fields.lookup key with
    | none => firstFault? fields seen rest
    | some kind =>
      if seen.contains key then some ("duplicate field `" ++ key ++ "`")
      else
        match kind.fault? value with
        | some fault => some (key ++ ": " ++ fault)
        | none => firstFault? fields (key :: seen) rest

/-- The pairs of a query string in which the fields are well formed. -/
def read (fields : List (String × Kind)) (query : Bytes) :
    Except String (List (String × String)) :=
  match firstFault? fields [] (pairs query) with
  | some fault => .error ("Failed to deserialize query string: " ++ fault)
  | none => .ok (pairs query)

/-- The whole number under a key. -/
def whole? (found : List (String × String)) (key : String) : Option Int :=
  found.lookup key >>= fun value => (Bounds.i64.read value).toOption

/-- The flag under a key. -/
def flag? (found : List (String × String)) (key : String) : Option Bool :=
  found.lookup key >>= readFlag?

/-- The double under a key. -/
def real? (found : List (String × String)) (key : String) : Option Binary64 :=
  found.lookup key >>= fun value => (Binary64.read value).toOption

/-- What a list is asked for: a page, and perhaps an order. -/
structure ListParams where
  limit : Option Int := none
  offset : Option Int := none
  sort : Option String := none
  deriving DecidableEq, Inhabited

/-- The page that is asked for. -/
def ListParams.page (p : ListParams) : Page := .ofRequest p.limit p.offset

/-- Reads what a list that can be sorted is asked for. -/
def listParams (query : Bytes) : Except String ListParams := do
  let found ← read [("limit", .whole), ("offset", .whole), ("sort", .text)] query
  return ⟨whole? found "limit", whole? found "offset", found.lookup "sort"⟩

/-- Reads what a list in a fixed order is asked for. -/
def pageParams (query : Bytes) : Except String ListParams := do
  let found ← read [("limit", .whole), ("offset", .whole)] query
  return ⟨whole? found "limit", whole? found "offset", none⟩

/-- Reads which users are asked for. -/
def userFilter (query : Bytes) : Except String UserFilter := do
  let found ← read [("city", .text)] query
  return ⟨found.lookup "city"⟩

/-- Reads which keepers are asked for. -/
def keeperFilter (query : Bytes) : Except String KeeperFilter := do
  let found ← read [("city", .text), ("has_cage", .flag), ("min_rating", .real)] query
  return ⟨found.lookup "city", flag? found "has_cage", real? found "min_rating"⟩

/-- Reads which seekers are asked for. -/
def seekerFilter (query : Bytes) : Except String SeekerFilter := do
  let found ← read [("city", .text), ("animal_type", .text)] query
  return ⟨found.lookup "city", found.lookup "animal_type"⟩

/-- Reads which vets are asked for. -/
def vetFilter (query : Bytes) : Except String VetFilter := do
  let found ← read [("city", .text), ("specialization", .text)] query
  return ⟨found.lookup "city", found.lookup "specialization"⟩

/-- Reads which posts are asked for. Who may see them is not for the client to say. -/
def postFilter (query : Bytes) : Except String PostFilter := do
  let found ← read [("author_id", .whole), ("status", .text), ("city", .text),
    ("animal_type", .text)] query
  return ⟨whole? found "author_id", found.lookup "status", found.lookup "city",
    found.lookup "animal_type", none⟩

end Fostering.Query
