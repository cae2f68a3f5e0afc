import Fostering.Http.Message
import Fostering.Http.Query
import Fostering.Text.HostName

/-!
# Paths

A path is a row of segments with slashes between them. A pattern has one segment for each of the
path's: a word, which the path has to repeat letter for letter, or a place for an id. A place at the
end has to be filled; in the middle it may be empty, and is refused only when the id is read.
-/

namespace Fostering.Path

/-- A segment of a pattern. -/
inductive Segment where
  /-- The path has this word here. -/
  | word (text : String)
  /-- The path has an id here, of this name. -/
  | id (name : String)
  deriving DecidableEq

/-- The segments of a path after its first slash. -/
def segments (path : String) : List String :=
  ((Text.splitOnChar '/' path.toList).drop 1).map String.ofList

/-- Matches a pattern: the name and the text of its id, if it has one. -/
def match? : List Segment → List String → Option (Option (String × String))
  | [], [] => some none
  | .word w :: pattern, s :: path => if w = s then match? pattern path else none
  | .id name :: pattern, s :: path =>
    if s = "" ∧ path = [] then none
    else (match? pattern path).map fun _ => some (name, s)
  | _, _ => none

/-- Reads an id from the text of a segment. -/
def readId (name text : String) : Except Reply Int :=
  match Utf8.decode? (Query.unescape (Utf8.encode text)) with
  | none => .error (.malformed ("Invalid URL: Invalid UTF-8 in `" ++ name ++ "`"))
  | some text =>
    match Bounds.i64.read text with
    | .ok id => .ok id
    | .error _ => .error (.malformed ("Invalid URL: Cannot parse `" ++ text ++ "` to a `i64`"))

end Fostering.Path
