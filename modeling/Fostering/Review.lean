import Fostering.Entry
import Fostering.Grade
import Fostering.Json.Record
import Fostering.Validation

/-!
# Reviews

A user grades a keeper, with a comment or without. Whether the grade lies within bounds is a rule of
the service and not of the request.

`averageGrade` is the rating that follows from a list of grades: a decimal quotient, rounded half
away from zero, and the double nearest to it.
-/

namespace Fostering

open Json (Row Shape)
open Violation (ofLength ofOption)

/-- A grade that a user gave a keeper. -/
structure Review where
  entry : Entry := {}
  keeperId : Int := 0
  authorId : Int := 0
  grade : Int := 0
  comment : Option String := none
  deriving DecidableEq, Inhabited

namespace Review

instance : HasEntry Review := ⟨Review.entry, fun e r => { r with entry := e }, fun _ _ => rfl⟩

instance : Columns Review :=
  ⟨Columns.ofEntry fun
    | "keeper_id" => some fun r => .int r.keeperId
    | "author_id" => some fun r => .int r.authorId
    | "grade" => some fun r => .int r.grade
    | "comment" => some fun r => .ofOption .text r.comment
    | _ => none⟩

/-- The columns that clients may sort reviews by. -/
def sortFields : List String := ["created_at", "updated_at", "grade"]

/-- What clients see of a review. -/
def view (r : Review) : Json :=
  .object [("id", .int r.entry.id), ("keeper_id", .int r.keeperId), ("author_id", .int r.authorId),
    ("grade", .int r.grade), ("comment", .ofText? r.comment),
    ("created_at", .ofInstant r.entry.createdAt), ("updated_at", .ofInstant r.entry.updatedAt)]

end Review

/-- A request to review a keeper. -/
structure CreateReview where
  grade : Int := 0
  comment : Option String := none
  deriving DecidableEq, Inhabited

namespace CreateReview

/-- The fields of the request. -/
abbrev shape : Shape :=
  ⟨"CreateReview", [⟨"grade", .whole .w16, .required⟩, ⟨"comment", .text, .optional⟩]⟩

/-- The request in a row. -/
def ofRow : Row shape.fields → CreateReview
  | (grade, comment, ()) => { grade, comment }

/-- The rules that the request breaks. -/
def violations (r : CreateReview) : List Violation :=
  ofOption (ofLength "comment" none (some 2000)) r.comment

/-- The review that is asked for. -/
def toReview (r : CreateReview) (keeperId authorId : Int) : Review :=
  { keeperId, authorId, grade := r.grade, comment := r.comment }

end CreateReview

/-- A request to change a review. -/
structure UpdateReview where
  grade : Change Int := .keep
  comment : Change (Option String) := .keep
  deriving DecidableEq, Inhabited

namespace UpdateReview

/-- The fields of the request. -/
abbrev shape : Shape :=
  ⟨"UpdateReview", [⟨"grade", .whole .w16, .changeable⟩, ⟨"comment", .text, .clearable⟩]⟩

/-- The request in a row. -/
def ofRow : Row shape.fields → UpdateReview
  | (grade, comment, ()) => { grade, comment }

/-- The rules that the request breaks: there are none to break. -/
def violations (_ : UpdateReview) : List Violation := []

/-- The review after the change. -/
def apply (u : UpdateReview) (r : Review) : Review :=
  { r with grade := u.grade.apply r.grade, comment := u.comment.apply r.comment }

@[simp] theorem apply_default (r : Review) : apply {} r = r := rfl

end UpdateReview

/-! ## Ratings -/

/-- The quotient of two natural numbers with this many decimal places, rounded half up, in units of
the last place. -/
def decimalQuotient (num den places : Nat) : Nat :=
  let scaled := num * 10 ^ places
  let q := scaled / den
  if den ≤ 2 * (scaled % den) then q + 1 else q

/-- The number of four-digit groups after the first in a number. -/
def groupsAfterFirst (n : Nat) : Nat := if n < 10000 then 0 else groupsAfterFirst (n / 10000) + 1

/-- The decimal places of an average: enough for sixteen digits, in steps of four. -/
def averagePlaces (sum count : Nat) : Nat :=
  let s := groupsAfterFirst sum
  let c := groupsAfterFirst count
  let leadSum := sum / 10000 ^ s
  let leadCount := count / 10000 ^ c
  16 + 4 * c + (if leadSum ≤ leadCount then 4 else 0) - 4 * s

/-- The rating that follows from a sum of grades and their number. -/
def averageOf (sum count : Nat) : Binary64 :=
  if count = 0 then .zero
  else
    let places := averagePlaces sum count
    .ofDecimal false (decimalQuotient sum count places) (-(places : Int))

/-- The rating that follows from grades. -/
def averageGrade (grades : List Int) : Binary64 :=
  averageOf (grades.foldr (· + ·) 0).toNat grades.length

end Fostering
