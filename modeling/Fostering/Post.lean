import Fostering.Entry
import Fostering.Json.Record
import Fostering.PostStatus
import Fostering.Validation

/-!
# Posts and reports

A user writes posts; others report them. A post counts the reports against it, and the count is kept
by whoever keeps the reports, never by a request of the author. Reports are neither changed nor
deleted one by one: approving a post clears them all.
-/

namespace Fostering

open Json (Row Shape)
open Violation (ofLength ofOption)

/-- A post. Its status is the stored name of a `PostStatus`, or empty before one was chosen. -/
structure Post where
  entry : Entry := {}
  authorId : Int := 0
  title : String := ""
  body : String := ""
  animalType : Option String := none
  city : Option String := none
  status : String := ""
  reportsCount : Int := 0
  deriving DecidableEq, Inhabited

namespace Post

instance : HasEntry Post := ⟨Post.entry, fun e p => { p with entry := e }, fun _ _ => rfl⟩

instance : Columns Post :=
  ⟨Columns.ofEntry fun
    | "author_id" => some fun p => .int p.authorId
    | "title" => some fun p => .text p.title
    | "body" => some fun p => .text p.body
    | "animal_type" => some fun p => .ofOption .text p.animalType
    | "city" => some fun p => .ofOption .text p.city
    | "status" => some fun p => .text p.status
    | "reports_count" => some fun p => .int p.reportsCount
    | _ => none⟩

/-- The columns that clients may sort posts by. -/
def sortFields : List String := ["created_at", "updated_at", "reports_count", "title"]

/-- What clients see of a post. -/
def view (p : Post) : Json :=
  .object [("id", .int p.entry.id), ("author_id", .int p.authorId), ("title", .text p.title),
    ("body", .text p.body), ("animal_type", .ofText? p.animalType), ("city", .ofText? p.city),
    ("status", .text p.status), ("reports_count", .int p.reportsCount),
    ("created_at", .ofInstant p.entry.createdAt), ("updated_at", .ofInstant p.entry.updatedAt)]

end Post

/-- Which posts a list shows. `visibleTo` is never the client's to set: it keeps the list to
published posts and the posts of that user. -/
structure PostFilter where
  authorId : Option Int := none
  status : Option String := none
  city : Option String := none
  animalType : Option String := none
  visibleTo : Option Int := none
  deriving DecidableEq, Inhabited

/-- A request for a post. -/
structure CreatePost where
  title : String := ""
  body : String := ""
  animalType : Option String := none
  city : Option String := none
  status : Option String := none
  deriving DecidableEq, Inhabited

namespace CreatePost

/-- The fields of the request. -/
abbrev shape : Shape :=
  ⟨"CreatePost", [⟨"title", .text, .required⟩, ⟨"body", .text, .required⟩,
    ⟨"animal_type", .text, .optional⟩, ⟨"city", .text, .optional⟩, ⟨"status", .text, .optional⟩]⟩

/-- The request in a row. -/
def ofRow : Row shape.fields → CreatePost
  | (title, body, animalType, city, status, ()) => { title, body, animalType, city, status }

/-- The rules that the request breaks. -/
def violations (r : CreatePost) : List Violation :=
  ofLength "title" (some 1) (some 200) r.title ++ ofLength "body" (some 1) (some 10000) r.body
    ++ ofOption (ofLength "animal_type" none (some 64)) r.animalType
    ++ ofOption (ofLength "city" none (some 64)) r.city

/-- The post that is asked for. -/
def toPost (r : CreatePost) (authorId : Int) : Post :=
  { authorId, title := r.title, body := r.body, animalType := r.animalType, city := r.city,
    status := r.status.getD "" }

end CreatePost

/-- A request to change a post. -/
structure UpdatePost where
  title : Change String := .keep
  body : Change String := .keep
  animalType : Change (Option String) := .keep
  city : Change (Option String) := .keep
  status : Change String := .keep
  deriving DecidableEq, Inhabited

namespace UpdatePost

/-- The fields of the request. -/
abbrev shape : Shape :=
  ⟨"UpdatePost", [⟨"title", .text, .changeable⟩, ⟨"body", .text, .changeable⟩,
    ⟨"animal_type", .text, .clearable⟩, ⟨"city", .text, .clearable⟩,
    ⟨"status", .text, .changeable⟩]⟩

/-- The request in a row. -/
def ofRow : Row shape.fields → UpdatePost
  | (title, body, animalType, city, status, ()) => { title, body, animalType, city, status }

/-- The rules that the request breaks. -/
def violations (r : UpdatePost) : List Violation :=
  ofOption (ofLength "title" (some 1) (some 200)) r.title.value?
    ++ ofOption (ofLength "body" (some 1) (some 10000)) r.body.value?

/-- The post after the change. -/
def apply (r : UpdatePost) (p : Post) : Post :=
  { p with
    title := r.title.apply p.title
    body := r.body.apply p.body
    animalType := r.animalType.apply p.animalType
    city := r.city.apply p.city
    status := r.status.apply p.status }

@[simp] theorem apply_default (p : Post) : apply {} p = p := rfl

end UpdatePost

/-! ## Reports -/

/-- A complaint of a user about a post. -/
structure Report where
  id : Int := 0
  postId : Int := 0
  reporterId : Int := 0
  reason : String := ""
  createdAt : Instant := .unset
  deriving DecidableEq, Inhabited

/-- What clients see of a report. -/
def Report.view (r : Report) : Json :=
  .object [("id", .int r.id), ("post_id", .int r.postId), ("reporter_id", .int r.reporterId),
    ("reason", .text r.reason), ("created_at", .ofInstant r.createdAt)]

/-- What came of a report: the report, and the post as it stands after it. -/
structure ReportReceipt where
  report : Report
  reportsCount : Int
  postStatus : String
  deriving DecidableEq, Inhabited

/-- What clients see of a receipt. -/
def ReportReceipt.view (r : ReportReceipt) : Json :=
  .object [("report", r.report.view), ("reports_count", .int r.reportsCount),
    ("post_status", .text r.postStatus)]

/-- A request to report a post. -/
structure CreateReport where
  reason : String := ""
  deriving DecidableEq, Inhabited

namespace CreateReport

/-- The fields of the request. -/
abbrev shape : Shape := ⟨"CreateReport", [⟨"reason", .text, .required⟩]⟩

/-- The request in a row. -/
def ofRow : Row shape.fields → CreateReport
  | (reason, ()) => { reason }

/-- The rules that the request breaks. -/
def violations (r : CreateReport) : List Violation :=
  ofLength "reason" (some 1) (some 1000) r.reason

/-- The report that is asked for. -/
def toReport (r : CreateReport) (postId reporterId : Int) : Report :=
  { postId, reporterId, reason := r.reason }

end CreateReport

end Fostering
