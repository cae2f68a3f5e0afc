import Fostering.Entry
import Fostering.Json.Record
import Fostering.Validation

/-!
# Seekers

A seeker looks for a keeper, or for a new home for an animal.
-/

namespace Fostering

open Json (Row Shape)
open Violation (ofLength ofOption)

/-- The profile of a user who looks for help with an animal. -/
structure Seeker where
  entry : Entry := {}
  userId : Int := 0
  description : Option String := none
  animalType : Option String := none
  city : Option String := none
  deriving DecidableEq, Inhabited

namespace Seeker

instance : HasEntry Seeker := ⟨Seeker.entry, fun e s => { s with entry := e }, fun _ _ => rfl⟩

instance : Columns Seeker :=
  ⟨Columns.ofEntry fun
    | "user_id" => some fun s => .int s.userId
    | "description" => some fun s => .ofOption .text s.description
    | "animal_type" => some fun s => .ofOption .text s.animalType
    | "city" => some fun s => .ofOption .text s.city
    | _ => none⟩

/-- The columns that clients may sort seekers by. -/
def sortFields : List String := ["created_at", "updated_at"]

/-- What clients see of a seeker. -/
def view (s : Seeker) : Json :=
  .object [("id", .int s.entry.id), ("user_id", .int s.userId),
    ("description", .ofText? s.description), ("animal_type", .ofText? s.animalType),
    ("city", .ofText? s.city), ("created_at", .ofInstant s.entry.createdAt),
    ("updated_at", .ofInstant s.entry.updatedAt)]

end Seeker

/-- Which seekers a list shows. -/
structure SeekerFilter where
  city : Option String := none
  animalType : Option String := none
  deriving DecidableEq, Inhabited

/-- A request for a seeker profile. -/
structure CreateSeeker where
  description : Option String := none
  animalType : Option String := none
  city : Option String := none
  deriving DecidableEq, Inhabited

namespace CreateSeeker

/-- The fields of the request. -/
abbrev shape : Shape :=
  ⟨"CreateSeeker", [⟨"description", .text, .optional⟩, ⟨"animal_type", .text, .optional⟩,
    ⟨"city", .text, .optional⟩]⟩

/-- The request in a row. -/
def ofRow : Row shape.fields → CreateSeeker
  | (description, animalType, city, ()) => { description, animalType, city }

/-- The rules that the request breaks. -/
def violations (r : CreateSeeker) : List Violation :=
  ofOption (ofLength "description" none (some 4000)) r.description
    ++ ofOption (ofLength "animal_type" none (some 64)) r.animalType
    ++ ofOption (ofLength "city" none (some 64)) r.city

/-- The profile that is asked for. -/
def toSeeker (r : CreateSeeker) (userId : Int) : Seeker :=
  { userId, description := r.description, animalType := r.animalType, city := r.city }

end CreateSeeker

/-- A request to change a seeker profile. -/
structure UpdateSeeker where
  description : Change (Option String) := .keep
  animalType : Change (Option String) := .keep
  city : Change (Option String) := .keep
  deriving DecidableEq, Inhabited

namespace UpdateSeeker

/-- The fields of the request. -/
abbrev shape : Shape :=
  ⟨"UpdateSeeker", [⟨"description", .text, .clearable⟩, ⟨"animal_type", .text, .clearable⟩,
    ⟨"city", .text, .clearable⟩]⟩

/-- The request in a row. -/
def ofRow : Row shape.fields → UpdateSeeker
  | (description, animalType, city, ()) => { description, animalType, city }

/-- The rules that the request breaks: there are none to break. -/
def violations (_ : UpdateSeeker) : List Violation := []

/-- The profile after the change. -/
def apply (r : UpdateSeeker) (s : Seeker) : Seeker :=
  { s with
    description := r.description.apply s.description
    animalType := r.animalType.apply s.animalType
    city := r.city.apply s.city }

@[simp] theorem apply_default (s : Seeker) : apply {} s = s := rfl

end UpdateSeeker

end Fostering
