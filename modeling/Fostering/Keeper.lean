import Fostering.Entry
import Fostering.Json.Record
import Fostering.Validation

/-!
# Keepers

A keeper fosters animals for others. The rating of a keeper is the average of the grades that
reviewers gave, 0 while there is none; no request of the keeper sets it.
-/

namespace Fostering

open Json (Row Shape)
open Violation (ofLength ofOption ofRange)

/-- The profile of a user who takes animals in. -/
structure Keeper where
  entry : Entry := {}
  userId : Int := 0
  description : Option String := none
  price : Option Int := none
  hasCage : Bool := false
  boardingCapacity : Int := 0
  animalTypes : Option String := none
  city : Option String := none
  rating : Binary64 := .zero
  deriving DecidableEq, Inhabited

namespace Keeper

instance : HasEntry Keeper := ⟨Keeper.entry, fun e k => { k with entry := e }, fun _ _ => rfl⟩

instance : Columns Keeper :=
  ⟨Columns.ofEntry fun
    | "user_id" => some fun k => .int k.userId
    | "description" => some fun k => .ofOption .text k.description
    | "price" => some fun k => .ofOption .int k.price
    | "has_cage" => some fun k => .flag k.hasCage
    | "boarding_capacity" => some fun k => .int k.boardingCapacity
    | "animal_types" => some fun k => .ofOption .text k.animalTypes
    | "city" => some fun k => .ofOption .text k.city
    | "rating" => some fun k => .real k.rating
    | _ => none⟩

/-- The columns that clients may sort keepers by. -/
def sortFields : List String := ["created_at", "updated_at", "rating", "price", "boarding_capacity"]

/-- What clients see of a keeper. -/
def view (k : Keeper) : Json :=
  .object [("id", .int k.entry.id), ("user_id", .int k.userId),
    ("description", .ofText? k.description), ("price", .ofInt? k.price),
    ("has_cage", .flag k.hasCage), ("boarding_capacity", .int k.boardingCapacity),
    ("animal_types", .ofText? k.animalTypes), ("city", .ofText? k.city), ("rating", .real k.rating),
    ("created_at", .ofInstant k.entry.createdAt), ("updated_at", .ofInstant k.entry.updatedAt)]

end Keeper

/-- Which keepers a list shows. -/
structure KeeperFilter where
  city : Option String := none
  hasCage : Option Bool := none
  minRating : Option Binary64 := none
  deriving DecidableEq, Inhabited

/-- A request for a keeper profile. -/
structure CreateKeeper where
  description : Option String := none
  price : Option Int := none
  hasCage : Bool := false
  boardingCapacity : Option Int := none
  animalTypes : Option String := none
  city : Option String := none
  deriving DecidableEq, Inhabited

namespace CreateKeeper

/-- The fields of the request. -/
abbrev shape : Shape :=
  ⟨"CreateKeeper", [⟨"description", .text, .optional⟩, ⟨"price", .whole .w32, .optional⟩,
    ⟨"has_cage", .flag, .defaulted⟩, ⟨"boarding_capacity", .whole .w32, .optional⟩,
    ⟨"animal_types", .text, .optional⟩, ⟨"city", .text, .optional⟩]⟩

/-- The request in a row. -/
def ofRow : Row shape.fields → CreateKeeper
  | (description, price, hasCage, boardingCapacity, animalTypes, city, ()) =>
    { description, price, hasCage, boardingCapacity, animalTypes, city }

/-- The rules that the request breaks. -/
def violations (r : CreateKeeper) : List Violation :=
  ofOption (ofLength "description" none (some 4000)) r.description
    ++ ofOption (ofRange "price" (some 0) none) r.price
    ++ ofOption (ofRange "boarding_capacity" (some 0) (some 50)) r.boardingCapacity
    ++ ofOption (ofLength "animal_types" none (some 255)) r.animalTypes
    ++ ofOption (ofLength "city" none (some 64)) r.city

/-- The profile that is asked for. -/
def toKeeper (r : CreateKeeper) (userId : Int) : Keeper :=
  { userId, description := r.description, price := r.price, hasCage := r.hasCage,
    boardingCapacity := r.boardingCapacity.getD 0, animalTypes := r.animalTypes, city := r.city }

end CreateKeeper

/-- A request to change a keeper profile. -/
structure UpdateKeeper where
  description : Change (Option String) := .keep
  price : Change (Option Int) := .keep
  hasCage : Change Bool := .keep
  boardingCapacity : Change Int := .keep
  animalTypes : Change (Option String) := .keep
  city : Change (Option String) := .keep
  deriving DecidableEq, Inhabited

namespace UpdateKeeper

/-- The fields of the request. -/
abbrev shape : Shape :=
  ⟨"UpdateKeeper", [⟨"description", .text, .clearable⟩, ⟨"price", .whole .w32, .clearable⟩,
    ⟨"has_cage", .flag, .changeable⟩, ⟨"boarding_capacity", .whole .w32, .changeable⟩,
    ⟨"animal_types", .text, .clearable⟩, ⟨"city", .text, .clearable⟩]⟩

/-- The request in a row. -/
def ofRow : Row shape.fields → UpdateKeeper
  | (description, price, hasCage, boardingCapacity, animalTypes, city, ()) =>
    { description, price, hasCage, boardingCapacity, animalTypes, city }

/-- The rules that the request breaks. -/
def violations (r : UpdateKeeper) : List Violation :=
  ofOption (ofRange "boarding_capacity" (some 0) (some 50)) r.boardingCapacity.value?

/-- The profile after the change. -/
def apply (r : UpdateKeeper) (k : Keeper) : Keeper :=
  { k with
    description := r.description.apply k.description
    price := r.price.apply k.price
    hasCage := r.hasCage.apply k.hasCage
    boardingCapacity := r.boardingCapacity.apply k.boardingCapacity
    animalTypes := r.animalTypes.apply k.animalTypes
    city := r.city.apply k.city }

@[simp] theorem apply_default (k : Keeper) : apply {} k = k := rfl

end UpdateKeeper

end Fostering
