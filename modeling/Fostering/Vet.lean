import Fostering.Entry
import Fostering.Json.Record
import Fostering.Validation

/-!
# Vets

A vet offers treatment at a clinic.
-/

namespace Fostering

open Json (Row Shape)
open Violation (ofLength ofOption ofRange)

/-- The profile of a user who treats animals. -/
structure Vet where
  entry : Entry := {}
  userId : Int := 0
  clinicName : String := ""
  specialization : Option String := none
  experienceYears : Int := 0
  price : Option Int := none
  city : Option String := none
  deriving DecidableEq, Inhabited

namespace Vet

instance : HasEntry Vet := ⟨Vet.entry, fun e v => { v with entry := e }, fun _ _ => rfl⟩

instance : Columns Vet :=
  ⟨Columns.ofEntry fun
    | "user_id" => some fun v => .int v.userId
    | "clinic_name" => some fun v => .text v.clinicName
    | "specialization" => some fun v => .ofOption .text v.specialization
    | "experience_years" => some fun v => .int v.experienceYears
    | "price" => some fun v => .ofOption .int v.price
    | "city" => some fun v => .ofOption .text v.city
    | _ => none⟩

/-- The columns that clients may sort vets by. -/
def sortFields : List String := ["created_at", "updated_at", "experience_years", "price"]

/-- What clients see of a vet. -/
def view (v : Vet) : Json :=
  .object [("id", .int v.entry.id), ("user_id", .int v.userId), ("clinic_name", .text v.clinicName),
    ("specialization", .ofText? v.specialization), ("experience_years", .int v.experienceYears),
    ("price", .ofInt? v.price), ("city", .ofText? v.city),
    ("created_at", .ofInstant v.entry.createdAt), ("updated_at", .ofInstant v.entry.updatedAt)]

end Vet

/-- Which vets a list shows. -/
structure VetFilter where
  city : Option String := none
  specialization : Option String := none
  deriving DecidableEq, Inhabited

/-- A request for a vet profile. -/
structure CreateVet where
  clinicName : String := ""
  specialization : Option String := none
  experienceYears : Int := 0
  price : Option Int := none
  city : Option String := none
  deriving DecidableEq, Inhabited

namespace CreateVet

/-- The fields of the request. -/
abbrev shape : Shape :=
  ⟨"CreateVet", [⟨"clinic_name", .text, .required⟩, ⟨"specialization", .text, .optional⟩,
    ⟨"experience_years", .whole .w32, .defaulted⟩, ⟨"price", .whole .w32, .optional⟩,
    ⟨"city", .text, .optional⟩]⟩

/-- The request in a row. -/
def ofRow : Row shape.fields → CreateVet
  | (clinicName, specialization, experienceYears, price, city, ()) =>
    { clinicName, specialization, experienceYears, price, city }

/-- The rules that the request breaks. -/
def violations (r : CreateVet) : List Violation :=
  ofLength "clinic_name" (some 1) (some 200) r.clinicName
    ++ ofOption (ofLength "specialization" none (some 200)) r.specialization
    ++ ofRange "experience_years" (some 0) (some 80) r.experienceYears
    ++ ofOption (ofRange "price" (some 0) none) r.price
    ++ ofOption (ofLength "city" none (some 64)) r.city

/-- The profile that is asked for. -/
def toVet (r : CreateVet) (userId : Int) : Vet :=
  { userId, clinicName := r.clinicName, specialization := r.specialization,
    experienceYears := r.experienceYears, price := r.price, city := r.city }

end CreateVet

/-- A request to change a vet profile. -/
structure UpdateVet where
  clinicName : Change String := .keep
  specialization : Change (Option String) := .keep
  experienceYears : Change Int := .keep
  price : Change (Option Int) := .keep
  city : Change (Option String) := .keep
  deriving DecidableEq, Inhabited

namespace UpdateVet

/-- The fields of the request. -/
abbrev shape : Shape :=
  ⟨"UpdateVet", [⟨"clinic_name", .text, .changeable⟩, ⟨"specialization", .text, .clearable⟩,
    ⟨"experience_years", .whole .w32, .changeable⟩, ⟨"price", .whole .w32, .clearable⟩,
    ⟨"city", .text, .clearable⟩]⟩

/-- The request in a row. -/
def ofRow : Row shape.fields → UpdateVet
  | (clinicName, specialization, experienceYears, price, city, ()) =>
    { clinicName, specialization, experienceYears, price, city }

/-- The rules that the request breaks. -/
def violations (r : UpdateVet) : List Violation :=
  ofOption (ofLength "clinic_name" (some 1) (some 200)) r.clinicName.value?
    ++ ofOption (ofRange "experience_years" (some 0) (some 80)) r.experienceYears.value?

/-- The profile after the change. -/
def apply (r : UpdateVet) (v : Vet) : Vet :=
  { v with
    clinicName := r.clinicName.apply v.clinicName
    specialization := r.specialization.apply v.specialization
    experienceYears := r.experienceYears.apply v.experienceYears
    price := r.price.apply v.price
    city := r.city.apply v.city }

@[simp] theorem apply_default (v : Vet) : apply {} v = v := rfl

end UpdateVet

end Fostering
