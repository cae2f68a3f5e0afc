import Fostering.Database.Listing

/-!
# Rows that are kept one by one

How users, profiles, posts, reviews and messages are stored. Of a given row a new row takes over
only some columns (`Editable.fresh`), and a change only some (`Editable.overwrite`): the rest belongs
to the database, such as the rating of a keeper or the number of reports against a post.
-/

namespace Fostering

/-- A kind of row that callers may make and change. -/
class Editable (ρ : Type) extends Schema ρ, HasEntry ρ, Inhabited ρ where
  /-- The name of a row in a message. -/
  name : String
  /-- A new row with what it takes over of a given one; the shared columns are set by the caller. -/
  fresh : ρ → ρ
  /-- The stored row (second) with what it takes over of a given one (first). -/
  overwrite : ρ → ρ → ρ

namespace Editable

instance : Editable User where
  name := "User"
  fresh u := { u with isModerator := false }
  overwrite u old :=
    { old with username := u.username, email := u.email, firstName := u.firstName,
               lastName := u.lastName, city := u.city, phone := u.phone, about := u.about }

instance : Editable Keeper where
  name := "Keeper"
  fresh k := { k with rating := .zero }
  overwrite k old :=
    { old with description := k.description, price := k.price, hasCage := k.hasCage,
               boardingCapacity := k.boardingCapacity, animalTypes := k.animalTypes, city := k.city }

instance : Editable Seeker where
  name := "Seeker"
  fresh s := s
  overwrite s old :=
    { old with description := s.description, animalType := s.animalType, city := s.city }

instance : Editable Vet where
  name := "Vet"
  fresh v := v
  overwrite v old :=
    { old with clinicName := v.clinicName, specialization := v.specialization,
               experienceYears := v.experienceYears, price := v.price, city := v.city }

instance : Editable Post where
  name := "Post"
  fresh p := { p with reportsCount := 0 }
  overwrite p old :=
    { old with title := p.title, body := p.body, animalType := p.animalType, city := p.city,
               status := p.status }

instance : Editable Review where
  name := "Review"
  fresh r := r
  overwrite r old := { old with grade := r.grade, comment := r.comment }

instance : Editable Message where
  name := "Message"
  fresh m := m
  overwrite m old := { old with content := m.content }

end Editable

namespace Database

/-- The cause of a row that is not there. -/
def notFound (ρ : Type) [Editable ρ] (id : Int) : Error := .notFound (Editable.name ρ) id

/-- Makes a row. -/
def create {ρ : Type} [Editable ρ] (given : ρ) : Op Database ρ :=
  let e := HasEntry.entry given
  insert (HasEntry.setEntry { createdAt := e.createdAt.stored, updatedAt := e.updatedAt.stored }
    (Editable.fresh given))

/-- The live row with an id. -/
def find (ρ : Type) [Editable ρ] (id : Int) : Op Database ρ := do
  Op.orRefuse (notFound ρ id) (← find? fun r : ρ => Table.id r = id && HasEntry.isLive r)

/-- The row with an id, live or deleted. -/
def findAny (ρ : Type) [Editable ρ] (id : Int) : Op Database ρ := do
  Op.orRefuse (notFound ρ id) (← find? fun r : ρ => Table.id r = id)

/-- Changes the live row that has the same id. -/
def update {ρ : Type} [Editable ρ] (given : ρ) : Op Database ρ := do
  guardStorable (Editable.overwrite given default)
  let old ← find ρ (Table.id given)
  let time ← now
  let row := HasEntry.modifyEntry (·.touched time) (Editable.overwrite given old)
  guardRow row
  replace row
  return row

/-- Deletes a live row. -/
def delete (ρ : Type) [Editable ρ] (id : Int) : Op Database Unit := do
  let row ← find ρ id
  let time ← now
  replace (HasEntry.modifyEntry (·.deleted time) row)

end Database

end Fostering
