import Fostering.Store.Interface

/-!
# Tables

A database has a table for each kind of row, and for each table with ids the last id that it gave
away. An id is given once: the counters never go back, not even when the rows do.
-/

namespace Fostering

/-- The row that says that a user takes part in a chat. -/
structure Membership where
  chatId : Int
  userId : Int
  joinedAt : Instant
  deriving DecidableEq

/-- The rows of all tables. -/
structure Tables where
  users : List User := []
  keepers : List Keeper := []
  seekers : List Seeker := []
  vets : List Vet := []
  posts : List Post := []
  reports : List Report := []
  reviews : List Review := []
  chats : List Chat := []
  members : List Membership := []
  messages : List Message := []
  favourites : List Favourite := []
  sessions : List Session := []
  deriving DecidableEq

/-- The last id that each table gave away. -/
structure Sequences where
  users : Int := 0
  keepers : Int := 0
  seekers : Int := 0
  vets : Int := 0
  posts : Int := 0
  reports : Int := 0
  reviews : Int := 0
  chats : Int := 0
  messages : Int := 0
  sessions : Int := 0
  deriving DecidableEq

/-- A database. -/
structure Database where
  tables : Tables := {}
  sequences : Sequences := {}
  deriving DecidableEq

/-- A kind of row with an id, and the table that holds it. -/
class Table (ρ : Type) where
  rows : Tables → List ρ
  setRows : List ρ → Tables → Tables
  lastId : Sequences → Int
  setLastId : Int → Sequences → Sequences
  id : ρ → Int
  setId : Int → ρ → ρ
  rows_setRows : ∀ rs t, rows (setRows rs t) = rs
  lastId_setLastId : ∀ n s, lastId (setLastId n s) = n
  id_setId : ∀ n r, id (setId n r) = n

attribute [simp] Table.rows_setRows Table.lastId_setLastId Table.id_setId

namespace Table

instance : Table User where
  rows := Tables.users
  setRows rs t := { t with users := rs }
  lastId := Sequences.users
  setLastId n s := { s with users := n }
  id r := r.entry.id
  setId n r := { r with entry.id := n }
  rows_setRows _ _ := rfl
  lastId_setLastId _ _ := rfl
  id_setId _ _ := rfl

instance : Table Keeper where
  rows := Tables.keepers
  setRows rs t := { t with keepers := rs }
  lastId := Sequences.keepers
  setLastId n s := { s with keepers := n }
  id r := r.entry.id
  setId n r := { r with entry.id := n }
  rows_setRows _ _ := rfl
  lastId_setLastId _ _ := rfl
  id_setId _ _ := rfl

instance : Table Seeker where
  rows := Tables.seekers
  setRows rs t := { t with seekers := rs }
  lastId := Sequences.seekers
  setLastId n s := { s with seekers := n }
  id r := r.entry.id
  setId n r := { r with entry.id := n }
  rows_setRows _ _ := rfl
  lastId_setLastId _ _ := rfl
  id_setId _ _ := rfl

instance : Table Vet where
  rows := Tables.vets
  setRows rs t := { t with vets := rs }
  lastId := Sequences.vets
  setLastId n s := { s with vets := n }
  id r := r.entry.id
  setId n r := { r with entry.id := n }
  rows_setRows _ _ := rfl
  lastId_setLastId _ _ := rfl
  id_setId _ _ := rfl

instance : Table Post where
  rows := Tables.posts
  setRows rs t := { t with posts := rs }
  lastId := Sequences.posts
  setLastId n s := { s with posts := n }
  id r := r.entry.id
  setId n r := { r with entry.id := n }
  rows_setRows _ _ := rfl
  lastId_setLastId _ _ := rfl
  id_setId _ _ := rfl

instance : Table Report where
  rows := Tables.reports
  setRows rs t := { t with reports := rs }
  lastId := Sequences.reports
  setLastId n s := { s with reports := n }
  id := Report.id
  setId n r := { r with id := n }
  rows_setRows _ _ := rfl
  lastId_setLastId _ _ := rfl
  id_setId _ _ := rfl

instance : Table Review where
  rows := Tables.reviews
  setRows rs t := { t with reviews := rs }
  lastId := Sequences.reviews
  setLastId n s := { s with reviews := n }
  id r := r.entry.id
  setId n r := { r with entry.id := n }
  rows_setRows _ _ := rfl
  lastId_setLastId _ _ := rfl
  id_setId _ _ := rfl

instance : Table Chat where
  rows := Tables.chats
  setRows rs t := { t with chats := rs }
  lastId := Sequences.chats
  setLastId n s := { s with chats := n }
  id r := r.entry.id
  setId n r := { r with entry.id := n }
  rows_setRows _ _ := rfl
  lastId_setLastId _ _ := rfl
  id_setId _ _ := rfl

instance : Table Message where
  rows := Tables.messages
  setRows rs t := { t with messages := rs }
  lastId := Sequences.messages
  setLastId n s := { s with messages := n }
  id r := r.entry.id
  setId n r := { r with entry.id := n }
  rows_setRows _ _ := rfl
  lastId_setLastId _ _ := rfl
  id_setId _ _ := rfl

instance : Table Session where
  rows := Tables.sessions
  setRows rs t := { t with sessions := rs }
  lastId := Sequences.sessions
  setLastId n s := { s with sessions := n }
  id := Session.id
  setId n r := { r with id := n }
  rows_setRows _ _ := rfl
  lastId_setLastId _ _ := rfl
  id_setId _ _ := rfl

end Table

end Fostering
