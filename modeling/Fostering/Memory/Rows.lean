import Fostering.Store.Interface

/-!
# A store in memory

A small store for trying out the rules of the service. All its rows draw their ids from one counter,
and lists come in the order in which rows were made, whatever order is asked for.
-/

namespace Fostering

/-- A store in memory. -/
structure Memory where
  lastId : Int := 0
  users : List User := []
  keepers : List Keeper := []
  seekers : List Seeker := []
  vets : List Vet := []
  posts : List Post := []
  reports : List Report := []
  reviews : List Review := []
  chats : List ChatWithMembers := []
  messages : List Message := []
  sessions : List Session := []
  deriving DecidableEq

/-- A kind of row that is kept in memory. -/
class Kept (ρ : Type) extends HasEntry ρ where
  /-- The name of a row in a message. -/
  name : String
  rows : Memory → List ρ
  setRows : List ρ → Memory → Memory
  /-- Why a new row is refused. -/
  refusal? : Memory → ρ → Option Error := fun _ _ => none

namespace Kept

instance : Kept User where
  name := "User"
  rows := Memory.users
  setRows rs m := { m with users := rs }
  refusal? m u :=
    if m.users.any fun v => v.username = u.username then some (.conflict "Username is already taken")
    else none

instance : Kept Keeper where
  name := "Keeper"
  rows := Memory.keepers
  setRows rs m := { m with keepers := rs }
  refusal? m k :=
    if m.keepers.any fun l => l.userId = k.userId && l.entry.isLive then
      some (.conflict "User already has a keeper profile")
    else none

instance : Kept Seeker where
  name := "Seeker"
  rows := Memory.seekers
  setRows rs m := { m with seekers := rs }

instance : Kept Vet where
  name := "Vet"
  rows := Memory.vets
  setRows rs m := { m with vets := rs }

instance : Kept Post where
  name := "Post"
  rows := Memory.posts
  setRows rs m := { m with posts := rs }

instance : Kept Review where
  name := "Review"
  rows := Memory.reviews
  setRows rs m := { m with reviews := rs }
  refusal? m r :=
    if !m.keepers.any fun k => k.entry.id = r.keeperId && k.entry.isLive then
      some (.notFound "Keeper" r.keeperId)
    else if m.reviews.any fun s =>
        s.keeperId = r.keeperId && s.authorId = r.authorId && s.entry.isLive then
      some (.conflict "You have already reviewed this keeper")
    else none

instance : Kept Message where
  name := "Message"
  rows := Memory.messages
  setRows rs m := { m with messages := rs }

end Kept

namespace Memory

/-- A store with live users of these ids. -/
def ofUsers (ids : List Int) : Memory where
  users := ids.map fun id =>
    { entry := { id }, username := "user" ++ toString id,
      email := "user" ++ toString id ++ "@example.com" }
  lastId := ids.foldl max 0

/-- Changes the first element with a property. -/
def modifyFirst {α : Type} (p : α → Bool) (f : α → α) : List α → List α
  | [] => []
  | a :: as => if p a then f a :: as else a :: modifyFirst p f as

variable {ρ : Type}

/-- Gives a new id away. -/
def takeId : Op Memory Int := fun _ m => (.ok (m.lastId + 1), { m with lastId := m.lastId + 1 })

/-- Whether a row is the live one with an id. -/
def isLiveRow [HasEntry ρ] (id : Int) (r : ρ) : Bool := HasEntry.id r = id && HasEntry.isLive r

/-- Makes a row. -/
def create [Kept ρ] (given : ρ) : Op Memory ρ := do
  match ← Op.look fun m => Kept.refusal? m given with
  | some cause => Op.refuse cause
  | none =>
    let id ← takeId
    let row := HasEntry.modifyEntry ({ · with id }) given
    Op.change fun m => Kept.setRows (Kept.rows m ++ [row]) m
    return row

/-- The row with an id, if it has a property. -/
def findWith [Kept ρ] (p : ρ → Bool) (id : Int) : Op Memory ρ := do
  let row? ← Op.look fun m => (Kept.rows m).find? p
  Op.orRefuse (.notFound (Kept.name ρ) id) row?

/-- A page of the live rows with a property. -/
def list [Kept ρ] (keeps : ρ → Bool) (page : Page) : Op Memory (List ρ) :=
  Op.look fun m => page.slice ((Kept.rows m).filter fun r => HasEntry.isLive r && keeps r)

/-- Changes the live row with an id. -/
def modify [Kept ρ] (id : Int) (f : ρ → ρ) : Op Memory Unit := do
  let _ ← findWith (fun r : ρ => isLiveRow id r) id
  Op.change fun m => Kept.setRows (modifyFirst (isLiveRow id) f (Kept.rows m)) m

/-- Puts a row in the place of the live one with its id. -/
def update [Kept ρ] (given : ρ) : Op Memory ρ := do
  let time ← Op.now
  let row := HasEntry.modifyEntry (·.touched time) given
  modify (HasEntry.id given) fun _ => row
  return row

/-- Marks a live row as deleted. -/
def delete (ρ : Type) [Kept ρ] (id : Int) : Op Memory Unit := do
  let time ← Op.now
  modify id fun r : ρ =>
    HasEntry.modifyEntry (fun e => { e with isDeleted := true, deletedAt := some time }) r

end Memory

end Fostering
