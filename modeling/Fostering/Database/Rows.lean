import Fostering.Database.Schema

/-!
# Statements

Each of these does to one table what one statement does: all of it, or nothing but to use up an id.
Several of them make a transaction, which `atomically` undoes as a whole if one is refused.

* `exec_atomically_error`: a refused transaction leaves every table as it was.
-/

namespace Fostering.Database

variable {ρ : Type}

/-- Looks at the tables. -/
def look {α : Type} (f : Tables → α) : Op Database α := Op.look fun db => f db.tables

/-- Changes the tables. -/
def change (f : Tables → Tables) : Op Database Unit :=
  Op.change fun db => { db with tables := f db.tables }

/-- Carries out a transaction: if it is refused, the tables are put back. Ids stay used up. -/
def atomically {α : Type} (op : Op Database α) : Op Database α := fun now db =>
  match op.exec now db with
  | (.ok a, db') => (.ok a, db')
  | (.error cause, db') => (.error cause, { db' with tables := db.tables })

/-- A refused transaction leaves every table as it was. -/
theorem exec_atomically_error {α : Type} {op : Op Database α} {now : Instant} {db db' : Database}
    {cause : Error} (h : (atomically op).exec now db = (.error cause, db')) :
    db'.tables = db.tables := by
  unfold atomically Op.exec at h
  dsimp only at h
  split at h
  · cases h
  · cases h; rfl

/-- The instant of the transaction, as it is stored. -/
def now : Op Database Instant := do return (← Op.now).stored

/-- The cause of a value that has no stored form. -/
def unstorable : Error := .internal "value cannot be stored"

/-- The cause of a row that breaks a check. -/
def checkBroken : Error := .internal "check violated"

/-- Refuses a row with a value that has no stored form. -/
def guardStorable [Schema ρ] (row : ρ) : Op Database Unit :=
  Op.guard (Schema.isStorable row) unstorable

/-- Refuses a row that breaks a check. -/
def guardChecks [Schema ρ] (row : ρ) : Op Database Unit := Op.guard (Schema.holds row) checkBroken

/-- Refuses an id that another row has already. -/
def guardKey [Schema ρ] (row : ρ) : Op Database Unit := do
  let isTaken ← look fun t => Schema.hasId (Table.rows t : List ρ) (Table.id row)
  Op.guard (!isTaken) (.conflict (UniqueIndex.primaryKey (Schema.tableName ρ)).message)

/-- Refuses a row that clashes with another. -/
def guardUnique [Schema ρ] (row : ρ) : Op Database Unit := do
  match ← look fun t => Schema.clash? t row with
  | some index => Op.refuse (.conflict index.message)
  | none => pure ()

/-- Refuses a row that breaks a check or clashes with another. -/
def guardRow [Schema ρ] (row : ρ) : Op Database Unit := do
  guardChecks row
  guardUnique row

/-- Refuses a row that refers to nothing. -/
def guardReferences [Schema ρ] (row : ρ) : Op Database Unit := do
  match ← look fun t => Schema.orphan? t row with
  | some reference => Op.refuse (.validation reference.message)
  | none => pure ()

/-- Gives a new id away. -/
def takeId (ρ : Type) [Table ρ] : Op Database Int := fun _ db =>
  let id := Table.lastId ρ db.sequences + 1
  (.ok id, { db with sequences := Table.setLastId ρ id db.sequences })

/-- Puts a row at the end of its table. -/
def append [Table ρ] (row : ρ) : Op Database Unit :=
  change fun t => Table.setRows (Table.rows t ++ [row]) t

/-- Inserts a row under a new id. -/
def insert [Schema ρ] (row : ρ) : Op Database ρ := do
  guardStorable row
  let row := Table.setId (← takeId ρ) row
  guardChecks row
  guardKey row
  guardUnique row
  guardReferences row
  append row
  return row

/-- The first row with a property. -/
def find? [Table ρ] (p : ρ → Bool) : Op Database (Option ρ) := look fun t => (Table.rows t).find? p

/-- Changes every row with a property. -/
def updateWhere [Table ρ] (p : ρ → Bool) (f : ρ → ρ) : Op Database Unit :=
  change fun t => Table.setRows ((Table.rows t).map fun r => if p r then f r else r) t

/-- Puts a row in the place of the one with its id. -/
def replace [Table ρ] (row : ρ) : Op Database Unit :=
  updateWhere (fun r => Table.id r = Table.id row) fun _ => row

/-- Erases every row with a property. -/
def eraseWhere [Table ρ] (p : ρ → Bool) : Op Database Unit :=
  change fun t => Table.setRows ((Table.rows t).filter fun r => !p r) t

end Fostering.Database
