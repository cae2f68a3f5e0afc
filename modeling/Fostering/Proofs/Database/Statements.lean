import Mathlib.Data.List.Basic
import Fostering.Database.Records
import Fostering.Proofs.Operations

/-!
# What statements do to the tables

One lemma for each statement and each operation on rows that are kept one by one: either it is
refused and every table is as it was, or it does to one table what the lemma says. Whoever reasons
about an operation of the database cites these and opens none of them.

* `insert_cases`, `create_cases`: a row is new at the end of its table.
* `find_cases`: the row that is found is live and has the id.
* `update_cases`, `delete_cases`: a row takes the place of the one with its id (`putRow`).
-/

namespace Fostering.Database

variable {ρ : Type} {α β : Type} {now : Instant} {db : Database}

/-- A refused operation that left every table as it was. -/
def IsRefused (op : Op Database α) (now : Instant) (db : Database) : Prop :=
  ∃ cause db', op.exec now db = (.error cause, db') ∧ db'.tables = db.tables

/-- What is refused leaves the tables as they were. -/
theorem IsRefused.tables_eq {op : Op Database α} (h : IsRefused op now db) :
    (op.exec now db).2.tables = db.tables := by
  obtain ⟨cause, db', heq, htables⟩ := h
  rw [heq, htables]

/-- A refusal is one. -/
theorem isRefused_refuse (cause : Error) : IsRefused (Op.refuse cause : Op Database α) now db :=
  ⟨cause, db, rfl, rfl⟩

/-- A condition that does not hold is refused. -/
theorem isRefused_guard {condition : Bool} (h : condition = false) (cause : Error) :
    IsRefused (Op.guard condition cause) now db :=
  ⟨cause, db, Op.exec_guard_of_false h cause now db, rfl⟩

/-- What is refused at its first step is refused. -/
theorem IsRefused.bind {op : Op Database α} (h : IsRefused op now db) (f : α → Op Database β) :
    IsRefused (op >>= f) now db := by
  obtain ⟨cause, db', heq, htables⟩ := h
  exact ⟨cause, db', Op.exec_bind_error heq, htables⟩

/-- What is refused after a step that touched no table is refused. -/
theorem IsRefused.after {op : Op Database α} {f : α → Op Database β} {a : α} {db₁ : Database}
    (hop : op.exec now db = (.ok a, db₁)) (htables : db₁.tables = db.tables)
    (h : IsRefused (f a) now db₁) : IsRefused (op >>= f) now db := by
  obtain ⟨cause, db', heq, htables'⟩ := h
  exact ⟨cause, db', by rw [Op.exec_bind_ok hop, heq], htables'.trans htables⟩

/-! ## Transactions -/

/-- A transaction whose steps succeed leaves what they leave. -/
theorem atomically_of_ok {op : Op Database α} {a : α} {db' : Database}
    (h : op.exec now db = (.ok a, db')) : (atomically op).exec now db = (.ok a, db') := by
  unfold atomically
  unfold Op.exec at h ⊢
  dsimp only
  rw [h]

/-- A transaction whose last step is refused puts the tables back. -/
theorem exec_atomically_of_error {op : Op Database α} {cause : Error} {db' : Database}
    (h : op.exec now db = (.error cause, db')) :
    (atomically op).exec now db = (.error cause, { db' with tables := db.tables }) := by
  unfold atomically
  unfold Op.exec at h ⊢
  dsimp only
  rw [h]

/-- A transaction whose last step is refused is refused as a whole, whatever its steps did. -/
theorem atomically_of_error {op : Op Database α} {cause : Error} {db' : Database}
    (h : op.exec now db = (.error cause, db')) : IsRefused (atomically op) now db :=
  ⟨cause, { db' with tables := db.tables }, exec_atomically_of_error h, rfl⟩

/-- What is refused as a whole is refused in a transaction, too. -/
theorem IsRefused.atomically {op : Op Database α} (h : IsRefused op now db) :
    IsRefused (Database.atomically op) now db := by
  obtain ⟨cause, db', heq, -⟩ := h
  exact atomically_of_error heq

/-- A transaction is refused with every table as it was, or does what its steps do. -/
theorem atomically_cases (op : Op Database α) (now : Instant) (db : Database) :
    IsRefused (atomically op) now db ∨
      ∃ a db', op.exec now db = (.ok a, db') ∧ (atomically op).exec now db = (.ok a, db') := by
  rcases h : op.exec now db with ⟨cause | a, db'⟩
  · exact .inl (atomically_of_error h)
  · exact .inr ⟨a, db', rfl, atomically_of_ok h⟩

/-! ## Statements -/

/-- To look at the tables changes nothing. -/
@[simp] theorem exec_look (f : Tables → α) (now : Instant) (db : Database) :
    (look f).exec now db = (.ok (f db.tables), db) := rfl

/-- A change is one of the tables; the counters go their own way. -/
@[simp] theorem exec_change (f : Tables → Tables) (now : Instant) (db : Database) :
    (change f).exec now db = (.ok (), { db with tables := f db.tables }) := rfl

/-- The clock of the database shows as much of an instant as it stores. -/
@[simp] theorem exec_now (now : Instant) (db : Database) :
    Database.now.exec now db = (.ok now.stored, db) := rfl

/-- The next id of a table is one more than the last, and is not given away again. -/
@[simp] theorem exec_takeId [Table ρ] (now : Instant) (db : Database) :
    (takeId ρ).exec now db = (.ok (Table.lastId ρ db.sequences + 1),
      { db with sequences := Table.setLastId ρ (Table.lastId ρ db.sequences + 1) db.sequences }) := rfl

/-- To look for a row is to look for the first. -/
@[simp] theorem exec_find? [Table ρ] (p : ρ → Bool) (now : Instant) (db : Database) :
    (find? p).exec now db = (.ok ((Table.rows db.tables).find? p), db) := rfl

/-- The tables with a row at the end of its table. -/
def addRow [Table ρ] (row : ρ) (t : Tables) : Tables := Table.setRows (Table.rows t ++ [row]) t

/-- The tables with a row in the place of the one with its id. -/
def putRow [Table ρ] (row : ρ) (t : Tables) : Tables :=
  Table.setRows ((Table.rows t).map fun r => if Table.id r = Table.id row then row else r) t

/-- The tables with every row that has a property changed. -/
def mapRows [Table ρ] (p : ρ → Bool) (f : ρ → ρ) (t : Tables) : Tables :=
  Table.setRows ((Table.rows t).map fun r => if p r then f r else r) t

/-- The tables without the rows that have a property. -/
def dropRows [Table ρ] (p : ρ → Bool) (t : Tables) : Tables :=
  Table.setRows ((Table.rows t).filter fun r => !p r) t

/-- A row is appended to its table. -/
@[simp] theorem exec_append [Table ρ] (row : ρ) (now : Instant) (db : Database) :
    (append row).exec now db = (.ok (), { db with tables := addRow row db.tables }) := rfl

/-- Rows are changed where they stand. -/
@[simp] theorem exec_updateWhere [Table ρ] (p : ρ → Bool) (f : ρ → ρ) (now : Instant)
    (db : Database) :
    (updateWhere p f).exec now db = (.ok (), { db with tables := mapRows p f db.tables }) := rfl

/-- Rows are erased. -/
@[simp] theorem exec_eraseWhere [Table ρ] (p : ρ → Bool) (now : Instant) (db : Database) :
    (eraseWhere p).exec now db = (.ok (), { db with tables := dropRows p db.tables }) := rfl

/-- A row takes the place of the one with its id. -/
@[simp] theorem exec_replace [Table ρ] (row : ρ) (now : Instant) (db : Database) :
    (replace row).exec now db = (.ok (), { db with tables := putRow row db.tables }) := by
  simp only [replace, exec_updateWhere, mapRows, putRow, decide_eq_true_eq]

/-- A row that is added comes last. -/
@[simp] theorem rows_addRow [Table ρ] (row : ρ) (t : Tables) :
    Table.rows (addRow row t) = Table.rows t ++ [row] := Table.rows_setRows _ _

/-- Changing rows leaves the others of the table as they were. -/
@[simp] theorem rows_mapRows [Table ρ] (p : ρ → Bool) (f : ρ → ρ) (t : Tables) :
    Table.rows (mapRows p f t) = (Table.rows t).map fun r => if p r then f r else r :=
  Table.rows_setRows _ _

/-- Erasing rows leaves the others of the table. -/
@[simp] theorem rows_dropRows [Table ρ] (p : ρ → Bool) (t : Tables) :
    Table.rows (dropRows p t) = (Table.rows t).filter fun r => !p r :=
  Table.rows_setRows _ _

/-- A row takes the place of the one with its id, and no other. -/
@[simp] theorem rows_putRow [Table ρ] (row : ρ) (t : Tables) :
    Table.rows (putRow row t) =
      (Table.rows t).map fun r => if Table.id r = Table.id row then row else r :=
  Table.rows_setRows _ _

/-- Only what becomes of the rows that are changed matters. -/
theorem mapRows_congr [Table ρ] {p : ρ → Bool} {f g : ρ → ρ} {t : Tables}
    (h : ∀ r ∈ (Table.rows t : List ρ), p r = true → f r = g r) : mapRows p f t = mapRows p g t := by
  unfold mapRows
  refine congrArg (Table.setRows · t) (List.map_congr_left fun r hr => ?_)
  by_cases hp : p r = true
  · rw [if_pos hp, if_pos hp, h r hr hp]
  · rw [if_neg hp, if_neg hp]

/-! ## Refusals of rows -/

section

variable [Schema ρ] (row : ρ)

/-- A row that clashes with none may be stored. -/
theorem guardUnique_of_none (h : Schema.clash? db.tables row = none) :
    (guardUnique row).exec now db = (.ok (), db) := by
  rw [guardUnique, Op.exec_bind_ok (exec_look _ _ _), h]
  rfl

/-- A row that clashes with another is refused. -/
theorem guardUnique_of_some {index : UniqueIndex} (h : Schema.clash? db.tables row = some index) :
    IsRefused (guardUnique row) now db := by
  refine .after (exec_look _ _ _) rfl ?_
  rw [h]
  exact isRefused_refuse _

/-- A row whose references lead to rows may be stored. -/
theorem guardReferences_of_none (h : Schema.orphan? db.tables row = none) :
    (guardReferences row).exec now db = (.ok (), db) := by
  rw [guardReferences, Op.exec_bind_ok (exec_look _ _ _), h]
  rfl

/-- A row that refers to none is refused. -/
theorem guardReferences_of_some {reference : Reference}
    (h : Schema.orphan? db.tables row = some reference) : IsRefused (guardReferences row) now db := by
  refine .after (exec_look _ _ _) rfl ?_
  rw [h]
  exact isRefused_refuse _

/-- A row that may take the place of the one with its id. -/
structure IsAdmissible (t : Tables) (row : ρ) : Prop where
  holds : Schema.holds row = true
  clash : Schema.clash? t row = none

/-- An admissible row passes all checks. -/
theorem guardRow_of_isAdmissible (now : Instant) (h : IsAdmissible db.tables row) :
    (guardRow row).exec now db = (.ok (), db) := by
  have hchecks : (guardChecks row).exec now db = (.ok (), db) :=
    Op.exec_guard_of_true h.holds checkBroken now db
  rw [guardRow, Op.exec_bind_ok hchecks, guardUnique_of_none row h.clash]

/-- A row is refused, or it is admissible. -/
theorem guardRow_cases (now : Instant) (db : Database) :
    IsRefused (guardRow row) now db ∨ IsAdmissible db.tables row := by
  rcases hholds : Schema.holds row
  · exact .inl ((isRefused_guard hholds _).bind _)
  · have hchecks : (guardChecks row).exec now db = (.ok (), db) :=
      Op.exec_guard_of_true hholds checkBroken now db
    rcases hclash : Schema.clash? db.tables row with _ | index
    · exact .inr ⟨hholds, hclash⟩
    · exact .inl (.after hchecks rfl (guardUnique_of_some row hclash))

/-- A row that may be new in its table. -/
structure IsInsertable (t : Tables) (row : ρ) : Prop extends IsAdmissible t row where
  unused : ∀ r ∈ (Table.rows t : List ρ), Table.id r ≠ Table.id row
  orphan : Schema.orphan? t row = none

/-- An unused id may be taken. -/
theorem guardKey_of_unused (h : ∀ r ∈ (Table.rows db.tables : List ρ), Table.id r ≠ Table.id row) :
    (guardKey row).exec now db = (.ok (), db) := by
  rw [guardKey, Op.exec_bind_ok (exec_look _ _ _)]
  refine Op.exec_guard_of_true ?_ _ _ _
  simpa [Schema.hasId] using h

/-- A used one may not. -/
theorem guardKey_of_used (h : ¬∀ r ∈ (Table.rows db.tables : List ρ), Table.id r ≠ Table.id row) :
    IsRefused (guardKey row) now db := by
  refine .after (exec_look _ _ _) rfl (isRefused_guard ?_ _)
  simpa [Schema.hasId] using h

/-- The part of an insertion that comes after the row has got its id. -/
def insertWithId : Op Database ρ := do
  guardChecks row
  guardKey row
  guardUnique row
  guardReferences row
  append row
  return row

/-- An insertable row comes to the end of its table. -/
theorem insertWithId_of_isInsertable (now : Instant) (h : IsInsertable db.tables row) :
    (insertWithId row).exec now db = (.ok row, { db with tables := addRow row db.tables }) := by
  have hchecks : (guardChecks row).exec now db = (.ok (), db) :=
    Op.exec_guard_of_true h.holds checkBroken now db
  unfold insertWithId
  rw [Op.exec_bind_ok hchecks, Op.exec_bind_ok (guardKey_of_unused row h.unused),
    Op.exec_bind_ok (guardUnique_of_none row h.clash),
    Op.exec_bind_ok (guardReferences_of_none row h.orphan), Op.exec_bind_ok (exec_append row now db)]
  rfl

/-- A row with its id is refused, or it is insertable and comes to the end of its table. -/
theorem insertWithId_cases (now : Instant) (db : Database) :
    IsRefused (insertWithId row) now db ∨
      (IsInsertable db.tables row ∧
        (insertWithId row).exec now db = (.ok row, { db with tables := addRow row db.tables })) := by
  unfold insertWithId
  rcases hholds : Schema.holds row
  · exact .inl ((isRefused_guard hholds _).bind _)
  have hchecks : (guardChecks row).exec now db = (.ok (), db) :=
    Op.exec_guard_of_true hholds checkBroken now db
  by_cases hunused : ∀ r ∈ (Table.rows db.tables : List ρ), Table.id r ≠ Table.id row
  case neg => exact .inl (.after hchecks rfl ((guardKey_of_used row hunused).bind _))
  have hkey : (guardKey row).exec now db = (.ok (), db) := guardKey_of_unused row hunused
  rcases hclash : Schema.clash? db.tables row with _ | index
  case some =>
    exact .inl (.after hchecks rfl (.after hkey rfl ((guardUnique_of_some row hclash).bind _)))
  have hunique : (guardUnique row).exec now db = (.ok (), db) := guardUnique_of_none row hclash
  rcases horphan : Schema.orphan? db.tables row with _ | reference
  case some =>
    refine .inl (.after hchecks rfl (.after hkey rfl (.after hunique rfl ?_)))
    exact (guardReferences_of_some row horphan).bind _
  have hrow : IsInsertable db.tables row := ⟨⟨hholds, hclash⟩, hunused, horphan⟩
  exact .inr ⟨hrow, insertWithId_of_isInsertable row now hrow⟩

/-- An insertion looks at the texts and instants of a row before it draws an id. -/
theorem insert_eq :
    insert row = (do
      guardStorable row
      let id ← takeId ρ
      insertWithId (Table.setId id row)) := rfl

/-- A new row that is insertable under the next id gets it. -/
theorem insert_of_isInsertable {new : ρ} (now : Instant) (hstorable : Schema.isStorable row = true)
    (hnew : new = Table.setId (Table.lastId ρ db.sequences + 1) row) (h : IsInsertable db.tables new) :
    (insert row).exec now db = (.ok new, { db with
      tables := addRow new db.tables
      sequences := Table.setLastId ρ (Table.lastId ρ db.sequences + 1) db.sequences }) := by
  have hguard : (guardStorable row).exec now db = (.ok (), db) :=
    Op.exec_guard_of_true hstorable unstorable now db
  subst hnew
  rw [insert_eq, Op.exec_bind_ok hguard, Op.exec_bind_ok (exec_takeId now db)]
  exact insertWithId_of_isInsertable _ now h

/-- A new row is refused, though it may use up an id, or it is insertable under the next id. -/
theorem insert_cases (now : Instant) (db : Database) :
    IsRefused (insert row) now db ∨
      ∃ new db', new = Table.setId (Table.lastId ρ db.sequences + 1) row ∧
        Schema.isStorable row = true ∧ IsInsertable db.tables new ∧
        (insert row).exec now db = (.ok new, db') ∧ db'.tables = addRow new db.tables := by
  rw [insert_eq]
  rcases hstorable : Schema.isStorable row
  · exact .inl ((isRefused_guard hstorable _).bind _)
  have hguard : (guardStorable row).exec now db = (.ok (), db) :=
    Op.exec_guard_of_true hstorable unstorable now db
  let id : Int := Table.lastId ρ db.sequences + 1
  let db₁ : Database := { db with sequences := Table.setLastId ρ id db.sequences }
  have htake : (takeId ρ).exec now db = (.ok id, db₁) := exec_takeId now db
  rcases insertWithId_cases (Table.setId id row) now db₁ with h | ⟨h, hrest⟩
  · exact .inl (.after hguard rfl (.after htake rfl h))
  · refine .inr ⟨Table.setId id row, { db₁ with tables := addRow (Table.setId id row) db₁.tables },
      rfl, rfl, h, ?_, rfl⟩
    rw [Op.exec_bind_ok hguard, Op.exec_bind_ok htake, hrest]

end

/-! ## Rows that are kept one by one -/

section

variable [Editable ρ]

/-- A live row with an id is found, or there is none. -/
theorem find_cases (ρ : Type) [Editable ρ] (id : Int) (now : Instant) (db : Database) :
    (∃ row ∈ (Table.rows db.tables : List ρ), Table.id row = id ∧ HasEntry.isLive row = true ∧
        (find ρ id).exec now db = (.ok row, db)) ∨
      ((∀ row ∈ (Table.rows db.tables : List ρ), Table.id row = id → HasEntry.isLive row = false) ∧
        (find ρ id).exec now db = (.error (notFound ρ id), db)) := by
  have hlook := exec_find? (fun r : ρ => Table.id r = id && HasEntry.isLive r) now db
  rcases hrow : (Table.rows db.tables).find? fun r : ρ => Table.id r = id && HasEntry.isLive r
    with _ | row
  · refine .inr ⟨?_, ?_⟩
    · simpa using hrow
    · rw [find, Op.exec_bind_ok hlook, hrow]
      rfl
  · refine .inl ⟨row, List.mem_of_find?_eq_some hrow, ?_⟩
    have hp := List.find?_some hrow
    simp only [Bool.and_eq_true, decide_eq_true_eq] at hp
    refine ⟨hp.1, hp.2, ?_⟩
    rw [find, Op.exec_bind_ok hlook, hrow]
    rfl

/-- The row that comes of a change to a stored row. -/
def changed (given old : ρ) (now : Instant) : ρ :=
  HasEntry.modifyEntry (·.touched now.stored) (Editable.overwrite given old)

/-- A change of a live row that may be made is made. -/
theorem update_of_find {given old : ρ}
    (hstorable : Schema.isStorable (Editable.overwrite given default) = true)
    (hfind : (find ρ (Table.id given)).exec now db = (.ok old, db))
    (hrow : IsAdmissible db.tables (changed given old now)) :
    (update given).exec now db =
      (.ok (changed given old now), { db with tables := putRow (changed given old now) db.tables }) := by
  have hguard : (guardStorable (Editable.overwrite given default)).exec now db = (.ok (), db) :=
    Op.exec_guard_of_true hstorable unstorable now db
  have hguardRow := guardRow_of_isAdmissible _ now hrow
  have hreplace := exec_replace (changed given old now) now db
  rw [update, Op.exec_bind_ok hguard, Op.exec_bind_ok hfind, Op.exec_bind_ok (exec_now now db)]
  refine (Op.exec_bind_ok hguardRow).trans ((Op.exec_bind_ok hreplace).trans ?_)
  rfl

/-- A change is refused, or a live row with the id is changed. -/
theorem update_cases (given : ρ) (now : Instant) (db : Database) :
    IsRefused (update given) now db ∨
      ∃ old ∈ (Table.rows db.tables : List ρ), Table.id old = Table.id given ∧
        HasEntry.isLive old = true ∧
        Schema.isStorable (Editable.overwrite given default) = true ∧
        IsAdmissible db.tables (changed given old now) ∧
        (update given).exec now db = (.ok (changed given old now),
          { db with tables := putRow (changed given old now) db.tables }) := by
  rcases hstorable : Schema.isStorable (Editable.overwrite given default)
  · exact .inl ((isRefused_guard hstorable _).bind _)
  have hguard : (guardStorable (Editable.overwrite given default)).exec now db = (.ok (), db) :=
    Op.exec_guard_of_true hstorable unstorable now db
  rcases find_cases ρ (Table.id given) now db with ⟨old, hmem, hid, hlive, hfind⟩ | ⟨-, hfind⟩
  case inr => exact .inl (.after hguard rfl (.bind ⟨_, _, hfind, rfl⟩ _))
  rcases guardRow_cases (changed given old now) now db with hrow | hrow
  · exact .inl (.after hguard rfl (.after hfind rfl (.after (exec_now now db) rfl (hrow.bind _))))
  · exact .inr ⟨old, hmem, hid, hlive, rfl, hrow, update_of_find hstorable hfind hrow⟩

/-- The row that comes of deleting a row. -/
def buried (row : ρ) (now : Instant) : ρ := HasEntry.modifyEntry (·.deleted now.stored) row

/-- A live row that is found is marked as deleted. -/
theorem delete_of_find {id : Int} {row : ρ} (hfind : (find ρ id).exec now db = (.ok row, db)) :
    (delete ρ id).exec now db = (.ok (), { db with tables := putRow (buried row now) db.tables }) := by
  unfold delete
  rw [Op.exec_bind_ok hfind, Op.exec_bind_ok (exec_now now db)]
  exact exec_replace (buried row now) now db

/-- A deletion is refused, or a live row with the id is marked as deleted. -/
theorem delete_cases (ρ : Type) [Editable ρ] (id : Int) (now : Instant) (db : Database) :
    IsRefused (delete ρ id) now db ∨
      ∃ row ∈ (Table.rows db.tables : List ρ), Table.id row = id ∧ HasEntry.isLive row = true ∧
        (delete ρ id).exec now db =
          (.ok (), { db with tables := putRow (buried row now) db.tables }) := by
  rcases find_cases ρ id now db with ⟨row, hmem, hid, hlive, hfind⟩ | ⟨-, hfind⟩
  · exact .inr ⟨row, hmem, hid, hlive, delete_of_find hfind⟩
  · exact .inl (.bind ⟨_, _, hfind, rfl⟩ _)

/-- A new row as it is handed to the database: no id yet, and the instants as they are stored. -/
def draft (given : ρ) : ρ :=
  HasEntry.setEntry { createdAt := (HasEntry.entry given).createdAt.stored,
                      updatedAt := (HasEntry.entry given).updatedAt.stored } (Editable.fresh given)

/-- To create a row is to insert its draft. -/
theorem create_eq (given : ρ) : create given = insert (draft given) := rfl

end

end Fostering.Database
