import Fostering.Proofs.Posts.Board
import Fostering.Proofs.Sessions.Rows

/-!
# Calls that are refused

A call of the store that is refused leaves every table as it was, whatever rows it was given and
however far it had come: it is *atomic*. Most calls take one step at most, and what stands before that
step only looks. The others are transactions, which put the tables back.

Ids that were given away stay used up.

* `isAtomic_perform`: every call of the store is atomic.
-/

namespace Fostering.Database

variable {α β ρ : Type}

/-- An operation is atomic: if it is refused, every table is as it was. -/
def IsAtomic (op : Op Database α) : Prop :=
  ∀ (now : Instant) (db : Database) (cause : Error) (db' : Database),
    op.exec now db = (.error cause, db') → db'.tables = db.tables

/-- An operation is refused for a cause, and every table is as it was. -/
def IsRefusedFor (op : Op Database α) (cause : Error) (now : Instant) (db : Database) : Prop :=
  ∃ db', op.exec now db = (.error cause, db') ∧ db'.tables = db.tables

/-- What is refused and atomic changes no table. -/
theorem IsAtomic.isRefusedFor {op : Op Database α} {cause : Error} {now : Instant} {db : Database}
    (h : IsAtomic op) (hrefused : (op.exec now db).1 = .error cause) : IsRefusedFor op cause now db := by
  rcases hexec : op.exec now db with ⟨result, db'⟩
  rw [hexec] at hrefused
  cases hrefused
  exact ⟨db', hexec, h now db cause db' hexec⟩

/-! ## Steps -/

/-- What only looks is atomic. -/
theorem isAtomic_of_reads {op : Op Database α} (h : op.KeepsTo (OnlyChanges [])) : IsAtomic op := by
  intro now db cause db' heq
  have hdb := h now db
  rw [heq] at hdb
  exact tables_of_onlyChanges_nil hdb

/-- What is never refused is atomic. -/
theorem isAtomic_of_succeeds {op : Op Database α}
    (h : ∀ now db, ∃ a db', op.exec now db = (.ok a, db')) : IsAtomic op := by
  intro now db cause db' heq
  obtain ⟨a, db₁, hok⟩ := h now db
  rw [hok] at heq
  cases heq

/-- What is refused with every table as it was, or not at all, is atomic. -/
theorem isAtomic_of_cases {op : Op Database α}
    (h : ∀ now db, IsRefused op now db ∨ ∃ a db', op.exec now db = (.ok a, db')) : IsAtomic op := by
  intro now db cause db' heq
  rcases h now db with hrefused | ⟨a, db₁, hok⟩
  · have htables := hrefused.tables_eq
    rw [heq] at htables
    exact htables
  · rw [hok] at heq
    cases heq

/-- What is atomic stays so if something comes before it that only looks. -/
theorem IsAtomic.after {op : Op Database α} {f : α → Op Database β}
    (hop : op.KeepsTo (OnlyChanges [])) (hf : ∀ a, IsAtomic (f a)) : IsAtomic (op >>= f) := by
  intro now db cause db' heq
  have hlooked : (op.exec now db).2.tables = db.tables := tables_of_onlyChanges_nil (hop now db)
  rcases hfirst : op.exec now db with ⟨cause' | a, db₁⟩
  · rw [Op.exec_bind_error hfirst] at heq
    cases heq
    rw [hfirst] at hlooked
    exact hlooked
  · rw [Op.exec_bind_ok hfirst] at heq
    rw [hfirst] at hlooked
    exact (hf a now db₁ cause db' heq).trans hlooked

/-- What is atomic stays so if something comes after it that is never refused. -/
theorem IsAtomic.before {op : Op Database α} {f : α → Op Database β} (hop : IsAtomic op)
    (hf : ∀ a now db, ∃ b db', (f a).exec now db = (.ok b, db')) : IsAtomic (op >>= f) := by
  intro now db cause db' heq
  rcases hfirst : op.exec now db with ⟨cause' | a, db₁⟩
  · rw [Op.exec_bind_error hfirst] at heq
    cases heq
    exact hop now db cause db' hfirst
  · obtain ⟨b, db₂, hok⟩ := hf a now db₁
    rw [Op.exec_bind_ok hfirst, hok] at heq
    cases heq

/-- A transaction is atomic, whatever its steps are. -/
theorem isAtomic_atomically (op : Op Database α) : IsAtomic (atomically op) :=
  fun _ _ _ _ heq => exec_atomically_error heq

/-! ## Rows that are kept one by one -/

/-- An insertion that is refused uses up an id and leaves no row. -/
theorem isAtomic_insert [Schema ρ] (row : ρ) : IsAtomic (insert row) :=
  isAtomic_of_cases fun now db => (insert_cases row now db).imp_right
    fun ⟨new, db', _, _, _, heq, _⟩ => ⟨new, db', heq⟩

/-- A change that is refused leaves the row as it was. -/
theorem isAtomic_update [Editable ρ] (given : ρ) : IsAtomic (update given) :=
  isAtomic_of_cases fun now db => (update_cases given now db).imp_right
    fun ⟨_, _, _, _, _, _, heq⟩ => ⟨_, _, heq⟩

/-- A deletion that is refused leaves the row as it was. -/
theorem isAtomic_delete [Editable ρ] (id : Int) : IsAtomic (delete ρ id) :=
  isAtomic_of_cases fun now db => (delete_cases ρ id now db).imp_right
    fun ⟨_, _, _, _, heq⟩ => ⟨_, _, heq⟩

/-- No call on records leaves a trace in the tables if it is refused. -/
theorem isAtomic_records {φ : Type} [Editable ρ] [Columns ρ] [Filter φ ρ]
    (call : Store.RecordCall ρ φ) :
    letI := records ρ φ
    IsAtomic (call.perform : Op Database call.Result) := by
  cases call with
  | create given => exact isAtomic_insert (draft given)
  | find id => exact isAtomic_of_reads (keepsTo_find (ρ := ρ) id)
  | findAny id => exact isAtomic_of_reads (keepsTo_findAny (ρ := ρ) id)
  | list filter order page => exact isAtomic_of_reads (keepsTo_list filter order page)
  | update given => exact isAtomic_update given
  | delete id => exact isAtomic_delete id

/-! ## The other calls -/

/-- A block that is refused leaves the post as it was. -/
theorem isAtomic_blockPost (id : Int) : IsAtomic (blockPost id) := by
  refine .after (keepsTo_find id) fun post => .after keepsTo_time fun time => ?_
  exact isAtomic_of_succeeds fun _ _ => ⟨_, _, rfl⟩

/-- Whether a session is replaced or is new, all guards stand before the one step that changes a row. -/
theorem isAtomic_upsertSession (given : Session) : IsAtomic (upsertSession given) := by
  refine isAtomic_of_cases fun now db => (upsertSession_cases given now db).imp_right ?_
  rintro (⟨_, _, _, _, _, heq⟩ | ⟨_, _, _, heq⟩)
  · exact ⟨_, _, heq⟩
  · exact ⟨_, _, heq⟩

/-- The look for a session may be refused, and then none is taken. -/
theorem isAtomic_takeSession (hash : String) : IsAtomic (takeSession hash) := by
  refine .after (Op.keepsTo_guard _ _) fun _ => .after keepsTo_time fun time => ?_
  refine .after (keepsTo_looking _) fun session? => ?_
  exact isAtomic_of_succeeds fun _ _ => ⟨_, _, rfl⟩

/-- The look for the session of a device may be refused, and then none is deleted. -/
theorem isAtomic_deleteSession (userId : Int) (fingerprint : String) :
    IsAtomic (deleteSession userId fingerprint) := by
  refine .after (Op.keepsTo_guard _ _) fun _ => .after (keepsTo_looking _) fun session? => ?_
  exact isAtomic_of_succeeds fun _ _ => ⟨_, _, rfl⟩

/-- A mark that is refused leaves the marks as they were. -/
theorem isAtomic_addFavourite (userId keeperId : Int) : IsAtomic (addFavourite userId keeperId) := by
  refine .after (keepsTo_find (ρ := Keeper) keeperId) fun _ => ?_
  refine .after (keepsTo_looking _) fun mark? => ?_
  rcases mark? with _ | mark
  · refine .after (keepsTo_looking _) fun missing? => ?_
    rcases missing? with _ | reference
    · exact isAtomic_of_succeeds fun _ _ => ⟨_, _, rfl⟩
    · exact isAtomic_of_reads (Op.keepsTo_refuse _)
  · exact isAtomic_of_reads (Op.keepsTo_pure mark)

/-- To take a mark away that is not there leaves the marks as they were. -/
theorem isAtomic_removeFavourite (userId keeperId : Int) :
    IsAtomic (removeFavourite userId keeperId) := by
  refine .after (keepsTo_looking _) fun mark? => .after (Op.keepsTo_guard _ _) fun _ => ?_
  exact isAtomic_of_succeeds fun _ _ => ⟨_, _, rfl⟩

/-- **Every call of the store is atomic.** -/
theorem isAtomic_perform (call : Store.Call) : IsAtomic (call.perform : Op Database call.Result) := by
  have hreads (call : Store.Call) (h : call.writes = []) :
      IsAtomic (call.perform : Op Database call.Result) :=
    isAtomic_of_reads (h ▸ perform_onlyChanges call)
  cases call with
  | user call | keeper call | seeker call | vet call | post call | message call =>
      exact isAtomic_records call
  | review call =>
      cases call with
      | create given | update given | delete id => exact isAtomic_atomically _
      | find id | findAny id | list filter order page => exact hreads _ rfl
  | fileReport _ _ | approvePost _ | createChat _ _ | removeMember _ _ =>
      exact isAtomic_atomically _
  | blockPost id => exact isAtomic_blockPost id
  | upsertSession session => exact isAtomic_upsertSession session
  | takeSession hash => exact isAtomic_takeSession hash
  | deleteSession userId fingerprint => exact isAtomic_deleteSession userId fingerprint
  | addFavourite userId keeperId => exact isAtomic_addFavourite userId keeperId
  | removeFavourite userId keeperId => exact isAtomic_removeFavourite userId keeperId
  | userByName _ | keeperOf _ | seekerOf _ | vetOf _ | reportsOn _ | countReports _
  | moderationQueue _ | findChat _ | findAnyChat _ | chatsOf _ _ | isMember _ _ | findSession _
  | favouritesOf _ _ | reachable => exact hreads _ rfl

end Fostering.Database
