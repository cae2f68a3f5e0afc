import Mathlib.Data.List.Nodup
import Fostering.Proofs.Database.Invariants
import Fostering.Proofs.Keepers.Gradebook

/-!
# Keys

The rows of a table are told apart by their ids. Rows are marked as deleted and never taken away, so
all that a call does to the ids of keepers or vets is to add one that was not in use (`GainsId`). Hence
a live keeper or vet is the row that is found under its id, whatever has happened to the database.

* `gainsId_keepers`, `gainsId_vets`: what a call does to the ids.
* `nodup_keepers_serveAll`, `nodup_vets_serveAll`: the ids are distinct after every run of requests.
* `find_of_nodup`: what is found under an id.
-/

namespace Fostering

/-- Some ids stay as they are, or there is a new one. -/
def GainsId (ids ids' : List Int) : Prop := ids' = ids ∨ ∃ id ∉ ids, ids' = ids ++ [id]

/-- Ids stay apart if those that are gained are new. -/
theorem GainsId.nodup {ids ids' : List Int} (h : GainsId ids ids') (hids : ids.Nodup) : ids'.Nodup := by
  rcases h with rfl | ⟨id, hnew, rfl⟩
  · exact hids
  · rw [← List.concat_eq_append, List.nodup_concat]
    exact ⟨hnew, hids⟩

namespace Database

/-- The ids in a table. -/
def ids (ρ : Type) [Table ρ] (t : Tables) : List Int := (Table.rows t : List ρ).map Table.id

/-! ## Tables -/

section

variable {ρ : Type} [Table ρ] {t : Tables}

/-- A new row brings its id along. -/
theorem gainsId_addRow {new : ρ} (hunused : ∀ r ∈ (Table.rows t : List ρ), Table.id r ≠ Table.id new) :
    GainsId (ids ρ t) (ids ρ (addRow new t)) := by
  refine .inr ⟨Table.id new, fun hused => ?_, ?_⟩
  · obtain ⟨r, hr, hid⟩ := List.mem_map.mp hused
    exact hunused r hr hid
  · unfold ids
    rw [rows_addRow, List.map_append, List.map_singleton]

/-- A row that takes the place of another has its id. -/
@[simp] theorem ids_putRow (new : ρ) (t : Tables) : ids ρ (putRow new t) = ids ρ t := by
  unfold ids
  rw [rows_putRow, List.map_map]
  refine List.map_congr_left fun r _ => ?_
  by_cases hid : Table.id r = Table.id new <;> simp [hid]

/-- Rows with one id are one row. -/
theorem eq_of_key (hids : (ids ρ t).Nodup) {r s : ρ} (hr : r ∈ (Table.rows t : List ρ))
    (hs : s ∈ (Table.rows t : List ρ)) (hid : Table.id r = Table.id s) : r = s :=
  List.inj_on_of_nodup_map hids hr hs hid

/-- A row is the first one with its id. -/
theorem find?_of_key (hids : (ids ρ t).Nodup) {r : ρ} (hr : r ∈ (Table.rows t : List ρ)) :
    ((Table.rows t).find? fun s : ρ => Table.id s = Table.id r) = some r := by
  rcases hfound : (Table.rows t).find? fun s : ρ => Table.id s = Table.id r with _ | s
  · exact absurd (decide_eq_true rfl) (List.find?_eq_none.mp hfound r hr)
  · have hid := List.find?_some hfound
    rw [decide_eq_true_eq] at hid
    rw [eq_of_key hids (List.mem_of_find?_eq_some hfound) hr hid]

section

variable [HasEntry ρ]

/-- No live row has the id of a deleted one. -/
theorem id_ne_of_live (hids : (ids ρ t).Nodup) {r s : ρ} (hr : r ∈ (Table.rows t : List ρ))
    (hdead : HasEntry.isLive r = false) (hs : s ∈ (Table.rows t : List ρ))
    (hlive : HasEntry.isLive s = true) : Table.id s ≠ Table.id r := by
  intro hid
  rw [eq_of_key hids hs hr hid, hdead] at hlive
  cases hlive

/-- A live row is the first live one with its id. -/
theorem find?_of_live (hids : (ids ρ t).Nodup) {r : ρ} (hr : r ∈ (Table.rows t : List ρ))
    (hlive : HasEntry.isLive r = true) :
    ((Table.rows t).find? fun s : ρ => Table.id s = Table.id r && HasEntry.isLive s) = some r := by
  rcases hfound : (Table.rows t).find? fun s : ρ => Table.id s = Table.id r && HasEntry.isLive s with _ | s
  · have hnot := List.find?_eq_none.mp hfound r hr
    rw [hlive, decide_eq_true rfl] at hnot
    exact absurd rfl hnot
  · have hs := List.find?_some hfound
    rw [Bool.and_eq_true, decide_eq_true_eq] at hs
    rw [eq_of_key hids (List.mem_of_find?_eq_some hfound) hr hs.1]

/-- A row whose id has none but deleted rows is not found. -/
theorem find?_of_dead {id : Int}
    (h : ∀ r ∈ (Table.rows t : List ρ), Table.id r = id → HasEntry.isLive r = false) :
    ((Table.rows t).find? fun s : ρ => Table.id s = id && HasEntry.isLive s) = none := by
  refine List.find?_eq_none.mpr fun r hr hfound => ?_
  rw [Bool.and_eq_true, decide_eq_true_eq] at hfound
  rw [h r hr hfound.1] at hfound
  cases hfound.2

end

/-- A call that does not change a table changes none of its ids. -/
theorem ids_of_onlyChanges [NamedTable ρ] {tables : List TableName} {db db' : Database}
    (h : OnlyChanges tables db db') (hname : NamedTable.name ρ ∉ tables) :
    ids ρ db'.tables = ids ρ db.tables := by
  unfold ids
  rw [NamedTable.rows_of_agrees (h _ hname)]

end

section

variable {ρ φ : Type} [Editable ρ] {now : Instant} {db : Database}

/-- A call on rows that are kept one by one adds at most one id. -/
theorem gainsId_records [NamedTable ρ] [Columns ρ] [Filter φ ρ] (call : Store.RecordCall ρ φ) :
    letI := records ρ φ
    GainsId (ids ρ db.tables)
      (ids ρ ((call.perform : Op Database call.Result).exec now db).2.tables) := by
  have hrefused {t : Tables} (h : t = db.tables) : GainsId (ids ρ db.tables) (ids ρ t) :=
    .inl (by rw [h])
  have hlooks {db' : Database} (h : OnlyChanges [] db db') :
      GainsId (ids ρ db.tables) (ids ρ db'.tables) :=
    .inl (ids_of_onlyChanges h List.not_mem_nil)
  cases call with
  | create given =>
      change GainsId (ids ρ db.tables) (ids ρ ((create given).exec now db).2.tables)
      rw [create_eq]
      rcases insert_cases (draft given) now db with h | ⟨new, db', -, -, hnew, heq, htables⟩
      · exact hrefused h.tables_eq
      · rw [heq, htables]
        exact gainsId_addRow hnew.unused
  | update given =>
      change GainsId (ids ρ db.tables) (ids ρ ((update given).exec now db).2.tables)
      rcases update_cases given now db with h | ⟨old, -, -, -, -, -, heq⟩
      · exact hrefused h.tables_eq
      · rw [heq]
        exact .inl (ids_putRow _ _)
  | delete id =>
      change GainsId (ids ρ db.tables) (ids ρ ((delete ρ id).exec now db).2.tables)
      rcases delete_cases ρ id now db with h | ⟨old, -, -, -, heq⟩
      · exact hrefused h.tables_eq
      · rw [heq]
        exact .inl (ids_putRow _ _)
  | find id => exact hlooks (keepsTo_find (ρ := ρ) id now db)
  | findAny id => exact hlooks (keepsTo_findAny (ρ := ρ) id now db)
  | list filter order page => exact hlooks (keepsTo_list filter order page now db)

/-- A live row is the one that is found under its id. -/
theorem find_of_nodup (hids : (ids ρ db.tables).Nodup) {row : ρ}
    (hrow : row ∈ (Table.rows db.tables : List ρ)) (hlive : HasEntry.isLive row = true)
    (now : Instant) : (find ρ (Table.id row)).exec now db = (.ok row, db) := by
  rcases find_cases ρ (Table.id row) now db with ⟨found, hfound, hid, -, heq⟩ | ⟨hdead, -⟩
  · rw [heq, eq_of_key hids hfound hrow hid]
  · rw [hdead row hrow rfl] at hlive
    cases hlive

/-- No row is found under an id under which there is no live one. -/
theorem exec_find_of_dead {id : Int}
    (h : ∀ row ∈ (Table.rows db.tables : List ρ), Table.id row = id → HasEntry.isLive row = false)
    (now : Instant) : (find ρ id).exec now db = (.error (notFound ρ id), db) := by
  rcases find_cases ρ id now db with ⟨row, hrow, hid, hlive, -⟩ | ⟨-, hfind⟩
  · rw [h row hrow hid] at hlive
    cases hlive
  · exact hfind

end

end Database

/-! ## Keepers -/

namespace Gradebook

variable {b b' : Gradebook} {now : Instant} {call : Store.Call}

/-- The ids of the keepers. -/
def ids (b : Gradebook) : List Int := b.keepers.map fun k => k.entry.id

/-- A keeper who takes the place of another has the same id. -/
@[simp] theorem ids_putKeeper (k : Keeper) : (b.putKeeper k).ids = b.ids := by
  unfold ids putKeeper
  rw [List.map_map]
  refine List.map_congr_left fun l _ => ?_
  by_cases hid : l.entry.id = k.entry.id <;> simp [hid]

/-- A new rating changes no id. -/
@[simp] theorem ids_rate (id : Int) : (b.rate id now).ids = b.ids := by
  unfold ids rate
  rw [List.map_map]
  refine List.map_congr_left fun k _ => ?_
  by_cases hid : k.entry.id = id <;> simp [hid, Entry.touched]

/-- No step changes the id of a keeper, or takes one away. -/
theorem Step.gainsId (hstep : Step now b call b') : GainsId b.ids b'.ids := by
  cases hstep with
  | stay => exact .inl rfl
  | createKeeper given id unused =>
      refine .inr ⟨id, fun hused => ?_, List.map_append⟩
      obtain ⟨k, hk, hid⟩ := List.mem_map.mp hused
      exact unused k hk hid
  | updateKeeper | deleteKeeper => exact .inl (ids_putKeeper _)
  | createReview | updateReview | deleteReview => exact .inl (ids_rate _)

end Gradebook

namespace Database

/-- Calls give keepers new ids only. -/
theorem gainsId_keepers (call : Store.Call) (now : Instant) (db : Database) :
    GainsId (ids Keeper db.tables) (ids Keeper (call.perform.exec now db).2.tables) :=
  (gradebook_step now db call).gainsId

/-- After every run of requests, keepers have distinct ids. -/
theorem nodup_keepers_serveAll (config : Config) (run : List Arrival) :
    (ids Keeper (serveAll config {} run).tables).Nodup := by
  have hcalls : KeptByCalls fun db => (ids Keeper db.tables).Nodup :=
    fun call now db => (gainsId_keepers call now db).nodup
  have hempty : (ids Keeper ({} : Database).tables).Nodup := List.nodup_nil
  exact serveAll_of_calls hcalls hempty run

end Database

/-! ## Vets -/

/-- The calls on vets are the only ones that write there. -/
theorem Store.Call.exists_vet {call : Store.Call} (h : TableName.vets ∈ call.writes) :
    ∃ c, call = .vet c := by
  cases call with
  | vet c => exact ⟨c, rfl⟩
  | user c | keeper c | seeker c | post c | review c | message c =>
      exact absurd (c.writes_subset _ h) (by decide)
  | _ => simp [Store.Call.writes] at h

namespace Database

/-- Calls give vets new ids only. -/
theorem gainsId_vets (call : Store.Call) (now : Instant) (db : Database) :
    GainsId (ids Vet db.tables) (ids Vet (call.perform.exec now db).2.tables) := by
  by_cases hwrites : TableName.vets ∈ call.writes
  · obtain ⟨c, rfl⟩ := Store.Call.exists_vet hwrites
    exact gainsId_records c
  · exact .inl (ids_of_onlyChanges (perform_onlyChanges call now db) hwrites)

/-- After every run of requests, vets have distinct ids. -/
theorem nodup_vets_serveAll (config : Config) (run : List Arrival) :
    (ids Vet (serveAll config {} run).tables).Nodup := by
  have hcalls : KeptByCalls fun db => (ids Vet db.tables).Nodup :=
    fun call now db => (gainsId_vets call now db).nodup
  have hempty : (ids Vet ({} : Database).tables).Nodup := List.nodup_nil
  exact serveAll_of_calls hcalls hempty run

end Database

end Fostering
