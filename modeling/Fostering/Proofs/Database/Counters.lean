import Fostering.Proofs.Database.Effects
import Fostering.Proofs.Database.Keys

/-!
# Counters

Each table with ids has a counter, the last id that it gave away. A counter never goes back, and the
rows of its table have no ids but those that they had before and those that the counter has given away
since (`TableName.Advances`). So an id is given once, whether or not the row for which it was meant has
been refused: that uses it up all the same (`lastId_insert`).

* `advances_perform`: every call of the store advances all counters, or leaves them.
* `advances_happen`: so does every request.
-/

namespace Fostering

namespace TableName

/-- The ids in a table. The rows of two tables have none. -/
def ids : TableName → Tables → List Int
  | users, t => Database.ids User t
  | keepers, t => Database.ids Keeper t
  | seekers, t => Database.ids Seeker t
  | vets, t => Database.ids Vet t
  | posts, t => Database.ids Post t
  | reports, t => Database.ids Report t
  | reviews, t => Database.ids Review t
  | chats, t => Database.ids Chat t
  | messages, t => Database.ids Message t
  | sessions, t => Database.ids Session t
  | members, _ | favourites, _ => []

/-- The last id that a table gave away. -/
def lastId : TableName → Sequences → Int
  | users, s => s.users
  | keepers, s => s.keepers
  | seekers, s => s.seekers
  | vets, s => s.vets
  | posts, s => s.posts
  | reports, s => s.reports
  | reviews, s => s.reviews
  | chats, s => s.chats
  | messages, s => s.messages
  | sessions, s => s.sessions
  | members, _ | favourites, _ => 0

/-- The ids in a table are seen from that table alone. -/
theorem ids_of_agrees {name : TableName} {t t' : Tables} (h : name.Agrees t t') :
    name.ids t' = name.ids t := by
  cases name with
  | members | favourites => rfl
  | users | keepers | seekers | vets | posts | reports | reviews | chats | messages | sessions =>
      exact congrArg (List.map _) h

/-- The counter of a table does not go back, and its rows have no ids but those that they had and those
that the counter has given away. -/
structure Advances (name : TableName) (db db' : Database) : Prop where
  counter : name.lastId db.sequences ≤ name.lastId db'.sequences
  fresh : ∀ id ∈ name.ids db'.tables, id ∈ name.ids db.tables ∨
    name.lastId db.sequences < id ∧ id ≤ name.lastId db'.sequences

end TableName

/-- A table with ids and a counter of its own. -/
class NumberedTable (ρ : Type) [Table ρ] [NamedTable ρ] : Prop where
  ids_eq : ∀ t, (NamedTable.name ρ).ids t = Database.ids ρ t
  lastId_eq : ∀ s, (NamedTable.name ρ).lastId s = Table.lastId ρ s
  lastId_setLastId_of_ne : ∀ {other : TableName}, other ≠ NamedTable.name ρ → ∀ n s,
    other.lastId (Table.setLastId ρ n s) = other.lastId s

namespace NumberedTable

instance : NumberedTable User where
  ids_eq _ := rfl
  lastId_eq _ := rfl
  lastId_setLastId_of_ne := by
    intro other h n s
    cases other with
    | users => exact absurd rfl h
    | _ => rfl

instance : NumberedTable Keeper where
  ids_eq _ := rfl
  lastId_eq _ := rfl
  lastId_setLastId_of_ne := by
    intro other h n s
    cases other with
    | keepers => exact absurd rfl h
    | _ => rfl

instance : NumberedTable Seeker where
  ids_eq _ := rfl
  lastId_eq _ := rfl
  lastId_setLastId_of_ne := by
    intro other h n s
    cases other with
    | seekers => exact absurd rfl h
    | _ => rfl

instance : NumberedTable Vet where
  ids_eq _ := rfl
  lastId_eq _ := rfl
  lastId_setLastId_of_ne := by
    intro other h n s
    cases other with
    | vets => exact absurd rfl h
    | _ => rfl

instance : NumberedTable Post where
  ids_eq _ := rfl
  lastId_eq _ := rfl
  lastId_setLastId_of_ne := by
    intro other h n s
    cases other with
    | posts => exact absurd rfl h
    | _ => rfl

instance : NumberedTable Report where
  ids_eq _ := rfl
  lastId_eq _ := rfl
  lastId_setLastId_of_ne := by
    intro other h n s
    cases other with
    | reports => exact absurd rfl h
    | _ => rfl

instance : NumberedTable Review where
  ids_eq _ := rfl
  lastId_eq _ := rfl
  lastId_setLastId_of_ne := by
    intro other h n s
    cases other with
    | reviews => exact absurd rfl h
    | _ => rfl

instance : NumberedTable Chat where
  ids_eq _ := rfl
  lastId_eq _ := rfl
  lastId_setLastId_of_ne := by
    intro other h n s
    cases other with
    | chats => exact absurd rfl h
    | _ => rfl

instance : NumberedTable Message where
  ids_eq _ := rfl
  lastId_eq _ := rfl
  lastId_setLastId_of_ne := by
    intro other h n s
    cases other with
    | messages => exact absurd rfl h
    | _ => rfl

instance : NumberedTable Session where
  ids_eq _ := rfl
  lastId_eq _ := rfl
  lastId_setLastId_of_ne := by
    intro other h n s
    cases other with
    | sessions => exact absurd rfl h
    | _ => rfl

end NumberedTable

namespace Database

variable {α ρ : Type} {now : Instant} {db db' : Database}

/-- All counters advance. -/
def Advances (db db' : Database) : Prop := ∀ name : TableName, name.Advances db db'

instance : IsPreorder Database Advances where
  refl db name := ⟨Int.le_refl _, fun _ h => .inl h⟩
  trans db db' db'' h h' name := by
    have hcounter := (h name).counter
    have hcounter' := (h' name).counter
    refine ⟨Int.le_trans hcounter hcounter', fun id hid => ?_⟩
    rcases (h' name).fresh id hid with hold | ⟨hlow, hhigh⟩
    · rcases (h name).fresh id hold with holder | ⟨hlow, hhigh⟩
      · exact .inl holder
      · exact .inr ⟨hlow, Int.le_trans hhigh hcounter'⟩
    · exact .inr ⟨Int.lt_of_le_of_lt hcounter hlow, hhigh⟩

/-- No counter moves, and no row gets a new id. -/
theorem advances_of_ids_subset (hsequences : db'.sequences = db.sequences)
    (hids : ∀ name : TableName, name.ids db'.tables ⊆ name.ids db.tables) : Advances db db' := by
  intro name
  exact ⟨Int.le_of_eq (by rw [hsequences]), fun id hid => .inl (hids name hid)⟩

/-! ## Counters alone -/

/-- No counter moves. -/
def KeepsCounters (db db' : Database) : Prop := db'.sequences = db.sequences

instance : IsPreorder Database KeepsCounters where
  refl _ := rfl
  trans _ _ _ h h' := h'.trans h

/-- A change of rows touches no counter. -/
theorem keepsCounters_change (f : Tables → Tables) : (change f).KeepsTo KeepsCounters := fun _ _ => rfl

/-- To check an id changes nothing. -/
theorem keepsTo_guardKey {R : Database → Database → Prop} [IsPreorder Database R] [Schema ρ] (row : ρ) :
    (guardKey row).KeepsTo R :=
  Op.keepsTo_bind (keepsTo_looking _) fun _ => Op.keepsTo_guard _ _

/-- Once a row has got its id, no counter moves. -/
theorem keepsCounters_insertWithId [Schema ρ] (row : ρ) : (insertWithId row).KeepsTo KeepsCounters := by
  refine Op.keepsTo_bind (Op.keepsTo_guard _ _) fun _ => Op.keepsTo_bind (keepsTo_guardKey _) fun _ => ?_
  refine Op.keepsTo_bind (keepsTo_guardUnique _) fun _ => ?_
  refine Op.keepsTo_bind (keepsTo_guardReferences _) fun _ => ?_
  exact Op.keepsTo_bind (keepsCounters_change _) fun _ => Op.keepsTo_pure _

/-- **A row that can be stored uses up the next id, whether or not it is refused.** -/
theorem sequences_insert [Schema ρ] {row : ρ} (hstorable : Schema.isStorable row = true)
    (now : Instant) (db : Database) :
    ((insert row).exec now db).2.sequences =
      Table.setLastId ρ (Table.lastId ρ db.sequences + 1) db.sequences := by
  have hguard : (guardStorable row).exec now db = (.ok (), db) :=
    Op.exec_guard_of_true hstorable unstorable now db
  rw [insert_eq, Op.exec_bind_ok hguard, Op.exec_bind_ok (exec_takeId now db)]
  exact keepsCounters_insertWithId _ now _

/-- An insertion draws the next id. -/
theorem lastId_insert [Schema ρ] {row : ρ} (hstorable : Schema.isStorable row = true) (now : Instant)
    (db : Database) : Table.lastId ρ ((insert row).exec now db).2.sequences =
      Table.lastId ρ db.sequences + 1 := by
  rw [sequences_insert hstorable, Table.lastId_setLastId]

/-! ## Statements -/

section

variable [Table ρ] [NamedTable ρ] [NumberedTable ρ]

/-- Setting the rows of a table leaves the ids of all others as they were. -/
theorem ids_setRows_subset {rows : List ρ} {t : Tables} (h : rows.map Table.id ⊆ ids ρ t)
    (name : TableName) : name.ids (Table.setRows rows t) ⊆ name.ids t := by
  by_cases hname : name = NamedTable.name ρ
  · subst hname
    rw [NumberedTable.ids_eq, NumberedTable.ids_eq]
    unfold ids
    rw [Table.rows_setRows]
    exact h
  · rw [TableName.ids_of_agrees (NamedTable.agrees_setRows hname rows t)]
    exact List.Subset.refl _

/-- Rows that are changed in their places keep their ids. -/
theorem ids_mapRows_subset {p : ρ → Bool} {f : ρ → ρ}
    (h : ∀ r, p r = true → Table.id (f r) = Table.id r) (t : Tables) (name : TableName) :
    name.ids (mapRows p f t) ⊆ name.ids t := by
  refine ids_setRows_subset (fun id hid => ?_) name
  rw [List.map_map] at hid
  obtain ⟨r, hr, rfl⟩ := List.mem_map.mp hid
  refine List.mem_map.mpr ⟨r, hr, ?_⟩
  rw [Function.comp_apply]
  split_ifs with hp
  · exact (h r hp).symm
  · rfl

/-- Putting a row in the place of the one with its id changes no id of any table. -/
theorem ids_putRow_of_name (row : ρ) (t : Tables) (name : TableName) :
    name.ids (putRow row t) = name.ids t := by
  by_cases hname : name = NamedTable.name ρ
  · subst hname
    rw [NumberedTable.ids_eq, NumberedTable.ids_eq, ids_putRow]
  · exact TableName.ids_of_agrees (NamedTable.agrees_setRows hname _ t)

/-- A change of rows that keeps their ids draws none. -/
theorem advances_updateWhere {p : ρ → Bool} {f : ρ → ρ}
    (h : ∀ r, p r = true → Table.id (f r) = Table.id r) : (updateWhere p f).KeepsTo Advances :=
  fun _ db => advances_of_ids_subset rfl (ids_mapRows_subset h db.tables)

theorem advances_replace (row : ρ) : (replace row).KeepsTo Advances :=
  advances_updateWhere fun _ h => (of_decide_eq_true h).symm

/-- Rows that are erased give no ids back. -/
theorem advances_eraseWhere (p : ρ → Bool) : (eraseWhere p).KeepsTo Advances := by
  refine fun _ db => advances_of_ids_subset rfl (ids_setRows_subset fun id hid => ?_)
  obtain ⟨r, hr, rfl⟩ := List.mem_map.mp hid
  exact List.mem_map_of_mem (List.mem_filter.mp hr).1

/-- A table gives its next id away, and no row gets another new id. -/
theorem advances_of_taken
    (hsequences : db'.sequences = Table.setLastId ρ (Table.lastId ρ db.sequences + 1) db.sequences)
    (hids : ∀ (name : TableName), ∀ id ∈ name.ids db'.tables, id ∈ name.ids db.tables ∨
      name = NamedTable.name ρ ∧ id = Table.lastId ρ db.sequences + 1) : Advances db db' := by
  intro name
  by_cases hname : name = NamedTable.name ρ
  · have hcounter : name.lastId db.sequences = Table.lastId ρ db.sequences :=
      hname ▸ NumberedTable.lastId_eq db.sequences
    have hcounter' : name.lastId db'.sequences = Table.lastId ρ db.sequences + 1 := by
      rw [hname, NumberedTable.lastId_eq, hsequences, Table.lastId_setLastId]
    refine ⟨by omega, fun id hid => (hids name id hid).imp_right fun ⟨_, heq⟩ => ?_⟩
    omega
  · have hcounter : name.lastId db'.sequences = name.lastId db.sequences := by
      rw [hsequences, NumberedTable.lastId_setLastId_of_ne hname]
    refine ⟨Int.le_of_eq hcounter.symm, fun id hid => ?_⟩
    exact (hids name id hid).imp_right fun h => absurd h.1 hname

/-- A row under the next id of its table. -/
theorem mem_ids_addRow {row : ρ} {t : Tables} {name : TableName} {id : Int}
    (h : id ∈ name.ids (addRow row t)) :
    id ∈ name.ids t ∨ name = NamedTable.name ρ ∧ id = Table.id row := by
  by_cases hname : name = NamedTable.name ρ
  · subst hname
    rw [NumberedTable.ids_eq] at h ⊢
    unfold ids at h
    rw [rows_addRow, List.map_append, List.map_singleton, List.mem_append, List.mem_singleton] at h
    exact h.imp_right fun heq => ⟨rfl, heq⟩
  · have hagrees : name.Agrees t (addRow row t) := NamedTable.agrees_setRows hname _ t
    rw [TableName.ids_of_agrees hagrees] at h
    exact .inl h

end

/-- An id that is drawn for nothing is used up. -/
theorem advances_of_tables_eq [Table ρ] [NamedTable ρ] [NumberedTable ρ]
    (hsequences : db'.sequences = Table.setLastId ρ (Table.lastId ρ db.sequences + 1) db.sequences)
    (htables : db'.tables = db.tables) : Advances db db' :=
  advances_of_taken hsequences fun _ _ hid => .inl (htables ▸ hid)

/-- A new row gets an id that was never given away. -/
theorem advances_insert [Schema ρ] [NamedTable ρ] [NumberedTable ρ] (row : ρ) :
    (insert row).KeepsTo Advances := by
  intro now db
  rcases hstorable : Schema.isStorable row
  · have hguard : (guardStorable row).exec now db = (.error unstorable, db) :=
      Op.exec_guard_of_false hstorable unstorable now db
    rw [insert_eq, Op.exec_bind_error hguard]
    exact Std.Refl.refl db
  · have hsequences := sequences_insert hstorable now db
    rcases insert_cases row now db with h | ⟨new, db', rfl, -, -, heq, htables⟩
    · exact advances_of_tables_eq hsequences h.tables_eq
    · rw [heq] at hsequences ⊢
      refine advances_of_taken hsequences fun name id hid => ?_
      rw [htables] at hid
      simpa using mem_ids_addRow hid

/-- A transaction advances counters as its steps do: if it is refused, only the rows are put back. -/
theorem advances_atomically {op : Op Database α} (h : op.KeepsTo Advances) :
    (atomically op).KeepsTo Advances := by
  intro now db
  have hsteps := h now db
  rcases hop : op.exec now db with ⟨cause | a, db'⟩
  · rw [hop] at hsteps
    rw [exec_atomically_of_error hop]
    exact fun name => ⟨(hsteps name).counter, fun id hid => .inl hid⟩
  · rw [hop] at hsteps
    rw [atomically_of_ok hop]
    exact hsteps

/-- A change to a table without ids. -/
theorem advances_change {f : Tables → Tables}
    (h : ∀ (t : Tables) (name : TableName), name.ids (f t) = name.ids t) :
    (change f).KeepsTo Advances :=
  fun _ db => advances_of_ids_subset rfl fun name => (h db.tables name) ▸ List.Subset.refl _

/-! ## Calls -/

open Op (keepsTo_bind keepsTo_pure keepsTo_guard keepsTo_orRefuse keepsTo_refuse)

section

variable {φ : Type} [Editable ρ] [NamedTable ρ] [NumberedTable ρ]

/-- To change a row draws no id. -/
theorem advances_update (given : ρ) : (update given).KeepsTo Advances := by
  refine keepsTo_bind (keepsTo_guard _ _) fun _ => keepsTo_bind (keepsTo_find _) fun _ => ?_
  refine keepsTo_bind keepsTo_time fun _ => keepsTo_bind (keepsTo_guardRow _) fun _ => ?_
  exact keepsTo_bind (advances_replace _) fun _ => keepsTo_pure _

/-- To delete a row draws none. -/
theorem advances_delete (id : Int) : (delete ρ id).KeepsTo Advances :=
  keepsTo_bind (keepsTo_find _) fun _ => keepsTo_bind keepsTo_time fun _ => advances_replace _

/-- A call on records draws at most the id of its new row. -/
theorem advances_records [Columns ρ] [Filter φ ρ] (call : Store.RecordCall ρ φ) :
    letI := records ρ φ
    (call.perform : Op Database call.Result).KeepsTo Advances := by
  cases call with
  | create given => exact advances_insert (draft given)
  | find id => exact keepsTo_find (ρ := ρ) id
  | findAny id => exact keepsTo_findAny (ρ := ρ) id
  | list filter order page => exact keepsTo_list filter order page
  | update given => exact advances_update given
  | delete id => exact advances_delete id

end

/-- To work a rating out anew draws no id. -/
theorem advances_refreshRating (keeperId : Int) : (refreshRating keeperId).KeepsTo Advances := by
  refine keepsTo_bind (keepsTo_looking _) fun _ => keepsTo_bind keepsTo_time fun _ => ?_
  exact advances_updateWhere fun _ _ => rfl

/-- A call on reviews draws at most the id of its new review. -/
theorem advances_reviews (call : Store.RecordCall Review ReviewFilter) :
    (call.perform : Op Database call.Result).KeepsTo Advances := by
  cases call with
  | create given =>
      refine advances_atomically (keepsTo_bind (keepsTo_find (ρ := Keeper) _) fun _ => ?_)
      exact keepsTo_bind (advances_insert (draft given)) fun _ =>
        keepsTo_bind (advances_refreshRating _) fun _ => keepsTo_pure _
  | find id => exact keepsTo_find (ρ := Review) id
  | findAny id => exact keepsTo_findAny (ρ := Review) id
  | list filter order page => exact keepsTo_list filter order page
  | update given =>
      refine advances_atomically (keepsTo_bind (advances_update given) fun _ => ?_)
      exact keepsTo_bind (advances_refreshRating _) fun _ => keepsTo_pure _
  | delete id =>
      refine advances_atomically (keepsTo_bind (keepsTo_find (ρ := Review) id) fun _ => ?_)
      exact keepsTo_bind (advances_delete (ρ := Review) id) fun _ => advances_refreshRating _

/-- A report draws an id, its post does not. -/
theorem advances_fileReport (report : Report) (threshold : Int) :
    (fileReport report threshold).KeepsTo Advances := by
  refine advances_atomically (keepsTo_bind (keepsTo_looking _) fun _ => ?_)
  refine keepsTo_bind (keepsTo_guard _ _) fun _ => keepsTo_bind (advances_insert _) fun _ => ?_
  refine keepsTo_bind (keepsTo_looking _) fun _ => keepsTo_bind keepsTo_time fun _ => ?_
  exact keepsTo_bind (advances_updateWhere fun _ _ => rfl) fun _ => keepsTo_pure _

/-- An approval draws no id. -/
theorem advances_approvePost (id : Int) : (approvePost id).KeepsTo Advances := by
  refine advances_atomically (keepsTo_bind (keepsTo_find _) fun _ => ?_)
  refine keepsTo_bind (keepsTo_guard _ _) fun _ => keepsTo_bind (advances_eraseWhere _) fun _ => ?_
  refine keepsTo_bind keepsTo_time fun _ => ?_
  exact keepsTo_bind (advances_replace _) fun _ => keepsTo_pure _

/-- A block draws none. -/
theorem advances_blockPost (id : Int) : (blockPost id).KeepsTo Advances := by
  refine keepsTo_bind (keepsTo_find _) fun _ => keepsTo_bind keepsTo_time fun _ => ?_
  exact keepsTo_bind (advances_replace _) fun _ => keepsTo_pure _

/-- Who takes part in a chat has no id of their own. -/
theorem advances_changeMembers (f : Tables → List Membership) :
    (change fun t => { t with members := f t }).KeepsTo Advances :=
  advances_change fun _ name => by cases name <;> rfl

/-- A new chat draws an id, its members have none. -/
theorem advances_createChat (given : Chat) (memberIds : List Int) :
    (createChat given memberIds).KeepsTo Advances := by
  refine advances_atomically (keepsTo_bind (keepsTo_looking _) fun _ => ?_)
  refine keepsTo_bind (keepsTo_guard _ _) fun _ => keepsTo_bind (advances_insert _) fun _ => ?_
  refine keepsTo_bind keepsTo_time fun _ => ?_
  exact keepsTo_bind (advances_changeMembers _) fun _ => keepsTo_pure _

/-- To leave a chat draws no id. -/
theorem advances_removeMember (chatId userId : Int) :
    (removeMember chatId userId).KeepsTo Advances := by
  refine advances_atomically (keepsTo_bind (keepsTo_looking _) fun _ => ?_)
  refine keepsTo_bind (keepsTo_orRefuse _ _) fun _ => keepsTo_bind (keepsTo_looking _) fun _ => ?_
  refine keepsTo_bind (keepsTo_guard _ _) fun _ => ?_
  refine keepsTo_bind (advances_changeMembers _) fun _ => keepsTo_bind (keepsTo_looking _) fun _ => ?_
  exact keepsTo_bind keepsTo_time fun _ => advances_replace _

/-- Once a session has got its id, no counter moves. -/
theorem keepsCounters_placeSession (given : Session) (old? : Option Session) :
    (placeSession given old?).KeepsTo KeepsCounters := by
  rcases old? with _ | old
  · refine keepsTo_bind (keepsTo_guardKey _) fun _ => keepsTo_bind (keepsTo_guardRow _) fun _ => ?_
    refine keepsTo_bind (keepsTo_guardReferences _) fun _ => ?_
    exact keepsTo_bind (keepsCounters_change _) fun _ => keepsTo_pure _
  · refine keepsTo_bind (keepsTo_guardRow _) fun _ => ?_
    exact keepsTo_bind (keepsCounters_change _) fun _ => keepsTo_pure _

/-- A session that can be stored uses up the next id, even if it takes the place of another. -/
theorem sequences_upsertSession {given : Session} (hstorable : Schema.isStorable given = true)
    (now : Instant) (db : Database) : ((upsertSession given).exec now db).2.sequences =
      Table.setLastId Session (Table.lastId Session db.sequences + 1) db.sequences := by
  rw [exec_upsertSession_of_storable hstorable]
  exact keepsCounters_placeSession _ _ now _

/-- A session draws an id, even if it takes the place of another. -/
theorem advances_upsertSession (given : Session) : (upsertSession given).KeepsTo Advances := by
  intro now db
  rcases hstorable : Schema.isStorable given
  · have hguard : (guardStorable given).exec now db = (.error unstorable, db) :=
      Op.exec_guard_of_false hstorable unstorable now db
    have hexec : (upsertSession given).exec now db = (.error unstorable, db) :=
      Op.exec_bind_error hguard
    rw [hexec]
    exact Std.Refl.refl db
  have hsequences := sequences_upsertSession hstorable now db
  rcases upsertSession_cases given now db with h | ⟨old, -, -, -, -, heq⟩ | ⟨-, -, -, heq⟩
  · exact advances_of_tables_eq hsequences h.tables_eq
  · rw [heq] at hsequences ⊢
    refine advances_of_taken hsequences fun name id hid => .inl ?_
    have hid' : id ∈ name.ids (putRow (placed given old.id now) db.tables) := hid
    rwa [ids_putRow_of_name] at hid'
  · rw [heq] at hsequences ⊢
    exact advances_of_taken hsequences fun name id hid => mem_ids_addRow hid

/-- To take a session draws no id. -/
theorem advances_takeSession (hash : String) : (takeSession hash).KeepsTo Advances := by
  refine keepsTo_bind (keepsTo_guard _ _) fun _ => keepsTo_bind keepsTo_time fun _ => ?_
  refine keepsTo_bind (keepsTo_looking _) fun _ => ?_
  exact keepsTo_bind (advances_eraseWhere _) fun _ => keepsTo_pure _

/-- To delete a session draws none. -/
theorem advances_deleteSession (userId : Int) (fingerprint : String) :
    (deleteSession userId fingerprint).KeepsTo Advances := by
  refine keepsTo_bind (keepsTo_guard _ _) fun _ => keepsTo_bind (keepsTo_looking _) fun _ => ?_
  exact keepsTo_bind (advances_eraseWhere _) fun _ => keepsTo_pure _

/-- A mark has no id of its own. -/
theorem advances_changeFavourites (f : Tables → List Favourite) :
    (change fun t => { t with favourites := f t }).KeepsTo Advances :=
  advances_change fun _ name => by cases name <;> rfl

/-- A mark has no id. -/
theorem advances_addFavourite (userId keeperId : Int) :
    (addFavourite userId keeperId).KeepsTo Advances := by
  refine keepsTo_bind (keepsTo_find (ρ := Keeper) _) fun _ => ?_
  refine keepsTo_bind (keepsTo_looking _) fun mark? => ?_
  rcases mark? with _ | mark
  · refine keepsTo_bind (keepsTo_looking _) fun missing? => ?_
    rcases missing? with _ | reference
    · refine keepsTo_bind keepsTo_time fun _ => ?_
      exact keepsTo_bind (advances_changeFavourites _) fun _ => keepsTo_pure _
    · exact keepsTo_refuse _
  · exact keepsTo_pure _

theorem advances_removeFavourite (userId keeperId : Int) :
    (removeFavourite userId keeperId).KeepsTo Advances := by
  refine keepsTo_bind (keepsTo_looking _) fun _ => keepsTo_bind (keepsTo_guard _ _) fun _ => ?_
  exact advances_changeFavourites _

/-- **Every call of the store advances all counters, or leaves them.** -/
theorem advances_perform (call : Store.Call) :
    (call.perform : Op Database call.Result).KeepsTo Advances := by
  cases call with
  | user call | keeper call | seeker call | vet call | post call | message call =>
      exact advances_records call
  | review call => exact advances_reviews call
  | userByName name => exact keepsTo_bind (keepsTo_guard _ _) fun _ => keepsTo_looking _
  | keeperOf _ | seekerOf _ | vetOf _ | reportsOn _ | countReports _ | moderationQueue _ | chatsOf _ _
  | isMember _ _ | favouritesOf _ _ => exact keepsTo_looking _
  | fileReport report threshold => exact advances_fileReport report threshold
  | approvePost id => exact advances_approvePost id
  | blockPost id => exact advances_blockPost id
  | createChat chat memberIds => exact advances_createChat chat memberIds
  | findChat id => exact keepsTo_findChat id
  | findAnyChat id => exact keepsTo_findAnyChat id
  | removeMember chatId userId => exact advances_removeMember chatId userId
  | upsertSession session => exact advances_upsertSession session
  | findSession hash => exact keepsTo_findSession hash
  | takeSession hash => exact advances_takeSession hash
  | deleteSession userId fingerprint => exact advances_deleteSession userId fingerprint
  | addFavourite userId keeperId => exact advances_addFavourite userId keeperId
  | removeFavourite userId keeperId => exact advances_removeFavourite userId keeperId
  | reachable => exact keepsTo_pure true

/-- Whatever happens to a database, all counters advance, or stay. -/
theorem advances_happen (db : Database) (event : Event) : Advances db (db.happen event) := by
  have hcalls : KeptByCalls (Advances db) := fun call now db' h =>
    IsTrans.trans _ _ _ h (advances_perform call now db')
  exact happen_of_calls hcalls event (Std.Refl.refl db)

/-- The ids in a table have been given away. -/
theorem ids_le_lastId (events : List Event) (name : TableName) :
    ∀ id ∈ name.ids (after events).tables, id ≤ name.lastId (after events).sequences := by
  refine after_induction (P := fun db => ∀ id ∈ name.ids db.tables, id ≤ name.lastId db.sequences)
    ?_ (fun db event h => ?_) events
  · intro id hid
    cases name <;> cases hid
  · intro id hid
    have hstep := advances_happen db event name
    rcases hstep.fresh id hid with hold | hnew
    · exact Int.le_trans (h id hold) hstep.counter
    · exact hnew.2

end Database

end Fostering
