import Fostering.Proofs.Database.Soundness

/-!
# Calls with one fault

A row that is to be written may clash with another, or refer to a row that is not there. Where that is
all that is wrong with a call, `Flaw` says which cause the call is refused for: a conflict that names the
index, or a fault of the request that names the reference. A clash of names is told before a clash of
mail addresses. A row that is to be new uses up an id first, whether or not it is refused then (`Draws`,
`Misfit`).

* `wastes_insert_of_clash`, `wastes_insert_of_orphan`: how new rows are refused.
* `Draws.usesUp`: which calls use up ids.
* `Misfit.wastes`, `Flaw.refused`: how calls are refused, as long as the tables are sound and no id is
  ahead of its counter.
-/

namespace Fostering.Database

variable {α ρ : Type} {now : Instant} {db : Database} {name : TableName} {cause : Error}

/-- No row is ahead of the counter of its table. -/
def Counted (db : Database) : Prop :=
  ∀ name : TableName, ∀ id ∈ name.ids db.tables, id ≤ name.lastId db.sequences

/-- A row has no higher id than the last that its table gave away. -/
theorem Counted.id_le [Table ρ] [NamedTable ρ] [NumberedTable ρ] (h : Counted db) :
    ∀ r ∈ (Table.rows db.tables : List ρ), Table.id r ≤ Table.lastId ρ db.sequences := by
  intro r hr
  have hmem : Table.id r ∈ (NamedTable.name ρ).ids db.tables := by
    rw [NumberedTable.ids_eq]
    exact List.mem_map_of_mem hr
  have hle := h _ _ hmem
  rwa [NumberedTable.lastId_eq] at hle

/-- The next id of a table is that of no row. -/
theorem Counted.unused [Table ρ] [NamedTable ρ] [NumberedTable ρ] (h : Counted db) :
    ∀ r ∈ (Table.rows db.tables : List ρ), Table.id r ≠ Table.lastId ρ db.sequences + 1 := by
  intro r hr hid
  have hle := h.id_le r hr
  omega

/-! ## Ids that are used up -/

/-- An operation uses up the next id of a table, whatever comes of it. -/
def UsesUp (op : Op Database α) (now : Instant) (db : Database) (name : TableName) : Prop :=
  name.lastId (op.exec now db).2.sequences = name.lastId db.sequences + 1

/-- An operation is refused for a cause, and has used up an id of a table. -/
structure Wastes (op : Op Database α) (now : Instant) (db : Database) (name : TableName) (cause : Error) :
    Prop where
  refused : (op.exec now db).1 = .error cause
  counter : name.lastId (op.exec now db).2.sequences = name.lastId db.sequences + 1

/-- An operation inserts a row and gives no id away after that: the insertion decides whether it is refused,
and what becomes of the counters. -/
def Inserts [Schema ρ] (op : Op Database α) (row : ρ) (now : Instant) (db : Database) : Prop :=
  ∃ rest : ρ → Op Database α, (∀ r, (rest r).KeepsTo KeepsCounters) ∧
    (op.exec now db).1 = ((insert row >>= rest).exec now db).1 ∧
    (op.exec now db).2.sequences = ((insert row >>= rest).exec now db).2.sequences

section

variable [Schema ρ] {row : ρ}

/-- The checks before the insertion go through, and a transaction that is undone takes no id back. -/
theorem inserts_atomically {op : Op Database α} {rest : ρ → Op Database α}
    (hrest : ∀ r, (rest r).KeepsTo KeepsCounters)
    (hexec : op.exec now db = (insert row >>= rest).exec now db) : Inserts (atomically op) row now db := by
  refine ⟨rest, hrest, ?_, ?_⟩
  · rw [fst_atomically, hexec]
  · rw [sequences_atomically, hexec]

/-- An operation that inserts a row is refused if the row is. -/
theorem Inserts.wastes {op : Op Database α} (h : Inserts op row now db)
    (hwastes : Wastes (insert row) now db name cause) : Wastes op now db name cause := by
  obtain ⟨rest, -, hresult, hsequences⟩ := h
  rcases hinsert : (insert row).exec now db with ⟨result, db'⟩
  obtain ⟨hrefused, hcounter⟩ := hwastes
  rw [hinsert] at hrefused hcounter
  cases hrefused
  rw [Op.exec_bind_error hinsert] at hresult hsequences
  constructor
  · rw [hresult]
  · rw [hsequences]
    exact hcounter

variable [NamedTable ρ] [NumberedTable ρ]

/-- An insertion uses up an id, whether or not it is refused. -/
theorem usesUp_insert (hstorable : Schema.isStorable row = true) :
    UsesUp (insert row) now db (NamedTable.name ρ) := by
  unfold UsesUp
  rw [NumberedTable.lastId_eq, NumberedTable.lastId_eq, lastId_insert hstorable]

theorem Inserts.usesUp {op : Op Database α} (h : Inserts op row now db)
    (hstorable : Schema.isStorable row = true) : UsesUp op now db (NamedTable.name ρ) := by
  obtain ⟨rest, hrest, -, hsequences⟩ := h
  have hinsert : UsesUp (insert row) now db (NamedTable.name ρ) := usesUp_insert hstorable
  have hkeeps : ((insert row >>= rest).exec now db).2.sequences =
      ((insert row).exec now db).2.sequences := by
    rcases hexec : (insert row).exec now db with ⟨_ | r, db'⟩
    · rw [Op.exec_bind_error hexec]
    · rw [Op.exec_bind_ok hexec]
      exact hrest r now db'
  unfold UsesUp
  rw [hsequences, hkeeps]
  exact hinsert

end

/-! ## New rows -/

section

variable [Schema ρ] {row : ρ}

/-- A row with its id is refused for the first index on which it clashes. -/
theorem exec_insertWithId_of_clash {index : UniqueIndex} (hholds : Schema.holds row = true)
    (hunused : ∀ r ∈ (Table.rows db.tables : List ρ), Table.id r ≠ Table.id row)
    (hclash : Schema.clash? db.tables row = some index) :
    (insertWithId row).exec now db = (.error (.conflict index.message), db) := by
  have hchecks : (guardChecks row).exec now db = (.ok (), db) :=
    Op.exec_guard_of_true hholds checkBroken now db
  have hunique : (guardUnique row).exec now db = (.error (.conflict index.message), db) := by
    rw [guardUnique, Op.exec_bind_ok (exec_look _ _ _), hclash]
    rfl
  unfold insertWithId
  rw [Op.exec_bind_ok hchecks, Op.exec_bind_ok (guardKey_of_unused row hunused)]
  exact Op.exec_bind_error hunique

/-- A row with its id that clashes with none is refused for the first reference to nothing. -/
theorem exec_insertWithId_of_orphan {reference : Reference} (hholds : Schema.holds row = true)
    (hunused : ∀ r ∈ (Table.rows db.tables : List ρ), Table.id r ≠ Table.id row)
    (hclash : Schema.clash? db.tables row = none)
    (horphan : Schema.orphan? db.tables row = some reference) :
    (insertWithId row).exec now db = (.error (.validation reference.message), db) := by
  have hchecks : (guardChecks row).exec now db = (.ok (), db) :=
    Op.exec_guard_of_true hholds checkBroken now db
  have hreferences : (guardReferences row).exec now db =
      (.error (.validation reference.message), db) := by
    rw [guardReferences, Op.exec_bind_ok (exec_look _ _ _), horphan]
    rfl
  unfold insertWithId
  rw [Op.exec_bind_ok hchecks, Op.exec_bind_ok (guardKey_of_unused row hunused),
    Op.exec_bind_ok (guardUnique_of_none row hclash)]
  exact Op.exec_bind_error hreferences

/-- A row that clashes under the next id is refused, and uses the id up. -/
theorem exec_insert_of_clash {index : UniqueIndex} {new : ρ} (now : Instant) (hstorable : Schema.isStorable row = true)
    (hnew : new = Table.setId (Table.lastId ρ db.sequences + 1) row) (hholds : Schema.holds new = true)
    (hunused : ∀ r ∈ (Table.rows db.tables : List ρ), Table.id r ≠ Table.id new)
    (hclash : Schema.clash? db.tables new = some index) :
    (insert row).exec now db = (.error (.conflict index.message), { db with
      sequences := Table.setLastId ρ (Table.lastId ρ db.sequences + 1) db.sequences }) := by
  have hguard : (guardStorable row).exec now db = (.ok (), db) :=
    Op.exec_guard_of_true hstorable unstorable now db
  subst hnew
  rw [insert_eq, Op.exec_bind_ok hguard, Op.exec_bind_ok (exec_takeId now db)]
  exact exec_insertWithId_of_clash hholds hunused hclash

/-- A row that can be stored is refused for what it is refused for under the next id. -/
theorem fst_insert_of_storable (hstorable : Schema.isStorable row = true) (now : Instant) (db : Database) :
    ((insert row).exec now db).1 =
      ((insertWithId (Table.setId (Table.lastId ρ db.sequences + 1) row)).exec now { db with
        sequences := Table.setLastId ρ (Table.lastId ρ db.sequences + 1) db.sequences }).1 := by
  have hguard : (guardStorable row).exec now db = (.ok (), db) :=
    Op.exec_guard_of_true hstorable unstorable now db
  rw [insert_eq, Op.exec_bind_ok hguard, Op.exec_bind_ok (exec_takeId now db)]

end

section

variable [Schema ρ] [NamedTable ρ] [NumberedTable ρ]

/-- A new row under the next id of its table. -/
abbrev numbered (db : Database) (row : ρ) : ρ := Table.setId (Table.lastId ρ db.sequences + 1) row

/-- Every row is another than one under the next id. -/
theorem Counted.mem_others (h : Counted db) {other : ρ} (hother : other ∈ (Table.rows db.tables : List ρ))
    (row : ρ) : other ∈ Schema.others db.tables (numbered db row) := by
  refine Schema.mem_others.mpr ⟨hother, ?_⟩
  rw [Table.id_setId]
  exact h.unused other hother

/-- No row has the id that a new row will get. -/
theorem Counted.ne_id_numbered (h : Counted db) (row : ρ) :
    ∀ r ∈ (Table.rows db.tables : List ρ), Table.id r ≠ Table.id (numbered db row) := by
  rw [Table.id_setId]
  exact h.unused

variable (row : ρ)

/-- A new row that clashes with another. -/
theorem wastes_insert_of_clash (index : UniqueIndex) (hcounted : Counted db)
    (hstorable : Schema.isStorable row = true) (hholds : Schema.holds (numbered db row) = true)
    (hclash : Schema.clash? db.tables (numbered db row) = some index) :
    Wastes (insert row) now db (NamedTable.name ρ) (.conflict index.message) := by
  have hinsert : (insert row).exec now db = (.error (.conflict index.message), _) :=
    exec_insert_of_clash now hstorable rfl hholds (hcounted.ne_id_numbered row) hclash
  constructor
  · rw [hinsert]
  · exact usesUp_insert hstorable

/-- A new row that clashes with none, but refers to nothing. -/
theorem wastes_insert_of_orphan (reference : Reference) (hcounted : Counted db)
    (hstorable : Schema.isStorable row = true) (hholds : Schema.holds (numbered db row) = true)
    (hclash : Schema.clash? db.tables (numbered db row) = none)
    (horphan : Schema.orphan? db.tables (numbered db row) = some reference) :
    Wastes (insert row) now db (NamedTable.name ρ) (.validation reference.message) := by
  let db' : Database :=
    { db with sequences := Table.setLastId ρ (Table.lastId ρ db.sequences + 1) db.sequences }
  have hrefused : (insertWithId (numbered db row)).exec now db' =
      (.error (.validation reference.message), db') :=
    exec_insertWithId_of_orphan hholds (hcounted.ne_id_numbered row) hclash horphan
  constructor
  · rw [fst_insert_of_storable hstorable]
    exact congrArg Prod.fst hrefused
  · exact usesUp_insert hstorable

end

/-! ## Clashes and missing rows -/

section

variable {p : ρ → Bool} {rows : List ρ} {index : UniqueIndex}

/-- A row that is found is the cause of a refusal. -/
theorem index_of_mem {r : ρ} (hr : r ∈ rows) (hp : p r = true) :
    (if rows.any p then some index else none) = some index :=
  if_pos (List.any_eq_true.mpr ⟨r, hr, hp⟩)

/-- Where there is no such row there is no cause. -/
theorem index_of_none (h : ∀ r ∈ rows, ¬p r = true) : (if rows.any p then some index else none) = none := by
  refine if_neg fun hany => ?_
  obtain ⟨r, hr, hp⟩ := List.any_eq_true.mp hany
  exact h r hr hp

end

/-- Who is not among the users is missed. -/
theorem missingUser?_of_not_mem {t : Tables} {id : Int} (h : id ∉ ids User t) (table column : String) :
    Schema.missingUser? t table column id = some ⟨table, column⟩ :=
  if_neg fun hid => h (Schema.hasId_iff.mp hid)

/-- Who is among the users is not missed. -/
theorem missingUser?_of_mem {t : Tables} {id : Int} (h : id ∈ ids User t) (table column : String) :
    Schema.missingUser? t table column id = none :=
  if_pos (Schema.hasId_iff.mpr h)

/-- What a new row is refused for, if it has one fault: another row stands in its way, or it refers to a
row that is not there. The table is the one that it is meant for; an id of it is used up. -/
inductive Misfit (now : Instant) (db : Database) : TableName → Store.Call → Error → Prop where
  /-- Whether or not the mail address is taken, too. -/
  | username (given other : User) (storable : Schema.isStorable (draft given) = true)
      (mem : other ∈ db.tables.users) (taken : other.username = given.username) :
      Misfit now db .users (.user (.create given)) (.conflict "Username is already taken")
  | email (given other : User) (storable : Schema.isStorable (draft given) = true)
      (free : ∀ u ∈ db.tables.users, u.username ≠ given.username)
      (mem : other ∈ db.tables.users) (taken : other.email = given.email) :
      Misfit now db .users (.user (.create given)) (.conflict "Email is already registered")
  | secondKeeper (given other : Keeper) (storable : Schema.isStorable (draft given) = true)
      (holds : Schema.holds (draft given) = true) (mem : other ∈ db.tables.keepers)
      (live : other.entry.isLive = true) (taken : other.userId = given.userId) :
      Misfit now db .keepers (.keeper (.create given)) (.conflict "User already has a keeper profile")
  | secondSeeker (given other : Seeker) (storable : Schema.isStorable (draft given) = true)
      (mem : other ∈ db.tables.seekers) (live : other.entry.isLive = true)
      (taken : other.userId = given.userId) :
      Misfit now db .seekers (.seeker (.create given)) (.conflict "User already has a seeker profile")
  | secondVet (given other : Vet) (storable : Schema.isStorable (draft given) = true)
      (holds : Schema.holds (draft given) = true) (mem : other ∈ db.tables.vets)
      (live : other.entry.isLive = true) (taken : other.userId = given.userId) :
      Misfit now db .vets (.vet (.create given)) (.conflict "User already has a vet profile")
  | secondReview (given other : Review) (storable : Schema.isStorable (draft given) = true)
      (graded : 1 ≤ given.grade ∧ given.grade ≤ 5)
      (keeper : ∃ k ∈ db.tables.keepers, k.entry.id = given.keeperId ∧ k.entry.isLive = true)
      (mem : other ∈ db.tables.reviews) (live : other.entry.isLive = true)
      (taken : other.keeperId = given.keeperId ∧ other.authorId = given.authorId) :
      Misfit now db .reviews (.review (.create given)) (.conflict "You have already reviewed this keeper")
  | secondReport (given other : Report) (threshold : Int)
      (storable : Schema.isStorable (given.opened 0) = true)
      (post : ∃ p ∈ db.tables.posts, p.entry.id = given.postId ∧ p.entry.isLive = true ∧
        p.status = PostStatus.published.name)
      (mem : other ∈ db.tables.reports)
      (taken : other.postId = given.postId ∧ other.reporterId = given.reporterId) :
      Misfit now db .reports (.fileReport given threshold)
        (.conflict "You have already reported this post")
  | keeperOfNobody (given : Keeper) (storable : Schema.isStorable (draft given) = true)
      (holds : Schema.holds (draft given) = true) (missing : given.userId ∉ ids User db.tables) :
      Misfit now db .keepers (.keeper (.create given))
        (.validation (Reference.message ⟨"keepers", "user_id"⟩))
  | seekerOfNobody (given : Seeker) (storable : Schema.isStorable (draft given) = true)
      (missing : given.userId ∉ ids User db.tables) :
      Misfit now db .seekers (.seeker (.create given))
        (.validation (Reference.message ⟨"seekers", "user_id"⟩))
  | vetOfNobody (given : Vet) (storable : Schema.isStorable (draft given) = true)
      (holds : Schema.holds (draft given) = true) (missing : given.userId ∉ ids User db.tables) :
      Misfit now db .vets (.vet (.create given)) (.validation (Reference.message ⟨"vets", "user_id"⟩))
  | postByNobody (given : Post) (storable : Schema.isStorable (draft given) = true)
      (holds : Schema.holds (draft given) = true) (missing : given.authorId ∉ ids User db.tables) :
      Misfit now db .posts (.post (.create given))
        (.validation (Reference.message ⟨"posts", "author_id"⟩))
  | reviewByNobody (given : Review) (storable : Schema.isStorable (draft given) = true)
      (graded : 1 ≤ given.grade ∧ given.grade ≤ 5)
      (keeper : ∃ k ∈ db.tables.keepers, k.entry.id = given.keeperId ∧ k.entry.isLive = true)
      (missing : given.authorId ∉ ids User db.tables) :
      Misfit now db .reviews (.review (.create given))
        (.validation (Reference.message ⟨"keeper_reviews", "author_id"⟩))
  | reportByNobody (given : Report) (threshold : Int)
      (storable : Schema.isStorable (given.opened 0) = true)
      (post : ∃ p ∈ db.tables.posts, p.entry.id = given.postId ∧ p.entry.isLive = true ∧
        p.status = PostStatus.published.name)
      (missing : given.reporterId ∉ ids User db.tables) :
      Misfit now db .reports (.fileReport given threshold)
        (.validation (Reference.message ⟨"reports", "reporter_id"⟩))
  | chatByNobody (given : Chat) (members : List Int)
      (storable : Schema.isStorable (draftChat given) = true) (distinct : members.Nodup)
      (found : ∀ id ∈ members, ∃ u ∈ db.tables.users, u.entry.id = id ∧ u.entry.isLive = true)
      (missing : given.createdBy ∉ ids User db.tables) :
      Misfit now db .chats (.createChat given members)
        (.validation (Reference.message ⟨"chats", "created_by"⟩))
  | messageToNobody (given : Message) (storable : Schema.isStorable (draft given) = true)
      (missing : given.chatId ∉ ids Chat db.tables) :
      Misfit now db .messages (.message (.create given))
        (.validation (Reference.message ⟨"messages", "chat_id"⟩))
  | messageByNobody (given : Message) (storable : Schema.isStorable (draft given) = true)
      (found : given.chatId ∈ ids Chat db.tables) (missing : given.senderId ∉ ids User db.tables) :
      Misfit now db .messages (.message (.create given))
        (.validation (Reference.message ⟨"messages", "sender_id"⟩))
  | sessionOfNobody (given : Session) (storable : Schema.isStorable given = true)
      (free : ∀ s ∈ db.tables.sessions, s.tokenHash ≠ given.tokenHash)
      (missing : given.userId ∉ ids User db.tables) :
      Misfit now db .sessions (.upsertSession given)
        (.validation (Reference.message ⟨"refresh_sessions", "user_id"⟩))

/-- Rows that refer to a user do not refer to one who is missing. -/
theorem Tidy.ne_of_missing [Schema ρ] [Exclusive ρ] [Referring ρ] {t : Tables} (h : Tidy ρ t) {id : Int}
    (hmissing : id ∉ ids User t) {r : ρ} (hr : r ∈ (Table.rows t : List ρ)) :
    (TableName.users, id) ∉ Referring.references r :=
  fun hreference => hmissing (h.refers r hr _ hreference)

/-- A row clashes with none if only those that refer to a missing user could stand in its way. -/
theorem Tidy.index_of_missing [Schema ρ] [Exclusive ρ] [Referring ρ] {t : Tables} (h : Tidy ρ t) {id : Int}
    (hmissing : id ∉ ids User t) {row : ρ} {p : ρ → Bool} {index : UniqueIndex}
    (hp : ∀ r, p r = true → (TableName.users, id) ∈ Referring.references r) :
    (if (Schema.others t row).any p then some index else none) = none :=
  index_of_none fun r hr hpr => h.ne_of_missing hmissing (Schema.mem_others.mp hr).1 (hp r hpr)

/-- A live row with an id is found by the check of references. -/
theorem hasId_of_live [Table ρ] {rows : List ρ} {id : Int} {P : ρ → Prop}
    (h : ∃ r ∈ rows, Table.id r = id ∧ P r) : Schema.hasId rows id = true := by
  obtain ⟨r, hr, rfl, -⟩ := h
  exact Schema.hasId_iff.mpr (List.mem_map_of_mem hr)

/-! ## Transactions that insert a row -/

section

variable (hsound : Sound db.tables)

/-- To work a rating out anew touches no counter. -/
theorem keepsCounters_refreshRating (keeperId : Int) : (refreshRating keeperId).KeepsTo KeepsCounters := by
  refine Op.keepsTo_bind (keepsTo_looking _) fun _ => Op.keepsTo_bind keepsTo_time fun _ => ?_
  exact keepsCounters_change _

include hsound in
/-- A review of a live keeper comes to an insertion. -/
theorem inserts_createReview {given : Review}
    (hkeeper : ∃ k ∈ db.tables.keepers, k.entry.id = given.keeperId ∧ k.entry.isLive = true)
    (now : Instant) : Inserts (createReview given) (draft given) now db := by
  obtain ⟨k, hk, hid, hlive⟩ := hkeeper
  have hfind : (find Keeper given.keeperId).exec now db = (.ok k, db) :=
    hid ▸ find_of_nodup (hsound .keepers).keys hk hlive now
  refine inserts_atomically (fun review => ?_) (Op.exec_bind_ok hfind)
  exact Op.keepsTo_bind (keepsCounters_refreshRating _) fun _ => Op.keepsTo_pure _

include hsound in
/-- A report on a published post comes to an insertion. -/
theorem inserts_fileReport {given : Report}
    (hpost : ∃ p ∈ db.tables.posts, p.entry.id = given.postId ∧ p.entry.isLive = true ∧
      p.status = PostStatus.published.name)
    (threshold : Int) (now : Instant) :
    Inserts (fileReport given threshold) (given.opened given.id) now db := by
  obtain ⟨p, hp, hid, hlive, hpublished⟩ := hpost
  have hrow : (Table.rows db.tables).find? (fun p : Post => p.entry.id = given.postId && p.entry.isLive) =
      some p := hid ▸ find?_of_live (hsound .posts).keys hp hlive
  have hlook := exec_find? (fun p : Post => p.entry.id = given.postId && p.entry.isLive) now db
  rw [hrow] at hlook
  have hstatus : decide ((some p).map Post.status = some PostStatus.published.name) = true :=
    decide_eq_true (congrArg some hpublished)
  have hguard := Op.exec_guard_of_true hstatus (notFound Post given.postId) now db
  refine inserts_atomically (fun report => ?_) ((Op.exec_bind_ok hlook).trans (Op.exec_bind_ok hguard))
  refine Op.keepsTo_bind (keepsTo_looking _) fun _ => Op.keepsTo_bind keepsTo_time fun _ => ?_
  exact Op.keepsTo_bind (keepsCounters_change _) fun _ => Op.keepsTo_pure _

include hsound in
/-- A chat of live members, each named once, comes to an insertion. -/
theorem inserts_createChat {given : Chat} {members : List Int} (hdistinct : members.Nodup)
    (hlive : ∀ id ∈ members, ∃ u ∈ db.tables.users, u.entry.id = id ∧ u.entry.isLive = true)
    (now : Instant) : Inserts (createChat given members) (draftChat given) now db := by
  have hcount := (countLiveUsers_eq_length_iff (hsound .users).keys).mpr ⟨hdistinct, hlive⟩
  have hlook := exec_look (fun t => countLiveUsers t members) now db
  have hguard := Op.exec_guard_of_true (decide_eq_true hcount)
    (.validation "One or more chat members do not exist") now db
  refine inserts_atomically (fun chat => ?_) ((Op.exec_bind_ok hlook).trans (Op.exec_bind_ok hguard))
  refine Op.keepsTo_bind keepsTo_time fun _ => ?_
  exact Op.keepsTo_bind (keepsCounters_change _) fun _ => Op.keepsTo_pure _

include hsound in
/-- A session of nobody is refused, and its id is used up. -/
theorem wastes_upsertSession (hcounted : Counted db) {given : Session}
    (hstorable : Schema.isStorable given = true)
    (hfree : ∀ s ∈ db.tables.sessions, s.tokenHash ≠ given.tokenHash)
    (hmissing : given.userId ∉ ids User db.tables) :
    Wastes (upsertSession given) now db .sessions
      (.validation (Reference.message ⟨"refresh_sessions", "user_id"⟩)) := by
  let row : Session := placed given (db.sequences.sessions + 1) now
  have hnone : db.tables.sessions.find? (isFor given) = none := by
    refine List.find?_eq_none.mpr fun s hs hfor => ?_
    refine Tidy.ne_of_missing (hsound .sessions).toTidy hmissing hs ?_
    exact List.mem_singleton.mpr (congrArg (Prod.mk _) (isFor_iff.mp hfor).1.symm)
  have hkey : (guardKey row).exec now db.withNextSessionId = (.ok (), db.withNextSessionId) :=
    guardKey_of_unused row hcounted.unused
  have hadmissible : IsAdmissible db.withNextSessionId.tables row := by
    refine ⟨rfl, index_of_none fun s hs hp => ?_⟩
    exact hfree s (Schema.mem_others.mp hs).1 (of_decide_eq_true hp)
  have hrow := guardRow_of_isAdmissible row now hadmissible
  have hreferences : (guardReferences row).exec now db.withNextSessionId =
      (.error (.validation (Reference.message ⟨"refresh_sessions", "user_id"⟩)),
        db.withNextSessionId) := by
    have horphan : Schema.orphan? db.withNextSessionId.tables row = some ⟨"refresh_sessions", "user_id"⟩ :=
      missingUser?_of_not_mem hmissing _ _
    rw [guardReferences, Op.exec_bind_ok (exec_look _ _ _), horphan]
    rfl
  constructor
  · rw [exec_upsertSession_of_storable hstorable, hnone]
    unfold placeSession
    rw [Op.exec_bind_ok hkey, Op.exec_bind_ok hrow]
    exact congrArg Prod.fst (Op.exec_bind_error hreferences)
  · rw [sequences_upsertSession hstorable]
    rfl

end

/-! ## Calls that draw an id -/

/-- The calls that draw the next id of a table: there is to be a new row that can be stored, and what is
looked for before its insertion is there. -/
inductive Draws (db : Database) : TableName → Store.Call → Prop where
  | user (given : User) (storable : Schema.isStorable (draft given) = true) :
      Draws db .users (.user (.create given))
  | keeper (given : Keeper) (storable : Schema.isStorable (draft given) = true) :
      Draws db .keepers (.keeper (.create given))
  | seeker (given : Seeker) (storable : Schema.isStorable (draft given) = true) :
      Draws db .seekers (.seeker (.create given))
  | vet (given : Vet) (storable : Schema.isStorable (draft given) = true) :
      Draws db .vets (.vet (.create given))
  | post (given : Post) (storable : Schema.isStorable (draft given) = true) :
      Draws db .posts (.post (.create given))
  | message (given : Message) (storable : Schema.isStorable (draft given) = true) :
      Draws db .messages (.message (.create given))
  | review (given : Review) (storable : Schema.isStorable (draft given) = true)
      (keeper : ∃ k ∈ db.tables.keepers, k.entry.id = given.keeperId ∧ k.entry.isLive = true) :
      Draws db .reviews (.review (.create given))
  | report (given : Report) (threshold : Int) (storable : Schema.isStorable (given.opened 0) = true)
      (post : ∃ p ∈ db.tables.posts, p.entry.id = given.postId ∧ p.entry.isLive = true ∧
        p.status = PostStatus.published.name) :
      Draws db .reports (.fileReport given threshold)
  | chat (given : Chat) (members : List Int) (storable : Schema.isStorable (draftChat given) = true)
      (distinct : members.Nodup)
      (found : ∀ id ∈ members, ∃ u ∈ db.tables.users, u.entry.id = id ∧ u.entry.isLive = true) :
      Draws db .chats (.createChat given members)
  /-- Whether or not the session takes the place of another. -/
  | session (given : Session) (storable : Schema.isStorable given = true) :
      Draws db .sessions (.upsertSession given)

/-- **An id that is drawn is used up, whatever comes of the call.** -/
theorem Draws.usesUp (hsound : Sound db.tables) {call : Store.Call} (h : Draws db name call)
    (now : Instant) : UsesUp (call.perform : Op Database call.Result) now db name := by
  cases h with
  | user given storable | keeper given storable | seeker given storable | vet given storable
  | post given storable | message given storable => exact usesUp_insert storable
  | review given storable keeper => exact (inserts_createReview hsound keeper now).usesUp storable
  | report given threshold storable post =>
      exact (inserts_fileReport hsound post threshold now).usesUp storable
  | chat given members storable distinct found =>
      exact (inserts_createChat hsound distinct found now).usesUp storable
  | session given storable =>
      exact congrArg (TableName.lastId .sessions) (sequences_upsertSession storable now db)

/-! ## New rows with one fault -/

section

variable (hsound : Sound db.tables) (hcounted : Counted db)

include hsound hcounted in
/-- **A new row with one fault is refused for it, and uses up an id.** -/
theorem Misfit.wastes {call : Store.Call} (h : Misfit now db name call cause) :
    Wastes (call.perform : Op Database call.Result) now db name cause := by
  -- a clash names the first index that is violated, so that the case of the mail address needs a
  -- name that is free
  cases h with
  | username given other storable mem taken =>
      have hother := hcounted.mem_others mem (draft given)
      have hany : ((Schema.others db.tables (numbered db (draft given))).any fun v =>
          v.username = given.username) = true :=
        List.any_eq_true.mpr ⟨other, hother, decide_eq_true taken⟩
      exact wastes_insert_of_clash (draft given) .username hcounted storable rfl (if_pos hany)
  | email given other storable free mem taken =>
      have hother := hcounted.mem_others mem (draft given)
      have hnone : ¬((Schema.others db.tables (numbered db (draft given))).any fun v =>
          v.username = given.username) = true := by
        rintro hany
        obtain ⟨u, hu, hname⟩ := List.any_eq_true.mp hany
        exact free u (Schema.mem_others.mp hu).1 (of_decide_eq_true hname)
      refine wastes_insert_of_clash (draft given) .email hcounted storable rfl ((if_neg hnone).trans ?_)
      exact index_of_mem hother (decide_eq_true taken)
  | secondKeeper given other storable holds mem live taken =>
      have hother := hcounted.mem_others mem (draft given)
      refine wastes_insert_of_clash (draft given) .keeperUser hcounted storable holds ?_
      exact index_of_mem hother (Bool.and_eq_true_iff.mpr ⟨live, decide_eq_true taken⟩)
  | secondSeeker given other storable mem live taken =>
      have hother := hcounted.mem_others mem (draft given)
      refine wastes_insert_of_clash (draft given) .seekerUser hcounted storable rfl ?_
      exact index_of_mem hother (Bool.and_eq_true_iff.mpr ⟨live, decide_eq_true taken⟩)
  | secondVet given other storable holds mem live taken =>
      have hother := hcounted.mem_others mem (draft given)
      refine wastes_insert_of_clash (draft given) .vetUser hcounted storable holds ?_
      exact index_of_mem hother (Bool.and_eq_true_iff.mpr ⟨live, decide_eq_true taken⟩)
  | secondReview given other storable graded keeper mem live taken =>
      have hother := hcounted.mem_others mem (draft given)
      refine (inserts_createReview hsound keeper now).wastes ?_
      refine wastes_insert_of_clash (draft given) .reviewKeeperAuthor hcounted storable
        (holds_review.mpr graded) (index_of_mem hother ?_)
      rw [Bool.and_eq_true, Bool.and_eq_true, decide_eq_true_eq, decide_eq_true_eq]
      exact ⟨⟨live, taken.1⟩, taken.2⟩
  | secondReport given other threshold storable post mem taken =>
      have hother := hcounted.mem_others mem (given.opened given.id)
      refine (inserts_fileReport hsound post threshold now).wastes ?_
      refine wastes_insert_of_clash (given.opened given.id) .reportPostReporter hcounted storable rfl
        (index_of_mem hother ?_)
      rw [Bool.and_eq_true, decide_eq_true_eq, decide_eq_true_eq]
      exact taken
  -- a reference is looked at after the indexes, and no row can clash with that of a user who is not
  -- there
  | keeperOfNobody given storable holds missing =>
      refine wastes_insert_of_orphan (draft given) ⟨"keepers", "user_id"⟩ hcounted storable holds
        (Tidy.index_of_missing (hsound .keepers) missing fun r hr => ?_)
        (missingUser?_of_not_mem missing _ _)
      rw [Bool.and_eq_true, decide_eq_true_eq] at hr
      exact List.mem_singleton.mpr (congrArg (Prod.mk _) hr.2.symm)
  | seekerOfNobody given storable missing =>
      refine wastes_insert_of_orphan (draft given) ⟨"seekers", "user_id"⟩ hcounted storable rfl
        (Tidy.index_of_missing (hsound .seekers) missing fun r hr => ?_)
        (missingUser?_of_not_mem missing _ _)
      rw [Bool.and_eq_true, decide_eq_true_eq] at hr
      exact List.mem_singleton.mpr (congrArg (Prod.mk _) hr.2.symm)
  | vetOfNobody given storable holds missing =>
      refine wastes_insert_of_orphan (draft given) ⟨"vets", "user_id"⟩ hcounted storable holds
        (Tidy.index_of_missing (hsound .vets) missing fun r hr => ?_)
        (missingUser?_of_not_mem missing _ _)
      rw [Bool.and_eq_true, decide_eq_true_eq] at hr
      exact List.mem_singleton.mpr (congrArg (Prod.mk _) hr.2.symm)
  | postByNobody given storable holds missing =>
      exact wastes_insert_of_orphan (draft given) ⟨"posts", "author_id"⟩ hcounted storable holds rfl
        (missingUser?_of_not_mem missing _ _)
  | reviewByNobody given storable graded keeper missing =>
      refine (inserts_createReview hsound keeper now).wastes ?_
      refine wastes_insert_of_orphan (draft given) ⟨"keeper_reviews", "author_id"⟩ hcounted storable
        (holds_review.mpr graded) (Tidy.index_of_missing (hsound .reviews) missing fun r hr => ?_)
        ((if_pos (hasId_of_live keeper)).trans (missingUser?_of_not_mem missing _ _))
      rw [Bool.and_eq_true, decide_eq_true_eq] at hr
      exact List.mem_cons_of_mem _ (List.mem_singleton.mpr (congrArg (Prod.mk _) hr.2.symm))
  | reportByNobody given threshold storable post missing =>
      refine (inserts_fileReport hsound post threshold now).wastes ?_
      refine wastes_insert_of_orphan (given.opened given.id) ⟨"reports", "reporter_id"⟩ hcounted storable
        rfl (Tidy.index_of_missing (hsound .reports) missing fun r hr => ?_)
        ((if_pos (hasId_of_live post)).trans (missingUser?_of_not_mem missing _ _))
      rw [Bool.and_eq_true, decide_eq_true_eq, decide_eq_true_eq] at hr
      exact List.mem_cons_of_mem _ (List.mem_singleton.mpr (congrArg (Prod.mk _) hr.2.symm))
  | chatByNobody given members storable distinct found missing =>
      refine (inserts_createChat hsound distinct found now).wastes ?_
      exact wastes_insert_of_orphan (draftChat given) ⟨"chats", "created_by"⟩ hcounted storable rfl rfl
        (missingUser?_of_not_mem missing _ _)
  | messageToNobody given storable missing =>
      have hnone : ¬Schema.hasId db.tables.chats given.chatId = true :=
        fun h => missing (Schema.hasId_iff.mp h)
      exact wastes_insert_of_orphan (draft given) ⟨"messages", "chat_id"⟩ hcounted storable rfl rfl
        (if_neg hnone)
  | messageByNobody given storable found missing =>
      have hfound : Schema.hasId db.tables.chats given.chatId = true := Schema.hasId_iff.mpr found
      exact wastes_insert_of_orphan (draft given) ⟨"messages", "sender_id"⟩ hcounted storable rfl rfl
        ((if_pos hfound).trans (missingUser?_of_not_mem missing _ _))
  | sessionOfNobody given storable free missing =>
      exact wastes_upsertSession hsound hcounted storable free missing

end

/-! ## Changes -/

/-- A change of a live row after which it would clash with another. -/
theorem fst_update_of_clash [Editable ρ] {given old : ρ} (index : UniqueIndex)
    (hkeys : (ids ρ db.tables).Nodup) (hold : old ∈ (Table.rows db.tables : List ρ))
    (hid : Table.id old = Table.id given) (hlive : HasEntry.isLive old = true)
    (hstorable : Schema.isStorable (Editable.overwrite given default) = true)
    (hholds : Schema.holds (changed given old now) = true)
    (hclash : Schema.clash? db.tables (changed given old now) = some index) :
    ((update given).exec now db).1 = .error (.conflict index.message) := by
  have hguard : (guardStorable (Editable.overwrite given default)).exec now db = (.ok (), db) :=
    Op.exec_guard_of_true hstorable unstorable now db
  have hfind : (find ρ (Table.id given)).exec now db = (.ok old, db) :=
    hid ▸ find_of_nodup hkeys hold hlive now
  have hchecks : (guardChecks (changed given old now)).exec now db = (.ok (), db) :=
    Op.exec_guard_of_true hholds checkBroken now db
  have hrow : (guardRow (changed given old now)).exec now db = (.error (.conflict index.message), db) := by
    rw [guardRow, Op.exec_bind_ok hchecks, guardUnique, Op.exec_bind_ok (exec_look _ _ _), hclash]
    rfl
  unfold update
  rw [Op.exec_bind_ok hguard, Op.exec_bind_ok hfind, Op.exec_bind_ok (exec_now now db)]
  exact congrArg Prod.fst (Op.exec_bind_error hrow)

/-! ## Calls with one fault -/

/-- What a call is refused for, if it has one fault. -/
inductive Flaw (now : Instant) (db : Database) : Store.Call → Error → Prop where
  | misfit (name : TableName) (call : Store.Call) (cause : Error) (h : Misfit now db name call cause) :
      Flaw now db call cause
  /-- Whether or not the mail address is taken, too. -/
  | rename (given old other : User)
      (storable : Schema.isStorable (Editable.overwrite given default) = true)
      (found : old ∈ db.tables.users) (same : old.entry.id = given.entry.id)
      (live : old.entry.isLive = true) (mem : other ∈ db.tables.users)
      (ne : other.entry.id ≠ given.entry.id) (taken : other.username = given.username) :
      Flaw now db (.user (.update given)) (.conflict "Username is already taken")
  | readdress (given old other : User)
      (storable : Schema.isStorable (Editable.overwrite given default) = true)
      (found : old ∈ db.tables.users) (same : old.entry.id = given.entry.id)
      (live : old.entry.isLive = true)
      (free : ∀ u ∈ db.tables.users, u.entry.id ≠ given.entry.id → u.username ≠ given.username)
      (mem : other ∈ db.tables.users) (ne : other.entry.id ≠ given.entry.id)
      (taken : other.email = given.email) :
      Flaw now db (.user (.update given)) (.conflict "Email is already registered")
  | reviewOfNobody (given : Review)
      (missing : ∀ k ∈ db.tables.keepers, k.entry.id = given.keeperId → k.entry.isLive = false) :
      Flaw now db (.review (.create given)) (notFound Keeper given.keeperId)
  | reportOfNothing (given : Report) (threshold : Int)
      (missing : ∀ p ∈ db.tables.posts, p.entry.id = given.postId → p.entry.isLive = false) :
      Flaw now db (.fileReport given threshold) (notFound Post given.postId)
  | chatWithNobody (given : Chat) (members : List Int) (id : Int) (mem : id ∈ members)
      (missing : ∀ u ∈ db.tables.users, u.entry.id = id → u.entry.isLive = false) :
      Flaw now db (.createChat given members) (.validation "One or more chat members do not exist")
  | markOfNobody (userId keeperId : Int)
      (missing : ∀ k ∈ db.tables.keepers, k.entry.id = keeperId → k.entry.isLive = false) :
      Flaw now db (.addFavourite userId keeperId) (notFound Keeper keeperId)
  | markByNobody (userId keeperId : Int)
      (found : ∃ k ∈ db.tables.keepers, k.entry.id = keeperId ∧ k.entry.isLive = true)
      (missing : userId ∉ ids User db.tables) :
      Flaw now db (.addFavourite userId keeperId)
        (.validation (Reference.message ⟨"favourite_keepers", "user_id"⟩))

section

variable (hsound : Sound db.tables) (hcounted : Counted db)

/-- A post that is not found as a published one cannot be reported. -/
theorem exec_fileReport_of_unpublished {given : Report}
    (h : ((Table.rows db.tables).find? fun p : Post => p.entry.id = given.postId && p.entry.isLive).map
      Post.status ≠ some PostStatus.published.name) (threshold : Int) (now : Instant) :
    (fileReport given threshold).exec now db = (.error (notFound Post given.postId), db) := by
  have hlook := exec_find? (fun p : Post => p.entry.id = given.postId && p.entry.isLive) now db
  have hguard := Op.exec_guard_of_false (decide_eq_false h) (notFound Post given.postId) now db
  exact exec_atomically_of_error ((Op.exec_bind_ok hlook).trans (Op.exec_bind_error hguard))

/-- Nobody reports a post of which no live row is published. -/
theorem exec_fileReport_of_hidden {given : Report}
    (h : ∀ p ∈ db.tables.posts, p.entry.id = given.postId → p.entry.isLive = true →
      p.status ≠ PostStatus.published.name) (threshold : Int) (now : Instant) :
    (fileReport given threshold).exec now db = (.error (notFound Post given.postId), db) := by
  refine exec_fileReport_of_unpublished (fun hpublished => ?_) threshold now
  obtain ⟨p, hp, hstatus⟩ := Option.map_eq_some_iff.mp hpublished
  have hfound := List.find?_some hp
  rw [Bool.and_eq_true, decide_eq_true_eq] at hfound
  exact h p (List.mem_of_find?_eq_some hp) hfound.1 hfound.2 hstatus

/-- Nobody reports a post that is not there. -/
theorem fst_fileReport_of_missing {given : Report}
    (hmissing : ∀ p ∈ db.tables.posts, p.entry.id = given.postId → p.entry.isLive = false)
    (threshold : Int) (now : Instant) :
    ((fileReport given threshold).exec now db).1 = .error (notFound Post given.postId) := by
  refine congrArg Prod.fst (exec_fileReport_of_hidden (fun p hp hid hlive => ?_) threshold now)
  rw [hmissing p hp hid] at hlive
  cases hlive

include hsound in
/-- Nobody opens a chat with somebody who is not there. -/
theorem fst_createChat_of_missing {members : List Int} {id : Int} (hmem : id ∈ members)
    (hmissing : ∀ u ∈ db.tables.users, u.entry.id = id → u.entry.isLive = false) (given : Chat)
    (now : Instant) : ((createChat given members).exec now db).1 =
      .error (.validation "One or more chat members do not exist") := by
  have hcount : countLiveUsers db.tables members ≠ members.length := by
    intro hcount
    have hfound := ((countLiveUsers_eq_length_iff (hsound .users).keys).mp hcount).2
    obtain ⟨u, hu, hid, hlive⟩ := hfound id hmem
    rw [hmissing u hu hid] at hlive
    cases hlive
  exact congrArg Prod.fst (exec_createChat_of_missing now db hcount)

include hsound in
/-- Nobody who is not there marks a keeper. -/
theorem fst_addFavourite_of_missing {userId keeperId : Int}
    (hfound : ∃ k ∈ db.tables.keepers, k.entry.id = keeperId ∧ k.entry.isLive = true)
    (hmissing : userId ∉ ids User db.tables) (now : Instant) :
    ((addFavourite userId keeperId).exec now db).1 =
      .error (.validation (Reference.message ⟨"favourite_keepers", "user_id"⟩)) := by
  obtain ⟨k, hk, hid, hlive⟩ := hfound
  have hfind : (find Keeper keeperId).exec now db = (.ok k, db) :=
    hid ▸ find_of_nodup (hsound .keepers).keys hk hlive now
  have hmarks : TidyFavourites db.tables := hsound .favourites
  have hnone : db.tables.favourites.find? (isMark userId keeperId) = none := by
    refine List.find?_eq_none.mpr fun f hf hmark => ?_
    rw [isMark, Bool.and_eq_true, decide_eq_true_eq] at hmark
    exact hmissing (hmark.1 ▸ hmarks.users f hf)
  have huser : ¬Schema.hasId db.tables.users userId = true := fun hid => hmissing (Schema.hasId_iff.mp hid)
  have hunmarked := addFavourite_of_unmarked now db hfind hnone
  rw [if_neg huser] at hunmarked
  exact congrArg Prod.fst hunmarked

include hsound hcounted in
/-- **A call with one fault is refused for it.** -/
theorem Flaw.refused {call : Store.Call} (h : Flaw now db call cause) :
    ((call.perform : Op Database call.Result).exec now db).1 = .error cause := by
  cases h with
  | misfit name call cause h => exact (h.wastes hsound hcounted).refused
  | rename given old other storable found same live mem ne taken =>
      have hother : other ∈ Schema.others db.tables (changed given old now) :=
        Schema.mem_others.mpr ⟨mem, fun heq => ne (heq.trans same)⟩
      have hany : ((Schema.others db.tables (changed given old now)).any fun v =>
          v.username = given.username) = true :=
        List.any_eq_true.mpr ⟨other, hother, decide_eq_true taken⟩
      change ((update given).exec now db).1 = _
      exact fst_update_of_clash .username (hsound .users).keys found same live storable rfl (if_pos hany)
  | readdress given old other storable found same live free mem ne taken =>
      have hother : other ∈ Schema.others db.tables (changed given old now) :=
        Schema.mem_others.mpr ⟨mem, fun heq => ne (heq.trans same)⟩
      have hnone : ¬((Schema.others db.tables (changed given old now)).any fun v =>
          v.username = given.username) = true := by
        intro hany
        obtain ⟨u, hu, hname⟩ := List.any_eq_true.mp hany
        obtain ⟨hu, hid⟩ := Schema.mem_others.mp hu
        exact free u hu (fun heq => hid (heq.trans same.symm)) (of_decide_eq_true hname)
      change ((update given).exec now db).1 = _
      refine fst_update_of_clash .email (hsound .users).keys found same live storable rfl
        ((if_neg hnone).trans ?_)
      exact index_of_mem hother (decide_eq_true taken)
  | reviewOfNobody given missing =>
      have hfind := exec_find_of_dead missing now
      refine (fst_atomically _ now db).trans ?_
      exact congrArg Prod.fst (Op.exec_bind_error hfind)
  | reportOfNothing given threshold missing => exact fst_fileReport_of_missing missing threshold now
  | chatWithNobody given members id mem missing =>
      exact fst_createChat_of_missing hsound mem missing given now
  | markOfNobody userId keeperId missing =>
      have hfind := exec_find_of_dead missing now
      exact congrArg Prod.fst (Op.exec_bind_error hfind)
  | markByNobody userId keeperId found missing =>
      exact fst_addFavourite_of_missing hsound found missing now

end

end Fostering.Database
