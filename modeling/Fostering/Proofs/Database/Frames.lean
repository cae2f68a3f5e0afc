import Fostering.Database.Store
import Fostering.Proofs.Calls
import Fostering.Proofs.Database.Statements

/-!
# What a call leaves alone

A call of the store changes the tables of `Call.writes` and leaves every other one as it was,
whether it is refused or not. A database *changes in certain tables only* (`OnlyChanges`) if all
others hold the same rows; this is a preorder, so it passes from statements to operations.

* `perform_onlyChanges`: each call changes the tables that it may change only.
* `onlyChanges_of_writesOnly`: so does every operation that is made of such calls.
-/

namespace Fostering

/-- A table holds the same rows in both. -/
def TableName.Agrees : TableName → Tables → Tables → Prop
  | users, t, t' => t'.users = t.users
  | keepers, t, t' => t'.keepers = t.keepers
  | seekers, t, t' => t'.seekers = t.seekers
  | vets, t, t' => t'.vets = t.vets
  | posts, t, t' => t'.posts = t.posts
  | reports, t, t' => t'.reports = t.reports
  | reviews, t, t' => t'.reviews = t.reviews
  | chats, t, t' => t'.chats = t.chats
  | members, t, t' => t'.members = t.members
  | messages, t, t' => t'.messages = t.messages
  | favourites, t, t' => t'.favourites = t.favourites
  | sessions, t, t' => t'.sessions = t.sessions

theorem TableName.Agrees.refl (name : TableName) (t : Tables) : name.Agrees t t := by
  cases name <;> rfl

theorem TableName.Agrees.trans {name : TableName} {t t' t'' : Tables} (h : name.Agrees t t')
    (h' : name.Agrees t' t'') : name.Agrees t t'' := by
  cases name <;> exact Eq.trans h' h

/-- A name that is not one of two differs from both. -/
theorem TableName.ne_and_ne_of_not_mem {name first second : TableName} (h : name ∉ [first, second]) :
    name ≠ first ∧ name ≠ second :=
  ⟨List.ne_of_not_mem_cons h, List.ne_of_not_mem_cons (List.not_mem_of_not_mem_cons h)⟩

/-- Who takes part in a chat is in a table of its own. -/
theorem TableName.agrees_members {name : TableName} (h : name ≠ .members) (members : List Membership)
    (t : Tables) : name.Agrees t { t with members } := by
  cases name with
  | members => exact absurd rfl h
  | _ => rfl

/-- Marks are in a table of their own. -/
theorem TableName.agrees_favourites {name : TableName} (h : name ≠ .favourites)
    (favourites : List Favourite) (t : Tables) : name.Agrees t { t with favourites } := by
  cases name with
  | favourites => exact absurd rfl h
  | _ => rfl

/-- A table with a name. Setting its rows leaves every other table as it was. -/
class NamedTable (ρ : Type) [Table ρ] where
  name : TableName
  agrees_setRows : ∀ {other : TableName}, other ≠ name → ∀ (rows : List ρ) (t : Tables),
    other.Agrees t (Table.setRows rows t)
  rows_of_agrees : ∀ {t t' : Tables}, name.Agrees t t' → (Table.rows t' : List ρ) = Table.rows t

namespace NamedTable

instance : NamedTable User where
  name := .users
  agrees_setRows := by
    intro other h rows t
    cases other with
    | users => exact absurd rfl h
    | _ => rfl
  rows_of_agrees := id

instance : NamedTable Keeper where
  name := .keepers
  agrees_setRows := by
    intro other h rows t
    cases other with
    | keepers => exact absurd rfl h
    | _ => rfl
  rows_of_agrees := id

instance : NamedTable Seeker where
  name := .seekers
  agrees_setRows := by
    intro other h rows t
    cases other with
    | seekers => exact absurd rfl h
    | _ => rfl
  rows_of_agrees := id

instance : NamedTable Vet where
  name := .vets
  agrees_setRows := by
    intro other h rows t
    cases other with
    | vets => exact absurd rfl h
    | _ => rfl
  rows_of_agrees := id

instance : NamedTable Post where
  name := .posts
  agrees_setRows := by
    intro other h rows t
    cases other with
    | posts => exact absurd rfl h
    | _ => rfl
  rows_of_agrees := id

instance : NamedTable Report where
  name := .reports
  agrees_setRows := by
    intro other h rows t
    cases other with
    | reports => exact absurd rfl h
    | _ => rfl
  rows_of_agrees := id

instance : NamedTable Review where
  name := .reviews
  agrees_setRows := by
    intro other h rows t
    cases other with
    | reviews => exact absurd rfl h
    | _ => rfl
  rows_of_agrees := id

instance : NamedTable Chat where
  name := .chats
  agrees_setRows := by
    intro other h rows t
    cases other with
    | chats => exact absurd rfl h
    | _ => rfl
  rows_of_agrees := id

instance : NamedTable Message where
  name := .messages
  agrees_setRows := by
    intro other h rows t
    cases other with
    | messages => exact absurd rfl h
    | _ => rfl
  rows_of_agrees := id

instance : NamedTable Session where
  name := .sessions
  agrees_setRows := by
    intro other h rows t
    cases other with
    | sessions => exact absurd rfl h
    | _ => rfl
  rows_of_agrees := id

end NamedTable

namespace Database

variable {tables : List TableName} {R : Database → Database → Prop} {α ρ : Type}

/-- A database changes in these tables only. -/
def OnlyChanges (tables : List TableName) (db db' : Database) : Prop :=
  ∀ name, name ∉ tables → name.Agrees db.tables db'.tables

instance : IsPreorder Database (OnlyChanges tables) where
  refl db name _ := .refl name db.tables
  trans _ _ _ h h' name hname := (h name hname).trans (h' name hname)

/-- What leaves the tables as they were changes none of them. -/
theorem onlyChanges_of_tables_eq {db db' : Database} (h : db'.tables = db.tables) :
    OnlyChanges tables db db' := by
  intro name _
  rw [h]
  exact .refl name db.tables

/-- What changes no table leaves all tables as they were. -/
theorem tables_of_onlyChanges_nil {db db' : Database} (h : OnlyChanges [] db db') :
    db'.tables = db.tables := by
  have hagrees (name : TableName) : name.Agrees db.tables db'.tables := h name List.not_mem_nil
  rcases hdb : db.tables with ⟨⟩
  rcases hdb' : db'.tables with ⟨⟩
  rw [hdb, hdb'] at hagrees
  rw [Tables.mk.injEq]
  exact ⟨hagrees .users, hagrees .keepers, hagrees .seekers, hagrees .vets, hagrees .posts,
    hagrees .reports, hagrees .reviews, hagrees .chats, hagrees .members, hagrees .messages,
    hagrees .favourites, hagrees .sessions⟩

/-! ## Statements -/

/-- A transaction leaves alone what its steps leave alone: if it is refused, it leaves all alone. -/
theorem keepsTo_atomically {op : Op Database α} (h : op.KeepsTo (OnlyChanges tables)) :
    (atomically op).KeepsTo (OnlyChanges tables) := by
  intro now db
  rcases atomically_cases op now db with hrefused | ⟨a, db', hop, heq⟩
  · exact onlyChanges_of_tables_eq hrefused.tables_eq
  · have hdb := h now db
    rw [hop] at hdb
    rw [heq]
    exact hdb

/-- Looking at the tables changes nothing. -/
theorem keepsTo_looking [Std.Refl R] (f : Tables → α) : (look f).KeepsTo R :=
  Op.keepsTo_look fun db => f db.tables

/-- Looking at the clock changes nothing. -/
theorem keepsTo_time [Std.Refl R] : Database.now.KeepsTo R :=
  Op.keepsTo_of_exec_snd fun _ _ => rfl

/-- A change of some tables changes no other ones. -/
theorem keepsTo_change {f : Tables → Tables} (h : ∀ name, name ∉ tables → ∀ t, name.Agrees t (f t)) :
    (change f).KeepsTo (OnlyChanges tables) :=
  fun _ db name hname => h name hname db.tables

section

variable [Table ρ] [NamedTable ρ]

/-- To set the rows of a table changes no other table. -/
theorem agrees_setRows (h : NamedTable.name ρ ∈ tables) {name : TableName} (hname : name ∉ tables)
    (rows : List ρ) (t : Tables) : name.Agrees t (Table.setRows rows t) := by
  refine NamedTable.agrees_setRows ?_ rows t
  rintro rfl
  exact hname h

/-- To change rows in their places changes their table only. -/
theorem keepsTo_updateWhere (h : NamedTable.name ρ ∈ tables) (p : ρ → Bool) (f : ρ → ρ) :
    (updateWhere p f).KeepsTo (OnlyChanges tables) :=
  keepsTo_change fun _ hname _ => agrees_setRows h hname _ _

/-- To erase rows changes their table only. -/
theorem keepsTo_eraseWhere (h : NamedTable.name ρ ∈ tables) (p : ρ → Bool) :
    (eraseWhere p).KeepsTo (OnlyChanges tables) :=
  keepsTo_change fun _ hname _ => agrees_setRows h hname _ _

end

/-- Looking a row up changes nothing. -/
theorem keepsTo_find [IsPreorder Database R] [Editable ρ] (id : Int) : (find ρ id).KeepsTo R :=
  Op.keepsTo_bind (keepsTo_looking _) fun _ => Op.keepsTo_orRefuse _ _

/-- To look for a row among deleted ones, too, changes nothing. -/
theorem keepsTo_findAny [IsPreorder Database R] [Editable ρ] (id : Int) : (findAny ρ id).KeepsTo R :=
  Op.keepsTo_bind (keepsTo_looking _) fun _ => Op.keepsTo_orRefuse _ _

/-- To list rows changes nothing. -/
theorem keepsTo_list [IsPreorder Database R] {φ : Type} [Table ρ] [HasEntry ρ] [Columns ρ]
    [Filter φ ρ] (filter : φ) (order : ListOrder) (page : Page) :
    (list filter order page : Op Database (List ρ)).KeepsTo R :=
  Op.keepsTo_bind (Op.keepsTo_guard _ _) fun _ =>
    Op.keepsTo_bind (Op.keepsTo_orRefuse _ _) fun _ => keepsTo_looking _

/-- An insertion changes the table of its row only. -/
theorem keepsTo_insert [Schema ρ] [NamedTable ρ] (h : NamedTable.name ρ ∈ tables) (row : ρ) :
    (insert row).KeepsTo (OnlyChanges tables) := by
  intro now db
  rcases insert_cases row now db with hrefused | ⟨new, db', -, -, -, heq, htables⟩
  · exact onlyChanges_of_tables_eq hrefused.tables_eq
  · rw [heq]
    intro name hname
    rw [htables]
    exact agrees_setRows h hname _ _

section

variable [Editable ρ] [NamedTable ρ]

/-- A change of a row changes its table only. -/
theorem keepsTo_update (h : NamedTable.name ρ ∈ tables) (given : ρ) :
    (update given).KeepsTo (OnlyChanges tables) := by
  intro now db
  rcases update_cases given now db with hrefused | ⟨old, -, -, -, -, -, heq⟩
  · exact onlyChanges_of_tables_eq hrefused.tables_eq
  · rw [heq]
    intro name hname
    exact agrees_setRows h hname _ _

/-- A deletion changes the table of its row only. -/
theorem keepsTo_delete (h : NamedTable.name ρ ∈ tables) (id : Int) :
    (delete ρ id).KeepsTo (OnlyChanges tables) := by
  intro now db
  rcases delete_cases ρ id now db with hrefused | ⟨row, -, -, -, heq⟩
  · exact onlyChanges_of_tables_eq hrefused.tables_eq
  · rw [heq]
    intro name hname
    exact agrees_setRows h hname _ _

end

/-! ## Calls -/

open Op (keepsTo_bind keepsTo_pure keepsTo_guard keepsTo_orRefuse keepsTo_refuse)

/-- A call on rows that touch no other table changes their own table only. -/
theorem keepsTo_records {φ : Type} [Editable ρ] [NamedTable ρ] [Columns ρ] [Filter φ ρ]
    (call : Store.RecordCall ρ φ) :
    letI := records ρ φ
    (call.perform : Op Database call.Result).KeepsTo (OnlyChanges (call.writes [NamedTable.name ρ])) := by
  cases call with
  | create given => exact keepsTo_insert List.mem_cons_self (draft given)
  | find id => exact keepsTo_find (ρ := ρ) id
  | findAny id => exact keepsTo_findAny (ρ := ρ) id
  | list filter order page => exact keepsTo_list filter order page
  | update given => exact keepsTo_update List.mem_cons_self given
  | delete id => exact keepsTo_delete List.mem_cons_self id

/-- A rating is worked out from reviews, and written to a keeper. -/
theorem keepsTo_refreshRating (keeperId : Int) :
    (refreshRating keeperId).KeepsTo (OnlyChanges [.reviews, .keepers]) := by
  refine keepsTo_bind (keepsTo_looking _) fun _ => keepsTo_bind keepsTo_time fun _ => ?_
  exact keepsTo_updateWhere (by decide) _ _

/-- A call on reviews changes the rating of a keeper, too. -/
theorem keepsTo_reviews (call : Store.RecordCall Review ReviewFilter) :
    (call.perform : Op Database call.Result).KeepsTo (OnlyChanges (call.writes [.reviews, .keepers])) := by
  have hmem : NamedTable.name Review ∈ [TableName.reviews, .keepers] := List.mem_cons_self
  cases call with
  | create given =>
      refine keepsTo_atomically (keepsTo_bind (keepsTo_find (ρ := Keeper) _) fun _ => ?_)
      exact keepsTo_bind (keepsTo_insert hmem (draft given)) fun _ =>
        keepsTo_bind (keepsTo_refreshRating _) fun _ => keepsTo_pure _
  | find id => exact keepsTo_find (ρ := Review) id
  | findAny id => exact keepsTo_findAny (ρ := Review) id
  | list filter order page => exact keepsTo_list filter order page
  | update given =>
      refine keepsTo_atomically (keepsTo_bind (keepsTo_update hmem given) fun _ => ?_)
      exact keepsTo_bind (keepsTo_refreshRating _) fun _ => keepsTo_pure _
  | delete id =>
      refine keepsTo_atomically (keepsTo_bind (keepsTo_find (ρ := Review) id) fun _ => ?_)
      exact keepsTo_bind (keepsTo_delete hmem id) fun _ => keepsTo_refreshRating _

/-- A report changes its post and the reports. -/
theorem keepsTo_fileReport (report : Report) (threshold : Int) :
    (fileReport report threshold).KeepsTo (OnlyChanges [.posts, .reports]) := by
  refine keepsTo_atomically (keepsTo_bind (keepsTo_looking _) fun _ => ?_)
  refine keepsTo_bind (keepsTo_guard _ _) fun _ => ?_
  refine keepsTo_bind (keepsTo_insert (by decide) _) fun _ => ?_
  refine keepsTo_bind (keepsTo_looking _) fun _ => keepsTo_bind keepsTo_time fun _ => ?_
  exact keepsTo_bind (keepsTo_updateWhere (by decide) _ _) fun _ => keepsTo_pure _

/-- An approval changes its post, and takes its reports away. -/
theorem keepsTo_approvePost (id : Int) :
    (approvePost id).KeepsTo (OnlyChanges [.posts, .reports]) := by
  refine keepsTo_atomically (keepsTo_bind (keepsTo_find _) fun _ => ?_)
  refine keepsTo_bind (keepsTo_guard _ _) fun _ => ?_
  refine keepsTo_bind (keepsTo_eraseWhere (by decide) _) fun _ => keepsTo_bind keepsTo_time fun _ => ?_
  exact keepsTo_bind (keepsTo_updateWhere (by decide) _ _) fun _ => keepsTo_pure _

/-- A block changes its post and leaves the reports. -/
theorem keepsTo_blockPost (id : Int) : (blockPost id).KeepsTo (OnlyChanges [.posts]) := by
  refine keepsTo_bind (keepsTo_find _) fun _ => keepsTo_bind keepsTo_time fun _ => ?_
  exact keepsTo_bind (keepsTo_updateWhere (by decide) _ _) fun _ => keepsTo_pure _

/-- To change memberships changes no row of a chat. -/
theorem keepsTo_changeMembers (f : Tables → List Membership) :
    (change fun t => { t with members := f t }).KeepsTo (OnlyChanges [.chats, .members]) :=
  keepsTo_change fun _ hname t => TableName.agrees_members (TableName.ne_and_ne_of_not_mem hname).2 _ t

/-- A new chat changes the chats and their members. -/
theorem keepsTo_createChat (given : Chat) (ids : List Int) :
    (createChat given ids).KeepsTo (OnlyChanges [.chats, .members]) := by
  refine keepsTo_atomically (keepsTo_bind (keepsTo_looking _) fun _ => ?_)
  refine keepsTo_bind (keepsTo_guard _ _) fun _ => ?_
  refine keepsTo_bind (keepsTo_insert (by decide) _) fun _ => keepsTo_bind keepsTo_time fun _ => ?_
  exact keepsTo_bind (keepsTo_changeMembers _) fun _ => keepsTo_pure _

/-- To leave a chat changes the members, and may delete the chat. -/
theorem keepsTo_removeMember (chatId userId : Int) :
    (removeMember chatId userId).KeepsTo (OnlyChanges [.chats, .members]) := by
  refine keepsTo_atomically (keepsTo_bind (keepsTo_looking _) fun _ => ?_)
  refine keepsTo_bind (keepsTo_orRefuse _ _) fun _ => keepsTo_bind (keepsTo_looking _) fun _ => ?_
  refine keepsTo_bind (keepsTo_guard _ _) fun _ => keepsTo_bind (keepsTo_changeMembers _) fun _ => ?_
  refine keepsTo_bind (keepsTo_looking _) fun _ => keepsTo_bind keepsTo_time fun _ => ?_
  exact keepsTo_updateWhere (by decide) _ _

/-- To look for a live chat changes nothing. -/
theorem keepsTo_findChat [IsPreorder Database R] (id : Int) : (findChat id).KeepsTo R :=
  keepsTo_bind (keepsTo_looking _) fun _ =>
    keepsTo_bind (keepsTo_orRefuse _ _) fun _ => keepsTo_looking _

/-- To look for any chat changes nothing. -/
theorem keepsTo_findAnyChat [IsPreorder Database R] (id : Int) : (findAnyChat id).KeepsTo R :=
  keepsTo_bind (keepsTo_looking _) fun _ =>
    keepsTo_bind (keepsTo_orRefuse _ _) fun _ => keepsTo_looking _

/-- What only looks at the tables and refuses keeps to everything. -/
theorem keepsTo_guardUnique [IsPreorder Database R] [Schema ρ] (row : ρ) :
    (guardUnique row).KeepsTo R := by
  refine keepsTo_bind (keepsTo_looking _) fun clash? => ?_
  rcases clash? with _ | index
  · exact keepsTo_pure ()
  · exact keepsTo_refuse _

/-- To check what a row refers to changes nothing. -/
theorem keepsTo_guardReferences [IsPreorder Database R] [Schema ρ] (row : ρ) :
    (guardReferences row).KeepsTo R := by
  refine keepsTo_bind (keepsTo_looking _) fun orphan? => ?_
  rcases orphan? with _ | reference
  · exact keepsTo_pure ()
  · exact keepsTo_refuse _

/-- To check a row changes nothing. -/
theorem keepsTo_guardRow [IsPreorder Database R] [Schema ρ] (row : ρ) : (guardRow row).KeepsTo R :=
  keepsTo_bind (keepsTo_guard _ _) fun _ => keepsTo_guardUnique row

/-- Giving an id away touches no table. -/
theorem keepsTo_takeId [Table ρ] : (takeId ρ).KeepsTo (OnlyChanges tables) :=
  fun _ _ => onlyChanges_of_tables_eq rfl

/-- A session that is put in place changes the sessions only. -/
theorem keepsTo_upsertSession (given : Session) :
    (upsertSession given).KeepsTo (OnlyChanges [.sessions]) := by
  refine keepsTo_bind (keepsTo_guard _ _) fun _ => keepsTo_bind keepsTo_takeId fun id => ?_
  refine keepsTo_bind keepsTo_time fun time => keepsTo_bind (keepsTo_looking _) fun old? => ?_
  rcases old? with _ | old
  · refine keepsTo_bind (keepsTo_bind (keepsTo_looking _) fun _ => keepsTo_guard _ _) fun _ => ?_
    refine keepsTo_bind (keepsTo_guardRow _) fun _ => ?_
    refine keepsTo_bind (keepsTo_guardReferences _) fun _ => ?_
    refine keepsTo_bind (keepsTo_change fun name hname t => ?_) fun _ => keepsTo_pure _
    exact agrees_setRows (ρ := Session) (by decide) hname _ t
  · refine keepsTo_bind (keepsTo_guardRow _) fun _ => ?_
    exact keepsTo_bind (keepsTo_updateWhere (by decide) _ _) fun _ => keepsTo_pure _

/-- To look for a session changes nothing. -/
theorem keepsTo_findSession [IsPreorder Database R] (hash : String) : (findSession hash).KeepsTo R :=
  keepsTo_bind (keepsTo_guard _ _) fun _ => keepsTo_bind keepsTo_time fun _ => keepsTo_looking _

/-- To take a session changes the sessions only. -/
theorem keepsTo_takeSession (hash : String) :
    (takeSession hash).KeepsTo (OnlyChanges [.sessions]) := by
  refine keepsTo_bind (keepsTo_guard _ _) fun _ => keepsTo_bind keepsTo_time fun _ => ?_
  refine keepsTo_bind (keepsTo_looking _) fun _ => ?_
  exact keepsTo_bind (keepsTo_eraseWhere (by decide) _) fun _ => keepsTo_pure _

/-- To delete a session changes the sessions only. -/
theorem keepsTo_deleteSession (userId : Int) (fingerprint : String) :
    (deleteSession userId fingerprint).KeepsTo (OnlyChanges [.sessions]) := by
  refine keepsTo_bind (keepsTo_guard _ _) fun _ => keepsTo_bind (keepsTo_looking _) fun _ => ?_
  exact keepsTo_bind (keepsTo_eraseWhere (by decide) _) fun _ => keepsTo_pure _

/-- To change marks changes no keeper. -/
theorem keepsTo_changeFavourites (f : Tables → List Favourite) :
    (change fun t => { t with favourites := f t }).KeepsTo (OnlyChanges [.favourites]) :=
  keepsTo_change fun _ hname t => TableName.agrees_favourites (List.ne_of_not_mem_cons hname) _ t

/-- To mark a keeper changes the marks only. -/
theorem keepsTo_addFavourite (userId keeperId : Int) :
    (addFavourite userId keeperId).KeepsTo (OnlyChanges [.favourites]) := by
  refine keepsTo_bind (keepsTo_find (ρ := Keeper) _) fun _ => ?_
  refine keepsTo_bind (keepsTo_looking _) fun mark? => ?_
  rcases mark? with _ | mark
  · refine keepsTo_bind (keepsTo_looking _) fun missing? => ?_
    rcases missing? with _ | reference
    · refine keepsTo_bind keepsTo_time fun _ => ?_
      exact keepsTo_bind (keepsTo_changeFavourites _) fun _ => keepsTo_pure _
    · exact keepsTo_refuse _
  · exact keepsTo_pure _

/-- To take a mark away changes the marks only. -/
theorem keepsTo_removeFavourite (userId keeperId : Int) :
    (removeFavourite userId keeperId).KeepsTo (OnlyChanges [.favourites]) := by
  refine keepsTo_bind (keepsTo_looking _) fun _ => keepsTo_bind (keepsTo_guard _ _) fun _ => ?_
  exact keepsTo_changeFavourites _

/-- **A call changes the tables that it may change only.** -/
theorem perform_onlyChanges (call : Store.Call) :
    (call.perform : Op Database call.Result).KeepsTo (OnlyChanges call.writes) := by
  cases call with
  | user call => exact keepsTo_records call
  | userByName name => exact keepsTo_bind (keepsTo_guard _ _) fun _ => keepsTo_looking _
  | keeper call => exact keepsTo_records call
  | seeker call => exact keepsTo_records call
  | vet call => exact keepsTo_records call
  | keeperOf userId => exact keepsTo_looking _
  | seekerOf userId => exact keepsTo_looking _
  | vetOf userId => exact keepsTo_looking _
  | post call => exact keepsTo_records call
  | fileReport report threshold => exact keepsTo_fileReport report threshold
  | reportsOn postId => exact keepsTo_looking _
  | countReports postId => exact keepsTo_looking _
  | moderationQueue page => exact keepsTo_looking _
  | approvePost id => exact keepsTo_approvePost id
  | blockPost id => exact keepsTo_blockPost id
  | review call => exact keepsTo_reviews call
  | createChat chat memberIds => exact keepsTo_createChat chat memberIds
  | findChat id => exact keepsTo_findChat id
  | findAnyChat id => exact keepsTo_findAnyChat id
  | chatsOf userId page => exact keepsTo_looking _
  | isMember chatId userId => exact keepsTo_looking _
  | removeMember chatId userId => exact keepsTo_removeMember chatId userId
  | message call => exact keepsTo_records call
  | upsertSession session => exact keepsTo_upsertSession session
  | findSession hash => exact keepsTo_findSession hash
  | takeSession hash => exact keepsTo_takeSession hash
  | deleteSession userId fingerprint => exact keepsTo_deleteSession userId fingerprint
  | addFavourite userId keeperId => exact keepsTo_addFavourite userId keeperId
  | removeFavourite userId keeperId => exact keepsTo_removeFavourite userId keeperId
  | favouritesOf userId page => exact keepsTo_looking _
  | reachable => exact keepsTo_pure true

/-- **An operation changes the tables that its calls may change only.** -/
theorem onlyChanges_of_writesOnly {op : Op Database α} (h : op.WritesOnly tables) :
    op.KeepsTo (OnlyChanges tables) := by
  refine h.keepsTo fun call hsub => (perform_onlyChanges call).mono ?_
  intro db db' hdb name hname
  exact hdb name fun hmem => hname (hsub hmem)

end Database

end Fostering
