import Fostering.Memory.Store
import Fostering.Proofs.Coupling
import Fostering.Proofs.Database.Soundness
import Fostering.Proofs.Listing.Order
import Fostering.Proofs.Memory.Likeness
import Fostering.Proofs.Requests.Fitting

/-!
# The store in memory simulates the database

The store in memory is in step with the database (`Simulates`) if both have the same live users, and posts,
reports, chats and messages that are the same up to ids, dates and the order of members. What the stores
themselves do to rows that are kept one by one (`Mirrored`), they do in step:

* `Simulates.find`: the rows that an id names are found in both stores, or in none.
* `Simulates.update`, `Simulates.delete`: rows that are the same are changed.
* `Simulates.listed`: the rows that a filter keeps are the same.
-/

namespace Fostering

open Database (memberIds)

/-! ## What the stores have in common -/

/-- A post of the database, and the one in memory that stands for it. -/
structure Post.KeptAs (p p' : Post) : Prop where
  same : SameRow p p'
  sound : IsSound p

/-- A message of the database, and the one in memory that stands for it. -/
structure Message.KeptAs (chats : List (Int × Int)) (m m' : Message) : Prop where
  same : Message.Same chats m m'
  sound : IsSound m

/-- A chat of the database, and the one in memory that stands for it. -/
def Chat.KeptAs (t : Tables) (c : Chat) (c' : ChatWithMembers) : Prop :=
  ChatWithMembers.Same ⟨c, memberIds t c.entry.id⟩ c'

/-- These are the ids of the live users in both stores. -/
structure SharesUsers (users : List Int) (rows rows' : List User) : Prop where
  keys : (rows.map fun u => u.entry.id).Nodup
  stored : ∀ id, id ∈ users ↔ ∃ u ∈ rows, u.entry.id = id ∧ u.entry.isLive = true
  kept : ∀ id, id ∈ users ↔ ∃ u ∈ rows', u.entry.id = id ∧ u.entry.isLive = true

/-- A live user is there for what refers to it. -/
theorem SharesUsers.missingUser?_eq_none {users : List Int} {t : Tables} {rows' : List User}
    (h : SharesUsers users t.users rows') {id : Int} (hid : id ∈ users) (table column : String) :
    Schema.missingUser? t table column id = none := by
  obtain ⟨u, hu, rfl, -⟩ := (h.stored id).mp hid
  exact if_pos (Schema.hasId_iff.mpr (List.mem_map_of_mem hu))

/-- The store in memory is in step with the database: `users` are the live ones in both, and `names` the ids
of all other records. -/
structure Simulates (users : List Int) (names : Names) (db : Database) (mem : Memory) : Prop where
  users : SharesUsers users db.tables.users mem.users
  posts : Paired names.posts Table.id HasEntry.id Post.KeptAs db.tables.posts mem.posts db.sequences.posts
    mem.lastId
  reports : Paired names.reports Report.id Report.id (Report.Same names.posts) db.tables.reports mem.reports
    db.sequences.reports mem.lastId
  chats : Paired names.chats Table.id (fun c => c.chat.entry.id) (Chat.KeptAs db.tables) db.tables.chats
    mem.chats db.sequences.chats mem.lastId
  members : ∀ m ∈ db.tables.members, m.chatId ≤ db.sequences.chats
  messages : Paired names.messages Table.id HasEntry.id (Message.KeptAs names.chats) db.tables.messages mem.messages
    db.sequences.messages mem.lastId

/-- Both stores refuse for the same cause, and are still in step. -/
def Refused (users : List Int) (names : Names) (e e' : Error) (db : Database) (mem : Memory) : Prop :=
  e.Alike names e' ∧ Simulates users names db mem

/-- The ids of posts, reports, chats and messages in both stores are one to one. -/
theorem Simulates.oneToOne {users : List Int} {names : Names} {db : Database} {mem : Memory}
    (h : Simulates users names db mem) : names.OneToOne where
  posts := h.posts.oneToOne
  reports := h.reports.oneToOne
  chats := h.chats.oneToOne
  messages := h.messages.oneToOne

/-- Both stores turn away whoever is not the owner of a row. -/
theorem Simulates.ensureOwner {users : List Int} {names : Names} {db : Database} {mem : Memory}
    (h : Simulates users names db mem) {now now' : Instant} {actor owner owner' : Int} (howner : owner = owner')
    (what : String) :
    Op.Couples (Refused users names) now now' (ensureOwner actor owner what : Op Database Unit)
      (Fostering.ensureOwner actor owner' what) db mem
      (Op.Reads db mem fun _ _ => decide (actor = owner) = true) := by
  subst howner
  exact Op.couples_guard rfl ⟨.same nofun, h⟩

/-! ## Rows in memory -/

namespace Memory

variable {ρ : Type} [Kept ρ] {now : Instant} {mem : Memory} {row : ρ}

/-- A row in memory that is found is changed where it stands. -/
theorem exec_modify {id : Int} (h : (Kept.rows mem).find? (isLiveRow id) = some row) (f : ρ → ρ) :
    (modify id f).exec now mem =
      (.ok (), Kept.setRows (modifyFirst (isLiveRow id) f (Kept.rows mem)) mem) := by
  have hfind : (findWith (fun r : ρ => isLiveRow id r) id).exec now mem = (.ok row, mem) := by
    have hlook := Op.exec_look (fun m => (Kept.rows m : List ρ).find? fun r => isLiveRow id r) now mem
    rw [h] at hlook
    exact Op.exec_bind_ok hlook
  exact Op.exec_bind_ok hfind

theorem exec_update {given : ρ} (h : (Kept.rows mem).find? (isLiveRow (HasEntry.id given)) = some row) :
    (update given).exec now mem = (.ok (HasEntry.modifyEntry (·.touched now) given),
      Kept.setRows (modifyFirst (isLiveRow (HasEntry.id given))
        (fun _ => HasEntry.modifyEntry (·.touched now) given) (Kept.rows mem)) mem) :=
  Op.exec_bind_ok (exec_modify h _)

/-- A row that is marked as deleted at an instant. -/
def markDeleted (now : Instant) : ρ → ρ :=
  HasEntry.modifyEntry fun e => { e with isDeleted := true, deletedAt := some now }

/-- A row in memory that is deleted is marked, and stays where it stands. -/
theorem exec_delete {id : Int} (h : (Kept.rows mem).find? (isLiveRow id) = some row) :
    (delete ρ id).exec now mem =
      (.ok (), Kept.setRows (modifyFirst (isLiveRow id) (markDeleted now) (Kept.rows mem : List ρ)) mem) :=
  exec_modify h _

/-- A row in memory that nothing refuses gets the next id of all. -/
theorem exec_create {given : ρ} (h : Kept.refusal? mem given = none) :
    (create given).exec now mem = (.ok (HasEntry.modifyEntry ({ · with id := mem.lastId + 1 }) given),
      Kept.setRows
        (Kept.rows { mem with lastId := mem.lastId + 1 } ++
          [HasEntry.modifyEntry ({ · with id := mem.lastId + 1 }) given])
        { mem with lastId := mem.lastId + 1 }) := by
  have hlook := Op.exec_look (fun m => Kept.refusal? m given) now mem
  rw [h] at hlook
  exact Op.exec_bind_ok hlook

end Memory

/-! ## Rows that are kept one by one -/

/-- Rows of the database that are kept one by one, and the rows in memory that stand for them. -/
class Mirrored (ρ : Type) (ρ' : outParam Type) [Editable ρ] [Kept ρ'] where
  pairs : Names → List (Int × Int)
  KeptAs : Names → ρ → ρ' → Prop
  isLive_eq : ∀ {names r r'}, KeptAs names r r' → HasEntry.isLive r = HasEntry.isLive r'
  id_changed : ∀ (given old : ρ) (now : Instant), Table.id (Database.changed given old now) = Table.id old
  id_buried : ∀ (r : ρ) (now : Instant), Table.id (Database.buried r now) = Table.id r
  delete : ∀ {names r r'} (now now' : Instant), KeptAs names r r' →
    KeptAs names (Database.buried r now) (Memory.markDeleted now' r')
  notFound : ∀ {names i i'}, Refers (pairs names) i i' →
    Error.Alike names (Database.notFound ρ i) (.notFound (Kept.name ρ') i')
  paired : ∀ {users names db mem}, Simulates users names db mem →
    Paired (pairs names) Table.id HasEntry.id (KeptAs names) (Table.rows db.tables) (Kept.rows mem)
      (Table.lastId ρ db.sequences) mem.lastId
  put : ∀ {users names db mem rows rows'}, Simulates users names db mem →
    Paired (pairs names) Table.id HasEntry.id (KeptAs names) rows rows' (Table.lastId ρ db.sequences)
      mem.lastId →
    Simulates users names { db with tables := Table.setRows rows db.tables } (Kept.setRows rows' mem)

namespace Mirrored

instance : Mirrored Post Post where
  pairs := Names.posts
  KeptAs _ := Post.KeptAs
  isLive_eq h := h.same.isLive_eq
  id_changed _ _ _ := rfl
  id_buried _ _ := rfl
  delete _ _ h := ⟨⟨rfl, h.same.rest⟩, h.sound.texts, h.sound.holds⟩
  notFound h := .post h
  paired h := h.posts
  put h hrows := { h with posts := hrows }

instance : Mirrored Message Message where
  pairs := Names.messages
  KeptAs names := Message.KeptAs names.chats
  isLive_eq h := h.same.row.isLive_eq
  id_changed _ _ _ := rfl
  id_buried _ _ := rfl
  delete _ _ h := ⟨⟨h.same.chat, rfl, h.same.row.rest⟩, h.sound.texts, h.sound.holds⟩
  notFound h := .message h
  paired h := h.messages
  put h hrows := { h with messages := hrows }

end Mirrored

namespace Simulates

variable {ρ ρ' : Type} [Editable ρ] [Kept ρ'] [Mirrored ρ ρ'] {users : List Int} {names : Names}
  {db : Database} {mem : Memory} {now now' : Instant} {i i' : Int} {r : ρ} {r' : ρ'}

open Mirrored

/-- The live rows with two ids that mean the same. -/
abbrev Found (names : Names) (db : Database) (mem : Memory) (i i' : Int) (r : ρ) (r' : ρ') : Prop :=
  Paired.Found (pairs ρ names) Table.id HasEntry.id (KeptAs names) (Table.rows db.tables) (Kept.rows mem)
    HasEntry.isLive HasEntry.isLive i i' r r'

/-- A row that both stores find is found by the database. -/
theorem Found.exec_find (h : Found names db mem i i' r r') :
    (Database.find ρ i).exec now db = (.ok r, db) := by
  have hlook := Database.exec_find? (fun s : ρ => Table.id s = i && HasEntry.isLive s) now db
  rw [h.first] at hlook
  exact Op.exec_bind_ok hlook

/-- What an id names is found in both stores, or in none. -/
theorem found_or_none (h : Simulates users names db mem) (hi : Refers (pairs ρ names) i i') :
    (∃ (r : ρ) (r' : ρ'), Found names db mem i i' r r') ∨
      ((Table.rows db.tables).find? fun s : ρ => decide (Table.id s = i) && HasEntry.isLive s) = none ∧
        ((Kept.rows mem).find? fun s : ρ' => Memory.isLiveRow i' s) = none :=
  (paired h).found_or_none hi fun _ _ => isLive_eq

/-- **What an id names is found in both stores, or in none.** -/
theorem find (h : Simulates users names db mem) (hi : Refers (pairs ρ names) i i') :
    Op.Couples (Refused users names) now now' (Database.find ρ i)
      (Memory.findWith (fun r : ρ' => Memory.isLiveRow i' r) i') db mem
      (Op.Reads db mem (Found names db mem i i')) := by
  have hlook := Database.exec_find? (fun s : ρ => Table.id s = i && HasEntry.isLive s) now db
  have hlook' := Op.exec_look (fun m => (Kept.rows m : List ρ').find? fun r => Memory.isLiveRow i' r) now' mem
  rcases h.found_or_none (ρ := ρ) hi with ⟨r, r', hfound⟩ | ⟨hnone, hnone'⟩
  · have hkept : ((Kept.rows mem : List ρ').find? fun r => Memory.isLiveRow i' r) = some r' := hfound.first'
    rw [hkept] at hlook'
    exact Op.couples_of_exec hfound.exec_find (Op.exec_bind_ok hlook') ⟨hfound, rfl, rfl⟩
  · rw [hnone] at hlook
    rw [hnone'] at hlook'
    exact Op.couples_of_error (Op.exec_bind_ok hlook) (Op.exec_bind_ok hlook') ⟨notFound hi, h⟩

/-- A row takes the place of the one that was found, and so does another in memory. -/
theorem change (h : Simulates users names db mem) (hfound : Found names db mem i i' r r') {new : ρ}
    {f : ρ' → ρ'} (hid : Table.id new = Table.id r) (hid' : HasEntry.id (f r') = HasEntry.id r')
    (hsame : KeptAs names new (f r')) :
    Simulates users names { db with tables := Database.putRow new db.tables }
      (Kept.setRows (Memory.modifyFirst (Memory.isLiveRow i') f (Kept.rows mem)) mem) := by
  have hisIt : Memory.isLiveRow i' r' = true := by
    obtain ⟨hkey, hlive⟩ := hfound.key_and'
    simp [Memory.isLiveRow, hkey, hlive]
  have honly : ∀ s ∈ (Kept.rows mem : List ρ'), Memory.isLiveRow i' s = true → HasEntry.id s = i' := by
    intro s _ hs
    simp only [Memory.isLiveRow, Bool.and_eq_true, decide_eq_true_eq] at hs
    exact hs.1
  have hrows := (paired h).change hfound (f := fun _ => new) hisIt honly hid hid' hsame fun _ _ hs _ => hs.2
  unfold Database.putRow
  rw [hid, hfound.key_and.1]
  exact put h hrows

/-- **Rows that are the same are changed to rows that are.** -/
theorem update (h : Simulates users names db mem) (hfound : Found names db mem i i' r r') {given : ρ}
    {given' : ρ'} (hid : Table.id given = i) (hid' : HasEntry.id given' = i')
    (hstorable : Schema.isStorable (Editable.overwrite given default) = true)
    (hrow : Database.IsAdmissible db.tables (Database.changed given r now))
    (hsame : KeptAs names (Database.changed given r now) (HasEntry.modifyEntry (·.touched now') given')) :
    Op.Couples (Refused users names) now now' (Database.update given) (Memory.update given') db mem
      fun s s' db' mem' => Match (pairs ρ names) Table.id HasEntry.id (KeptAs names) s s' ∧
        Simulates users names db' mem' := by
  subst hid hid'
  have hkept : HasEntry.id (HasEntry.modifyEntry (·.touched now') given') = HasEntry.id r' := by
    rw [hfound.key_and'.1]
    simp [HasEntry.id, Entry.touched]
  have hchanged := id_changed given r now
  refine Op.couples_of_exec (Database.update_of_find hstorable hfound.exec_find hrow)
    (Memory.exec_update hfound.first') ⟨⟨?_, hsame⟩, h.change hfound hchanged hkept hsame⟩
  rw [hchanged, hkept]
  exact hfound.matched.1

/-- **Rows that are the same are deleted together.** -/
theorem delete (h : Simulates users names db mem) (hfound : Found names db mem i i' r r') :
    Op.Couples (Refused users names) now now' (Database.delete ρ i) (Memory.delete ρ' i') db mem
      fun _ _ db' mem' => Simulates users names db' mem' := by
  have hkept : HasEntry.id (Memory.markDeleted now' r') = HasEntry.id r' := by
    simp [HasEntry.id, Memory.markDeleted]
  have hexec : (Database.delete ρ i).exec now db =
      (.ok (), { db with tables := Database.putRow (Database.buried r now) db.tables }) := by
    unfold Database.delete
    rw [Op.exec_bind_ok hfound.exec_find, Op.exec_bind_ok (Database.exec_now now db)]
    exact Database.exec_replace (Database.buried r now) now db
  exact Op.couples_of_exec hexec (Memory.exec_delete hfound.first')
    (h.change hfound (id_buried r now) hkept (Mirrored.delete now now' hfound.matched.2))

/-- **The rows that a list shows are the same in both stores.** -/
theorem listed (h : Simulates users names db mem) {p : ρ → Bool} {p' : ρ' → Bool}
    (hp : ∀ r r', KeptAs names r r' → p r = p' r') (direction : Direction) (key : ρ → SortKey)
    (id : ρ → Int) :
    ListsAlike (Match (pairs ρ names) Table.id HasEntry.id (KeptAs names))
      (sortRows direction key id ((Table.rows db.tables).filter fun r => HasEntry.isLive r && p r))
      ((Kept.rows mem).filter fun r => HasEntry.isLive r && p' r) := by
  refine ⟨_, perm_sortRows direction key id _, (paired h).matched.filter fun r r' hr => ?_⟩
  rw [isLive_eq hr.2, hp r r' hr.2]

end Simulates

end Fostering
