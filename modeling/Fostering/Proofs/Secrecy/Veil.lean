import Fostering.Proofs.Database.Frames
import Fostering.Proofs.Secrecy.Mirroring

/-!
# Databases without the digests of passwords

The *veil* takes the digests of some users out of a database (`Database.veil`); two databases are
*alike* if nothing but these digests tells them apart (`Database.Alike`). Of everything that can be
asked of a database, only what gives out the rows of users as they are stored tells alike databases
apart (`Store.Call.givesUsers`), and even there only the digests differ.

* `Database.overlooks_perform`: every other call comes to the same result on alike databases, and
  leaves databases that are alike.
* `Database.mirrors_find`, `mirrors_list`, `mirrors_update`: what the calls on users come to.
-/

namespace Fostering

open Op (Mirrors Overlooks)

/-! ## The veil -/

/-- A user without the digest, if the id is a hidden one. -/
def User.veil (hidden : Int → Bool) (u : User) : User :=
  if hidden u.entry.id then { u with passwordHash := "" } else u

namespace User

variable (hidden : Int → Bool) (u : User)

/-- The veil leaves the shared columns. -/
@[simp] theorem entry_veil : (u.veil hidden).entry = u.entry := by
  unfold veil; split <;> rfl

@[simp] theorem username_veil : (u.veil hidden).username = u.username := by
  unfold veil; split <;> rfl

@[simp] theorem email_veil : (u.veil hidden).email = u.email := by
  unfold veil; split <;> rfl

@[simp] theorem isModerator_veil : (u.veil hidden).isModerator = u.isModerator := by
  unfold veil; split <;> rfl

@[simp] theorem city_veil : (u.veil hidden).city = u.city := by
  unfold veil; split <;> rfl

/-- What clients see of a user does not show the digest. -/
@[simp] theorem view_veil : (u.veil hidden).view = u.view := by
  unfold veil; split <;> rfl

end User

/-- The tables without the digests of the hidden users. -/
def Tables.veil (hidden : Int → Bool) (t : Tables) : Tables :=
  { t with users := t.users.map (User.veil hidden) }

namespace Tables

variable (hidden : Int → Bool) (t : Tables)

/-- The veil is over the users. -/
@[simp] theorem users_veil : (t.veil hidden).users = t.users.map (User.veil hidden) := rfl

@[simp] theorem keepers_veil : (t.veil hidden).keepers = t.keepers := rfl

@[simp] theorem seekers_veil : (t.veil hidden).seekers = t.seekers := rfl

@[simp] theorem vets_veil : (t.veil hidden).vets = t.vets := rfl

@[simp] theorem posts_veil : (t.veil hidden).posts = t.posts := rfl

@[simp] theorem reports_veil : (t.veil hidden).reports = t.reports := rfl

@[simp] theorem reviews_veil : (t.veil hidden).reviews = t.reviews := rfl

@[simp] theorem chats_veil : (t.veil hidden).chats = t.chats := rfl

@[simp] theorem members_veil : (t.veil hidden).members = t.members := rfl

@[simp] theorem messages_veil : (t.veil hidden).messages = t.messages := rfl

@[simp] theorem favourites_veil : (t.veil hidden).favourites = t.favourites := rfl

@[simp] theorem sessions_veil : (t.veil hidden).sessions = t.sessions := rfl

end Tables

namespace Database

/-- The database without the digests of the hidden users. -/
def veil (hidden : Int → Bool) (db : Database) : Database :=
  { db with tables := db.tables.veil hidden }

/-- Two databases that only the digests of hidden users tell apart. -/
def Alike (hidden : Int → Bool) (db db' : Database) : Prop := db.veil hidden = db'.veil hidden

variable {hidden : Int → Bool} {db db' : Database}

/-- Alike databases have alike tables. -/
theorem Alike.tables (h : Alike hidden db db') : db.tables.veil hidden = db'.tables.veil hidden :=
  congrArg (·.tables) h

/-- Alike databases have the same counters. -/
theorem Alike.sequences (h : Alike hidden db db') : db.sequences = db'.sequences :=
  congrArg (·.sequences) h

/-- Alike tables and the same counters make alike databases. -/
theorem alike_of_eq {t t' : Tables} {s s' : Sequences} (ht : t.veil hidden = t'.veil hidden)
    (hs : s = s') : Alike hidden ⟨t, s⟩ ⟨t', s'⟩ := by
  simp only [Alike, veil, ht, hs]

end Database

/-- The veil hides no id. -/
theorem Schema.hasId_veil (hidden : Int → Bool) (users : List User) (id : Int) :
    hasId (users.map (User.veil hidden)) id = hasId users id := by
  simp only [hasId, Table.id, List.any_map, Function.comp_def, User.entry_veil]

/-- Nobody is missed because of the veil. -/
@[simp] theorem Schema.missingUser?_veil (hidden : Int → Bool) (t : Tables) (table column : String)
    (id : Int) : missingUser? (t.veil hidden) table column id = missingUser? t table column id := by
  simp only [missingUser?, Tables.veil, hasId_veil]

/-! ## Kinds of rows under the veil -/

/-- A kind of row whose table keeps its rules under the veil. All kinds but users stay as they are. -/
class Veiled (ρ : Type) [Schema ρ] where
  /-- What the veil leaves of a row. -/
  veil : (Int → Bool) → ρ → ρ := fun _ r => r
  id_veil : ∀ hidden r, Table.id (veil hidden r) = Table.id r := by intros; rfl
  holds_veil : ∀ hidden r, Schema.holds (veil hidden r) = Schema.holds r := by intros; rfl
  rows_veil : ∀ hidden (t : Tables), Table.rows (t.veil hidden) = (Table.rows t).map (veil hidden) := by
    intro _ _; exact (List.map_id' _).symm
  setRows_veil : ∀ hidden (rows : List ρ) (t : Tables),
      (Table.setRows rows t).veil hidden = Table.setRows (rows.map (veil hidden)) (t.veil hidden) := by
    intro _ rows t; rw [List.map_id']; rfl
  clash?_veil : ∀ hidden (t : Tables) r,
      Schema.clash? (t.veil hidden) (veil hidden r) = Schema.clash? t r := by intros; rfl
  orphan?_veil : ∀ hidden (t : Tables) r,
      Schema.orphan? (t.veil hidden) (veil hidden r) = Schema.orphan? t r := by
    intros; simp [Schema.orphan?]

instance : Veiled Keeper where
instance : Veiled Seeker where
instance : Veiled Vet where
instance : Veiled Post where
instance : Veiled Report where
instance : Veiled Review where
instance : Veiled Chat where
instance : Veiled Message where
instance : Veiled Session where

instance : Veiled User where
  veil := User.veil
  id_veil hidden u := congrArg Entry.id (u.entry_veil hidden)
  rows_veil _ _ := rfl
  setRows_veil _ _ _ := rfl
  clash?_veil hidden t u := by
    simp [Schema.clash?, Schema.others, Table.id, Table.rows, List.any_map, List.filter_map, Function.comp_def]
  orphan?_veil _ _ _ := rfl

/-- A kind of row that is kept one by one and changed in the same way under the veil. -/
class VeiledRecord (ρ : Type) [Editable ρ] extends Veiled ρ where
  entry_veil : ∀ hidden r, HasEntry.entry (veil hidden r) = HasEntry.entry r := by intros; rfl
  modifyEntry_veil : ∀ hidden (f : Entry → Entry) r, (f (HasEntry.entry r)).id = (HasEntry.entry r).id →
      HasEntry.modifyEntry f (veil hidden r) = veil hidden (HasEntry.modifyEntry f r) := by
    intros; rfl
  overwrite_veil : ∀ hidden given old, Editable.overwrite (veil hidden given) (veil hidden old) =
      veil hidden (Editable.overwrite given old) := by intros; rfl
  overwrite_veil_default : ∀ hidden given,
      Editable.overwrite (veil hidden given) default = Editable.overwrite given default := by
    intros; rfl

instance : VeiledRecord Keeper where
instance : VeiledRecord Seeker where
instance : VeiledRecord Vet where
instance : VeiledRecord Post where
instance : VeiledRecord Review where
instance : VeiledRecord Message where

instance : VeiledRecord User where
  entry_veil hidden u := u.entry_veil hidden
  modifyEntry_veil hidden f u h := by
    have hid : (f u.entry).id = u.entry.id := h
    simp only [Veiled.veil, User.veil, HasEntry.modifyEntry, HasEntry.setEntry, HasEntry.entry, hid]
    split <;> rfl
  overwrite_veil hidden given old := by
    simp only [Veiled.veil, User.veil, Editable.overwrite]
    split <;> split <;> rfl
  overwrite_veil_default hidden given := by
    simp only [Veiled.veil, User.veil, Editable.overwrite]
    split <;> rfl

namespace Database

variable {hidden : Int → Bool} {ρ α β : Type}

/-! ## Statements on databases that are alike -/

section

variable {V : α → β → Prop}

/-- A look that sees no more than the veil lets through mirrors itself. -/
theorem mirrors_look {f : Tables → α} {f' : Tables → β}
    (h : ∀ t t', t.veil hidden = t'.veil hidden → V (f t) (f' t')) :
    Mirrors (Alike hidden) V (look f) (look f') := fun _ _ _ hdb =>
  ⟨.ok (h _ _ hdb.tables), hdb⟩

/-- A change that sees no more than the veil lets through leaves alike tables. -/
theorem mirrors_change {f f' : Tables → Tables}
    (h : ∀ t t', t.veil hidden = t'.veil hidden → (f t).veil hidden = (f' t').veil hidden) :
    Mirrors (Alike hidden) Eq (change f) (change f') := fun _ _ _ hdb =>
  ⟨.ok rfl, alike_of_eq (h _ _ hdb.tables) hdb.sequences⟩

/-- The clock does not show digests. -/
theorem overlooks_now : Overlooks (Alike hidden) Database.now := fun _ _ _ hdb => ⟨.ok rfl, hdb⟩

/-- What can be seen through the veil is seen alike. -/
theorem overlooks_look {f : Tables → α} (h : ∀ t, f (t.veil hidden) = f t) :
    Overlooks (Alike hidden) (look f) :=
  mirrors_look fun t t' htt' => by rw [← h t, htt', h t']

/-- A change that goes along with the veil does not tell alike databases apart. -/
theorem overlooks_change {f : Tables → Tables} (h : ∀ t, (f t).veil hidden = f (t.veil hidden)) :
    Overlooks (Alike hidden) (change f) :=
  mirrors_change fun t t' htt' => by rw [h t, htt', h t']

/-- The next id does not tell alike databases apart. -/
theorem overlooks_takeId [Table ρ] : Overlooks (Alike hidden) (takeId ρ) := by
  intro _ db db' hdb
  rw [exec_takeId, exec_takeId, hdb.sequences]
  exact ⟨.ok rfl, alike_of_eq hdb.tables rfl⟩

/-- A transaction mirrors another if its steps do. -/
theorem mirrors_atomically {op : Op Database α} {op' : Op Database β}
    (h : Mirrors (Alike hidden) V op op') :
    Mirrors (Alike hidden) V (atomically op) (atomically op') := by
  intro t db db' hdb
  obtain ⟨hout, hafter⟩ := h t db db' hdb
  unfold atomically
  unfold Op.exec at hout hafter ⊢
  dsimp only
  generalize op t db = o at hout hafter ⊢
  generalize op' t db' = o' at hout hafter ⊢
  obtain ⟨r, db₁⟩ := o
  obtain ⟨r', db₁'⟩ := o'
  cases hout with
  | refused cause => exact ⟨.refused cause, alike_of_eq hdb.tables hafter.sequences⟩
  | ok hab => exact ⟨.ok hab, hafter⟩

end

/-! ## Rows -/

section

variable [Schema ρ] [Veiled ρ]

/-- Two rows of which the veil leaves the same. -/
def Similar (hidden : Int → Bool) (r r' : ρ) : Prop :=
  Veiled.veil hidden r = Veiled.veil hidden r'

/-- Alike rows have one id. -/
theorem Similar.id_eq {r r' : ρ} (h : Similar hidden r r') : Table.id r = Table.id r' := by
  rw [← Veiled.id_veil hidden r, h, Veiled.id_veil]

/-- A row is added under the veil as it is without. -/
theorem veil_addRow (row : ρ) (t : Tables) :
    (addRow row t).veil hidden = addRow (Veiled.veil hidden row) (t.veil hidden) := by
  simp only [addRow, Veiled.setRows_veil, Veiled.rows_veil, List.map_append, List.map_cons,
    List.map_nil]

/-- A row is put in place under the veil as it is without. -/
theorem veil_putRow (row : ρ) (t : Tables) :
    (putRow row t).veil hidden = putRow (Veiled.veil hidden row) (t.veil hidden) := by
  simp only [putRow, Veiled.setRows_veil, Veiled.rows_veil, List.map_map, Function.comp_def,
    Veiled.id_veil, apply_ite (Veiled.veil hidden)]

/-- Alike rows clash with the same. -/
theorem mirrors_guardUnique {r r' : ρ} (h : Similar hidden r r') :
    Mirrors (Alike hidden) Eq (guardUnique r) (guardUnique r') := by
  refine (mirrors_look (V := Eq) fun t t' htt' => ?_).step fun clash? => ?_
  · rw [← Veiled.clash?_veil hidden t r, htt', h, Veiled.clash?_veil]
  · rcases clash? with _ | index
    · exact .pure rfl
    · exact .refuse _

/-- What a row refers to is there under the veil, too. -/
theorem overlooks_guardReferences (row : ρ) :
    Overlooks (Alike hidden) (guardReferences row) := by
  refine (mirrors_look (V := Eq) fun t t' htt' => ?_).step fun orphan? => ?_
  · rw [← Veiled.orphan?_veil hidden t row, htt', Veiled.orphan?_veil]
  · rcases orphan? with _ | reference
    · exact .pure rfl
    · exact .refuse _

/-- Alike rows pass the same checks. -/
theorem mirrors_guardRow {r r' : ρ} (h : Similar hidden r r') :
    Mirrors (Alike hidden) Eq (guardRow r) (guardRow r') := by
  refine (Mirrors.guard ?_ checkBroken).step fun _ => mirrors_guardUnique h
  rw [← Veiled.holds_veil hidden r, h, Veiled.holds_veil]

/-- Alike databases have the same ids in use. -/
theorem overlooks_guardKey (row : ρ) : Overlooks (Alike hidden) (guardKey row) := by
  refine (mirrors_look (V := Eq) fun t t' htt' => ?_).step fun isTaken => .guard rfl _
  have hids : ∀ t : Tables, Schema.hasId (Table.rows (t.veil hidden) : List ρ) (Table.id row) =
      Schema.hasId (Table.rows t : List ρ) (Table.id row) := fun t => by
    simp only [Schema.hasId, Veiled.rows_veil, List.any_map, Function.comp_def, Veiled.id_veil]
  rw [← hids t, htt', hids]

/-- A row is appended under the veil as it is without. -/
theorem overlooks_append (row : ρ) : Overlooks (Alike hidden) (append row) :=
  mirrors_change fun t t' htt' => by
    have hadd (t : Tables) : (addRow row t).veil hidden = addRow (Veiled.veil hidden row) (t.veil hidden) :=
      veil_addRow row t
    exact (hadd t).trans (htt' ▸ (hadd t').symm)

/-- Alike rows take the places of alike rows. -/
theorem mirrors_replace {r r' : ρ} (h : Similar hidden r r') :
    Mirrors (Alike hidden) Eq (replace r) (replace r') := by
  intro now db db' hdb
  rw [exec_replace, exec_replace]
  refine ⟨.ok rfl, alike_of_eq ?_ hdb.sequences⟩
  rw [veil_putRow, veil_putRow, h, hdb.tables]

/-- A row with a property that the veil does not hide is found on both sides, or on neither. -/
theorem mirrors_find? {p : ρ → Bool} (h : ∀ r, p (Veiled.veil hidden r) = p r) :
    Mirrors (Alike hidden) (Option.Rel (Similar hidden)) (find? p) (find? p) := by
  refine mirrors_look fun t t' htt' => ?_
  have hfind : ∀ t : Tables, ((Table.rows t : List ρ).find? p).map (Veiled.veil hidden) =
      (Table.rows (t.veil hidden)).find? p := fun t => by
    rw [Veiled.rows_veil, List.find?_map]
    simp only [Function.comp_def, h]
  have heq := (hfind t).trans ((htt' ▸ hfind t').symm)
  generalize (Table.rows t).find? p = r? at heq
  generalize (Table.rows t').find? p = r'? at heq
  cases r? <;> cases r'? <;> simp at heq
  · exact .none
  · exact .some heq

/-- The same new row is refused on both sides, or inserted on both under the same id. -/
theorem overlooks_insert (row : ρ) : Overlooks (Alike hidden) (insert row) := by
  refine (Mirrors.guard rfl unstorable).step fun _ => overlooks_takeId.step fun id => ?_
  refine (Mirrors.guard rfl checkBroken).step fun _ => (overlooks_guardKey _).step fun _ => ?_
  refine (mirrors_guardUnique rfl).step fun _ => (overlooks_guardReferences _).step fun _ => ?_
  exact (overlooks_append _).step fun _ => .pure rfl

end

/-! ## Rows that are kept one by one -/

section

variable [Editable ρ] [VeiledRecord ρ]

open VeiledRecord (entry_veil modifyEntry_veil overwrite_veil overwrite_veil_default)

/-- The veil neither kills nor revives. -/
theorem isLive_veil (r : ρ) : HasEntry.isLive (Veiled.veil hidden r) = HasEntry.isLive r :=
  congrArg Entry.isLive (entry_veil hidden r)

/-- A record is created under the veil as it is without. -/
theorem overlooks_create (given : ρ) : Overlooks (Alike hidden) (create given) :=
  overlooks_insert (draft given)

/-- Alike rows are found, or none. -/
theorem mirrors_find (id : Int) :
    Mirrors (Alike hidden) (Similar hidden) (find ρ id) (find ρ id) :=
  (mirrors_find? fun r => by rw [Veiled.id_veil, isLive_veil]).bind fun _ _ h => .orRefuse h _

theorem mirrors_findAny (id : Int) :
    Mirrors (Alike hidden) (Similar hidden) (findAny ρ id) (findAny ρ id) :=
  (mirrors_find? fun r => by rw [Veiled.id_veil]).bind fun _ _ h => .orRefuse h _

/-- Changes that only hidden digests tell apart come to rows that only hidden digests tell apart. -/
theorem mirrors_update {given given' : ρ} (h : Similar hidden given given') :
    Mirrors (Alike hidden) (Similar hidden) (update given) (update given') := by
  have hdefault : Editable.overwrite given default = Editable.overwrite given' default := by
    rw [← overwrite_veil_default hidden given, h, overwrite_veil_default]
  refine (Mirrors.guard (by rw [hdefault]) unstorable).step fun _ => ?_
  rw [h.id_eq]
  refine (mirrors_find _).bind fun old old' hold => overlooks_now.step fun time => ?_
  have hrow : Similar hidden (HasEntry.modifyEntry (·.touched time) (Editable.overwrite given old))
      (HasEntry.modifyEntry (·.touched time) (Editable.overwrite given' old')) := by
    unfold Similar at h hold ⊢
    rw [← modifyEntry_veil _ _ _ rfl, ← modifyEntry_veil _ _ _ rfl, ← overwrite_veil, ← overwrite_veil, h,
      hold]
  refine (mirrors_guardRow hrow).step fun _ => (mirrors_replace hrow).step fun _ => ?_
  exact .pure hrow

/-- A deletion does not look at digests. -/
theorem overlooks_delete (id : Int) : Overlooks (Alike hidden) (delete ρ id) := by
  refine (mirrors_find id).bind fun row row' hrow => overlooks_now.step fun time => ?_
  refine mirrors_replace ?_
  unfold Similar at hrow ⊢
  rw [← modifyEntry_veil _ _ _ rfl, ← modifyEntry_veil _ _ _ rfl, hrow]

/-- The page of a list, seen through the veil, is the page of the rows seen through the veil. -/
theorem veil_page {keeps : ρ → Bool} {key : ρ → SortKey}
    (hkeeps : ∀ r, keeps (Veiled.veil hidden r) = keeps r)
    (hkey : ∀ r, key (Veiled.veil hidden r) = key r) (direction : Direction) (page : Page)
    (rows : List ρ) :
    (page.slice (sortRows direction key HasEntry.id
        (rows.filter fun r => HasEntry.isLive r && keeps r))).map (Veiled.veil hidden) =
      page.slice (sortRows direction key HasEntry.id
        ((rows.map (Veiled.veil hidden)).filter fun r => HasEntry.isLive r && keeps r)) := by
  have hsort : ∀ rows : List ρ, (sortRows direction key HasEntry.id rows).map (Veiled.veil hidden) =
      sortRows direction key HasEntry.id (rows.map (Veiled.veil hidden)) := fun rows =>
    List.map_mergeSort fun a _ b _ => by simp only [hkey, HasEntry.id, entry_veil]
  rw [Page.slice, Page.slice, List.map_take, List.map_drop, hsort, List.filter_map]
  simp only [Function.comp_def, isLive_veil, hkeeps]

/-- Lists by a column that the veil does not hide show the same rows but for hidden digests. -/
theorem mirrors_list {φ : Type} [Columns ρ] [Filter φ ρ] (filter : φ) (order : ListOrder) (page : Page)
    (hkeeps : ∀ r : ρ, Filter.keeps filter (Veiled.veil hidden r) = Filter.keeps filter r)
    (hkey : ∀ key : ρ → SortKey,
      Columns.column? (String.ofList (order.column.toList.map Char.toLower)) = some key →
        ∀ r, key (Veiled.veil hidden r) = key r) :
    Mirrors (Alike hidden)
      (fun rows rows' : List ρ =>
        rows.map (Veiled.veil hidden) = rows'.map (Veiled.veil hidden))
      (list filter order page) (list filter order page) := by
  refine (Mirrors.guard rfl unstorable).step fun _ => ?_
  rcases hcolumn : (Columns.column? (String.ofList (order.column.toList.map Char.toLower)) :
      Option (ρ → SortKey)) with _ | key
  · exact .refuse noSuchColumn
  have hsame : Option.Rel (fun k k' => k = key ∧ k' = key) (some key) (some key) := .some ⟨rfl, rfl⟩
  refine (Mirrors.orRefuse hsame noSuchColumn).bind ?_
  rintro _ _ ⟨rfl, rfl⟩
  refine mirrors_look fun t t' htt' => ?_
  rw [veil_page hkeeps (hkey _ hcolumn), veil_page hkeeps (hkey _ hcolumn), ← Veiled.rows_veil,
    ← Veiled.rows_veil, htt']

end

/-! ## Rows that are not veiled -/

/-- A kind of row without a digest. -/
class Unveiled (ρ : Type) [Schema ρ] [Veiled ρ] : Prop where
  veil_eq : ∀ hidden (r : ρ), Veiled.veil hidden r = r

instance : Unveiled Keeper := ⟨fun _ _ => rfl⟩
instance : Unveiled Seeker := ⟨fun _ _ => rfl⟩
instance : Unveiled Vet := ⟨fun _ _ => rfl⟩
instance : Unveiled Post := ⟨fun _ _ => rfl⟩
instance : Unveiled Review := ⟨fun _ _ => rfl⟩
instance : Unveiled Message := ⟨fun _ _ => rfl⟩
instance : Unveiled Report := ⟨fun _ _ => rfl⟩
instance : Unveiled Session := ⟨fun _ _ => rfl⟩

section

variable [Schema ρ] [Veiled ρ] [Unveiled ρ]

/-- There is nothing to hide in rows of this kind. -/
theorem veil_eq_id : (Veiled.veil hidden : ρ → ρ) = id := funext fun r => Unveiled.veil_eq hidden r

/-- Rows of this kind that are alike are the same. -/
theorem Similar.eq {r r' : ρ} (h : Similar hidden r r') : r = r' := by
  rw [← Unveiled.veil_eq hidden r, h, Unveiled.veil_eq]

/-- What is done to a table without digests does not depend on any digest. -/
theorem overlooks_setRows (f : List ρ → List ρ) :
    Overlooks (Alike hidden) (change fun t => Table.setRows (f (Table.rows t)) t) :=
  overlooks_change fun t => by
    rw [Veiled.setRows_veil, Veiled.rows_veil, veil_eq_id, List.map_id, List.map_id]

/-- Rows of this kind are changed under the veil as they are without. -/
theorem overlooks_updateWhere (p : ρ → Bool) (f : ρ → ρ) :
    Overlooks (Alike hidden) (updateWhere p f) :=
  overlooks_setRows fun rows => rows.map fun r => if p r then f r else r

theorem overlooks_eraseWhere (p : ρ → Bool) : Overlooks (Alike hidden) (eraseWhere p) :=
  overlooks_setRows fun rows => rows.filter fun r => !p r

end

/-- Memberships hold no digests. -/
theorem overlooks_changeMembers {f : Tables → List Membership} (h : ∀ t, f (t.veil hidden) = f t) :
    Overlooks (Alike hidden) (change fun t => { t with members := f t }) :=
  overlooks_change fun t => by rw [h t]; rfl

/-- Marks hold no digests. -/
theorem overlooks_changeFavourites {f : Tables → List Favourite} (h : ∀ t, f (t.veil hidden) = f t) :
    Overlooks (Alike hidden) (change fun t => { t with favourites := f t }) :=
  overlooks_change fun t => by rw [h t]; rfl

section

variable [Editable ρ] [VeiledRecord ρ] [Unveiled ρ]

/-- A row with nothing to hide is found as it is. -/
theorem overlooks_find (ρ : Type) [Editable ρ] [VeiledRecord ρ] [Unveiled ρ] (id : Int) :
    Overlooks (Alike hidden) (find ρ id) :=
  (mirrors_find id).mono fun _ _ => Similar.eq

theorem overlooks_update (given : ρ) : Overlooks (Alike hidden) (update given) :=
  (mirrors_update rfl).mono fun _ _ => Similar.eq

/-- A call on rows without a digest does not tell databases apart that are alike. -/
theorem overlooks_records {φ : Type} [Columns ρ] [Filter φ ρ] (call : Store.RecordCall ρ φ) :
    letI := records ρ φ
    (call.perform : Op Database call.Result).Overlooks (Alike hidden) := by
  cases call with
  | create given => exact overlooks_create given
  | find id => exact overlooks_find ρ id
  | findAny id => exact (mirrors_findAny (ρ := ρ) id).mono fun _ _ => Similar.eq
  | list filter order page =>
      refine (mirrors_list (ρ := ρ) filter order page ?_ ?_).mono fun rows rows' h => ?_
      · intro r
        rw [Unveiled.veil_eq]
      · intro key _ r
        rw [Unveiled.veil_eq]
      · rw [veil_eq_id, List.map_id, List.map_id] at h
        exact h
  | update given => exact overlooks_update given
  | delete id => exact overlooks_delete (ρ := ρ) id

end

/-! ## Calls -/

/-- A rating is worked out without a look at digests. -/
theorem overlooks_refreshRating (keeperId : Int) : Overlooks (Alike hidden) (refreshRating keeperId) :=
  (overlooks_look fun _ => rfl).step fun _ => overlooks_now.step fun _ => overlooks_updateWhere _ _

/-- Reviews are written without a look at digests. -/
theorem overlooks_reviews (call : Store.RecordCall Review ReviewFilter) :
    (call.perform : Op Database call.Result).Overlooks (Alike hidden) := by
  cases call with
  | create given =>
      refine mirrors_atomically ((overlooks_find Keeper _).step fun _ => ?_)
      exact (overlooks_create given).step fun _ => (overlooks_refreshRating _).step fun _ => .pure rfl
  | find id => exact overlooks_find Review id
  | findAny id => exact overlooks_records (.findAny id)
  | list filter order page => exact overlooks_records (.list filter order page)
  | update given =>
      refine mirrors_atomically ((overlooks_update given).step fun _ => ?_)
      exact (overlooks_refreshRating _).step fun _ => .pure rfl
  | delete id =>
      refine mirrors_atomically ((overlooks_find Review id).step fun _ => ?_)
      exact (overlooks_delete id).step fun _ => overlooks_refreshRating _

/-- A report is filed without a look at digests. -/
theorem overlooks_fileReport (report : Report) (threshold : Int) :
    Overlooks (Alike hidden) (fileReport report threshold) := by
  refine mirrors_atomically ((overlooks_look fun _ => rfl).step fun _ => ?_)
  refine (Mirrors.guard rfl _).step fun _ => (overlooks_insert _).step fun _ => ?_
  refine (overlooks_look fun _ => rfl).step fun _ => overlooks_now.step fun _ => ?_
  exact (overlooks_updateWhere _ _).step fun _ => .pure rfl

/-- A post is approved without a look at digests. -/
theorem overlooks_approvePost (id : Int) : Overlooks (Alike hidden) (approvePost id) := by
  refine mirrors_atomically ((overlooks_find Post id).step fun _ => (Mirrors.guard rfl _).step fun _ => ?_)
  refine (overlooks_eraseWhere _).step fun _ => overlooks_now.step fun _ => ?_
  exact (mirrors_replace rfl).step fun _ => .pure rfl

/-- A post is blocked without a look at digests. -/
theorem overlooks_blockPost (id : Int) : Overlooks (Alike hidden) (blockPost id) :=
  (overlooks_find Post id).step fun _ => overlooks_now.step fun _ =>
    (mirrors_replace rfl).step fun _ => .pure rfl

/-- Live users are counted by their ids. -/
theorem countLiveUsers_veil (t : Tables) (ids : List Int) :
    countLiveUsers (t.veil hidden) ids = countLiveUsers t ids := by
  simp only [countLiveUsers, Tables.users_veil, List.filter_map, Function.comp_def, User.entry_veil,
    List.length_map]

/-- A chat is created without a look at digests: its members only have to be live. -/
theorem overlooks_createChat (given : Chat) (ids : List Int) :
    Overlooks (Alike hidden) (createChat given ids) := by
  refine mirrors_atomically ((overlooks_look fun t => countLiveUsers_veil t ids).step fun _ => ?_)
  refine (Mirrors.guard rfl _).step fun _ => (overlooks_insert _).step fun _ => ?_
  exact overlooks_now.step fun _ => (overlooks_changeMembers fun _ => rfl).step fun _ => .pure rfl

/-- A member leaves without a look at digests. -/
theorem overlooks_removeMember (chatId userId : Int) :
    Overlooks (Alike hidden) (removeMember chatId userId) := by
  refine mirrors_atomically ((overlooks_look fun _ => rfl).step fun chat? => ?_)
  rcases chat? with _ | chat
  · exact .refuse _
  refine Mirrors.step (.pure rfl) fun _ => (overlooks_look fun _ => rfl).step fun _ => ?_
  refine (Mirrors.guard rfl _).step fun _ => (overlooks_changeMembers fun _ => rfl).step fun _ => ?_
  refine (overlooks_look fun _ => rfl).step fun _ => overlooks_now.step fun _ => ?_
  exact mirrors_replace rfl

/-- A live chat is found without a look at digests. -/
theorem overlooks_findChat (id : Int) : Overlooks (Alike hidden) (findChat id) := by
  refine (overlooks_look fun _ => rfl).step fun chat? => ?_
  rcases chat? with _ | chat
  · exact .refuse _
  · exact Mirrors.step (.pure rfl) fun _ => overlooks_look fun _ => rfl

/-- Any chat is found without a look at digests. -/
theorem overlooks_findAnyChat (id : Int) : Overlooks (Alike hidden) (findAnyChat id) := by
  refine (overlooks_look fun _ => rfl).step fun chat? => ?_
  rcases chat? with _ | chat
  · exact .refuse _
  · exact Mirrors.step (.pure rfl) fun _ => overlooks_look fun _ => rfl

/-- A session is put in place without a look at digests of passwords. -/
theorem overlooks_upsertSession (given : Session) :
    Overlooks (Alike hidden) (upsertSession given) := by
  refine (Mirrors.guard rfl _).step fun _ => overlooks_takeId.step fun _ => ?_
  refine overlooks_now.step fun _ => (overlooks_look fun _ => rfl).step fun old? => ?_
  rcases old? with _ | old
  · refine (overlooks_guardKey _).step fun _ => (mirrors_guardRow rfl).step fun _ => ?_
    refine (overlooks_guardReferences _).step fun _ => (overlooks_append _).step fun _ => .pure rfl
  · exact (mirrors_guardRow rfl).step fun _ => (mirrors_replace rfl).step fun _ => .pure rfl

/-- A session is taken without one. -/
theorem overlooks_takeSession (hash : String) : Overlooks (Alike hidden) (takeSession hash) := by
  refine (Mirrors.guard rfl _).step fun _ => overlooks_now.step fun _ => ?_
  refine (overlooks_look fun _ => rfl).step fun _ => ?_
  exact (overlooks_eraseWhere _).step fun _ => .pure rfl

/-- A session is deleted without one. -/
theorem overlooks_deleteSession (userId : Int) (fingerprint : String) :
    Overlooks (Alike hidden) (deleteSession userId fingerprint) := by
  refine (Mirrors.guard rfl _).step fun _ => (overlooks_look fun _ => rfl).step fun _ => ?_
  exact (overlooks_eraseWhere _).step fun _ => .pure rfl

/-- A keeper is marked without one. -/
theorem overlooks_addFavourite (userId keeperId : Int) :
    Overlooks (Alike hidden) (addFavourite userId keeperId) := by
  refine (overlooks_find Keeper keeperId).step fun _ => (overlooks_look fun _ => rfl).step fun mark? => ?_
  rcases mark? with _ | mark
  case some => exact .pure rfl
  refine (overlooks_look fun t => Schema.missingUser?_veil hidden t _ _ _).step fun missing? => ?_
  rcases missing? with _ | reference
  case some => exact .refuse _
  exact overlooks_now.step fun _ => (overlooks_changeFavourites fun _ => rfl).step fun _ => .pure rfl

/-- A mark is taken away without one. -/
theorem overlooks_removeFavourite (userId keeperId : Int) :
    Overlooks (Alike hidden) (removeFavourite userId keeperId) :=
  (overlooks_look fun _ => rfl).step fun _ => (Mirrors.guard rfl _).step fun _ =>
    overlooks_changeFavourites fun _ => rfl

end Database

/-- Whether a call gives out rows of users as they are stored. -/
def Store.Call.givesUsers : Store.Call → Bool
  | user (.create _) | user (.delete _) => false
  | user _ | userByName _ => true
  | _ => false

/-- **A call that gives out no rows of users does not tell databases apart that are alike.** -/
theorem Database.overlooks_perform {hidden : Int → Bool} (call : Store.Call) (h : call.givesUsers = false) :
    (call.perform : Op Database call.Result).Overlooks (Alike hidden) := by
  cases call with
  | user call =>
      cases call with
      | create given => exact overlooks_create given
      | delete id => exact overlooks_delete (ρ := User) id
      | find id => cases h
      | findAny id => cases h
      | list filter order page => cases h
      | update given => cases h
  | userByName name => cases h
  | keeper call => exact overlooks_records call
  | seeker call => exact overlooks_records call
  | vet call => exact overlooks_records call
  | keeperOf userId => exact overlooks_look fun _ => rfl
  | seekerOf userId => exact overlooks_look fun _ => rfl
  | vetOf userId => exact overlooks_look fun _ => rfl
  | post call => exact overlooks_records call
  | fileReport report threshold => exact overlooks_fileReport report threshold
  | reportsOn postId => exact overlooks_look fun _ => rfl
  | countReports postId => exact overlooks_look fun _ => rfl
  | moderationQueue page => exact overlooks_look fun _ => rfl
  | approvePost id => exact overlooks_approvePost id
  | blockPost id => exact overlooks_blockPost id
  | review call => exact overlooks_reviews call
  | createChat chat memberIds => exact overlooks_createChat chat memberIds
  | findChat id => exact overlooks_findChat id
  | findAnyChat id => exact overlooks_findAnyChat id
  | chatsOf userId page => exact overlooks_look fun _ => rfl
  | isMember chatId userId => exact overlooks_look fun _ => rfl
  | removeMember chatId userId => exact overlooks_removeMember chatId userId
  | message call => exact overlooks_records call
  | upsertSession session => exact overlooks_upsertSession session
  | findSession hash =>
      exact (Mirrors.guard rfl _).step fun _ => overlooks_now.step fun _ => overlooks_look fun _ => rfl
  | takeSession hash => exact overlooks_takeSession hash
  | deleteSession userId fingerprint => exact overlooks_deleteSession userId fingerprint
  | addFavourite userId keeperId => exact overlooks_addFavourite userId keeperId
  | removeFavourite userId keeperId => exact overlooks_removeFavourite userId keeperId
  | favouritesOf userId page => exact overlooks_look fun _ => rfl
  | reachable => exact .pure rfl

end Fostering
