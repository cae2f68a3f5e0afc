import Fostering.Proofs.Chats.Membership
import Fostering.Proofs.Listing.Pages
import Fostering.Proofs.Listing.Precedence
import Fostering.Proofs.Requests.Answers

/-!
# Lists, page by page

Every list of a database shows certain rows, each once, one strictly after another, and its pages are the
stretches of these rows that they ask for (`Lists`). So whoever asks for page after page until one is empty
gets all of them. A list that is sorted by a column has the same rows in both directions, the one way round
and the other.

* `PostFilter.keeps_iff` and the like: which rows a filter keeps.
* `lists_sorted`: a list in the order of a column.
* `lists_chats`, `lists_favourites`, `lists_queue`: the lists that have one order.
* `lists_in_pages`: all lists of a database.
-/

namespace Fostering

open Database
open SortKey (Precedes)

/-! ## Filters -/

/-- A row has the wanted value, if one is wanted. -/
def Wants {α : Type} (wanted : Option α) (value : α) : Prop := ∀ w ∈ wanted, value = w

/-- A filter takes a value if none is wanted, or this one. -/
theorem Filter.agrees_iff {α : Type} [DecidableEq α] {wanted : Option α} {value : α} :
    Filter.agrees wanted value = true ↔ Wants wanted value := by
  cases wanted <;> simp [Filter.agrees, Wants]

/-- A value that is absent is never the wanted one. -/
theorem Filter.agrees?_iff {α : Type} [DecidableEq α] {wanted value : Option α} :
    Filter.agrees? wanted value = true ↔ Wants (wanted.map some) value := by
  cases wanted <;> simp [Filter.agrees?, Wants]

/-- The city is the wanted one. -/
def UserFilter.Matches (f : UserFilter) (u : User) : Prop := Wants (f.city.map some) u.city

/-- The filter of users keeps those whom it asks for. -/
theorem UserFilter.keeps_iff {f : UserFilter} {u : User} : Filter.keeps f u = true ↔ f.Matches u :=
  Filter.agrees?_iff

/-- The city is the wanted one, there is a cage or none as wanted, and the rating is not below the wanted
one. -/
structure KeeperFilter.Matches (f : KeeperFilter) (k : Keeper) : Prop where
  city : Wants (f.city.map some) k.city
  hasCage : Wants f.hasCage k.hasCage
  rating : ∀ least ∈ f.minRating, ¬Binary64.Below k.rating least

theorem KeeperFilter.keeps_iff {f : KeeperFilter} {k : Keeper} :
    Filter.keeps f k = true ↔ f.Matches k := by
  change (Filter.agrees? f.city k.city && Filter.agrees f.hasCage k.hasCage
    && f.minRating.all (·.le k.rating)) = true ↔ _
  have hrating : f.minRating.all (·.le k.rating) = true ↔
      ∀ least ∈ f.minRating, ¬Binary64.Below k.rating least := by
    simp only [Option.all_eq_true, Binary64.below_iff, Bool.not_eq_false]
    exact Iff.rfl
  rw [Bool.and_eq_true, Bool.and_eq_true, Filter.agrees?_iff, Filter.agrees_iff, hrating]
  exact ⟨fun h => ⟨h.1.1, h.1.2, h.2⟩, fun h => ⟨⟨h.city, h.hasCage⟩, h.rating⟩⟩

/-- The city and the kind of animal are the wanted ones. -/
structure SeekerFilter.Matches (f : SeekerFilter) (s : Seeker) : Prop where
  city : Wants (f.city.map some) s.city
  animalType : Wants (f.animalType.map some) s.animalType

theorem SeekerFilter.keeps_iff {f : SeekerFilter} {s : Seeker} :
    Filter.keeps f s = true ↔ f.Matches s := by
  change (Filter.agrees? f.city s.city && Filter.agrees? f.animalType s.animalType) = true ↔ _
  rw [Bool.and_eq_true, Filter.agrees?_iff, Filter.agrees?_iff]
  exact ⟨fun h => ⟨h.1, h.2⟩, fun h => ⟨h.city, h.animalType⟩⟩

/-- The city and the specialization are the wanted ones. -/
structure VetFilter.Matches (f : VetFilter) (v : Vet) : Prop where
  city : Wants (f.city.map some) v.city
  specialization : Wants (f.specialization.map some) v.specialization

theorem VetFilter.keeps_iff {f : VetFilter} {v : Vet} : Filter.keeps f v = true ↔ f.Matches v := by
  change (Filter.agrees? f.city v.city && Filter.agrees? f.specialization v.specialization) = true ↔ _
  rw [Bool.and_eq_true, Filter.agrees?_iff, Filter.agrees?_iff]
  exact ⟨fun h => ⟨h.1, h.2⟩, fun h => ⟨h.city, h.specialization⟩⟩

/-- Author, status, city and kind of animal are the wanted ones, and the post is published or by the user
to whose view the list is kept. -/
structure PostFilter.Matches (f : PostFilter) (p : Post) : Prop where
  authorId : Wants f.authorId p.authorId
  status : Wants f.status p.status
  city : Wants (f.city.map some) p.city
  animalType : Wants (f.animalType.map some) p.animalType
  visible : ∀ viewer ∈ f.visibleTo, p.status = PostStatus.published.name ∨ p.authorId = viewer

theorem PostFilter.keeps_iff {f : PostFilter} {p : Post} : Filter.keeps f p = true ↔ f.Matches p := by
  change (Filter.agrees f.authorId p.authorId && Filter.agrees f.status p.status
    && Filter.agrees? f.city p.city && Filter.agrees? f.animalType p.animalType
    && f.visibleTo.all fun viewer => p.status = PostStatus.published.name || p.authorId = viewer) = true ↔ _
  have hvisible : (f.visibleTo.all fun viewer =>
        p.status = PostStatus.published.name || p.authorId = viewer) = true ↔
      ∀ viewer ∈ f.visibleTo, p.status = PostStatus.published.name ∨ p.authorId = viewer := by
    simp only [Option.all_eq_true, Bool.or_eq_true, decide_eq_true_eq]
    exact Iff.rfl
  rw [Bool.and_eq_true, Bool.and_eq_true, Bool.and_eq_true, Bool.and_eq_true, Filter.agrees_iff,
    Filter.agrees_iff, Filter.agrees?_iff, Filter.agrees?_iff, hvisible]
  exact ⟨fun h => ⟨h.1.1.1.1, h.1.1.1.2, h.1.1.2, h.1.2, h.2⟩,
    fun h => ⟨⟨⟨⟨h.authorId, h.status⟩, h.city⟩, h.animalType⟩, h.visible⟩⟩

/-- The review is of the keeper. -/
def ReviewFilter.Matches (f : ReviewFilter) (r : Review) : Prop := r.keeperId = f.keeperId

/-- Reviews are listed by their keeper. -/
theorem ReviewFilter.keeps_iff {f : ReviewFilter} {r : Review} :
    Filter.keeps f r = true ↔ f.Matches r := decide_eq_true_iff

/-- The message is in the chat. -/
def MessageFilter.Matches (f : MessageFilter) (m : Message) : Prop := m.chatId = f.chatId

/-- Messages are listed by their chat. -/
theorem MessageFilter.keeps_iff {f : MessageFilter} {m : Message} :
    Filter.keeps f m = true ↔ f.Matches m := decide_eq_true_iff

/-! ## Lists -/

section

variable {α : Type} {read : Page → Op Database (List α)} {db : Database} {shown : α → Prop}
  {precedes : α → α → Prop} {rows : List α}

/-- A list shows the rows with a property, each once and one after another, and its pages are the stretches
of these rows that they ask for. -/
structure Lists (read : Page → Op Database (List α)) (db : Database) (shown : α → Prop)
    (precedes : α → α → Prop) (rows : List α) : Prop where
  mem_iff : ∀ r, r ∈ rows ↔ shown r
  nodup : rows.Nodup
  ordered : rows.Pairwise precedes
  page : ∀ page now, (read page).exec now db = (.ok (page.slice rows), db)
  /-- Read page after page until one is empty, the pages are the rows. -/
  pages : ∀ limit offset : Option Int, ∃ (found : Nat → List α) (count : Nat),
    (∀ n now, (read (Page.nth (Page.ofRequest limit offset).limit n)).exec now db = (.ok (found n), db)) ∧
      (∀ n, found n = [] ↔ count ≤ n) ∧ (List.range count).flatMap found = rows
  short : ∀ (limit offset : Option Int) (now : Instant) (found : List α),
    ((read (Page.ofRequest limit offset)).exec now db).1 = .ok found →
      (found.length : Int) ≤ (Page.ofRequest limit offset).limit

/-- Where every page is a stretch of the rows, reading page after page gives the rows. -/
theorem lists_of_page (hpage : ∀ page now, (read page).exec now db = (.ok (page.slice rows), db))
    (hmem : ∀ r, r ∈ rows ↔ shown r) (hnodup : rows.Nodup) (hordered : rows.Pairwise precedes) :
    Lists read db shown precedes rows where
  mem_iff := hmem
  nodup := hnodup
  ordered := hordered
  page := hpage
  pages limit offset := by
    obtain ⟨count, hempty, hall⟩ := Page.exists_count (Page.one_le_limit_ofRequest limit offset) rows
    exact ⟨fun n => (Page.nth (Page.ofRequest limit offset).limit n).slice rows, count,
      fun n now => hpage _ now, hempty, hall⟩
  short limit offset now found hfound := by
    rw [hpage] at hfound
    cases hfound
    have hlength := Page.length_slice_le (Page.ofRequest limit offset) rows
    have hpositive := Page.one_le_limit_ofRequest limit offset
    omega

/-- Rows with ids of their own are a list once they are sorted. -/
theorem lists_sortRows {direction : Direction} {key : α → SortKey} {id : α → Int} {kept : List α}
    (hpage : ∀ page now, (read page).exec now db =
      (.ok (page.slice (sortRows direction key id kept)), db))
    (hkept : ∀ r, r ∈ kept ↔ shown r) (hids : (kept.map id).Nodup) :
    Lists read db shown (fun r s => Precedes direction (key r, id r) (key s, id s))
      (sortRows direction key id kept) := by
  refine lists_of_page hpage (fun r => ?_) ?_ ?_
  · rw [mem_sortRows, hkept]
  · exact (nodup_sortRows key direction hids).of_map _
  · exact pairwise_precedes_sortRows key direction hids

/-- Two ways to ask for the same pages of the same rows. -/
theorem Lists.congr {read' : Page → Op Database (List α)} {shown' : α → Prop}
    (h : Lists read db shown precedes rows)
    (hread : ∀ page now, (read' page).exec now db = (read page).exec now db)
    (hshown : ∀ r, shown r ↔ shown' r) : Lists read' db shown' precedes rows :=
  lists_of_page (fun page now => (hread page now).trans (h.page page now))
    (fun r => (h.mem_iff r).trans (hshown r)) h.nodup h.ordered

end

/-! ## Lists in the order of a column -/

section

variable {ρ φ : Type} [Table ρ] [HasEntry ρ] [Columns ρ] [Filter φ ρ] {db : Database}

/-- A list that is sorted by one of some columns shows the live rows that match the filter, in the order of
the column and of the ids. -/
def ListsSorted (fields : List String) (Matches : φ → ρ → Prop) (db : Database)
    (read : φ → ListOrder → Page → Op Database (List ρ)) : Prop :=
  ∀ filter : φ, (∀ text ∈ Filter.texts ρ filter, '\x00' ∉ text.toList) →
    ∀ (text : Option String) (defaults : DefaultOrder) (order : ListOrder),
      ListOrder.resolve text fields defaults = .ok order →
        ∃ (key : ρ → SortKey) (rows : Direction → List ρ), Columns.column? order.column = some key ∧
          (∀ direction, Lists (read filter ⟨order.column, direction⟩) db
            (fun r => r ∈ (Table.rows db.tables : List ρ) ∧ HasEntry.isLive r = true ∧ Matches filter r)
            (fun r s => Precedes direction (key r, HasEntry.id r) (key s, HasEntry.id s))
            (rows direction)) ∧
          rows .desc = (rows .asc).reverse

/-- What a list in the order of a column gives. -/
theorem exec_list {filter : φ} {column : String} {key : ρ → SortKey}
    (htexts : ∀ text ∈ Filter.texts ρ filter, '\x00' ∉ text.toList)
    (hkey : Columns.column? (String.ofList (column.toList.map Char.toLower)) = some key)
    (direction : Direction) (page : Page) (now : Instant) :
    (Database.list filter ⟨column, direction⟩ page).exec now db =
      (.ok (page.slice (sortRows direction key HasEntry.id ((Table.rows db.tables).filter
        fun r => HasEntry.isLive r && Filter.keeps filter r))), db) := by
  have hstorable : (Filter.texts ρ filter).all isStorableText = true := by
    refine List.all_eq_true.mpr fun text htext => ?_
    rw [isStorableText, Bool.not_eq_true', ← Bool.not_eq_true, List.contains_iff_mem]
    exact htexts text htext
  have hguard := Op.exec_guard_of_true hstorable unstorable now db
  unfold Database.list
  rw [Op.exec_bind_ok hguard, hkey, Op.exec_bind_ok (Op.exec_orRefuse_some noSuchColumn key now db)]
  rfl

/-- **A list in the order of a column.** -/
theorem lists_sorted {fields : List String} {Matches : φ → ρ → Prop} (hcolumns : HasColumns ρ fields)
    (hlower : ∀ column ∈ fallbackColumn :: fields, String.ofList (column.toList.map Char.toLower) = column)
    (hmatches : ∀ {f : φ} {r : ρ}, Filter.keeps f r = true ↔ Matches f r)
    (hids : ((Table.rows db.tables : List ρ).map HasEntry.id).Nodup) :
    ListsSorted fields Matches db Database.list := by
  intro filter htexts text defaults order horder
  have hmem := ListOrder.column_mem_of_resolve horder
  obtain ⟨key, hkey⟩ := Option.isSome_iff_exists.mp (hcolumns order.column hmem)
  let kept : List ρ := (Table.rows db.tables).filter fun r => HasEntry.isLive r && Filter.keeps filter r
  have hkept : (kept.map HasEntry.id).Nodup := hids.sublist (List.filter_sublist.map _)
  have hrows (r : ρ) : r ∈ kept ↔
      r ∈ (Table.rows db.tables : List ρ) ∧ HasEntry.isLive r = true ∧ Matches filter r := by
    rw [List.mem_filter, Bool.and_eq_true, hmatches]
  refine ⟨key, fun direction => sortRows direction key HasEntry.id kept, ?_, fun direction => ?_,
    sortRows_desc key hkept⟩
  · rw [← hlower order.column hmem]
    exact hkey
  · exact lists_sortRows (fun page now => exec_list htexts hkey direction page now) hrows hkept

end

/-! ## Lists that have one order -/

section

variable {db : Database}

/-- The posts for moderators. -/
theorem lists_queue (hids : (ids Post db.tables).Nodup) :
    ∃ rows, Lists Database.moderationQueue db
      (fun p => p ∈ db.tables.posts ∧ p.entry.isLive = true ∧ 0 < p.reportsCount)
      (fun p q => Precedes .desc (.int p.reportsCount, p.entry.id) (.int q.reportsCount, q.entry.id))
      rows := by
  let kept : List Post := db.tables.posts.filter fun p => p.entry.isLive && 0 < p.reportsCount
  have hkept : (kept.map HasEntry.id).Nodup := hids.sublist (List.filter_sublist.map _)
  refine ⟨sortRows .desc (fun p => .int p.reportsCount) HasEntry.id kept,
    lists_sortRows (fun _ _ => rfl) (fun p => ?_) hkept⟩
  rw [List.mem_filter, Bool.and_eq_true, decide_eq_true_eq]

/-- The chats of a user. -/
theorem lists_chats (hids : (ids Chat db.tables).Nodup) (userId : Int) :
    ∃ rows, Lists (Database.listChats userId) db
      (fun c => c.chat ∈ db.tables.chats ∧ c.chat.entry.isLive = true ∧
        c.memberIds = memberIds db.tables c.chat.entry.id ∧ userId ∈ c.memberIds)
      (fun c d => Precedes .desc (.moment c.chat.entry.updatedAt, c.chat.entry.id)
        (.moment d.chat.entry.updatedAt, d.chat.entry.id)) rows := by
  let kept : List Chat :=
    db.tables.chats.filter fun c => c.entry.isLive && isMember db.tables c.entry.id userId
  let sorted : List Chat := sortRows .desc (fun c => .moment c.entry.updatedAt) HasEntry.id kept
  let withUsers (c : Chat) : ChatWithMembers := ⟨c, memberIds db.tables c.entry.id⟩
  have hkept : (kept.map HasEntry.id).Nodup := hids.sublist (List.filter_sublist.map _)
  have hsorted : sorted.Nodup := (nodup_sortRows _ .desc hkept).of_map _
  have hrows (chat : Chat) : chat ∈ sorted ↔ chat ∈ db.tables.chats ∧ chat.entry.isLive = true ∧
      userId ∈ memberIds db.tables chat.entry.id := by
    rw [mem_sortRows, List.mem_filter, Bool.and_eq_true, isMember_iff]
  refine ⟨sorted.map withUsers, lists_of_page (fun page _ => ?_) (fun c => ?_) ?_ ?_⟩
  · rw [Page.slice_map]
    rfl
  · rw [List.mem_map]
    constructor
    · rintro ⟨chat, hchat, rfl⟩
      obtain ⟨hmem, hlive, hpart⟩ := (hrows chat).mp hchat
      exact ⟨hmem, hlive, rfl, hpart⟩
    · rcases c with ⟨chat, users⟩
      rintro ⟨hmem, hlive, hmembers, hpart⟩
      obtain rfl : users = memberIds db.tables chat.entry.id := hmembers
      exact ⟨chat, (hrows chat).mpr ⟨hmem, hlive, hpart⟩, rfl⟩
  · exact hsorted.map fun _ _ heq => congrArg ChatWithMembers.chat heq
  · exact List.pairwise_map.mpr (pairwise_precedes_sortRows _ .desc hkept)

/-- A mark leads to one keeper at most, the one that it is on. -/
theorem ids_markedKeepers_sublist (hids : (ids Keeper db.tables).Nodup) (favourites : List Favourite) :
    ((favourites.flatMap fun f =>
      (db.tables.keepers.filter fun k => k.entry.id = f.keeperId && k.entry.isLive).map
        fun k => (f.createdAt, k)).map fun p => p.2.entry.id).Sublist
      (favourites.map Favourite.keeperId) := by
  induction favourites with
  | nil => exact .slnil
  | cons f favourites ih =>
      let found : List Keeper :=
        db.tables.keepers.filter fun k => k.entry.id = f.keeperId && k.entry.isLive
      have hone : (found.map fun k => k.entry.id).Sublist [f.keeperId] := by
        have hnodup : (found.map fun k => k.entry.id).Nodup :=
          hids.sublist (List.filter_sublist.map _)
        have hsame : ∀ id ∈ found.map fun k => k.entry.id, id = f.keeperId := by
          intro id hid
          obtain ⟨k, hk, rfl⟩ := List.mem_map.mp hid
          exact of_decide_eq_true (Bool.and_eq_true_iff.mp (List.mem_filter.mp hk).2).1
        have hreplicate := List.eq_replicate_of_mem hsame
        rw [hreplicate, List.nodup_replicate] at hnodup
        rw [hreplicate]
        exact (List.replicate_sublist_replicate _).mpr hnodup
      rw [List.flatMap_cons, List.map_append, List.map_map, List.map_cons]
      exact hone.append ih

/-- The marked keepers are those who are live, each since they were marked. -/
theorem mem_markedKeepers {t : Tables} {userId : Int} {marked : Instant × Keeper} :
    marked ∈ markedKeepers t userId ↔ ∃ f ∈ t.favourites, isMark userId marked.2.entry.id f = true ∧
      f.createdAt = marked.1 ∧ marked.2 ∈ t.keepers ∧ marked.2.entry.isLive = true := by
  simp only [markedKeepers, isMark, List.mem_flatMap, List.mem_filter, List.mem_map, Bool.and_eq_true,
    decide_eq_true_eq]
  constructor
  · rintro ⟨f, ⟨hf, huser⟩, k, ⟨hk, hid, hlive⟩, rfl⟩
    exact ⟨f, hf, ⟨huser, hid.symm⟩, rfl, hk, hlive⟩
  · rintro ⟨f, hf, ⟨huser, hid⟩, hat, hk, hlive⟩
    exact ⟨f, ⟨hf, huser⟩, marked.2, ⟨hk, hid.symm, hlive⟩, Prod.ext hat rfl⟩

/-- A user marks a keeper once, so a keeper is among those that the user marked once. -/
theorem nodup_markedKeepers (h : IsUnique db.tables) (userId : Int) :
    ((markedKeepers db.tables userId).map fun p => p.2.entry.id).Nodup := by
  let own : List Favourite := db.tables.favourites.filter fun f => f.userId = userId
  have hown : own.Nodup := (h.favourites.of_map _).filter _
  have hmarks : (own.map Favourite.keeperId).Nodup := by
    refine hown.map_on fun f hf g hg hkeeper => ?_
    obtain ⟨hf, hfuser⟩ := List.mem_filter.mp hf
    obtain ⟨hg, hguser⟩ := List.mem_filter.mp hg
    have huser : f.userId = g.userId := (of_decide_eq_true hfuser).trans (of_decide_eq_true hguser).symm
    exact List.inj_on_of_nodup_map h.favourites hf hg (Prod.ext huser hkeeper)
  exact hmarks.sublist (ids_markedKeepers_sublist (h.ids .keepers) own)

/-- The favourite keepers of a user. -/
theorem lists_favourites (h : IsUnique db.tables) (userId : Int) :
    ∃ rows, Lists (Database.listFavourites userId) db
      (fun k => k ∈ db.tables.keepers ∧ k.entry.isLive = true ∧
        ∃ f ∈ db.tables.favourites, isMark userId k.entry.id f = true)
      (fun k l => ∃ f ∈ db.tables.favourites, ∃ g ∈ db.tables.favourites,
        isMark userId k.entry.id f = true ∧ isMark userId l.entry.id g = true ∧
          Precedes .desc (.moment f.createdAt, k.entry.id) (.moment g.createdAt, l.entry.id)) rows := by
  -- the list is made of pairs of a keeper and the instant of the mark, which are sorted before the
  -- instants are dropped
  let marked : List (Instant × Keeper) := markedKeepers db.tables userId
  let sorted : List (Instant × Keeper) :=
    sortRows .desc (fun p => .moment p.1) (fun p => p.2.entry.id) marked
  have hmarked := nodup_markedKeepers h userId
  have hsorted : (sorted.map fun p => p.2.entry.id).Nodup := nodup_sortRows _ .desc hmarked
  refine ⟨sorted.map Prod.snd, lists_of_page (fun page _ => ?_) (fun k => ?_) ?_ ?_⟩
  · rw [Page.slice_map]
    rfl
  · rw [List.mem_map]
    constructor
    · rintro ⟨p, hp, rfl⟩
      obtain ⟨f, hf, hmark, -, hk, hlive⟩ := mem_markedKeepers.mp ((mem_sortRows _ _ _ _).mp hp)
      exact ⟨hk, hlive, f, hf, hmark⟩
    · rintro ⟨hk, hlive, f, hf, hmark⟩
      exact ⟨(f.createdAt, k),
        (mem_sortRows _ _ _ _).mpr (mem_markedKeepers.mpr ⟨f, hf, hmark, rfl, hk, hlive⟩), rfl⟩
  · have hkeepers : ((sorted.map Prod.snd).map fun k => k.entry.id).Nodup := by
      rw [List.map_map]
      exact hsorted
    exact hkeepers.of_map _
  · refine List.pairwise_map.mpr ((pairwise_precedes_sortRows _ .desc hmarked).imp_of_mem ?_)
    intro p q hp hq hprecedes
    obtain ⟨f, hf, hfmark, hfat, -⟩ := mem_markedKeepers.mp ((mem_sortRows _ _ _ _).mp hp)
    obtain ⟨g, hg, hgmark, hgat, -⟩ := mem_markedKeepers.mp ((mem_sortRows _ _ _ _).mp hq)
    exact ⟨f, hf, g, hg, hfmark, hgmark, hfat ▸ hgat ▸ hprecedes⟩

end

/-! ## All lists -/

/-- Every list of a database shows what it has to show, in order and page by page. -/
structure ListsInPages (db : Database) : Prop where
  users : ListsSorted User.sortFields UserFilter.Matches db Store.Records.list
  keepers : ListsSorted Keeper.sortFields KeeperFilter.Matches db Store.Records.list
  seekers : ListsSorted Seeker.sortFields SeekerFilter.Matches db Store.Records.list
  vets : ListsSorted Vet.sortFields VetFilter.Matches db Store.Records.list
  posts : ListsSorted Post.sortFields PostFilter.Matches db Store.Records.list
  reviews : ListsSorted Review.sortFields ReviewFilter.Matches db Store.Records.list
  messages : ListsSorted Message.sortFields MessageFilter.Matches db Store.Records.list
  /-- The chats of a user, those changed last first. -/
  chats : ∀ userId, ∃ rows, Lists (Store.Chats.listFor userId) db
    (fun c : ChatWithMembers => c.chat ∈ db.tables.chats ∧ c.chat.entry.isLive = true ∧
      c.memberIds = memberIds db.tables c.chat.entry.id ∧ userId ∈ c.memberIds)
    (fun c d => Precedes .desc (.moment c.chat.entry.updatedAt, c.chat.entry.id)
      (.moment d.chat.entry.updatedAt, d.chat.entry.id)) rows
  /-- The keepers that a user marked, the last marked first. -/
  favourites : ∀ userId, ∃ rows, Lists (Store.Favourites.listFor userId) db
    (fun k : Keeper => k ∈ db.tables.keepers ∧ k.entry.isLive = true ∧
      ∃ f ∈ db.tables.favourites, isMark userId k.entry.id f = true)
    (fun k l => ∃ f ∈ db.tables.favourites, ∃ g ∈ db.tables.favourites,
      isMark userId k.entry.id f = true ∧ isMark userId l.entry.id g = true ∧
        Precedes .desc (.moment f.createdAt, k.entry.id) (.moment g.createdAt, l.entry.id)) rows
  /-- The posts with reports, those with the most reports first. -/
  queue : ∃ rows, Lists Store.Moderation.queue db
    (fun p : Post => p ∈ db.tables.posts ∧ p.entry.isLive = true ∧ 0 < p.reportsCount)
    (fun p q => Precedes .desc (.int p.reportsCount, p.entry.id) (.int q.reportsCount, q.entry.id)) rows

/-- A requested page is one of at most a hundred rows, and as requested where that can be. -/
structure Page.IsBounded (limit offset : Option Int) : Prop where
  one_le : 1 ≤ (Page.ofRequest limit offset).limit
  le_hundred : (Page.ofRequest limit offset).limit ≤ 100
  nonneg : 0 ≤ (Page.ofRequest limit offset).offset
  keepsLimit : ∀ wanted ∈ limit, 1 ≤ wanted → wanted ≤ 100 → (Page.ofRequest limit offset).limit = wanted
  keepsOffset : ∀ wanted ∈ offset, 0 ≤ wanted → (Page.ofRequest limit offset).offset = wanted

/-- The bounds of a page come from the request, and no request takes them further than the service does. -/
theorem Page.isBounded_ofRequest (limit offset : Option Int) : Page.IsBounded limit offset where
  one_le := Page.one_le_limit_ofRequest limit offset
  le_hundred := Page.limit_ofRequest_le limit offset
  nonneg := Page.offset_ofRequest_nonneg limit offset
  keepsLimit wanted hwanted hleast hmost := by
    rw [Option.mem_def.mp hwanted]
    simp only [ofRequest, clampLimit, maxLimit, Option.getD_some]
    omega
  keepsOffset wanted hwanted hleast := by
    rw [Option.mem_def.mp hwanted]
    simp only [ofRequest, clampOffset, Option.getD_some]
    omega

/-- **Pages make up the list.** Where ids and marks are told apart, every list of a database shows exactly
the live rows that match its filter, each once and in the order of its column and the ids, and whoever reads
page after page until one is empty has read them all. The descending list of a column is the ascending one
backwards. -/
theorem lists_in_pages (db : Database) (h : IsUnique db.tables) :
    ListsInPages db ∧ ∀ limit offset, Page.IsBounded limit offset := by
  refine ⟨?_, Page.isBounded_ofRequest⟩
  constructor
  case users => exact lists_sorted User.hasColumns (by decide) UserFilter.keeps_iff (h.ids .users)
  case keepers => exact lists_sorted Keeper.hasColumns (by decide) KeeperFilter.keeps_iff (h.ids .keepers)
  case seekers => exact lists_sorted Seeker.hasColumns (by decide) SeekerFilter.keeps_iff (h.ids .seekers)
  case vets => exact lists_sorted Vet.hasColumns (by decide) VetFilter.keeps_iff (h.ids .vets)
  case posts => exact lists_sorted Post.hasColumns (by decide) PostFilter.keeps_iff (h.ids .posts)
  case reviews => exact lists_sorted Review.hasColumns (by decide) ReviewFilter.keeps_iff (h.ids .reviews)
  case messages =>
    exact lists_sorted Message.hasColumns (by decide) MessageFilter.keeps_iff (h.ids .messages)
  case chats => exact lists_chats (h.ids .chats)
  case favourites => exact lists_favourites h
  case queue => exact lists_queue (h.ids .posts)

/-- So are the lists of a small database, which has been built by calls. -/
theorem lists_in_pages_kitten :
    IsUnique (after kitten).tables ∧ ListsInPages (after kitten) ∧
      ∀ limit offset, Page.IsBounded limit offset := by
  have h : IsUnique (after kitten).tables := (hasIntegrity_after kitten).unique
  exact ⟨h, lists_in_pages (after kitten) h⟩

end Fostering
