import Fostering.Proofs.Database.Flaws
import Fostering.Proofs.Database.Retention
import Fostering.Proofs.Listing.Order

/-!
# Deleted for good

Nobody finds a deleted row, lists it, changes it or deletes it again, but who asks for deleted rows too
gets it as it was when it was deleted (`IsGone`, `IsGoneChat`). A row that is deleted once stays so.

* `staysDeleted_of_retains`: what is asked for after deleted rows have stayed.
* `deletion_is_permanent`: what is asked for at any later time of a run.
-/

namespace Fostering

namespace Page

/-- A page shows no rows but those of the list. -/
theorem mem_of_mem_slice {α : Type} {page : Page} {rows : List α} {r : α} (h : r ∈ page.slice rows) :
    r ∈ rows :=
  List.mem_of_mem_drop (List.mem_of_mem_take h)

end Page

namespace Database

variable {ρ φ : Type} {db db' : Database} {now : Instant}

/-! ## What nobody gets -/

section

variable [Table ρ] [HasEntry ρ]

/-- A list shows live rows that its filter keeps. -/
theorem kept_of_list [Columns ρ] [Filter φ ρ] {filter : φ} {order : ListOrder} {page : Page}
    {rows : List ρ} (h : ((list filter order page).exec now db).1 = .ok rows) :
    ∀ r ∈ rows, r ∈ (Table.rows db.tables : List ρ) ∧ HasEntry.isLive r = true ∧
      Filter.keeps filter r = true := by
  intro r hr
  unfold list at h
  rcases hstorable : (Filter.texts ρ filter).all isStorableText
  · rw [hstorable, Op.exec_bind_error (Op.exec_guard_of_false rfl unstorable now db)] at h
    cases h
  rw [hstorable, Op.exec_bind_ok (Op.exec_guard_of_true rfl unstorable now db)] at h
  rcases hcolumn : (Columns.column? (String.ofList (order.column.toList.map Char.toLower)) :
      Option (ρ → SortKey)) with _ | key
  · rw [hcolumn] at h
    cases h
  · rw [hcolumn, Op.exec_bind_ok (Op.exec_orRefuse_some noSuchColumn key now db)] at h
    cases h
    have hkept := List.mem_filter.mp ((mem_sortRows _ _ _ _).mp (Page.mem_of_mem_slice hr))
    exact ⟨hkept.1, Bool.and_eq_true_iff.mp hkept.2⟩

end

/-! ## Rows that are gone -/

/-- A row that is found only by those who ask for deleted rows, too, and that nobody changes or deletes
any more. -/
structure IsGone [Editable ρ] [Store.Records Database ρ φ] (db : Database) (r : ρ) : Prop where
  find : ∀ now, ((Store.Records.find (Table.id r) : Op Database ρ).exec now db).1 =
    .error (notFound ρ (Table.id r))
  list : ∀ (filter : φ) (order : ListOrder) (page : Page) (now : Instant) (rows : List ρ),
    ((Store.Records.list filter order page : Op Database (List ρ)).exec now db).1 = .ok rows →
      ∀ s ∈ rows, Table.id s ≠ Table.id r
  /-- Whatever the change is, if there is no null character in the texts that it sets. -/
  update : ∀ (given : ρ) (now : Instant), Table.id given = Table.id r →
    (∀ text ∈ Schema.texts (Editable.overwrite given default), isStorableText text = true) →
      ((Store.Records.update given : Op Database ρ).exec now db).1 = .error (notFound ρ (Table.id r))
  delete : ∀ now, ((Store.Records.delete ρ (Table.id r) : Op Database Unit).exec now db).1 =
    .error (notFound ρ (Table.id r))
  findAny : ∀ now, ((Store.Records.findAny (Table.id r) : Op Database ρ).exec now db).1 = .ok r

/-- A deleted row is no profile of a user. -/
def IsNobodys [Profile ρ] [Table ρ] [Store.Profiles Database ρ φ] (db : Database) (r : ρ) : Prop :=
  ∀ (userId : Int) (now : Instant) (s : ρ),
    ((Store.Profiles.findByUser userId : Op Database (Option ρ)).exec now db).1 = .ok (some s) →
      Table.id s ≠ Table.id r

section

variable [Editable ρ] [NamedTable ρ] [MarkedTable ρ]

omit [NamedTable ρ] [MarkedTable ρ] in
/-- A row that was deleted is not found. -/
theorem fst_find_of_dead (hkeys : (ids ρ db.tables).Nodup) {r : ρ}
    (hr : r ∈ (Table.rows db.tables : List ρ)) (hdead : HasEntry.isLive r = false) (now : Instant) :
    (find ρ (Table.id r)).exec now db = (.error (notFound ρ (Table.id r)), db) := by
  refine exec_find_of_dead (fun s hs hid => ?_) now
  rw [eq_of_key hkeys hs hr hid]
  exact hdead

omit [NamedTable ρ] [MarkedTable ρ] in
/-- A row is the one that is found under its id. -/
theorem fst_findAny (hkeys : (ids ρ db.tables).Nodup) {r : ρ}
    (hr : r ∈ (Table.rows db.tables : List ρ)) (now : Instant) :
    ((findAny ρ (Table.id r)).exec now db).1 = .ok r := by
  have hlook := exec_find? (fun s : ρ => Table.id s = Table.id r) now db
  rw [find?_of_key hkeys hr] at hlook
  unfold findAny
  rw [Op.exec_bind_ok hlook]
  rfl

/-- A row that was deleted is not changed: it is not found. -/
theorem fst_update_of_dead (hkeys : (ids ρ db.tables).Nodup) {r : ρ}
    (hr : r ∈ (Table.rows db.tables : List ρ)) (hdead : HasEntry.isLive r = false) {given : ρ}
    (hid : Table.id given = Table.id r)
    (htexts : ∀ text ∈ Schema.texts (Editable.overwrite given default), isStorableText text = true)
    (now : Instant) : ((update given).exec now db).1 = .error (notFound ρ (Table.id r)) := by
  have hstorable : Schema.isStorable (Editable.overwrite given default) = true :=
    Bool.and_eq_true_iff.mpr
      ⟨List.all_eq_true.mpr htexts, List.all_eq_true.mpr (MarkedTable.instants_unset given)⟩
  have hguard : (guardStorable (Editable.overwrite given default)).exec now db = (.ok (), db) :=
    Op.exec_guard_of_true hstorable unstorable now db
  have hfind := fst_find_of_dead hkeys hr hdead now
  unfold update
  rw [hid, Op.exec_bind_ok hguard]
  exact congrArg Prod.fst (Op.exec_bind_error hfind)

/-- **A deleted row of a table that is kept by itself is gone.** -/
theorem isGone_of_dead [Columns ρ] [Filter φ ρ] (hkeys : (ids ρ db.tables).Nodup) {r : ρ}
    (hr : r ∈ (Table.rows db.tables : List ρ)) (hdead : HasEntry.isLive r = false) :
    letI := records ρ φ
    IsGone db r :=
  letI := records ρ φ
  { find := fun now => congrArg Prod.fst (fst_find_of_dead hkeys hr hdead now)
    list := fun _ _ _ _ _ h s hs =>
      have hkept := kept_of_list h s hs
      id_ne_of_live hkeys hr hdead hkept.1 hkept.2.1
    update := fun _ now hid htexts => fst_update_of_dead hkeys hr hdead hid htexts now
    delete := fun now =>
      congrArg Prod.fst (Op.exec_bind_error (fst_find_of_dead hkeys hr hdead now))
    findAny := fst_findAny hkeys hr }

end

/-- **A deleted review is gone.** -/
theorem isGone_review (hkeys : (ids Review db.tables).Nodup) {r : Review} (hr : r ∈ db.tables.reviews)
    (hdead : r.entry.isLive = false) : IsGone db r where
  find now := congrArg Prod.fst (fst_find_of_dead hkeys hr hdead now)
  list _ _ _ _ _ h s hs :=
    have hkept := kept_of_list h s hs
    id_ne_of_live hkeys hr hdead hkept.1 hkept.2.1
  update given now hid htexts := by
    have hupdate := fst_update_of_dead hkeys hr hdead hid htexts now
    rcases hexec : (update given).exec now db with ⟨result, db'⟩
    rw [hexec] at hupdate
    cases hupdate
    exact (fst_atomically _ now db).trans (congrArg Prod.fst (Op.exec_bind_error hexec))
  delete now := by
    have hfind := fst_find_of_dead hkeys hr hdead now
    exact (fst_atomically _ now db).trans (congrArg Prod.fst (Op.exec_bind_error hfind))
  findAny := fst_findAny hkeys hr

/-! ## Users, profiles and posts -/

/-- What is found among live rows only is not a deleted row. -/
theorem id_ne_of_find? [Table ρ] [HasEntry ρ] (hkeys : (ids ρ db.tables).Nodup) {r : ρ}
    (hr : r ∈ (Table.rows db.tables : List ρ)) (hdead : HasEntry.isLive r = false) {p : ρ → Bool}
    {s : ρ} (h : (Table.rows db.tables).find? (fun r => p r && HasEntry.isLive r) = some s) :
    Table.id s ≠ Table.id r := by
  have hlive := List.find?_some h
  rw [Bool.and_eq_true] at hlive
  exact id_ne_of_live hkeys hr hdead (List.mem_of_find?_eq_some h) hlive.2

/-- A profile that was deleted is not found by its user. -/
theorem isNobodys_of_dead [Profile ρ] [Table ρ] [Store.Profiles Database ρ φ]
    (hfinds : ∀ userId now, (Store.Profiles.findByUser userId : Op Database (Option ρ)).exec now db =
      (.ok ((Table.rows db.tables).find? fun s : ρ => Profile.userId s = userId && HasEntry.isLive s), db))
    (hkeys : (ids ρ db.tables).Nodup) {r : ρ} (hr : r ∈ (Table.rows db.tables : List ρ))
    (hdead : HasEntry.isLive r = false) : IsNobodys db r := by
  intro userId now s h
  rw [hfinds] at h
  exact id_ne_of_find? hkeys hr hdead (Except.ok.inj h)

/-- Nobody finds a deleted user by name. -/
theorem id_ne_of_findByUsername (hkeys : (ids User db.tables).Nodup) {u v : User}
    (hu : u ∈ db.tables.users) (hdead : u.entry.isLive = false) {name : String}
    (h : ((Store.Users.findByUsername name : Op Database (Option User)).exec now db).1 = .ok (some v)) :
    v.entry.id ≠ u.entry.id := by
  change ((guardText name >>= fun _ => find? _).exec now db).1 = _ at h
  rcases hstorable : isStorableText name
  · have hguard : (guardText name).exec now db = (.error unstorable, db) :=
      Op.exec_guard_of_false hstorable unstorable now db
    rw [Op.exec_bind_error hguard] at h
    cases h
  · have hguard : (guardText name).exec now db = (.ok (), db) :=
      Op.exec_guard_of_true hstorable unstorable now db
    rw [Op.exec_bind_ok hguard] at h
    exact id_ne_of_find? hkeys hu hdead (Except.ok.inj h)

/-- The favourite keepers of a user are live. -/
theorem id_ne_of_favourites (hkeys : (ids Keeper db.tables).Nodup) {k : Keeper}
    (hk : k ∈ db.tables.keepers) (hdead : k.entry.isLive = false) {userId : Int} {page : Page}
    {keepers : List Keeper} (h : ((listFavourites userId page).exec now db).1 = .ok keepers) :
    ∀ l ∈ keepers, l.entry.id ≠ k.entry.id := by
  cases h
  intro l hl
  obtain ⟨⟨moment, _⟩, hmarked, rfl⟩ := List.mem_map.mp hl
  have hshown := (mem_sortRows _ _ _ _).mp (Page.mem_of_mem_slice hmarked)
  obtain ⟨f, -, hpair⟩ := List.mem_flatMap.mp hshown
  obtain ⟨l, hl, heq⟩ := List.mem_map.mp hpair
  obtain ⟨hmem, hlive⟩ := List.mem_filter.mp hl
  rw [Bool.and_eq_true] at hlive
  rw [← heq]
  exact id_ne_of_live hkeys hk hdead hmem hlive.2

/-- Moderators see live posts. -/
theorem id_ne_of_queue (hkeys : (ids Post db.tables).Nodup) {p : Post} (hp : p ∈ db.tables.posts)
    (hdead : p.entry.isLive = false) {page : Page} {posts : List Post}
    (h : ((moderationQueue page).exec now db).1 = .ok posts) : ∀ q ∈ posts, q.entry.id ≠ p.entry.id := by
  cases h
  intro q hq
  obtain ⟨hmem, hlive⟩ := List.mem_filter.mp ((mem_sortRows _ _ _ _).mp (Page.mem_of_mem_slice hq))
  rw [Bool.and_eq_true] at hlive
  exact id_ne_of_live hkeys hp hdead hmem hlive.1

/-- A post that nobody judges any more. -/
structure IsUnjudged (db : Database) (p : Post) : Prop where
  queue : ∀ (page : Page) (now : Instant) (posts : List Post),
    ((Store.Moderation.queue page : Op Database (List Post)).exec now db).1 = .ok posts →
      ∀ q ∈ posts, q.entry.id ≠ p.entry.id
  approve : ∀ now, ((Store.Moderation.approve p.entry.id : Op Database Post).exec now db).1 =
    .error (notFound Post p.entry.id)
  block : ∀ now, ((Store.Moderation.block p.entry.id : Op Database Post).exec now db).1 =
    .error (notFound Post p.entry.id)
  file : ∀ (report : Report) (threshold : Int) (now : Instant), report.postId = p.entry.id →
    ((Store.Reports.file report threshold : Op Database ReportReceipt).exec now db).1 =
      .error (notFound Post p.entry.id)

/-- A post that was deleted is in no moderator's queue, and it can be neither approved nor blocked nor
reported. -/
theorem isUnjudged_of_dead (hkeys : (ids Post db.tables).Nodup) {p : Post} (hp : p ∈ db.tables.posts)
    (hdead : p.entry.isLive = false) : IsUnjudged db p where
  queue _ _ _ h := id_ne_of_queue hkeys hp hdead h
  approve now := by
    have hfind := fst_find_of_dead hkeys hp hdead now
    exact (fst_atomically _ now db).trans (congrArg Prod.fst (Op.exec_bind_error hfind))
  block now := congrArg Prod.fst (Op.exec_bind_error (fst_find_of_dead hkeys hp hdead now))
  file report threshold now hid := by
    have hmissing : ∀ q ∈ db.tables.posts, q.entry.id = report.postId → q.entry.isLive = false := by
      intro q hq heq
      rw [eq_of_key hkeys hq hp (heq.trans hid)]
      exact hdead
    rw [← hid]
    exact fst_fileReport_of_missing hmissing threshold now

/-! ## Chats -/

/-- A chat that is found only by those who ask for deleted chats, too, and that nobody leaves. -/
structure IsGoneChat (db : Database) (c : ChatWithMembers) : Prop where
  find : ∀ now, ((Store.Chats.find c.chat.entry.id : Op Database ChatWithMembers).exec now db).1 =
    .error (noSuchChat c.chat.entry.id)
  list : ∀ (userId : Int) (page : Page) (now : Instant) (chats : List ChatWithMembers),
    ((Store.Chats.listFor userId page : Op Database (List ChatWithMembers)).exec now db).1 = .ok chats →
      ∀ d ∈ chats, d.chat.entry.id ≠ c.chat.entry.id
  removeMember : ∀ (userId : Int) (now : Instant),
    ((Store.Chats.removeMember c.chat.entry.id userId : Op Database Unit).exec now db).1 =
      .error (noSuchChat c.chat.entry.id)
  findAny : ∀ now, ((Store.Chats.findAny c.chat.entry.id : Op Database ChatWithMembers).exec now db).1 =
    .ok c

section

variable (hkeys : (ids Chat db.tables).Nodup) {c : Chat} (hc : c ∈ db.tables.chats)
  (hdead : c.entry.isLive = false)

include hkeys hc hdead in
/-- A chat that was deleted is not found among the live ones. -/
theorem find?_of_dead_chat :
    ((Table.rows db.tables).find? fun d : Chat => d.entry.id = c.entry.id && d.entry.isLive) = none :=
  find?_of_dead fun _ hd hid => (eq_of_key hkeys hd hc hid).symm ▸ hdead

include hkeys hc hdead in
/-- **A deleted chat is gone.** -/
theorem isGoneChat_of_dead : IsGoneChat db ⟨c, memberIds db.tables c.entry.id⟩ where
  find now := by
    have hlook := exec_find? (fun d : Chat => d.entry.id = c.entry.id && d.entry.isLive) now db
    rw [find?_of_dead_chat hkeys hc hdead] at hlook
    exact congrArg Prod.fst (Op.exec_bind_ok hlook)
  list userId page now chats h d hd := by
    cases h
    obtain ⟨e, he, rfl⟩ := List.mem_map.mp hd
    obtain ⟨hmem, hlive⟩ := List.mem_filter.mp ((mem_sortRows _ _ _ _).mp (Page.mem_of_mem_slice he))
    rw [Bool.and_eq_true] at hlive
    exact id_ne_of_live hkeys hc hdead hmem hlive.1
  removeMember userId now := by
    have hlook := exec_find? (fun d : Chat => d.entry.id = c.entry.id && d.entry.isLive) now db
    rw [find?_of_dead_chat hkeys hc hdead] at hlook
    exact (fst_atomically _ now db).trans (congrArg Prod.fst (Op.exec_bind_ok hlook))
  findAny now := by
    have hlook := exec_find? (fun d : Chat => Table.id d = Table.id c) now db
    rw [find?_of_key hkeys hc] at hlook
    exact congrArg Prod.fst (Op.exec_bind_ok hlook)

end

/-! ## Runs -/

/-- Who has been deleted at one time is gone at another: the row is as it was, but that the rating of a
keeper may have been worked out anew. -/
structure StaysDeleted (db db' : Database) : Prop where
  users : ∀ u ∈ db.tables.users, u.entry.isDeleted = true → IsGone db' u ∧
    ∀ (name : String) (now : Instant) (v : User),
      ((Store.Users.findByUsername name : Op Database (Option User)).exec now db').1 = .ok (some v) →
        v.entry.id ≠ u.entry.id
  keepers : ∀ k ∈ db.tables.keepers, k.entry.isDeleted = true → ∃ k' : Keeper, k.Rerated k' ∧
    IsGone db' k' ∧ IsNobodys db' k' ∧
    ∀ (userId : Int) (page : Page) (now : Instant) (keepers : List Keeper),
      ((Store.Favourites.listFor userId page : Op Database (List Keeper)).exec now db').1 = .ok keepers →
        ∀ l ∈ keepers, l.entry.id ≠ k.entry.id
  seekers : ∀ s ∈ db.tables.seekers, s.entry.isDeleted = true → IsGone db' s ∧ IsNobodys db' s
  vets : ∀ v ∈ db.tables.vets, v.entry.isDeleted = true → IsGone db' v ∧ IsNobodys db' v
  posts : ∀ p ∈ db.tables.posts, p.entry.isDeleted = true → IsGone db' p ∧ IsUnjudged db' p
  reviews : ∀ r ∈ db.tables.reviews, r.entry.isDeleted = true → IsGone db' r
  chats : ∀ c ∈ db.tables.chats, c.entry.isDeleted = true →
    IsGoneChat db' ⟨c, memberIds db.tables c.entry.id⟩
  messages : ∀ m ∈ db.tables.messages, m.entry.isDeleted = true → IsGone db' m

/-- The members of a deleted chat stay, too. -/
theorem Retains.memberIds_eq {t t' : Tables} (h : Retains t t') {c : Chat} (hc : c ∈ t.chats)
    (hdead : c.entry.isLive = false) : memberIds t' c.entry.id = memberIds t c.entry.id := by
  unfold memberIds
  rw [h .members c hc hdead]

/-- **Where deleted rows have stayed, they are gone.** -/
theorem staysDeleted_of_retains (hsound : Sound db'.tables) (h : Retains db.tables db'.tables) :
    StaysDeleted db db' where
  users u hu hdeleted :=
    have hdead := Entry.isLive_of_isDeleted hdeleted
    have hkept := h .users u hu hdead
    ⟨isGone_of_dead (hsound .users).keys hkept hdead,
      fun _ _ _ => id_ne_of_findByUsername (hsound .users).keys hkept hdead⟩
  keepers k hk hdeleted := by
    obtain ⟨k', hkept, hsame⟩ := h .keepers k hk (Entry.isLive_of_isDeleted hdeleted)
    have hdead : k'.entry.isLive = false := hsame.isLive_eq.trans (Entry.isLive_of_isDeleted hdeleted)
    refine ⟨k', hsame, isGone_of_dead (hsound .keepers).keys hkept hdead,
      isNobodys_of_dead (fun _ _ => rfl) (hsound .keepers).keys hkept hdead, fun _ _ _ _ hlist l hl => ?_⟩
    rw [← hsame.id_eq]
    exact id_ne_of_favourites (hsound .keepers).keys hkept hdead hlist l hl
  seekers s hs hdeleted :=
    have hdead := Entry.isLive_of_isDeleted hdeleted
    have hkept := h .seekers s hs hdead
    ⟨isGone_of_dead (hsound .seekers).keys hkept hdead,
      isNobodys_of_dead (fun _ _ => rfl) (hsound .seekers).keys hkept hdead⟩
  vets v hv hdeleted :=
    have hdead := Entry.isLive_of_isDeleted hdeleted
    have hkept := h .vets v hv hdead
    ⟨isGone_of_dead (hsound .vets).keys hkept hdead,
      isNobodys_of_dead (fun _ _ => rfl) (hsound .vets).keys hkept hdead⟩
  posts p hp hdeleted :=
    have hdead := Entry.isLive_of_isDeleted hdeleted
    have hkept := h .posts p hp hdead
    ⟨isGone_of_dead (hsound .posts).keys hkept hdead, isUnjudged_of_dead (hsound .posts).keys hkept hdead⟩
  reviews r hr hdeleted :=
    have hdead := Entry.isLive_of_isDeleted hdeleted
    isGone_review (hsound .reviews).keys (h .reviews r hr hdead) hdead
  chats c hc hdeleted := by
    have hdead := Entry.isLive_of_isDeleted hdeleted
    rw [← h.memberIds_eq hc hdead]
    exact isGoneChat_of_dead (hsound .chats).keys (h .chats c hc hdead) hdead
  messages m hm hdeleted :=
    have hdead := Entry.isLive_of_isDeleted hdeleted
    isGone_of_dead (hsound .messages).keys (h .messages m hm hdead) hdead

/-- **Rows are marked as deleted together with the date, and what has been deleted stays so, however the
run goes on.** -/
theorem deletion_is_permanent (events events' : List Event) :
    Marked (after events).tables ∧ StaysDeleted (after events) (after (events ++ events')) :=
  ⟨marked_after events,
    staysDeleted_of_retains (isSound_after (events ++ events')) (retains_append events events')⟩

/-- Somebody has taken the kitten, and the post is deleted. -/
def kittenTaken : List Event := kitten ++ [.call (.post (.delete 1)) ⟨2, 0⟩]

/-- Its author cannot bring it back. -/
theorem kitten_stays_taken :
    (∃ p ∈ (after kittenTaken).tables.posts, p.entry.isDeleted = true) ∧
      Marked (after kittenTaken).tables ∧ StaysDeleted (after kittenTaken) (after (kittenTaken ++
        [.call (.post (.update { entry := { id := 1 }, title := "Kitten", body := "Three months old",
                                 status := "published" })) ⟨3, 0⟩])) := by
  have hdeleted : ∃ p ∈ (after kittenTaken).tables.posts, p.entry.isDeleted = true :=
    ⟨_, List.mem_cons_self, rfl⟩
  exact ⟨hdeleted, deletion_is_permanent kittenTaken _⟩

end Database

end Fostering
