import Fostering.Proofs.Database.Retention

/-!
# When rows were made and changed

Eight tables keep with every row when it was made and when it was last changed. A call of the store
leaves a row as it is or dates it with its own instant, whichever columns it changes and whatever dates
stand in the row that the caller hands over; the id, the owner and the date of the making stay
(`HasEntry.Ages`). A row that is added takes its dates from the one that the caller hands over
(`Store.Call.drafts`).

* `HasEntry.AgeTo`: what a call makes of the rows of a table, told by their ids.
* `ageTo_of_effect`: the step, one case for each effect of a call.
* `Entry.IsOrdered`: the dates of a row are in order, which ageing keeps.
-/

namespace Fostering

variable {ρ φ : Type} {now : Instant}

/-! ## The shared columns -/

/-- What a call at an instant may make of the shared columns of a row. -/
structure Entry.Ages (now : Instant) (e e' : Entry) : Prop where
  id_eq : e'.id = e.id
  createdAt_eq : e'.createdAt = e.createdAt
  dated : e' = e ∨ e'.updatedAt = now.stored
  deletedAt_eq : e'.deletedAt = e.deletedAt ∨ e'.deletedAt = some now.stored

/-- The row was changed last no sooner than it was made, and if it was deleted, then between the two. -/
structure Entry.IsOrdered (e : Entry) : Prop where
  updated : e.updatedAt.before e.createdAt = false
  deleted : ∀ d ∈ e.deletedAt, d.before e.createdAt = false ∧ e.updatedAt.before d = false

/-- A row that is added with the dates of a draft, as they are stored. -/
structure Entry.IsBorn (draft e : Entry) : Prop where
  createdAt_eq : e.createdAt = draft.createdAt.stored
  updatedAt_eq : e.updatedAt = draft.updatedAt.stored
  deletedAt_eq : e.deletedAt = none

namespace Entry

theorem Ages.refl (now : Instant) (e : Entry) : e.Ages now e := ⟨rfl, rfl, .inl rfl, .inl rfl⟩

theorem Ages.touched (now : Instant) (e : Entry) : e.Ages now (e.touched now.stored) :=
  ⟨rfl, rfl, .inr rfl, .inl rfl⟩

theorem Ages.deleted (now : Instant) (e : Entry) : e.Ages now (e.deleted now.stored) :=
  ⟨rfl, rfl, .inr rfl, .inr rfl⟩

variable {e e' : Entry}

/-- A row that was changed in the past is not dated back. -/
theorem Ages.not_before (h : e.Ages now e') (hpast : now.stored.before e.updatedAt = false) :
    e'.updatedAt.before e.updatedAt = false ∧ now.stored.before e'.updatedAt = false := by
  rcases h.dated with rfl | hdated
  · exact ⟨Instant.before_irrefl _, hpast⟩
  · rw [hdated]
    exact ⟨hpast, Instant.before_irrefl _⟩

/-- The dates of a row that was changed in the past stay in order. -/
theorem Ages.isOrdered (h : e.Ages now e') (hpast : now.stored.before e.updatedAt = false)
    (he : e.IsOrdered) : e'.IsOrdered := by
  rcases h.dated with rfl | hdated
  · exact he
  have hmade : now.stored.before e'.createdAt = false := by
    rw [h.createdAt_eq]
    exact Instant.not_before_trans he.updated hpast
  refine ⟨by rw [hdated]; exact hmade, fun d hd => ?_⟩
  rw [hdated]
  rcases h.deletedAt_eq with hkept | hnow
  · rw [hkept] at hd
    obtain ⟨hfirst, hlast⟩ := he.deleted d hd
    rw [h.createdAt_eq]
    exact ⟨hfirst, Instant.not_before_trans hlast hpast⟩
  · obtain rfl : now.stored = d := Option.some.inj (hnow.symm.trans hd)
    exact ⟨hmade, Instant.before_irrefl _⟩

/-- A row that is made and changed at one instant has its dates in order. -/
theorem IsBorn.isOrdered {draft : Entry} (h : draft.IsBorn e) (hcreated : draft.createdAt = now)
    (hupdated : draft.updatedAt = now) : e.IsOrdered ∧ now.stored.before e.updatedAt = false := by
  have hupdated' : e.updatedAt = now.stored := hupdated ▸ h.updatedAt_eq
  have hcreated' : e.createdAt = now.stored := hcreated ▸ h.createdAt_eq
  refine ⟨⟨?_, fun d hd => ?_⟩, ?_⟩
  · rw [hupdated', hcreated']
    exact Instant.before_irrefl _
  · rw [h.deletedAt_eq] at hd
    cases hd
  · rw [hupdated']
    exact Instant.before_irrefl _

end Entry

/-! ## Rows -/

namespace HasEntry

variable [HasEntry ρ]

/-- What a call at an instant may make of a row of a user: it stays as it is, or it is dated anew. -/
structure Ages (owner : ρ → Int) (now : Instant) (r r' : ρ) : Prop where
  entry : (entry r).Ages now (entry r')
  owner_eq : owner r' = owner r
  dated : r' = r ∨ (HasEntry.entry r').updatedAt = now.stored

/-- What a call at an instant may make of the rows of a table: each of them has aged and is still the only
one with its id, and any other row is new and has its dates from one of the drafts. -/
structure AgeTo (owner : ρ → Int) (now : Instant) (drafts : List Entry) (rows rows' : List ρ) : Prop where
  old : ∀ r ∈ rows, ∃ r' ∈ rows', Ages owner now r r' ∧ ∀ s ∈ rows', id s = id r → s = r'
  new : ∀ r' ∈ rows', (∃ r ∈ rows, id r' = id r) ∨ ∃ d ∈ drafts, d.IsBorn (entry r')

variable {owner : ρ → Int} {drafts : List Entry} {rows : List ρ}

theorem ages_refl (r : ρ) : Ages owner now r r := ⟨.refl now _, rfl, .inl rfl⟩

/-- A row may be changed and dated, and keeps its owner. -/
theorem ages_of_touched {r r' : ρ} (howner : owner r' = owner r)
    (h : entry r' = (entry r).touched now.stored) : Ages owner now r r' :=
  ⟨h ▸ .touched now _, howner, .inr (h ▸ rfl)⟩

/-- A row may be deleted, and keeps its owner. -/
theorem ages_of_deleted {r r' : ρ} (howner : owner r' = owner r)
    (h : entry r' = (entry r).deleted now.stored) : Ages owner now r r' :=
  ⟨h ▸ .deleted now _, howner, .inr (h ▸ rfl)⟩

section

variable (hkeys : (rows.map id).Nodup)
include hkeys

/-- Rows that have aged one by one, and new ones with ids of their own. -/
theorem ageTo_map_append {f : ρ → ρ} {added : List ρ} (hages : ∀ r ∈ rows, Ages owner now r (f r))
    (hunused : ∀ n ∈ added, ∀ r ∈ rows, id r ≠ id n)
    (hborn : ∀ n ∈ added, ∃ d ∈ drafts, d.IsBorn (entry n)) :
    AgeTo owner now drafts rows (rows.map f ++ added) := by
  refine ⟨fun r hr => ?_, fun r' hr' => ?_⟩
  · refine ⟨f r, List.mem_append_left _ (List.mem_map_of_mem hr), hages r hr, fun s hs hid => ?_⟩
    rcases List.mem_append.mp hs with hs | hs
    · obtain ⟨r₂, hr₂, rfl⟩ := List.mem_map.mp hs
      have hsame : id r₂ = id r := (hages r₂ hr₂).entry.id_eq.symm.trans hid
      rw [List.inj_on_of_nodup_map hkeys hr₂ hr hsame]
    · exact absurd hid.symm (hunused s hs r hr)
  · rcases List.mem_append.mp hr' with hr' | hr'
    · obtain ⟨r, hr, rfl⟩ := List.mem_map.mp hr'
      exact .inl ⟨r, hr, (hages r hr).entry.id_eq⟩
    · exact .inr (hborn r' hr')

/-- Rows age if each does where it stands. -/
theorem ageTo_map {f : ρ → ρ} (hages : ∀ r ∈ rows, Ages owner now r (f r)) :
    AgeTo owner now drafts rows (rows.map f) := by
  have h : AgeTo owner now drafts rows (rows.map f ++ []) := ageTo_map_append hkeys hages nofun nofun
  rwa [List.append_nil] at h

theorem ageTo_refl : AgeTo owner now drafts rows rows := by
  have h : AgeTo owner now drafts rows (rows.map fun r => r) := ageTo_map hkeys fun r _ => ages_refl r
  rwa [List.map_id'] at h

/-- A new row under an unused id takes its dates from a draft. -/
theorem ageTo_append {new : ρ} {draft : Entry} (hunused : ∀ r ∈ rows, id r ≠ id new)
    (hdraft : draft ∈ drafts) (hborn : draft.IsBorn (entry new)) :
    AgeTo owner now drafts rows (rows ++ [new]) := by
  have h : AgeTo owner now drafts rows ((rows.map fun r => r) ++ [new]) :=
    ageTo_map_append hkeys (fun r _ => ages_refl r) (List.forall_mem_singleton.mpr hunused)
      (List.forall_mem_singleton.mpr ⟨draft, hdraft, hborn⟩)
  rwa [List.map_id'] at h

/-- A row is put in the place of the one that it comes from. -/
theorem ageTo_put {old new : ρ} (hold : old ∈ rows) (hages : Ages owner now old new) :
    AgeTo owner now drafts rows (rows.map fun r => if id r = id new then new else r) := by
  refine ageTo_map hkeys fun r hr => ?_
  split_ifs with hid
  · have hsame : id r = id old := hid.trans hages.entry.id_eq
    rw [List.inj_on_of_nodup_map hkeys hr hold hsame]
    exact hages
  · exact ages_refl r

end

/-- Each row that is there has aged, or it is new. -/
theorem AgeTo.cases {rows' : List ρ} (h : AgeTo owner now drafts rows rows') {r' : ρ} (hr' : r' ∈ rows') :
    (∃ r ∈ rows, Ages owner now r r') ∨ ∃ d ∈ drafts, d.IsBorn (entry r') := by
  rcases h.new r' hr' with ⟨r, hr, hid⟩ | hborn
  · obtain ⟨s, -, hages, hunique⟩ := h.old r hr
    exact .inl ⟨r, hr, hunique r' hr' hid ▸ hages⟩
  · exact .inr hborn

end HasEntry

/-! ## Tables -/

/-- What a call at an instant may make of a table. Four tables do not keep when a row was changed. -/
def TableName.AgeTo (now : Instant) (drafts : List Entry) (t t' : Tables) : TableName → Prop
  | users => HasEntry.AgeTo (fun u : User => u.entry.id) now drafts t.users t'.users
  | keepers => HasEntry.AgeTo Keeper.userId now drafts t.keepers t'.keepers
  | seekers => HasEntry.AgeTo Seeker.userId now drafts t.seekers t'.seekers
  | vets => HasEntry.AgeTo Vet.userId now drafts t.vets t'.vets
  | posts => HasEntry.AgeTo Post.authorId now drafts t.posts t'.posts
  | reviews => HasEntry.AgeTo Review.authorId now drafts t.reviews t'.reviews
  | chats => HasEntry.AgeTo Chat.createdBy now drafts t.chats t'.chats
  | messages => HasEntry.AgeTo Message.senderId now drafts t.messages t'.messages
  | reports | members | favourites | sessions => True

namespace TableName

variable {name : TableName} {drafts : List Entry} {t t' : Tables}

/-- A table that stays as it is ages. -/
theorem ageTo_of_agrees (hkeys : (name.ids t).Nodup) (h : name.Agrees t t') :
    name.AgeTo now drafts t t' := by
  cases name with
  | reports | members | favourites | sessions => trivial
  | _ =>
      unfold AgeTo
      rw [show _ = _ from h]
      exact HasEntry.ageTo_refl hkeys

/-- What becomes of the shared columns of each row. -/
theorem AgeTo.entries_old (h : name.AgeTo now drafts t t') {e : Entry} (he : e ∈ name.entries t) :
    ∃ e' ∈ name.entries t', e.Ages now e' := by
  cases name with
  | reports | members | favourites | sessions => cases he
  | _ =>
      obtain ⟨r, hr, rfl⟩ := List.mem_map.mp he
      obtain ⟨r', hr', hages, -⟩ := h.old r hr
      exact ⟨_, List.mem_map_of_mem hr', hages.entry⟩

/-- Where the shared columns of each row come from. -/
theorem AgeTo.entries_new (h : name.AgeTo now drafts t t') {e' : Entry} (he' : e' ∈ name.entries t') :
    (∃ e ∈ name.entries t, e.Ages now e') ∨ ∃ d ∈ drafts, d.IsBorn e' := by
  cases name with
  | reports | members | favourites | sessions => cases he'
  | _ =>
      obtain ⟨r', hr', rfl⟩ := List.mem_map.mp he'
      rcases h.cases hr' with ⟨r, hr, hages⟩ | hborn
      · exact .inl ⟨_, List.mem_map_of_mem hr, hages.entry⟩
      · exact .inr hborn

end TableName

/-! ## Calls -/

/-- The shared columns of the row that a call hands over to be added, if any. -/
def Store.RecordCall.drafts [HasEntry ρ] : Store.RecordCall ρ φ → List Entry
  | .create given => [HasEntry.entry given]
  | _ => []

/-- The shared columns of the row that a call hands over to be added, if any. -/
def Store.Call.drafts : Store.Call → List Entry
  | .user call => call.drafts
  | .keeper call => call.drafts
  | .seeker call => call.drafts
  | .vet call => call.drafts
  | .post call => call.drafts
  | .review call => call.drafts
  | .message call => call.drafts
  | .createChat chat _ => [chat.entry]
  | _ => []

namespace Database

variable {t t' : Tables}

/-- A table whose rows belong to users, and keep to them. -/
class OwnedTable (ρ : Type) [Editable ρ] where
  owner : ρ → Int
  owner_changed : ∀ (given old : ρ) (now : Instant), owner (changed given old now) = owner old
  owner_buried : ∀ (r : ρ) (now : Instant), owner (buried r now) = owner r
  born_draft : ∀ (id : Int) (given : ρ),
    (HasEntry.entry given).IsBorn (HasEntry.entry (Table.setId id (draft given)))

instance : OwnedTable User :=
  ⟨fun u => u.entry.id, fun _ _ _ => rfl, fun _ _ => rfl, fun _ _ => ⟨rfl, rfl, rfl⟩⟩

instance : OwnedTable Keeper :=
  ⟨Keeper.userId, fun _ _ _ => rfl, fun _ _ => rfl, fun _ _ => ⟨rfl, rfl, rfl⟩⟩

instance : OwnedTable Seeker :=
  ⟨Seeker.userId, fun _ _ _ => rfl, fun _ _ => rfl, fun _ _ => ⟨rfl, rfl, rfl⟩⟩

instance : OwnedTable Vet :=
  ⟨Vet.userId, fun _ _ _ => rfl, fun _ _ => rfl, fun _ _ => ⟨rfl, rfl, rfl⟩⟩

instance : OwnedTable Post :=
  ⟨Post.authorId, fun _ _ _ => rfl, fun _ _ => rfl, fun _ _ => ⟨rfl, rfl, rfl⟩⟩

instance : OwnedTable Review :=
  ⟨Review.authorId, fun _ _ _ => rfl, fun _ _ => rfl, fun _ _ => ⟨rfl, rfl, rfl⟩⟩

instance : OwnedTable Message :=
  ⟨Message.senderId, fun _ _ _ => rfl, fun _ _ => rfl, fun _ _ => ⟨rfl, rfl, rfl⟩⟩

section

variable [Editable ρ] [OwnedTable ρ]

/-- A row that is deleted ages. -/
theorem ages_buried (r : ρ) (now : Instant) : HasEntry.Ages OwnedTable.owner now r (buried r now) :=
  HasEntry.ages_of_deleted (OwnedTable.owner_buried r now) (entry_buried r now)

variable [NamedTable ρ] [MarkedTable ρ]

/-- A row that is changed ages, whatever dates the new columns came with. -/
theorem ages_changed (given old : ρ) (now : Instant) :
    HasEntry.Ages OwnedTable.owner now old (changed given old now) :=
  HasEntry.ages_of_touched (OwnedTable.owner_changed given old now) (entry_changed given old now)

/-- The rows of a table age under a call on records. -/
theorem ageTo_of_recordEffect {call : Store.RecordCall ρ φ} (hkeys : (ids ρ t).Nodup)
    (h : RecordEffect now t call t') : HasEntry.AgeTo (OwnedTable.owner : ρ → Int) now call.drafts
      (Table.rows t) (Table.rows t') := by
  have hid : (Table.id : ρ → Int) = HasEntry.id := funext MarkedTable.id_eq
  have hkeys' : ((Table.rows t : List ρ).map HasEntry.id).Nodup := hid ▸ hkeys
  cases h with
  | stay => exact HasEntry.ageTo_refl hkeys'
  | create given id insertable =>
      have hunused := insertable.unused
      rw [hid] at hunused
      rw [rows_addRow]
      exact HasEntry.ageTo_append hkeys' hunused List.mem_cons_self (OwnedTable.born_draft id given)
  | update given old mem same live admissible =>
      rw [rows_putRow, hid]
      exact HasEntry.ageTo_put hkeys' mem (ages_changed given old now)
  | delete id old mem same live =>
      rw [rows_putRow, hid]
      exact HasEntry.ageTo_put hkeys' mem (ages_buried old now)

end

/-- A call ages every table if it ages those that it may change. -/
theorem ageTo_of_writes {call : Store.Call} (hkeys : ∀ name : TableName, (name.ids t).Nodup)
    (h : Effect now t call t') {drafts : List Entry}
    (hwritten : ∀ name ∈ call.writes, name.AgeTo now drafts t t') (name : TableName) :
    name.AgeTo now drafts t t' := by
  by_cases hname : name ∈ call.writes
  · exact hwritten name hname
  · exact TableName.ageTo_of_agrees (hkeys name) (h.agrees hname)

/-- The keeper whose rating is worked out anew is dated, too. -/
theorem ageTo_rate {b : Gradebook} {id : Int} {drafts : List Entry} (hkeys : (ids Keeper t).Nodup)
    (hkeepers : b.keepers = t.keepers) :
    TableName.AgeTo now drafts t (withGradebook (b.rate id now) t) .keepers := by
  change HasEntry.AgeTo Keeper.userId now drafts t.keepers (b.rate id now).keepers
  unfold Gradebook.rate
  rw [hkeepers]
  refine HasEntry.ageTo_map hkeys fun k _ => ?_
  split_ifs
  · exact HasEntry.ages_of_touched rfl rfl
  · exact HasEntry.ages_refl k

/-- **What a call makes of the rows that are there, and where new ones have their dates from.** -/
theorem ageTo_of_effect {call : Store.Call} (hkeys : ∀ name : TableName, (name.ids t).Nodup)
    (h : Effect now t call t') (name : TableName) : name.AgeTo now call.drafts t t' := by
  refine ageTo_of_writes hkeys h ?_ name
  cases h with
  | stay => exact fun name _ => TableName.ageTo_of_agrees (hkeys name) (.refl name t)
  | user call _ h => exact call.forall_mem_writes (ageTo_of_recordEffect (hkeys .users) h)
  | keeper call _ h => exact call.forall_mem_writes (ageTo_of_recordEffect (hkeys .keepers) h)
  | seeker call _ h => exact call.forall_mem_writes (ageTo_of_recordEffect (hkeys .seekers) h)
  | vet call _ h => exact call.forall_mem_writes (ageTo_of_recordEffect (hkeys .vets) h)
  | post call _ h => exact call.forall_mem_writes (ageTo_of_recordEffect (hkeys .posts) h)
  | message call _ h => exact call.forall_mem_writes (ageTo_of_recordEffect (hkeys .messages) h)
  | createReview given id keeper mem same live insertable =>
      refine List.forall_mem_cons.mpr ⟨?_, List.forall_mem_singleton.mpr (ageTo_rate (hkeys .keepers) rfl)⟩
      exact HasEntry.ageTo_append (hkeys .reviews) insertable.unused List.mem_cons_self
        (OwnedTable.born_draft id given)
  | updateReview given old mem same live admissible =>
      refine List.forall_mem_cons.mpr ⟨?_, List.forall_mem_singleton.mpr (ageTo_rate (hkeys .keepers) rfl)⟩
      exact HasEntry.ageTo_put (hkeys .reviews) mem (ages_changed given old now)
  | deleteReview id old mem same live =>
      refine List.forall_mem_cons.mpr ⟨?_, List.forall_mem_singleton.mpr (ageTo_rate (hkeys .keepers) rfl)⟩
      exact HasEntry.ageTo_put (hkeys .reviews) mem (ages_buried old now)
  | fileReport given threshold id post mem same live insertable =>
      refine List.forall_mem_cons.mpr ⟨?_, List.forall_mem_singleton.mpr trivial⟩
      refine HasEntry.ageTo_map (hkeys .posts) fun p _ => ?_
      split_ifs
      · exact HasEntry.ages_of_touched rfl rfl
      · exact HasEntry.ages_refl p
  | approvePost id old mem same live =>
      refine List.forall_mem_cons.mpr ⟨?_, List.forall_mem_singleton.mpr trivial⟩
      exact HasEntry.ageTo_put (hkeys .posts) mem (HasEntry.ages_of_touched rfl rfl)
  | blockPost id old mem same live =>
      refine List.forall_mem_singleton.mpr ?_
      exact HasEntry.ageTo_put (hkeys .posts) mem (HasEntry.ages_of_touched rfl rfl)
  | createChat given ids id count insertable =>
      refine List.forall_mem_cons.mpr ⟨?_, List.forall_mem_singleton.mpr trivial⟩
      exact HasEntry.ageTo_append (hkeys .chats) insertable.unused List.mem_cons_self ⟨rfl, rfl, rfl⟩
  | removeMember chatId userId chat mem same live member =>
      refine List.forall_mem_cons.mpr ⟨?_, List.forall_mem_singleton.mpr trivial⟩
      refine HasEntry.ageTo_put (hkeys .chats) mem ?_
      cases isDeserted chatId (unjoined chatId userId t)
      · exact HasEntry.ages_of_touched rfl rfl
      · exact HasEntry.ages_of_deleted rfl rfl
  | replaceSession | addSession | takeSession | deleteSession | addFavourite | removeFavourite =>
      exact List.forall_mem_singleton.mpr trivial

end Database

end Fostering
