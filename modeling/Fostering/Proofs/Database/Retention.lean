import Fostering.Proofs.Database.Soundness

/-!
# What becomes of deleted rows

Eight tables have rows that are marked as deleted and stay. Two things hold of them in every run. The
mark and the date of the deletion are set together (`Marked`). And a row that is marked stays as it is,
but that the rating of a keeper is still worked out from the reviews (`Retains`): all other writes look
for a live row first, and no two rows share an id.

* `arise_of_effect`: where the shared columns of a row come from.
* `marked_after`: the mark and the date are set together, whatever happens.
* `retains_of_effect`, `retains_append`: deleted rows stay.
-/

namespace Fostering

/-- The mark and the date of the deletion are both set, or neither is. -/
def Entry.IsMarked (e : Entry) : Prop := e.isDeleted = true ↔ e.deletedAt.isSome = true

/-- What is marked as deleted is not live. -/
theorem Entry.isLive_of_isDeleted {e : Entry} (h : e.isDeleted = true) : e.isLive = false := by
  unfold isLive
  rw [h]
  rfl

/-- Where the shared columns of a row come from: a row that was there, is new, was changed or deleted. -/
inductive Entry.Arises (now : Instant) (entries : List Entry) : Entry → Prop where
  | kept (e : Entry) (mem : e ∈ entries) : Arises now entries e
  | new (e : Entry) (live : e.isDeleted = false) (undated : e.deletedAt = none) : Arises now entries e
  | touched (e : Entry) (mem : e ∈ entries) : Arises now entries (e.touched now.stored)
  | deleted (e : Entry) (mem : e ∈ entries) : Arises now entries (e.deleted now.stored)

/-- The mark and the date are set together wherever shared columns come from. -/
theorem Entry.Arises.isMarked {now : Instant} {entries : List Entry} {e : Entry}
    (h : Entry.Arises now entries e) (hentries : ∀ e ∈ entries, e.IsMarked) : e.IsMarked := by
  cases h with
  | kept e mem => exact hentries e mem
  | new e live undated =>
      unfold IsMarked
      rw [live, undated]
      exact Iff.rfl
  | touched e mem => exact hentries e mem
  | deleted e mem => exact iff_of_true rfl rfl

/-- A keeper whose rating may have been worked out anew, and who is otherwise as before. -/
def Keeper.Rerated (k k' : Keeper) : Prop :=
  k' = { k with rating := k'.rating, entry := { k.entry with updatedAt := k'.entry.updatedAt } }

namespace Keeper.Rerated

variable {k k' k'' : Keeper}

theorem refl (k : Keeper) : k.Rerated k := rfl

theorem trans (h : k.Rerated k') (h' : k'.Rerated k'') : k.Rerated k'' := by
  unfold Rerated at *
  rw [h] at h'
  exact h'

/-- A new rating leaves a keeper the id. -/
theorem id_eq (h : k.Rerated k') : k'.entry.id = k.entry.id := by
  unfold Rerated at h
  rw [h]

/-- A new rating revives nobody. -/
theorem isLive_eq (h : k.Rerated k') : k'.entry.isLive = k.entry.isLive := by
  unfold Rerated at h
  rw [h]
  rfl

end Keeper.Rerated

namespace TableName

/-- The shared columns of the rows of a table. Four tables have none. -/
def entries : TableName → Tables → List Entry
  | users, t => t.users.map User.entry
  | keepers, t => t.keepers.map Keeper.entry
  | seekers, t => t.seekers.map Seeker.entry
  | vets, t => t.vets.map Vet.entry
  | posts, t => t.posts.map Post.entry
  | reviews, t => t.reviews.map Review.entry
  | chats, t => t.chats.map Chat.entry
  | messages, t => t.messages.map Message.entry
  | reports, _ | members, _ | favourites, _ | sessions, _ => []

/-- The deleted rows of a table stay, and so do the members of deleted chats. -/
def Retains : TableName → Tables → Tables → Prop
  | users, t, t' => ∀ u ∈ t.users, u.entry.isLive = false → u ∈ t'.users
  | keepers, t, t' => ∀ k ∈ t.keepers, k.entry.isLive = false → ∃ k' ∈ t'.keepers, k.Rerated k'
  | seekers, t, t' => ∀ s ∈ t.seekers, s.entry.isLive = false → s ∈ t'.seekers
  | vets, t, t' => ∀ v ∈ t.vets, v.entry.isLive = false → v ∈ t'.vets
  | posts, t, t' => ∀ p ∈ t.posts, p.entry.isLive = false → p ∈ t'.posts
  | reviews, t, t' => ∀ r ∈ t.reviews, r.entry.isLive = false → r ∈ t'.reviews
  | chats, t, t' => ∀ c ∈ t.chats, c.entry.isLive = false → c ∈ t'.chats
  | messages, t, t' => ∀ m ∈ t.messages, m.entry.isLive = false → m ∈ t'.messages
  | members, t, t' => ∀ c ∈ t.chats, c.entry.isLive = false →
      (t'.members.filter fun m => m.chatId = c.entry.id) = t.members.filter fun m => m.chatId = c.entry.id
  | reports, _, _ | favourites, _, _ | sessions, _, _ => True

variable {name : TableName} {t t' t'' : Tables}

/-- The shared columns of a table are seen from that table alone. -/
theorem entries_of_agrees (h : name.Agrees t t') : name.entries t' = name.entries t := by
  cases name with
  | reports | members | favourites | sessions => rfl
  | users | keepers | seekers | vets | posts | reviews | chats | messages =>
      exact congrArg (List.map _) h

/-- A table that stays as it is retains its deleted rows. -/
theorem retains_of_agrees (h : name.Agrees t t') : name.Retains t t' := by
  cases name with
  | reports | favourites | sessions => trivial
  | members => exact fun _ _ _ => congrArg (List.filter _) h
  | keepers =>
      have hrows : t'.keepers = t.keepers := h
      exact fun k hk _ => ⟨k, hrows ▸ hk, .refl k⟩
  | users | seekers | vets | posts | reviews | chats | messages =>
      exact fun _ hr _ => Eq.symm h ▸ hr

/-- The members of a chat stay for good only as long as the chat does. -/
theorem retains_trans (hchats : chats.Retains t t') (h : name.Retains t t') (h' : name.Retains t' t'') :
    name.Retains t t'' := by
  cases name with
  | reports | favourites | sessions => trivial
  | users | seekers | vets | posts | reviews | chats | messages =>
      exact fun r hr hdead => h' r (h r hr hdead) hdead
  | keepers =>
      intro k hk hdead
      obtain ⟨k', hk', hsame⟩ := h k hk hdead
      obtain ⟨k'', hk'', hsame'⟩ := h' k' hk' (hsame.isLive_eq.trans hdead)
      exact ⟨k'', hk'', hsame.trans hsame'⟩
  | members => exact fun c hc hdead => (h' c (hchats c hc hdead) hdead).trans (h c hc hdead)

end TableName

namespace Database

variable {ρ φ : Type} {t t' t'' : Tables} {now : Instant}

/-- Every row is marked as deleted if and only if it has the date of its deletion. -/
def Marked (t : Tables) : Prop := ∀ name : TableName, ∀ e ∈ name.entries t, e.IsMarked

/-- Deleted rows stay. -/
def Retains (t t' : Tables) : Prop := ∀ name : TableName, name.Retains t t'

theorem retains_refl (t : Tables) : Retains t t := fun name => TableName.retains_of_agrees (.refl name t)

theorem Retains.trans (h : Retains t t') (h' : Retains t' t'') : Retains t t'' :=
  fun name => TableName.retains_trans (h .chats) (h name) (h' name)

/-- Deleted rows are retained if they are in each table that is written. -/
theorem Retains.of_changes {tables : List TableName}
    (hframe : ∀ name, name ∉ tables → name.Agrees t t')
    (hwritten : ∀ name ∈ tables, name.Retains t t') : Retains t t' := by
  intro name
  by_cases hname : name ∈ tables
  · exact hwritten name hname
  · exact TableName.retains_of_agrees (hframe name hname)

/-! ## Rows that are kept one by one -/

/-- A table whose rows carry the shared columns, which callers neither set nor change. -/
class MarkedTable (ρ : Type) [Editable ρ] [NamedTable ρ] : Prop where
  entries_eq : ∀ t, (NamedTable.name ρ).entries t = (Table.rows t : List ρ).map HasEntry.entry
  id_eq : ∀ r : ρ, Table.id r = (HasEntry.entry r).id
  entry_overwrite : ∀ given old : ρ,
    HasEntry.entry (Editable.overwrite given old) = HasEntry.entry old
  new_draft : ∀ (id : Int) (given : ρ),
    (HasEntry.entry (Table.setId id (draft given))).isDeleted = false ∧
      (HasEntry.entry (Table.setId id (draft given))).deletedAt = none
  instants_unset : ∀ given : ρ, ∀ i ∈ Schema.instants (Editable.overwrite given default),
    i.isStorable = true
  retains : ∀ {t t' : Tables}, (∀ r ∈ (Table.rows t : List ρ), HasEntry.isLive r = false →
    r ∈ (Table.rows t' : List ρ)) → (NamedTable.name ρ).Retains t t'

instance : MarkedTable User where
  entries_eq _ := rfl
  id_eq _ := rfl
  entry_overwrite _ _ := rfl
  new_draft _ _ := ⟨rfl, rfl⟩
  instants_unset _ := isStorable_unset
  retains h := h

instance : MarkedTable Keeper where
  entries_eq _ := rfl
  id_eq _ := rfl
  entry_overwrite _ _ := rfl
  new_draft _ _ := ⟨rfl, rfl⟩
  instants_unset _ := isStorable_unset
  retains h := fun k hk hdead => ⟨k, h k hk hdead, .refl k⟩

instance : MarkedTable Seeker where
  entries_eq _ := rfl
  id_eq _ := rfl
  entry_overwrite _ _ := rfl
  new_draft _ _ := ⟨rfl, rfl⟩
  instants_unset _ := isStorable_unset
  retains h := h

instance : MarkedTable Vet where
  entries_eq _ := rfl
  id_eq _ := rfl
  entry_overwrite _ _ := rfl
  new_draft _ _ := ⟨rfl, rfl⟩
  instants_unset _ := isStorable_unset
  retains h := h

instance : MarkedTable Post where
  entries_eq _ := rfl
  id_eq _ := rfl
  entry_overwrite _ _ := rfl
  new_draft _ _ := ⟨rfl, rfl⟩
  instants_unset _ := isStorable_unset
  retains h := h

instance : MarkedTable Review where
  entries_eq _ := rfl
  id_eq _ := rfl
  entry_overwrite _ _ := rfl
  new_draft _ _ := ⟨rfl, rfl⟩
  instants_unset _ := isStorable_unset
  retains h := h

instance : MarkedTable Message where
  entries_eq _ := rfl
  id_eq _ := rfl
  entry_overwrite _ _ := rfl
  new_draft _ _ := ⟨rfl, rfl⟩
  instants_unset _ := isStorable_unset
  retains h := h

section

variable [Editable ρ]

/-- A row that is changed keeps its shared columns, but for the date of the change. -/
theorem entry_changed [NamedTable ρ] [MarkedTable ρ] (given old : ρ) (now : Instant) :
    HasEntry.entry (changed given old now) = (HasEntry.entry old).touched now.stored := by
  unfold changed
  rw [HasEntry.entry_modifyEntry, MarkedTable.entry_overwrite]

/-- A row that is deleted is marked and dated, and otherwise as it was. -/
theorem entry_buried (r : ρ) (now : Instant) :
    HasEntry.entry (buried r now) = (HasEntry.entry r).deleted now.stored := HasEntry.entry_modifyEntry _ _

end

/-! ## Where rows come from -/

/-- Every row that is there now arises from those that were there. -/
def Arise (now : Instant) (t t' : Tables) : Prop :=
  ∀ name : TableName, ∀ e ∈ name.entries t', Entry.Arises now (name.entries t) e

theorem arise_refl (now : Instant) (t : Tables) : Arise now t t := fun _ e he => .kept e he

/-- Where shared columns come from has to be known of the tables only that are written. -/
theorem Arise.of_changes {tables : List TableName} (hframe : ∀ name, name ∉ tables → name.Agrees t t')
    (hwritten : ∀ name ∈ tables, ∀ e ∈ name.entries t', Entry.Arises now (name.entries t) e) :
    Arise now t t' := by
  intro name e he
  by_cases hname : name ∈ tables
  · exact hwritten name hname e he
  · rw [TableName.entries_of_agrees (hframe name hname)] at he
    exact .kept e he

section

variable [HasEntry ρ] {rows : List ρ}

/-- A new row that is not deleted brings new shared columns. -/
theorem arises_append {new : ρ} (hlive : (HasEntry.entry new).isDeleted = false)
    (hundated : (HasEntry.entry new).deletedAt = none) :
    ∀ e ∈ (rows ++ [new]).map HasEntry.entry, Entry.Arises now (rows.map HasEntry.entry) e := by
  intro e he
  rw [List.map_append, List.map_singleton, List.mem_append, List.mem_singleton] at he
  rcases he with he | rfl
  · exact .kept e he
  · exact .new _ hlive hundated

/-- Rows that are left or dated where they stand have shared columns that were there before. -/
theorem arises_map {f : ρ → ρ} (h : ∀ r ∈ rows, HasEntry.entry (f r) = HasEntry.entry r ∨
      HasEntry.entry (f r) = (HasEntry.entry r).touched now.stored) :
    ∀ e ∈ (rows.map f).map HasEntry.entry, Entry.Arises now (rows.map HasEntry.entry) e := by
  intro e he
  rw [List.map_map] at he
  obtain ⟨r, hr, rfl⟩ := List.mem_map.mp he
  have hmem : HasEntry.entry r ∈ rows.map HasEntry.entry := List.mem_map_of_mem hr
  rw [Function.comp_apply]
  rcases h r hr with heq | heq
  · rw [heq]
    exact .kept _ hmem
  · rw [heq]
    exact .touched _ hmem

theorem arises_put [Table ρ] {new old : ρ} (hold : old ∈ rows)
    (h : HasEntry.entry new = (HasEntry.entry old).touched now.stored ∨
      HasEntry.entry new = (HasEntry.entry old).deleted now.stored) :
    ∀ e ∈ (rows.map fun r => if Table.id r = Table.id new then new else r).map HasEntry.entry,
      Entry.Arises now (rows.map HasEntry.entry) e := by
  intro e he
  rw [List.map_map] at he
  obtain ⟨r, hr, rfl⟩ := List.mem_map.mp he
  have hmem : HasEntry.entry old ∈ rows.map HasEntry.entry := List.mem_map_of_mem hold
  rw [Function.comp_apply]
  split_ifs with hid
  · rcases h with heq | heq
    · rw [heq]
      exact .touched _ hmem
    · rw [heq]
      exact .deleted _ hmem
  · exact .kept _ (List.mem_map_of_mem hr)

end

/-! ## Calls on rows that are kept one by one -/

section

variable [Editable ρ] [NamedTable ρ] [MarkedTable ρ]

/-- One table is written. -/
theorem Arise.of_rows {rows : List ρ} (h : ∀ e ∈ rows.map HasEntry.entry,
    Entry.Arises now ((Table.rows t : List ρ).map HasEntry.entry) e) :
    Arise now t (Table.setRows rows t) := by
  have hframe (name : TableName) (hname : name ∉ [NamedTable.name ρ]) :
      name.Agrees t (Table.setRows rows t) :=
    NamedTable.agrees_setRows (List.ne_of_not_mem_cons hname) rows t
  refine .of_changes hframe (List.forall_mem_singleton.mpr ?_)
  rw [MarkedTable.entries_eq, MarkedTable.entries_eq, Table.rows_setRows]
  exact h

/-- A table whose deleted rows are among its new ones retains them. -/
theorem Retains.of_rows {rows : List ρ} (h : ∀ r ∈ (Table.rows t : List ρ), HasEntry.isLive r = false →
    r ∈ rows) : Retains t (Table.setRows rows t) := by
  have hframe (name : TableName) (hname : name ∉ [NamedTable.name ρ]) :
      name.Agrees t (Table.setRows rows t) :=
    NamedTable.agrees_setRows (List.ne_of_not_mem_cons hname) rows t
  refine .of_changes hframe (List.forall_mem_singleton.mpr (MarkedTable.retains fun r hr hdead => ?_))
  rw [Table.rows_setRows]
  exact h r hr hdead

/-- Where shared columns come from after a call on records. -/
theorem arise_of_recordEffect {call : Store.RecordCall ρ φ} (h : RecordEffect now t call t') :
    Arise now t t' := by
  cases h with
  | stay => exact arise_refl now t
  | create given id insertable =>
      obtain ⟨hlive, hundated⟩ := MarkedTable.new_draft id given
      exact .of_rows (arises_append hlive hundated)
  | update given old mem same live admissible =>
      exact .of_rows (arises_put mem (.inl (entry_changed given old now)))
  | delete id old mem same live =>
      exact .of_rows (arises_put mem (.inr (entry_buried old now)))

end

section

variable [Table ρ] [HasEntry ρ]

/-- Rows with other ids than one that is put in its place stay. -/
theorem mem_put_of_dead (hkeys : (ids ρ t).Nodup) {new old r : ρ}
    (hold : old ∈ (Table.rows t : List ρ)) (hlive : HasEntry.isLive old = true)
    (hid : Table.id new = Table.id old) (hr : r ∈ (Table.rows t : List ρ))
    (hdead : HasEntry.isLive r = false) :
    r ∈ (Table.rows t).map fun r => if Table.id r = Table.id new then new else r := by
  have hne : Table.id r ≠ Table.id new :=
    fun heq => id_ne_of_live hkeys hr hdead hold hlive (heq.trans hid).symm
  exact List.mem_map.mpr ⟨r, hr, if_neg hne⟩

end

section

variable [Editable ρ] [NamedTable ρ] [NumberedTable ρ] [Exclusive ρ] [Referring ρ] [SoundTable ρ]
  [MarkedTable ρ]

/-- A call on records writes to live rows only. -/
theorem retains_of_recordEffect (hsound : Sound t) {call : Store.RecordCall ρ φ}
    (h : RecordEffect now t call t') : Retains t t' := by
  have htidy : Tidy ρ t := hsound.tidy
  cases h with
  | stay => exact retains_refl t
  | create given id insertable => exact .of_rows fun r hr _ => List.mem_append_left _ hr
  | update given old mem same live admissible =>
      have hid : Table.id (changed given old now) = Table.id old := SoundTable.id_changed given old now
      exact .of_rows fun r hr hdead => mem_put_of_dead htidy.keys mem live hid hr hdead
  | delete id old mem same live =>
      have hid : Table.id (buried old now) = Table.id old := SoundTable.id_buried old now
      exact .of_rows fun r hr hdead => mem_put_of_dead htidy.keys mem live hid hr hdead

end

/-! ## Calls on several tables -/

section

variable {b : Gradebook} {id : Int}

/-- The rating of a keeper is worked out anew. -/
theorem Arise.rate (hkeepers : b.keepers = t.keepers)
    (hreviews : ∀ e ∈ b.reviews.map Review.entry, Entry.Arises now (t.reviews.map Review.entry) e) :
    Arise now t (withGradebook (b.rate id now) t) := by
  refine .of_changes (fun _ => agrees_withGradebook)
    (List.forall_mem_cons.mpr ⟨hreviews, List.forall_mem_singleton.mpr ?_⟩)
  change ∀ e ∈ (b.keepers.map _).map HasEntry.entry, Entry.Arises now (t.keepers.map HasEntry.entry) e
  rw [hkeepers]
  refine arises_map fun k _ => ?_
  split_ifs
  · exact .inr rfl
  · exact .inl rfl

/-- To rate a keeper takes no deleted review away, and changes no more of a deleted keeper than the rating. -/
theorem Retains.rate (hkeepers : b.keepers = t.keepers)
    (hreviews : ∀ r ∈ t.reviews, r.entry.isLive = false → r ∈ b.reviews) (now : Instant) :
    Retains t (withGradebook (b.rate id now) t) := by
  refine .of_changes (fun _ => agrees_withGradebook)
    (List.forall_mem_cons.mpr ⟨hreviews, List.forall_mem_singleton.mpr fun k hk _ => ?_⟩)
  refine ⟨_, List.mem_map.mpr ⟨k, hkeepers ▸ hk, rfl⟩, ?_⟩
  split_ifs
  · rfl
  · exact .refl k

end

/-- **Where the shared columns of a row come from, whatever a call does.** -/
theorem arise_of_effect {call : Store.Call} (h : Effect now t call t') : Arise now t t' := by
  have hframe (name : TableName) (hname : name ∉ call.writes) : name.Agrees t t' := h.agrees hname
  cases h with
  | stay => exact arise_refl now t
  | user _ _ h | keeper _ _ h | seeker _ _ h | vet _ _ h | post _ _ h | message _ _ h =>
      exact arise_of_recordEffect h
  | createReview given id keeper mem same live insertable =>
      exact .rate rfl (arises_append rfl rfl)
  | updateReview given old mem same live admissible =>
      exact .rate rfl (arises_put mem (.inl (entry_changed given old now)))
  | deleteReview id old mem same live =>
      exact .rate rfl (arises_put mem (.inr (entry_buried old now)))
  | fileReport given threshold id post mem same live insertable =>
      refine .of_changes hframe (List.forall_mem_cons.mpr ⟨?_, List.forall_mem_singleton.mpr nofun⟩)
      change ∀ e ∈ (t.posts.map _).map HasEntry.entry, Entry.Arises now (t.posts.map HasEntry.entry) e
      refine arises_map fun p _ => ?_
      split_ifs
      · exact .inr rfl
      · exact .inl rfl
  | approvePost id old mem same live =>
      refine .of_changes hframe (List.forall_mem_cons.mpr ⟨?_, List.forall_mem_singleton.mpr nofun⟩)
      exact arises_put mem (.inl rfl)
  | blockPost id old mem same live => exact .of_rows (arises_put mem (.inl rfl))
  | createChat given ids id count insertable =>
      refine .of_changes hframe (List.forall_mem_cons.mpr ⟨?_, List.forall_mem_singleton.mpr nofun⟩)
      exact arises_append rfl rfl
  | removeMember chatId userId chat mem same live member =>
      refine .of_changes hframe (List.forall_mem_cons.mpr ⟨?_, List.forall_mem_singleton.mpr nofun⟩)
      refine arises_put mem ?_
      cases isDeserted chatId (unjoined chatId userId t)
      · exact .inl rfl
      · exact .inr rfl
  | replaceSession | addSession | takeSession | deleteSession | addFavourite | removeFavourite =>
      exact .of_changes hframe (List.forall_mem_singleton.mpr nofun)

/-- **The mark and the date of the deletion are set together, whatever happens.** -/
theorem marked_after (events : List Event) : Marked (after events).tables := by
  have hcalls : KeptByCalls fun db => Marked db.tables := fun call now db h name e he =>
    (arise_of_effect (effect_perform now db call) name e he).isMarked (h name)
  refine after_of_calls hcalls (fun name e he => ?_) events
  cases name <;> cases he

/-! ## Deleted rows stay -/

/-- The members of a new chat are no members of other chats. -/
theorem filter_joined {chatId other : Int} (hne : chatId ≠ other) {ids : List Int} {chat : Chat} :
    ((joined chatId ids now (addRow chat t)).members.filter fun m => m.chatId = other) =
      t.members.filter fun m => m.chatId = other := by
  change (t.members ++ ids.map fun userId => (⟨chatId, userId, now.stored⟩ : Membership)).filter _ = _
  rw [List.filter_append, List.append_right_eq_self, List.filter_eq_nil_iff]
  intro m hm
  obtain ⟨userId, -, rfl⟩ := List.mem_map.mp hm
  rw [decide_eq_true_eq]
  exact hne

/-- Who leaves a chat stays in the other ones. -/
theorem filter_unjoined {chatId other userId : Int} (hne : chatId ≠ other) :
    ((unjoined chatId userId t).members.filter fun m => m.chatId = other) =
      t.members.filter fun m => m.chatId = other := by
  unfold unjoined
  rw [List.filter_filter]
  refine List.filter_congr fun m _ => ?_
  by_cases hother : m.chatId = other
  · simp [hother, hne.symm]
  · simp [hother]

/-- **Deleted rows stay, whatever a call does.** -/
theorem retains_of_effect (hsound : Sound t) {call : Store.Call} (h : Effect now t call t') :
    Retains t t' := by
  have hframe (name : TableName) (hname : name ∉ call.writes) : name.Agrees t t' := h.agrees hname
  -- a call finds what it changes among the live rows, so that a deleted row, having another id,
  -- stays
  cases h with
  | stay => exact retains_refl t
  | user _ _ h | keeper _ _ h | seeker _ _ h | vet _ _ h | post _ _ h | message _ _ h =>
      exact retains_of_recordEffect hsound h
  | createReview given id keeper mem same live insertable =>
      exact .rate rfl (fun r hr _ => List.mem_append_left _ hr) now
  | updateReview given old mem same live admissible =>
      have hid : Table.id (changed given old now) = Table.id old := rfl
      exact .rate rfl (fun r hr hdead => mem_put_of_dead (hsound .reviews).keys mem live hid hr hdead) now
  | deleteReview id old mem same live =>
      have hid : Table.id (buried old now) = Table.id old := rfl
      exact .rate rfl (fun r hr hdead => mem_put_of_dead (hsound .reviews).keys mem live hid hr hdead) now
  | fileReport given threshold id post mem same live insertable =>
      refine .of_changes hframe (List.forall_mem_cons.mpr ⟨fun p hp hdead => ?_,
        List.forall_mem_singleton.mpr trivial⟩)
      have hne : p.entry.id ≠ given.postId :=
        fun heq => id_ne_of_live (hsound .posts).keys hp hdead mem live (same.trans heq.symm)
      exact List.mem_map.mpr ⟨p, hp, if_neg hne⟩
  | approvePost id old mem same live =>
      refine .of_changes hframe (List.forall_mem_cons.mpr ⟨fun p hp hdead => ?_,
        List.forall_mem_singleton.mpr trivial⟩)
      exact mem_put_of_dead (hsound .posts).keys mem live rfl hp hdead
  | blockPost id old mem same live =>
      have hid : Table.id (old.barred now) = Table.id old := rfl
      exact .of_rows fun p hp hdead => mem_put_of_dead (hsound .posts).keys mem live hid hp hdead
  | createChat given ids id count insertable =>
      refine .of_changes hframe (List.forall_mem_cons.mpr ⟨fun c hc _ => List.mem_append_left _ hc,
        List.forall_mem_singleton.mpr fun c hc _ => ?_⟩)
      exact filter_joined (fun heq => insertable.unused c hc heq.symm)
  | removeMember chatId userId chat mem same live member =>
      have hid : Table.id (chat.left (isDeserted chatId (unjoined chatId userId t)) now) = Table.id chat :=
        Chat.id_left _ _ _
      refine .of_changes hframe (List.forall_mem_cons.mpr ⟨fun c hc hdead => ?_,
        List.forall_mem_singleton.mpr fun c hc hdead => ?_⟩)
      · exact mem_put_of_dead (hsound .chats).keys mem live hid hc hdead
      · exact filter_unjoined
          fun heq => id_ne_of_live (hsound .chats).keys hc hdead mem live (same.trans heq)
  | replaceSession | addSession | takeSession | deleteSession | addFavourite | removeFavourite =>
      exact .of_changes hframe (List.forall_mem_singleton.mpr trivial)

/-! ## Runs -/

/-- **Deleted rows stay as a run goes on.** -/
theorem retains_append (events events' : List Event) :
    Retains (after events).tables (after (events ++ events')).tables := by
  have hcalls : KeptByCalls fun db => Sound db.tables ∧ Retains (after events).tables db.tables :=
    fun call now db h =>
      have heffect := effect_perform now db call
      ⟨sound_of_effect h.1 heffect, h.2.trans (retains_of_effect h.1 heffect)⟩
  exact (after_append_of_calls hcalls ⟨isSound_after events, retains_refl _⟩ events').2

end Database

end Fostering
