import Mathlib.Data.List.Perm.Subperm
import Fostering.Proofs.Database.Constraints
import Fostering.Proofs.Posts.Integrity

/-!
# Sound tables

Tables are *sound* if each of them is tidy; a chat has a member once, a user marks a keeper once, and a
user has one session for a device. Every call of the store leaves sound tables behind: what it adds or
changes has passed the checks of the database, and the rows that others refer to are never erased.

* `sound_of_effect`: what a call does to sound tables leaves them sound.
* `isSound_after`: whatever happens to the empty database leaves sound tables.
-/

namespace Fostering

namespace Database

/-- Who takes part in a chat does so once, and is a user. -/
structure TidyMembers (t : Tables) : Prop where
  once : (t.members.map fun m => (m.chatId, m.userId)).Nodup
  chats : ∀ m ∈ t.members, m.chatId ∈ ids Chat t
  users : ∀ m ∈ t.members, m.userId ∈ ids User t

/-- A user marks a keeper once. -/
structure TidyFavourites (t : Tables) : Prop where
  once : (t.favourites.map fun f => (f.userId, f.keeperId)).Nodup
  users : ∀ f ∈ t.favourites, f.userId ∈ ids User t
  keepers : ∀ f ∈ t.favourites, f.keeperId ∈ ids Keeper t

/-- A user has one session for a device. -/
structure TidySessions (t : Tables) : Prop extends Tidy Session t where
  devices : Apart (fun r s : Session => ¬(r.userId = s.userId ∧ r.fingerprint = s.fingerprint))
    t.sessions

end Database

open Database

namespace TableName

/-- The rows of a table respect its unique indexes and its references. -/
def IsSound : TableName → Tables → Prop
  | users, t => Tidy User t
  | keepers, t => Tidy Keeper t
  | seekers, t => Tidy Seeker t
  | vets, t => Tidy Vet t
  | posts, t => Tidy Post t
  | reports, t => Tidy Report t
  | reviews, t => Tidy Review t
  | chats, t => Tidy Chat t
  | members, t => TidyMembers t
  | messages, t => Tidy Message t
  | favourites, t => TidyFavourites t
  | sessions, t => TidySessions t

variable {name : TableName} {t t' : Tables}

/-- A table stays sound if its rows stay. -/
theorem isSound_of_agrees (hagrees : name.Agrees t t') (hgrows : Grows t t') (h : name.IsSound t) :
    name.IsSound t' := by
  have husers : Database.ids User t ⊆ Database.ids User t' := hgrows .users (by decide)
  have hkeepers : Database.ids Keeper t ⊆ Database.ids Keeper t' := hgrows .keepers (by decide)
  have hchats : Database.ids Chat t ⊆ Database.ids Chat t' := hgrows .chats (by decide)
  cases name with
  | users | keepers | seekers | vets | posts | reports | reviews | chats | messages =>
      exact h.same hagrees hgrows
  | members =>
      have hrows : t'.members = t.members := hagrees
      constructor
      · rw [hrows]
        exact h.once
      · rw [hrows]
        exact fun m hm => hchats (h.chats m hm)
      · rw [hrows]
        exact fun m hm => husers (h.users m hm)
  | favourites =>
      have hrows : t'.favourites = t.favourites := hagrees
      constructor
      · rw [hrows]
        exact h.once
      · rw [hrows]
        exact fun f hf => husers (h.users f hf)
      · rw [hrows]
        exact fun f hf => hkeepers (h.keepers f hf)
  | sessions =>
      have hrows : t'.sessions = t.sessions := hagrees
      refine ⟨h.same hagrees hgrows, ?_⟩
      rw [hrows]
      exact h.devices

end TableName

namespace Database

variable {ρ φ : Type} {t t' : Tables} {now : Instant}

/-- Every table respects its unique indexes and its references. -/
def Sound (t : Tables) : Prop := ∀ name : TableName, name.IsSound t

/-- Tables stay sound if those that are written do, and nothing goes that others refer to. -/
theorem Sound.of_changes {tables : List TableName} (h : Sound t)
    (hframe : ∀ name, name ∉ tables → name.Agrees t t') (hgrows : Grows t t')
    (hwritten : ∀ name ∈ tables, name.IsSound t') : Sound t' := by
  intro name
  by_cases hname : name ∈ tables
  · exact hwritten name hname
  · exact TableName.isSound_of_agrees (hframe name hname) hgrows (h name)

/-! ## Rows that are kept one by one -/

/-- A table whose rows keep their ids and references when they are changed, and stand in nobody's way
any more when they are deleted. -/
class SoundTable (ρ : Type) [Editable ρ] [NamedTable ρ] [NumberedTable ρ] [Exclusive ρ] [Referring ρ] :
    Prop where
  isSound_iff : ∀ t, (NamedTable.name ρ).IsSound t ↔ Tidy ρ t
  id_changed : ∀ (given old : ρ) (now : Instant), Table.id (changed given old now) = Table.id old
  id_buried : ∀ (r : ρ) (now : Instant), Table.id (buried r now) = Table.id r
  references_changed : ∀ (given old : ρ) (now : Instant),
    Referring.references (changed given old now) = Referring.references old
  references_buried : ∀ (r : ρ) (now : Instant),
    Referring.references (buried r now) = Referring.references r
  excludes_buried : ∀ {r s : ρ} {now : Instant}, Exclusive.Excludes (buried r now) s →
    Exclusive.Excludes r s

instance : SoundTable User where
  isSound_iff _ := Iff.rfl
  id_changed _ _ _ := rfl
  id_buried _ _ := rfl
  references_changed _ _ _ := rfl
  references_buried _ _ := rfl
  excludes_buried := id

instance : SoundTable Keeper where
  isSound_iff _ := Iff.rfl
  id_changed _ _ _ := rfl
  id_buried _ _ := rfl
  references_changed _ _ _ := rfl
  references_buried _ _ := rfl
  excludes_buried h := absurd h.1 Bool.false_ne_true

instance : SoundTable Seeker where
  isSound_iff _ := Iff.rfl
  id_changed _ _ _ := rfl
  id_buried _ _ := rfl
  references_changed _ _ _ := rfl
  references_buried _ _ := rfl
  excludes_buried h := absurd h.1 Bool.false_ne_true

instance : SoundTable Vet where
  isSound_iff _ := Iff.rfl
  id_changed _ _ _ := rfl
  id_buried _ _ := rfl
  references_changed _ _ _ := rfl
  references_buried _ _ := rfl
  excludes_buried h := absurd h.1 Bool.false_ne_true

instance : SoundTable Post where
  isSound_iff _ := Iff.rfl
  id_changed _ _ _ := rfl
  id_buried _ _ := rfl
  references_changed _ _ _ := rfl
  references_buried _ _ := rfl
  excludes_buried := id

instance : SoundTable Review where
  isSound_iff _ := Iff.rfl
  id_changed _ _ _ := rfl
  id_buried _ _ := rfl
  references_changed _ _ _ := rfl
  references_buried _ _ := rfl
  excludes_buried h := absurd h.1 Bool.false_ne_true

instance : SoundTable Message where
  isSound_iff _ := Iff.rfl
  id_changed _ _ _ := rfl
  id_buried _ _ := rfl
  references_changed _ _ _ := rfl
  references_buried _ _ := rfl
  excludes_buried := id

section

variable [Editable ρ] [NamedTable ρ] [NumberedTable ρ] [Exclusive ρ] [Referring ρ] [SoundTable ρ]

open SoundTable

/-- Each table of sound tables is tidy. -/
theorem Sound.tidy (h : Sound t) : Tidy ρ t := (isSound_iff t).mp (h (NamedTable.name ρ))

/-- Tables stay sound if the one table that is written stays tidy. -/
theorem Sound.of_tidy (h : Sound t) {rows : List ρ} (ht' : t' = Table.setRows rows t)
    (hgrows : Grows t t') (htidy : Tidy ρ t') : Sound t' := by
  have hframe (name : TableName) (hname : name ∉ [NamedTable.name ρ]) : name.Agrees t t' := by
    rw [ht']
    exact NamedTable.agrees_setRows (List.ne_of_not_mem_cons hname) rows t
  exact h.of_changes hframe hgrows (List.forall_mem_singleton.mpr ((isSound_iff t').mpr htidy))

/-- A changed row stands in no other's way. -/
theorem Tidy.free_changed {given old : ρ} (hadmissible : IsAdmissible t (changed given old now)) :
    ∀ s ∈ (Table.rows t : List ρ), Table.id s ≠ Table.id old →
      ¬Exclusive.Excludes (changed given old now) s :=
  fun _ hs hne => not_excludes_of_isAdmissible hadmissible hs (id_changed given old now ▸ hne)

/-- A deleted row stands in no other's way. -/
theorem Tidy.free_buried (h : Tidy ρ t) {old : ρ} (hold : old ∈ (Table.rows t : List ρ)) :
    ∀ s ∈ (Table.rows t : List ρ), Table.id s ≠ Table.id old →
      ¬Exclusive.Excludes (buried old now) s :=
  fun s hs hne hexcludes => h.apart old hold s hs (Ne.symm hne) (excludes_buried hexcludes)

/-- A call on records leaves sound tables sound. -/
theorem sound_of_recordEffect {call : Store.RecordCall ρ φ} (h : Sound t)
    (heffect : RecordEffect now t call t') : Sound t' := by
  have htidy : Tidy ρ t := h.tidy
  cases heffect with
  | stay => exact h
  | create given id insertable =>
      have hgrows := grows_addRow (Table.setId id (draft given)) t
      exact h.of_tidy rfl hgrows (htidy.added (rows_addRow _ t) hgrows insertable)
  | update given old mem same live admissible =>
      have hgrows := grows_putRow (changed given old now) t
      exact h.of_tidy rfl hgrows (htidy.put (rows_putRow _ t) hgrows mem (id_changed _ _ _)
        (references_changed _ _ _) (Tidy.free_changed admissible))
  | delete id old mem same live =>
      have hgrows := grows_putRow (buried old now) t
      exact h.of_tidy rfl hgrows (htidy.put (rows_putRow _ t) hgrows mem (id_buried _ _)
        (references_buried _ _) (htidy.free_buried mem))

end

/-! ## Reviews -/

/-- Tables stay sound if the rating of a keeper is worked out anew, and the reviews stay tidy. -/
theorem Sound.rateKeeper (h : Sound t) {b : Gradebook} (hkeepers : b.keepers = t.keepers) (id : Int)
    (now : Instant) (hreviews : Grows t (withGradebook (b.rate id now) t) →
      Tidy Review (withGradebook (b.rate id now) t)) :
    Sound (withGradebook (b.rate id now) t) := by
  let rated (k : Keeper) : Keeper :=
    if k.entry.id = id then
      { k with entry := k.entry.touched now.stored, rating := averageGrade (b.grades id) }
    else k
  have hrows : (Table.rows (withGradebook (b.rate id now) t) : List Keeper) = t.keepers.map rated := by
    rw [← hkeepers]
    rfl
  have hids : TableName.keepers.ids (withGradebook (b.rate id now) t) = TableName.keepers.ids t := by
    change (b.rate id now).ids = t.keepers.map _
    rw [Gradebook.ids_rate, ← hkeepers]
    rfl
  have hframe (name : TableName) (hname : name ∉ [TableName.reviews, .keepers]) :
      name.Agrees t (withGradebook (b.rate id now) t) := agrees_withGradebook hname
  have hgrows : Grows t (withGradebook (b.rate id now) t) := by
    refine grows_of_changes hframe (List.forall_mem_cons.mpr ⟨fun h => absurd h (by decide), ?_⟩)
    exact List.forall_mem_singleton.mpr fun _ => hids ▸ List.Subset.refl _
  refine h.of_changes hframe hgrows (List.forall_mem_cons.mpr ⟨hreviews hgrows, ?_⟩)
  have htidy : Tidy Keeper t := h.tidy
  refine List.forall_mem_singleton.mpr (htidy.mapped hrows hgrows (fun k _ => ?_) (fun k _ => ?_) ?_)
  · unfold rated
    split_ifs <;> rfl
  · unfold rated
    split_ifs <;> rfl
  · intro k hk l hl hne
    obtain ⟨k₀, hk₀, rfl⟩ := List.mem_map.mp hk
    obtain ⟨l₀, hl₀, rfl⟩ := List.mem_map.mp hl
    revert hne
    unfold rated
    split_ifs <;> exact htidy.apart k₀ hk₀ l₀ hl₀

/-! ## Posts -/

/-- Tables stay sound if a report is new, and the reports against its post are counted anew. -/
theorem Sound.reportPost (h : Sound t) {new : Report} (hnew : IsInsertable t new) (id threshold : Int)
    (now : Instant) : Sound (withBoard (Board.recount id threshold now
      (Board.addReport new ⟨t.posts, t.reports⟩)) t) := by
  let b : Board := Board.addReport new ⟨t.posts, t.reports⟩
  let counted (p : Post) : Post :=
    if p.entry.id = id then p.counted (b.count id) threshold now else p
  let t' : Tables := withBoard (b.recount id threshold now) t
  have hframe (name : TableName) (hname : name ∉ [TableName.posts, .reports]) : name.Agrees t t' :=
    agrees_withBoard hname
  have hids : TableName.posts.ids t' = TableName.posts.ids t := Board.ids_recount
  have hgrows : Grows t t' := by
    refine grows_of_changes hframe (List.forall_mem_cons.mpr ⟨fun _ => hids ▸ List.Subset.refl _, ?_⟩)
    exact List.forall_mem_singleton.mpr fun h => absurd h (by decide)
  have hposts : Tidy Post t' := by
    refine h.tidy.mapped (f := counted) rfl hgrows (fun p _ => ?_) (fun p _ => ?_) ?_
    · unfold counted
      split_ifs <;> rfl
    · unfold counted
      split_ifs <;> rfl
    · exact fun _ _ _ _ _ hexcludes => hexcludes
  have hreports : Tidy Report t' := Tidy.added (h .reports) rfl hgrows hnew
  exact h.of_changes hframe hgrows
    (List.forall_mem_cons.mpr ⟨hposts, List.forall_mem_singleton.mpr hreports⟩)

/-- Tables stay sound if reports are erased, and a post takes the place of the one with its id. -/
theorem Sound.judgePost (h : Sound t) {new old : Post} (hold : old ∈ t.posts)
    (hid : new.entry.id = old.entry.id) (hauthor : new.authorId = old.authorId) (p : Report → Bool) :
    Sound (putRow new (dropRows p t)) := by
  let t' : Tables := putRow new (dropRows p t)
  have hframe (name : TableName) (hname : name ∉ [TableName.posts, .reports]) : name.Agrees t t' :=
    agrees_judged hname
  have hids : TableName.posts.ids t' = TableName.posts.ids t := ids_putRow new (dropRows p t)
  have hgrows : Grows t t' := by
    refine grows_of_changes hframe (List.forall_mem_cons.mpr ⟨fun _ => hids ▸ List.Subset.refl _, ?_⟩)
    exact List.forall_mem_singleton.mpr fun h => absurd h (by decide)
  have hreferences : Referring.references new = Referring.references old :=
    congrArg (fun id => [(TableName.users, id)]) hauthor
  have hposts : Tidy Post t' :=
    h.tidy.put rfl hgrows hold hid hreferences fun _ _ _ hexcludes => hexcludes
  have hreports : Tidy Report t' := Tidy.filtered (h .reports) rfl hgrows
  exact h.of_changes hframe hgrows
    (List.forall_mem_cons.mpr ⟨hposts, List.forall_mem_singleton.mpr hreports⟩)

/-! ## Chats -/

section

variable {members : List Int}

/-- The live users who are counted. -/
def countedUsers (t : Tables) (members : List Int) : List User :=
  t.users.filter fun u => u.entry.isLive && members.contains u.entry.id

/-- The users who are counted among those named are the live ones. -/
theorem mem_ids_countedUsers {id : Int} : id ∈ (countedUsers t members).map Table.id ↔
    id ∈ members ∧ ∃ u ∈ t.users, u.entry.id = id ∧ u.entry.isLive = true := by
  constructor
  · intro hid
    obtain ⟨u, hu, rfl⟩ := List.mem_map.mp hid
    obtain ⟨hu, hp⟩ := List.mem_filter.mp hu
    rw [Bool.and_eq_true, List.contains_iff_mem] at hp
    exact ⟨hp.2, u, hu, rfl, hp.1⟩
  · rintro ⟨hid, u, hu, rfl, hlive⟩
    refine List.mem_map.mpr ⟨u, List.mem_filter.mpr ⟨hu, ?_⟩, rfl⟩
    rw [Bool.and_eq_true, List.contains_iff_mem]
    exact ⟨hlive, hid⟩

/-- As many live users are counted as there are ids, if and only if the ids are told apart and each is
that of a live user. -/
theorem countLiveUsers_eq_length_iff (hkeys : (ids User t).Nodup) :
    countLiveUsers t members = members.length ↔
      members.Nodup ∧ ∀ id ∈ members, ∃ u ∈ t.users, u.entry.id = id ∧ u.entry.isLive = true := by
  let found : List Int := (countedUsers t members).map Table.id
  have hnodup : found.Nodup := hkeys.sublist (List.filter_sublist.map _)
  have hlength : countLiveUsers t members = found.length :=
    (List.length_map Table.id).symm
  rw [hlength]
  constructor
  · intro hcount
    have hsub : found ⊆ members := fun id hid => (mem_ids_countedUsers.mp hid).1
    have hperm : found.Perm members :=
      (hnodup.subperm hsub).perm_of_length_le (Nat.le_of_eq hcount.symm)
    exact ⟨hperm.nodup_iff.mp hnodup, fun id hid => (mem_ids_countedUsers.mp (hperm.mem_iff.mpr hid)).2⟩
  · rintro ⟨hdistinct, hlive⟩
    have hmem (id : Int) : id ∈ found ↔ id ∈ members :=
      mem_ids_countedUsers.trans (and_iff_left_of_imp (hlive id))
    exact ((List.perm_ext_iff_of_nodup hnodup hdistinct).mpr hmem).length_eq

end

/-- Members of a new chat come into no chat twice. -/
theorem TidyMembers.joined (h : TidyMembers t) {members : List Int} (hmembers : members.Nodup)
    {chat : Chat} (hnew : ∀ c ∈ t.chats, c.entry.id ≠ chat.entry.id)
    (husers : ∀ id ∈ members, id ∈ ids User t) :
    TidyMembers (Database.joined chat.entry.id members now (addRow chat t)) := by
  let t' : Tables := Database.joined chat.entry.id members now (addRow chat t)
  have hchats : ids Chat t' = ids Chat t ++ [chat.entry.id] := by
    unfold ids
    exact List.map_append
  have hfresh : chat.entry.id ∉ ids Chat t := by
    intro hused
    obtain ⟨c, hc, hid⟩ := List.mem_map.mp hused
    exact hnew c hc hid
  constructor
  -- the chat is new, so that none of its memberships can be there already
  · change ((t.members ++ members.map fun userId => (⟨chat.entry.id, userId, now.stored⟩ : Membership)).map
      fun m => (m.chatId, m.userId)).Nodup
    rw [List.map_append, List.map_map, List.nodup_append]
    refine ⟨h.once, hmembers.map fun _ _ heq => (Prod.mk.inj heq).2, ?_⟩
    rintro _ hold _ hjoined rfl
    obtain ⟨m, hm, heq⟩ := List.mem_map.mp hold
    obtain ⟨userId, -, heq'⟩ := List.mem_map.mp hjoined
    have hid : m.chatId = chat.entry.id := (Prod.mk.inj (heq.trans heq'.symm)).1
    exact hfresh (hid ▸ h.chats m hm)
  · intro m hm
    rw [hchats]
    rcases List.mem_append.mp hm with hold | hjoined
    · exact List.mem_append_left _ (h.chats m hold)
    · obtain ⟨userId, -, rfl⟩ := List.mem_map.mp hjoined
      exact List.mem_append_right _ List.mem_cons_self
  · intro m hm
    rcases List.mem_append.mp hm with hold | hjoined
    · exact h.users m hold
    · obtain ⟨userId, hid, rfl⟩ := List.mem_map.mp hjoined
      exact husers userId hid

/-- Tables stay sound if a chat is opened for live users. -/
theorem Sound.openChat (h : Sound t) {chat : Chat} (hnew : IsInsertable t chat) {members : List Int}
    (hcount : countLiveUsers t members = members.length) (now : Instant) :
    Sound (joined chat.entry.id members now (addRow chat t)) := by
  let t' : Tables := joined chat.entry.id members now (addRow chat t)
  have hframe (name : TableName) (hname : name ∉ [TableName.chats, .members]) : name.Agrees t t' :=
    agrees_joined hname
  have hchats : TableName.chats.ids t ⊆ TableName.chats.ids t' := grows_addRow chat t .chats (by decide)
  have hgrows : Grows t t' := by
    refine grows_of_changes hframe (List.forall_mem_cons.mpr ⟨fun _ => hchats, ?_⟩)
    exact List.forall_mem_singleton.mpr fun h => absurd h (by decide)
  have htidy : Tidy Chat t' := Tidy.added (h .chats) rfl hgrows hnew
  obtain ⟨hnodup, hlive⟩ := (countLiveUsers_eq_length_iff (h .users).keys).mp hcount
  have husers : ∀ id ∈ members, id ∈ ids User t := by
    intro id hid
    obtain ⟨u, hu, rfl, -⟩ := hlive id hid
    exact List.mem_map_of_mem hu
  have hmembers : TidyMembers t' := TidyMembers.joined (h .members) hnodup hnew.unused husers
  exact h.of_changes hframe hgrows
    (List.forall_mem_cons.mpr ⟨htidy, List.forall_mem_singleton.mpr hmembers⟩)

/-- Tables stay sound if a member leaves a chat. -/
theorem Sound.leaveChat (h : Sound t) {chat : Chat} (hmem : chat ∈ t.chats) (userId : Int)
    (isEmpty : Bool) (now : Instant) :
    Sound (putRow (chat.left isEmpty now) (unjoined chat.entry.id userId t)) := by
  let t' : Tables := putRow (chat.left isEmpty now) (unjoined chat.entry.id userId t)
  have hframe (name : TableName) (hname : name ∉ [TableName.chats, .members]) : name.Agrees t t' :=
    agrees_unjoined hname
  have hids : TableName.chats.ids t' = TableName.chats.ids t := ids_putRow _ _
  have hgrows : Grows t t' := by
    refine grows_of_changes hframe (List.forall_mem_cons.mpr ⟨fun _ => hids ▸ List.Subset.refl _, ?_⟩)
    exact List.forall_mem_singleton.mpr fun h => absurd h (by decide)
  have hid : (chat.left isEmpty now).entry.id = chat.entry.id := chat.id_left isEmpty now
  have htidy : Tidy Chat t' :=
    Tidy.put (h .chats) rfl hgrows hmem hid rfl fun _ _ _ hexcludes => hexcludes
  have hmembers : TidyMembers t := h .members
  have hmembers' : TidyMembers t' := by
    have hmem {m : Membership} (hm : m ∈ t'.members) : m ∈ t.members := (List.mem_filter.mp hm).1
    constructor
    · exact hmembers.once.sublist (List.filter_sublist.map _)
    · exact fun m hm => hgrows .chats (by decide) (hmembers.chats m (hmem hm))
    · exact fun m hm => hmembers.users m (hmem hm)
  exact h.of_changes hframe hgrows
    (List.forall_mem_cons.mpr ⟨htidy, List.forall_mem_singleton.mpr hmembers'⟩)

/-! ## Sessions -/

/-- Tables stay sound if only the sessions are written, and stay tidy. -/
theorem Sound.of_sessions (h : Sound t) {rows : List Session} (ht' : t' = Table.setRows rows t)
    (htidy : Grows t t' → TidySessions t') : Sound t' := by
  have hframe (name : TableName) (hname : name ∉ [TableName.sessions]) : name.Agrees t t' := by
    rw [ht']
    have hother : name ≠ NamedTable.name Session := List.ne_of_not_mem_cons hname
    exact NamedTable.agrees_setRows hother rows t
  have hgrows : Grows t t' :=
    grows_of_changes hframe (List.forall_mem_singleton.mpr fun h => absurd h (by decide))
  exact h.of_changes hframe hgrows (List.forall_mem_singleton.mpr (htidy hgrows))

/-- Tables stay sound if sessions are erased. -/
theorem Sound.dropSessions (h : Sound t) (p : Session → Bool) : Sound (dropRows p t) := by
  refine h.of_sessions rfl fun hgrows => ?_
  have hsessions : TidySessions t := h .sessions
  have hmem {r : Session} (hr : r ∈ (dropRows p t).sessions) : r ∈ t.sessions :=
    (List.mem_filter.mp hr).1
  exact ⟨hsessions.filtered (rows_dropRows p t) hgrows, hsessions.devices.of_subset fun _ => hmem⟩

/-- Tables stay sound if a user gets a first session on a device. -/
theorem Sound.addSession (h : Sound t) {given new : Session} (hnew : IsInsertable t new)
    (hdevice : new.userId = given.userId ∧ new.fingerprint = given.fingerprint)
    (hfirst : ∀ old ∈ t.sessions, isFor given old = false) : Sound (addRow new t) := by
  refine h.of_sessions rfl fun hgrows => ?_
  have hsessions : TidySessions t := h .sessions
  refine ⟨hsessions.added (rows_addRow new t) hgrows hnew, ?_⟩
  refine hsessions.devices.added (fun h h' => h ⟨h'.1.symm, h'.2.symm⟩) fun s hs => ?_
  intro hsame
  have hfor : isFor given s = true :=
    isFor_iff.mpr ⟨hsame.1.symm.trans hdevice.1, hsame.2.symm.trans hdevice.2⟩
  rw [hfirst s hs] at hfor
  cases hfor

/-- Tables stay sound if a session takes the place of the one for its device. -/
theorem Sound.replaceSession (h : Sound t) {given old : Session} (hmem : old ∈ t.sessions)
    (hfor : isFor given old = true) (hrow : IsAdmissible t (placed given old.id now))
    (huser : given.userId = old.userId) : Sound (putRow (placed given old.id now) t) := by
  let new : Session := placed given old.id now
  refine h.of_sessions rfl fun hgrows => ?_
  have hsessions : TidySessions t := h .sessions
  have hreferences : Referring.references new = Referring.references old :=
    congrArg (fun id => [(TableName.users, id)]) huser
  have hfree : ∀ s ∈ t.sessions, s.id ≠ old.id → ¬Exclusive.Excludes new s :=
    fun s hs hne => not_excludes_of_isAdmissible hrow hs hne
  refine ⟨hsessions.put (rows_putRow new t) hgrows hmem rfl hreferences hfree, ?_⟩
  have hdevice := isFor_iff.mp hfor
  have hapart : ∀ s ∈ t.sessions, s.id ≠ new.id →
      ¬(new.userId = s.userId ∧ new.fingerprint = s.fingerprint) := fun s hs hne hsame =>
    hsessions.devices s hs old hmem hne
      ⟨hsame.1.symm.trans hdevice.1.symm, hsame.2.symm.trans hdevice.2.symm⟩
  exact hsessions.devices.put (fun h h' => h ⟨h'.1.symm, h'.2.symm⟩) hapart

/-! ## Favourites -/

/-- Tables stay sound if only the marks are written, and stay tidy. -/
theorem Sound.of_favourites (h : Sound t) {favourites : List Favourite}
    (htidy : TidyFavourites { t with favourites }) : Sound { t with favourites } := by
  have hframe (name : TableName) (hname : name ∉ [TableName.favourites]) :
      name.Agrees t { t with favourites } :=
    TableName.agrees_favourites (List.ne_of_not_mem_cons hname) favourites t
  have hgrows : Grows t { t with favourites } :=
    grows_of_changes hframe (List.forall_mem_singleton.mpr fun h => absurd h (by decide))
  exact h.of_changes hframe hgrows (List.forall_mem_singleton.mpr htidy)

/-- Tables stay sound if a user marks a keeper for the first time. -/
theorem Sound.mark (h : Sound t) {userId keeperId : Int} (huser : userId ∈ ids User t)
    (hkeeper : keeperId ∈ ids Keeper t)
    (hfirst : ∀ f ∈ t.favourites, isMark userId keeperId f = false) (now : Instant) :
    Sound (marked ⟨userId, keeperId, now.stored⟩ t) := by
  have hfavourites : TidyFavourites t := h .favourites
  refine h.of_favourites ⟨?_, fun f hf => ?_, fun f hf => ?_⟩
  · rw [List.map_append, List.map_singleton, ← List.concat_eq_append, List.nodup_concat]
    refine ⟨fun hused => ?_, hfavourites.once⟩
    obtain ⟨f, hf, heq⟩ := List.mem_map.mp hused
    have hsame : isMark userId keeperId f = true := by
      have hpair := Prod.mk.inj heq
      unfold isMark
      rw [hpair.1, hpair.2, decide_eq_true rfl, decide_eq_true rfl]
      rfl
    rw [hfirst f hf] at hsame
    cases hsame
  · rcases List.mem_append.mp hf with hf | hf
    · exact hfavourites.users f hf
    · rw [List.mem_singleton.mp hf]
      exact huser
  · rcases List.mem_append.mp hf with hf | hf
    · exact hfavourites.keepers f hf
    · rw [List.mem_singleton.mp hf]
      exact hkeeper

/-- Tables stay sound if a mark is taken back. -/
theorem Sound.unmark (h : Sound t) (userId keeperId : Int) : Sound (unmarked userId keeperId t) := by
  have hfavourites : TidyFavourites t := h .favourites
  have hmem {f : Favourite} (hf : f ∈ (unmarked userId keeperId t).favourites) : f ∈ t.favourites :=
    (List.mem_filter.mp hf).1
  refine h.of_favourites ⟨?_, fun f hf => ?_, fun f hf => ?_⟩
  · exact hfavourites.once.sublist (List.filter_sublist.map _)
  · exact hfavourites.users f (hmem hf)
  · exact hfavourites.keepers f (hmem hf)

/-! ## Calls -/

/-- **What a call does to sound tables leaves them sound.** -/
theorem sound_of_effect {call : Store.Call} (h : Sound t) (heffect : Effect now t call t') :
    Sound t' := by
  cases heffect with
  | stay => exact h
  | user _ _ heffect | keeper _ _ heffect | seeker _ _ heffect | vet _ _ heffect | post _ _ heffect
  | message _ _ heffect => exact sound_of_recordEffect h heffect
  | createReview given id keeper mem same live insertable =>
      exact h.rateKeeper rfl _ now fun hgrows => Tidy.added (h .reviews) rfl hgrows insertable
  | updateReview given old mem same live admissible =>
      refine h.rateKeeper rfl _ now fun hgrows => ?_
      exact Tidy.put (h .reviews) rfl hgrows mem rfl rfl (Tidy.free_changed admissible)
  | deleteReview id old mem same live =>
      refine h.rateKeeper rfl _ now fun hgrows => ?_
      have hreviews : Tidy Review t := h .reviews
      exact hreviews.put rfl hgrows mem rfl rfl (hreviews.free_buried mem)
  | fileReport given threshold id post mem same live insertable =>
      exact h.reportPost insertable _ threshold now
  | approvePost id old mem same live =>
      have hid : (old.approved now).entry.id = old.entry.id := rfl
      exact h.judgePost mem hid rfl _
  | blockPost id old mem same live =>
      have hgrows := grows_putRow (old.barred now) t
      have hposts : Tidy Post t := h .posts
      exact h.of_tidy rfl hgrows
        (hposts.put (rows_putRow _ t) hgrows mem rfl rfl fun _ _ _ hexcludes => hexcludes)
  | createChat given members id count insertable => exact h.openChat insertable count now
  | removeMember chatId userId chat mem same live member =>
      subst same
      exact h.leaveChat mem userId _ now
  | replaceSession given old mem same admissible =>
      exact h.replaceSession mem same admissible (isFor_iff.mp same).1.symm
  | addSession given id first insertable => exact h.addSession insertable ⟨rfl, rfl⟩ first
  | takeSession hash => exact h.dropSessions _
  | deleteSession userId fingerprint => exact h.dropSessions _
  | addFavourite userId keeperId keeper mem same live first user =>
      exact h.mark (Schema.hasId_iff.mp user) (same ▸ List.mem_map_of_mem mem) first now
  | removeFavourite userId keeperId => exact h.unmark userId keeperId

/-- The empty tables are sound. -/
theorem sound_empty : Sound {} := by
  intro name
  cases name with
  | members => exact ⟨.nil, nofun, nofun⟩
  | favourites => exact ⟨.nil, nofun, nofun⟩
  | sessions => exact ⟨tidy_of_rows_nil rfl, nofun⟩
  | users | keepers | seekers | vets | posts | reports | reviews | chats | messages =>
      exact tidy_of_rows_nil rfl

/-- **Whatever happens to the empty database leaves sound tables.** -/
theorem isSound_after (events : List Event) : Sound (after events).tables := by
  have hcalls : KeptByCalls fun db => Sound db.tables :=
    fun call now db h => sound_of_effect h (effect_perform now db call)
  exact after_of_calls hcalls sound_empty events

end Database

end Fostering
