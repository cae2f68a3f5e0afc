import Fostering.Proofs.Database.Flaws

/-!
# The integrity of a database

What the schema promises about the rows of a database, written out table by table: ids that are told
apart, and of which the counters know; names, mail addresses, profiles, reviews, reports, sessions,
memberships and marks that are there once; and references that lead to rows.

* `hasIntegrity_after`: so it is after whatever has happened to the empty database.
* `advances_append`: and ids are given away in order, each once.
-/

namespace Fostering.Database

variable {ρ β : Type} {t : Tables}

/-- What there is once at most. A name and a mail address are taken for good, a profile and a review only
as long as they are live. -/
structure IsUnique (t : Tables) : Prop where
  ids : ∀ name : TableName, (name.ids t).Nodup
  usernames : (t.users.map User.username).Nodup
  emails : (t.users.map User.email).Nodup
  keepers : ((t.keepers.filter HasEntry.isLive).map Keeper.userId).Nodup
  seekers : ((t.seekers.filter HasEntry.isLive).map Seeker.userId).Nodup
  vets : ((t.vets.filter HasEntry.isLive).map Vet.userId).Nodup
  reviews : ((t.reviews.filter HasEntry.isLive).map fun r => (r.keeperId, r.authorId)).Nodup
  reports : (t.reports.map fun r => (r.postId, r.reporterId)).Nodup
  devices : (t.sessions.map fun s => (s.userId, s.fingerprint)).Nodup
  digests : (t.sessions.map Session.tokenHash).Nodup
  members : (t.members.map fun m => (m.chatId, m.userId)).Nodup
  favourites : (t.favourites.map fun f => (f.userId, f.keeperId)).Nodup

/-- Every reference leads to a row, be it deleted. -/
structure IsClosed (t : Tables) : Prop where
  keepers : ∀ k ∈ t.keepers, k.userId ∈ ids User t
  seekers : ∀ s ∈ t.seekers, s.userId ∈ ids User t
  vets : ∀ v ∈ t.vets, v.userId ∈ ids User t
  posts : ∀ p ∈ t.posts, p.authorId ∈ ids User t
  reports : ∀ r ∈ t.reports, r.postId ∈ ids Post t ∧ r.reporterId ∈ ids User t
  reviews : ∀ r ∈ t.reviews, r.keeperId ∈ ids Keeper t ∧ r.authorId ∈ ids User t
  chats : ∀ c ∈ t.chats, c.createdBy ∈ ids User t
  members : ∀ m ∈ t.members, m.chatId ∈ ids Chat t ∧ m.userId ∈ ids User t
  messages : ∀ m ∈ t.messages, m.chatId ∈ ids Chat t ∧ m.senderId ∈ ids User t
  favourites : ∀ f ∈ t.favourites, f.userId ∈ ids User t ∧ f.keeperId ∈ ids Keeper t
  sessions : ∀ s ∈ t.sessions, s.userId ∈ ids User t

/-- What the schema promises about a database. -/
structure HasIntegrity (db : Database) : Prop where
  unique : IsUnique db.tables
  closed : IsClosed db.tables
  counted : Counted db

/-! ## Tidy tables -/

section

variable [Schema ρ] [Exclusive ρ] [Referring ρ]

/-- What makes rows of a tidy table stand in each other's way is there once. -/
theorem Tidy.nodup_filter (h : Tidy ρ t) {p : ρ → Bool} {f : ρ → β}
    (hf : ∀ r s : ρ, p r = true → p s = true → f r = f s → Exclusive.Excludes r s) :
    (((Table.rows t).filter p).map f).Nodup := by
  have hrows : (Table.rows t : List ρ).Nodup := .of_map _ h.keys
  refine .map_on (fun r hr s hs heq => ?_) (hrows.filter p)
  obtain ⟨hr, hpr⟩ := List.mem_filter.mp hr
  obtain ⟨hs, hps⟩ := List.mem_filter.mp hs
  by_contra hne
  have hid : Table.id r ≠ Table.id s := fun hid => hne (h.eq_of_id hr hs hid)
  exact h.apart r hr s hs hid (hf r s hpr hps heq)

/-- Where rows exclude one another by a value, a tidy table has no value twice. -/
theorem Tidy.nodup_map (h : Tidy ρ t) {f : ρ → β}
    (hf : ∀ r s : ρ, f r = f s → Exclusive.Excludes r s) : ((Table.rows t).map f).Nodup := by
  have hall := h.nodup_filter fun r s (_ : true = true) (_ : true = true) => hf r s
  rwa [List.filter_true] at hall

/-- The one row to which a row refers is there. -/
theorem Tidy.mem_of_one (h : Tidy ρ t) {r : ρ} (hr : r ∈ (Table.rows t : List ρ))
    {reference : TableName × Int} (hreference : Referring.references r = [reference]) :
    reference.2 ∈ reference.1.ids t :=
  h.refers r hr reference (hreference ▸ List.mem_cons_self)

/-- The two rows to which a row refers are there. -/
theorem Tidy.mem_of_two (h : Tidy ρ t) {r : ρ} (hr : r ∈ (Table.rows t : List ρ))
    {reference reference' : TableName × Int}
    (hreference : Referring.references r = [reference, reference']) :
    reference.2 ∈ reference.1.ids t ∧ reference'.2 ∈ reference'.1.ids t :=
  ⟨h.refers r hr reference (hreference ▸ List.mem_cons_self),
    h.refers r hr reference' (hreference ▸ List.mem_cons_of_mem _ List.mem_cons_self)⟩

end

/-! ## Sound tables -/

/-- No user has two sessions for a device. -/
theorem TidySessions.nodup_devices (h : TidySessions t) :
    (t.sessions.map fun s => (s.userId, s.fingerprint)).Nodup := by
  have hrows : t.sessions.Nodup := .of_map _ h.keys
  refine .map_on (fun r hr s hs heq => ?_) hrows
  obtain ⟨huser, hdevice⟩ := Prod.mk.inj heq
  by_contra hne
  have hid : r.id ≠ s.id := fun hid => hne (h.eq_of_id hr hs hid)
  exact h.devices r hr s hs hid ⟨huser, hdevice⟩

/-- No table of a sound database has an id twice. -/
theorem Sound.nodup_ids (h : Sound t) (name : TableName) : (name.ids t).Nodup := by
  cases name with
  | members | favourites => exact .nil
  | sessions => exact (h .sessions).toTidy.keys
  | users => exact (h .users).keys
  | keepers => exact (h .keepers).keys
  | seekers => exact (h .seekers).keys
  | vets => exact (h .vets).keys
  | posts => exact (h .posts).keys
  | reports => exact (h .reports).keys
  | reviews => exact (h .reviews).keys
  | chats => exact (h .chats).keys
  | messages => exact (h .messages).keys

/-- In sound tables there is nothing twice. -/
theorem Sound.isUnique (h : Sound t) : IsUnique t where
  ids := h.nodup_ids
  usernames := Tidy.nodup_map (h .users) fun _ _ => .inl
  emails := Tidy.nodup_map (h .users) fun _ _ => .inr
  keepers := Tidy.nodup_filter (h .keepers) fun _ _ hr hs heq => ⟨hr, hs, heq⟩
  seekers := Tidy.nodup_filter (h .seekers) fun _ _ hr hs heq => ⟨hr, hs, heq⟩
  vets := Tidy.nodup_filter (h .vets) fun _ _ hr hs heq => ⟨hr, hs, heq⟩
  reviews := Tidy.nodup_filter (h .reviews) fun _ _ hr hs heq => ⟨hr, hs, Prod.mk.inj heq⟩
  reports := Tidy.nodup_map (h .reports) fun _ _ => Prod.mk.inj
  devices := TidySessions.nodup_devices (h .sessions)
  digests := Tidy.nodup_map (h .sessions).toTidy fun _ _ heq => heq
  members := (h .members).once
  favourites := (h .favourites).once

/-- In sound tables every reference leads to a row. -/
theorem Sound.isClosed (h : Sound t) : IsClosed t where
  keepers _ hk := Tidy.mem_of_one (h .keepers) hk rfl
  seekers _ hs := Tidy.mem_of_one (h .seekers) hs rfl
  vets _ hv := Tidy.mem_of_one (h .vets) hv rfl
  posts _ hp := Tidy.mem_of_one (h .posts) hp rfl
  reports _ hr := Tidy.mem_of_two (h .reports) hr rfl
  reviews _ hr := Tidy.mem_of_two (h .reviews) hr rfl
  chats _ hc := Tidy.mem_of_one (h .chats) hc rfl
  members _ hm := ⟨(h .members).chats _ hm, (h .members).users _ hm⟩
  messages _ hm := Tidy.mem_of_two (h .messages) hm rfl
  favourites _ hf := ⟨(h .favourites).users _ hf, (h .favourites).keepers _ hf⟩
  sessions _ hs := Tidy.mem_of_one (h .sessions).toTidy hs rfl

/-! ## Runs -/

/-- **Whatever happens to the empty database, it keeps its integrity.** -/
theorem hasIntegrity_after (events : List Event) : HasIntegrity (after events) :=
  ⟨(isSound_after events).isUnique, (isSound_after events).isClosed, ids_le_lastId events⟩

/-- **As a run goes on, ids are given away in order, each once.** -/
theorem advances_append (events events' : List Event) :
    Advances (after events) (after (events ++ events')) := by
  have hcalls : KeptByCalls (Advances (after events)) := fun call now db h =>
    IsTrans.trans _ _ _ h (advances_perform call now db)
  exact after_append_of_calls hcalls (Std.Refl.refl _) events'

end Fostering.Database
