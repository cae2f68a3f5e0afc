import Fostering.Proofs.Database.Integrity
import Fostering.Proofs.Database.Retention
import Fostering.Proofs.Requests.Failures

/-!
# What is whose

A request of a user who is no moderator changes and erases rows of this user only, and whatever it adds
belongs to this user. There are three exceptions: a review tells on the rating of the keeper, a report on
the status of the post, and whoever leaves a chat as the last one deletes it. Each of them touches the
columns that it is about and no others.

* `TableName.Spares`: what may become of each table, the exceptions included.
* `Exchange.Writes.spares`: the step, one case for each call that a request can make.
* `Database.requests_spare_others`: every request spares what others own, and one that comes from
  nobody or that only looks changes nothing.
-/

namespace Fostering

variable {ρ φ : Type}

/-! ## How tables change -/

/-- Rows of which some have been changed, and to which new ones have been added. -/
inductive Develops (Changed : ρ → ρ → Prop) (Added : ρ → Prop) (rows : List ρ) : List ρ → Prop where
  | intro (kept added : List ρ) (changed : List.Forall₂ (fun r r' => r' = r ∨ Changed r r') rows kept)
      (new : ∀ r ∈ added, Added r) : Develops Changed Added rows (kept ++ added)

/-- Rows of which some have been erased, and to which new ones have been added. -/
inductive Sheds (Erased Added : ρ → Prop) (rows : List ρ) : List ρ → Prop where
  | intro (keeps : ρ → Bool) (added : List ρ) (erased : ∀ r ∈ rows, keeps r = false → Erased r)
      (new : ∀ r ∈ added, Added r) : Sheds Erased Added rows (rows.filter keeps ++ added)

section

variable {Changed : ρ → ρ → Prop} {Erased Added : ρ → Prop} {rows : List ρ}

/-- Rows develop if each stays or is changed as it may be. -/
theorem develops_of_forall₂ {rows' : List ρ}
    (h : List.Forall₂ (fun r r' => r' = r ∨ Changed r r') rows rows') : Develops Changed Added rows rows' := by
  have hintro : Develops Changed Added rows (rows' ++ []) :=
    .intro rows' [] h fun _ hr => absurd hr List.not_mem_nil
  rwa [List.append_nil] at hintro

/-- Rows that are changed where they stand develop. -/
theorem develops_map {f : ρ → ρ} (h : ∀ r ∈ rows, f r = r ∨ Changed r (f r)) :
    Develops Changed Added rows (rows.map f) :=
  develops_of_forall₂ (List.forall₂_map_right_iff.mpr (List.forall₂_same.mpr h))

theorem develops_refl (rows : List ρ) : Develops Changed Added rows rows :=
  develops_of_forall₂ (List.forall₂_same.mpr fun _ _ => .inl rfl)

/-- A table may stay as it is. -/
theorem develops_of_eq {rows' : List ρ} (h : rows' = rows) : Develops Changed Added rows rows' := by
  rw [h]
  exact develops_refl rows

/-- A row may be added. -/
theorem develops_append {new : ρ} (h : Added new) : Develops Changed Added rows (rows ++ [new]) :=
  .intro rows [new] (List.forall₂_same.mpr fun _ _ => .inl rfl) (List.forall_mem_singleton.mpr h)

/-- Rows may be erased that may be. -/
theorem sheds_filter {keeps : ρ → Bool} (h : ∀ r ∈ rows, keeps r = false → Erased r) :
    Sheds Erased Added rows (rows.filter keeps) := by
  have hintro : Sheds Erased Added rows (rows.filter keeps ++ []) :=
    .intro keeps [] h fun _ hr => absurd hr List.not_mem_nil
  rwa [List.append_nil] at hintro

/-- Rows may be added to a table from which rows may be erased. -/
theorem sheds_append {added : List ρ} (h : ∀ r ∈ added, Added r) :
    Sheds Erased Added rows (rows ++ added) := by
  have hintro : Sheds Erased Added rows (rows.filter (fun _ => true) ++ added) :=
    .intro _ added (fun _ _ hkeeps => absurd hkeeps Bool.true_eq_false.mp) h
  rwa [List.filter_true] at hintro

theorem sheds_refl (rows : List ρ) : Sheds Erased Added rows rows := by
  have happend : Sheds Erased Added rows (rows ++ []) :=
    sheds_append fun _ hr => absurd hr List.not_mem_nil
  rwa [List.append_nil] at happend

theorem sheds_of_eq {rows' : List ρ} (h : rows' = rows) : Sheds Erased Added rows rows' := by
  rw [h]
  exact sheds_refl rows

end

/-! ## Who owns what -/

/-- A row of a user that has been changed; its id, its owner and the date of its making are as before. -/
structure IsOwn [HasEntry ρ] (owner : ρ → Int) (userId : Int) (r r' : ρ) : Prop where
  own : owner r = userId
  id_eq : HasEntry.id r' = HasEntry.id r
  owner_eq : owner r' = owner r
  createdAt_eq : (HasEntry.entry r').createdAt = (HasEntry.entry r).createdAt

/-- A post whose reports have been counted anew, and that is otherwise as before. -/
def Post.Recounted (p p' : Post) : Prop :=
  p' = { p with reportsCount := p'.reportsCount, status := p'.status,
                entry := { p.entry with updatedAt := p'.entry.updatedAt } }

/-- A post on which a report is filed is counted anew, and otherwise as before. -/
theorem Post.recounted_counted (p : Post) (count threshold : Int) (now : Instant) :
    p.Recounted (p.counted count threshold now) := rfl

/-- A chat that somebody has left, and that is otherwise as before. -/
def Chat.Departed (c c' : Chat) : Prop :=
  c' = { c with entry := { c.entry with isDeleted := c'.entry.isDeleted, deletedAt := c'.entry.deletedAt,
                                        updatedAt := c'.entry.updatedAt } }

/-- A chat that somebody leaves is otherwise as before. -/
theorem Chat.departed_left (c : Chat) (isEmpty : Bool) (now : Instant) :
    c.Departed (c.left isEmpty now) := by
  cases isEmpty <;> rfl

/-- The request is for an endpoint, and it has an id in its path. -/
def Arrival.IsFor (a : Arrival) (endpoint : Endpoint) (id : Int) : Prop :=
  ∃ name text, Endpoint.find a.incoming = .endpoint endpoint (some (name, text)) ∧
    Path.readId name text = .ok id

/-- A user reviews a keeper by the request, or changes or deletes a review of the keeper. -/
inductive Arrival.Grades (a : Arrival) (userId : Int) (t : Tables) (keeperId : Int) : Prop where
  | create (h : a.IsFor .createReview keeperId)
  | update (review : Review) (mem : review ∈ t.reviews) (own : review.authorId = userId)
      (about : review.keeperId = keeperId) (h : a.IsFor .updateReview review.entry.id)
  | delete (review : Review) (mem : review ∈ t.reviews) (own : review.authorId = userId)
      (about : review.keeperId = keeperId) (h : a.IsFor .deleteReview review.entry.id)

/-- What may become of a table by a request of a user. -/
def TableName.Spares (a : Arrival) (userId : Int) (t t' : Tables) : TableName → Prop
  | users => Develops (fun u u' => IsOwn (fun u : User => u.entry.id) userId u u' ∧
      u'.isModerator = u.isModerator ∧ u'.passwordHash = u.passwordHash) (fun _ => False) t.users t'.users
  | keepers => Develops
      (fun k k' => IsOwn Keeper.userId userId k k' ∨ a.Grades userId t k.entry.id ∧ k.Rerated k')
      (fun k => k.userId = userId) t.keepers t'.keepers
  | seekers => Develops (IsOwn Seeker.userId userId) (fun s => s.userId = userId) t.seekers t'.seekers
  | vets => Develops (IsOwn Vet.userId userId) (fun v => v.userId = userId) t.vets t'.vets
  | posts => Develops
      (fun p p' => IsOwn Post.authorId userId p p' ∨ a.IsFor .createReport p.entry.id ∧ p.Recounted p')
      (fun p => p.authorId = userId) t.posts t'.posts
  | reports => Develops (fun _ _ => False) (fun r => r.reporterId = userId) t.reports t'.reports
  | reviews => Develops (IsOwn Review.authorId userId) (fun r => r.authorId = userId) t.reviews t'.reviews
  | chats => Develops (fun c c' => a.IsFor .leaveChat c.entry.id ∧ c.Departed c')
      (fun c => c.createdBy = userId) t.chats t'.chats
  | members => Sheds (fun m => m.userId = userId)
      (fun m => ∃ c ∈ t'.chats, c.entry.id = m.chatId ∧ c.createdBy = userId ∧
        m.chatId ∉ Database.ids Chat t) t.members t'.members
  | messages => Develops (IsOwn Message.senderId userId) (fun m => m.senderId = userId)
      t.messages t'.messages
  | favourites => Sheds (fun f => f.userId = userId) (fun f => f.userId = userId)
      t.favourites t'.favourites
  | sessions => Sheds (fun s => s.userId = userId) (fun _ => False) t.sessions t'.sessions

/-- A table that is as before spares others. -/
theorem TableName.spares_of_agrees {a : Arrival} {userId : Int} {t t' : Tables} {name : TableName}
    (h : name.Agrees t t') : name.Spares a userId t t' := by
  cases name with
  | members | favourites | sessions => exact sheds_of_eq h
  | _ => exact develops_of_eq h

/-! ## Rows that are kept one by one -/

namespace Database

variable {now : Instant} {t t' : Tables} {Changed : ρ → ρ → Prop} {Added : ρ → Prop}

/-- A row that is put in the place of another changes no third one. -/
theorem develops_putRow [Table ρ] (hkeys : (ids ρ t).Nodup) {old new : ρ}
    (hold : old ∈ (Table.rows t : List ρ)) (hid : Table.id new = Table.id old) (h : Changed old new) :
    Develops Changed Added (Table.rows t) (Table.rows (putRow new t)) := by
  rw [rows_putRow]
  refine develops_map fun r hr => ?_
  split_ifs with hsame
  · rw [eq_of_key hkeys hr hold (hsame.trans hid)]
    exact .inr h
  · exact .inl rfl

section

variable [Editable ρ]

/-- A call that creates a row adds one at most. -/
theorem develops_of_create {given : ρ}
    (h : RecordEffect now t (.create given : Store.RecordCall ρ φ) t')
    (hnew : ∀ id, Added (Table.setId id (draft given))) :
    Develops Changed Added (Table.rows t : List ρ) (Table.rows t') := by
  cases h with
  | stay => exact develops_refl _
  | create given id insertable =>
      rw [rows_addRow]
      exact develops_append (hnew id)

variable [NamedTable ρ] [MarkedTable ρ] (hkeys : (ids ρ t).Nodup)
include hkeys

/-- The row that is changed is the one that the service has found. -/
theorem develops_of_update {given old : ρ}
    (h : RecordEffect now t (.update given : Store.RecordCall ρ φ) t')
    (hold : old ∈ (Table.rows t : List ρ)) (hid : Table.id old = Table.id given)
    (hchanged : Changed old (changed given old now)) :
    Develops Changed Added (Table.rows t : List ρ) (Table.rows t') := by
  cases h with
  | stay => exact develops_refl _
  | update given old' mem same live admissible =>
      obtain rfl : old' = old := eq_of_key hkeys mem hold (same.trans hid.symm)
      refine develops_putRow hkeys mem ?_ hchanged
      rw [MarkedTable.id_eq, MarkedTable.id_eq, entry_changed]
      rfl

/-- A call that deletes a row buries it where it stands. -/
theorem develops_of_delete {id : Int} (h : RecordEffect now t (.delete id : Store.RecordCall ρ φ) t')
    (hburied : ∀ old ∈ (Table.rows t : List ρ), Table.id old = id → Changed old (buried old now)) :
    Develops Changed Added (Table.rows t : List ρ) (Table.rows t') := by
  cases h with
  | stay => exact develops_refl _
  | delete id old mem same live =>
      refine develops_putRow hkeys mem ?_ (hburied old mem same)
      rw [MarkedTable.id_eq, MarkedTable.id_eq, entry_buried]
      rfl

/-- The row that is deleted is the one that the service has found. -/
theorem develops_of_delete_of_mem {id : Int} {old : ρ}
    (h : RecordEffect now t (.delete id : Store.RecordCall ρ φ) t')
    (hold : old ∈ (Table.rows t : List ρ)) (hid : Table.id old = id) (hburied : Changed old (buried old now)) :
    Develops Changed Added (Table.rows t : List ρ) (Table.rows t') := by
  refine develops_of_delete hkeys h fun old' hmem hsame => ?_
  rw [eq_of_key hkeys hmem hold (hsame.trans hid.symm)]
  exact hburied

end

/-! ## Calls -/

/-- A call spares others if it does so in the tables that it may change. -/
theorem spares_of_writes {a : Arrival} {userId : Int} {call : Store.Call} (h : Effect now t call t')
    (hwritten : ∀ name ∈ call.writes, name.Spares a userId t t') (name : TableName) :
    name.Spares a userId t t' := by
  by_cases hname : name ∈ call.writes
  · exact hwritten name hname
  · exact TableName.spares_of_agrees (h.agrees hname)

section

variable {a : Arrival} {userId : Int}

/-- A rating that is worked out anew changes the keeper who is reviewed and no other. -/
theorem spares_rate {keeperId : Int} {b : Gradebook} (hkeepers : b.keepers = t.keepers)
    (h : a.Grades userId t keeperId) :
    TableName.Spares a userId t (withGradebook (b.rate keeperId now) t) .keepers := by
  change Develops _ _ t.keepers (b.rate keeperId now).keepers
  unfold Gradebook.rate
  rw [hkeepers]
  refine develops_map fun k _ => ?_
  split_ifs with hid
  · exact .inr (.inr ⟨hid ▸ h, rfl⟩)
  · exact .inl rfl

/-- A new review is the author's own, and the keeper is rated. -/
theorem spares_createReview {given : Review} (h : Effect now t (.review (.create given)) t')
    (hauthor : given.authorId = userId) (hfor : a.IsFor .createReview given.keeperId) :
    ∀ name ∈ [TableName.reviews, .keepers], name.Spares a userId t t' := by
  cases h with
  | stay => exact fun name _ => TableName.spares_of_agrees (.refl name t)
  | createReview given id keeper mem same live insertable =>
      refine List.forall_mem_cons.mpr ⟨?_, List.forall_mem_singleton.mpr ?_⟩
      · exact develops_append hauthor
      · exact spares_rate rfl (.create hfor)

section

variable (hkeys : (ids Review t).Nodup) {old : Review} (hold : old ∈ t.reviews) (hown : old.authorId = userId)
include hkeys hold hown

/-- A change of a review is one of the author's own, and the keeper is rated. -/
theorem spares_updateReview {given : Review} (h : Effect now t (.review (.update given)) t')
    (hid : old.entry.id = given.entry.id) (hfor : a.IsFor .updateReview old.entry.id) :
    ∀ name ∈ [TableName.reviews, .keepers], name.Spares a userId t t' := by
  cases h with
  | stay => exact fun name _ => TableName.spares_of_agrees (.refl name t)
  | updateReview given old' mem same live admissible =>
      obtain rfl : old' = old := eq_of_key hkeys mem hold (same.trans hid.symm)
      refine List.forall_mem_cons.mpr ⟨?_, List.forall_mem_singleton.mpr ?_⟩
      · exact develops_putRow hkeys mem rfl ⟨hown, rfl, rfl, rfl⟩
      · exact spares_rate rfl (.update old' mem hown rfl hfor)

/-- A deletion of a review is one of the author's own, and the keeper is rated. -/
theorem spares_deleteReview (h : Effect now t (.review (.delete old.entry.id)) t')
    (hfor : a.IsFor .deleteReview old.entry.id) :
    ∀ name ∈ [TableName.reviews, .keepers], name.Spares a userId t t' := by
  cases h with
  | stay => exact fun name _ => TableName.spares_of_agrees (.refl name t)
  | deleteReview id old' mem same live =>
      obtain rfl : old' = old := eq_of_key hkeys mem hold same
      refine List.forall_mem_cons.mpr ⟨?_, List.forall_mem_singleton.mpr ?_⟩
      · exact develops_putRow hkeys mem rfl ⟨hown, rfl, rfl, rfl⟩
      · exact spares_rate rfl (.delete old' mem hown rfl hfor)

end

/-- A report is the reporter's own, and the post is counted. -/
theorem spares_fileReport {given : Report} {threshold : Int}
    (h : Effect now t (.fileReport given threshold) t') (hreporter : given.reporterId = userId)
    (hfor : a.IsFor .createReport given.postId) :
    ∀ name ∈ [TableName.posts, .reports], name.Spares a userId t t' := by
  cases h with
  | stay => exact fun name _ => TableName.spares_of_agrees (.refl name t)
  | fileReport given threshold id post mem same live insertable =>
      refine List.forall_mem_cons.mpr ⟨?_, List.forall_mem_singleton.mpr ?_⟩
      · refine develops_map fun p _ => ?_
        split_ifs with hid
        · exact .inr (.inr ⟨hid ▸ hfor, p.recounted_counted _ _ _⟩)
        · exact .inl rfl
      · exact develops_append hreporter

/-- A new chat is the creator's own, and members come into no other one. -/
theorem spares_createChat {given : Chat} {members : List Int}
    (h : Effect now t (.createChat given members) t') (hcreator : given.createdBy = userId) :
    ∀ name ∈ [TableName.chats, .members], name.Spares a userId t t' := by
  cases h with
  | stay => exact fun name _ => TableName.spares_of_agrees (.refl name t)
  | createChat given members id count insertable =>
      refine List.forall_mem_cons.mpr ⟨?_, List.forall_mem_singleton.mpr ?_⟩
      · exact develops_append hcreator
      · refine sheds_append fun m hm => ?_
        obtain ⟨member, -, rfl⟩ := List.mem_map.mp hm
        refine ⟨_, List.mem_append_right t.chats List.mem_cons_self, rfl, hcreator, fun hused => ?_⟩
        obtain ⟨chat, hchat, hid⟩ := List.mem_map.mp hused
        exact insertable.unused chat hchat hid

/-- Who leaves a chat takes nobody else along. -/
theorem spares_removeMember {chatId : Int} (hkeys : (ids Chat t).Nodup)
    (h : Effect now t (.removeMember chatId userId) t') (hfor : a.IsFor .leaveChat chatId) :
    ∀ name ∈ [TableName.chats, .members], name.Spares a userId t t' := by
  cases h with
  | stay => exact fun name _ => TableName.spares_of_agrees (.refl name t)
  | removeMember chatId userId chat mem same live member =>
      refine List.forall_mem_cons.mpr ⟨?_, List.forall_mem_singleton.mpr ?_⟩
      · have hchats : (ids Chat (unjoined chatId userId t)).Nodup := hkeys
        refine develops_putRow hchats mem (chat.id_left _ now) ⟨same.symm ▸ hfor, ?_⟩
        exact chat.departed_left _ now
      · refine sheds_filter fun m _ hgone => ?_
        rw [Bool.not_eq_false', Bool.and_eq_true, decide_eq_true_eq, decide_eq_true_eq] at hgone
        exact hgone.2

end

end Database

namespace Exchange

open Database

variable {config : Config} {a : Arrival} {endpoint : Endpoint} {id? : Option (String × String)}

/-- The id in the path is the one that the request is about. -/
theorem isFor_of_id (hfind : Endpoint.find a.incoming = .endpoint endpoint id?) {id : Int}
    (h : (a.exchange config id?).id = .ok id) : a.IsFor endpoint id := by
  rcases id? with _ | ⟨name, text⟩
  · cases h
  · exact ⟨name, text, hfind, h⟩

variable {db : Database} {call : Store.Call} {t' : Tables} {userId : Int}

/-- **A call of the list spares others.** -/
theorem Writes.spares (hfind : Endpoint.find a.incoming = .endpoint endpoint id?)
    (h : (a.exchange config id?).Writes db endpoint call) (hregister : endpoint ≠ .register)
    (hcaller : (a.exchange config id?).caller = .ok ⟨userId, false⟩)
    (hkeys : ∀ name : TableName, (name.ids db.tables).Nodup)
    (heffect : Effect a.now db.tables call t') (name : TableName) :
    name.Spares a userId db.tables t' := by
  -- whoever asks, in any of the cases below, is the user without the role
  have hwho {caller : Caller} (hasks : (a.exchange config id?).caller = .ok caller) :
      ⟨userId, false⟩ = caller := Except.ok.inj (hcaller.symm.trans hasks)
  have hfor {id : Int} (hpath : (a.exchange config id?).id = .ok id) : a.IsFor endpoint id :=
    isFor_of_id hfind hpath
  refine spares_of_writes heffect ?_ name
  cases h with
  | register request body => exact absurd rfl hregister
  | updateUser caller request old asks path body mem live own =>
      obtain rfl := hwho asks
      refine List.forall_mem_singleton.mpr ?_
      exact develops_of_update (hkeys .users) heffect.of_user mem rfl ⟨⟨own, rfl, rfl, rfl⟩, rfl, rfl⟩
  | deleteUser caller asks path =>
      obtain rfl := hwho asks
      refine List.forall_mem_singleton.mpr ?_
      refine develops_of_delete (hkeys .users) heffect.of_user fun old hmem hid => ?_
      exact ⟨⟨hid, rfl, rfl, rfl⟩, rfl, rfl⟩
  | createKeeper row hmakes =>
      obtain ⟨caller, request, asks, body, first⟩ := hmakes
      obtain rfl := hwho asks
      exact List.forall_mem_singleton.mpr (develops_of_create heffect.of_keeper fun id => rfl)
  | updateKeeper row hchanges =>
      obtain ⟨caller, request, old, asks, path, body, mem, live, own⟩ := hchanges
      obtain rfl := hwho asks
      refine List.forall_mem_singleton.mpr ?_
      exact develops_of_update (hkeys .keepers) heffect.of_keeper mem rfl (.inl ⟨own, rfl, rfl, rfl⟩)
  | deleteKeeper id hremoves =>
      obtain ⟨caller, old, asks, path, mem, live, own⟩ := hremoves
      obtain rfl := hwho asks
      refine List.forall_mem_singleton.mpr ?_
      exact develops_of_delete_of_mem (hkeys .keepers) heffect.of_keeper mem rfl (.inl ⟨own, rfl, rfl, rfl⟩)
  | createSeeker row hmakes =>
      obtain ⟨caller, request, asks, body, first⟩ := hmakes
      obtain rfl := hwho asks
      exact List.forall_mem_singleton.mpr (develops_of_create heffect.of_seeker fun id => rfl)
  | updateSeeker row hchanges =>
      obtain ⟨caller, request, old, asks, path, body, mem, live, own⟩ := hchanges
      obtain rfl := hwho asks
      refine List.forall_mem_singleton.mpr ?_
      exact develops_of_update (hkeys .seekers) heffect.of_seeker mem rfl ⟨own, rfl, rfl, rfl⟩
  | deleteSeeker id hremoves =>
      obtain ⟨caller, old, asks, path, mem, live, own⟩ := hremoves
      obtain rfl := hwho asks
      refine List.forall_mem_singleton.mpr ?_
      exact develops_of_delete_of_mem (hkeys .seekers) heffect.of_seeker mem rfl ⟨own, rfl, rfl, rfl⟩
  | createVet row hmakes =>
      obtain ⟨caller, request, asks, body, first⟩ := hmakes
      obtain rfl := hwho asks
      exact List.forall_mem_singleton.mpr (develops_of_create heffect.of_vet fun id => rfl)
  | updateVet row hchanges =>
      obtain ⟨caller, request, old, asks, path, body, mem, live, own⟩ := hchanges
      obtain rfl := hwho asks
      refine List.forall_mem_singleton.mpr ?_
      exact develops_of_update (hkeys .vets) heffect.of_vet mem rfl ⟨own, rfl, rfl, rfl⟩
  | deleteVet id hremoves =>
      obtain ⟨caller, old, asks, path, mem, live, own⟩ := hremoves
      obtain rfl := hwho asks
      refine List.forall_mem_singleton.mpr ?_
      exact develops_of_delete_of_mem (hkeys .vets) heffect.of_vet mem rfl ⟨own, rfl, rfl, rfl⟩
  | onBoard endpoint call hpermits =>
      cases hpermits with
      | create caller request status asks body first =>
          obtain rfl := hwho asks
          exact List.forall_mem_singleton.mpr (develops_of_create heffect.of_post fun id => rfl)
      | update caller request old asks path body mem live own free settable =>
          obtain rfl := hwho asks
          refine List.forall_mem_singleton.mpr ?_
          exact develops_of_update (hkeys .posts) heffect.of_post mem rfl (.inl ⟨own, rfl, rfl, rfl⟩)
      | delete caller id old asks path mem same live own =>
          obtain rfl := hwho asks
          refine List.forall_mem_singleton.mpr ?_
          exact develops_of_delete_of_mem (hkeys .posts) heffect.of_post mem same (.inl ⟨own, rfl, rfl, rfl⟩)
      | file caller request id asks path body =>
          obtain rfl := hwho asks
          exact spares_fileReport heffect rfl (hfor path)
      | approve caller id asks moderator | block caller id asks moderator =>
          obtain rfl := hwho asks
          cases moderator
  | createReview caller request keeper asks path body grade mem live other =>
      obtain rfl := hwho asks
      exact spares_createReview heffect rfl (hfor path)
  | updateReview caller request old asks path body grade mem live own =>
      obtain rfl := hwho asks
      exact spares_updateReview (hkeys .reviews) mem own heffect rfl (hfor path)
  | deleteReview caller old asks path mem live own =>
      obtain rfl := hwho asks
      exact spares_deleteReview (hkeys .reviews) mem own heffect (hfor path)
  | addFavourite caller id asks path =>
      obtain rfl := hwho asks
      refine List.forall_mem_singleton.mpr ?_
      cases heffect with
      | stay => exact sheds_refl _
      | addFavourite => exact sheds_append (List.forall_mem_singleton.mpr rfl)
  | removeFavourite caller id asks path =>
      obtain rfl := hwho asks
      refine List.forall_mem_singleton.mpr ?_
      cases heffect with
      | stay => exact sheds_refl _
      | removeFavourite =>
          refine sheds_filter fun f _ hmark => ?_
          rw [Bool.not_eq_false', isMark, Bool.and_eq_true, decide_eq_true_eq] at hmark
          exact hmark.1
  | createChat caller request asks body =>
      obtain rfl := hwho asks
      exact spares_createChat heffect rfl
  | leaveChat caller id asks path part =>
      obtain rfl := hwho asks
      exact spares_removeMember (hkeys .chats) heffect (hfor path)
  | sendMessage caller request id asks path body part =>
      obtain rfl := hwho asks
      exact List.forall_mem_singleton.mpr (develops_of_create heffect.of_message fun id => rfl)
  | updateMessage caller request old asks path body mem live own part =>
      obtain rfl := hwho asks
      refine List.forall_mem_singleton.mpr ?_
      exact develops_of_update (hkeys .messages) heffect.of_message mem rfl ⟨own, rfl, rfl, rfl⟩
  | deleteMessage caller old asks path mem live own =>
      obtain rfl := hwho asks
      refine List.forall_mem_singleton.mpr ?_
      exact develops_of_delete_of_mem (hkeys .messages) heffect.of_message mem rfl ⟨own, rfl, rfl, rfl⟩

end Exchange

/-! ## Requests -/

/-- Whoever registers, logs in or refreshes a session needs no access token. -/
def Endpoint.IsPublic (endpoint : Endpoint) : Prop := endpoint ∈ [Endpoint.register, .login, .refresh]

instance (endpoint : Endpoint) : Decidable endpoint.IsPublic := inferInstanceAs (Decidable (endpoint ∈ _))

namespace Exchange

variable {x : Exchange} {db : Database} {endpoint : Endpoint} {call : Store.Call}

/-- The call by which a caller logs out on a device. -/
inductive LogsOut (x : Exchange) : Endpoint → Store.Call → Prop where
  | intro (caller : Caller) (fingerprint : String) (asks : x.caller = .ok caller) :
      LogsOut x .logout (.deleteSession caller.userId fingerprint)

/-- Logging out is all that an endpoint of sessions does for a caller. -/
theorem plan_logsOut (x : Exchange) (db : Database) :
    Plans (fun action => ∃ call, x.LogsOut .logout call ∧
      (action.exec x.now db).2 = (call.perform.exec x.now db).2) (x.plan .logout) := by
  refine Plans.reading fun caller hcaller => Plans.reading fun request _ => .ok ?_
  refine ⟨_, .intro caller request.fingerprint hcaller, ?_⟩
  rw [Action.snd_silent, Logins.logout_snd]
  rfl

/-- Nobody makes a call without a token but to register. -/
theorem Writes.exists_caller (h : x.Writes db endpoint call) (hregister : endpoint ≠ .register) :
    ∃ caller, x.caller = .ok caller := by
  cases h with
  | register => exact absurd rfl hregister
  | createKeeper row h | createSeeker row h | createVet row h | updateKeeper row h | updateSeeker row h
  | updateVet row h | deleteKeeper id h | deleteSeeker id h | deleteVet id h | onBoard endpoint call h =>
      cases h <;> exact ⟨_, ‹x.caller = _›⟩
  | _ => exact ⟨_, ‹x.caller = _›⟩

end Exchange

namespace Database

variable {config : Config} {db : Database} {a : Arrival} {endpoint : Endpoint}
  {id? : Option (String × String)}

/-- A request that needs a token changes nothing, makes a call of the list or logs out. -/
theorem serve_private (hfind : Endpoint.find a.incoming = .endpoint endpoint id?)
    (hpublic : ¬endpoint.IsPublic) :
    (db.serve config a).tables = db.tables ∨
      ∃ call, ((a.exchange config id?).Writes db endpoint call ∨
          (a.exchange config id?).LogsOut endpoint call) ∧
        Effect a.now db.tables call (db.serve config a).tables := by
  let x : Exchange := a.exchange config id?
  by_cases hreads : endpoint.writes = []
  · exact .inl (tables_of_reading config db a hfind hreads)
  by_cases hsessions : endpoint.writes = [.sessions]
  case neg =>
    rcases serve_of_writing config db a hfind hreads hsessions with ⟨-, hstore⟩ | ⟨call, hcall, -, hstore⟩
    · exact .inl (congrArg tables hstore)
    · rw [hstore]
      exact .inr ⟨call, .inl hcall, effect_perform a.now db call⟩
  cases endpoint with
  | register | login | refresh => exact absurd (by decide) hpublic
  | logout =>
      rcases hplan : (x.plan .logout : Except Reply (Action Database)) with fault | action
      · exact .inl (congrArg tables (App.serve_of_error hfind hplan).2)
      · obtain ⟨call, hcall, hexec⟩ := x.plan_logsOut db action hplan
        have hstore : db.serve config a = (action.exec a.now db).2 := (App.serve_of_ok hfind hplan).2
        have hserve : db.serve config a = (call.perform.exec a.now db).2 := hstore.trans hexec
        rw [hserve]
        exact .inr ⟨call, .inr hcall, effect_perform a.now db call⟩
  | _ => cases hsessions

/-- Where nothing happens everybody is spared. -/
theorem spares_of_tables_eq {userId : Int} {t t' : Tables} (h : t' = t) (name : TableName) :
    name.Spares a userId t t' :=
  h ▸ TableName.spares_of_agrees (.refl name _)

/-- Who logs out ends a session of their own. -/
theorem spares_logsOut {userId : Int} {call : Store.Call} {t' : Tables}
    (h : (a.exchange config id?).LogsOut endpoint call)
    (hcaller : (a.exchange config id?).caller = .ok ⟨userId, false⟩)
    (heffect : Effect a.now db.tables call t') (name : TableName) : name.Spares a userId db.tables t' := by
  obtain ⟨caller, fingerprint, asks⟩ := h
  obtain rfl : ⟨userId, false⟩ = caller := Except.ok.inj (hcaller.symm.trans asks)
  refine spares_of_writes heffect (List.forall_mem_singleton.mpr ?_) name
  cases heffect with
  | stay => exact sheds_refl _
  | deleteSession =>
      refine sheds_filter fun s _ hgone => ?_
      rw [Bool.not_eq_false', Bool.and_eq_true, decide_eq_true_eq] at hgone
      exact hgone.1

/-- **A request of a user who is no moderator spares what others own. A request of nobody changes nothing,
and neither does a request that only looks.** The rows of each table are told apart by their ids, as their
primary keys demand, and as they are after every run (`hasIntegrity_after`). -/
theorem requests_spare_others (config : Config) (db : Database) (a : Arrival)
    (hpublic : ∀ endpoint id?, Endpoint.find a.incoming = .endpoint endpoint id? → ¬endpoint.IsPublic) :
    (∀ userId, Caller.authenticate config.token.secret a.now a.incoming = .ok ⟨userId, false⟩ →
      (∀ name : TableName, (name.ids db.tables).Nodup) →
      ∀ name : TableName, name.Spares a userId db.tables (db.serve config a).tables) ∧
    ((∀ caller, Caller.authenticate config.token.secret a.now a.incoming ≠ .ok caller) →
      (db.serve config a).tables = db.tables) ∧
    (a.incoming.method ∈ ["GET", "HEAD"] → (db.serve config a).tables = db.tables) := by
  by_cases hany : ∃ endpoint id?, Endpoint.find a.incoming = .endpoint endpoint id?
  case neg =>
    have hstore : db.serve config a = db :=
      (App.serve_of_no_endpoint fun endpoint id? hfind => hany ⟨endpoint, id?, hfind⟩).2
    have htables : (db.serve config a).tables = db.tables := congrArg tables hstore
    exact ⟨fun userId _ _ => spares_of_tables_eq htables, fun _ => htables, fun _ => htables⟩
  obtain ⟨endpoint, id?, hfind⟩ := hany
  have hprivate := hpublic endpoint id? hfind
  have hregister : endpoint ≠ .register := fun heq => hprivate (heq ▸ List.mem_cons_self)
  refine ⟨fun userId htoken hkeys => ?_, fun hnobody => ?_, fun hget => ?_⟩
  · have hcaller : (a.exchange config id?).caller = .ok ⟨userId, false⟩ := Exchange.caller_eq_ok.mpr htoken
    rcases serve_private hfind hprivate with hsame | ⟨call, hwrites | hleaves, heffect⟩
    · exact spares_of_tables_eq hsame
    · exact hwrites.spares hfind hregister hcaller hkeys heffect
    · exact spares_logsOut hleaves hcaller heffect
  · rcases serve_private hfind hprivate with hsame | ⟨call, hwrites | ⟨caller, -, asks⟩, -⟩
    · exact hsame
    · obtain ⟨caller, asks⟩ := hwrites.exists_caller hregister
      exact absurd (Exchange.caller_eq_ok.mp asks) (hnobody caller)
    · exact absurd (Exchange.caller_eq_ok.mp asks) (hnobody caller)
  · exact tables_of_reading config db a hfind (Endpoint.writes_of_get hfind hget)

/-- Anna, who offers to keep animals, gets a profile of her own, and that is all. -/
theorem anna_spares_others :
    (∀ endpoint id?, Endpoint.find (annaOffers annasToken).incoming = .endpoint endpoint id? →
      ¬endpoint.IsPublic) ∧
      Caller.authenticate "secret" ⟨60, 0⟩ (annaOffers annasToken).incoming = .ok ⟨1, false⟩ ∧
      (∀ name : TableName, (name.ids (withAnna "" [] 0).tables).Nodup) ∧
      ∀ name : TableName, name.Spares (annaOffers annasToken) 1 (withAnna "" [] 0).tables
        (withAnna "" [{ entry := annasEntry, userId := 1 }] 1).tables := by
  let config : Config := .blockingAt 3
  have hfind : Endpoint.find (annaOffers annasToken).incoming = .endpoint .createKeeper none :=
    show Endpoint.findIn "POST" (Path.segments "/api/v1/keepers") Endpoint.routes = _ by decide
  have hpublic (endpoint : Endpoint) (id? : Option (String × String))
      (h : Endpoint.find (annaOffers annasToken).incoming = .endpoint endpoint id?) :
      ¬endpoint.IsPublic := by
    rw [hfind] at h
    cases h
    decide
  have hcaller : ((annaOffers annasToken).exchange config none).caller = .ok ⟨1, false⟩ := caller_annas rfl
  have htoken := Exchange.caller_eq_ok.mp hcaller
  have hkeys (name : TableName) : (name.ids (withAnna "" [] 0).tables).Nodup := by
    cases name <;> decide
  have hspares := (requests_spare_others config (withAnna "" [] 0) (annaOffers annasToken) hpublic).1
    1 htoken hkeys
  rw [serve_annaOffers hcaller ""] at hspares
  exact ⟨hpublic, htoken, hkeys, hspares⟩

end Database

end Fostering
