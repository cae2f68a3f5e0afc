import Fostering.Proofs.Keepers.Rating
import Fostering.Proofs.Requests.Envelope
import Fostering.Proofs.Requests.Overlay

/-!
# Requests to change a row, from end to end

Seven kinds of rows may be changed by clients, each at an endpoint of its own (`Patchable`). What comes of
such a request is taken back from its reply with status 200: the body was read as a request of the kind,
the live row with the id in the path was found, and the row that was written in its place is the one that
the reply shows. `Database.patch_overlays` puts this together with what bodies say about columns. No other
row changes, but for the keeper whose review was changed: the keeper's rating is worked out anew
(`Database.rated`). Where ratings are right, as they are after every run, an empty body does no more to the
keeper than to touch the row (`Patchable.follow_touched`).

* `Patchable.eq_of_kept`: the columns that requests may change, the columns that none may change and the
  shared columns are all there are.
* `Database.patch_overlays`: what a change of a row leaves, and what its reply shows.
* `Database.ratings_of_blank`: the ratings after a change of a review that changes nothing.
-/

namespace Fostering

/-! ## What an update leaves -/

namespace Database

section

variable {ρ : Type} [Editable ρ] {now : Instant} {db db' : Database}

/-- A row that is found is live, and looking for it changes nothing. -/
theorem find_eq_ok {id : Int} {row : ρ} (h : (find ρ id).exec now db = (.ok row, db')) :
    row ∈ (Table.rows db.tables : List ρ) ∧ Table.id row = id ∧ HasEntry.isLive row = true ∧ db' = db := by
  rcases find_cases ρ id now db with ⟨found, hmem, hid, hlive, hfind⟩ | ⟨-, hfind⟩
  · rw [hfind] at h
    cases h
    exact ⟨hmem, hid, hlive, rfl⟩
  · rw [hfind] at h
    cases h

/-- What is refused gives nothing. -/
theorem IsRefused.not_ok {α : Type} {op : Op Database α} {a : α} (h : IsRefused op now db) :
    op.exec now db ≠ (.ok a, db') := by
  obtain ⟨cause, db₁, hrefused, -⟩ := h
  intro hok
  rw [hrefused] at hok
  cases hok

/-- An update that succeeds puts the changed row in the place of the one that is found. -/
theorem update_eq_ok {given old new : ρ} (hfind : (find ρ (Table.id given)).exec now db = (.ok old, db))
    (h : (update given).exec now db = (.ok new, db')) :
    new = changed given old now ∧ db' = { db with tables := putRow new db.tables } := by
  rcases hstorable : Schema.isStorable (Editable.overwrite given default)
  · exact absurd h (IsRefused.bind (isRefused_guard hstorable _) _).not_ok
  rcases guardRow_cases (changed given old now) now db with hrefused | hrow
  · have hguard : (guardStorable (Editable.overwrite given default)).exec now db = (.ok (), db) :=
      Op.exec_guard_of_true hstorable unstorable now db
    have hupdate : IsRefused (update given) now db :=
      .after hguard rfl (.after hfind rfl (.after (exec_now now db) rfl (hrefused.bind _)))
    exact absurd h hupdate.not_ok
  · rw [update_of_find hstorable hfind hrow] at h
    cases h
    exact ⟨rfl, rfl⟩

/-- A change of the live row with an id that succeeds: `new` is the row that takes its place. -/
structure Changes (change : ρ → ρ) (id : Int) (now : Instant) (db : Database) (old new : ρ) : Prop where
  mem : old ∈ (Table.rows db.tables : List ρ)
  same : Table.id old = id
  live : HasEntry.isLive old = true
  made : new = changed (HasEntry.modifyEntry (·.touched now) (change old)) old now

end

end Database

/-! ## What the service does -/

section

variable {now : Instant} {db db' : Database} {actor id : Int}

/-- Checking the owner of a row does nothing else. -/
theorem ensureOwner_eq_ok {owner : Int} {what : String} {u : Unit}
    (h : (ensureOwner actor owner what).exec now db = (.ok u, db')) : db' = db :=
  (Op.exec_guard_eq_ok h).2

/-- What is done with a row once it is touched. -/
theorem exec_of_touched {ρ α : Type} [HasEntry ρ] {row : ρ} {f : ρ → Op Database α} {a : α}
    (h : (touched row >>= f).exec now db = (.ok a, db')) :
    (f (HasEntry.modifyEntry (·.touched now) row)).exec now db = (.ok a, db') := by
  rwa [Op.exec_bind_ok (exec_touched row now db)] at h

end

namespace Database

section

variable {ρ : Type} [Editable ρ] {now : Instant} {db db' : Database} {id : Int} {change : ρ → ρ} {new : ρ}

/-- A row that is found, changed and written. -/
theorem changes_of_find {old : ρ} {db₁ : Database}
    (hid : Table.id (HasEntry.modifyEntry (·.touched now) (change old)) = Table.id old)
    (hfind : (find ρ id).exec now db = (.ok old, db₁))
    (h : (update (HasEntry.modifyEntry (·.touched now) (change old))).exec now db₁ = (.ok new, db')) :
    Changes change id now db old new ∧ db' = { db with tables := putRow new db.tables } := by
  obtain ⟨hmem, rfl, hlive, rfl⟩ := find_eq_ok hfind
  rw [← hid] at hfind
  obtain ⟨hnew, hdb⟩ := update_eq_ok hfind h
  exact ⟨⟨hmem, rfl, hlive, hnew⟩, hdb⟩

end

end Database

section

variable {now : Instant} {db db' : Database} {actor id : Int}

open Database (Changes changes_of_find putRow)

/-- A change of an account that succeeds has written the account. -/
theorem Accounts.update_eq_ok {request : UpdateUser} {new : User}
    (h : (Accounts.update actor id request).exec now db = (.ok new, db')) :
    ∃ old, Changes request.apply id now db old new ∧ db' = { db with tables := putRow new db.tables } := by
  obtain ⟨_, db₁, howner, hrest⟩ := Op.exec_bind_eq_ok h
  obtain rfl := ensureOwner_eq_ok howner
  obtain ⟨old, db₂, hfind, hwrite⟩ := Op.exec_bind_eq_ok hrest
  exact ⟨old, changes_of_find rfl hfind (exec_of_touched hwrite)⟩

/-- A profile that is changed is found first, and then written. -/
theorem Profiles.update_eq_ok {ρ φ : Type} [Profile ρ] [Store.Profiles Database ρ φ] {change : ρ → ρ}
    {new : ρ} {Q : ρ → Prop} (h : (Profiles.update actor id change : Op Database ρ).exec now db = (.ok new, db'))
    (hwrite : ∀ {old : ρ} {db₁ : Database},
      (Store.Records.find id : Op Database ρ).exec now db = (.ok old, db₁) →
      (Store.Records.update (HasEntry.modifyEntry (·.touched now) (change old)) : Op Database ρ).exec now
        db₁ = (.ok new, db') → Q old) :
    ∃ old, Q old := by
  obtain ⟨old, db₁, hown, hupdate⟩ := Op.exec_bind_eq_ok h
  obtain ⟨found, db₂, hfind, howns⟩ := Op.exec_bind_eq_ok hown
  obtain ⟨_, db₃, howner, hfound⟩ := Op.exec_bind_eq_ok howns
  obtain rfl := ensureOwner_eq_ok howner
  cases hfound
  exact ⟨old, hwrite hfind (exec_of_touched hupdate)⟩

/-- A change of a post that succeeds has written the post. -/
theorem Posts.update_eq_ok {request : UpdatePost} {new : Post}
    (h : (Posts.update actor id request).exec now db = (.ok new, db')) :
    ∃ old, Changes request.apply id now db old new ∧ db' = { db with tables := putRow new db.tables } := by
  obtain ⟨old, db₁, hfind, howns⟩ := Op.exec_bind_eq_ok h
  obtain ⟨_, db₂, howner, hfrees⟩ := Op.exec_bind_eq_ok howns
  obtain ⟨_, db₃, hfree, hchecks⟩ := Op.exec_bind_eq_ok hfrees
  obtain ⟨_, db₄, hstatus, hwrite⟩ := Op.exec_bind_eq_ok hchecks
  obtain rfl := ensureOwner_eq_ok howner
  obtain ⟨-, rfl⟩ := Op.exec_guard_eq_ok hfree
  obtain ⟨-, rfl⟩ := Op.exec_ofExcept_eq_ok hstatus
  exact ⟨old, changes_of_find rfl hfind (exec_of_touched hwrite)⟩

/-- The tables with the rating of a keeper worked out anew. -/
def Database.rated (now : Instant) (keeperId : Int) (t : Tables) : Tables :=
  mapRows (fun k : Keeper => k.entry.id = keeperId)
    (fun k => { k with entry := k.entry.touched now.stored, rating := ratingOf t keeperId }) t

/-- The tables with a keeper touched. -/
def Database.keeperTouched (now : Instant) (keeperId : Int) (t : Tables) : Tables :=
  mapRows (fun k : Keeper => k.entry.id = keeperId) (fun k => { k with entry := k.entry.touched now.stored }) t

/-- A change of a review that succeeds has written the review and then rated its keeper. -/
theorem Database.updateReview_eq_ok {given new : Review}
    (h : (Database.updateReview given).exec now db = (.ok new, db')) :
    ∃ db₁, (Database.update given).exec now db = (.ok new, db₁) ∧
      db' = { db₁ with tables := Database.rated now new.keeperId db₁.tables } := by
  rcases Database.atomically_cases _ now db with hrefused | ⟨review, db₁, hsteps, hdone⟩
  · exact absurd h hrefused.not_ok
  have hsame : (Except.ok review, db₁) = (Except.ok new, db') := hdone.symm.trans h
  cases hsame
  obtain ⟨review', db₂, hupdate, hrated⟩ := Op.exec_bind_eq_ok hsteps
  cases hrated
  exact ⟨db₂, hupdate, rfl⟩

theorem Reviews.update_eq_ok {request : UpdateReview} {new : Review}
    (h : (Reviews.update actor id request).exec now db = (.ok new, db')) :
    ∃ old, Changes request.apply id now db old new ∧
      db' = { db with tables := Database.rated now new.keeperId (putRow new db.tables) } := by
  obtain ⟨_, db₁, hgrade, hfinds⟩ := Op.exec_bind_eq_ok h
  obtain ⟨old, db₂, hfind, howns⟩ := Op.exec_bind_eq_ok hfinds
  obtain ⟨_, db₃, howner, hwrite⟩ := Op.exec_bind_eq_ok howns
  obtain ⟨-, rfl⟩ := Op.exec_ofExcept_eq_ok hgrade
  obtain rfl := ensureOwner_eq_ok howner
  obtain ⟨db₄, hupdate, rfl⟩ := Database.updateReview_eq_ok (exec_of_touched hwrite)
  obtain ⟨hchanges, rfl⟩ := changes_of_find rfl hfind hupdate
  exact ⟨old, hchanges, rfl⟩

/-- A change of a message that succeeds has written the message. -/
theorem Messages.update_eq_ok {request : UpdateMessage} {new : Message}
    (h : (Messages.update actor id request).exec now db = (.ok new, db')) :
    ∃ old, Changes request.apply id now db old new ∧ db' = { db with tables := putRow new db.tables } := by
  obtain ⟨old, db₁, hfind, howns⟩ := Op.exec_bind_eq_ok h
  obtain ⟨_, db₂, howner, hjoins⟩ := Op.exec_bind_eq_ok howns
  obtain ⟨chat, db₃, hmember, hwrite⟩ := Op.exec_bind_eq_ok hjoins
  obtain rfl := ensureOwner_eq_ok howner
  obtain rfl : db₃ = db₂ := by
    rcases Chats.findAsMember_cases now db₂ actor old.chatId with ⟨cause, -, hnone⟩ | ⟨-, chat', hfound⟩
    · rw [hnone] at hmember
      cases hmember
    · rw [hfound] at hmember
      cases hmember
      rfl
  exact ⟨old, changes_of_find rfl hfind (exec_of_touched hwrite)⟩

end

/-! ## Kinds of rows -/

/-- The kinds of rows that clients may change. -/
inductive Patchable where
  | user
  | keeper
  | seeker
  | vet
  | post
  | review
  | message

namespace Patchable

/-- The rows of a kind. -/
abbrev Record : Patchable → Type
  | user => User
  | keeper => Keeper
  | seeker => Seeker
  | vet => Vet
  | post => Post
  | review => Review
  | message => Message

instance : (p : Patchable) → Editable p.Record
  | user => inferInstanceAs (Editable User)
  | keeper => inferInstanceAs (Editable Keeper)
  | seeker => inferInstanceAs (Editable Seeker)
  | vet => inferInstanceAs (Editable Vet)
  | post => inferInstanceAs (Editable Post)
  | review => inferInstanceAs (Editable Review)
  | message => inferInstanceAs (Editable Message)

/-- The endpoint that changes rows of a kind. -/
def endpoint : Patchable → Endpoint
  | user => .updateUser
  | keeper => .updateKeeper
  | seeker => .updateSeeker
  | vet => .updateVet
  | post => .updatePost
  | review => .updateReview
  | message => .updateMessage

/-- The columns that requests may change. -/
def columns : (p : Patchable) → List (Column p.Record)
  | user => User.columns
  | keeper => Keeper.columns
  | seeker => Seeker.columns
  | vet => Vet.columns
  | post => Post.columns
  | review => Review.columns
  | message => Message.columns

/-- What clients see of a row. -/
def view : (p : Patchable) → p.Record → Json
  | user => User.view
  | keeper => Keeper.view
  | seeker => Seeker.view
  | vet => Vet.view
  | post => Post.view
  | review => Review.view
  | message => Message.view

/-- The columns of its own that a kind of row has and that no request may change are the same. -/
def KeepsOthers : (p : Patchable) → (old new : p.Record) → Prop
  | user, (old : User), (new : User) =>
    new.passwordHash = old.passwordHash ∧ new.isModerator = old.isModerator
  | keeper, (old : Keeper), (new : Keeper) => new.userId = old.userId ∧ new.rating = old.rating
  | seeker, (old : Seeker), (new : Seeker) => new.userId = old.userId
  | vet, (old : Vet), (new : Vet) => new.userId = old.userId
  | post, (old : Post), (new : Post) =>
    new.authorId = old.authorId ∧ new.reportsCount = old.reportsCount
  | review, (old : Review), (new : Review) =>
    new.keeperId = old.keeperId ∧ new.authorId = old.authorId
  | message, (old : Message), (new : Message) =>
    new.chatId = old.chatId ∧ new.senderId = old.senderId

/-- What follows in the tables from a change of a row: the rating of the keeper of a review. -/
def follow : (p : Patchable) → Instant → p.Record → Tables → Tables
  | review, now, (new : Review), t => Database.rated now new.keeperId t
  | _, _, _, t => t

/-- What follows in the tables from a change of a row that leaves it as it was: the keeper of a review is
touched. -/
def touch : (p : Patchable) → Instant → p.Record → Tables → Tables
  | review, now, (new : Review), t => Database.keeperTouched now new.keeperId t
  | _, _, _, t => t

/-- **Every column is among those that requests may change, those that none may change, or the shared
ones.** -/
theorem eq_of_kept (p : Patchable) {old new : p.Record} (hcolumns : ∀ column ∈ p.columns, column.Kept old new)
    (hothers : p.KeepsOthers old new) (hentry : HasEntry.entry new = HasEntry.entry old) : new = old := by
  cases p
  all_goals
    cases old
    cases new
    simp_all [columns, User.columns, Keeper.columns, Seeker.columns, Vet.columns, Post.columns,
      Review.columns, Message.columns, Column.Kept, KeepsOthers, HasEntry.entry]

/-- **A rating that was right is right again after a change of a review that only touches it**: working it out
anew changes nothing. -/
theorem follow_touched (p : Patchable) {db : Database} (hrated : db.gradebook.IsRated) {old : p.Record}
    (hmem : old ∈ (Table.rows db.tables : List p.Record)) (now : Instant) :
    let new := HasEntry.modifyEntry (·.touched now.stored) old
    p.follow now new (Database.putRow new db.tables) = p.touch now new (Database.putRow new db.tables) := by
  cases p with
  | review =>
      intro new
      have hsame (s : Review) (hs : s ∈ db.gradebook.reviews) (hid : s.entry.id = new.entry.id) :
          s.keeperId = new.keeperId ∧ s.grade = new.grade ∧ s.entry.isLive = new.entry.isLive := by
        rw [hrated.distinct s hs old hmem hid]
        exact ⟨rfl, rfl, rfl⟩
      have hgrades : (db.gradebook.putReview new).grades new.keeperId = db.gradebook.grades new.keeperId :=
        Gradebook.grades_putReview_of_same hsame
      have hrating : Database.ratingOf (Database.putRow new db.tables) new.keeperId =
          averageGrade (db.gradebook.grades new.keeperId) := congrArg averageGrade hgrades
      refine Database.mapRows_congr fun k hk hid => ?_
      have hk : k ∈ db.gradebook.keepers := hk
      have hright : k.rating = averageGrade (db.gradebook.grades new.keeperId) := by
        rw [hrated.rated k hk, of_decide_eq_true hid]
      rw [hrating, ← hright]
  | user | keeper | seeker | vet | post | message => intro new; rfl

end Patchable

/-! ## From the reply back to the row -/

section

variable {ρ κ : Type} [Editable ρ] [Request κ] {view : ρ → Json} {apply : κ → ρ → ρ}
  {follow : Instant → ρ → Tables → Tables} {endpoint : Endpoint}

/-- An operation that changes the live row with an id as a request asks for. -/
def Database.Patches (apply : κ → ρ → ρ) (follow : Instant → ρ → Tables → Tables) (id : Int) (request : κ)
    (op : Op Database ρ) : Prop :=
  ∀ {now : Instant} {db db' : Database} {new : ρ}, op.exec now db = (.ok new, db') →
    ∃ old, Database.Changes (apply request) id now db old new ∧
      db' = { db with tables := follow now new (Database.putRow new db.tables) }

/-- An endpoint that changes the row with the id in the path as the request in the body asks for, and shows
the row. -/
def Endpoint.Patches (endpoint : Endpoint) (view : ρ → Json) (apply : κ → ρ → ρ)
    (follow : Instant → ρ → Tables → Tables) : Prop :=
  ∀ (x : Exchange) {action : Action Database}, x.plan endpoint = .ok action →
    ∃ (id : Int) (request : κ) (op : Op Database ρ), x.id = .ok id ∧ x.body κ = .ok request ∧
      action = .shows 200 view op ∧ Database.Patches apply follow id request op

/-- How the endpoints that change rows are planned. -/
theorem Endpoint.patches_of_plan (op : Int → Int → κ → Op Database ρ)
    (hplan : ∀ x : Exchange, x.plan endpoint = do
      let caller ← x.caller
      let id ← x.id
      let request ← x.body κ
      return .shows 200 view (op caller.userId id request))
    (hop : ∀ actor id request, Database.Patches apply follow id request (op actor id request)) :
    endpoint.Patches view apply follow := by
  intro x action h
  rw [hplan] at h
  rcases hcaller : x.caller with reply | caller
  · rw [hcaller] at h
    cases h
  rcases hid : x.id with reply | id
  · rw [hcaller, hid] at h
    cases h
  rcases hbody : x.body κ with reply | request
  · rw [hcaller, hid, hbody] at h
    cases h
  rw [hcaller, hid, hbody] at h
  cases h
  exact ⟨id, request, _, rfl, rfl, rfl, hop caller.userId id request⟩

/-- **What a change answered with status 200 has done.** -/
theorem Endpoint.Patches.of_status (h : endpoint.Patches view apply follow) (hwrites : endpoint.writes ≠ [])
    {config : Config} {db : Database} {a : Arrival} {id? : Option (String × String)}
    (hfind : Endpoint.find a.incoming = .endpoint endpoint id?) (hok : (db.reply config a).status = 200) :
    ∃ (id : Int) (request : κ) (old new : ρ), (a.exchange config id?).id = .ok id ∧
      Request.read κ a.incoming.body = .ok request ∧
      Database.Changes (apply request) id a.now db old new ∧
      db.serve config a = { db with tables := follow a.now new (Database.putRow new db.tables) } ∧
      (db.reply config a).content = (Reply.success 200 (view new)).content := by
  rcases hplan : ((a.exchange config id?).plan endpoint : Except Reply (Action Database)) with fault | action
  · have hfault := (a.exchange config id?).faults_plan endpoint (Endpoint.isSome_of_find hfind) fault hplan
    have hstatus : (db.reply config a).status = fault.status := (Database.reply_of_error hfind hplan).1
    have hle := hfault.1
    omega
  obtain ⟨id, request, op, hid, hbody, rfl, hop⟩ := h _ hplan
  obtain ⟨hstatus, hcontent⟩ : Database.ShowsAs a (db.reply config a) _ :=
    Database.reply_of_ok hfind hplan
  have hserve : db.serve config a = (op.exec a.now db).2 := Database.serve_of_shows hfind hplan
  rw [Action.shows_eq, Action.exec_replying] at hstatus hcontent
  rcases hexec : op.exec a.now db with ⟨cause | new, db'⟩
  · rw [hexec, hok] at hstatus
    have hcause : (200 : Nat) = cause.status := hstatus
    have hle := cause.le_status
    omega
  · have hmethod : a.incoming.method ≠ "HEAD" := by
      intro hhead
      refine hwrites (Endpoint.writes_of_get hfind ?_)
      rw [hhead]
      exact List.mem_cons_of_mem _ List.mem_cons_self
    obtain ⟨old, hchanges, hdb⟩ := hop hexec
    rw [hexec, if_neg hmethod] at hcontent
    rw [hexec] at hserve
    exact ⟨id, request, old, new, hid, read_of_receive (Exchange.receive_of_body hbody), hchanges,
      hserve.trans hdb, hcontent⟩

end

/-! ## The seven kinds -/

namespace Database

/-- What comes of a change of a row of a kind that is answered with status 200. -/
structure Overlays (p : Patchable) (config : Config) (db : Database) (a : Arrival)
    (id? : Option (String × String)) (old new : p.Record) : Prop where
  /-- The old row is the live one with the id in the path. -/
  found : old ∈ (Table.rows db.tables : List p.Record) ∧ HasEntry.isLive old = true ∧
    (a.exchange config id?).id = .ok (Table.id old)
  /-- An object changes the columns of the kind by its members. -/
  overlaid : ∀ members, Json.IsObject members a.incoming.body →
    ∀ column ∈ p.columns, column.Overlaid members old new
  /-- An empty body changes nothing but the time of the last change. -/
  touched : a.incoming.body.all Text.isAsciiBlank = true →
    new = HasEntry.modifyEntry (·.touched a.now.stored) old
  /-- Of the shared columns only the time of the last change is another. -/
  shared : HasEntry.entry new = (HasEntry.entry old).touched a.now.stored
  others : p.KeepsOthers old new
  /-- The new row takes the place of the old one, and no other row changes but for what follows. -/
  stored : db.serve config a = { db with tables := p.follow a.now new (putRow new db.tables) }
  /-- An empty body does no more to the keeper of a review than to touch the row, if ratings are right. -/
  steady : a.incoming.body.all Text.isAsciiBlank = true → db.gradebook.IsRated →
    db.serve config a = { db with tables := p.touch a.now new (putRow new db.tables) }
  shown : (db.reply config a).content = (Reply.success 200 (p.view new)).content

variable {config : Config} {db : Database} {a : Arrival} {id? : Option (String × String)}

/-- What comes of a change follows from what its endpoint does and from what its requests say. -/
theorem exists_overlays (p : Patchable) {κ : Type} [Request κ] {apply : κ → p.Record → p.Record}
    (hendpoint : p.endpoint.Patches p.view apply p.follow) (hcolumns : PatchesColumns κ p.columns apply)
    (hwrites : p.endpoint.writes ≠ [])
    (hentry : ∀ given old : p.Record, HasEntry.entry (Editable.overwrite given old) = HasEntry.entry old)
    (hothers : ∀ (given old : p.Record) (now : Instant), p.KeepsOthers old (changed given old now))
    (hfind : Endpoint.find a.incoming = .endpoint p.endpoint id?) (hok : (db.reply config a).status = 200) :
    ∃ old new : p.Record, Overlays p config db a id? old new := by
  obtain ⟨id, request, old, new, hid, hread, ⟨hmem, rfl, hlive, rfl⟩, hserve, hcontent⟩ :=
    hendpoint.of_status hwrites hfind hok
  have hshared (given : p.Record) : HasEntry.entry (changed given old a.now) =
      (HasEntry.entry old).touched a.now.stored := by
    rw [changed, HasEntry.entry_modifyEntry, hentry]
  exact ⟨old, _,
    { found := ⟨hmem, hlive, hid⟩
      overlaid := fun members hobject => hcolumns.overlaid hread hobject old a.now
      touched := fun hblank => hcolumns.touched hread hblank old a.now
      shared := hshared _
      others := hothers _ old a.now
      stored := hserve
      steady := fun hblank hrated => by
        rw [hserve, hcolumns.touched hread hblank old a.now, p.follow_touched hrated hmem a.now]
      shown := hcontent }⟩

open Endpoint (patches_of_plan)

/-- A change of a review that succeeds overlays the review, and a blank one leaves the rating of the keeper.
-/
theorem exists_overlays_review (hfind : Endpoint.find a.incoming = .endpoint .updateReview id?)
    (hok : (db.reply config a).status = 200) : ∃ old new : Review, Overlays .review config db a id? old new := by
  have hendpoint : Endpoint.updateReview.Patches Review.view UpdateReview.apply
      fun now new t => rated now new.keeperId t :=
    patches_of_plan Reviews.update (fun _ => rfl) fun _ _ _ => Reviews.update_eq_ok
  exact exists_overlays .review hendpoint patches_reviews (by decide) (fun _ _ => rfl)
    (fun _ _ _ => ⟨rfl, rfl⟩) hfind hok

/-- **A change of a row is a three-valued overlay**, from the body of the request to the row and the reply:
of a request to change a row that is answered with status 200. -/
theorem patch_overlays (p : Patchable) (hfind : Endpoint.find a.incoming = .endpoint p.endpoint id?)
    (hok : (db.reply config a).status = 200) :
    ∃ old new : p.Record, Overlays p config db a id? old new := by
  -- four things are owed for each kind: what its plan makes of the record, what the tables become,
  -- that its endpoint writes, and the columns it has
  cases p with
  | user =>
      have hendpoint : Endpoint.updateUser.Patches User.view UpdateUser.apply fun _ _ t => t :=
        patches_of_plan Accounts.update (fun _ => rfl) fun _ _ _ => Accounts.update_eq_ok
      exact exists_overlays .user hendpoint patches_users (by decide) (fun _ _ => rfl)
        (fun _ _ _ => ⟨rfl, rfl⟩) hfind hok
  | keeper =>
      have hendpoint : Endpoint.updateKeeper.Patches Keeper.view UpdateKeeper.apply fun _ _ t => t :=
        patches_of_plan (fun actor id request => Profiles.update actor id request.apply) (fun _ => rfl)
          fun _ _ _ _ _ _ _ h => Profiles.update_eq_ok h (changes_of_find rfl)
      exact exists_overlays .keeper hendpoint patches_keepers (by decide) (fun _ _ => rfl)
        (fun _ _ _ => ⟨rfl, rfl⟩) hfind hok
  | seeker =>
      have hendpoint : Endpoint.updateSeeker.Patches Seeker.view UpdateSeeker.apply fun _ _ t => t :=
        patches_of_plan (fun actor id request => Profiles.update actor id request.apply) (fun _ => rfl)
          fun _ _ _ _ _ _ _ h => Profiles.update_eq_ok h (changes_of_find rfl)
      exact exists_overlays .seeker hendpoint patches_seekers (by decide) (fun _ _ => rfl)
        (fun _ _ _ => rfl) hfind hok
  | vet =>
      have hendpoint : Endpoint.updateVet.Patches Vet.view UpdateVet.apply fun _ _ t => t :=
        patches_of_plan (fun actor id request => Profiles.update actor id request.apply) (fun _ => rfl)
          fun _ _ _ _ _ _ _ h => Profiles.update_eq_ok h (changes_of_find rfl)
      exact exists_overlays .vet hendpoint patches_vets (by decide) (fun _ _ => rfl)
        (fun _ _ _ => rfl) hfind hok
  | post =>
      have hendpoint : Endpoint.updatePost.Patches Post.view UpdatePost.apply fun _ _ t => t :=
        patches_of_plan Posts.update (fun _ => rfl) fun _ _ _ => Posts.update_eq_ok
      exact exists_overlays .post hendpoint patches_posts (by decide) (fun _ _ => rfl)
        (fun _ _ _ => ⟨rfl, rfl⟩) hfind hok
  | review => exact exists_overlays_review hfind hok
  | message =>
      have hendpoint : Endpoint.updateMessage.Patches Message.view UpdateMessage.apply fun _ _ t => t :=
        patches_of_plan Messages.update (fun _ => rfl) fun _ _ _ => Messages.update_eq_ok
      exact exists_overlays .message hendpoint patches_messages (by decide) (fun _ _ => rfl)
        (fun _ _ _ => ⟨rfl, rfl⟩) hfind hok

/-- **After every run of requests, a change of a review by an empty body leaves all ratings as they are.** -/
theorem ratings_of_blank (config : Config) (run : List Arrival)
    (hfind : Endpoint.find a.incoming = .endpoint .updateReview id?)
    (hok : ((serveAll config {} run).reply config a).status = 200)
    (hblank : a.incoming.body.all Text.isAsciiBlank = true) :
    ((serveAll config {} run).serve config a).tables.keepers.map Keeper.rating =
      (serveAll config {} run).tables.keepers.map Keeper.rating := by
  obtain ⟨old, new, h⟩ := exists_overlays_review hfind hok
  rw [h.steady hblank (isRated_serveAll config run)]
  change ((serveAll config {} run).tables.keepers.map _).map Keeper.rating = _
  rw [List.map_map]
  refine List.map_congr_left fun k _ => ?_
  rw [Function.comp_apply]
  split_ifs <;> rfl

/-- Anna, who keeps animals, moves to Ulm and no longer asks for money; something else she says is not
understood. -/
def annaMoves (token : String) : Arrival := .bearing token "PATCH" "/api/v1/keepers/1"
  "\x7b\"city\":\"Ulm\",\"price\":null,\"stairs\":[3]\x7d"

/-- Anna keeps animals for money. -/
def annaPaid : Database := withAnna "" [{ entry := annasEntry, userId := 1, price := some 5 }] 1

/-- Anna asks for a change of her profile. -/
theorem find_annaMoves (token : String) :
    Endpoint.find (annaMoves token).incoming = .endpoint .updateKeeper (some ("id", "1")) :=
  show Endpoint.findIn "PATCH" (Path.segments "/api/v1/keepers/1") Endpoint.routes = _ by decide

/-- Her request succeeds. -/
theorem status_annaMoves {config : Config} {token : String}
    (hcaller : ((annaMoves token).exchange config (some ("id", "1"))).caller = .ok ⟨1, false⟩) :
    (annaPaid.reply config (annaMoves token)).status = 200 := by
  let request : UpdateKeeper := { city := .set (some "Ulm"), price := .set none }
  let x : Exchange := (annaMoves token).exchange config (some ("id", "1"))
  have hreceive : receive UpdateKeeper
      (Utf8.encode "\x7b\"city\":\"Ulm\",\"price\":null,\"stairs\":[3]\x7d") = .ok request := by
    decide +kernel
  have hbody : x.body UpdateKeeper = .ok request := Exchange.body_of_receive hreceive
  have hid : x.id = .ok 1 := readId_one
  have hplan : (x.plan .updateKeeper : Except Reply (Action Database)) =
      .ok (.shows 200 Keeper.view (Profiles.update 1 1 request.apply)) := by
    change (x.caller >>= fun caller => x.id >>= fun id => x.body UpdateKeeper >>= _) = _
    rw [hcaller, hid, hbody]
    rfl
  refine (App.serve_of_ok (find_annaMoves token) hplan).1.trans ?_
  rfl

/-- Anna's keeper is changed as she says. -/
theorem patch_overlays_annaMoves :
    Endpoint.find (annaMoves annasToken).incoming = .endpoint .updateKeeper (some ("id", "1")) ∧
      (annaPaid.reply (.blockingAt 3) (annaMoves annasToken)).status = 200 ∧
      ∃ old new : Keeper,
        Overlays .keeper (.blockingAt 3) annaPaid (annaMoves annasToken) (some ("id", "1")) old new :=
  ⟨find_annaMoves annasToken, status_annaMoves (caller_annas rfl),
    patch_overlays .keeper (find_annaMoves annasToken) (status_annaMoves (caller_annas rfl))⟩

end Database

end Fostering
