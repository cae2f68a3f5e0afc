import Fostering.Proofs.Database.Refusals
import Fostering.Proofs.Keepers.Gradebook
import Fostering.Proofs.Posts.Board
import Fostering.Proofs.Sessions.Rows

/-!
# What a call does

A call of the store is refused and leaves every table as it was, or it does what `Effect` says: one
constructor for each call that writes rows, with the rows that it needs, the checks that it makes, and
the tables after it. Whoever reasons about a property of the tables goes through these constructors and
opens no call.

* `RecordEffect`: what a call on rows does that are kept one by one.
* `createChat_cases`, `removeMember_cases`, `addFavourite_cases`, `removeFavourite_cases`: the calls on
  chats and on favourites.
* `effect_perform`: each call of the store has one of the effects.
-/

namespace Fostering

/-- A chat that somebody has left; it is deleted if nobody is left. -/
def Chat.left (c : Chat) (isEmpty : Bool) (now : Instant) : Chat :=
  { c with entry := if isEmpty then c.entry.deleted now.stored else c.entry.touched now.stored }

/-- A chat that somebody leaves keeps its id. -/
theorem Chat.id_left (c : Chat) (isEmpty : Bool) (now : Instant) :
    (c.left isEmpty now).entry.id = c.entry.id := by
  unfold left
  cases isEmpty <;> rfl

/-- A chat that somebody leaves is dated, whether or not it is deleted. -/
theorem Chat.updatedAt_left (c : Chat) (isEmpty : Bool) (now : Instant) :
    (c.left isEmpty now).entry.updatedAt = now.stored := by
  unfold left
  cases isEmpty <;> rfl

namespace Database

variable {ρ φ : Type} {now : Instant} {db db' : Database}

/-! ## Tables -/

/-- The tables with the posts and reports of a board. -/
def withBoard (b : Board) (t : Tables) : Tables := { t with posts := b.posts, reports := b.reports }

/-- The tables with the keepers and reviews of a gradebook. -/
def withGradebook (b : Gradebook) (t : Tables) : Tables :=
  { t with keepers := b.keepers, reviews := b.reviews }

/-- The tables with new members of a chat. -/
def joined (chatId : Int) (ids : List Int) (now : Instant) (t : Tables) : Tables :=
  { t with members := t.members ++ ids.map fun userId => ⟨chatId, userId, now.stored⟩ }

/-- The tables without a member of a chat. -/
def unjoined (chatId userId : Int) (t : Tables) : Tables :=
  { t with members := t.members.filter fun m => !(m.chatId = chatId && m.userId = userId) }

/-- Whether a chat has no members. -/
def isDeserted (chatId : Int) (t : Tables) : Bool := !t.members.any fun m => m.chatId = chatId

/-- The tables with one more mark. -/
def marked (mark : Favourite) (t : Tables) : Tables := { t with favourites := t.favourites ++ [mark] }

/-- The tables without a mark. -/
def unmarked (userId keeperId : Int) (t : Tables) : Tables :=
  { t with favourites := t.favourites.filter fun f => !isMark userId keeperId f }

/-- What an operation leaves that changes posts and reports only. -/
theorem tables_of_board {α : Type} {op : Op Database α} {result : Except Error α}
    (hframe : op.KeepsTo (OnlyChanges [.posts, .reports])) (hexec : op.exec now db = (result, db')) :
    db'.tables = withBoard db'.board db.tables := by
  have hagrees (name : TableName) (hname : name ∉ [TableName.posts, .reports]) :
      name.Agrees db.tables db'.tables := by
    have hchanges := hframe now db
    rw [hexec] at hchanges
    exact hchanges name hname
  unfold withBoard board
  rw [← hagrees .users (by decide), ← hagrees .keepers (by decide), ← hagrees .seekers (by decide),
    ← hagrees .vets (by decide), ← hagrees .reviews (by decide), ← hagrees .chats (by decide),
    ← hagrees .members (by decide), ← hagrees .messages (by decide),
    ← hagrees .favourites (by decide), ← hagrees .sessions (by decide)]

/-- What an operation leaves that changes reviews and keepers only. -/
theorem tables_of_gradebook {α : Type} {op : Op Database α} {result : Except Error α}
    (hframe : op.KeepsTo (OnlyChanges [.reviews, .keepers])) (hexec : op.exec now db = (result, db')) :
    db'.tables = withGradebook db'.gradebook db.tables := by
  have hagrees (name : TableName) (hname : name ∉ [TableName.reviews, .keepers]) :
      name.Agrees db.tables db'.tables := by
    have hchanges := hframe now db
    rw [hexec] at hchanges
    exact hchanges name hname
  unfold withGradebook gradebook
  rw [← hagrees .users (by decide), ← hagrees .seekers (by decide), ← hagrees .vets (by decide),
    ← hagrees .posts (by decide), ← hagrees .reports (by decide), ← hagrees .chats (by decide),
    ← hagrees .members (by decide), ← hagrees .messages (by decide),
    ← hagrees .favourites (by decide), ← hagrees .sessions (by decide)]

/-! ## Effects -/

/-- What a call on rows that are kept one by one does to the tables. -/
inductive RecordEffect [Editable ρ] (now : Instant) (t : Tables) : Store.RecordCall ρ φ → Tables → Prop
  where
  /-- The call only looks, or it is refused. -/
  | stay (call : Store.RecordCall ρ φ) : RecordEffect now t call t
  | create (given : ρ) (id : Int) (insertable : IsInsertable t (Table.setId id (draft given))) :
      RecordEffect now t (.create given) (addRow (Table.setId id (draft given)) t)
  | update (given old : ρ) (mem : old ∈ (Table.rows t : List ρ)) (same : Table.id old = Table.id given)
      (live : HasEntry.isLive old = true) (admissible : IsAdmissible t (changed given old now)) :
      RecordEffect now t (.update given) (putRow (changed given old now) t)
  | delete (id : Int) (old : ρ) (mem : old ∈ (Table.rows t : List ρ)) (same : Table.id old = id)
      (live : HasEntry.isLive old = true) :
      RecordEffect now t (.delete id) (putRow (buried old now) t)

/-- What a call of the store does to the tables. -/
inductive Effect (now : Instant) (t : Tables) : Store.Call → Tables → Prop where
  /-- The call only looks, or it is refused. -/
  | stay (call : Store.Call) : Effect now t call t
  | user (call : Store.RecordCall User UserFilter) (t' : Tables) (h : RecordEffect now t call t') :
      Effect now t (.user call) t'
  | keeper (call : Store.RecordCall Keeper KeeperFilter) (t' : Tables)
      (h : RecordEffect now t call t') : Effect now t (.keeper call) t'
  | seeker (call : Store.RecordCall Seeker SeekerFilter) (t' : Tables)
      (h : RecordEffect now t call t') : Effect now t (.seeker call) t'
  | vet (call : Store.RecordCall Vet VetFilter) (t' : Tables) (h : RecordEffect now t call t') :
      Effect now t (.vet call) t'
  | post (call : Store.RecordCall Post PostFilter) (t' : Tables) (h : RecordEffect now t call t') :
      Effect now t (.post call) t'
  | message (call : Store.RecordCall Message MessageFilter) (t' : Tables)
      (h : RecordEffect now t call t') : Effect now t (.message call) t'
  /-- A live keeper is reviewed, and the rating is worked out anew. -/
  | createReview (given : Review) (id : Int) (keeper : Keeper) (mem : keeper ∈ t.keepers)
      (same : keeper.entry.id = given.keeperId) (live : keeper.entry.isLive = true)
      (insertable : IsInsertable t (Table.setId id (draft given))) :
      Effect now t (.review (.create given)) (withGradebook (Gradebook.rate given.keeperId now
        (Gradebook.addReview (Table.setId id (draft given)) ⟨t.keepers, t.reviews⟩)) t)
  | updateReview (given old : Review) (mem : old ∈ t.reviews) (same : old.entry.id = given.entry.id)
      (live : old.entry.isLive = true) (admissible : IsAdmissible t (changed given old now)) :
      Effect now t (.review (.update given)) (withGradebook (Gradebook.rate old.keeperId now
        (Gradebook.putReview (changed given old now) ⟨t.keepers, t.reviews⟩)) t)
  | deleteReview (id : Int) (old : Review) (mem : old ∈ t.reviews) (same : old.entry.id = id)
      (live : old.entry.isLive = true) :
      Effect now t (.review (.delete id)) (withGradebook (Gradebook.rate old.keeperId now
        (Gradebook.putReview (buried old now) ⟨t.keepers, t.reviews⟩)) t)
  /-- A live and published post is reported, and its reports are counted anew. -/
  | fileReport (given : Report) (threshold id : Int) (post : Post) (mem : post ∈ t.posts)
      (same : post.entry.id = given.postId) (live : post.entry.isLive = true)
      (insertable : IsInsertable t (given.opened id)) :
      Effect now t (.fileReport given threshold) (withBoard (Board.recount given.postId threshold now
        (Board.addReport (given.opened id) ⟨t.posts, t.reports⟩)) t)
  | approvePost (id : Int) (old : Post) (mem : old ∈ t.posts) (same : old.entry.id = id)
      (live : old.entry.isLive = true) :
      Effect now t (.approvePost id)
        (putRow (old.approved now) (dropRows (fun r : Report => decide (r.postId = id)) t))
  | blockPost (id : Int) (old : Post) (mem : old ∈ t.posts) (same : old.entry.id = id)
      (live : old.entry.isLive = true) : Effect now t (.blockPost id) (putRow (old.barred now) t)
  /-- A chat is opened for live users. -/
  | createChat (given : Chat) (ids : List Int) (id : Int) (count : countLiveUsers t ids = ids.length)
      (insertable : IsInsertable t (Table.setId id (draftChat given))) :
      Effect now t (.createChat given ids)
        (joined id ids now (addRow (Table.setId id (draftChat given)) t))
  /-- A member leaves a live chat. -/
  | removeMember (chatId userId : Int) (chat : Chat) (mem : chat ∈ t.chats)
      (same : chat.entry.id = chatId) (live : chat.entry.isLive = true)
      (member : isMember t chatId userId = true) :
      Effect now t (.removeMember chatId userId)
        (putRow (chat.left (isDeserted chatId (unjoined chatId userId t)) now)
          (unjoined chatId userId t))
  /-- The session of a user on a device is replaced. -/
  | replaceSession (given old : Session) (mem : old ∈ t.sessions) (same : isFor given old = true)
      (admissible : IsAdmissible t (placed given old.id now)) :
      Effect now t (.upsertSession given) (putRow (placed given old.id now) t)
  /-- A user gets a first session on a device. -/
  | addSession (given : Session) (id : Int) (first : ∀ old ∈ t.sessions, isFor given old = false)
      (insertable : IsInsertable t (placed given id now)) :
      Effect now t (.upsertSession given) (addRow (placed given id now) t)
  | takeSession (hash : String) :
      Effect now t (.takeSession hash) (dropRows (isCurrent hash now.stored) t)
  | deleteSession (userId : Int) (fingerprint : String) :
      Effect now t (.deleteSession userId fingerprint)
        (dropRows (fun s : Session => s.userId = userId && s.fingerprint = fingerprint) t)
  /-- A user marks a live keeper for the first time. -/
  | addFavourite (userId keeperId : Int) (keeper : Keeper) (mem : keeper ∈ t.keepers)
      (same : keeper.entry.id = keeperId) (live : keeper.entry.isLive = true)
      (first : ∀ f ∈ t.favourites, isMark userId keeperId f = false)
      (user : Schema.hasId t.users userId = true) :
      Effect now t (.addFavourite userId keeperId) (marked ⟨userId, keeperId, now.stored⟩ t)
  | removeFavourite (userId keeperId : Int) :
      Effect now t (.removeFavourite userId keeperId) (unmarked userId keeperId t)

/-! ## Rows that are kept one by one -/

/-- A call that is refused has no effect on the tables. -/
theorem effect_of_isRefused {α : Type} {op : Op Database α} (h : IsRefused op now db)
    (call : Store.Call) : Effect now db.tables call (op.exec now db).2.tables := by
  rw [h.tables_eq]
  exact .stay call

/-- A call that only looks leaves every table as it was. -/
theorem effect_of_reads (now : Instant) (db : Database) (call : Store.Call) (h : call.writes = []) :
    Effect now db.tables call (call.perform.exec now db).2.tables := by
  have hkeeps := perform_onlyChanges call now db
  rw [h] at hkeeps
  rw [tables_of_onlyChanges_nil hkeeps]
  exact .stay call

/-- What a call on records does to the tables. -/
theorem effect_records [Editable ρ] [Columns ρ] [Filter φ ρ] (call : Store.RecordCall ρ φ)
    (now : Instant) (db : Database) :
    letI := records ρ φ
    RecordEffect now db.tables call
      ((call.perform : Op Database call.Result).exec now db).2.tables := by
  have hlooks {t : Tables} (h : t = db.tables) : RecordEffect now db.tables call t := h ▸ .stay call
  cases call with
  | create given =>
      change RecordEffect now db.tables _ ((create given).exec now db).2.tables
      rw [create_eq]
      rcases insert_cases (draft given) now db with h | ⟨new, db', rfl, -, hnew, heq, htables⟩
      · exact hlooks h.tables_eq
      · rw [heq, htables]
        exact .create given _ hnew
  | update given =>
      change RecordEffect now db.tables _ ((update given).exec now db).2.tables
      rcases update_cases given now db with h | ⟨old, hmem, hid, hlive, -, hrow, heq⟩
      · exact hlooks h.tables_eq
      · rw [heq]
        exact .update given old hmem hid hlive hrow
  | delete id =>
      change RecordEffect now db.tables _ ((delete ρ id).exec now db).2.tables
      rcases delete_cases ρ id now db with h | ⟨old, hmem, hid, hlive, heq⟩
      · exact hlooks h.tables_eq
      · rw [heq]
        exact .delete id old hmem hid hlive
  | find id => exact hlooks (tables_of_onlyChanges_nil (keepsTo_find (ρ := ρ) id now db))
  | findAny id => exact hlooks (tables_of_onlyChanges_nil (keepsTo_findAny (ρ := ρ) id now db))
  | list filter order page =>
      exact hlooks (tables_of_onlyChanges_nil (keepsTo_list filter order page now db))

/-! ## Reviews -/

section

variable (now : Instant) (db : Database)

/-- What a new review does to the tables. -/
theorem effect_createReview (given : Review) :
    Effect now db.tables (.review (.create given)) ((createReview given).exec now db).2.tables := by
  rcases createReview_cases now db given with
    h | ⟨keeper, hmem, hid, hlive, id, db', -, hnew, heq, hbook⟩
  · exact effect_of_isRefused h _
  · rw [heq, tables_of_gradebook (keepsTo_reviews (.create given)) heq, hbook]
    exact .createReview given id keeper hmem hid hlive hnew

/-- What a change of a review does to the tables. -/
theorem effect_updateReview (given : Review) :
    Effect now db.tables (.review (.update given)) ((updateReview given).exec now db).2.tables := by
  rcases updateReview_cases now db given with h | ⟨old, hmem, hid, hlive, -, hrow, db', heq, hbook⟩
  · exact effect_of_isRefused h _
  · rw [heq, tables_of_gradebook (keepsTo_reviews (.update given)) heq, hbook]
    exact .updateReview given old hmem hid hlive hrow

/-- What the deletion of a review does to the tables. -/
theorem effect_deleteReview (id : Int) :
    Effect now db.tables (.review (.delete id)) ((deleteReview id).exec now db).2.tables := by
  rcases deleteReview_cases now db id with h | ⟨old, hmem, hid, hlive, db', heq, hbook⟩
  · exact effect_of_isRefused h _
  · rw [heq, tables_of_gradebook (keepsTo_reviews (.delete id)) heq, hbook]
    exact .deleteReview id old hmem hid hlive

/-! ## Reports and decisions on them -/

/-- What a report does to the tables. -/
theorem effect_fileReport (given : Report) (threshold : Int) :
    Effect now db.tables (.fileReport given threshold)
      ((fileReport given threshold).exec now db).2.tables := by
  rcases fileReport_cases now db given threshold with
    h | ⟨post, hmem, hid, hlive, -, id, db', hnew, heq, hboard⟩
  · exact effect_of_isRefused h _
  · rw [heq, tables_of_board (keepsTo_fileReport given threshold) heq, hboard]
    exact .fileReport given threshold id post hmem hid hlive hnew

/-- What an approval does to the tables. -/
theorem effect_approvePost (id : Int) :
    Effect now db.tables (.approvePost id) ((approvePost id).exec now db).2.tables := by
  rcases find_cases Post id now db with ⟨old, hmem, hid, hlive, hfind⟩ | ⟨-, hfind⟩
  · by_cases hdue : old.status = PostStatus.blocked.name ∨ old.reportsCount ≠ 0
    · rw [approvePost_of_due now db hfind hdue]
      exact .approvePost id old hmem hid hlive
    · exact effect_of_isRefused (isRefused_approvePost now db hfind hdue) _
  · have hrefused : IsRefused (find Post id) now db := ⟨_, db, hfind, rfl⟩
    exact effect_of_isRefused (hrefused.bind _).atomically _

/-- What a block does to the tables. -/
theorem effect_blockPost (id : Int) :
    Effect now db.tables (.blockPost id) ((blockPost id).exec now db).2.tables := by
  rcases find_cases Post id now db with ⟨old, hmem, hid, hlive, hfind⟩ | ⟨-, hfind⟩
  · rw [blockPost_of_find now db hfind]
    exact .blockPost id old hmem hid hlive
  · have hrefused : IsRefused (blockPost id) now db := .bind ⟨_, _, hfind, rfl⟩ _
    exact effect_of_isRefused hrefused _

/-! ## Chats -/

/-- Once a chat is stored, its members join it. -/
theorem createChat_of_insert {given new : Chat} {ids : List Int} {db₁ : Database}
    (hcount : countLiveUsers db.tables ids = ids.length)
    (hinsert : (insert (draftChat given)).exec now db = (.ok new, db₁)) :
    (createChat given ids).exec now db =
      (.ok ⟨new, ids⟩, { db₁ with tables := joined new.entry.id ids now db₁.tables }) := by
  have hlook := exec_look (fun t => countLiveUsers t ids) now db
  have hguard := Op.exec_guard_of_true (decide_eq_true hcount)
    (.validation "One or more chat members do not exist") now db
  refine atomically_of_ok ?_
  rw [Op.exec_bind_ok hlook]
  exact (Op.exec_bind_ok hguard).trans (Op.exec_bind_ok hinsert)

/-- A chat is not opened for somebody who is no live user, or for somebody twice. -/
theorem exec_createChat_of_missing {given : Chat} {ids : List Int}
    (hcount : countLiveUsers db.tables ids ≠ ids.length) :
    (createChat given ids).exec now db =
      (.error (.validation "One or more chat members do not exist"), db) := by
  have hlook := exec_look (fun t => countLiveUsers t ids) now db
  have hguard := Op.exec_guard_of_false (decide_eq_false hcount)
    (.validation "One or more chat members do not exist") now db
  exact exec_atomically_of_error ((Op.exec_bind_ok hlook).trans (Op.exec_bind_error hguard))

/-- A chat is not opened, or all its members are live users and it is new. -/
theorem createChat_cases (given : Chat) (ids : List Int) :
    IsRefused (createChat given ids) now db ∨
      countLiveUsers db.tables ids = ids.length ∧
      ∃ id db', IsInsertable db.tables (Table.setId id (draftChat given)) ∧
        (createChat given ids).exec now db = (.ok ⟨Table.setId id (draftChat given), ids⟩, db') ∧
        db'.tables = joined id ids now (addRow (Table.setId id (draftChat given)) db.tables) := by
  by_cases hcount : countLiveUsers db.tables ids = ids.length
  case neg => exact .inl ⟨_, db, exec_createChat_of_missing now db hcount, rfl⟩
  have hlook := exec_look (fun t => countLiveUsers t ids) now db
  have hguard := Op.exec_guard_of_true (decide_eq_true hcount)
    (.validation "One or more chat members do not exist") now db
  rcases insert_cases (draftChat given) now db with h | ⟨new, db₁, rfl, -, hnew, hinsert, htables⟩
  · exact .inl (IsRefused.after hlook rfl (.after hguard rfl (h.bind _))).atomically
  · let id : Int := Table.lastId Chat db.sequences + 1
    refine .inr ⟨hcount, id, { db₁ with tables := joined id ids now db₁.tables }, hnew, ?_, ?_⟩
    · exact createChat_of_insert now db hcount hinsert
    · rw [← htables]

/-- What a new chat does to the tables. -/
theorem effect_createChat (given : Chat) (ids : List Int) :
    Effect now db.tables (.createChat given ids) ((createChat given ids).exec now db).2.tables := by
  rcases createChat_cases now db given ids with h | ⟨hcount, id, db', hnew, heq, htables⟩
  · exact effect_of_isRefused h _
  · rw [heq, htables]
    exact .createChat given ids id hcount hnew

/-- A member of a live chat leaves it. -/
theorem removeMember_of_find {chatId userId : Int} {chat : Chat}
    (hchat : (Table.rows db.tables).find? (fun c : Chat => c.entry.id = chatId && c.entry.isLive) = some chat)
    (hmember : isMember db.tables chatId userId = true) :
    (removeMember chatId userId).exec now db = (.ok (), { db with
      tables := putRow (chat.left (isDeserted chatId (unjoined chatId userId db.tables)) now)
        (unjoined chatId userId db.tables) }) := by
  have hfind := exec_find? (fun c : Chat => c.entry.id = chatId && c.entry.isLive) now db
  rw [hchat] at hfind
  have hsome := Op.exec_orRefuse_some (noSuchChat chatId) chat now db
  have hlook := exec_look (fun t => isMember t chatId userId) now db
  rw [hmember] at hlook
  have hguard := Op.exec_guard_of_true rfl (noSuchChat chatId) now db
  let db₁ : Database := { db with tables := unjoined chatId userId db.tables }
  have hreplace := exec_replace (chat.left (isDeserted chatId db₁.tables) now) now db₁
  refine atomically_of_ok ?_
  rw [Op.exec_bind_ok hfind, Op.exec_bind_ok hsome, Op.exec_bind_ok hlook, Op.exec_bind_ok hguard]
  exact hreplace

/-- Nobody leaves a chat, or a member leaves a live one. -/
theorem removeMember_cases (chatId userId : Int) :
    IsRefused (removeMember chatId userId) now db ∨
      ∃ chat ∈ db.tables.chats, chat.entry.id = chatId ∧ chat.entry.isLive = true ∧
        isMember db.tables chatId userId = true ∧
        (removeMember chatId userId).exec now db = (.ok (), { db with
          tables := putRow (chat.left (isDeserted chatId (unjoined chatId userId db.tables)) now)
            (unjoined chatId userId db.tables) }) := by
  have hfind := exec_find? (fun c : Chat => c.entry.id = chatId && c.entry.isLive) now db
  rcases hchat : (Table.rows db.tables).find? fun c : Chat => c.entry.id = chatId && c.entry.isLive
    with _ | chat
  · rw [hchat] at hfind
    have hnone : IsRefused (Op.orRefuse (noSuchChat chatId) none : Op Database Chat) now db :=
      ⟨_, db, rfl, rfl⟩
    exact .inl (IsRefused.after hfind rfl (hnone.bind _)).atomically
  rw [hchat] at hfind
  have hlook := exec_look (fun t => isMember t chatId userId) now db
  have hsome := Op.exec_orRefuse_some (noSuchChat chatId) chat now db
  rcases hmember : isMember db.tables chatId userId
  · rw [hmember] at hlook
    have hguard : IsRefused (Op.guard false (noSuchChat chatId)) now db := isRefused_guard rfl _
    exact .inl (IsRefused.after hfind rfl (.after hsome rfl (.after hlook rfl (hguard.bind _)))).atomically
  · have hp := List.find?_some hchat
    simp only [Bool.and_eq_true, decide_eq_true_eq] at hp
    exact .inr ⟨chat, List.mem_of_find?_eq_some hchat, hp.1, hp.2, rfl,
      removeMember_of_find now db hchat hmember⟩

/-- What a member who leaves does to the tables. -/
theorem effect_removeMember (chatId userId : Int) :
    Effect now db.tables (.removeMember chatId userId)
      ((removeMember chatId userId).exec now db).2.tables := by
  rcases removeMember_cases now db chatId userId with h | ⟨chat, hmem, hid, hlive, hmember, heq⟩
  · exact effect_of_isRefused h _
  · rw [heq]
    exact .removeMember chatId userId chat hmem hid hlive hmember

/-! ## Sessions -/

/-- What a new session does to the tables. -/
theorem effect_upsertSession (given : Session) :
    Effect now db.tables (.upsertSession given) ((upsertSession given).exec now db).2.tables := by
  rcases upsertSession_cases given now db with
    h | ⟨old, hmem, hfor, -, hrow, heq⟩ | ⟨hfree, -, hnew, heq⟩
  · exact effect_of_isRefused h _
  · rw [heq]
    exact .replaceSession given old hmem hfor hrow
  · rw [heq]
    exact .addSession given _ hfree hnew

/-- What it does to the tables to take a session. -/
theorem effect_takeSession (hash : String) :
    Effect now db.tables (.takeSession hash) ((takeSession hash).exec now db).2.tables := by
  rcases hstorable : isStorableText hash
  · exact effect_of_isRefused ((isRefused_guard hstorable unstorable).bind _) _
  · have hguard : (guardText hash).exec now db = (.ok (), db) :=
      Op.exec_guard_of_true hstorable unstorable now db
    unfold takeSession
    rw [Op.exec_bind_ok hguard, Op.exec_bind_ok (exec_now now db)]
    exact .takeSession hash

/-- What it does to the tables to delete a session. -/
theorem effect_deleteSession (userId : Int) (fingerprint : String) :
    Effect now db.tables (.deleteSession userId fingerprint)
      ((deleteSession userId fingerprint).exec now db).2.tables := by
  rcases exec_deleteSession userId fingerprint now db with ⟨-, h⟩ | ⟨-, h⟩
  · rw [h]
    exact .deleteSession userId fingerprint
  · rw [h]
    exact .stay _

/-! ## Favourites -/

/-- Marking a keeper again changes nothing. -/
theorem addFavourite_of_marked {userId keeperId : Int} {keeper : Keeper} {mark : Favourite}
    (hfind : (find Keeper keeperId).exec now db = (.ok keeper, db))
    (hmark : db.tables.favourites.find? (isMark userId keeperId) = some mark) :
    (addFavourite userId keeperId).exec now db = (.ok mark, db) := by
  have hlook := exec_look (fun t => t.favourites.find? (isMark userId keeperId)) now db
  rw [hmark] at hlook
  unfold addFavourite
  rw [Op.exec_bind_ok hfind, Op.exec_bind_ok hlook]
  rfl

/-- A keeper without a mark of the user is marked if the user is there. -/
theorem addFavourite_of_unmarked {userId keeperId : Int} {keeper : Keeper}
    (hfind : (find Keeper keeperId).exec now db = (.ok keeper, db))
    (hmark : db.tables.favourites.find? (isMark userId keeperId) = none) :
    (addFavourite userId keeperId).exec now db =
      if Schema.hasId db.tables.users userId then (.ok ⟨userId, keeperId, now.stored⟩,
        { db with tables := marked ⟨userId, keeperId, now.stored⟩ db.tables })
      else (.error (.validation (Reference.message ⟨"favourite_keepers", "user_id"⟩)), db) := by
  have hlook := exec_look (fun t => t.favourites.find? (isMark userId keeperId)) now db
  rw [hmark] at hlook
  have hlook' := exec_look
    (fun t => Schema.missingUser? t "favourite_keepers" "user_id" userId) now db
  unfold Schema.missingUser? at hlook'
  unfold addFavourite Schema.missingUser?
  rw [Op.exec_bind_ok hfind, Op.exec_bind_ok hlook, Op.exec_bind_ok hlook']
  rcases Schema.hasId db.tables.users userId <;> rfl

/-- A keeper is not marked, or has been marked before, or a live one is marked for the first time. -/
theorem addFavourite_cases (userId keeperId : Int) :
    IsRefused (addFavourite userId keeperId) now db ∨
      (∃ mark ∈ db.tables.favourites, isMark userId keeperId mark = true ∧
        (addFavourite userId keeperId).exec now db = (.ok mark, db)) ∨
      ∃ keeper ∈ db.tables.keepers, keeper.entry.id = keeperId ∧ keeper.entry.isLive = true ∧
        (∀ f ∈ db.tables.favourites, isMark userId keeperId f = false) ∧
        Schema.hasId db.tables.users userId = true ∧
        (addFavourite userId keeperId).exec now db = (.ok ⟨userId, keeperId, now.stored⟩,
          { db with tables := marked ⟨userId, keeperId, now.stored⟩ db.tables }) := by
  rcases find_cases Keeper keeperId now db with ⟨keeper, hmem, hid, hlive, hfind⟩ | ⟨-, hfind⟩
  case inr => exact .inl (.bind ⟨_, db, hfind, rfl⟩ _)
  rcases hmark : db.tables.favourites.find? (isMark userId keeperId) with _ | mark
  · have hunmarked := addFavourite_of_unmarked now db hfind hmark
    rcases huser : Schema.hasId db.tables.users userId
    · rw [huser] at hunmarked
      exact .inl ⟨_, db, hunmarked, rfl⟩
    · rw [huser] at hunmarked
      refine .inr (.inr ⟨keeper, hmem, hid, hlive, fun f hf => ?_, rfl, hunmarked⟩)
      exact eq_false_of_ne_true (List.find?_eq_none.mp hmark f hf)
  · exact .inr (.inl ⟨mark, List.mem_of_find?_eq_some hmark, List.find?_some hmark,
      addFavourite_of_marked now db hfind hmark⟩)

/-- What a new mark does to the tables. -/
theorem effect_addFavourite (userId keeperId : Int) :
    Effect now db.tables (.addFavourite userId keeperId)
      ((addFavourite userId keeperId).exec now db).2.tables := by
  rcases addFavourite_cases now db userId keeperId with
    h | ⟨mark, -, -, heq⟩ | ⟨keeper, hmem, hid, hlive, hfirst, huser, heq⟩
  · exact effect_of_isRefused h _
  · rw [heq]
    exact .stay _
  · rw [heq]
    exact .addFavourite userId keeperId keeper hmem hid hlive hfirst huser

/-- A mark that is there is taken back. -/
theorem removeFavourite_of_marked {userId keeperId : Int}
    (hmark : (db.tables.favourites.find? (isMark userId keeperId)).isSome = true) :
    (removeFavourite userId keeperId).exec now db =
      (.ok (), { db with tables := unmarked userId keeperId db.tables }) := by
  have hlook := exec_look (fun t => t.favourites.find? (isMark userId keeperId)) now db
  have hguard := Op.exec_guard_of_true hmark (.notFound "Favourite" keeperId) now db
  unfold removeFavourite
  rw [Op.exec_bind_ok hlook, Op.exec_bind_ok hguard]
  rfl

/-- There is nothing to take back. -/
theorem removeFavourite_of_unmarked {userId keeperId : Int}
    (hmark : (db.tables.favourites.find? (isMark userId keeperId)).isSome = false) :
    (removeFavourite userId keeperId).exec now db = (.error (.notFound "Favourite" keeperId), db) := by
  have hlook := exec_look (fun t => t.favourites.find? (isMark userId keeperId)) now db
  have hguard := Op.exec_guard_of_false hmark (.notFound "Favourite" keeperId) now db
  unfold removeFavourite
  rw [Op.exec_bind_ok hlook]
  exact Op.exec_bind_error hguard

/-- There is no mark to take back, or it is taken back. -/
theorem removeFavourite_cases (userId keeperId : Int) :
    IsRefused (removeFavourite userId keeperId) now db ∨
      (removeFavourite userId keeperId).exec now db =
        (.ok (), { db with tables := unmarked userId keeperId db.tables }) := by
  rcases hmark : (db.tables.favourites.find? (isMark userId keeperId)).isSome
  · exact .inl ⟨_, db, removeFavourite_of_unmarked now db hmark, rfl⟩
  · exact .inr (removeFavourite_of_marked now db hmark)

/-- What it does to the tables to remove a mark. -/
theorem effect_removeFavourite (userId keeperId : Int) :
    Effect now db.tables (.removeFavourite userId keeperId)
      ((removeFavourite userId keeperId).exec now db).2.tables := by
  rcases removeFavourite_cases now db userId keeperId with h | heq
  · exact effect_of_isRefused h _
  · rw [heq]
    exact .removeFavourite userId keeperId

/-! ## Calls -/

/-- **Each call of the store has one of the effects.** -/
theorem effect_perform (call : Store.Call) :
    Effect now db.tables call (call.perform.exec now db).2.tables := by
  cases call with
  | user call => exact .user call _ (effect_records call now db)
  | keeper call => exact .keeper call _ (effect_records call now db)
  | seeker call => exact .seeker call _ (effect_records call now db)
  | vet call => exact .vet call _ (effect_records call now db)
  | post call => exact .post call _ (effect_records call now db)
  | message call => exact .message call _ (effect_records call now db)
  | review call =>
      cases call with
      | create given => exact effect_createReview now db given
      | update given => exact effect_updateReview now db given
      | delete id => exact effect_deleteReview now db id
      | find id | findAny id | list filter order page => exact effect_of_reads now db _ rfl
  | fileReport report threshold => exact effect_fileReport now db report threshold
  | approvePost id => exact effect_approvePost now db id
  | blockPost id => exact effect_blockPost now db id
  | createChat chat memberIds => exact effect_createChat now db chat memberIds
  | removeMember chatId userId => exact effect_removeMember now db chatId userId
  | upsertSession session => exact effect_upsertSession now db session
  | takeSession hash => exact effect_takeSession now db hash
  | deleteSession userId fingerprint => exact effect_deleteSession now db userId fingerprint
  | addFavourite userId keeperId => exact effect_addFavourite now db userId keeperId
  | removeFavourite userId keeperId => exact effect_removeFavourite now db userId keeperId
  | userByName _ | keeperOf _ | seekerOf _ | vetOf _ | reportsOn _ | countReports _
  | moderationQueue _ | findChat _ | findAnyChat _ | chatsOf _ _ | isMember _ _ | findSession _
  | favouritesOf _ _ | reachable => exact effect_of_reads now db _ rfl

end

/-! ## Calls on rows that are kept one by one -/

namespace Effect

variable {t t' : Tables}

/-- A call on users does to the tables what a call on rows of any kind does. -/
theorem of_user {call : Store.RecordCall User UserFilter} (h : Effect now t (.user call) t') :
    RecordEffect now t call t' := by
  cases h with
  | stay => exact .stay _
  | user _ _ h => exact h

theorem of_keeper {call : Store.RecordCall Keeper KeeperFilter} (h : Effect now t (.keeper call) t') :
    RecordEffect now t call t' := by
  cases h with
  | stay => exact .stay _
  | keeper _ _ h => exact h

theorem of_seeker {call : Store.RecordCall Seeker SeekerFilter} (h : Effect now t (.seeker call) t') :
    RecordEffect now t call t' := by
  cases h with
  | stay => exact .stay _
  | seeker _ _ h => exact h

theorem of_vet {call : Store.RecordCall Vet VetFilter} (h : Effect now t (.vet call) t') :
    RecordEffect now t call t' := by
  cases h with
  | stay => exact .stay _
  | vet _ _ h => exact h

theorem of_post {call : Store.RecordCall Post PostFilter} (h : Effect now t (.post call) t') :
    RecordEffect now t call t' := by
  cases h with
  | stay => exact .stay _
  | post _ _ h => exact h

theorem of_message {call : Store.RecordCall Message MessageFilter}
    (h : Effect now t (.message call) t') : RecordEffect now t call t' := by
  cases h with
  | stay => exact .stay _
  | message _ _ h => exact h

end Effect

/-! ## Tables that a call leaves alone -/

section

variable {t t' : Tables} {call : Store.Call} {name : TableName}

/-- A gradebook has reviews and keepers, and no other rows. -/
theorem agrees_withGradebook {b : Gradebook}
    (hname : name ∉ [TableName.reviews, .keepers]) : name.Agrees t (withGradebook b t) := by
  obtain ⟨hreviews, hkeepers⟩ : name ≠ NamedTable.name Review ∧ name ≠ NamedTable.name Keeper :=
    TableName.ne_and_ne_of_not_mem hname
  exact (NamedTable.agrees_setRows hkeepers b.keepers t).trans (NamedTable.agrees_setRows hreviews b.reviews _)

/-- A board has posts and reports, and no other rows. -/
theorem agrees_withBoard {b : Board} (hname : name ∉ [TableName.posts, .reports]) :
    name.Agrees t (withBoard b t) := by
  obtain ⟨hposts, hreports⟩ : name ≠ NamedTable.name Post ∧ name ≠ NamedTable.name Report :=
    TableName.ne_and_ne_of_not_mem hname
  exact (NamedTable.agrees_setRows hposts b.posts t).trans (NamedTable.agrees_setRows hreports b.reports _)

/-- A call on rows of one kind leaves the tables of other kinds as they were. -/
theorem agrees_of_recordEffect [Editable ρ] [NamedTable ρ] {call : Store.RecordCall ρ φ}
    (h : RecordEffect now t call t') (hname : name ∉ call.writes [NamedTable.name ρ]) :
    name.Agrees t t' := by
  cases h with
  | stay => exact .refl name t
  | create | update | delete => exact NamedTable.agrees_setRows (List.ne_of_not_mem_cons hname) _ t

/-- Judging a post leaves all tables but two as they were. -/
theorem agrees_judged {new : Post} {p : Report → Bool} (hname : name ∉ [TableName.posts, .reports]) :
    name.Agrees t (putRow new (dropRows p t)) := by
  obtain ⟨hposts, hreports⟩ : name ≠ NamedTable.name Post ∧ name ≠ NamedTable.name Report :=
    TableName.ne_and_ne_of_not_mem hname
  exact (NamedTable.agrees_setRows hreports _ t).trans (NamedTable.agrees_setRows hposts _ _)

theorem agrees_joined {chat : Chat} {chatId : Int} {members : List Int}
    (hname : name ∉ [TableName.chats, .members]) :
    name.Agrees t (joined chatId members now (addRow chat t)) := by
  obtain ⟨hchats, hmembers⟩ : name ≠ NamedTable.name Chat ∧ name ≠ .members :=
    TableName.ne_and_ne_of_not_mem hname
  exact (NamedTable.agrees_setRows hchats _ t).trans (TableName.agrees_members hmembers _ _)

theorem agrees_unjoined {chat : Chat} {chatId userId : Int}
    (hname : name ∉ [TableName.chats, .members]) :
    name.Agrees t (putRow chat (unjoined chatId userId t)) := by
  obtain ⟨hchats, hmembers⟩ : name ≠ NamedTable.name Chat ∧ name ≠ .members :=
    TableName.ne_and_ne_of_not_mem hname
  exact (TableName.agrees_members hmembers _ t).trans (NamedTable.agrees_setRows hchats _ _)

/-- A call changes no tables but those that it may change. -/
theorem Effect.agrees (h : Effect now t call t') (hname : name ∉ call.writes) : name.Agrees t t' := by
  cases h with
  | stay => exact .refl name t
  | user _ _ h | keeper _ _ h | seeker _ _ h | vet _ _ h | post _ _ h | message _ _ h =>
      exact agrees_of_recordEffect h hname
  | createReview | updateReview | deleteReview => exact agrees_withGradebook hname
  | fileReport => exact agrees_withBoard hname
  | blockPost =>
      have hother : name ≠ NamedTable.name Post := List.ne_of_not_mem_cons hname
      exact NamedTable.agrees_setRows hother _ t
  | approvePost => exact agrees_judged hname
  | createChat => exact agrees_joined hname
  | removeMember => exact agrees_unjoined hname
  | replaceSession | addSession | takeSession | deleteSession =>
      have hother : name ≠ NamedTable.name Session := List.ne_of_not_mem_cons hname
      exact NamedTable.agrees_setRows hother _ t
  | addFavourite | removeFavourite =>
      exact TableName.agrees_favourites (List.ne_of_not_mem_cons hname) _ t

end

end Database

end Fostering
