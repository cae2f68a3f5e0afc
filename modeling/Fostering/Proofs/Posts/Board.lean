import Fostering.Proofs.Database.Frames

/-!
# Posts and the reports against them

The posts of a database and the reports against them make a *board*. Seven calls of the store touch
it, and `Board.Step` says all that they can do: which rows they need, what they check, and what the
board is like after them. A call that is refused leaves the board as it was, and so does every call
that is about something else.

* `Database.board_step`: each call of the store takes a step on the board.

Whoever reasons about posts goes through the constructors of `Board.Step` and opens no call.
-/

namespace Fostering

/-! ## Rows -/

namespace Post

/-- A new post as it is stored: it has no reports. -/
def opened (given : Post) (id : Int) : Post :=
  { given with
    entry := { id, createdAt := given.entry.createdAt.stored,
               updatedAt := given.entry.updatedAt.stored }
    reportsCount := 0 }

/-- A post with what a change takes over of a given one. -/
def rewritten (p given : Post) (now : Instant) : Post :=
  { p with
    entry := p.entry.touched now.stored
    title := given.title, body := given.body, animalType := given.animalType, city := given.city
    status := given.status }

/-- A deleted post. -/
def removed (p : Post) (now : Instant) : Post := { p with entry := p.entry.deleted now.stored }

/-- The status of a published post after a report. -/
def statusAfterReport (count threshold : Int) : PostStatus :=
  if reachesBlockThreshold count threshold then .blocked else .published

/-- A post after a report. -/
def counted (p : Post) (count threshold : Int) (now : Instant) : Post :=
  { p with
    entry := p.entry.touched now.stored
    status := (statusAfterReport count threshold).name, reportsCount := reportsColumn count }

/-- A post that a moderator approved. -/
def approved (p : Post) (now : Instant) : Post :=
  { p with
    entry := p.entry.touched now.stored
    status := PostStatus.published.name, reportsCount := 0 }

/-- A post that a moderator blocked. -/
def barred (p : Post) (now : Instant) : Post :=
  { p with entry := p.entry.touched now.stored, status := PostStatus.blocked.name }

section

variable (p given : Post) (id count threshold : Int) (now : Instant)

/-- A post gets its id when it is opened. -/
@[simp] theorem id_opened : (given.opened id).entry.id = id := rfl

/-- A post keeps its id when it is rewritten. -/
@[simp] theorem id_rewritten : (p.rewritten given now).entry.id = p.entry.id := rfl

/-- A post keeps its id when it is removed. -/
@[simp] theorem id_removed : (p.removed now).entry.id = p.entry.id := rfl

/-- A post keeps its id when its reports are counted. -/
@[simp] theorem id_counted : (p.counted count threshold now).entry.id = p.entry.id := rfl

/-- A post holds as many reports as its column does. -/
@[simp] theorem reportsCount_counted :
    (p.counted count threshold now).reportsCount = reportsColumn count := rfl

/-- A post keeps its id when it is approved. -/
@[simp] theorem id_approved : (p.approved now).entry.id = p.entry.id := rfl

/-- A post keeps its id when it is blocked. -/
@[simp] theorem id_barred : (p.barred now).entry.id = p.entry.id := rfl

end

/-- A report blocks a post if it brings it to a threshold above zero. -/
theorem status_counted_eq_blocked {p : Post} {count threshold : Int} {now : Instant} :
    (p.counted count threshold now).status = PostStatus.blocked.name ↔
      0 < threshold ∧ threshold ≤ count := by
  rw [← reachesBlockThreshold_iff]
  unfold counted statusAfterReport
  rcases reachesBlockThreshold count threshold with _ | _
  · have hne : PostStatus.published.name ≠ PostStatus.blocked.name := by decide
    exact iff_of_false hne Bool.false_ne_true
  · exact iff_of_true rfl rfl

end Post

/-- A new report as it is stored. -/
def Report.opened (given : Report) (id : Int) : Report :=
  { given with id, createdAt := given.createdAt.stored }

/-- A report is on the post that it was given for. -/
@[simp] theorem Report.postId_opened (given : Report) (id : Int) :
    (given.opened id).postId = given.postId := rfl

/-! ## Boards -/

/-- Posts, and the reports against them. -/
structure Board where
  posts : List Post
  reports : List Report

namespace Board

/-- The reports against a post. -/
def reportsOn (b : Board) (id : Int) : List Report := b.reports.filter fun r => r.postId = id

/-- The number of reports against a post. -/
def count (b : Board) (id : Int) : Int := (b.reportsOn id).length

/-- A board with one more post. -/
def addPost (p : Post) (b : Board) : Board := { b with posts := b.posts ++ [p] }

/-- A board with a post in the place of the one with its id. -/
def putPost (p : Post) (b : Board) : Board :=
  { b with posts := b.posts.map fun q => if q.entry.id = p.entry.id then p else q }

/-- A board with one more report. -/
def addReport (r : Report) (b : Board) : Board := { b with reports := b.reports ++ [r] }

/-- A board on which the reports against a post have been counted anew. -/
def recount (id threshold : Int) (now : Instant) (b : Board) : Board :=
  { b with posts := b.posts.map fun p =>
      if p.entry.id = id then p.counted (b.count id) threshold now else p }

/-- A board without the reports against a post. -/
def clear (id : Int) (b : Board) : Board :=
  { b with reports := b.reports.filter fun r => !decide (r.postId = id) }

/-- What a call of the store can do to a board. -/
inductive Step (now : Instant) (b : Board) : Store.Call → Board → Prop where
  /-- The call is about something else, or it is refused. -/
  | stay (call : Store.Call) : Step now b call b
  /-- A post is new, under an id that no post has. -/
  | create (given : Post) (id : Int) (unused : ∀ p ∈ b.posts, p.entry.id ≠ id)
      (named : (PostStatus.ofName? given.status).isSome = true) :
      Step now b (.post (.create given)) (b.addPost (given.opened id))
  /-- A live post is changed. -/
  | update (given old : Post) (mem : old ∈ b.posts) (same : old.entry.id = given.entry.id)
      (live : old.entry.isLive = true) (named : (PostStatus.ofName? given.status).isSome = true) :
      Step now b (.post (.update given)) (b.putPost (old.rewritten given now))
  /-- A live post is marked as deleted. -/
  | delete (id : Int) (old : Post) (mem : old ∈ b.posts) (same : old.entry.id = id)
      (live : old.entry.isLive = true) :
      Step now b (.post (.delete id)) (b.putPost (old.removed now))
  /-- A live and published post is reported by somebody who has not reported it before. -/
  | file (given : Report) (threshold id : Int) (post : Post) (mem : post ∈ b.posts)
      (same : post.entry.id = given.postId) (live : post.entry.isLive = true)
      (published : post.status = PostStatus.published.name)
      (first : ∀ r ∈ b.reports, r.postId = given.postId → r.reporterId ≠ given.reporterId) :
      Step now b (.fileReport given threshold)
        ((b.addReport (given.opened id)).recount given.postId threshold now)
  /-- A live post that is blocked or counts reports is published, and its reports are gone. -/
  | approve (id : Int) (old : Post) (mem : old ∈ b.posts) (same : old.entry.id = id)
      (live : old.entry.isLive = true)
      (due : old.status = PostStatus.blocked.name ∨ old.reportsCount ≠ 0) :
      Step now b (.approvePost id) ((b.clear id).putPost (old.approved now))
  /-- A live post is blocked. -/
  | block (id : Int) (old : Post) (mem : old ∈ b.posts) (same : old.entry.id = id)
      (live : old.entry.isLive = true) :
      Step now b (.blockPost id) (b.putPost (old.barred now))

end Board

namespace Database

/-- The board of a database. -/
def board (db : Database) : Board := ⟨db.tables.posts, db.tables.reports⟩

variable {db db' : Database}

/-- What is on the board is seen from the tables alone. -/
theorem board_congr (h : db'.tables = db.tables) : db'.board = db.board := by
  unfold board
  rw [h]

/-- What changes neither posts nor reports leaves the board as it was. -/
theorem board_of_onlyChanges {tables : List TableName} (h : OnlyChanges tables db db')
    (hposts : TableName.posts ∉ tables) (hreports : TableName.reports ∉ tables) :
    db'.board = db.board := by
  have heq : db'.tables.posts = db.tables.posts := h .posts hposts
  have heq' : db'.tables.reports = db.tables.reports := h .reports hreports
  unfold board
  rw [heq, heq']

/-- A refused call leaves the board as it was. -/
theorem step_of_isRefused {α : Type} {op : Op Database α} {now : Instant} (h : IsRefused op now db)
    (call : Store.Call) : Board.Step now db.board call (op.exec now db).2.board := by
  rw [board_congr h.tables_eq]
  exact .stay call

/-! ## The calls that touch a board -/

section

variable (now : Instant) (db : Database)

/-- A new post is a step of the board. -/
theorem createPost_step (given : Post) :
    Board.Step now db.board (.post (.create given)) ((create given).exec now db).2.board := by
  rcases insert_cases (draft given) now db with h | ⟨new, db', rfl, -, hnew, heq, htables⟩
  · exact step_of_isRefused h _
  · let id : Int := Table.lastId Post db.sequences + 1
    have hboard : ((create given).exec now db).2.board = db.board.addPost (given.opened id) := by
      rw [create_eq, heq]
      unfold board
      rw [htables]
      rfl
    rw [hboard]
    exact .create given id hnew.unused hnew.holds

theorem updatePost_step (given : Post) :
    Board.Step now db.board (.post (.update given)) ((update given).exec now db).2.board := by
  rcases update_cases given now db with h | ⟨old, hmem, hid, hlive, -, hrow, heq⟩
  · exact step_of_isRefused h _
  · rw [heq]
    exact .update given old hmem hid hlive hrow.holds

theorem deletePost_step (id : Int) :
    Board.Step now db.board (.post (.delete id)) ((delete Post id).exec now db).2.board := by
  rcases delete_cases Post id now db with h | ⟨old, hmem, hid, hlive, heq⟩
  · exact step_of_isRefused h _
  · rw [heq]
    exact .delete id old hmem hid hlive

/-- A post that is found is blocked, and keeps its reports. -/
theorem blockPost_of_find {id : Int} {old : Post}
    (hfind : (find Post id).exec now db = (.ok old, db)) :
    (blockPost id).exec now db =
      (.ok (old.barred now), { db with tables := putRow (old.barred now) db.tables }) := by
  have hreplace := exec_replace (old.barred now) now db
  unfold blockPost
  rw [Op.exec_bind_ok hfind, Op.exec_bind_ok (exec_now now db)]
  exact (Op.exec_bind_ok hreplace).trans rfl

/-- A block is a step of the board. -/
theorem blockPost_step (id : Int) :
    Board.Step now db.board (.blockPost id) ((blockPost id).exec now db).2.board := by
  rcases find_cases Post id now db with ⟨old, hmem, hid, hlive, hfind⟩ | ⟨-, hfind⟩
  · rw [blockPost_of_find now db hfind]
    exact .block id old hmem hid hlive
  · have hrefused : IsRefused (blockPost id) now db := .bind ⟨_, _, hfind, rfl⟩ _
    exact step_of_isRefused hrefused _

/-- Approval of the post that is found, if there is something to approve. -/
theorem approvePost_of_due {id : Int} {old : Post}
    (hfind : (find Post id).exec now db = (.ok old, db))
    (hdue : old.status = PostStatus.blocked.name ∨ old.reportsCount ≠ 0) :
    (approvePost id).exec now db =
      (.ok (old.approved now), { db with
        tables := putRow (old.approved now)
          (dropRows (fun r : Report => decide (r.postId = id)) db.tables) }) := by
  refine atomically_of_ok ?_
  have herase := exec_eraseWhere (fun r : Report => decide (r.postId = id)) now db
  rw [Op.exec_bind_ok hfind, Op.exec_bind_ok (Op.exec_guard_of_true (by simpa using hdue) _ now db),
    Op.exec_bind_ok herase, Op.exec_bind_ok (exec_now now _)]
  exact (Op.exec_bind_ok (exec_replace (old.approved now) now _)).trans rfl

/-- There is nothing to approve. -/
theorem isRefused_approvePost {id : Int} {old : Post}
    (hfind : (find Post id).exec now db = (.ok old, db))
    (hdue : ¬(old.status = PostStatus.blocked.name ∨ old.reportsCount ≠ 0)) :
    IsRefused (approvePost id) now db := by
  have hfalse : (old.status = PostStatus.blocked.name || old.reportsCount ≠ 0) = false := by
    simpa using hdue
  exact .atomically (.after hfind rfl ((isRefused_guard hfalse _).bind _))

/-- An approval is a step of the board, and takes the reports of the post away. -/
theorem approvePost_step (id : Int) :
    Board.Step now db.board (.approvePost id) ((approvePost id).exec now db).2.board := by
  rcases find_cases Post id now db with ⟨old, hmem, hid, hlive, hfind⟩ | ⟨-, hfind⟩
  · by_cases hdue : old.status = PostStatus.blocked.name ∨ old.reportsCount ≠ 0
    · rw [approvePost_of_due now db hfind hdue]
      exact .approve (b := db.board) id old hmem hid hlive hdue
    · exact step_of_isRefused (isRefused_approvePost now db hfind hdue) _
  · have hrefused : IsRefused (find Post id) now db := ⟨_, db, hfind, rfl⟩
    exact step_of_isRefused (hrefused.bind _).atomically _

/-- Once a report against a published post is stored, the reports against the post are counted anew. -/
theorem fileReport_of_insert {given : Report} {post : Post} {id : Int} {db₁ : Database}
    (hpost : (Table.rows db.tables).find? (fun p : Post => p.entry.id = given.postId && p.entry.isLive) =
      some post)
    (hpublished : post.status = PostStatus.published.name)
    (hinsert : (insert { given with createdAt := given.createdAt.stored }).exec now db =
      (.ok (given.opened id), db₁)) (threshold : Int) :
    (fileReport given threshold).exec now db =
      (.ok ⟨given.opened id, reportsColumn (db₁.board.count given.postId),
        (Post.statusAfterReport (db₁.board.count given.postId) threshold).name⟩,
        { db₁ with
          tables := mapRows (fun p : Post => p.entry.id = given.postId)
            (fun p => p.counted (db₁.board.count given.postId) threshold now) db₁.tables }) := by
  have hlook := exec_find? (fun p : Post => p.entry.id = given.postId && p.entry.isLive) now db
  rw [hpost] at hlook
  have hstatus : decide ((some post).map Post.status = some PostStatus.published.name) = true := by
    simpa using hpublished
  have hguard := Op.exec_guard_of_true hstatus (notFound Post given.postId) now db
  have hcount : (countReports given.postId).exec now db₁ = (.ok (db₁.board.count given.postId), db₁) := rfl
  have hupdate := exec_updateWhere (fun p : Post => p.entry.id = given.postId)
    (fun p => p.counted (db₁.board.count given.postId) threshold now) now db₁
  refine atomically_of_ok ?_
  rw [Op.exec_bind_ok hlook, Op.exec_bind_ok hguard, Op.exec_bind_ok hinsert]
  refine (Op.exec_bind_ok hcount).trans ((Op.exec_bind_ok (exec_now now db₁)).trans ?_)
  exact (Op.exec_bind_ok hupdate).trans rfl

/-- A report is refused, or somebody reports a live and published post for the first time and the
reports against it are counted anew. -/
theorem fileReport_cases (given : Report) (threshold : Int) :
    IsRefused (fileReport given threshold) now db ∨
      ∃ post ∈ db.tables.posts, post.entry.id = given.postId ∧ post.entry.isLive = true ∧
        post.status = PostStatus.published.name ∧
        ∃ id db', IsInsertable db.tables (given.opened id) ∧
          (fileReport given threshold).exec now db =
            (.ok ⟨given.opened id,
              reportsColumn ((db.board.addReport (given.opened id)).count given.postId),
              (Post.statusAfterReport ((db.board.addReport (given.opened id)).count given.postId)
                threshold).name⟩, db') ∧
          db'.board = (db.board.addReport (given.opened id)).recount given.postId threshold now := by
  have hlook := exec_find? (fun p : Post => p.entry.id = given.postId && p.entry.isLive) now db
  rcases hpost : (Table.rows db.tables).find?
      fun p : Post => p.entry.id = given.postId && p.entry.isLive with _ | post
  case none =>
    rw [hpost] at hlook
    exact .inl (.atomically (.after hlook rfl ((isRefused_guard rfl _).bind _)))
  rw [hpost] at hlook
  by_cases hpublished : post.status = PostStatus.published.name
  case neg =>
    refine .inl (.atomically (.after hlook rfl ((isRefused_guard ?_ _).bind _)))
    simpa using hpublished
  have hpublished' : decide ((some post).map Post.status = some PostStatus.published.name) = true := by
    simpa using hpublished
  have hguard := Op.exec_guard_of_true hpublished' (notFound Post given.postId) now db
  rcases insert_cases { given with createdAt := given.createdAt.stored } now db with
    h | ⟨new, db₁, rfl, -, hnew, hinsert, htables⟩
  case inl => exact .inl (.atomically (.after hlook rfl (.after hguard rfl (h.bind _))))
  have hp := List.find?_some hpost
  simp only [Bool.and_eq_true, decide_eq_true_eq] at hp
  refine .inr ⟨post, List.mem_of_find?_eq_some hpost, hp.1, hp.2, hpublished, ?_⟩
  let id : Int := Table.lastId Report db.sequences + 1
  have hboard : db₁.board = db.board.addReport (given.opened id) := by
    unfold board
    rw [htables]
    rfl
  let count : Int := db₁.board.count given.postId
  let isIt (p : Post) : Bool := p.entry.id = given.postId
  let change (p : Post) : Post := p.counted count threshold now
  refine ⟨id, { db₁ with tables := mapRows isIt change db₁.tables }, ?_⟩
  rw [← hboard]
  refine ⟨hnew, fileReport_of_insert now db hpost hpublished hinsert threshold, ?_⟩
  · have hposts : (Table.rows (mapRows isIt change db₁.tables) : List Post) =
        (db₁.board.recount given.postId threshold now).posts := by
      rw [rows_mapRows]
      simp only [isIt, decide_eq_true_eq]
      rfl
    exact congrArg (fun posts => (⟨posts, db₁.tables.reports⟩ : Board)) hposts

/-- A report that clashes with no other is the first one of its reporter against its post. -/
theorem first_of_clash {db : Database} (new : Report)
    (hunused : ∀ r ∈ (Table.rows db.tables : List Report), Table.id r ≠ Table.id new)
    (hclash : Schema.clash? db.tables new = none) :
    ∀ r ∈ db.board.reports, r.postId = new.postId → r.reporterId ≠ new.reporterId := by
  intro r hr hpost hreporter
  have hother : r ∈ Schema.others db.tables new := by
    simpa [Schema.others] using ⟨hr, hunused r hr⟩
  have hany : (Schema.others db.tables new).any
      (fun s => s.postId = new.postId && s.reporterId = new.reporterId) = true :=
    List.any_eq_true.mpr ⟨r, hother, by simp [hpost, hreporter]⟩
  simp only [Schema.clash?] at hclash
  rw [if_pos hany] at hclash
  cases hclash

/-- A report is a step of the board, which counts the reports of the post. -/
theorem fileReport_step (given : Report) (threshold : Int) :
    Board.Step now db.board (.fileReport given threshold)
      ((fileReport given threshold).exec now db).2.board := by
  rcases fileReport_cases now db given threshold with
    h | ⟨post, hmem, hid, hlive, hpublished, id, db', hnew, heq, hboard⟩
  · exact step_of_isRefused h _
  · rw [heq, hboard]
    refine .file given threshold id post hmem hid hlive hpublished ?_
    exact first_of_clash (given.opened id) hnew.unused hnew.clash

/-- A call that may change neither posts nor reports leaves the board as it was. -/
theorem step_of_writes (call : Store.Call) (tables : List TableName) (hsub : call.writes ⊆ tables)
    (hposts : TableName.posts ∉ tables) (hreports : TableName.reports ∉ tables) :
    Board.Step now db.board call (call.perform.exec now db).2.board := by
  have hkeep := perform_onlyChanges call now db
  rw [board_of_onlyChanges hkeep (fun h => hposts (hsub h)) (fun h => hreports (hsub h))]
  exact .stay call

/-- **Each call of the store takes a step on the board.** -/
theorem board_step (call : Store.Call) :
    Board.Step now db.board call (call.perform.exec now db).2.board := by
  have hnil := List.Subset.refl ([] : List TableName)
  have hother := step_of_writes now db
  cases call with
  | post call =>
      cases call with
      | create given => exact createPost_step now db given
      | update given => exact updatePost_step now db given
      | delete id => exact deletePost_step now db id
      | find id | findAny id | list filter order page =>
          exact hother _ [] hnil (by decide) (by decide)
  | fileReport report threshold => exact fileReport_step now db report threshold
  | approvePost id => exact approvePost_step now db id
  | blockPost id => exact blockPost_step now db id
  | user call => exact hother _ [.users] (call.writes_subset _) (by decide) (by decide)
  | keeper call => exact hother _ [.keepers] (call.writes_subset _) (by decide) (by decide)
  | seeker call => exact hother _ [.seekers] (call.writes_subset _) (by decide) (by decide)
  | vet call => exact hother _ [.vets] (call.writes_subset _) (by decide) (by decide)
  | review call => exact hother _ [.reviews, .keepers] (call.writes_subset _) (by decide) (by decide)
  | message call => exact hother _ [.messages] (call.writes_subset _) (by decide) (by decide)
  | createChat _ _ | removeMember _ _ =>
      exact hother _ [.chats, .members] (List.Subset.refl _) (by decide) (by decide)
  | upsertSession _ | takeSession _ | deleteSession _ _ =>
      exact hother _ [.sessions] (List.Subset.refl _) (by decide) (by decide)
  | addFavourite _ _ | removeFavourite _ _ =>
      exact hother _ [.favourites] (List.Subset.refl _) (by decide) (by decide)
  | userByName _ | keeperOf _ | seekerOf _ | vetOf _ | reportsOn _ | countReports _
  | moderationQueue _ | findChat _ | findAnyChat _ | chatsOf _ _ | isMember _ _ | findSession _
  | favouritesOf _ _ | reachable => exact hother _ [] hnil (by decide) (by decide)

end

end Database

end Fostering
