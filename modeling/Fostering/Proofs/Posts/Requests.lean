import Fostering.Proofs.Endpoints
import Fostering.Proofs.Posts.Board
import Fostering.Proofs.Runs

/-!
# What requests do to posts

A request that touches the board makes one call of the store that does so, and before that the
service checks who is asking, whose the post is, and what is to become of it. `Exchange.Permits` says
what it checks for each endpoint: one call, made only if all of this holds.

* `Database.board_serve`: a request leaves the board as it was, or it takes the step of a call that the
  service permits.
-/

namespace Fostering

/-- A new row is dated by the clock, and nothing else happens. -/
theorem exec_stamped {σ ρ : Type} [HasEntry ρ] (row : ρ) (now : Instant) (s : σ) :
    (stamped row).exec now s = (.ok (HasEntry.modifyEntry (·.stamped now) row), s) := rfl

theorem exec_touched {σ ρ : Type} [HasEntry ρ] (row : ρ) (now : Instant) (s : σ) :
    (touched row).exec now s = (.ok (HasEntry.modifyEntry (·.touched now) row), s) := rfl

/-- Whoever is not the owner is turned away. -/
theorem ensureOwner_cases {σ : Type} (actor owner : Int) (what : String) (now : Instant) (s : σ) :
    (ensureOwner actor owner what).Declines now s ∨
      actor = owner ∧ (ensureOwner actor owner what).exec now s = (.ok (), s) := by
  by_cases h : actor = owner
  · exact .inr ⟨h, Op.exec_guard_of_true (decide_eq_true h) _ now s⟩
  · have hcause : (Error.forbidden (what ++ " belongs to another user")).status < 500 := by
      change 403 < 500
      decide
    exact .inl (Op.declines_guard hcause (decide_eq_false h))

/-- Looking for a row declines, or it finds a live row with the id. -/
theorem find_cases (ρ : Type) [Editable ρ] (id : Int) (now : Instant) (db : Database) :
    (Database.find ρ id).Declines now db ∨
      ∃ row ∈ (Table.rows db.tables : List ρ), Table.id row = id ∧ HasEntry.isLive row = true ∧
        (Database.find ρ id).exec now db = (.ok row, db) := by
  rcases Database.find_cases ρ id now db with h | ⟨-, h⟩
  · exact .inr h
  · have hcause : (Database.notFound ρ id).status < 500 := by
      change 404 < 500
      decide
    exact .inl (Op.declines_of_exec hcause h)

/-- What is done with a row of one's own: looking for the row declines, or the actor is turned away, or a
live row of theirs is found, and it is done. -/
theorem owned_cases {ρ α : Type} [Table ρ] [HasEntry ρ] {find : Op Database ρ} {id : Int} {now : Instant}
    {db : Database}
    (hfind : find.Declines now db ∨ ∃ row ∈ (Table.rows db.tables : List ρ), Table.id row = id ∧
      HasEntry.isLive row = true ∧ find.exec now db = (.ok row, db))
    (actor : Int) (owner : ρ → Int) (what : String) (next : ρ → Op Database α) :
    let op : Op Database α := find >>= fun row => ensureOwner actor (owner row) what >>= fun _ => next row
    op.Declines now db ∨ ∃ row ∈ (Table.rows db.tables : List ρ), Table.id row = id ∧
      HasEntry.isLive row = true ∧ owner row = actor ∧ op.exec now db = (next row).exec now db := by
  rcases hfind with hnone | ⟨row, hmem, hid, hlive, hfound⟩
  case inl => exact .inl (hnone.bind _)
  rcases ensureOwner_cases actor (owner row) what now db with howner | ⟨hown, howner⟩
  · exact .inl (.after hfound (howner.bind _))
  · refine .inr ⟨row, hmem, hid, hlive, hown.symm, ?_⟩
    rw [Op.exec_bind_ok hfound]
    exact Op.exec_bind_ok howner

namespace Posts

variable {σ : Type} [Store.Records σ Post PostFilter]

/-- A post is made in one call, with a status that its author may set. -/
theorem create_eq (actor : Int) (request : CreatePost) :
    (create actor request : Op σ Post) = (do
      let status ← Op.ofExcept (firstStatus (request.status.getD ""))
      let post ← stamped { request.toPost actor with status := status.name }
      Store.Records.create post) := rfl

/-- Everything that a change does before it writes: it finds the post, checks whether the actor may
change it, and works out what becomes of it. -/
def revise (actor id : Int) (request : UpdatePost) : Op σ Post := do
  let post : Post ← Store.Records.find id
  ensureOwner actor post.authorId "Post"
  Op.guard (post.status ≠ PostStatus.blocked.name) blocked
  let _ ← Op.ofExcept (request.status.value?.mapM authorStatus)
  touched (request.apply post)

/-- A change is two calls: one that finds the post and one that writes it. -/
theorem update_eq (actor id : Int) (request : UpdatePost) :
    (update actor id request : Op σ Post) = revise actor id request >>= Store.Records.update := by
  simp only [update, revise, bind_assoc]

/-- The post that a request asks for, with the status that it gets. -/
def written (actor : Int) (request : CreatePost) (status : PostStatus) (now : Instant) : Post :=
  HasEntry.modifyEntry (·.stamped now) { request.toPost actor with status := status.name }

/-- A post with the changes that a request asks for. -/
def revised (old : Post) (request : UpdatePost) (now : Instant) : Post :=
  HasEntry.modifyEntry (·.touched now) (request.apply old)

/-- A status that authors may set. -/
def IsSettable (status : String) : Prop :=
  ∃ s : PostStatus, s.isAuthorSettable = true ∧ status = s.name

/-- No author sets the status of a blocked post. -/
theorem IsSettable.ne_blocked {status : String} (h : IsSettable status) :
    status ≠ PostStatus.blocked.name := by
  obtain ⟨s, hs, rfl⟩ := h
  intro heq
  rw [PostStatus.name_injective heq] at hs
  cases hs

/-- What an author may set is the name of a status. -/
theorem IsSettable.isSome_ofName? {status : String} (h : IsSettable status) :
    (PostStatus.ofName? status).isSome = true := by
  obtain ⟨s, -, rfl⟩ := h
  rw [PostStatus.ofName?_name]
  rfl

/-- A text that is read as the status of an author is its name. -/
theorem eq_name_of_authorStatus {text : String} {status : PostStatus}
    (h : authorStatus text = .ok status) : status.isAuthorSettable = true ∧ text = status.name := by
  unfold authorStatus PostStatus.read at h
  rcases hname : PostStatus.ofName? text with _ | s
  · rw [hname] at h
    cases h
  · rw [hname] at h
    change (if s.isAuthorSettable then Except.ok s else throw (reservedStatus s)) = .ok status at h
    split_ifs at h with hs
    cases h
    exact ⟨hs, PostStatus.ofName?_eq_some hname⟩

/-- A new post has a status that authors may set. -/
theorem isSettable_of_firstStatus {text : String} {status : PostStatus}
    (h : firstStatus text = .ok status) : IsSettable status.name := by
  unfold firstStatus at h
  split_ifs at h
  · cases h
    exact ⟨.standard, rfl, rfl⟩
  · exact ⟨status, (eq_name_of_authorStatus h).1, rfl⟩

/-- A status is refused because there is none of that name, or because authors may not set it. -/
theorem cause_of_authorStatus {text : String} {cause : Error} (h : authorStatus text = .error cause) :
    ∃ message, cause = .validation message ∨ cause = .forbidden message := by
  unfold authorStatus PostStatus.read at h
  rcases hname : PostStatus.ofName? text with _ | s
  · rw [hname] at h
    cases h
    exact ⟨_, .inl rfl⟩
  · rw [hname] at h
    change (if s.isAuthorSettable then Except.ok s else throw (reservedStatus s)) = .error cause at h
    split_ifs at h
    cases h
    exact ⟨_, .inr rfl⟩

/-- A first status is refused for a rule or for the lack of a right. -/
theorem cause_of_firstStatus {text : String} {cause : Error} (h : firstStatus text = .error cause) :
    ∃ message, cause = .validation message ∨ cause = .forbidden message := by
  unfold firstStatus at h
  split_ifs at h
  exact cause_of_authorStatus h

theorem cause_of_mapM {text? : Option String} {cause : Error}
    (h : text?.mapM authorStatus = .error cause) :
    ∃ message, cause = .validation message ∨ cause = .forbidden message := by
  obtain ⟨text, -, hstatus⟩ := Option.exists_of_mapM_eq_error h
  exact cause_of_authorStatus hstatus

/-- Such a refusal is for a fault of the caller. -/
theorem status_of_cause {cause : Error}
    (h : ∃ message, cause = .validation message ∨ cause = .forbidden message) : cause.status < 500 := by
  obtain ⟨message, rfl | rfl⟩ := h
  · change 400 < 500
    decide
  · change 403 < 500
    decide

/-- It is the author who is to blame for a first status that is refused. -/
theorem status_of_firstStatus {text : String} {cause : Error} (h : firstStatus text = .error cause) :
    cause.status < 500 :=
  status_of_cause (cause_of_firstStatus h)

/-- It is the author who is to blame for any status that is refused. -/
theorem status_of_mapM {text? : Option String} {cause : Error}
    (h : text?.mapM authorStatus = .error cause) : cause.status < 500 :=
  status_of_cause (cause_of_mapM h)

/-- The status that a request for a change asks for, if it asks for one, may be set by authors. -/
def AsksSettable (request : UpdatePost) : Prop := ∀ text ∈ request.status.value?, IsSettable text

/-- A change whose status is not refused asks for one that authors may set, or for none. -/
theorem asksSettable_of_mapM {request : UpdatePost} {status? : Option PostStatus}
    (h : request.status.value?.mapM authorStatus = .ok status?) : AsksSettable request := by
  intro text htext
  rw [Option.mem_def.mp htext] at h
  rcases hstatus : authorStatus text with _ | status
  · rw [Option.mapM_some, hstatus] at h
    cases h
  · obtain ⟨hs, rfl⟩ := eq_name_of_authorStatus hstatus
    exact ⟨status, hs, rfl⟩

/-- A request that asks for no status keeps the one that is there. -/
theorem status_revised (old : Post) {request : UpdatePost} (h : AsksSettable request) (now : Instant) :
    (revised old request now).status = old.status ∨ IsSettable (revised old request now).status := by
  unfold AsksSettable at h
  rcases hstatus : request.status with _ | text
  · left
    simp [revised, HasEntry.modifyEntry, HasEntry.setEntry, UpdatePost.apply, hstatus]
  · right
    rw [hstatus] at h
    simpa [revised, HasEntry.modifyEntry, HasEntry.setEntry, UpdatePost.apply, hstatus] using
      h text rfl

/-- What a change makes of a post that is not blocked is not blocked. -/
theorem status_revised_ne_blocked {old : Post} {request : UpdatePost}
    (hfree : old.status ≠ PostStatus.blocked.name) (hasks : AsksSettable request) (now : Instant) :
    (revised old request now).status ≠ PostStatus.blocked.name := by
  rcases status_revised old hasks now with h | h
  · rw [h]
    exact hfree
  · exact h.ne_blocked

/-! ## Service -/

section

variable (now : Instant) (db : Database)

/-- Writing a post declines, or it makes the post that is asked for. -/
theorem create_cases (actor : Int) (request : CreatePost) :
    (create actor request : Op Database Post).Declines now db ∨
      ∃ status, firstStatus (request.status.getD "") = .ok status ∧
        (create actor request : Op Database Post).exec now db =
          (Database.create (written actor request status now)).exec now db := by
  rw [create_eq]
  rcases Op.ofExcept_cases _ (fun _ => status_of_firstStatus) now db with h | ⟨status, hstatus, hexec⟩
  · exact .inl (h.bind _)
  · refine .inr ⟨status, hstatus, ?_⟩
    rw [Op.exec_bind_ok hexec]
    exact Op.exec_bind_ok (exec_stamped _ now db)

/-- Working out a change leaves the store alone. It declines, or it is about a live post of the actor
that is not blocked. -/
theorem revise_cases (actor id : Int) (request : UpdatePost) :
    (revise actor id request : Op Database Post).Declines now db ∨
      ∃ old ∈ db.board.posts, old.entry.id = id ∧ old.entry.isLive = true ∧
        old.authorId = actor ∧ old.status ≠ PostStatus.blocked.name ∧ AsksSettable request ∧
        (revise actor id request : Op Database Post).exec now db =
          (.ok (revised old request now), db) := by
  let rest (old : Post) : Op Database Post := do
    Op.guard (old.status ≠ PostStatus.blocked.name) blocked
    let _ ← Op.ofExcept (request.status.value?.mapM authorStatus)
    touched (request.apply old)
  rcases owned_cases (find_cases Post id now db) actor Post.authorId "Post" rest with
    h | ⟨old, hmem, hid, hlive, hown, h⟩
  case inl => exact .inl h
  by_cases hfree : old.status ≠ PostStatus.blocked.name
  case neg =>
    have hblocked : (Op.guard (old.status ≠ PostStatus.blocked.name) blocked :
        Op Database Unit).Declines now db := Op.declines_guard (by decide) (decide_eq_false hfree)
    exact .inl (.congr h (hblocked.bind _))
  have hguard := Op.exec_guard_of_true (decide_eq_true hfree) blocked now db
  rcases Op.ofExcept_cases (request.status.value?.mapM authorStatus) (fun _ => status_of_mapM) now db
    with hstatus | ⟨status?, hstatus, hexec⟩
  · exact .inl (.congr h (.after hguard (hstatus.bind _)))
  · refine .inr ⟨old, hmem, hid, hlive, hown, hfree, asksSettable_of_mapM hstatus, h.trans ?_⟩
    rw [Op.exec_bind_ok hguard, Op.exec_bind_ok hexec]
    exact exec_touched (request.apply old) now db

/-- A change declines, or it writes what it worked out. -/
theorem update_cases (actor id : Int) (request : UpdatePost) :
    (update actor id request : Op Database Post).Declines now db ∨
      ∃ old ∈ db.board.posts, old.entry.id = id ∧ old.entry.isLive = true ∧
        old.authorId = actor ∧ old.status ≠ PostStatus.blocked.name ∧ AsksSettable request ∧
        (update actor id request : Op Database Post).exec now db =
          (Database.update (revised old request now)).exec now db := by
  rw [update_eq]
  rcases revise_cases now db actor id request with
    h | ⟨old, hmem, hid, hlive, hown, hfree, hasks, h⟩
  · exact .inl (h.bind _)
  · refine .inr ⟨old, hmem, hid, hlive, hown, hfree, hasks, ?_⟩
    exact Op.exec_bind_ok h

/-- A deletion declines, or it deletes a live post of the actor. -/
theorem delete_cases (actor id : Int) :
    (delete actor id : Op Database Unit).Declines now db ∨
      ∃ old ∈ db.board.posts, old.entry.id = id ∧ old.entry.isLive = true ∧ old.authorId = actor ∧
        (delete actor id : Op Database Unit).exec now db = (Database.delete Post id).exec now db :=
  owned_cases (find_cases Post id now db) actor Post.authorId "Post" fun _ => Database.delete Post id

end

end Posts

/-- The report that a request asks for, in the name of the actor. -/
def PostReports.filed (actor postId : Int) (request : CreateReport) (now : Instant) : Report :=
  { request.toReport postId actor with createdAt := now }

/-- A report is one call. -/
theorem PostReports.exec_file {σ : Type} [Store.Reports σ] (actor postId : Int)
    (request : CreateReport) (threshold : Int) (now : Instant) (s : σ) :
    (file actor postId request threshold).exec now s =
      (Store.Reports.file (filed actor postId request now) threshold).exec now s := by
  unfold file
  rw [Op.exec_bind_ok (Op.exec_now now s)]
  rfl

/-! ## Requests -/

/-- The calls on the board that the service makes for a request, each with all that it checks
before. The first argument is the endpoint that the request is for. -/
inductive Exchange.Permits (x : Exchange) (b : Board) : Endpoint → Store.Call → Prop where
  /-- Anybody writes posts, in a status that authors may set. -/
  | create (caller : Caller) (request : CreatePost) (status : PostStatus)
      (asks : x.caller = .ok caller) (body : x.body CreatePost = .ok request)
      (first : Posts.firstStatus (request.status.getD "") = .ok status) :
      Permits x b .createPost (.post (.create (Posts.written caller.userId request status x.now)))
  /-- Authors change their own posts unless they are blocked. -/
  | update (caller : Caller) (request : UpdatePost) (old : Post) (asks : x.caller = .ok caller)
      (path : x.id = .ok old.entry.id) (body : x.body UpdatePost = .ok request)
      (mem : old ∈ b.posts) (live : old.entry.isLive = true) (own : old.authorId = caller.userId)
      (free : old.status ≠ PostStatus.blocked.name) (settable : Posts.AsksSettable request) :
      Permits x b .updatePost (.post (.update (Posts.revised old request x.now)))
  /-- Authors delete their own posts. -/
  | delete (caller : Caller) (id : Int) (old : Post) (asks : x.caller = .ok caller)
      (path : x.id = .ok id) (mem : old ∈ b.posts) (same : old.entry.id = id)
      (live : old.entry.isLive = true) (own : old.authorId = caller.userId) :
      Permits x b .deletePost (.post (.delete id))
  /-- Anybody reports posts, in their own name. -/
  | file (caller : Caller) (request : CreateReport) (id : Int) (asks : x.caller = .ok caller)
      (path : x.id = .ok id) (body : x.body CreateReport = .ok request) :
      Permits x b .createReport
        (.fileReport (PostReports.filed caller.userId id request x.now) x.config.reportThreshold)
  /-- Moderators approve posts. -/
  | approve (caller : Caller) (id : Int) (asks : x.caller = .ok caller)
      (moderator : caller.isModerator = true) (path : x.id = .ok id) :
      Permits x b .approvePost (.approvePost id)
  /-- Moderators block posts. -/
  | block (caller : Caller) (id : Int) (asks : x.caller = .ok caller)
      (moderator : caller.isModerator = true) (path : x.id = .ok id) :
      Permits x b .blockPost (.blockPost id)

namespace Exchange

open Database Plans

/-- Callers are those who show a good token. -/
theorem caller_eq_ok {x : Exchange} {caller : Caller} :
    x.caller = .ok caller ↔
      Caller.authenticate x.config.token.secret x.now x.incoming = .ok caller := by
  unfold Exchange.caller
  rcases Caller.authenticate x.config.token.secret x.now x.incoming with fault | c <;>
    simp [orFail, Except.mapError]

/-- A moderator is a caller with the role. -/
theorem caller_of_moderator {x : Exchange} {caller : Caller} (h : x.moderator = .ok caller) :
    x.caller = .ok caller ∧ caller.isModerator = true := by
  rw [caller_eq_ok]
  unfold moderator Caller.authenticateModerator at h
  rcases hc : Caller.authenticate x.config.token.secret x.now x.incoming with fault | c
  · rw [hc] at h
    cases h
  · rw [hc] at h
    change orFail (Except.mapError _ (if c.isModerator = true then Except.ok c else _)) = _ at h
    split_ifs at h with hrole
    · cases h
      exact ⟨rfl, hrole⟩
    · cases h

/-- An action that leaves the board as it was, or makes a call that the service permits. -/
def ActsOnBoard (x : Exchange) (endpoint : Endpoint) (action : Action Database) : Prop :=
  ∀ db : Database, (action.exec x.now db).2.board = db.board ∨
    ∃ call, x.Permits db.board endpoint call ∧
      (action.exec x.now db).2 = (call.perform.exec x.now db).2

/-- Every endpoint acts on the board only through a call that the service permits. -/
theorem plan_actsOnBoard (x : Exchange) (endpoint : Endpoint) :
    Plans (x.ActsOnBoard endpoint) (x.plan endpoint) := by
  have hother (h : TableName.posts ∉ endpoint.writes) (h' : TableName.reports ∉ endpoint.writes) :
      Plans (x.ActsOnBoard endpoint) (x.plan endpoint) := by
    intro action hplan db
    have hwrites := x.plan_writesOnly endpoint action hplan
    exact .inl (board_of_onlyChanges (onlyChanges_of_writesOnly hwrites x.now db) h h')
  cases endpoint with
  | createPost =>
      refine reading fun caller hcaller => reading fun request hbody => .ok fun db => ?_
      rw [Action.snd_shows]
      rcases Posts.create_cases x.now db caller.userId request with h | ⟨status, hstatus, h⟩
      · exact .inl (congrArg Database.board h.snd_eq)
      · exact .inr ⟨_, .create caller request status hcaller hbody hstatus, congrArg Prod.snd h⟩
  | updatePost =>
      refine reading fun caller hcaller => reading fun id hid => reading fun request hbody => ?_
      refine .ok fun db => ?_
      rw [Action.snd_shows]
      rcases Posts.update_cases x.now db caller.userId id request with
        h | ⟨old, hmem, rfl, hlive, hown, hfree, hasks, h⟩
      · exact .inl (congrArg Database.board h.snd_eq)
      · exact .inr ⟨_, .update caller request old hcaller hid hbody hmem hlive hown hfree hasks,
          congrArg Prod.snd h⟩
  | deletePost =>
      refine reading fun caller hcaller => reading fun id hid => .ok fun db => ?_
      rw [Action.snd_silent]
      rcases Posts.delete_cases x.now db caller.userId id with h | ⟨old, hmem, hold, hlive, hown, h⟩
      · exact .inl (congrArg Database.board h.snd_eq)
      · exact .inr ⟨_, .delete caller id old hcaller hid hmem hold hlive hown, congrArg Prod.snd h⟩
  | createReport =>
      refine reading fun caller hcaller => reading fun id hid => reading fun request hbody => ?_
      refine .ok fun db => ?_
      rw [Action.snd_shows, PostReports.exec_file]
      exact .inr ⟨_, .file caller request id hcaller hid hbody, rfl⟩
  | approvePost =>
      refine reading fun caller hmoderator => reading fun id hid => .ok fun db => ?_
      obtain ⟨hcaller, hrole⟩ := caller_of_moderator hmoderator
      rw [Action.snd_shows]
      exact .inr ⟨_, .approve caller id hcaller hrole hid, rfl⟩
  | blockPost =>
      refine reading fun caller hmoderator => reading fun id hid => .ok fun db => ?_
      obtain ⟨hcaller, hrole⟩ := caller_of_moderator hmoderator
      rw [Action.snd_shows]
      exact .inr ⟨_, .block caller id hcaller hrole hid, rfl⟩
  | _ => exact hother (by decide) (by decide)

end Exchange

/-- A request with the configuration that it is served under and the id in its path. -/
def Arrival.exchange (a : Arrival) (config : Config) (id? : Option (String × String)) : Exchange :=
  ⟨config, a.now, a.random, a.incoming, id?⟩

/-- A caller makes a request to an endpoint, about the row with an id. -/
def Arrival.Asks (a : Arrival) (config : Config) (endpoint : Endpoint) (caller : Caller) (id : Int) :
    Prop :=
  ∃ id?, Endpoint.find a.incoming = .endpoint endpoint id? ∧
    (a.exchange config id?).caller = .ok caller ∧ (a.exchange config id?).id = .ok id

namespace Database

/-- **A request leaves the board as it was, or takes the step of a call that the service permits.** -/
theorem board_serve (config : Config) (db : Database) (a : Arrival) :
    (db.serve config a).board = db.board ∨
      ∃ endpoint id? call, Endpoint.find a.incoming = .endpoint endpoint id? ∧
        (a.exchange config id?).Permits db.board endpoint call ∧
        Board.Step a.now db.board call (db.serve config a).board := by
  unfold serve
  rcases App.serve_cases config a.random a.incoming a.now db with
    h | ⟨endpoint, id?, action, hfind, hplan, h⟩
  · exact .inl (congrArg board h)
  · rw [h]
    rcases (a.exchange config id?).plan_actsOnBoard endpoint action hplan db with
      h | ⟨call, hpermits, h⟩
    · exact .inl h
    · refine .inr ⟨endpoint, id?, call, hfind, hpermits, ?_⟩
      exact h ▸ board_step a.now db call

/-- A request takes a step on the board, whatever it is about. -/
theorem exists_step_serve (config : Config) (db : Database) (a : Arrival) :
    ∃ call, Board.Step a.now db.board call (db.serve config a).board := by
  rcases board_serve config db a with h | ⟨_, _, call, _, _, h⟩
  · rw [h]
    exact ⟨.reachable, .stay _⟩
  · exact ⟨call, h⟩

/-- Something that happens to a database takes a step on its board. -/
theorem exists_step_happen (db : Database) (event : Event) :
    ∃ now call, Board.Step now db.board call (db.happen event).board := by
  cases event with
  | call call now => exact ⟨now, call, board_step now db call⟩
  | request config a =>
      obtain ⟨call, hstep⟩ := exists_step_serve config db a
      exact ⟨a.now, call, hstep⟩

/-- What holds of an empty board and is kept by every step holds of the board of every database that
came about. -/
theorem board_after_induction {P : Board → Prop} (h : P ⟨[], []⟩)
    (hstep : ∀ {b b' now call}, Board.Step now b call b' → P b → P b') (events : List Event) :
    P (after events).board := by
  refine after_induction (P := fun db => P db.board) h ?_ events
  intro db event h
  obtain ⟨now, call, hboard⟩ := exists_step_happen db event
  exact hstep hboard h

end Database

end Fostering
