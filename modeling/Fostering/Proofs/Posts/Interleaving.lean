import Fostering.Proofs.Posts.Statuses

/-!
# Operations on one post at the same time

The service works on a post by calls of the store, and between two calls of one operation the calls of
others may come. Each call happens as a whole. Only a change by the author makes two: the first finds
the post and checks it, the second writes what was worked out in between, with the status that the
post had when it was found.

* `PostTask.turn_cases`: all that one call of an operation can do.
* `Race.stays_blocked_iff`: a blocked post stays blocked until its approval exactly if no such write
  is outstanding.
* `Race.unblocked_by_late_write`: a run in which one is.
-/

namespace Fostering

/-! ## Operations and their calls -/

/-- An operation of the service on a post. -/
inductive PostOperation where
  /-- The actor changes the post. -/
  | update (actor : Int) (request : UpdatePost)
  /-- A moderator blocks the post. -/
  | block
  /-- A moderator approves the post. -/
  | approve
  /-- The actor reports the post. -/
  | report (actor : Int) (request : CreateReport) (threshold : Int)
  deriving DecidableEq

/-- How far an operation has come. -/
inductive Stage where
  /-- It has made no call yet. -/
  | waiting
  /-- It has found the post and is about to write this one. -/
  | writing (post : Post)
  /-- It has ended. -/
  | done

/-- An operation under way. -/
structure PostTask where
  operation : PostOperation
  stage : Stage := .waiting

/-- What an operation leaves if nobody comes in between. -/
def PostOperation.leaves (id : Int) (now : Instant) (db : Database) : PostOperation → Database
  | update actor request => ((Posts.update actor id request : Op Database Post).exec now db).2
  | block => ((Store.Moderation.block id : Op Database Post).exec now db).2
  | approve => ((Store.Moderation.approve id : Op Database Post).exec now db).2
  | report actor request threshold =>
    ((PostReports.file actor id request threshold : Op Database ReportReceipt).exec now db).2

/-- What the next call of an operation leaves: how far the operation has come then, and the database.
All operations but a change are one call; a change is two (`Posts.update_eq`). -/
def PostTask.turn (id : Int) (now : Instant) (db : Database) : PostTask → PostTask × Database
  | ⟨.update actor request, .waiting⟩ =>
    match (Posts.revise actor id request : Op Database Post).exec now db with
    | (.ok post, db') => (⟨.update actor request, .writing post⟩, db')
    | (.error _, db') => (⟨.update actor request, .done⟩, db')
  | ⟨operation, .waiting⟩ => (⟨operation, .done⟩, operation.leaves id now db)
  | ⟨operation, .writing post⟩ =>
    (⟨operation, .done⟩, ((Store.Records.update post : Op Database Post).exec now db).2)
  | ⟨operation, .done⟩ => (⟨operation, .done⟩, db)

/-- A database, and operations under way on one of its posts. -/
structure Race where
  db : Database
  tasks : List PostTask

/-- Who makes the next call, and when. -/
structure Turn where
  task : Nat
  now : Instant

namespace Race

/-- Operations that have made no call yet. -/
def start (db : Database) (operations : List PostOperation) : Race :=
  ⟨db, operations.map fun operation => { operation }⟩

/-- What the next call of an operation leaves. -/
def turn (id : Int) (race : Race) (t : Turn) : Race :=
  match race.tasks[t.task]? with
  | none => race
  | some task =>
    let (task', db') := task.turn id t.now race.db
    ⟨db', race.tasks.set t.task task'⟩

/-- What calls in this order leave. -/
def run (id : Int) (race : Race) (schedule : List Turn) : Race := schedule.foldl (turn id) race

/-- The operation whose turn it is approves the post. -/
def Approves (race : Race) (t : Turn) : Prop :=
  ∃ task, race.tasks[t.task]? = some task ∧ task.operation = .approve

/-- A live post is about to be written as it was worked out before. -/
def HasLateWrite (id : Int) (race : Race) : Prop :=
  (∃ p ∈ race.db.board.posts, p.entry.id = id ∧ p.entry.isLive = true) ∧
    ∃ task ∈ race.tasks, ∃ post, task.stage = .writing post ∧
      Schema.isStorable (Editable.overwrite post default) = true

end Race

/-! ## What one call does -/

namespace PostTask

variable {id : Int} {now : Instant} {db : Database}

section

variable {actor : Int} {request : UpdatePost} {db' : Database}

/-- A change that has found its post is about to write what it worked out. -/
theorem turn_of_revise_ok {post : Post}
    (h : (Posts.revise actor id request : Op Database Post).exec now db = (.ok post, db')) :
    turn id now db ⟨.update actor request, .waiting⟩ =
      (⟨.update actor request, .writing post⟩, db') := by
  unfold turn
  dsimp only
  rw [h]

/-- A change that is refused ends. -/
theorem turn_of_revise_error {cause : Error}
    (h : (Posts.revise actor id request : Op Database Post).exec now db = (.error cause, db')) :
    turn id now db ⟨.update actor request, .waiting⟩ = (⟨.update actor request, .done⟩, db') := by
  unfold turn
  dsimp only
  rw [h]

end

/-- What was worked out is written, whatever the post has become. -/
theorem turn_of_writing (id : Int) (now : Instant) (db : Database) (operation : PostOperation)
    (post : Post) :
    turn id now db ⟨operation, .writing post⟩ =
      (⟨operation, .done⟩, ((Database.update post).exec now db).2) := by
  cases operation <;> rfl

/-- An operation that has ended makes no call. -/
theorem turn_of_done (id : Int) (now : Instant) (db : Database) (operation : PostOperation) :
    turn id now db ⟨operation, .done⟩ = (⟨operation, .done⟩, db) := by
  cases operation <;> rfl

/-- **A call of an operation only finds a post that is not blocked, or it ends the operation. It
approves the post only if the operation is an approval, and writes only what was worked out
before.** -/
theorem turn_cases (id : Int) (now : Instant) (db : Database) (task : PostTask) :
    (∃ actor request, task.operation = .update actor request ∧
      ∃ old ∈ db.board.posts, old.entry.id = id ∧ old.status ≠ PostStatus.blocked.name ∧
        Posts.AsksSettable request ∧
        task.turn id now db =
          (⟨task.operation, .writing (Posts.revised old request now)⟩, db)) ∨
      ∃ call db', task.turn id now db = (⟨task.operation, .done⟩, db') ∧
        Board.Step now db.board call db'.board ∧
        (call = .approvePost id → task.operation = .approve) ∧
        ∀ given, call = .post (.update given) → task.stage = .writing given := by
  have hstay : Board.Step now db.board .reachable db.board := .stay _
  obtain ⟨operation, stage⟩ := task
  cases stage with
  | done =>
      have hturn := turn_of_done id now db operation
      exact .inr ⟨.reachable, db, hturn, hstay, by simp, by simp⟩
  | writing post =>
      have hturn := turn_of_writing id now db operation post
      have hstep := Database.updatePost_step now db post
      refine .inr ⟨.post (.update post), _, hturn, hstep, by simp, ?_⟩
      rintro given ⟨⟩
      rfl
  | waiting =>
      cases operation with
      | update actor request =>
          -- the first turn of an update only reads; what it has read is kept as its next stage
          rcases Posts.revise_cases now db actor id request with
            ⟨cause, -, heq⟩ | ⟨old, hmem, hid, -, -, hfree, hasks, heq⟩
          · exact .inr ⟨.reachable, db, turn_of_revise_error heq, hstay, by simp, by simp⟩
          · exact .inl ⟨actor, request, rfl, old, hmem, hid, hfree, hasks, turn_of_revise_ok heq⟩
      | block =>
          have hstep := Database.blockPost_step now db id
          exact .inr ⟨.blockPost id, ((Database.blockPost id).exec now db).2, rfl, hstep,
            by simp, by simp⟩
      | approve =>
          have hstep := Database.approvePost_step now db id
          exact .inr ⟨.approvePost id, ((Database.approvePost id).exec now db).2, rfl, hstep,
            fun _ => rfl, by simp⟩
      | report actor request threshold =>
          let report : Report := PostReports.filed actor id request now
          have hstep := Database.fileReport_step now db report threshold
          have hturn : turn id now db ⟨.report actor request threshold, .waiting⟩ =
              (⟨.report actor request threshold, .done⟩,
                ((Database.fileReport report threshold).exec now db).2) := by
            have hfile := PostReports.exec_file actor id request threshold now db
            exact congrArg (fun r => (_, r.2)) hfile
          exact .inr ⟨.fileReport report threshold, _, hturn, hstep, by simp, by simp⟩

/-- An operation stays what it is, however far it has come. -/
@[simp] theorem operation_turn (task : PostTask) :
    (task.turn id now db).1.operation = task.operation := by
  rcases turn_cases id now db task with ⟨_, _, _, _, _, _, _, _, heq⟩ | ⟨_, _, heq, _⟩ <;> rw [heq]

/-- What an operation is about to write was worked out from the post while it was not blocked. -/
def IsProper (id : Int) (task : PostTask) : Prop :=
  ∀ post, task.stage = .writing post →
    task.operation ≠ .approve ∧ post.entry.id = id ∧
      (PostStatus.ofName? post.status).isSome = true ∧ post.status ≠ PostStatus.blocked.name

/-- After a call, what an operation is about to write was worked out properly. -/
theorem isProper_turn (hnamed : db.board.IsNamed) (task : PostTask) :
    (task.turn id now db).1.IsProper id := by
  intro post hpost
  rcases turn_cases id now db task with
    ⟨actor, request, hop, old, hmem, hid, hfree, hasks, heq⟩ | ⟨call, db', heq, -⟩
  · rw [heq] at hpost ⊢
    cases hpost
    refine ⟨by simp [hop], hid, ?_, Posts.status_revised_ne_blocked hfree hasks now⟩
    rcases Posts.status_revised old hasks now with hstatus | hsettable
    · rw [hstatus]
      exact hnamed old hmem
    · exact hsettable.isSome_ofName?
  · rw [heq] at hpost
    cases hpost

/-- **A call leaves a blocked post blocked, and its operation does not get to write it,** unless the
operation is an approval or is about to write the live post already. -/
theorem isBlocked_turn {task : PostTask} (hids : db.board.ids.Nodup) (h : db.board.IsBlocked id)
    (hproper : task.IsProper id) (happrove : task.operation ≠ .approve)
    (hlate : ∀ post, task.stage = .writing post →
      Schema.isStorable (Editable.overwrite post default) = true →
      ∀ p ∈ db.board.posts, p.entry.id = id → p.entry.isLive = false) :
    (task.turn id now db).2.board.IsBlocked id ∧
      ∀ post, (task.turn id now db).1.stage ≠ .writing post := by
  rcases turn_cases id now db task with
    ⟨actor, request, hop, old, hmem, hid, hfree, -⟩ | ⟨call, db', heq, hstep, hcall, hwrite⟩
  · exact absurd (h.status_eq hids hmem hid) hfree
  rw [heq]
  refine ⟨?_, by simp⟩
  by_cases hstage : ∃ post, task.stage = .writing post
  · obtain ⟨post, hstage⟩ := hstage
    obtain ⟨-, hid, -⟩ := hproper post hstage
    have hturn := turn_of_writing id now db task.operation post
    rw [← hstage, heq] at hturn
    rw [(Prod.mk.inj hturn).2]
    rcases Database.update_cases post now db with
      hrefused | ⟨old, hmem, hold, hlive, hstorable, -⟩
    · rw [Database.board_congr hrefused.tables_eq]
      exact h
    · have hdead : old.entry.isLive = false := hlate post hstage hstorable old hmem (hold.trans hid)
      have hlive' : old.entry.isLive = true := hlive
      rw [hdead] at hlive'
      cases hlive'
  · refine hstep.isBlocked hids h (fun heq => happrove (hcall heq)) ?_
    intro given hgiven
    exact absurd ⟨given, hwrite given hgiven⟩ hstage

/-- **A write of a live post that comes late takes the post out of the hands of moderation.** -/
theorem not_isBlocked_turn {task : PostTask} {post p : Post} (hproper : task.IsProper id)
    (hstage : task.stage = .writing post)
    (hstorable : Schema.isStorable (Editable.overwrite post default) = true)
    (hp : p ∈ db.board.posts) (hpid : p.entry.id = id) (hlive : p.entry.isLive = true) :
    ¬(task.turn id now db).2.board.IsBlocked id := by
  obtain ⟨-, hid, hnamed, hfree⟩ := hproper post hstage
  have hturn := turn_of_writing id now db task.operation post
  rw [← hstage] at hturn
  rw [hturn]
  rcases Database.find_cases Post post.entry.id now db with ⟨old, hmem, hold, -, hfind⟩ | ⟨hdead, -⟩
  · have hrow : Database.IsAdmissible db.tables (Database.changed post old now) := ⟨hnamed, rfl⟩
    rw [Database.update_of_find hstorable hfind hrow]
    rintro ⟨q, hq, hqid, hblocked⟩
    have hq' : q ∈ (db.board.putPost (old.rewritten post now)).posts := hq
    rcases Board.mem_putPost hq' with ⟨rfl, -⟩ | ⟨-, hne⟩
    · exact hfree hblocked
    · have hold' : old.entry.id = id := hold.trans hid
      exact hne (hqid.trans hold'.symm)
  · have hdead' : p.entry.isLive = false := hdead p hp (hpid.trans hid.symm)
    rw [hlive] at hdead'
    cases hdead'

end PostTask

namespace Race

variable {id : Int} {race : Race} {t : Turn}

/-! ## Runs -/

/-- Without calls nothing happens. -/
@[simp] theorem run_nil : race.run id [] = race := rfl

/-- The first call of a run comes before the others. -/
@[simp] theorem run_cons (schedule : List Turn) :
    race.run id (t :: schedule) = (race.turn id t).run id schedule := rfl

/-- A run that goes on does so from where it stood. -/
theorem run_append (schedule schedule' : List Turn) :
    race.run id (schedule ++ schedule') = (race.run id schedule).run id schedule' :=
  List.foldl_append

/-- Nobody has this turn, so nothing happens. -/
theorem turn_of_none (h : race.tasks[t.task]? = none) : race.turn id t = race := by
  unfold turn
  rw [h]

/-- Whoever has the turn makes the call. -/
theorem turn_of_some {task : PostTask} (h : race.tasks[t.task]? = some task) :
    race.turn id t =
      ⟨(task.turn id t.now race.db).2, race.tasks.set t.task (task.turn id t.now race.db).1⟩ := by
  unfold turn
  rw [h]

/-- What a run of calls on a post of a database keeps: posts have ids of their own, and statuses, and
what is about to be written is proper. -/
structure IsProper (id : Int) (race : Race) : Prop where
  distinct : race.db.board.ids.Nodup
  named : race.db.board.IsNamed
  proper : ∀ task ∈ race.tasks, task.IsProper id

/-- Operations that have made no call are about to write nothing. -/
theorem isProper_start (id : Int) (events : List Event) (operations : List PostOperation) :
    (start (Database.after events) operations).IsProper id := by
  refine ⟨Database.nodup_ids_after events, Database.isNamed_after events, ?_⟩
  intro task htask post hpost
  obtain ⟨operation, -, rfl⟩ := List.mem_map.mp htask
  cases hpost

/-- A call on the post takes a step on the board. -/
theorem exists_step_turn (id : Int) (race : Race) (t : Turn) :
    ∃ call, Board.Step t.now race.db.board call (race.turn id t).db.board := by
  rcases htask : race.tasks[t.task]? with _ | task
  · rw [turn_of_none htask]
    exact ⟨.reachable, .stay _⟩
  · rw [turn_of_some htask]
    rcases PostTask.turn_cases id t.now race.db task with
      ⟨_, _, _, _, _, _, _, _, heq⟩ | ⟨call, db', heq, hstep, -⟩
    · rw [heq]
      exact ⟨.reachable, .stay _⟩
    · rw [heq]
      exact ⟨call, hstep⟩

/-- The operations after a call are those before it, but that one may have come further. -/
theorem mem_tasks_turn {task : PostTask} (h : task ∈ (race.turn id t).tasks) :
    task ∈ race.tasks ∨ ∃ task', race.tasks[t.task]? = some task' ∧
      task = (task'.turn id t.now race.db).1 := by
  rcases htask : race.tasks[t.task]? with _ | task'
  · rw [turn_of_none htask] at h
    exact .inl h
  · rw [turn_of_some htask] at h
    rcases List.mem_or_eq_of_mem_set h with h | h
    · exact .inl h
    · exact .inr ⟨task', rfl, h⟩

/-- A call leaves the posts and what is about to be written proper. -/
theorem IsProper.turn (h : race.IsProper id) (t : Turn) : (race.turn id t).IsProper id := by
  obtain ⟨call, hstep⟩ := exists_step_turn id race t
  refine ⟨hstep.nodup_ids h.distinct, hstep.isNamed h.named, ?_⟩
  intro task htask
  rcases mem_tasks_turn htask with hmem | ⟨task', -, rfl⟩
  · exact h.proper task hmem
  · exact PostTask.isProper_turn h.named task'

theorem IsProper.run (h : race.IsProper id) (schedule : List Turn) :
    (race.run id schedule).IsProper id := by
  induction schedule generalizing race with
  | nil => exact h
  | cons t schedule ih => exact ih (h.turn t)

/-- Which operations approve the post is decided from the start. -/
theorem approves_turn (t' : Turn) : (race.turn id t).Approves t' ↔ race.Approves t' := by
  rcases htask : race.tasks[t.task]? with _ | task
  · rw [turn_of_none htask]
  · rw [turn_of_some htask]
    unfold Approves
    by_cases heq : t.task = t'.task
    · have hlt : t.task < race.tasks.length := (List.getElem?_eq_some_iff.mp htask).1
      rw [← heq, List.getElem?_set_self hlt, htask]
      simp
    · rw [List.getElem?_set_ne heq]

/-- Which operations approve the post does not change over a run. -/
theorem approves_run (schedule : List Turn) (t' : Turn) :
    (race.run id schedule).Approves t' ↔ race.Approves t' := by
  induction schedule generalizing race with
  | nil => rfl
  | cons t schedule ih =>
      rw [run_cons, ih]
      exact approves_turn t'

/-- An operation approves the post if it was started as an approval. -/
theorem approves_start {db : Database} {operations : List PostOperation} :
    (start db operations).Approves t ↔ operations[t.task]? = some .approve := by
  unfold Approves start
  rw [List.getElem?_map]
  rcases operations[t.task]? with _ | operation <;> simp

/-- Without a late write, a call that does not approve a blocked post leaves it blocked, and there is no
late write after it. -/
theorem isBlocked_turn (hproper : race.IsProper id) (h : race.db.board.IsBlocked id)
    (hlate : ¬race.HasLateWrite id) (ht : ¬race.Approves t) :
    (race.turn id t).db.board.IsBlocked id ∧ ¬(race.turn id t).HasLateWrite id := by
  rcases htask : race.tasks[t.task]? with _ | task
  · rw [turn_of_none htask]
    exact ⟨h, hlate⟩
  have hmem : task ∈ race.tasks := List.mem_of_getElem? htask
  have happrove : task.operation ≠ .approve := fun hop => ht ⟨task, htask, hop⟩
  have hdead : ∀ post, task.stage = .writing post →
      Schema.isStorable (Editable.overwrite post default) = true →
      ∀ p ∈ race.db.board.posts, p.entry.id = id → p.entry.isLive = false := by
    intro post hstage hstorable p hp hid
    by_contra hlive
    have hlive' : p.entry.isLive = true := by simpa using hlive
    exact hlate ⟨⟨p, hp, hid, hlive'⟩, task, hmem, post, hstage, hstorable⟩
  obtain ⟨hblocked, hstage⟩ := PostTask.isBlocked_turn hproper.distinct h
    (hproper.proper task hmem) happrove hdead
  constructor
  · rw [turn_of_some htask]
    exact hblocked
  · rintro ⟨hlive, task', hmem', post, hpost, hstorable⟩
    rcases mem_tasks_turn hmem' with hmem' | ⟨task'', hsome, rfl⟩
    · obtain ⟨call, hstep⟩ := exists_step_turn id race t
      obtain ⟨p, hp, hid, -⟩ := h
      have hi : id ∈ race.db.board.ids := hid ▸ Board.mem_ids hp
      exact hlate ⟨hstep.live_of_live hi hlive, task', hmem', post, hpost, hstorable⟩
    · rw [htask] at hsome
      cases hsome
      exact hstage post hpost

/-- Without a late write, a blocked post stays blocked over every run that does not approve it. -/
theorem isBlocked_run (hproper : race.IsProper id) (h : race.db.board.IsBlocked id)
    (hlate : ¬race.HasLateWrite id) (later : List Turn) (happrove : ∀ t ∈ later, ¬race.Approves t) :
    (race.run id later).db.board.IsBlocked id := by
  induction later generalizing race with
  | nil => exact h
  | cons t later ih =>
      have ht : ¬race.Approves t := happrove t List.mem_cons_self
      obtain ⟨h', hlate'⟩ := isBlocked_turn hproper h hlate ht
      refine ih (hproper.turn t) h' hlate' ?_
      intro t' ht'
      rw [approves_turn]
      exact happrove t' (List.mem_cons_of_mem t ht')

/-- A late write is one call away. -/
theorem exists_turn_of_hasLateWrite (hproper : race.IsProper id) (hlate : race.HasLateWrite id) :
    ∃ t, ¬race.Approves t ∧ ¬(race.turn id t).db.board.IsBlocked id := by
  obtain ⟨⟨p, hp, hpid, hlive⟩, task, hmem, post, hstage, hstorable⟩ := hlate
  obtain ⟨k, htask⟩ := List.mem_iff_getElem?.mp hmem
  have htask' := hproper.proper task hmem
  let t : Turn := ⟨k, .unset⟩
  refine ⟨t, ?_, ?_⟩
  · rintro ⟨task', hsome, hop⟩
    rw [htask] at hsome
    cases hsome
    exact (htask' post hstage).1 hop
  · rw [turn_of_some (t := t) htask]
    exact PostTask.not_isBlocked_turn htask' hstage hstorable hp hpid hlive

/-- **However the calls of operations on a post follow one another, from any database that came about:
once the post is blocked, it stays blocked until its approval exactly if no change that found the post
before is about to write it.** -/
theorem stays_blocked_iff (events : List Event) (id : Int) (operations : List PostOperation)
    (before : List Turn)
    (h : ((start (Database.after events) operations).run id before).db.board.IsBlocked id) :
    (∀ later, (∀ t ∈ later, operations[t.task]? ≠ some .approve) →
        ((start (Database.after events) operations).run id (before ++ later)).db.board.IsBlocked id) ↔
      ¬((start (Database.after events) operations).run id before).HasLateWrite id := by
  have hproper := (isProper_start id events operations).run before
  have hdecided (t : Turn) : ¬((start (Database.after events) operations).run id before).Approves t ↔
      operations[t.task]? ≠ some .approve := by
    rw [approves_run, approves_start]
  constructor
  · intro hstays hlate
    obtain ⟨t, happrove, hfree⟩ := exists_turn_of_hasLateWrite hproper hlate
    have hstays' := hstays [t] fun t' ht' => by
      rw [List.mem_singleton.mp ht']
      exact (hdecided t).mp happrove
    rw [run_append] at hstays'
    exact hfree hstays'
  · intro hlate later happrove
    rw [run_append]
    refine isBlocked_run hproper h hlate later ?_
    intro t ht
    exact (hdecided t).mpr (happrove t ht)

/-- A change by the author, and a decision to block the post. -/
def changeAndBlock : List PostOperation := [.update 1 { body := .set "Three months old" }, .block]

/-- A post that is blocked before anybody has found it for a change stays blocked. -/
theorem stays_blocked_kitten :
    ((start (Database.after kitten) changeAndBlock).run 1 [⟨1, ⟨2, 0⟩⟩]).db.board.IsBlocked 1 ∧
      ((∀ later : List Turn, (∀ t ∈ later, changeAndBlock[t.task]? ≠ some .approve) →
          ((start (Database.after kitten) changeAndBlock).run 1
            ([⟨1, ⟨2, 0⟩⟩] ++ later)).db.board.IsBlocked 1) ↔
        ¬((start (Database.after kitten) changeAndBlock).run 1 [⟨1, ⟨2, 0⟩⟩]).HasLateWrite 1) := by
  have h : ((start (Database.after kitten) changeAndBlock).run 1
      [⟨1, ⟨2, 0⟩⟩]).db.board.IsBlocked 1 := by
    decide +kernel
  exact ⟨h, stays_blocked_iff kitten 1 changeAndBlock [⟨1, ⟨2, 0⟩⟩] h⟩

/-- **A change that found the post before it was blocked, and writes it after, takes it out of the
hands of moderation.** -/
theorem unblocked_by_late_write :
    ((start (Database.after kitten) changeAndBlock).run 1
      [⟨0, ⟨2, 0⟩⟩, ⟨1, ⟨3, 0⟩⟩]).db.board.IsBlocked 1 ∧
    changeAndBlock[0]? ≠ some .approve ∧
    ¬((start (Database.after kitten) changeAndBlock).run 1
      [⟨0, ⟨2, 0⟩⟩, ⟨1, ⟨3, 0⟩⟩, ⟨0, ⟨4, 0⟩⟩]).db.board.IsBlocked 1 := by
  refine ⟨?_, ?_, ?_⟩
  · decide +kernel
  · decide
  · decide +kernel

end Race

end Fostering
