import Fostering.Proofs.Database.Deletion
import Fostering.Proofs.Posts.Visibility
import Fostering.Proofs.Requests.Failures

/-!
# What is said of posts that the caller may not see

A post that a viewer may not see is reported as missing when the viewer asks for it, and so it is when
they report it: the two answers are the very ones of a database without the post. Whoever asks to change
or to delete it is told something else, namely that it belongs to another user, and so learns that it is
there. Nothing is ever changed.

* `Posts.hides_iff`: which posts are hidden from a viewer.
* `Exchange.IsAbout`: a request about a post that can be read.
* `Database.hidden_posts_answer`: what is said to such a request, and when it is what would be said if
  there were no such post.
-/

namespace Fostering

open Database

variable {db : Database} {viewer : Viewer} {id : Int} {now : Instant}

/-! ## Service -/

/-- There is no live post with the id. -/
def Database.Misses (db : Database) (id : Int) : Prop :=
  ∀ p ∈ db.tables.posts, p.entry.id = id → p.entry.isLive = false

/-- The database without the post with an id. -/
def Database.withoutPost (id : Int) (db : Database) : Database :=
  { db with tables := { db.tables with posts := db.tables.posts.filter fun p => !decide (p.entry.id = id) } }

/-- A database without the post misses it. -/
theorem Database.misses_withoutPost (id : Int) (db : Database) : (db.withoutPost id).Misses id := by
  intro p hp hid
  have hother := (List.mem_filter.mp hp).2
  rw [hid, decide_eq_true rfl] at hother
  cases hother

namespace Posts

/-- A viewer who asks for the post with an id is told that there is none. -/
def Hides (db : Database) (viewer : Viewer) (id : Int) : Prop :=
  ∀ now, ((get viewer id : Op Database Post).exec now db).1 = .error (.notFound "Post" id)

section

variable (hmisses : db.Misses id)
include hmisses

/-- A post that is missed is not found. -/
theorem exec_find_of_misses (now : Instant) :
    (Store.Records.find id : Op Database Post).exec now db = (.error (.notFound "Post" id), db) :=
  exec_find_of_dead hmisses now

/-- A post that is missed is shown to nobody. -/
theorem exec_get_of_misses (viewer : Viewer) (now : Instant) :
    (get viewer id : Op Database Post).exec now db = (.error (.notFound "Post" id), db) :=
  Op.exec_bind_error (exec_find_of_misses hmisses now)

/-- A post that is missed is not found by those who want to change it. -/
theorem exec_update_of_misses (actor : Int) (request : UpdatePost) (now : Instant) :
    (update actor id request : Op Database Post).exec now db = (.error (.notFound "Post" id), db) :=
  Op.exec_bind_error (exec_find_of_misses hmisses now)

/-- A post that is missed is not found by those who want to delete it. -/
theorem exec_delete_of_misses (actor : Int) (now : Instant) :
    (delete actor id : Op Database Unit).exec now db = (.error (.notFound "Post" id), db) :=
  Op.exec_bind_error (exec_find_of_misses hmisses now)

end

/-- A post that is not published is not found by those who want to report it. -/
theorem exec_file_of_unpublished (h : ∀ p ∈ db.tables.posts, p.entry.id = id → p.entry.isLive = true →
      p.status ≠ PostStatus.published.name) (actor : Int) (request : CreateReport) (threshold : Int)
    (now : Instant) : (PostReports.file actor id request threshold).exec now db =
      (.error (.notFound "Post" id), db) := by
  rw [PostReports.exec_file]
  exact exec_fileReport_of_hidden h threshold now

/-- Whoever is not the author is told so. -/
theorem exec_ensureOwner_of_ne {actor authorId : Int} (hother : authorId ≠ actor) (now : Instant) :
    (ensureOwner actor authorId "Post" : Op Database Unit).exec now db =
      (.error (.forbidden "Post belongs to another user"), db) :=
  Op.exec_guard_of_false (decide_eq_false hother.symm) _ now db

section

variable (hids : (ids Post db.tables).Nodup) {p : Post} (hp : p ∈ db.tables.posts)
  (hlive : p.entry.isLive = true)
include hids hp hlive

/-- A post that is there is found, whoever looks. -/
theorem exec_find_of_mem (now : Instant) :
    (Store.Records.find p.entry.id : Op Database Post).exec now db = (.ok p, db) :=
  find_of_nodup hids hp hlive now

/-- Whoever may not see a live post is told that it is missing. -/
theorem exec_get_of_unseen (hsees : viewer.sees p = false) (now : Instant) :
    (get viewer p.entry.id : Op Database Post).exec now db =
      (.error (.notFound "Post" p.entry.id), db) := by
  unfold get
  rw [Op.exec_bind_ok (exec_find_of_mem hids hp hlive now)]
  exact Op.exec_bind_error (Op.exec_guard_of_false hsees _ now db)

/-- A post that is there cannot be changed by others, and they are told whose it is not. -/
theorem exec_update_of_other {actor : Int} (hother : p.authorId ≠ actor) (request : UpdatePost)
    (now : Instant) : (update actor p.entry.id request : Op Database Post).exec now db =
      (.error (.forbidden "Post belongs to another user"), db) := by
  unfold update
  rw [Op.exec_bind_ok (exec_find_of_mem hids hp hlive now)]
  exact Op.exec_bind_error (exec_ensureOwner_of_ne hother now)

theorem exec_delete_of_other {actor : Int} (hother : p.authorId ≠ actor) (now : Instant) :
    (delete actor p.entry.id : Op Database Unit).exec now db =
      (.error (.forbidden "Post belongs to another user"), db) := by
  unfold delete
  rw [Op.exec_bind_ok (exec_find_of_mem hids hp hlive now)]
  exact Op.exec_bind_error (exec_ensureOwner_of_ne hother now)

end

/-- **Hidden are the posts that are missing, deleted or not for the viewer to see.** -/
theorem hides_iff (hids : (ids Post db.tables).Nodup) : Hides db viewer id ↔
    ∀ p ∈ db.tables.posts, p.entry.id = id → p.entry.isLive = true → viewer.sees p = false := by
  constructor
  · rintro h p hp rfl hlive
    rcases hsees : viewer.sees p
    · rfl
    · have hgets := (gets_iff hids).mpr ⟨hp, hlive, hsees⟩ ⟨0, 0⟩
      have hhidden := h ⟨0, 0⟩
      rw [hgets] at hhidden
      cases hhidden
  · intro h now
    by_cases hmisses : db.Misses id
    · rw [exec_get_of_misses hmisses]
    · unfold Misses at hmisses
      push Not at hmisses
      obtain ⟨p, hp, rfl, hlive⟩ := hmisses
      have hlive' : p.entry.isLive = true := (Bool.not_eq_false _).mp hlive
      rw [exec_get_of_unseen hids hp hlive' (h p hp rfl hlive')]

end Posts

/-- A post that somebody does not see is somebody else's and not published. -/
theorem Viewer.sees_eq_false {p : Post} (h : viewer.sees p = false) :
    p.authorId ≠ viewer.userId ∧ p.status ≠ PostStatus.published.name := by
  unfold sees at h
  simp only [Bool.or_eq_false_iff, decide_eq_false_iff_not] at h
  exact ⟨h.1.2, h.2⟩

/-! ## Requests -/

namespace Exchange

/-- A caller asks about the post with an id, in a request that can be read: they want to see, change, delete
or report it. -/
inductive IsAbout (x : Exchange) (caller : Caller) (id : Int) : Endpoint → Prop where
  | get (asks : x.caller = .ok caller) (path : x.id = .ok id) : IsAbout x caller id .getPost
  | update (request : UpdatePost) (asks : x.caller = .ok caller) (path : x.id = .ok id)
      (body : x.body UpdatePost = .ok request) : IsAbout x caller id .updatePost
  | delete (asks : x.caller = .ok caller) (path : x.id = .ok id) : IsAbout x caller id .deletePost
  | report (request : CreateReport) (asks : x.caller = .ok caller) (path : x.id = .ok id)
      (body : x.body CreateReport = .ok request) : IsAbout x caller id .createReport

variable {x : Exchange} {caller : Caller} {endpoint : Endpoint}

section

variable (asks : x.caller = .ok caller) (path : x.id = .ok id)
include asks path

/-- What is planned for a request to show a post. -/
theorem plan_getPost : (x.plan .getPost : Except Reply (Action Database)) =
    .ok (.shows 200 Post.view (Posts.get caller.viewer id)) := by
  change (x.caller >>= fun _ => x.id >>= fun _ => _) = _
  rw [asks, path]
  rfl

/-- What is planned for a request to change a post. -/
theorem plan_updatePost {request : UpdatePost} (body : x.body UpdatePost = .ok request) :
    (x.plan .updatePost : Except Reply (Action Database)) =
      .ok (.shows 200 Post.view (Posts.update caller.userId id request)) := by
  change (x.caller >>= fun _ => x.id >>= fun _ => x.body UpdatePost >>= fun _ => _) = _
  rw [asks, path, body]
  rfl

/-- What is planned for a request to delete a post. -/
theorem plan_deletePost : (x.plan .deletePost : Except Reply (Action Database)) =
    .ok (.silent (Posts.delete caller.userId id)) := by
  change (x.caller >>= fun _ => x.id >>= fun _ => _) = _
  rw [asks, path]
  rfl

/-- What is planned for a request to report a post. -/
theorem plan_createReport {request : CreateReport} (body : x.body CreateReport = .ok request) :
    (x.plan .createReport : Except Reply (Action Database)) = .ok (.shows 201 ReportReceipt.view
      (PostReports.file caller.userId id request x.config.reportThreshold)) := by
  change (x.caller >>= fun _ => x.id >>= fun _ => x.body CreateReport >>= fun _ => _) = _
  rw [asks, path, body]
  rfl

end

/-- What is planned for a request is refused. -/
def Refuses (x : Exchange) (db : Database) (endpoint : Endpoint) (cause : Error) : Prop :=
  ∃ action : Action Database, x.plan endpoint = .ok action ∧ action.exec x.now db = (.error cause, db)

/-- Whatever a caller asks about a post that is missing, they are told that there is none. -/
theorem IsAbout.refuses_of_misses (h : x.IsAbout caller id endpoint) (hmisses : db.Misses id) :
    x.Refuses db endpoint (.notFound "Post" id) := by
  cases h with
  | get asks path =>
      have hget := Posts.exec_get_of_misses hmisses caller.viewer x.now
      exact ⟨_, plan_getPost asks path, Op.exec_bind_error hget⟩
  | update request asks path body =>
      have hupdate := Posts.exec_update_of_misses hmisses caller.userId request x.now
      exact ⟨_, plan_updatePost asks path body, Op.exec_bind_error hupdate⟩
  | delete asks path =>
      have hdelete := Posts.exec_delete_of_misses hmisses caller.userId x.now
      exact ⟨_, plan_deletePost asks path, Op.exec_bind_error hdelete⟩
  | report request asks path body =>
      have hunpublished (p : Post) (hp : p ∈ db.tables.posts) (hid : p.entry.id = id)
          (hlive : p.entry.isLive = true) : p.status ≠ PostStatus.published.name := by
        rw [hmisses p hp hid] at hlive
        cases hlive
      have hfile := Posts.exec_file_of_unpublished hunpublished caller.userId request
        x.config.reportThreshold x.now
      exact ⟨_, plan_createReport asks path body, Op.exec_bind_error hfile⟩

/-- The cause for which a hidden post is refused that is there. To change or delete a post, one has to own
it; whether one may see it is not asked. -/
def hiddenCause (endpoint : Endpoint) (id : Int) : Error :=
  if endpoint ∈ [Endpoint.updatePost, .deletePost] then .forbidden "Post belongs to another user"
  else .notFound "Post" id

/-- What a caller is told who asks about a live post that they may not see. -/
theorem IsAbout.refuses_of_unseen {p : Post} (h : x.IsAbout caller p.entry.id endpoint)
    (hids : (ids Post db.tables).Nodup) (hp : p ∈ db.tables.posts) (hlive : p.entry.isLive = true)
    (hsees : caller.viewer.sees p = false) :
    x.Refuses db endpoint (hiddenCause endpoint p.entry.id) := by
  obtain ⟨hother, hstatus⟩ := Viewer.sees_eq_false hsees
  cases h with
  | get asks path =>
      have hget := Posts.exec_get_of_unseen hids hp hlive hsees x.now
      exact ⟨_, plan_getPost asks path, Op.exec_bind_error hget⟩
  | update request asks path body =>
      have hupdate := Posts.exec_update_of_other hids hp hlive hother request x.now
      exact ⟨_, plan_updatePost asks path body, Op.exec_bind_error hupdate⟩
  | delete asks path =>
      have hdelete := Posts.exec_delete_of_other hids hp hlive hother x.now
      exact ⟨_, plan_deletePost asks path, Op.exec_bind_error hdelete⟩
  | report request asks path body =>
      have hunpublished (q : Post) (hq : q ∈ db.tables.posts) (hid : q.entry.id = p.entry.id)
          (_ : q.entry.isLive = true) : q.status ≠ PostStatus.published.name := by
        rw [eq_of_key hids hq hp hid]
        exact hstatus
      have hfile := Posts.exec_file_of_unpublished hunpublished caller.userId request
        x.config.reportThreshold x.now
      exact ⟨_, plan_createReport asks path body, Op.exec_bind_error hfile⟩

end Exchange

namespace Database

variable {config : Config} {a : Arrival} {endpoint : Endpoint} {id? : Option (String × String)}
  {caller : Caller}

/-- Whoever is refused is told the cause, and the database stays as it was. -/
theorem reply_of_refuses (hfind : Endpoint.find a.incoming = .endpoint endpoint id?) {cause : Error}
    (h : (a.exchange config id?).Refuses db endpoint cause) :
    db.reply config a = a.told config cause ∧ db.serve config a = db := by
  obtain ⟨action, hplan, hexec⟩ := h
  exact reply_of_refused hfind hplan hexec

/-- **What is said about a hidden post, and when it is what would be said without it.** Nothing is changed.
Whoever asks for the post or reports it is told that there is none, word for word as if there were none. So
is whoever asks to change or delete it, unless there is a live post with the id: then they are told that it
belongs to another user. -/
theorem hidden_posts_answer (hids : (ids Post db.tables).Nodup)
    (hfind : Endpoint.find a.incoming = .endpoint endpoint id?)
    (habout : (a.exchange config id?).IsAbout caller id endpoint)
    (hhidden : Posts.Hides db caller.viewer id) :
    db.serve config a = db ∧
    (db.withoutPost id).reply config a = a.told config (.notFound "Post" id) ∧
    (db.reply config a ≠ (db.withoutPost id).reply config a ↔
      endpoint ∈ [Endpoint.updatePost, .deletePost] ∧
        ∃ p ∈ db.tables.posts, p.entry.id = id ∧ p.entry.isLive = true) ∧
    (db.reply config a ≠ (db.withoutPost id).reply config a →
      db.reply config a = a.told config (.forbidden "Post belongs to another user")) := by
  have hwithout := reply_of_refuses hfind (habout.refuses_of_misses (misses_withoutPost id db))
  rw [hwithout.1]
  -- by whether there is a live post at all: without one both databases answer alike
  by_cases hmisses : db.Misses id
  · obtain ⟨hreply, hserve⟩ := reply_of_refuses hfind (habout.refuses_of_misses hmisses)
    have hnone : ¬∃ p ∈ db.tables.posts, p.entry.id = id ∧ p.entry.isLive = true := by
      rintro ⟨p, hp, hid, hlive⟩
      rw [hmisses p hp hid] at hlive
      cases hlive
    rw [hreply]
    exact ⟨hserve, rfl, iff_of_false (fun hne => hne rfl) (fun h => hnone h.2), fun hne => absurd rfl hne⟩
  · unfold Misses at hmisses
    push Not at hmisses
    obtain ⟨p, hp, rfl, hlive⟩ := hmisses
    have hlive' : p.entry.isLive = true := (Bool.not_eq_false _).mp hlive
    have hsees : caller.viewer.sees p = false := (Posts.hides_iff hids).mp hhidden p hp rfl hlive'
    obtain ⟨hreply, hserve⟩ := reply_of_refuses hfind (habout.refuses_of_unseen hids hp hlive' hsees)
    rw [hreply]
    unfold Exchange.hiddenCause
    split_ifs with hchanges
    · have hstatus : a.told config (.forbidden "Post belongs to another user") ≠
          a.told config (.notFound "Post" p.entry.id) := by
        intro heq
        have hsame := congrArg Reply.status heq
        rw [Arrival.status_told, Arrival.status_told] at hsame
        cases hsame
      exact ⟨hserve, rfl, iff_of_true hstatus ⟨hchanges, p, hp, rfl, hlive'⟩, fun _ => rfl⟩
    · exact ⟨hserve, rfl, iff_of_false (fun hne => hne rfl) (fun h => hchanges h.1), fun hne => absurd rfl hne⟩

/-! ## A draft of somebody else -/

/-- Boris has written a post that he has not published. -/
def drafted : List Event :=
  [.call (.user (.create { username := "anna", email := "anna@example.org" })) ⟨0, 0⟩,
    .call (.user (.create { username := "boris", email := "boris@example.org" })) ⟨0, 0⟩,
    .call (.post (.create { authorId := 2, title := "Kitten", body := "Two months old",
                            status := "draft" })) ⟨1, 0⟩]

/-- Anna wants to delete a post. -/
def annaDeletes : Arrival := .bearing annasToken "DELETE" "/api/v1/posts/1" ""

/-- Anna, from whom the draft is hidden, is told that it belongs to another user. -/
theorem hidden_posts_answer_anna :
    (ids Post (after drafted).tables).Nodup ∧
    Endpoint.find annaDeletes.incoming = .endpoint .deletePost (some ("id", "1")) ∧
    (annaDeletes.exchange (.blockingAt 3) (some ("id", "1"))).IsAbout ⟨1, false⟩ 1 .deletePost ∧
    Posts.Hides (after drafted) ⟨1, false⟩ 1 ∧
    (after drafted).reply (.blockingAt 3) annaDeletes ≠
      ((after drafted).withoutPost 1).reply (.blockingAt 3) annaDeletes ∧
    ((after drafted).withoutPost 1).reply (.blockingAt 3) annaDeletes =
      annaDeletes.told (.blockingAt 3) (.notFound "Post" 1) ∧
    (after drafted).reply (.blockingAt 3) annaDeletes =
      annaDeletes.told (.blockingAt 3) (.forbidden "Post belongs to another user") := by
  have hids : (ids Post (after drafted).tables).Nodup := (isSound_after drafted .posts).keys
  have hfind : Endpoint.find annaDeletes.incoming = .endpoint .deletePost (some ("id", "1")) :=
    show Endpoint.findIn "DELETE" (Path.segments "/api/v1/posts/1") Endpoint.routes = _ by decide
  have habout : (annaDeletes.exchange (.blockingAt 3) (some ("id", "1"))).IsAbout ⟨1, false⟩ 1
      .deletePost := .delete (caller_annas rfl) readId_one
  have hposts : (after drafted).tables.posts =
      [{ entry := { id := 1, createdAt := ⟨0, 0⟩, updatedAt := ⟨0, 0⟩ }, authorId := 2, title := "Kitten",
         body := "Two months old", status := "draft" }] := by decide +kernel
  have hhidden : Posts.Hides (after drafted) ⟨1, false⟩ 1 := by
    refine (Posts.hides_iff hids).mpr ?_
    rw [hposts]
    exact List.forall_mem_singleton.mpr fun _ _ => rfl
  obtain ⟨-, hwithout, hiff, htold⟩ := hidden_posts_answer hids hfind habout hhidden
  have hlive : ∃ p ∈ (after drafted).tables.posts, p.entry.id = 1 ∧ p.entry.isLive = true := by
    rw [hposts]
    exact ⟨_, List.mem_cons_self, rfl, rfl⟩
  have hdiffers := hiff.mpr ⟨by decide, hlive⟩
  exact ⟨hids, hfind, habout, hhidden, hdiffers, hwithout, htold hdiffers⟩

end Database

end Fostering
