import Fostering.Proofs.Posts.Statuses

/-!
# Blocked posts without moderators

What becomes of blocked posts while no moderator asks for anything.

* `newly_blocked_serve`: a post becomes blocked only by a report that brings it to the threshold; none
  is made blocked.
* `blocked_serve`: nobody gets a blocked post out of that status or changes anything else about it, its
  author included, nor do the reports against it change. All that an author can do is delete it.

The first holds of any tables. The second needs the primary key of posts, for a request changes all
rows that have the id it names.
-/

namespace Fostering

namespace Arrival

/-- Whoever sends the request is no moderator. -/
def IsOrdinary (a : Arrival) (config : Config) : Prop :=
  ∀ caller, Caller.authenticate config.token.secret a.now a.incoming = .ok caller →
    caller.isModerator = false

/-- Who makes an ordinary request is no moderator. -/
theorem IsOrdinary.not_moderator {a : Arrival} {config : Config} {id? : Option (String × String)}
    {caller : Caller} (h : a.IsOrdinary config) (hcaller : (a.exchange config id?).caller = .ok caller) :
    caller.isModerator = false :=
  h caller (Exchange.caller_eq_ok.mp hcaller)

/-- Whoever shows no token is no moderator. -/
theorem isOrdinary_of_header_none {a : Arrival} (h : a.incoming.header? "authorization" = none)
    (config : Config) : a.IsOrdinary config := by
  intro caller hcaller
  have hmissing : Caller.authenticate config.token.secret a.now a.incoming = .error .missing := by
    unfold Caller.authenticate Caller.shownToken
    rw [h]
    rfl
  rw [hmissing] at hcaller
  cases hcaller

/-- Somebody reports a post. -/
def Reports (a : Arrival) (config : Config) (id : Int) : Prop :=
  ∃ caller, a.Asks config .createReport caller id

/-- The author of a post deletes it. -/
def DeletesOwn (a : Arrival) (config : Config) (p : Post) : Prop :=
  ∃ caller, a.Asks config .deletePost caller p.entry.id ∧ p.authorId = caller.userId

end Arrival

namespace Database

variable {config : Config} {db : Database} {a : Arrival} {p : Post}

/-- A post that is blocked after a change at one place was blocked before, or it is the changed one. -/
theorem isBlocked_of_putPost {b : Board} {q : Post} {id : Int} (h : (b.putPost q).IsBlocked id)
    (hq : q.entry.id = id → q.status = PostStatus.blocked.name → b.IsBlocked id) :
    b.IsBlocked id := by
  obtain ⟨p, hp, hid, hblocked⟩ := h
  rcases Board.mem_putPost hp with ⟨rfl, -⟩ | ⟨hp, -⟩
  · exact hq hid hblocked
  · exact ⟨p, hp, hid, hblocked⟩

/-- **Without moderators a post becomes blocked only by a report that brings it to the threshold.** -/
theorem newly_blocked_serve {id : Int} (ha : a.IsOrdinary config)
    (h : (db.serve config a).board.IsBlocked id) :
    db.board.IsBlocked id ∨
      a.Reports config id ∧ id ∈ db.board.ids ∧ 0 < config.reportThreshold ∧
        config.reportThreshold ≤ (db.serve config a).board.count id := by
  rcases board_serve config db a with heq | ⟨endpoint, id?, call, hfind, hpermits, hstep⟩
  · rw [heq] at h
    exact .inl h
  generalize (db.serve config a).board = b' at h hstep ⊢
  cases hpermits with
  | create caller request status asks body first =>
      left
      cases hstep with
      | stay => exact h
      | create given newId =>
          obtain ⟨p, hp, hid, hblocked⟩ := h
          rcases Board.mem_addPost.mp hp with hp | rfl
          · exact ⟨p, hp, hid, hblocked⟩
          · exact absurd hblocked (Posts.isSettable_of_firstStatus first).ne_blocked
  | update caller request old asks path body mem live own free settable =>
      left
      cases hstep with
      | stay => exact h
      | update given old' =>
          refine isBlocked_of_putPost h fun _ hblocked => ?_
          exact absurd hblocked (Posts.status_revised_ne_blocked free settable a.now)
  | delete caller postId old =>
      left
      cases hstep with
      | stay => exact h
      | delete _ old' mem =>
          exact isBlocked_of_putPost h fun hid hblocked => ⟨old', mem, hid, hblocked⟩
  | file caller request postId asks path =>
      cases hstep with
      | stay => exact .inl h
      | file given threshold newId post =>
          obtain ⟨p, hp, hid, hblocked⟩ := h
          obtain ⟨q, hq, hqid, ⟨hpost, rfl⟩ | ⟨-, rfl⟩⟩ := Board.mem_recount hp
          · right
            have hpostId : postId = id := hpost.symm.trans hid
            subst hpostId
            have hmem := Board.mem_ids hq
            rw [hpost] at hmem
            refine ⟨⟨caller, id?, hfind, asks, path⟩, hmem, ?_⟩
            rw [Board.count_congr Board.reports_recount]
            exact Post.status_counted_eq_blocked.mp hblocked
          · exact .inl ⟨p, hq, hid, hblocked⟩
  | approve caller postId asks moderator =>
      rw [ha.not_moderator asks] at moderator
      cases moderator
  | block caller postId asks moderator =>
      rw [ha.not_moderator asks] at moderator
      cases moderator

/-- **Without moderators nothing happens to a blocked post but that its author deletes it, and nothing
to the reports against it.** -/
theorem blocked_serve (hids : db.board.ids.Nodup) (ha : a.IsOrdinary config)
    (hp : p ∈ db.board.posts) (hblocked : p.status = PostStatus.blocked.name) :
    (p ∈ (db.serve config a).board.posts ∨
      a.DeletesOwn config p ∧ p.entry.isLive = true ∧
        p.removed a.now ∈ (db.serve config a).board.posts) ∧
      (db.serve config a).board.reportsOn p.entry.id = db.board.reportsOn p.entry.id := by
  rcases board_serve config db a with heq | ⟨endpoint, id?, call, hfind, hpermits, hstep⟩
  · rw [heq]
    exact ⟨.inl hp, rfl⟩
  generalize (db.serve config a).board = b' at hstep ⊢
  -- no other post has the id, so what is done to a post that is not blocked is not done to this one
  have hne {q : Post} (hq : q ∈ db.board.posts) (hfree : q.status ≠ PostStatus.blocked.name) :
      p.entry.id ≠ q.entry.id := by
    intro hid
    rw [Board.eq_of_id hids hp hq hid] at hblocked
    exact hfree hblocked
  cases hpermits with
  | create caller request status =>
      cases hstep with
      | stay => exact ⟨.inl hp, rfl⟩
      | create given id => exact ⟨.inl (Board.mem_addPost.mpr (.inl hp)), rfl⟩
  | update caller request old asks path body mem live own free =>
      cases hstep with
      | stay => exact ⟨.inl hp, rfl⟩
      | update given old' mem' same =>
          have hid : old'.entry.id = old.entry.id := same
          refine ⟨.inl (Board.mem_putPost_of_ne hp ?_), rfl⟩
          rw [Post.id_rewritten, hid]
          exact hne mem free
  | delete caller id old asks path mem same live own =>
      cases hstep with
      | stay => exact ⟨.inl hp, rfl⟩
      | delete id old' mem' same' =>
          refine ⟨?_, rfl⟩
          by_cases hid : p.entry.id = id
          · right
            have hold : p = old := Board.eq_of_id hids hp mem (hid.trans same.symm)
            have hold' : p = old' := Board.eq_of_id hids hp mem' (hid.trans same'.symm)
            subst hold
            subst hold'
            have hmem : (p.removed a.now).entry.id ∈ db.board.ids := Board.mem_ids (p := p) hp
            refine ⟨⟨caller, ⟨id?, hfind, asks, ?_⟩, own⟩, live, Board.mem_putPost_self hmem⟩
            rw [hid]
            exact path
          · left
            refine Board.mem_putPost_of_ne hp ?_
            rw [Post.id_removed, same']
            exact hid
  | file caller request id =>
      cases hstep with
      | stay => exact ⟨.inl hp, rfl⟩
      | file given threshold newId post mem same live published =>
          have hid : p.entry.id ≠ post.entry.id := hne mem (by rw [published]; decide)
          rw [same] at hid
          refine ⟨.inl (Board.mem_recount_of_ne hp hid), ?_⟩
          rw [Board.reportsOn_congr Board.reports_recount]
          exact Board.reportsOn_addReport_of_ne (Ne.symm hid)
  | approve caller id asks moderator =>
      rw [ha.not_moderator asks] at moderator
      cases moderator
  | block caller id asks moderator =>
      rw [ha.not_moderator asks] at moderator
      cases moderator

/-! ## Runs -/

/-- Requests give no id to two posts. -/
theorem nodup_ids_serveAll (config : Config) (hids : db.board.ids.Nodup) (run : List Arrival) :
    (serveAll config db run).board.ids.Nodup :=
  serveAll_induction (P := fun db => db.board.ids.Nodup) (fun _ _ _ h => nodup_ids_serve h) hids

/-- **Over a run without moderators, a blocked post stays as it is unless its author deletes it, and
the reports against it stay what they are.** -/
theorem blocked_serveAll {run : List Arrival} (hids : db.board.ids.Nodup)
    (hrun : ∀ a ∈ run, a.IsOrdinary config) (hp : p ∈ db.board.posts)
    (hblocked : p.status = PostStatus.blocked.name) :
    (p ∈ (serveAll config db run).board.posts ∨
      ∃ before a later, run = before ++ a :: later ∧ a.DeletesOwn config p ∧
        p.entry.isLive = true ∧ p.removed a.now ∈ (serveAll config db run).board.posts) ∧
      (serveAll config db run).board.reportsOn p.entry.id = db.board.reportsOn p.entry.id := by
  induction run generalizing db p with
  | nil => exact ⟨.inl hp, rfl⟩
  | cons a run ih =>
      have ha := hrun a List.mem_cons_self
      have hrun' : ∀ a ∈ run, a.IsOrdinary config := fun a' ha' => hrun a' (List.mem_cons_of_mem a ha')
      have hids' : (db.serve config a).board.ids.Nodup := nodup_ids_serve hids
      obtain ⟨hrow, hreports⟩ := blocked_serve hids ha hp hblocked
      rcases hrow with hp' | ⟨hdeletes, hlive, hp'⟩
      · obtain ⟨hrow, hreports'⟩ := ih hids' hrun' hp' hblocked
        refine ⟨?_, hreports'.trans hreports⟩
        rcases hrow with hp'' | ⟨before, a', later, rfl, h⟩
        · exact .inl hp''
        · exact .inr ⟨a :: before, a', later, rfl, h⟩
      · -- a deleted post is not deleted again
        obtain ⟨hrow, hreports'⟩ := ih hids' hrun' hp' hblocked
        refine ⟨?_, hreports'.trans hreports⟩
        rcases hrow with hp'' | ⟨-, -, -, -, -, hlive', -⟩
        · exact .inr ⟨[], a, run, rfl, hdeletes, hlive, hp''⟩
        · cases hlive'

/-- **In a run of requests without a moderator's, from any database:** a post becomes blocked only by
a report that brings it to the threshold, and only if it was there before; and, as ids are a primary
key, of a blocked post the row and the reports against it stay what they are until the end of the run,
but that its author may delete it. -/
theorem moderation_without_moderators (config : Config) (db : Database) (run : List Arrival)
    (hrun : ∀ a ∈ run, a.IsOrdinary config) :
    (∀ before a later, run = before ++ a :: later →
      ∀ id, (serveAll config db (before ++ [a])).board.IsBlocked id →
        (serveAll config db before).board.IsBlocked id ∨
        a.Reports config id ∧ id ∈ (serveAll config db before).board.ids ∧
          0 < config.reportThreshold ∧
          config.reportThreshold ≤ (serveAll config db (before ++ [a])).board.count id) ∧
    (db.board.ids.Nodup → ∀ before later, run = before ++ later →
      ∀ p ∈ (serveAll config db before).board.posts, p.status = PostStatus.blocked.name →
        p.entry.id ∈ (serveAll config db run).board.ids ∧
        (∀ q ∈ (serveAll config db run).board.posts, q.entry.id = p.entry.id →
          q = p ∨ ∃ between a rest, later = between ++ a :: rest ∧ a.DeletesOwn config p ∧
            p.entry.isLive = true ∧ q = p.removed a.now) ∧
        (serveAll config db run).board.reportsOn p.entry.id =
          (serveAll config db before).board.reportsOn p.entry.id) := by
  constructor
  · rintro before a later rfl id h
    rw [serveAll_append] at h ⊢
    exact newly_blocked_serve (hrun a (by simp)) h
  -- what happens to the row of a blocked post is told once, up to the end of the run; the ids being
  -- distinct, it is the only row with its id
  · rintro hids before later rfl p hp hblocked
    have hids' := nodup_ids_serveAll config hids before
    have hlater : ∀ a ∈ later, a.IsOrdinary config :=
      fun a ha => hrun a (List.mem_append_right before ha)
    have hfinal := nodup_ids_serveAll config hids' later
    obtain ⟨hrow, hreports⟩ := blocked_serveAll hids' hlater hp hblocked
    rw [serveAll_append]
    refine ⟨?_, ?_, hreports⟩
    · rcases hrow with hp' | ⟨-, a, -, -, -, -, hp'⟩
      · exact Board.mem_ids hp'
      · exact Board.mem_ids (p := p.removed a.now) hp'
    · intro q hq hid
      rcases hrow with hp' | ⟨between, a, rest, heq, hdeletes, hlive, hp'⟩
      · exact .inl (Board.eq_of_id hfinal hq hp' hid)
      · exact .inr ⟨between, a, rest, heq, hdeletes, hlive, Board.eq_of_id hfinal hq hp' hid⟩

/-- A post that a moderator has blocked. -/
def barred : List Event := kitten ++ [.call (.blockPost 1) ⟨2, 0⟩]

/-- Somebody who does not say who they are deletes the post, in vain. -/
def inVain : List Arrival := [.anonymous "DELETE" "/api/v1/posts/1" ⟨3, 0⟩]

/-- A blocked post stays as it is, or it is deleted by its author. -/
theorem blocked_stays_in_vain :
    (after barred).board.ids.Nodup ∧ (∀ a ∈ inVain, a.IsOrdinary (.blockingAt 3)) ∧
      ∀ p ∈ (after barred).board.posts, p.status = PostStatus.blocked.name ∧
        ∀ q ∈ (serveAll (.blockingAt 3) (after barred) inVain).board.posts,
          q.entry.id = p.entry.id → q = p ∨
            ∃ between a rest, inVain = between ++ a :: rest ∧ a.DeletesOwn (.blockingAt 3) p ∧
              p.entry.isLive = true ∧ q = p.removed a.now := by
  have hids : (after barred).board.ids.Nodup := by decide +kernel
  have hblocked : ∀ p ∈ (after barred).board.posts, p.status = PostStatus.blocked.name := by
    decide +kernel
  have hrun : ∀ a ∈ inVain, a.IsOrdinary (.blockingAt 3) := by
    intro a ha
    rw [List.mem_singleton.mp ha]
    exact Arrival.isOrdinary_of_header_none rfl _
  obtain ⟨-, h⟩ := moderation_without_moderators (.blockingAt 3) (after barred) inVain hrun
  refine ⟨hids, hrun, fun p hp => ⟨hblocked p hp, ?_⟩⟩
  have hp' : p ∈ (serveAll (.blockingAt 3) (after barred) []).board.posts := by
    rw [serveAll_nil]
    exact hp
  exact (h hids [] inVain rfl p hp' (hblocked p hp)).2.1

end Database

end Fostering
