import Fostering.Proofs.Listing.Order
import Fostering.Proofs.Listing.Pages
import Fostering.Proofs.Posts.Integrity

/-!
# The number of reports on a post

A post carries the number of the reports against it, which are rows of another table. The number is
right in every database that comes of the empty one, whatever was asked of it (`isCounted_after`):
reporting counts anew, approving clears the reports and the number together, and nothing else touches
either.

So the queue of moderation, which goes by the numbers, shows exactly the live posts with reports
(`isQueue_queue`), and a post can be approved exactly if it is blocked or has reports
(`approvePost_ok_iff`).
-/

namespace Fostering

namespace Board

variable {b b' : Board} {p : Post} {i : Int} {now : Instant} {call : Store.Call}

/-- Every post carries the number of the reports against it. -/
structure IsCounted (b : Board) : Prop extends IsSound b where
  counted : ∀ p ∈ b.posts, p.reportsCount = reportsColumn (b.count p.entry.id)

/-- Putting a post with the right number in its place keeps all numbers right. -/
theorem counted_putPost {p : Post} (h : ∀ q ∈ b.posts, q.entry.id ≠ p.entry.id →
      q.reportsCount = reportsColumn (b.count q.entry.id))
    (hp : p.reportsCount = reportsColumn (b.count p.entry.id)) :
    ∀ q ∈ (b.putPost p).posts, q.reportsCount = reportsColumn ((b.putPost p).count q.entry.id) := by
  intro q hq
  rw [count_congr (b := b) reports_putPost]
  rcases mem_putPost hq with ⟨rfl, -⟩ | ⟨hq, hne⟩
  · exact hp
  · exact h q hq hne

/-- **Every step keeps the numbers right.** -/
theorem Step.isCounted (hstep : Step now b call b') (h : b.IsCounted) : b'.IsCounted := by
  refine ⟨hstep.isSound h.toIsSound, ?_⟩
  have hcounted := h.counted
  cases hstep with
  | stay => exact hcounted
  | create given id unused =>
      intro q hq
      rw [count_congr (b := b) reports_addPost]
      rcases mem_addPost.mp hq with hq | rfl
      · exact hcounted q hq
      · -- no report can be against a post that is only being made
        have hid : id ∉ b.ids := not_mem_ids unused
        rw [Post.id_opened, h.count_eq_zero hid, reportsColumn_zero]
        rfl
  | update given old mem => exact counted_putPost (fun q hq _ => hcounted q hq) (hcounted old mem)
  | delete id old mem => exact counted_putPost (fun q hq _ => hcounted q hq) (hcounted old mem)
  | block id old mem => exact counted_putPost (fun q hq _ => hcounted q hq) (hcounted old mem)
  | file given threshold id post mem same =>
      intro q hq
      obtain ⟨p, hp, -, ⟨hpid, rfl⟩ | ⟨hpid, rfl⟩⟩ := mem_recount hq
      · rw [Post.id_counted, Post.reportsCount_counted, hpid, count_congr reports_recount]
      · rw [count_file_of_ne hpid]
        exact hcounted q hp
  | approve id old mem same =>
      refine counted_putPost ?_ ?_
      · intro q hq hne
        rw [Post.id_approved, same] at hne
        rw [count_clear_of_ne hne]
        exact hcounted q hq
      · rw [Post.id_approved, same, count_clear, reportsColumn_zero]
        rfl

end Board

namespace Database

/-- **The numbers are always right.** -/
theorem isCounted_after (events : List Event) : (after events).board.IsCounted :=
  board_after_induction (P := Board.IsCounted)
    ⟨isSound_empty, fun _ hp => absurd hp List.not_mem_nil⟩ Board.Step.isCounted events

/-! ## What goes by the numbers -/

/-- The live posts with a number of reports, those with the most first. -/
def queue (db : Database) : List Post :=
  sortRows .desc (fun p : Post => .int p.reportsCount) HasEntry.id <|
    db.tables.posts.filter fun p => p.entry.isLive && 0 < p.reportsCount

/-- A page of the queue is cut out of the whole. -/
theorem exec_moderationQueue (page : Page) (now : Instant) (db : Database) :
    (moderationQueue page).exec now db = (.ok (page.slice db.queue), db) := rfl

end Database

namespace Board

variable {b : Board} {p : Post}

/-- While there are not too many reports, the number on a post is what there are. -/
theorem IsCounted.reportsCount_eq (h : b.IsCounted) (hp : p ∈ b.posts)
    (hlt : b.count p.entry.id < 2 ^ 31) : p.reportsCount = b.count p.entry.id := by
  rw [h.counted p hp]
  exact reportsColumn_eq count_nonneg hlt

/-- The queue of moderation: the live posts with reports, those with the most reports first, and of
two with as many the later one first. -/
structure IsQueue (b : Board) (queue : List Post) : Prop where
  mem_iff : ∀ p, p ∈ queue ↔
    p ∈ b.posts ∧ p.entry.isLive = true ∧ ∃ r ∈ b.reports, r.postId = p.entry.id
  ordered : queue.Pairwise fun p q =>
    b.count q.entry.id < b.count p.entry.id ∨
      b.count q.entry.id = b.count p.entry.id ∧ q.entry.id < p.entry.id

end Board

namespace Database

variable {db : Database}

/-- The queue holds the live posts with reports. -/
theorem mem_queue {p : Post} :
    p ∈ db.queue ↔ p ∈ db.board.posts ∧ p.entry.isLive = true ∧ 0 < p.reportsCount := by
  rw [queue, mem_sortRows, List.mem_filter, Bool.and_eq_true, decide_eq_true_eq]
  rfl

/-- **The queue that goes by the numbers is the queue of the posts with reports.** -/
theorem isQueue_queue (h : db.board.IsCounted)
    (hlt : ∀ p ∈ db.board.posts, p.entry.isLive = true → db.board.count p.entry.id < 2 ^ 31) :
    db.board.IsQueue db.queue := by
  have hcount {p : Post} (hp : p ∈ db.queue) : p.reportsCount = db.board.count p.entry.id := by
    obtain ⟨hmem, hlive, -⟩ := mem_queue.mp hp
    exact h.reportsCount_eq hmem (hlt p hmem hlive)
  constructor
  · intro p
    rw [mem_queue, ← Board.count_pos_iff]
    refine and_congr_right fun hmem => and_congr_right fun hlive => ?_
    rw [h.reportsCount_eq hmem (hlt p hmem hlive)]
  · have hsorted := pairwise_sortRows .desc (fun p : Post => .int p.reportsCount) HasEntry.id
      (db.tables.posts.filter fun p => p.entry.isLive && 0 < p.reportsCount)
    have hnodup : (db.queue.map fun p => p.entry.id).Nodup := by
      have hperm := (perm_sortRows .desc (fun p : Post => .int p.reportsCount) HasEntry.id
        (db.tables.posts.filter fun p => p.entry.isLive && 0 < p.reportsCount)).map
          fun p => p.entry.id
      exact hperm.nodup_iff.mpr ((List.filter_sublist.map _).nodup h.distinct)
    refine (hsorted.and (List.pairwise_map.mp hnodup)).imp_of_mem ?_
    intro p q hp hq ⟨hle, hne⟩
    have hle' : q.reportsCount < p.reportsCount ∨
        q.reportsCount = p.reportsCount ∧ q.entry.id ≤ p.entry.id := SortKey.leWithId_int.mp hle
    rw [hcount hp, hcount hq] at hle'
    omega

/-- **A live post can be approved exactly if it is blocked or has reports.** -/
theorem approvePost_ok_iff (h : db.board.IsCounted) {p : Post} (hp : p ∈ db.board.posts)
    (hlive : p.entry.isLive = true) (hlt : db.board.count p.entry.id < 2 ^ 31) (now : Instant) :
    (∃ q db', (approvePost p.entry.id).exec now db = (.ok q, db')) ↔
      p.status = PostStatus.blocked.name ∨ ∃ r ∈ db.board.reports, r.postId = p.entry.id := by
  have hfind := find_of_mem h.distinct hp hlive now
  have hcount : p.reportsCount ≠ 0 ↔ ∃ r ∈ db.board.reports, r.postId = p.entry.id := by
    have hnonneg := db.board.count_nonneg (i := p.entry.id)
    rw [← Board.count_pos_iff, h.reportsCount_eq hp hlt]
    omega
  rw [← hcount]
  constructor
  · rintro ⟨q, db', hok⟩
    by_contra hdue
    obtain ⟨cause, db'', herror, -⟩ := isRefused_approvePost now db hfind hdue
    rw [hok] at herror
    cases herror
  · intro hdue
    exact ⟨_, _, approvePost_of_due now db hfind hdue⟩

/-- **However a database came about, the numbers on its posts are right, the queue of moderation
shows the posts with reports page by page, and what can be approved is what there are reports
against or what is blocked.** -/
theorem report_numbers_after (events : List Event) :
    (∀ p ∈ (after events).board.posts, (after events).board.count p.entry.id < 2 ^ 31 →
      p.reportsCount = (after events).board.count p.entry.id) ∧
    ((∀ p ∈ (after events).board.posts, p.entry.isLive = true →
        (after events).board.count p.entry.id < 2 ^ 31) →
      ∃ queue, (after events).board.IsQueue queue ∧
        (∀ page now, (Store.Moderation.queue page : Op Database (List Post)).exec now (after events) =
          (.ok (page.slice queue), after events)) ∧
        ∀ limit, 1 ≤ limit → ∀ n : Nat, queue.length ≤ n * limit.toNat →
          (List.range n).flatMap (fun k => (Page.nth limit k).slice queue) = queue) ∧
    ∀ p ∈ (after events).board.posts, p.entry.isLive = true →
      (after events).board.count p.entry.id < 2 ^ 31 → ∀ now,
        ((∃ q db', (Store.Moderation.approve p.entry.id : Op Database Post).exec now (after events) =
            (.ok q, db')) ↔
          p.status = PostStatus.blocked.name ∨
            ∃ r ∈ (after events).board.reports, r.postId = p.entry.id) := by
  have h := isCounted_after events
  refine ⟨fun p hp hlt => h.reportsCount_eq hp hlt, fun hlt => ?_, fun p hp hlive hlt now => ?_⟩
  · refine ⟨(after events).queue, isQueue_queue h hlt, fun page now => ?_, fun limit hlimit n hn => ?_⟩
    · exact exec_moderationQueue page now (after events)
    · exact Page.flatMap_slice_nth hlimit _ hn
  · exact approvePost_ok_iff h hp hlive hlt now

/-- A post that somebody has reported. -/
def reported : List Event :=
  kitten ++ [.call (.fileReport { postId := 1, reporterId := 2, reason := "Spam" } 5) ⟨2, 0⟩]

/-- The post carries its one report, and it is what the queue shows. -/
theorem report_numbers_reported :
    (∀ p ∈ (after reported).board.posts, (after reported).board.count p.entry.id = 1) ∧
      (∀ p ∈ (after reported).board.posts, p.reportsCount = 1) ∧
      ∃ queue, (after reported).board.IsQueue queue := by
  have hcount : ∀ p ∈ (after reported).board.posts, (after reported).board.count p.entry.id = 1 := by
    decide +kernel
  have hlt : ∀ p ∈ (after reported).board.posts, (after reported).board.count p.entry.id < 2 ^ 31 := by
    intro p hp
    rw [hcount p hp]
    decide
  obtain ⟨hnumbers, hqueue, -⟩ := report_numbers_after reported
  refine ⟨hcount, ?_, ?_⟩
  · intro p hp
    rw [hnumbers p hp (hlt p hp), hcount p hp]
  · obtain ⟨queue, h, -⟩ := hqueue fun p hp _ => hlt p hp
    exact ⟨queue, h⟩

end Database

end Fostering
