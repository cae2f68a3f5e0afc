import Fostering.Proofs.Posts.Integrity

/-!
# The statuses of posts

Every post has one of the four statuses, in every database that came about. Which calls take a post
out of the status that moderation gives it is a question of single steps:

* `Board.Step.isBlocked`: a blocked post stays blocked, but by its approval, or by a call that
  writes it.
* `Board.Step.live_of_live`: no call brings a deleted post back.
-/

namespace Fostering

namespace Board

variable {b b' : Board} {i : Int} {now : Instant} {call : Store.Call}

/-- Every post has a status. -/
def IsNamed (b : Board) : Prop := ∀ p ∈ b.posts, (PostStatus.ofName? p.status).isSome = true

/-- A post with the name of a status may take the place of another. -/
theorem IsNamed.putPost {p : Post} (h : b.IsNamed)
    (hp : (PostStatus.ofName? p.status).isSome = true) : (b.putPost p).IsNamed := by
  intro q hq
  rcases mem_putPost hq with ⟨rfl, -⟩ | ⟨hq, -⟩
  · exact hp
  · exact h q hq

/-- Every step leaves every post with a status. -/
theorem Step.isNamed (hstep : Step now b call b') (h : b.IsNamed) : b'.IsNamed := by
  have hname (s : PostStatus) : (PostStatus.ofName? s.name).isSome = true := by
    rw [PostStatus.ofName?_name]
    rfl
  cases hstep with
  | stay => exact h
  | create given id unused named =>
      intro q hq
      rcases mem_addPost.mp hq with hq | rfl
      · exact h q hq
      · exact named
  | update given old mem same live named => exact h.putPost (p := old.rewritten given now) named
  | delete id old mem => exact h.putPost (p := old.removed now) (h old mem)
  | file given threshold id post =>
      intro q hq
      obtain ⟨p, hp, -, ⟨-, rfl⟩ | ⟨-, rfl⟩⟩ := mem_recount hq
      · exact hname _
      · exact h q hp
  | approve id old => exact IsNamed.putPost (b := b.clear id) h (hname .published)
  | block id old => exact h.putPost (p := old.barred now) (hname .blocked)

/-- The post with an id is blocked. -/
def IsBlocked (b : Board) (id : Int) : Prop :=
  ∃ p ∈ b.posts, p.entry.id = id ∧ p.status = PostStatus.blocked.name

instance (b : Board) (id : Int) : Decidable (b.IsBlocked id) :=
  inferInstanceAs (Decidable (∃ p ∈ b.posts, p.entry.id = id ∧ p.status = PostStatus.blocked.name))

/-- No post with the id of a blocked one has another status. -/
theorem IsBlocked.status_eq (h : b.IsBlocked i) (hids : b.ids.Nodup) {p : Post} (hp : p ∈ b.posts)
    (hid : p.entry.id = i) : p.status = PostStatus.blocked.name := by
  obtain ⟨q, hq, hqid, hblocked⟩ := h
  rw [eq_of_id hids hp hq (hid.trans hqid.symm)]
  exact hblocked

/-- A blocked post stays blocked if what takes its place is blocked. -/
theorem IsBlocked.putPost {p : Post} (h : b.IsBlocked i)
    (hp : p.entry.id = i → p.status = PostStatus.blocked.name) : (b.putPost p).IsBlocked i := by
  obtain ⟨q, hq, hid, hblocked⟩ := h
  by_cases heq : q.entry.id = p.entry.id
  · have hmem : p.entry.id ∈ b.ids := heq ▸ mem_ids hq
    exact ⟨p, mem_putPost_self hmem, heq.symm.trans hid, hp (heq.symm.trans hid)⟩
  · exact ⟨q, mem_putPost_of_ne hq heq, hid, hblocked⟩

/-- **A blocked post stays blocked, but by its approval, or by a call that writes it.** -/
theorem Step.isBlocked (hstep : Step now b call b') (hids : b.ids.Nodup) (h : b.IsBlocked i)
    (happrove : call ≠ .approvePost i)
    (hwrite : ∀ given, call = .post (.update given) → given.entry.id ≠ i) : b'.IsBlocked i := by
  cases hstep with
  | stay => exact h
  | create given id =>
      obtain ⟨p, hp, hid, hblocked⟩ := h
      exact ⟨p, mem_addPost.mpr (.inl hp), hid, hblocked⟩
  | update given old mem same =>
      refine h.putPost fun hid => ?_
      rw [Post.id_rewritten, same] at hid
      exact absurd hid (hwrite given rfl)
  | delete id old mem =>
      exact h.putPost (p := old.removed now) fun hid => h.status_eq (p := old) hids mem hid
  | file given threshold id post mem same live published =>
      obtain ⟨p, hp, hid, hblocked⟩ := h
      -- only published posts are reported
      have hne : p.entry.id ≠ given.postId := by
        intro heq
        rw [eq_of_id hids hp mem (heq.trans same.symm), published] at hblocked
        exact absurd hblocked (by decide)
      exact ⟨p, mem_recount_of_ne hp hne, hid, hblocked⟩
  | approve id old mem same =>
      refine IsBlocked.putPost (b := b.clear id) h fun hid => ?_
      rw [Post.id_approved, same] at hid
      rw [hid] at happrove
      exact absurd rfl happrove
  | block id old => exact h.putPost fun _ => rfl

/-- No step brings a post back to life. -/
theorem Step.live_of_live (hstep : Step now b call b') (hi : i ∈ b.ids)
    (h : ∃ p ∈ b'.posts, p.entry.id = i ∧ p.entry.isLive = true) :
    ∃ p ∈ b.posts, p.entry.id = i ∧ p.entry.isLive = true := by
  obtain ⟨q, hq, hid, hlive⟩ := h
  have hput {p old : Post} (hq : q ∈ (b.putPost p).posts) (hmem : old ∈ b.posts)
      (hsame : p.entry.id = old.entry.id) (hold : old.entry.isLive = true) :
      ∃ p ∈ b.posts, p.entry.id = i ∧ p.entry.isLive = true := by
    rcases mem_putPost hq with ⟨rfl, -⟩ | ⟨hq, -⟩
    · exact ⟨old, hmem, hsame.symm.trans hid, hold⟩
    · exact ⟨q, hq, hid, hlive⟩
  cases hstep with
  | stay => exact ⟨q, hq, hid, hlive⟩
  | create given id unused =>
      rcases mem_addPost.mp hq with hq | rfl
      · exact ⟨q, hq, hid, hlive⟩
      · obtain ⟨p, hp, hpid⟩ := List.mem_map.mp hi
        exact absurd (hpid.trans hid.symm) (unused p hp)
  | update given old mem same live => exact hput hq mem rfl live
  | delete id old mem same live => exact hput hq mem rfl live
  | block id old mem same live => exact hput hq mem rfl live
  | approve id old mem same live => exact hput hq mem rfl live
  | file given threshold id post mem same live =>
      obtain ⟨p, hp, hpid, ⟨-, rfl⟩ | ⟨-, rfl⟩⟩ := mem_recount hq
      · exact ⟨p, hp, hpid.symm.trans hid, hlive⟩
      · exact ⟨q, hp, hid, hlive⟩

end Board

namespace Database

/-- Every post has a status, however a database came about. -/
theorem isNamed_after (events : List Event) : (after events).board.IsNamed :=
  board_after_induction (P := Board.IsNamed) (fun _ hp => absurd hp List.not_mem_nil)
    Board.Step.isNamed events

end Database

end Fostering
