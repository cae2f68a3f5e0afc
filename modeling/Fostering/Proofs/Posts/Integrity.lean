import Fostering.Proofs.Database.Keys
import Fostering.Proofs.Posts.Requests

/-!
# Boards whose rows fit together

A board is *sound* if its posts have distinct ids and every report is against one of its posts, live
or deleted. The database sees to that itself, whatever is asked of it: ids are a primary key, and a
report refers to its post. Nothing ever takes a post away, so no step of a board can break it.

* `Board.Step.isSound`: what a call of the store makes of a sound board is sound.
-/

namespace Fostering.Board

variable {b b' : Board} {p q : Post} {r : Report} {i : Int} {now : Instant} {call : Store.Call}

/-- The ids of the posts. -/
def ids (b : Board) : List Int := b.posts.map fun p => p.entry.id

/-- Posts have distinct ids, and reports are against posts. -/
structure IsSound (b : Board) : Prop where
  distinct : b.ids.Nodup
  referred : ∀ r ∈ b.reports, r.postId ∈ b.ids

/-- A post has its id on the board. -/
theorem mem_ids (h : p ∈ b.posts) : p.entry.id ∈ b.ids := List.mem_map_of_mem h

/-- No post has the id, so it is not on the board. -/
theorem not_mem_ids (h : ∀ p ∈ b.posts, p.entry.id ≠ i) : i ∉ b.ids := by
  intro hi
  obtain ⟨p, hp, hid⟩ := List.mem_map.mp hi
  exact h p hp hid

/-- The only post with an id. -/
theorem eq_of_id (hids : b.ids.Nodup) (hp : p ∈ b.posts) (hq : q ∈ b.posts)
    (h : p.entry.id = q.entry.id) : p = q :=
  List.inj_on_of_nodup_map hids hp hq h

/-! ## What each change does to the posts -/

/-- A new post comes to those that were there. -/
theorem mem_addPost : q ∈ (b.addPost p).posts ↔ q ∈ b.posts ∨ q = p := by
  simp [addPost]

/-- A post of the changed board is the one that was put there, or one with another id. -/
theorem mem_putPost (h : q ∈ (b.putPost p).posts) :
    q = p ∧ p.entry.id ∈ b.ids ∨ q ∈ b.posts ∧ q.entry.id ≠ p.entry.id := by
  obtain ⟨q', hq', rfl⟩ := List.mem_map.mp h
  by_cases hid : q'.entry.id = p.entry.id
  · rw [if_pos hid, ← hid]
    exact .inl ⟨rfl, mem_ids hq'⟩
  · rw [if_neg hid]
    exact .inr ⟨hq', hid⟩

/-- Posts with another id stay. -/
theorem mem_putPost_of_ne (hq : q ∈ b.posts) (h : q.entry.id ≠ p.entry.id) :
    q ∈ (b.putPost p).posts :=
  List.mem_map.mpr ⟨q, hq, if_neg h⟩

/-- A post that takes the place of another is there. -/
theorem mem_putPost_self (h : p.entry.id ∈ b.ids) : p ∈ (b.putPost p).posts := by
  obtain ⟨q, hq, hid⟩ := List.mem_map.mp h
  exact List.mem_map.mpr ⟨q, hq, if_pos hid⟩

/-- A count changes the post that it is of, and no other. -/
theorem mem_recount {threshold : Int} (h : q ∈ (b.recount i threshold now).posts) :
    ∃ p ∈ b.posts, q.entry.id = p.entry.id ∧
      (p.entry.id = i ∧ q = p.counted (b.count i) threshold now ∨ p.entry.id ≠ i ∧ q = p) := by
  obtain ⟨p, hp, rfl⟩ := List.mem_map.mp h
  refine ⟨p, hp, ?_⟩
  by_cases hid : p.entry.id = i
  · rw [if_pos hid]
    exact ⟨rfl, .inl ⟨hid, rfl⟩⟩
  · rw [if_neg hid]
    exact ⟨rfl, .inr ⟨hid, rfl⟩⟩

/-- Other posts are not counted. -/
theorem mem_recount_of_ne {threshold : Int} (hp : p ∈ b.posts) (h : p.entry.id ≠ i) :
    p ∈ (b.recount i threshold now).posts :=
  List.mem_map.mpr ⟨p, hp, if_neg h⟩

/-- A new post brings its id along. -/
@[simp] theorem ids_addPost : (b.addPost p).ids = b.ids ++ [p.entry.id] := by
  simp [ids, addPost]

/-- A post that takes the place of another has its id. -/
@[simp] theorem ids_putPost : (b.putPost p).ids = b.ids := by
  unfold ids putPost
  rw [List.map_map]
  refine List.map_congr_left fun q _ => ?_
  by_cases hid : q.entry.id = p.entry.id <;> simp [hid]

/-- A count changes no id. -/
@[simp] theorem ids_recount {threshold : Int} : (b.recount i threshold now).ids = b.ids := by
  unfold ids recount
  rw [List.map_map]
  refine List.map_congr_left fun q _ => ?_
  by_cases hid : q.entry.id = i <;> simp [hid]

/-- A report is no post. -/
@[simp] theorem ids_addReport : (b.addReport r).ids = b.ids := rfl

/-- To clear the reports of a post removes no post. -/
@[simp] theorem ids_clear : (b.clear i).ids = b.ids := rfl

/-! ## What each change does to the reports -/

/-- A post is no report. -/
@[simp] theorem reports_addPost : (b.addPost p).reports = b.reports := rfl

@[simp] theorem reports_putPost : (b.putPost p).reports = b.reports := rfl

/-- A count changes no report. -/
@[simp] theorem reports_recount {threshold : Int} :
    (b.recount i threshold now).reports = b.reports := rfl

/-- A new report comes last. -/
@[simp] theorem reports_addReport : (b.addReport r).reports = b.reports ++ [r] := rfl

/-- A report changes no post by itself. -/
@[simp] theorem posts_addReport : (b.addReport r).posts = b.posts := rfl

/-- To clear reports changes no post by itself. -/
@[simp] theorem posts_clear : (b.clear i).posts = b.posts := rfl

/-- The reports on posts are seen from the reports alone. -/
theorem reportsOn_congr (h : b'.reports = b.reports) : b'.reportsOn = b.reportsOn := by
  funext i
  rw [reportsOn, reportsOn, h]

theorem count_congr (h : b'.reports = b.reports) : b'.count = b.count := by
  funext i
  rw [count, count, reportsOn_congr h]

/-- A report is on one post only. -/
theorem reportsOn_addReport_of_ne (h : r.postId ≠ i) : (b.addReport r).reportsOn i = b.reportsOn i := by
  simp [reportsOn, h]

/-- A report counts for one post only. -/
theorem count_addReport_of_ne (h : r.postId ≠ i) : (b.addReport r).count i = b.count i := by
  rw [count, count, reportsOn_addReport_of_ne h]

/-- A report counts on its own post only. -/
theorem count_file_of_ne {given : Report} {newId threshold : Int} (h : i ≠ given.postId) :
    ((b.addReport (given.opened newId)).recount given.postId threshold now).count i = b.count i := by
  have hne : (given.opened newId).postId ≠ i := Ne.symm h
  rw [count_congr reports_recount, count_addReport_of_ne hne]

/-- A new report lowers no count. -/
theorem count_le_addReport : b.count i ≤ (b.addReport r).count i := by
  unfold count reportsOn addReport
  rw [List.filter_append, List.length_append]
  omega

/-- To clear the reports of a post leaves those on others. -/
theorem reportsOn_clear_of_ne {j : Int} (h : j ≠ i) : (b.clear i).reportsOn j = b.reportsOn j := by
  unfold reportsOn clear
  rw [List.filter_filter]
  refine List.filter_congr fun r _ => ?_
  by_cases hr : r.postId = j <;> simp [hr, h]

/-- To clear the reports of a post leaves the counts of others. -/
theorem count_clear_of_ne {j : Int} (h : j ≠ i) : (b.clear i).count j = b.count j := by
  rw [count, count, reportsOn_clear_of_ne h]

/-- A post whose reports are cleared has none. -/
@[simp] theorem count_clear : (b.clear i).count i = 0 := by
  simp [count, reportsOn, clear]

/-- There are no fewer than no reports. -/
theorem count_nonneg : 0 ≤ b.count i := Int.natCast_nonneg _

/-- Reports against a post never become fewer, but by its approval they all disappear. -/
theorem Step.count_le (hstep : Step now b call b') :
    b.count i ≤ b'.count i ∨ call = .approvePost i ∧ b'.count i = 0 := by
  cases hstep with
  | stay => exact .inl (Int.le_refl _)
  | create | update | delete | block => exact .inl (Int.le_refl _)
  | file given threshold id =>
      rw [count_congr reports_recount]
      exact .inl count_le_addReport
  | approve id old mem same =>
      rw [count_congr reports_putPost]
      by_cases hid : i = id
      · rw [hid, count_clear]
        exact .inr ⟨rfl, rfl⟩
      · rw [count_clear_of_ne hid]
        exact .inl (Int.le_refl _)

/-- Whether there are reports against a post. -/
theorem count_pos_iff : 0 < b.count i ↔ ∃ r ∈ b.reports, r.postId = i := by
  unfold count reportsOn
  rw [Int.natCast_pos, List.length_pos_iff_exists_mem]
  simp

/-- On a sound board there are no reports against a post that does not exist. -/
theorem IsSound.count_eq_zero (h : b.IsSound) (hi : i ∉ b.ids) : b.count i = 0 := by
  have hnot : ¬0 < b.count i := by
    rw [count_pos_iff]
    rintro ⟨r, hr, rfl⟩
    exact hi (h.referred r hr)
  have hnonneg := b.count_nonneg (i := i)
  omega

/-! ## Every step keeps a board sound -/

/-- The ids stay distinct, whatever is known of the reports. -/
theorem Step.nodup_ids (hstep : Step now b call b') (h : b.ids.Nodup) : b'.ids.Nodup := by
  cases hstep with
  | stay => exact h
  | create given id unused =>
      rw [ids_addPost, List.nodup_append]
      refine ⟨h, List.nodup_singleton _, ?_⟩
      intro i hi j hj
      rw [List.mem_singleton.mp hj]
      rintro rfl
      exact not_mem_ids unused hi
  | update | delete | block => rwa [ids_putPost]
  | file => rwa [ids_recount, ids_addReport]
  | approve => rwa [ids_putPost, ids_clear]

/-- **What a call of the store makes of a sound board is sound.** -/
theorem Step.isSound (hstep : Step now b call b') (h : b.IsSound) : b'.IsSound := by
  refine ⟨hstep.nodup_ids h.distinct, ?_⟩
  cases hstep with
  | stay => exact h.referred
  | create given id unused =>
      intro r hr
      rw [ids_addPost]
      exact List.mem_append_left _ (h.referred r hr)
  | update | delete | block =>
      rw [ids_putPost]
      exact h.referred
  | file given threshold id post mem same =>
      intro r hr
      rw [ids_recount, ids_addReport]
      rw [reports_recount, reports_addReport] at hr
      rcases List.mem_append.mp hr with hr | hr
      · exact h.referred r hr
      · rw [List.mem_singleton.mp hr, Report.postId_opened, ← same]
        exact mem_ids mem
  | approve =>
      intro r hr
      rw [ids_putPost, ids_clear]
      exact h.referred r (List.mem_of_mem_filter hr)

end Fostering.Board

namespace Fostering.Database

variable {config : Config} {a : Arrival}

/-- No request gives an id to two posts. -/
theorem nodup_ids_serve {db : Database} (h : db.board.ids.Nodup) :
    (db.serve config a).board.ids.Nodup := by
  obtain ⟨call, hstep⟩ := exists_step_serve config db a
  exact hstep.nodup_ids h

/-- Requests keep the board sound. -/
theorem isSound_serve {db : Database} (h : db.board.IsSound) :
    (db.serve config a).board.IsSound := by
  obtain ⟨call, hstep⟩ := exists_step_serve config db a
  exact hstep.isSound h

/-- No two posts share an id, whatever happens. -/
theorem nodup_ids_after (events : List Event) : (after events).board.ids.Nodup :=
  board_after_induction (P := fun b => b.ids.Nodup) List.nodup_nil Board.Step.nodup_ids events

/-- An empty board is sound. -/
theorem isSound_empty : (({} : Database).board).IsSound :=
  ⟨List.nodup_nil, fun _ hr => absurd hr List.not_mem_nil⟩

/-- A live post is the one that its id finds. -/
theorem find_of_mem {db : Database} (h : db.board.ids.Nodup) {p : Post} (hp : p ∈ db.board.posts)
    (hlive : p.entry.isLive = true) (now : Instant) :
    (find Post p.entry.id).exec now db = (.ok p, db) :=
  find_of_nodup h hp hlive now

end Fostering.Database
