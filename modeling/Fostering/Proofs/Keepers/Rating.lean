import Mathlib.Algebra.Ring.Int.Defs
import Fostering.Proofs.Database.Invariants
import Fostering.Proofs.Decimal.Average
import Fostering.Proofs.Keepers.Gradebook

/-!
# Ratings

A keeper carries the average of the grades in the live reviews, which are rows of another table. The
rating is right in every database that comes of the empty one, whatever was asked of it
(`isRated_after`), for a keeper who has been deleted as for any other: every change of a review works
it out anew, and nothing else touches it.

So a rating depends only on which live grades there are, and it is zero or lies between one and five
(`ratings_after`).
-/

namespace Fostering

namespace Gradebook

variable {b b' : Gradebook} {now : Instant} {call : Store.Call}

/-- Every keeper carries the average of the live grades. -/
structure IsRated (b : Gradebook) : Prop where
  /-- No two reviews have the same id. -/
  distinct : ∀ r ∈ b.reviews, ∀ s ∈ b.reviews, r.entry.id = s.entry.id → r = s
  graded : ∀ r ∈ b.reviews, 1 ≤ r.grade ∧ r.grade ≤ 5
  /-- Every review is of some keeper. -/
  known : ∀ r ∈ b.reviews, ∃ k ∈ b.keepers, k.entry.id = r.keeperId
  rated : ∀ k ∈ b.keepers, k.rating = averageGrade (b.grades k.entry.id)

/-! ## Rows of a gradebook -/

section

variable {k l : Keeper} {r s : Review} {id : Int}

/-- A new keeper comes to those who were there. -/
theorem mem_addKeeper : l ∈ (b.addKeeper k).keepers ↔ l ∈ b.keepers ∨ l = k := by
  simp [addKeeper]

/-- A keeper who takes the place of another is the only one who may be new. -/
theorem mem_putKeeper (h : l ∈ (b.putKeeper k).keepers) : l = k ∨ l ∈ b.keepers := by
  obtain ⟨l', hl', rfl⟩ := List.mem_map.mp h
  split_ifs
  · exact .inl rfl
  · exact .inr hl'

/-- A keeper who takes the place of another has the same id, and all others stay. -/
theorem exists_mem_putKeeper (hl : l ∈ b.keepers) :
    ∃ l' ∈ (b.putKeeper k).keepers, l'.entry.id = l.entry.id := by
  refine ⟨_, List.mem_map_of_mem hl, ?_⟩
  split_ifs with hid
  · exact hid.symm
  · rfl

/-- A new review comes to those that were there. -/
theorem mem_addReview : s ∈ (b.addReview r).reviews ↔ s ∈ b.reviews ∨ s = r := by
  simp [addReview]

/-- A review that takes the place of another is the only one that may be new. -/
theorem mem_putReview (h : s ∈ (b.putReview r).reviews) :
    s = r ∨ s ∈ b.reviews ∧ s.entry.id ≠ r.entry.id := by
  obtain ⟨s', hs', rfl⟩ := List.mem_map.mp h
  split_ifs with hid
  · exact .inl rfl
  · exact .inr ⟨hs', hid⟩

/-- To put a keeper in place changes no review. -/
@[simp] theorem reviews_putKeeper : (b.putKeeper k).reviews = b.reviews := rfl

/-- To rate a keeper changes no review. -/
@[simp] theorem reviews_rate : (b.rate id now).reviews = b.reviews := rfl

/-- A review is no keeper. -/
@[simp] theorem keepers_addReview : (b.addReview r).keepers = b.keepers := rfl

@[simp] theorem keepers_putReview : (b.putReview r).keepers = b.keepers := rfl

/-- A keeper who is rated keeps the id. -/
theorem exists_mem_rate (hl : l ∈ b.keepers) :
    ∃ l' ∈ (b.rate id now).keepers, l'.entry.id = l.entry.id := by
  refine ⟨_, List.mem_map_of_mem hl, ?_⟩
  split_ifs
  · rfl
  · rfl

/-- Grades depend on the reviews only. -/
theorem grades_congr (h : b'.reviews = b.reviews) : b'.grades id = b.grades id := by
  unfold grades
  rw [h]

/-- A new review of a keeper adds nothing to the grades of another. -/
theorem grades_addReview (h : r.keeperId ≠ id) : (b.addReview r).grades id = b.grades id := by
  simp [grades, addReview, List.filter_append, h]

/-- A change of a review of a keeper changes nothing in the grades of another. -/
theorem grades_putReview {old : Review} (hdistinct : ∀ s ∈ b.reviews, s.entry.id = r.entry.id → s = old)
    (hkeeper : r.keeperId = old.keeperId) (h : old.keeperId ≠ id) :
    (b.putReview r).grades id = b.grades id := by
  let isMine (s : Review) : Bool := s.keeperId = id && s.entry.isLive
  let put (s : Review) : Review := if s.entry.id = r.entry.id then r else s
  have hput (s : Review) (hs : s ∈ b.reviews) (hmine : isMine s = true) : put s = s := by
    simp only [isMine, Bool.and_eq_true, decide_eq_true_eq] at hmine
    have hid : s.entry.id ≠ r.entry.id := fun hid => h (hdistinct s hs hid ▸ hmine.1)
    exact if_neg hid
  have hfilter : b.reviews.filter (isMine ∘ put) = b.reviews.filter isMine := by
    refine List.filter_congr fun s hs => ?_
    by_cases hid : s.entry.id = r.entry.id
    · -- the review is of another keeper, before and after
      have hs' : isMine s = false := by simp [isMine, hdistinct s hs hid, h]
      have hr : isMine (put s) = false := by simp [isMine, put, hid, hkeeper, h]
      rw [Function.comp_apply, hr, hs']
    · rw [Function.comp_apply]
      simp only [put, if_neg hid]
  change ((b.reviews.map put).filter isMine).map Review.grade =
    (b.reviews.filter isMine).map Review.grade
  rw [List.filter_map, hfilter, List.map_map]
  refine List.map_congr_left fun s hs => ?_
  obtain ⟨hs, hmine⟩ := List.mem_filter.mp hs
  rw [Function.comp_apply, hput s hs hmine]

/-- A change of a review that leaves its keeper, its grade and whether it is live as they are changes no
grades. -/
theorem grades_putReview_of_same (h : ∀ s ∈ b.reviews, s.entry.id = r.entry.id →
      s.keeperId = r.keeperId ∧ s.grade = r.grade ∧ s.entry.isLive = r.entry.isLive) :
    (b.putReview r).grades id = b.grades id := by
  let isMine (s : Review) : Bool := s.keeperId = id && s.entry.isLive
  let put (s : Review) : Review := if s.entry.id = r.entry.id then r else s
  have hput (s : Review) (hs : s ∈ b.reviews) : isMine (put s) = isMine s ∧ (put s).grade = s.grade := by
    by_cases hid : s.entry.id = r.entry.id
    · obtain ⟨hkeeper, hgrade, hlive⟩ := h s hs hid
      simp only [isMine, put, if_pos hid, hkeeper, hgrade, hlive, and_self]
    · simp only [put, if_neg hid, and_self]
  have hfilter : b.reviews.filter (isMine ∘ put) = b.reviews.filter isMine :=
    List.filter_congr fun s hs => (hput s hs).1
  change ((b.reviews.map put).filter isMine).map Review.grade =
    (b.reviews.filter isMine).map Review.grade
  rw [List.filter_map, hfilter, List.map_map]
  exact List.map_congr_left fun s hs => (hput s (List.mem_filter.mp hs).1).2

end

/-! ## Steps -/

/-- After the rating of one keeper has been worked out anew, all ratings are right if those of the
others were. -/
theorem rated_rate {id : Int} (h : ∀ k ∈ b.keepers, k.entry.id ≠ id →
      k.rating = averageGrade (b.grades k.entry.id)) :
    ∀ k ∈ (b.rate id now).keepers, k.rating = averageGrade ((b.rate id now).grades k.entry.id) := by
  intro k hk
  obtain ⟨l, hl, rfl⟩ := List.mem_map.mp hk
  rw [grades_congr (b := b) reviews_rate]
  split_ifs with hid
  · change averageGrade (b.grades id) = averageGrade (b.grades l.entry.id)
    rw [hid]
  · exact h l hl hid

/-- A review that is put in the place of another of the same keeper. -/
theorem IsRated.rate_putReview (h : b.IsRated) {new old : Review} (hold : old ∈ b.reviews)
    (hid : new.entry.id = old.entry.id) (hkeeper : new.keeperId = old.keeperId)
    (hgraded : 1 ≤ new.grade ∧ new.grade ≤ 5) :
    ((b.putReview new).rate old.keeperId now).IsRated := by
  -- the row that is replaced is the only one with its id
  have hdistinct (s : Review) (hs : s ∈ b.reviews) (hsame : s.entry.id = new.entry.id) : s = old :=
    h.distinct s hs old hold (hsame.trans hid)
  constructor
  · intro r hr s hs hsame
    rcases mem_putReview hr with rfl | ⟨hr, hne⟩
    · rcases mem_putReview hs with rfl | ⟨-, hne⟩
      · rfl
      · exact absurd hsame.symm hne
    · rcases mem_putReview hs with rfl | ⟨hs, -⟩
      · exact absurd hsame hne
      · exact h.distinct r hr s hs hsame
  · intro r hr
    rcases mem_putReview hr with rfl | ⟨hr, -⟩
    · exact hgraded
    · exact h.graded r hr
  · intro r hr
    have hknown : ∃ k ∈ b.keepers, k.entry.id = r.keeperId := by
      rcases mem_putReview hr with rfl | ⟨hr, -⟩
      · rw [hkeeper]
        exact h.known old hold
      · exact h.known r hr
    obtain ⟨k, hk, hkid⟩ := hknown
    have hkept : ∃ l ∈ ((b.putReview new).rate old.keeperId now).keepers, l.entry.id = k.entry.id :=
      exists_mem_rate hk
    obtain ⟨l, hl, hlid⟩ := hkept
    exact ⟨l, hl, hlid.trans hkid⟩
  · refine rated_rate fun k hk hne => ?_
    rw [grades_putReview hdistinct hkeeper (Ne.symm hne)]
    exact h.rated k hk

/-- A keeper who is put in the place of another with the same rating. -/
theorem IsRated.putKeeper (h : b.IsRated) {new old : Keeper} (hold : old ∈ b.keepers)
    (hid : new.entry.id = old.entry.id) (hrating : new.rating = old.rating) :
    (b.putKeeper new).IsRated := by
  refine ⟨h.distinct, h.graded, ?_, ?_⟩
  · intro r hr
    obtain ⟨k, hk, hkid⟩ := h.known r hr
    obtain ⟨k', hk', hkid'⟩ := exists_mem_putKeeper (k := new) hk
    exact ⟨k', hk', hkid'.trans hkid⟩
  · intro k hk
    rw [grades_congr (b := b) reviews_putKeeper]
    rcases mem_putKeeper hk with rfl | hk
    · rw [hrating, hid]
      exact h.rated old hold
    · exact h.rated k hk

/-- **Every step keeps the ratings right.** -/
theorem Step.isRated (hstep : Step now b call b') (h : b.IsRated) : b'.IsRated := by
  cases hstep with
  | stay => exact h
  | createKeeper given id unused =>
      refine ⟨h.distinct, h.graded, ?_, ?_⟩
      · intro r hr
        obtain ⟨k, hk, hkid⟩ := h.known r hr
        exact ⟨k, mem_addKeeper.mpr (.inl hk), hkid⟩
      · intro k hk
        rcases mem_addKeeper.mp hk with hk | rfl
        · exact h.rated k hk
        · -- no review can be of a keeper who is only being made
          have hnone : b.grades id = [] := by
            unfold grades
            rw [List.map_eq_nil_iff, List.filter_eq_nil_iff]
            intro r hr hmine
            simp only [Bool.and_eq_true, decide_eq_true_eq] at hmine
            obtain ⟨k, hk, hkid⟩ := h.known r hr
            exact unused k hk (hkid.trans hmine.1)
          change Binary64.zero = averageGrade (b.grades id)
          rw [hnone]
          rfl
  | updateKeeper given old mem => exact h.putKeeper mem rfl rfl
  | deleteKeeper id old mem => exact h.putKeeper mem rfl rfl
  | createReview given id unused graded keeper mem same =>
      have hnew (r : Review) (hr : r ∈ b.reviews) :
          r.entry.id ≠ (Table.setId id (Database.draft given) : Review).entry.id := unused r hr
      constructor
      · intro r hr s hs hsame
        rcases mem_addReview.mp hr with hr | rfl
        · rcases mem_addReview.mp hs with hs | rfl
          · exact h.distinct r hr s hs hsame
          · exact absurd hsame (hnew r hr)
        · rcases mem_addReview.mp hs with hs | rfl
          · exact absurd hsame.symm (hnew s hs)
          · rfl
      · intro r hr
        rcases mem_addReview.mp hr with hr | rfl
        · exact h.graded r hr
        · exact graded
      · intro r hr
        have hknown : ∃ k ∈ b.keepers, k.entry.id = r.keeperId := by
          rcases mem_addReview.mp hr with hr | rfl
          · exact h.known r hr
          · exact ⟨keeper, mem, same⟩
        obtain ⟨k, hk, hkid⟩ := hknown
        have hkept : ∃ l ∈ ((b.addReview (Table.setId id (Database.draft given))).rate given.keeperId
            now).keepers, l.entry.id = k.entry.id := exists_mem_rate hk
        obtain ⟨l, hl, hlid⟩ := hkept
        exact ⟨l, hl, hlid.trans hkid⟩
      · refine rated_rate fun k hk hne => ?_
        have hother : (Table.setId id (Database.draft given) : Review).keeperId ≠ k.entry.id :=
          Ne.symm hne
        rw [grades_addReview hother]
        exact h.rated k hk
  | updateReview given old mem same live graded => exact h.rate_putReview mem rfl rfl graded
  | deleteReview id old mem => exact h.rate_putReview mem rfl rfl (h.graded old mem)

end Gradebook

namespace Database

/-- **The ratings are always right.** -/
theorem isRated_after (events : List Event) : (after events).gradebook.IsRated := by
  refine after_of_calls (P := fun db => db.gradebook.IsRated) ?_ ?_ events
  · intro call now db h
    exact (gradebook_step now db call).isRated h
  · constructor <;> intro row hrow <;> exact absurd hrow List.not_mem_nil

/-- The keepers of the service are rated by their live reviews after every run. -/
theorem isRated_serveAll (config : Config) (run : List Arrival) :
    (serveAll config {} run).gradebook.IsRated := by
  rw [serveAll_eq_after]
  exact isRated_after _

/-- **However a database came about, the rating of each of its keepers, live or deleted, is the decimal
average of the grades in the live reviews, which is a function of their sum and their number: zero if
there is none, and between one and five otherwise. So keepers with the same live grades, in whatever
order, have the same rating, even in databases that came about in different ways.** -/
theorem ratings_after (events : List Event) :
    (∀ k ∈ (after events).gradebook.keepers,
      k.rating = averageOf ((after events).gradebook.grades k.entry.id).sum.toNat
        ((after events).gradebook.grades k.entry.id).length ∧
      ((after events).gradebook.grades k.entry.id = [] → k.rating = .zero) ∧
      ((after events).gradebook.grades k.entry.id ≠ [] →
        (Binary64.ofNat 1).le k.rating = true ∧ k.rating.le (Binary64.ofNat 5) = true)) ∧
    ∀ events' : List Event, ∀ k ∈ (after events).gradebook.keepers,
      ∀ k' ∈ (after events').gradebook.keepers,
        ((after events).gradebook.grades k.entry.id).Perm
          ((after events').gradebook.grades k'.entry.id) → k.rating = k'.rating := by
  have h := isRated_after events
  refine ⟨fun k hk => ⟨h.rated k hk, fun hnone => ?_, fun hsome => ?_⟩, fun events' k hk k' hk' hperm => ?_⟩
  · rw [h.rated k hk, hnone]
    rfl
  · have hgraded : ∀ g ∈ (after events).gradebook.grades k.entry.id, 1 ≤ g ∧ g ≤ 5 := by
      intro g hg
      obtain ⟨r, hr, rfl⟩ := List.mem_map.mp hg
      exact h.graded r (List.mem_filter.mp hr).1
    rw [h.rated k hk]
    exact averageGrade_between hsome hgraded
  · rw [h.rated k hk, (isRated_after events').rated k' hk']
    exact averageGrade_perm hperm

/-- A keeper with two reviews, one of which has been changed, who then leaves. -/
def graded : List Event :=
  [.call (.user (.create { username := "anna", email := "anna@example.org" })) ⟨0, 0⟩,
    .call (.user (.create { username := "boris", email := "boris@example.org" })) ⟨0, 0⟩,
    .call (.user (.create { username := "clara", email := "clara@example.org" })) ⟨0, 0⟩,
    .call (.keeper (.create { userId := 1 })) ⟨1, 0⟩,
    .call (.review (.create { keeperId := 1, authorId := 2, grade := 1 })) ⟨2, 0⟩,
    .call (.review (.create { keeperId := 1, authorId := 3, grade := 4 })) ⟨3, 0⟩,
    .call (.keeper (.delete 1)) ⟨4, 0⟩,
    .call (.review (.update { entry := { id := 1 }, grade := 5 })) ⟨5, 0⟩]

/-- The keeper has a rating of four and a half. -/
theorem ratings_graded :
    ∃ k ∈ (after graded).gradebook.keepers,
      (after graded).gradebook.grades k.entry.id = [5, 4] ∧ k.rating = averageOf 9 2 ∧
        (Binary64.ofNat 1).le k.rating = true ∧ k.rating.le (Binary64.ofNat 5) = true := by
  have hkeeper : ∃ k ∈ (after graded).gradebook.keepers,
      (after graded).gradebook.grades k.entry.id = [5, 4] := by
    decide +kernel
  obtain ⟨k, hk, hgrades⟩ := hkeeper
  obtain ⟨hrating, -, hbetween⟩ := (ratings_after graded).1 k hk
  rw [hgrades] at hrating hbetween
  exact ⟨k, hk, hgrades, hrating, hbetween (by simp)⟩

end Database

end Fostering
