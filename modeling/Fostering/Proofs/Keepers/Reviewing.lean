import Fostering.Proofs.Database.Integrity
import Fostering.Proofs.Database.Rollback
import Fostering.Proofs.Keepers.Rating
import Fostering.Proofs.Requests.Failures
import Fostering.Proofs.Requests.Passing

/-!
# Who can review a keeper

Whether users grade themselves is asked when they make a review and never again. That is enough: a review
stays with its author and its keeper, a keeper profile stays with its user, and a new profile has another
id than the old ones of the same user. Whether a keeper has been reviewed by somebody before is asked by
the database, and there only the live reviews count.

* `Gradebook.Step.keeps_subjects`: what a review is about, and who wrote it, stays.
* `Gradebook.Step.isImpartial`, `Database.isImpartial_serveAll`: nobody grades themselves.
* `Reviews.isJudged`: what comes of a new review.
* `Reviews.reviewing`: all of it, after any run of requests.
-/

namespace Fostering

/-! ## Steps of a gradebook -/

namespace Gradebook

variable {b b' : Gradebook} {now : Instant} {call : Store.Call}

/-- The reviews with the ids of their keepers and their authors. -/
def subjects (b : Gradebook) : List (Int × Int × Int) :=
  b.reviews.map fun r => (r.entry.id, r.keeperId, r.authorId)

/-- No user has reviewed a keeper profile of their own. -/
def IsImpartial (b : Gradebook) : Prop :=
  ∀ r ∈ b.reviews, ∀ k ∈ b.keepers, k.entry.id = r.keeperId → k.userId ≠ r.authorId

section

variable {k l : Keeper} {r : Review} {id : Int}

/-- A rating that has been worked out anew leaves the profile to its user. -/
theorem mem_rate (h : l ∈ (b.rate id now).keepers) :
    ∃ k ∈ b.keepers, l.entry.id = k.entry.id ∧ l.entry.isLive = k.entry.isLive ∧ l.userId = k.userId := by
  obtain ⟨k, hk, rfl⟩ := List.mem_map.mp h
  refine ⟨k, hk, ?_⟩
  split_ifs
  · exact ⟨rfl, rfl, rfl⟩
  · exact ⟨rfl, rfl, rfl⟩

/-- A keeper who is rated is still there, as live as before, with the same user. -/
theorem exists_rated (hk : k ∈ b.keepers) : ∃ l ∈ (b.rate id now).keepers,
    l.entry.id = k.entry.id ∧ l.entry.isLive = k.entry.isLive ∧ l.userId = k.userId := by
  refine ⟨_, List.mem_map_of_mem hk, ?_⟩
  split_ifs
  · exact ⟨rfl, rfl, rfl⟩
  · exact ⟨rfl, rfl, rfl⟩

/-- A review that takes the place of one of the same author and keeper. -/
theorem subjects_putReview (h : ∀ s ∈ b.reviews, s.entry.id = r.entry.id →
    s.keeperId = r.keeperId ∧ s.authorId = r.authorId) : (b.putReview r).subjects = b.subjects := by
  unfold subjects putReview
  rw [List.map_map]
  refine List.map_congr_left fun s hs => ?_
  by_cases hid : s.entry.id = r.entry.id
  · obtain ⟨hkeeper, hauthor⟩ := h s hs hid
    rw [Function.comp_apply, if_pos hid, hid, hkeeper, hauthor]
  · rw [Function.comp_apply, if_neg hid]

/-- Among rows with ids of their own, a review takes the place of itself only. -/
theorem subjects_putReview_of_mem (h : b.IsRated) {old : Review} (hold : old ∈ b.reviews)
    (hid : r.entry.id = old.entry.id) (hkeeper : r.keeperId = old.keeperId)
    (hauthor : r.authorId = old.authorId) : (b.putReview r).subjects = b.subjects := by
  refine subjects_putReview fun s hs hsame => ?_
  obtain rfl := h.distinct s hs old hold (hsame.trans hid)
  exact ⟨hkeeper.symm, hauthor.symm⟩

/-- Impartiality of reviews that all stood there before, about the keepers who stood there. -/
theorem IsImpartial.of_rows (h : b.IsImpartial)
    (hreviews : ∀ r ∈ b'.reviews, ∃ s ∈ b.reviews, r.keeperId = s.keeperId ∧ r.authorId = s.authorId)
    (hkeepers : ∀ l ∈ b'.keepers, ∃ k ∈ b.keepers, l.entry.id = k.entry.id ∧ l.userId = k.userId) :
    b'.IsImpartial := by
  intro r hr l hl hid
  obtain ⟨s, hs, hkeeper, hauthor⟩ := hreviews r hr
  obtain ⟨k, hk, hkid, huser⟩ := hkeepers l hl
  rw [huser, hauthor]
  exact h s hs k hk (hkid.symm.trans (hid.trans hkeeper))

end

/-- **No step takes a review away, or gives it to another author or keeper.** -/
theorem Step.keeps_subjects (hstep : Step now b call b') (h : b.IsRated) : b.subjects <+: b'.subjects := by
  cases hstep with
  | stay | createKeeper | updateKeeper | deleteKeeper => exact List.prefix_refl _
  | createReview given id =>
      have hadded : (b.addReview (Table.setId id (Database.draft given))).subjects =
          b.subjects ++ [(id, given.keeperId, given.authorId)] := List.map_append
      exact ⟨_, hadded.symm⟩
  | updateReview given old mem =>
      have hkept : (b.putReview (Database.changed given old now)).subjects = b.subjects :=
        subjects_putReview_of_mem h mem rfl rfl rfl
      rw [← hkept]
      exact List.prefix_refl _
  | deleteReview id old mem =>
      have hkept : (b.putReview (Database.buried old now)).subjects = b.subjects :=
        subjects_putReview_of_mem h mem rfl rfl rfl
      rw [← hkept]
      exact List.prefix_refl _

/-- **A step keeps reviews impartial if it makes no review of the author's own profile.** -/
theorem Step.isImpartial (hstep : Step now b call b') (hrated : b.IsRated) (h : b.IsImpartial)
    (hcall : ∀ given, call = .review (.create given) → ∀ k ∈ b.keepers, k.entry.id = given.keeperId →
      k.userId ≠ given.authorId) : b'.IsImpartial := by
  have hself (r : Review) (hr : r ∈ b.reviews) :
      ∃ s ∈ b.reviews, r.keeperId = s.keeperId ∧ r.authorId = s.authorId := ⟨r, hr, rfl, rfl⟩
  have hput {old new : Keeper} (hold : old ∈ b.keepers) (hid : new.entry.id = old.entry.id)
      (huser : new.userId = old.userId) : ∀ l ∈ (b.putKeeper new).keepers,
        ∃ k ∈ b.keepers, l.entry.id = k.entry.id ∧ l.userId = k.userId := by
    intro l hl
    rcases mem_putKeeper hl with rfl | hl
    · exact ⟨old, hold, hid, huser⟩
    · exact ⟨l, hl, rfl, rfl⟩
  have hrate {c : Gradebook} {keeperId : Int} (hsame : c.keepers = b.keepers) :
      ∀ l ∈ (c.rate keeperId now).keepers, ∃ k ∈ b.keepers, l.entry.id = k.entry.id ∧ l.userId = k.userId := by
    intro l hl
    obtain ⟨k, hk, hid, -, huser⟩ := mem_rate hl
    exact ⟨k, hsame ▸ hk, hid, huser⟩
  have hreplaced {old new : Review} (hold : old ∈ b.reviews) (hkeeper : new.keeperId = old.keeperId)
      (hauthor : new.authorId = old.authorId) : ∀ r ∈ (b.putReview new).reviews,
        ∃ s ∈ b.reviews, r.keeperId = s.keeperId ∧ r.authorId = s.authorId := by
    intro r hr
    rcases mem_putReview hr with rfl | ⟨hr, -⟩
    · exact ⟨old, hold, hkeeper, hauthor⟩
    · exact hself r hr
  cases hstep with
  | stay => exact h
  | createKeeper given id unused =>
      intro r hr k hk hid
      rcases mem_addKeeper.mp hk with hk | rfl
      · exact h r hr k hk hid
      · -- every review is of a keeper who was there before
        obtain ⟨l, hl, hlid⟩ := hrated.known r hr
        exact absurd (hlid.trans hid.symm) (unused l hl)
  | updateKeeper given old mem => exact h.of_rows hself (hput mem rfl rfl)
  | deleteKeeper id old mem => exact h.of_rows hself (hput mem rfl rfl)
  | createReview given id =>
      intro r hr l hl hid
      obtain ⟨k, hk, hkid, huser⟩ := hrate (c := b.addReview (Table.setId id (Database.draft given))) rfl l hl
      rw [huser]
      rcases mem_addReview.mp hr with hr | rfl
      · exact h r hr k hk (hkid.symm.trans hid)
      · exact hcall given rfl k hk (hkid.symm.trans hid)
  | updateReview given old mem => exact h.of_rows (hreplaced mem rfl rfl) (hrate rfl)
  | deleteReview id old mem => exact h.of_rows (hreplaced mem rfl rfl) (hrate rfl)

end Gradebook

/-! ## Runs of requests -/

/-- A request makes no review of the caller's own profile. -/
theorem Exchange.Writes.ne_author {x : Exchange} {db : Database} {endpoint : Endpoint} {call : Store.Call}
    (h : x.Writes db endpoint call) (hkeys : (Database.ids Keeper db.tables).Nodup) {given : Review}
    (hcall : call = .review (.create given)) :
    ∀ k ∈ db.tables.keepers, k.entry.id = given.keeperId → k.userId ≠ given.authorId := by
  cases h with
  | createReview caller request keeper asks path body grade mem live other =>
      cases hcall
      intro k hk hid
      obtain rfl : k = keeper := Database.eq_of_key hkeys hk mem hid
      exact other
  | onBoard endpoint call h => cases h <;> cases hcall
  | _ => cases hcall

namespace Database

/-- **Requests lead to no review of the author's own profile.** -/
theorem isImpartial_serveAll (config : Config) (run : List Arrival) :
    (serveAll config {} run).gradebook.IsImpartial := by
  induction run using List.reverseRecOn with
  | nil => exact fun r hr => absurd hr List.not_mem_nil
  | append_singleton run a ih =>
      rw [serveAll_append]
      let db : Database := serveAll config {} run
      have hkeys : (ids Keeper db.tables).Nodup := by
        unfold db
        rw [serveAll_eq_after]
        exact (isSound_after _ .keepers).keys
      change (db.serve config a).gradebook.IsImpartial
      rcases serve_writes config db a with hframe | ⟨endpoint, id?, call, -, hcall, -, heq⟩
      · rw [gradebook_of_onlyChanges hframe (by decide) (by decide)]
        exact ih
      · rw [heq]
        refine (gradebook_step a.now db call).isImpartial (isRated_serveAll config run) ih
          fun given hgiven => ?_
        exact hcall.ne_author hkeys hgiven

/-- Reviews stay with their keepers and their authors. -/
theorem subjects_append (events events' : List Event) :
    (after events).gradebook.subjects <+: (after (events ++ events')).gradebook.subjects := by
  let P (db : Database) : Prop :=
    db.gradebook.IsRated ∧ (after events).gradebook.subjects <+: db.gradebook.subjects
  have hcalls : KeptByCalls P := fun call now db ⟨hrated, hprefix⟩ =>
    ⟨(gradebook_step now db call).isRated hrated,
      hprefix.trans ((gradebook_step now db call).keeps_subjects hrated)⟩
  have hbefore : P (after events) := ⟨isRated_after events, List.prefix_refl _⟩
  exact (after_append_of_calls hcalls hbefore events').2

/-! ## New reviews in the database -/

/-- There is a live keeper with the id. -/
def HasKeeper (db : Database) (keeperId : Int) : Prop :=
  ∃ k ∈ db.tables.keepers, k.entry.id = keeperId ∧ k.entry.isLive = true

/-- The live keeper with the id is a profile of the user. -/
def IsKeeper (db : Database) (userId keeperId : Int) : Prop :=
  ∃ k ∈ db.tables.keepers, k.entry.id = keeperId ∧ k.entry.isLive = true ∧ k.userId = userId

/-- There is a live review of the keeper by the user. -/
def HasReviewed (db : Database) (userId keeperId : Int) : Prop :=
  ∃ r ∈ db.tables.reviews, r.entry.isLive = true ∧ r.keeperId = keeperId ∧ r.authorId = userId

section

variable {db : Database} {given : Review} (hsound : Sound db.tables) (hcounted : Counted db)
  (hstorable : Schema.isStorable (draft given) = true) (hgraded : 1 ≤ given.grade ∧ given.grade ≤ 5)
  (hkeeper : db.HasKeeper given.keeperId)
include hsound hcounted hstorable hgraded hkeeper

/-- The first live review of a keeper by a user is stored. -/
theorem exists_createReview (huser : given.authorId ∈ ids User db.tables)
    (hfirst : ¬db.HasReviewed given.authorId given.keeperId) (now : Instant) :
    ∃ review db', (createReview given).exec now db = (.ok review, db') := by
  have hfound : Schema.hasId db.tables.keepers given.keeperId = true := hasId_of_live hkeeper
  obtain ⟨k, hk, hid, hlive⟩ := hkeeper
  have hfind : (find Keeper given.keeperId).exec now db = (.ok k, db) :=
    hid ▸ find_of_nodup (hsound .keepers).keys hk hlive now
  let new : Review := numbered db (draft given)
  have hclash : Schema.clash? db.tables new = none := by
    refine index_of_none fun r hr htaken => ?_
    rw [Bool.and_eq_true, Bool.and_eq_true, decide_eq_true_eq, decide_eq_true_eq] at htaken
    exact hfirst ⟨r, (Schema.mem_others.mp hr).1, htaken.1.1, htaken.1.2, htaken.2⟩
  have hnew : IsInsertable db.tables new :=
    { holds := holds_review.mpr hgraded
      clash := hclash
      unused := hcounted.ne_id_numbered (draft given)
      orphan := (if_pos hfound).trans (missingUser?_of_mem huser _ _) }
  have hinsert := insert_of_isInsertable (draft given) now hstorable rfl hnew
  obtain ⟨db', hcreate, -⟩ := createReview_of_insert now db hfind hinsert
  exact ⟨new, db', hcreate⟩

/-- A second live review of a keeper by a user is refused. -/
theorem isRefusedFor_createReview_of_repeated (hrepeated : db.HasReviewed given.authorId given.keeperId)
    (now : Instant) :
    IsRefusedFor (createReview given) (.conflict "You have already reviewed this keeper") now db := by
  obtain ⟨other, hother, hlive, htaken⟩ := hrepeated
  have hmisfit : Misfit now db .reviews (.review (.create given)) _ :=
    .secondReview given other hstorable hgraded hkeeper hother hlive htaken
  exact (isAtomic_perform (.review (.create given))).isRefusedFor (hmisfit.wastes hsound hcounted).refused

/-- A review by somebody who is no user is refused. -/
theorem isRefusedFor_createReview_of_nobody (hmissing : given.authorId ∉ ids User db.tables) (now : Instant) :
    IsRefusedFor (createReview given) (.validation (Reference.message ⟨"keeper_reviews", "author_id"⟩)) now
      db := by
  have hmisfit : Misfit now db .reviews (.review (.create given)) _ :=
    .reviewByNobody given hstorable hgraded hkeeper hmissing
  exact (isAtomic_perform (.review (.create given))).isRefusedFor (hmisfit.wastes hsound hcounted).refused

end

/-- A review that has been deleted stands in nobody's way, and the keepers and users are still there. -/
theorem deleteReview_frees {db : Database} {r : Review} (hsound : Sound db.tables)
    (hr : r ∈ db.tables.reviews) (hlive : r.entry.isLive = true) (now : Instant) :
    ∃ db', (deleteReview r.entry.id).exec now db = (.ok (), db') ∧
      ¬db'.HasReviewed r.authorId r.keeperId ∧ db'.tables.users = db.tables.users ∧
      (∀ id, db.HasKeeper id → db'.HasKeeper id) ∧
      ∀ userId id, db'.IsKeeper userId id → db.IsKeeper userId id := by
  have hfind : (find Review r.entry.id).exec now db = (.ok r, db) :=
    find_of_nodup (hsound .reviews).keys hr hlive now
  obtain ⟨db', hdelete, hbook⟩ := deleteReview_of_find now db hfind
  have hreviews : db'.tables.reviews = (db.gradebook.putReview (buried r now)).reviews :=
    congrArg Gradebook.reviews hbook
  have hkeepers : db'.tables.keepers =
      ((db.gradebook.putReview (buried r now)).rate r.keeperId now).keepers := congrArg Gradebook.keepers hbook
  have husers : db'.tables.users = db.tables.users := by
    have hframe := perform_onlyChanges (.review (.delete r.entry.id)) now db
    change OnlyChanges [.reviews, .keepers] db ((deleteReview r.entry.id).exec now db).2 at hframe
    rw [hdelete] at hframe
    exact hframe .users (by decide)
  refine ⟨db', hdelete, ?_, husers, ?_, ?_⟩
  · rintro ⟨s, hs, hslive, hkeeper, hauthor⟩
    rw [hreviews] at hs
    rcases Gradebook.mem_putReview hs with rfl | ⟨hs, hne⟩
    · cases hslive
    · -- two live reviews of a keeper by the same user
      exact (hsound .reviews).apart s hs r hr hne ⟨hslive, hlive, hkeeper, hauthor⟩
  · rintro id ⟨k, hk, hid, hklive⟩
    have hrated : ∃ l ∈ ((db.gradebook.putReview (buried r now)).rate r.keeperId now).keepers,
        l.entry.id = k.entry.id ∧ l.entry.isLive = k.entry.isLive ∧ l.userId = k.userId :=
      Gradebook.exists_rated hk
    obtain ⟨l, hl, hlid, hllive, -⟩ := hrated
    exact ⟨l, hkeepers ▸ hl, hlid.trans hid, hllive.trans hklive⟩
  · rintro userId id ⟨l, hl, hid, hllive, huser⟩
    rw [hkeepers] at hl
    obtain ⟨k, hk, hkid, hklive, hkuser⟩ := Gradebook.mem_rate hl
    exact ⟨k, hk, hkid.symm.trans hid, hklive.symm.trans hllive, hkuser.symm.trans huser⟩

end Database

/-! ## Reviews of the service -/

namespace Reviews

open Database

/-- What comes of a new review, by what stands in its way first. -/
structure IsJudged (db : Database) (actor keeperId : Int) (request : CreateReview) (now : Instant) : Prop where
  made_iff : (∃ review db',
      (create actor keeperId request : Op Database Review).exec now db = (.ok review, db')) ↔
    (1 ≤ request.grade ∧ request.grade ≤ 5) ∧ db.HasKeeper keeperId ∧ ¬db.IsKeeper actor keeperId ∧
      actor ∈ ids User db.tables ∧ ¬db.HasReviewed actor keeperId
  ungraded (h : ¬(1 ≤ request.grade ∧ request.grade ≤ 5)) :
    (create actor keeperId request : Op Database Review).exec now db =
      (.error (.validation ("Grade must be between 1 and 5, got " ++ toString request.grade)), db)
  unknown (hgraded : 1 ≤ request.grade ∧ request.grade ≤ 5) (h : ¬db.HasKeeper keeperId) :
    (create actor keeperId request : Op Database Review).exec now db = (.error (.notFound "Keeper" keeperId), db)
  own (hgraded : 1 ≤ request.grade ∧ request.grade ≤ 5) (h : db.IsKeeper actor keeperId) :
    (create actor keeperId request : Op Database Review).exec now db =
      (.error (.forbidden "Keepers cannot review themselves"), db)
  repeated (hgraded : 1 ≤ request.grade ∧ request.grade ≤ 5) (hkeeper : db.HasKeeper keeperId)
    (hother : ¬db.IsKeeper actor keeperId) (h : db.HasReviewed actor keeperId) :
    IsRefusedFor (create actor keeperId request) (.conflict "You have already reviewed this keeper") now db
  nobody (hgraded : 1 ≤ request.grade ∧ request.grade ≤ 5) (hkeeper : db.HasKeeper keeperId)
    (hother : ¬db.IsKeeper actor keeperId) (h : actor ∉ ids User db.tables) :
    IsRefusedFor (create actor keeperId request)
      (.validation (Reference.message ⟨"keeper_reviews", "author_id"⟩)) now db

section

variable {db : Database} {actor keeperId : Int} {request : CreateReview} {now : Instant}

/-- A review with another grade than one to five is refused before anybody is looked for. -/
theorem exec_create_of_ungraded (h : ¬(1 ≤ request.grade ∧ request.grade ≤ 5)) :
    (create actor keeperId request : Op Database Review).exec now db =
      (.error (.validation ("Grade must be between 1 and 5, got " ++ toString request.grade)), db) := by
  have hgrade : checkGrade request.grade =
      .error (.validation ("Grade must be between 1 and 5, got " ++ toString request.grade)) := if_neg h
  refine Op.exec_bind_error ?_
  rw [Op.exec_ofExcept, hgrade]

/-- A review of the actor's own profile is refused. -/
theorem exec_create_of_own {keeper : Keeper} (hgraded : 1 ≤ request.grade ∧ request.grade ≤ 5)
    (hfind : (Database.find Keeper keeperId).exec now db = (.ok keeper, db)) (hown : keeper.userId = actor) :
    (create actor keeperId request : Op Database Review).exec now db = (.error selfReview, db) := by
  have hfound : (Store.Records.find keeperId : Op Database Keeper).exec now db = (.ok keeper, db) := hfind
  have hguard := Op.exec_guard_of_false (decide_eq_false (not_not_intro hown)) selfReview now db
  unfold create
  rw [Op.exec_bind_ok (exec_checkGrade hgraded), Op.exec_bind_ok hfound]
  exact Op.exec_bind_error hguard

/-- A review of a keeper who is not live is refused, whoever writes it. -/
theorem exec_create_of_missing (hgraded : 1 ≤ request.grade ∧ request.grade ≤ 5) (h : ¬db.HasKeeper keeperId) :
    (create actor keeperId request : Op Database Review).exec now db =
      (.error (.notFound "Keeper" keeperId), db) :=
  exec_create_of_dead hgraded
    (fun k hk hid => Bool.eq_false_iff.mpr fun hlive => h ⟨k, hk, hid, hlive⟩) actor now

section

variable (hsound : Sound db.tables)
include hsound

/-- A review of any profile that is the actor's own is refused. -/
theorem exec_create_of_isKeeper (hgraded : 1 ≤ request.grade ∧ request.grade ≤ 5)
    (h : db.IsKeeper actor keeperId) : (create actor keeperId request : Op Database Review).exec now db =
      (.error (.forbidden "Keepers cannot review themselves"), db) := by
  obtain ⟨k, hk, hid, hlive, huser⟩ := h
  have hfind : (Database.find Keeper keeperId).exec now db = (.ok k, db) :=
    hid ▸ find_of_nodup (hsound .keepers).keys hk hlive now
  exact exec_create_of_own hgraded hfind huser

/-- A review of a keeper who is there, and is somebody else's profile, is left to the database. -/
theorem exec_create_of_other (hgraded : 1 ≤ request.grade ∧ request.grade ≤ 5) (hkeeper : db.HasKeeper keeperId)
    (hother : ¬db.IsKeeper actor keeperId) : (create actor keeperId request : Op Database Review).exec now db =
      (createReview (HasEntry.modifyEntry (·.stamped now) (request.toReview keeperId actor))).exec now db := by
  obtain ⟨k, hk, hid, hlive⟩ := hkeeper
  have hfind : (Database.find Keeper keeperId).exec now db = (.ok k, db) :=
    hid ▸ find_of_nodup (hsound .keepers).keys hk hlive now
  exact exec_create_of_live hgraded hfind fun huser => hother ⟨k, hk, hid, hlive, huser⟩

end

/-- **What comes of a new review is decided by the grade, the keeper, their user, and then by the other reviews
and the users.** -/
theorem isJudged (hsound : Sound db.tables) (hcounted : Counted db) (hplain : StorableIfAny request.comment)
    (hnow : now.isStorable = true) : IsJudged db actor keeperId request now := by
  let given : Review := HasEntry.modifyEntry (·.stamped now) (request.toReview keeperId actor)
  have hstorable : Schema.isStorable (draft given) = true :=
    isStorable_of (Review.hasStorableTexts_iff.mpr hplain) (isStorable_new hnow rfl)
  -- errors in the order of the checks: each is met only if all before it have passed
  have hrepeated (hgraded : 1 ≤ request.grade ∧ request.grade ≤ 5) (hkeeper : db.HasKeeper keeperId)
      (hother : ¬db.IsKeeper actor keeperId) (h : db.HasReviewed actor keeperId) :
      IsRefusedFor (create actor keeperId request) (.conflict "You have already reviewed this keeper") now
        db := by
    unfold IsRefusedFor
    rw [exec_create_of_other hsound hgraded hkeeper hother]
    exact isRefusedFor_createReview_of_repeated hsound hcounted hstorable hgraded hkeeper h now
  have hnobody (hgraded : 1 ≤ request.grade ∧ request.grade ≤ 5) (hkeeper : db.HasKeeper keeperId)
      (hother : ¬db.IsKeeper actor keeperId) (h : actor ∉ ids User db.tables) :
      IsRefusedFor (create actor keeperId request)
        (.validation (Reference.message ⟨"keeper_reviews", "author_id"⟩)) now db := by
    unfold IsRefusedFor
    rw [exec_create_of_other hsound hgraded hkeeper hother]
    exact isRefusedFor_createReview_of_nobody hsound hcounted hstorable hgraded hkeeper h now
  refine ⟨⟨?_, ?_⟩, exec_create_of_ungraded, exec_create_of_missing, exec_create_of_isKeeper hsound,
    hrepeated, hnobody⟩
  · rintro ⟨review, db', hok⟩
    have hnot {cause : Error} {db'' : Database}
        (herror : (create actor keeperId request : Op Database Review).exec now db = (.error cause, db'')) :
        False := by
      rw [hok] at herror
      cases herror
    have hgraded : 1 ≤ request.grade ∧ request.grade ≤ 5 :=
      by_contra fun h => hnot (exec_create_of_ungraded h)
    have hkeeper : db.HasKeeper keeperId := by_contra fun h => hnot (exec_create_of_missing hgraded h)
    have hother : ¬db.IsKeeper actor keeperId := fun h => hnot (exec_create_of_isKeeper hsound hgraded h)
    refine ⟨hgraded, hkeeper, hother, by_contra fun h => ?_, fun h => ?_⟩
    · obtain ⟨db'', herror, -⟩ := hnobody hgraded hkeeper hother h
      exact hnot herror
    · obtain ⟨db'', herror, -⟩ := hrepeated hgraded hkeeper hother h
      exact hnot herror
  · rintro ⟨hgraded, hkeeper, hother, huser, hfirst⟩
    rw [exec_create_of_other hsound hgraded hkeeper hother]
    exact exists_createReview hsound hcounted hstorable hgraded hkeeper huser hfirst now

/-- A change leaves a review to its author and its keeper. -/
theorem exists_of_update {id : Int} {change : UpdateReview} {review : Review} {db' : Database}
    (hok : (update actor id change : Op Database Review).exec now db = (.ok review, db')) :
    ∃ old ∈ db.tables.reviews, old.entry.id = id ∧ review.entry.id = id ∧ review.keeperId = old.keeperId ∧
      review.authorId = old.authorId := by
  rcases update_cases now db actor id change with ⟨cause, -, hrefused⟩ | ⟨-, old, hmem, hid, -, -, hexec⟩
  · rw [hok] at hrefused
    cases hrefused
  let given : Review := HasEntry.modifyEntry (·.touched now) (change.apply old)
  rw [hok] at hexec
  rcases updateReview_cases now db given with
    ⟨cause, db'', hrefused, -⟩ | ⟨stored, hstored, hsame, -, -, -, db'', hupdate, -⟩
  · rw [← hexec] at hrefused
    cases hrefused
  · rw [← hexec] at hupdate
    cases hupdate
    exact ⟨stored, hstored, hsame.trans hid, hsame.trans hid, rfl, rfl⟩

end

/-- **After any run of requests every review has a grade from one to five, and its author is not the user of
the keeper profile.** A new review is made exactly if its grade is such a grade, the keeper is live and
somebody else, the author is a user, and they have no live review of the keeper; what is missing first is
what they are told. Whoever deletes a review may make a new one, and no change gives a review to another
author or keeper. -/
theorem reviewing (config : Config) (run : List Arrival) (actor keeperId : Int) {request : CreateReview}
    (hplain : StorableIfAny request.comment) {now : Instant} (hnow : now.isStorable = true) :
    let db := serveAll config {} run
    (∀ r ∈ db.tables.reviews, (1 ≤ r.grade ∧ r.grade ≤ 5) ∧ (∃ k ∈ db.tables.keepers, k.entry.id = r.keeperId) ∧
      ∀ k ∈ db.tables.keepers, k.entry.id = r.keeperId → k.userId ≠ r.authorId) ∧
    IsJudged db actor keeperId request now ∧
    (∀ r ∈ db.tables.reviews, r.entry.isLive = true → r.authorId = actor → r.keeperId = keeperId →
      ∀ later, ∃ db', (delete actor r.entry.id : Op Database Unit).exec later db = (.ok (), db') ∧
        IsJudged db' actor keeperId request now ∧
        (1 ≤ request.grade ∧ request.grade ≤ 5 → db.HasKeeper keeperId →
          ∃ review db'', (create actor keeperId request : Op Database Review).exec now db' =
            (.ok review, db''))) ∧
    (∀ id change later review db',
      (update actor id change : Op Database Review).exec later db = (.ok review, db') →
        ∃ old ∈ db.tables.reviews, old.entry.id = id ∧ review.entry.id = id ∧ review.keeperId = old.keeperId ∧
          review.authorId = old.authorId) ∧
    ∀ run', db.gradebook.subjects <+: (serveAll config {} (run ++ run')).gradebook.subjects := by
  intro db
  have hafter : db = after (run.map (Event.request config)) := serveAll_eq_after config run
  have hsound : Sound db.tables := hafter ▸ isSound_after _
  have hcounted : Counted db := hafter ▸ ids_le_lastId _
  have hrated : db.gradebook.IsRated := isRated_serveAll config run
  have himpartial : db.gradebook.IsImpartial := isImpartial_serveAll config run
  refine ⟨fun r hr => ⟨hrated.graded r hr, hrated.known r hr, himpartial r hr⟩,
    isJudged hsound hcounted hplain hnow, ?_, fun id change later review db' => exists_of_update, fun run' => ?_⟩
  · rintro r hr hlive rfl rfl later
    have hfind : (Database.find Review r.entry.id).exec later db = (.ok r, db) :=
      find_of_nodup (hsound .reviews).keys hr hlive later
    obtain ⟨db', hdelete, hfree, husers, hkeeps, howns⟩ := deleteReview_frees hsound hr hlive later
    have hafter' : db' =
        after (run.map (Event.request config) ++ [.call (.review (.delete r.entry.id)) later]) := by
      rw [after_append_singleton, ← hafter]
      exact (congrArg Prod.snd hdelete).symm
    have hjudged : IsJudged db' r.authorId r.keeperId request now :=
      isJudged (hafter' ▸ isSound_after _) (hafter' ▸ ids_le_lastId _) hplain hnow
    refine ⟨db', (exec_delete_of_own hfind).trans hdelete, hjudged, fun hgraded hkeeper => ?_⟩
    refine hjudged.made_iff.mpr ⟨hgraded, hkeeps _ hkeeper, fun hown => ?_, ?_, hfree⟩
    · obtain ⟨k, hk, hid, -, huser⟩ := howns _ _ hown
      exact himpartial r hr k hk hid huser
    · change r.authorId ∈ db'.tables.users.map Table.id
      rw [husers]
      exact (hsound.isClosed.reviews r hr).2
  · rw [hafter, serveAll_eq_after, List.map_append]
    exact subjects_append _ _

end Reviews

/-! ## A keeper and a guest -/

/-- The token of Boris, the second user, who is no moderator. -/
def borisToken : String := Token.sign "secret" ⟨2, false, 960, 60, ""⟩

/-- Boris registers. -/
def borisRegisters : Arrival := .bearing "" "POST" "/api/v1/auth/register"
  "\x7b\"username\":\"boris\",\"email\":\"boris@example.org\",\"password\":\"correct horse\"\x7d"

/-- He gives the keeper Anna the best grade. -/
def borisReviews : Arrival := .bearing borisToken "POST" "/api/v1/keepers/1/reviews" "\x7b\"grade\":5\x7d"

namespace Database

/-- Anna as a keeper. -/
def annasProfile : Keeper := { entry := annasEntry, userId := 1 }

/-- The review that Boris writes. -/
def borisReview : Review := { entry := annasEntry, keeperId := 1, authorId := 2, grade := 5 }

/-- A database in which Anna keeps animals, and in which there is Boris. -/
def withBoris (annasHash borisHash : String) : Database where
  tables :=
    { users :=
        [{ entry := annasEntry, username := "anna", email := "anna@example.org", passwordHash := annasHash },
          { newcomer "boris" "boris@example.org" borisHash with entry.id := 2 }],
      keepers := [annasProfile] }
  sequences := { users := 2, keepers := 1 }

/-- The same database once Boris has graded Anna. -/
def withGrade (annasHash borisHash : String) : Database :=
  let db := withBoris annasHash borisHash
  { tables :=
      { db.tables with keepers := [{ annasProfile with rating := averageGrade [5] }], reviews := [borisReview] }
    sequences := { db.sequences with reviews := 1 } }

variable {config : Config}

/-- Boris joins Anna. -/
theorem serve_borisRegisters (annasHash : String) : ∃ borisHash,
    (withAnna annasHash [annasProfile] 1).serve config borisRegisters = withBoris annasHash borisHash := by
  have hfind : Endpoint.find borisRegisters.incoming = .endpoint .register none :=
    show Endpoint.findIn "POST" (Path.segments "/api/v1/auth/register") Endpoint.routes = _ by decide
  have hreceive : receive RegisterUser (Utf8.encode
      "\x7b\"username\":\"boris\",\"email\":\"boris@example.org\",\"password\":\"correct horse\"\x7d") =
        .ok { username := "boris", email := "boris@example.org", password := "correct horse" } := by
    decide +kernel
  rw [serve_of_registers hfind (Exchange.body_of_receive hreceive),
    show borisRegisters.now = ⟨60, 0⟩ from rfl, exec_register_newcomer (by decide) (by decide)]
  exact ⟨_, rfl⟩

/-- His review of Anna is stored, and she is rated by it. -/
theorem serve_borisReviews (hsecret : config.token.secret = "secret") (annasHash borisHash : String) :
    (withBoris annasHash borisHash).serve config borisReviews = withGrade annasHash borisHash := by
  let x : Exchange := borisReviews.exchange config (some ("id", "1"))
  have hcaller : x.caller = .ok ⟨2, false⟩ := caller_of_judge hsecret (by decide +kernel)
  have hid : x.id = .ok 1 := readId_one
  have hreceive : receive CreateReview (Utf8.encode "\x7b\"grade\":5\x7d") = .ok { grade := 5 } := by
    decide +kernel
  have hbody : x.body CreateReview = .ok { grade := 5 } := Exchange.body_of_receive hreceive
  have hplan : (x.plan .createReview : Except Reply (Action Database)) =
      .ok (.shows 201 Review.view (Reviews.create 2 1 { grade := 5 })) := by
    change (x.caller >>= fun caller => x.id >>= fun id => x.body CreateReview >>= _) = _
    rw [hcaller, hid, hbody]
    rfl
  have hfind : Endpoint.find borisReviews.incoming = .endpoint .createReview (some ("id", "1")) :=
    show Endpoint.findIn "POST" (Path.segments "/api/v1/keepers/1/reviews") Endpoint.routes = _ by decide
  rw [serve_of_shows hfind hplan]
  rfl

end Database

namespace Reviews

open Database

/-- Anna keeps animals, and Boris has graded her. He cannot do so twice, but again after he has deleted his
review; she cannot grade herself. -/
theorem reviewing_boris :
    let db := serveAll (.blockingAt 3) {}
      [annaRegisters annasToken, annaOffers annasToken, borisRegisters, borisReviews]
    let grades (actor : Int) : Op Database Review := create actor 1 { grade := 4 }
    db.tables.reviews = [borisReview] ∧
      IsRefusedFor (grades 2) (.conflict "You have already reviewed this keeper") ⟨61, 0⟩ db ∧
      (∃ db', (delete 2 1 : Op Database Unit).exec ⟨61, 0⟩ db = (.ok (), db') ∧
        ∃ review db'', (grades 2).exec ⟨61, 0⟩ db' = (.ok review, db'')) ∧
      (grades 1).exec ⟨61, 0⟩ db = (.error (.forbidden "Keepers cannot review themselves"), db) := by
  intro db grades
  obtain ⟨annasHash, hregisters⟩ := serve_annaRegisters (.blockingAt 3) annasToken
  have hoffers : (withAnna annasHash [] 0).serve (.blockingAt 3) (annaOffers annasToken) =
      withAnna annasHash [annasProfile] 1 := serve_annaOffers (caller_annas rfl) annasHash
  obtain ⟨borisHash, hjoins⟩ := serve_borisRegisters annasHash
  have hdb : db = withGrade annasHash borisHash := by
    unfold db
    rw [serveAll_cons, hregisters, serveAll_cons, hoffers, serveAll_cons, hjoins, serveAll_cons,
      serve_borisReviews rfl, serveAll_nil]
  have hreviews : db.tables.reviews = [borisReview] := congrArg (·.tables.reviews) hdb
  have hmem : borisReview ∈ db.tables.reviews := hreviews ▸ List.mem_singleton_self _
  let keeper : Keeper := { annasProfile with rating := averageGrade [5] }
  have hkeepers : db.tables.keepers = [keeper] := congrArg (·.tables.keepers) hdb
  have hkeeper : keeper ∈ db.tables.keepers := hkeepers ▸ List.mem_singleton_self _
  have hgraded : 1 ≤ (4 : Int) ∧ (4 : Int) ≤ 5 := by decide
  have hother : ¬db.IsKeeper 2 1 := by
    rintro ⟨k, hk, -, -, huser⟩
    rw [hkeepers] at hk
    obtain rfl := List.mem_singleton.mp hk
    cases huser
  have hplain : StorableIfAny (CreateReview.comment { grade := 4 }) := nofun
  have hnow : Instant.isStorable ⟨61, 0⟩ = true := by decide
  have hreviewing (actor : Int) := reviewing (.blockingAt 3)
    [annaRegisters annasToken, annaOffers annasToken, borisRegisters, borisReviews] actor 1 hplain hnow
  obtain ⟨-, hanna, -⟩ := hreviewing 1
  obtain ⟨-, hboris, hagain, -⟩ := hreviewing 2
  obtain ⟨db', hdelete, -, hmade⟩ := hagain borisReview hmem rfl rfl rfl ⟨61, 0⟩
  have hfound : db.HasKeeper 1 := ⟨keeper, hkeeper, rfl, rfl⟩
  have htaken : db.HasReviewed 2 1 := ⟨borisReview, hmem, rfl, rfl, rfl⟩
  exact ⟨hreviews, hboris.repeated hgraded hfound hother htaken, ⟨db', hdelete, hmade hgraded hfound⟩,
    hanna.own hgraded ⟨keeper, hkeeper, rfl, rfl, rfl⟩⟩

end Reviews

end Fostering
