import Fostering.Proofs.Keepers.Gradebook
import Fostering.Proofs.Posts.Board

/-!
# What the rows of a database say

A *rule* on rows (`RowRule`) is a property of what a row says. It never depends on the columns that a
row shares with all others, so a row that is dated, deleted or put under an id keeps its rules. A set
of rules (`RowRules`) has one for each kind of row that is kept one by one, and a database conforms to
it if all its rows do.

A call that creates a row or changes one *respects* a set of rules (`Call.Respects`) if the row that
it writes conforms, given what the database has checked before. Nothing else is asked of a call: what
the database writes by itself, such as a rating or the count of the reports, is no matter of a rule.

* `conforms_perform`: every call that respects a set of rules leaves a database that conforms to it.
-/

namespace Fostering

/-- A property of what rows say, whatever their shared columns are. -/
structure RowRule (ρ : Type) [HasEntry ρ] where
  Holds : ρ → Prop
  of_entry : ∀ (e : Entry) (row : ρ), Holds row → Holds (HasEntry.setEntry e row)

/-- A rule for each kind of row that is kept one by one. The rating of a keeper and the status and
the count of a post are also written by the database itself, so the rules must leave room for that. -/
structure RowRules where
  user : RowRule User
  keeper : RowRule Keeper
  seeker : RowRule Seeker
  vet : RowRule Vet
  post : RowRule Post
  review : RowRule Review
  message : RowRule Message
  rated : ∀ (rating : Binary64) (k : Keeper), keeper.Holds k → keeper.Holds { k with rating }
  moderated : ∀ (status : PostStatus) (reportsCount : Int) (p : Post), post.Holds p →
    post.Holds { p with status := status.name, reportsCount }

namespace RowRules

/-- All rows of a table conform. -/
def On (R : RowRules) : TableName → Tables → Prop
  | .users, t => ∀ u ∈ t.users, R.user.Holds u
  | .keepers, t => ∀ k ∈ t.keepers, R.keeper.Holds k
  | .seekers, t => ∀ s ∈ t.seekers, R.seeker.Holds s
  | .vets, t => ∀ v ∈ t.vets, R.vet.Holds v
  | .posts, t => ∀ p ∈ t.posts, R.post.Holds p
  | .reviews, t => ∀ r ∈ t.reviews, R.review.Holds r
  | .messages, t => ∀ m ∈ t.messages, R.message.Holds m
  | .reports, _ | .chats, _ | .members, _ | .favourites, _ | .sessions, _ => True

/-- Whether the rows of a table conform is seen from that table alone. -/
theorem on_of_agrees {R : RowRules} {name : TableName} {t t' : Tables} (hsame : name.Agrees t t')
    (h : R.On name t) : R.On name t' := by
  cases name with
  | reports | chats | members | favourites | sessions => trivial
  | users | keepers | seekers | vets | posts | reviews | messages =>
      intro row hrow
      rw [hsame] at hrow
      exact h row hrow

/-! ### What the database makes of rows by itself -/

section

variable {R : RowRules} {now : Instant}

/-- A new rating breaks no rule of a keeper. -/
theorem keeper_rated {k : Keeper} (h : R.keeper.Holds k) (rating : Binary64) :
    R.keeper.Holds { k with entry := k.entry.touched now.stored, rating } :=
  R.keeper.of_entry (k.entry.touched now.stored) { k with rating } (R.rated rating k h)

/-- Another report breaks no rule of a post. -/
theorem post_counted {p : Post} (h : R.post.Holds p) (count threshold : Int) :
    R.post.Holds (p.counted count threshold now) :=
  R.post.of_entry (p.entry.touched now.stored) _
    (R.moderated (Post.statusAfterReport count threshold) (reportsColumn count) p h)

/-- An approval breaks no rule of a post. -/
theorem post_approved {p : Post} (h : R.post.Holds p) : R.post.Holds (p.approved now) :=
  R.post.of_entry (p.entry.touched now.stored) _ (R.moderated .published 0 p h)

/-- A block breaks no rule of a post. -/
theorem post_barred {p : Post} (h : R.post.Holds p) : R.post.Holds (p.barred now) :=
  R.post.of_entry (p.entry.touched now.stored) _ (R.moderated .blocked p.reportsCount p h)

end

end RowRules

/-! ## Calls -/

namespace Store

/-- The row that a call writes conforms, given what the database checks before: that the row can be
stored, and that it passes the checks. -/
def RecordCall.Respects {ρ φ : Type} [Editable ρ] (Q : RowRule ρ) : RecordCall ρ φ → Prop
  | create given => ∀ id, Schema.isStorable (Database.draft given) = true →
      Schema.holds (Table.setId id (Database.draft given)) = true →
      Q.Holds (Table.setId id (Database.draft given))
  | update given => ∀ old now, Q.Holds old →
      Schema.isStorable (Editable.overwrite given default) = true →
      Schema.holds (Database.changed given old now) = true → Q.Holds (Database.changed given old now)
  | find _ | findAny _ | list .. | delete _ => True

/-- The row that a call writes conforms, if the call is about rows that are kept one by one. -/
def Call.Respects (R : RowRules) : Call → Prop
  | user call => call.Respects R.user
  | keeper call => call.Respects R.keeper
  | seeker call => call.Respects R.seeker
  | vet call => call.Respects R.vet
  | post call => call.Respects R.post
  | review call => call.Respects R.review
  | message call => call.Respects R.message
  | _ => True

end Store

namespace Database

/-- All rows conform. -/
def Conforms (R : RowRules) (db : Database) : Prop := ∀ name, R.On name db.tables

variable {R : RowRules} {now : Instant} {db : Database}

/-- What changes some tables leaves the rows of all others as they were. -/
theorem Conforms.of_onlyChanges {tables : List TableName} {db' : Database} (h : db.Conforms R)
    (hframe : OnlyChanges tables db db') (hwritten : ∀ name ∈ tables, R.On name db'.tables) :
    db'.Conforms R := by
  intro name
  by_cases hname : name ∈ tables
  · exact hwritten name hname
  · exact RowRules.on_of_agrees (hframe name hname) (h name)

section

variable {ρ φ : Type} [Editable ρ] {Q : RowRule ρ}

/-- All rows of a table conform. -/
def EveryRow (Q : RowRule ρ) (t : Tables) : Prop := ∀ row ∈ (Table.rows t : List ρ), Q.Holds row

/-- If all rows conform and so does a new one, all rows conform. -/
theorem everyRow_addRow {t : Tables} {new : ρ} (h : EveryRow Q t) (hnew : Q.Holds new) :
    EveryRow Q (addRow new t) := by
  intro row hrow
  rw [rows_addRow] at hrow
  rcases List.mem_append.mp hrow with hold | hadded
  · exact h row hold
  · rw [List.mem_singleton.mp hadded]
    exact hnew

/-- A row that takes the place of another has to conform like it. -/
theorem everyRow_putRow {t : Tables} {new : ρ} (h : EveryRow Q t) (hnew : Q.Holds new) :
    EveryRow Q (putRow new t) := by
  intro row hrow
  rw [rows_putRow] at hrow
  obtain ⟨old, hold, rfl⟩ := List.mem_map.mp hrow
  split_ifs
  · exact hnew
  · exact h old hold

/-- A call on rows that are kept one by one keeps them conforming. -/
theorem everyRow_records [NamedTable ρ] [Columns ρ] [Filter φ ρ] (call : Store.RecordCall ρ φ)
    (hcall : call.Respects Q) (h : EveryRow Q db.tables) :
    letI := records ρ φ
    EveryRow Q ((call.perform : Op Database call.Result).exec now db).2.tables := by
  have hlooking (db' : Database) (hframe : OnlyChanges [] db db') : EveryRow Q db'.tables := by
    intro row hrow
    have hname : NamedTable.name ρ ∉ ([] : List TableName) := List.not_mem_nil
    rw [NamedTable.rows_of_agrees (hframe _ hname)] at hrow
    exact h row hrow
  cases call with
  | create given =>
      change EveryRow Q ((create given).exec now db).2.tables
      rw [create_eq]
      rcases insert_cases (draft given) now db with hrefused | ⟨new, db', rfl, hstorable, hnew, heq, htables⟩
      · rw [hrefused.tables_eq]
        exact h
      · rw [heq, htables]
        exact everyRow_addRow h (hcall _ hstorable hnew.holds)
  | update given =>
      change EveryRow Q ((update given).exec now db).2.tables
      rcases update_cases given now db with hrefused | ⟨old, hmem, -, -, hstorable, hrow, heq⟩
      · rw [hrefused.tables_eq]
        exact h
      · rw [heq]
        exact everyRow_putRow h (hcall old now (h old hmem) hstorable hrow.holds)
  | delete id =>
      change EveryRow Q ((delete ρ id).exec now db).2.tables
      rcases delete_cases ρ id now db with hrefused | ⟨old, hmem, -, -, heq⟩
      · rw [hrefused.tables_eq]
        exact h
      · have hburied : Q.Holds (buried old now) := Q.of_entry _ _ (h old hmem)
        rw [heq]
        exact everyRow_putRow h hburied
  | find id => exact hlooking _ (keepsTo_find (ρ := ρ) id now db)
  | findAny id => exact hlooking _ (keepsTo_findAny (ρ := ρ) id now db)
  | list filter order page => exact hlooking _ (keepsTo_list filter order page now db)

end

end Database

/-! ## Reviews -/

/-- All keepers and all reviews conform. -/
structure Gradebook.Conforms (R : RowRules) (b : Gradebook) : Prop where
  keepers : ∀ k ∈ b.keepers, R.keeper.Holds k
  reviews : ∀ r ∈ b.reviews, R.review.Holds r

namespace Gradebook.Conforms

variable {R : RowRules} {b : Gradebook} {r : Review}

/-- A new review has to conform. -/
theorem addReview (h : b.Conforms R) (hr : R.review.Holds r) : (b.addReview r).Conforms R := by
  refine ⟨h.keepers, fun s hs => ?_⟩
  rcases List.mem_append.mp hs with hold | hadded
  · exact h.reviews s hold
  · rw [List.mem_singleton.mp hadded]
    exact hr

theorem putReview (h : b.Conforms R) (hr : R.review.Holds r) : (b.putReview r).Conforms R := by
  refine ⟨h.keepers, fun s hs => ?_⟩
  obtain ⟨old, hold, rfl⟩ := List.mem_map.mp hs
  split_ifs
  · exact hr
  · exact h.reviews old hold

/-- The rating is no matter of the rules. -/
theorem rate (h : b.Conforms R) (id : Int) (now : Instant) : (b.rate id now).Conforms R := by
  refine ⟨fun k hk => ?_, h.reviews⟩
  obtain ⟨old, hold, rfl⟩ := List.mem_map.mp hk
  split_ifs
  · exact RowRules.keeper_rated (h.keepers old hold) _
  · exact h.keepers old hold

end Gradebook.Conforms

namespace Database

variable {R : RowRules} {now : Instant} {db : Database}

/-- The keepers and reviews of a database that conforms do so. -/
theorem gradebook_conforms (h : db.Conforms R) : db.gradebook.Conforms R := ⟨h .keepers, h .reviews⟩

/-- A call on reviews keeps keepers and reviews conforming. -/
theorem reviews_conform (call : Store.RecordCall Review ReviewFilter)
    (hcall : call.Respects R.review) (h : db.Conforms R) :
    ((call.perform : Op Database call.Result).exec now db).2.gradebook.Conforms R := by
  have hbook := gradebook_conforms h
  have hrefused {α : Type} {op : Op Database α} (hop : IsRefused op now db) :
      (op.exec now db).2.gradebook.Conforms R := by
    rw [gradebook_congr hop.tables_eq]
    exact hbook
  have hlooking (db' : Database) (hframe : OnlyChanges [] db db') : db'.gradebook.Conforms R := by
    rw [gradebook_of_onlyChanges hframe List.not_mem_nil List.not_mem_nil]
    exact hbook
  cases call with
  | create given =>
      change ((createReview given).exec now db).2.gradebook.Conforms R
      rcases createReview_cases now db given with
        hop | ⟨keeper, -, -, -, id, db', hstorable, hnew, heq, hafter⟩
      · exact hrefused hop
      · have hadded := hbook.addReview (hcall id hstorable hnew.holds)
        rw [heq, hafter]
        exact hadded.rate _ now
  | update given =>
      change ((updateReview given).exec now db).2.gradebook.Conforms R
      rcases updateReview_cases now db given with
        hop | ⟨old, hmem, -, -, hstorable, hrow, db', heq, hafter⟩
      · exact hrefused hop
      · have hput := hbook.putReview (hcall old now (hbook.reviews old hmem) hstorable hrow.holds)
        rw [heq, hafter]
        exact hput.rate _ now
  | delete id =>
      change ((deleteReview id).exec now db).2.gradebook.Conforms R
      rcases deleteReview_cases now db id with hop | ⟨old, hmem, -, -, db', heq, hafter⟩
      · exact hrefused hop
      · have hburied : R.review.Holds (buried old now) :=
          R.review.of_entry _ _ (hbook.reviews old hmem)
        rw [heq, hafter]
        exact (hbook.putReview hburied).rate _ now
  | find id => exact hlooking _ (keepsTo_find (ρ := Review) id now db)
  | findAny id => exact hlooking _ (keepsTo_findAny (ρ := Review) id now db)
  | list filter order page => exact hlooking _ (keepsTo_list filter order page now db)

/-! ## Reports and moderation -/

/-- Reports and moderators change nothing of a post that is a matter of the rules. -/
theorem posts_conform {b b' : Board} {call : Store.Call} (hstep : Board.Step now b call b')
    (hcall : ∀ c, call ≠ .post c) (h : ∀ p ∈ b.posts, R.post.Holds p) :
    ∀ p ∈ b'.posts, R.post.Holds p := by
  have hput (new : Post) (hnew : R.post.Holds new) :
      ∀ p ∈ (b.putPost new).posts, R.post.Holds p := by
    intro p hp
    obtain ⟨q, hq, rfl⟩ := List.mem_map.mp hp
    split_ifs
    · exact hnew
    · exact h q hq
  cases hstep with
  | stay => exact h
  | create | update | delete => exact absurd rfl (hcall _)
  | file given threshold id post =>
      intro p hp
      obtain ⟨q, hq, rfl⟩ := List.mem_map.mp hp
      split_ifs
      · exact RowRules.post_counted (h q hq) _ _
      · exact h q hq
  | approve id old mem => exact hput _ (RowRules.post_approved (h old mem))
  | block id old mem => exact hput _ (RowRules.post_barred (h old mem))

/-- **A call that respects a set of rules keeps a database conforming to it.** -/
theorem conforms_perform (call : Store.Call) (hcall : call.Respects R) (h : db.Conforms R) :
    ((call.perform : Op Database call.Result).exec now db).2.Conforms R := by
  refine h.of_onlyChanges (perform_onlyChanges call now db) ?_
  have hboard := board_step now db call
  cases call with
  | user call => exact call.forall_mem_writes (everyRow_records call hcall (h .users))
  | keeper call => exact call.forall_mem_writes (everyRow_records call hcall (h .keepers))
  | seeker call => exact call.forall_mem_writes (everyRow_records call hcall (h .seekers))
  | vet call => exact call.forall_mem_writes (everyRow_records call hcall (h .vets))
  | post call => exact call.forall_mem_writes (everyRow_records call hcall (h .posts))
  | message call => exact call.forall_mem_writes (everyRow_records call hcall (h .messages))
  | review call =>
      have hbook : ((call.perform : Op Database call.Result).exec now db).2.gradebook.Conforms R :=
        reviews_conform call hcall h
      intro name hname
      rcases List.mem_pair.mp (call.writes_subset _ hname) with rfl | rfl
      · exact hbook.reviews
      · exact hbook.keepers
  | fileReport report threshold =>
      exact List.forall_mem_cons.mpr
        ⟨posts_conform hboard (by simp) (h .posts), List.forall_mem_singleton.mpr trivial⟩
  | approvePost id =>
      exact List.forall_mem_cons.mpr
        ⟨posts_conform hboard (by simp) (h .posts), List.forall_mem_singleton.mpr trivial⟩
  | blockPost id => exact List.forall_mem_singleton.mpr (posts_conform hboard (by simp) (h .posts))
  | createChat | removeMember =>
      exact List.forall_mem_cons.mpr ⟨trivial, List.forall_mem_singleton.mpr trivial⟩
  | upsertSession | takeSession | deleteSession | addFavourite | removeFavourite =>
      exact List.forall_mem_singleton.mpr trivial
  | userByName _ | keeperOf _ | seekerOf _ | vetOf _ | reportsOn _ | countReports _
  | moderationQueue _ | findChat _ | findAnyChat _ | chatsOf _ _ | isMember _ _ | findSession _
  | favouritesOf _ _ | reachable => exact fun _ hname => nomatch hname

end Database

end Fostering
