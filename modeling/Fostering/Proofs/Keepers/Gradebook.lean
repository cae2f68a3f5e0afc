import Fostering.Proofs.Database.Frames

/-!
# Keepers and the reviews of them

The keepers of a database and the reviews of them make a *gradebook*. Six calls of the store touch it:
three on keepers, and three on reviews, which work the rating of the keeper out anew in the same
transaction. `Gradebook.Step` says all that they can do. A call that is refused leaves the gradebook as
it was, and so does every call that is about something else.

* `Database.gradebook_step`: each call of the store takes a step on the gradebook.
-/

namespace Fostering

/-- Keepers, and the reviews of them. -/
structure Gradebook where
  keepers : List Keeper
  reviews : List Review

namespace Gradebook

/-- The grades in the live reviews of a keeper. -/
def grades (b : Gradebook) (id : Int) : List Int :=
  (b.reviews.filter fun r => r.keeperId = id && r.entry.isLive).map Review.grade

/-- A gradebook with one more keeper. -/
def addKeeper (k : Keeper) (b : Gradebook) : Gradebook := { b with keepers := b.keepers ++ [k] }

/-- A gradebook with a keeper in the place of the one with its id. -/
def putKeeper (k : Keeper) (b : Gradebook) : Gradebook :=
  { b with keepers := b.keepers.map fun l => if l.entry.id = k.entry.id then k else l }

/-- A gradebook with one more review. -/
def addReview (r : Review) (b : Gradebook) : Gradebook := { b with reviews := b.reviews ++ [r] }

/-- A gradebook with a review in the place of the one with its id. -/
def putReview (r : Review) (b : Gradebook) : Gradebook :=
  { b with reviews := b.reviews.map fun s => if s.entry.id = r.entry.id then r else s }

/-- A gradebook in which the rating of a keeper has been worked out anew. -/
def rate (id : Int) (now : Instant) (b : Gradebook) : Gradebook :=
  { b with keepers := b.keepers.map fun k =>
      if k.entry.id = id then
        { k with entry := k.entry.touched now.stored, rating := averageGrade (b.grades id) }
      else k }

/-- What a call of the store can do to a gradebook. -/
inductive Step (now : Instant) (b : Gradebook) : Store.Call → Gradebook → Prop where
  /-- The call is about something else, or it is refused. -/
  | stay (call : Store.Call) : Step now b call b
  /-- A keeper is new, under an id that no keeper has. -/
  | createKeeper (given : Keeper) (id : Int) (unused : ∀ k ∈ b.keepers, k.entry.id ≠ id) :
      Step now b (.keeper (.create given)) (b.addKeeper (Table.setId id (Database.draft given)))
  /-- A live keeper is changed. -/
  | updateKeeper (given old : Keeper) (mem : old ∈ b.keepers)
      (same : old.entry.id = given.entry.id) (live : old.entry.isLive = true) :
      Step now b (.keeper (.update given)) (b.putKeeper (Database.changed given old now))
  /-- A live keeper is marked as deleted. -/
  | deleteKeeper (id : Int) (old : Keeper) (mem : old ∈ b.keepers) (same : old.entry.id = id)
      (live : old.entry.isLive = true) :
      Step now b (.keeper (.delete id)) (b.putKeeper (Database.buried old now))
  /-- A live keeper gets a review, under an id that no review has. -/
  | createReview (given : Review) (id : Int) (unused : ∀ r ∈ b.reviews, r.entry.id ≠ id)
      (graded : 1 ≤ given.grade ∧ given.grade ≤ 5) (keeper : Keeper) (mem : keeper ∈ b.keepers)
      (same : keeper.entry.id = given.keeperId) (live : keeper.entry.isLive = true) :
      Step now b (.review (.create given))
        ((b.addReview (Table.setId id (Database.draft given))).rate given.keeperId now)
  /-- A live review is changed. -/
  | updateReview (given old : Review) (mem : old ∈ b.reviews) (same : old.entry.id = given.entry.id)
      (live : old.entry.isLive = true) (graded : 1 ≤ given.grade ∧ given.grade ≤ 5) :
      Step now b (.review (.update given))
        ((b.putReview (Database.changed given old now)).rate old.keeperId now)
  /-- A live review is marked as deleted. -/
  | deleteReview (id : Int) (old : Review) (mem : old ∈ b.reviews) (same : old.entry.id = id)
      (live : old.entry.isLive = true) :
      Step now b (.review (.delete id))
        ((b.putReview (Database.buried old now)).rate old.keeperId now)

end Gradebook

namespace Database

/-- The gradebook of a database. -/
def gradebook (db : Database) : Gradebook := ⟨db.tables.keepers, db.tables.reviews⟩

variable {db db' : Database}

/-- What is in the gradebook is seen from the tables alone. -/
theorem gradebook_congr (h : db'.tables = db.tables) : db'.gradebook = db.gradebook := by
  unfold gradebook
  rw [h]

/-- What changes neither keepers nor reviews leaves the gradebook as it was. -/
theorem gradebook_of_onlyChanges {tables : List TableName} (h : OnlyChanges tables db db')
    (hkeepers : TableName.keepers ∉ tables) (hreviews : TableName.reviews ∉ tables) :
    db'.gradebook = db.gradebook := by
  have heq : db'.tables.keepers = db.tables.keepers := h .keepers hkeepers
  have heq' : db'.tables.reviews = db.tables.reviews := h .reviews hreviews
  unfold gradebook
  rw [heq, heq']

/-- A refused call leaves the gradebook as it was. -/
theorem gradebookStep_of_isRefused {α : Type} {op : Op Database α} {now : Instant}
    (h : IsRefused op now db) (call : Store.Call) :
    Gradebook.Step now db.gradebook call (op.exec now db).2.gradebook := by
  rw [gradebook_congr h.tables_eq]
  exact .stay call

/-- A review passes the checks if its grade is from one to five. -/
theorem holds_review {r : Review} : Schema.holds r = true ↔ 1 ≤ r.grade ∧ r.grade ≤ 5 := by
  change (decide (1 ≤ r.grade) && decide (r.grade ≤ 5)) = true ↔ _
  rw [Bool.and_eq_true, decide_eq_true_eq, decide_eq_true_eq]

/-! ## The calls that touch a gradebook -/

section

variable (now : Instant) (db : Database)

/-- A new keeper is a step of the gradebook. -/
theorem createKeeper_step (given : Keeper) :
    Gradebook.Step now db.gradebook (.keeper (.create given))
      ((create given).exec now db).2.gradebook := by
  rcases insert_cases (draft given) now db with h | ⟨new, db', rfl, -, hnew, heq, htables⟩
  · exact gradebookStep_of_isRefused h _
  · let id : Int := Table.lastId Keeper db.sequences + 1
    have hbook : ((create given).exec now db).2.gradebook =
        db.gradebook.addKeeper (Table.setId id (draft given)) := by
      rw [create_eq, heq]
      unfold gradebook
      rw [htables]
      rfl
    rw [hbook]
    exact .createKeeper given id hnew.unused

theorem updateKeeper_step (given : Keeper) :
    Gradebook.Step now db.gradebook (.keeper (.update given))
      ((update given).exec now db).2.gradebook := by
  rcases update_cases given now db with h | ⟨old, hmem, hid, hlive, -, -, heq⟩
  · exact gradebookStep_of_isRefused h _
  · rw [heq]
    exact .updateKeeper given old hmem hid hlive

theorem deleteKeeper_step (id : Int) :
    Gradebook.Step now db.gradebook (.keeper (.delete id))
      ((delete Keeper id).exec now db).2.gradebook := by
  rcases delete_cases Keeper id now db with h | ⟨old, hmem, hid, hlive, heq⟩
  · exact gradebookStep_of_isRefused h _
  · rw [heq]
    exact .deleteKeeper id old hmem hid hlive

/-- Working a rating out anew is never refused. -/
theorem exec_refreshRating (id : Int) :
    ∃ db', (refreshRating id).exec now db = (.ok (), db') ∧
      db'.gradebook = db.gradebook.rate id now := by
  let isIt (k : Keeper) : Bool := k.entry.id = id
  let change (k : Keeper) : Keeper :=
    { k with entry := k.entry.touched now.stored, rating := ratingOf db.tables id }
  have hlook := exec_look (fun t => ratingOf t id) now db
  refine ⟨{ db with tables := mapRows isIt change db.tables }, ?_, ?_⟩
  · unfold refreshRating
    rw [Op.exec_bind_ok hlook, Op.exec_bind_ok (exec_now now db)]
    exact exec_updateWhere isIt change now db
  · have hkeepers : (Table.rows (mapRows isIt change db.tables) : List Keeper) =
        (db.gradebook.rate id now).keepers := by
      rw [rows_mapRows]
      simp only [isIt, decide_eq_true_eq]
      rfl
    exact congrArg (fun keepers => (⟨keepers, db.tables.reviews⟩ : Gradebook)) hkeepers

/-- Once a review of a keeper who was found is stored, the rating is worked out anew. -/
theorem createReview_of_insert {given new : Review} {keeper : Keeper} {db₁ : Database}
    (hfind : (find Keeper given.keeperId).exec now db = (.ok keeper, db))
    (hinsert : (insert (draft given)).exec now db = (.ok new, db₁)) :
    ∃ db', (createReview given).exec now db = (.ok new, db') ∧
      db'.gradebook = db₁.gradebook.rate new.keeperId now := by
  obtain ⟨db', hrate, hrated⟩ := exec_refreshRating now db₁ new.keeperId
  refine ⟨db', atomically_of_ok ?_, hrated⟩
  rw [Op.exec_bind_ok hfind, create_eq, Op.exec_bind_ok hinsert]
  exact (Op.exec_bind_ok hrate).trans rfl

/-- A new review is refused, or a live keeper gets it and the rating is worked out anew. -/
theorem createReview_cases (given : Review) :
    IsRefused (createReview given) now db ∨
      ∃ keeper ∈ db.tables.keepers, keeper.entry.id = given.keeperId ∧ keeper.entry.isLive = true ∧
        ∃ id db', Schema.isStorable (draft given) = true ∧
          IsInsertable db.tables (Table.setId id (draft given)) ∧
          (createReview given).exec now db = (.ok (Table.setId id (draft given)), db') ∧
          db'.gradebook =
            (db.gradebook.addReview (Table.setId id (draft given))).rate given.keeperId now := by
  rcases find_cases Keeper given.keeperId now db with ⟨keeper, hmem, hid, hlive, hfind⟩ | ⟨-, hfind⟩
  case inr =>
    have hrefused : IsRefused (find Keeper given.keeperId) now db := ⟨_, db, hfind, rfl⟩
    exact .inl (hrefused.bind _).atomically
  rcases insert_cases (draft given) now db with h | ⟨new, db₁, rfl, hstorable, hnew, hinsert, htables⟩
  case inl => exact .inl (IsRefused.after hfind rfl (h.bind _)).atomically
  let id : Int := Table.lastId Review db.sequences + 1
  have hbook : db₁.gradebook = db.gradebook.addReview (Table.setId id (draft given)) := by
    unfold gradebook
    rw [htables]
    rfl
  obtain ⟨db', hcreate, hrated⟩ := createReview_of_insert now db hfind hinsert
  refine .inr ⟨keeper, hmem, hid, hlive, id, db', hstorable, hnew, hcreate, ?_⟩
  rw [hrated, hbook]
  rfl

/-- A change of a review is refused, or a live review is changed and the rating of its keeper is
worked out anew. -/
theorem updateReview_cases (given : Review) :
    IsRefused (updateReview given) now db ∨
      ∃ old ∈ db.tables.reviews, old.entry.id = given.entry.id ∧ old.entry.isLive = true ∧
        Schema.isStorable (Editable.overwrite given default) = true ∧
        IsAdmissible db.tables (changed given old now) ∧
        ∃ db', (updateReview given).exec now db = (.ok (changed given old now), db') ∧
          db'.gradebook = (db.gradebook.putReview (changed given old now)).rate old.keeperId now := by
  rcases update_cases given now db with h | ⟨old, hmem, hid, hlive, hstorable, hrow, hupdate⟩
  case inl => exact .inl (h.bind _).atomically
  obtain ⟨db', hrate, hrated⟩ :=
    exec_refreshRating now { db with tables := putRow (changed given old now) db.tables } old.keeperId
  refine .inr ⟨old, hmem, hid, hlive, hstorable, hrow, db', ?_, hrated⟩
  refine atomically_of_ok ?_
  rw [Op.exec_bind_ok hupdate]
  exact (Op.exec_bind_ok hrate).trans rfl

/-- Once a review was found it is marked as deleted, and the rating of its keeper is worked out anew. -/
theorem deleteReview_of_find {id : Int} {old : Review}
    (hfind : (find Review id).exec now db = (.ok old, db)) :
    ∃ db', (deleteReview id).exec now db = (.ok (), db') ∧
      db'.gradebook = (db.gradebook.putReview (buried old now)).rate old.keeperId now := by
  have hdelete : (delete Review id).exec now db =
      (.ok (), { db with tables := putRow (buried old now) db.tables }) := by
    have hreplace := exec_replace (buried old now) now db
    unfold delete
    rw [Op.exec_bind_ok hfind, Op.exec_bind_ok (exec_now now db)]
    exact hreplace
  obtain ⟨db', hrate, hrated⟩ :=
    exec_refreshRating now { db with tables := putRow (buried old now) db.tables } old.keeperId
  refine ⟨db', atomically_of_ok ?_, hrated⟩
  rw [Op.exec_bind_ok hfind, Op.exec_bind_ok hdelete]
  exact hrate

/-- A deletion of a review is refused, or a live review is marked as deleted and the rating of its
keeper is worked out anew. -/
theorem deleteReview_cases (id : Int) :
    IsRefused (deleteReview id) now db ∨
      ∃ old ∈ db.tables.reviews, old.entry.id = id ∧ old.entry.isLive = true ∧
        ∃ db', (deleteReview id).exec now db = (.ok (), db') ∧
          db'.gradebook = (db.gradebook.putReview (buried old now)).rate old.keeperId now := by
  rcases find_cases Review id now db with ⟨old, hmem, hid, hlive, hfind⟩ | ⟨-, hfind⟩
  case inr =>
    have hrefused : IsRefused (find Review id) now db := ⟨_, db, hfind, rfl⟩
    exact .inl (hrefused.bind _).atomically
  obtain ⟨db', hdelete, hrated⟩ := deleteReview_of_find now db hfind
  exact .inr ⟨old, hmem, hid, hlive, db', hdelete, hrated⟩

/-- A new review is a step, together with the rating that is worked out from it. -/
theorem createReview_step (given : Review) :
    Gradebook.Step now db.gradebook (.review (.create given))
      ((createReview given).exec now db).2.gradebook := by
  rcases createReview_cases now db given with
    h | ⟨keeper, hmem, hid, hlive, id, db', -, hnew, heq, hbook⟩
  · exact gradebookStep_of_isRefused h _
  · rw [heq, hbook]
    have hgraded : 1 ≤ given.grade ∧ given.grade ≤ 5 := holds_review.mp hnew.holds
    exact .createReview given id hnew.unused hgraded keeper hmem hid hlive

theorem updateReview_step (given : Review) :
    Gradebook.Step now db.gradebook (.review (.update given))
      ((updateReview given).exec now db).2.gradebook := by
  rcases updateReview_cases now db given with h | ⟨old, hmem, hid, hlive, -, hrow, db', heq, hbook⟩
  · exact gradebookStep_of_isRefused h _
  · rw [heq, hbook]
    have hgraded : 1 ≤ given.grade ∧ given.grade ≤ 5 := holds_review.mp hrow.holds
    exact .updateReview given old hmem hid hlive hgraded

theorem deleteReview_step (id : Int) :
    Gradebook.Step now db.gradebook (.review (.delete id))
      ((deleteReview id).exec now db).2.gradebook := by
  rcases deleteReview_cases now db id with h | ⟨old, hmem, hid, hlive, db', heq, hbook⟩
  · exact gradebookStep_of_isRefused h _
  · rw [heq, hbook]
    exact .deleteReview id old hmem hid hlive

/-- A call that may change neither keepers nor reviews leaves the gradebook as it was. -/
theorem gradebookStep_of_writes (call : Store.Call) (tables : List TableName)
    (hsub : call.writes ⊆ tables) (hkeepers : TableName.keepers ∉ tables)
    (hreviews : TableName.reviews ∉ tables) :
    Gradebook.Step now db.gradebook call (call.perform.exec now db).2.gradebook := by
  have hkeep := perform_onlyChanges call now db
  rw [gradebook_of_onlyChanges hkeep (fun h => hkeepers (hsub h)) (fun h => hreviews (hsub h))]
  exact .stay call

/-- **Each call of the store takes a step on the gradebook.** -/
theorem gradebook_step (call : Store.Call) :
    Gradebook.Step now db.gradebook call (call.perform.exec now db).2.gradebook := by
  have hnil := List.Subset.refl ([] : List TableName)
  have hother := gradebookStep_of_writes now db
  cases call with
  | keeper call =>
      cases call with
      | create given => exact createKeeper_step now db given
      | update given => exact updateKeeper_step now db given
      | delete id => exact deleteKeeper_step now db id
      | find id | findAny id | list filter order page =>
          exact hother _ [] hnil (by decide) (by decide)
  | review call =>
      cases call with
      | create given => exact createReview_step now db given
      | update given => exact updateReview_step now db given
      | delete id => exact deleteReview_step now db id
      | find id | findAny id | list filter order page =>
          exact hother _ [] hnil (by decide) (by decide)
  | user call => exact hother _ [.users] (call.writes_subset _) (by decide) (by decide)
  | seeker call => exact hother _ [.seekers] (call.writes_subset _) (by decide) (by decide)
  | vet call => exact hother _ [.vets] (call.writes_subset _) (by decide) (by decide)
  | post call => exact hother _ [.posts] (call.writes_subset _) (by decide) (by decide)
  | message call => exact hother _ [.messages] (call.writes_subset _) (by decide) (by decide)
  | fileReport _ _ | approvePost _ | blockPost _ =>
      exact hother _ [.posts, .reports] (by simp [Store.Call.writes]) (by decide) (by decide)
  | createChat _ _ | removeMember _ _ =>
      exact hother _ [.chats, .members] (List.Subset.refl _) (by decide) (by decide)
  | upsertSession _ | takeSession _ | deleteSession _ _ =>
      exact hother _ [.sessions] (List.Subset.refl _) (by decide) (by decide)
  | addFavourite _ _ | removeFavourite _ _ =>
      exact hother _ [.favourites] (List.Subset.refl _) (by decide) (by decide)
  | userByName _ | keeperOf _ | seekerOf _ | vetOf _ | reportsOn _ | countReports _
  | moderationQueue _ | findChat _ | findAnyChat _ | chatsOf _ _ | isMember _ _ | findSession _
  | favouritesOf _ _ | reachable => exact hother _ [] hnil (by decide) (by decide)

end

end Database

end Fostering
