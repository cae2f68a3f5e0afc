import Fostering.Database.Store
import Fostering.Proofs.Calls
import Fostering.Proofs.Database.Statements

/-!
# What the database refuses

An operation *answers* if it gives a result or is refused for a fault of the caller (`Op.Answers`).
The database refuses on other grounds, too: for a text or an instant that has no stored form, for a row
that breaks a check, and for an order by a column that is not there. A call *fits* if it gives no such
ground (`Store.Call.Fits`).

* `answers_perform`: a call that fits is answered.
* `fails_update`: a change after which the row would break a check is not.
-/

namespace Fostering

/-- A change sets no instants of its own. -/
theorem isStorable_unset : ∀ t ∈ Schema.entryInstants {}, t.isStorable = true := by decide

/-- All causes but internal ones are faults of the caller. -/
theorem Error.status_lt {cause : Error} (h : ∀ message, cause ≠ .internal message) :
    cause.status < 500 := by
  cases cause with
  | notFound => exact show 404 < 500 by decide
  | validation => exact show 400 < 500 by decide
  | conflict => exact show 409 < 500 by decide
  | unauthorized => exact show 401 < 500 by decide
  | forbidden => exact show 403 < 500 by decide
  | internal message => exact absurd rfl (h message)

namespace Op

variable {σ α β : Type} {t : Instant} {s : σ}

/-- An operation gives a result, or is refused for a fault of the caller. -/
def Answers (op : Op σ α) (t : Instant) (s : σ) : Prop :=
  ∀ cause, (op.exec t s).1 = .error cause → cause.status < 500

/-- An operation that gives a result answers. -/
theorem answers_of_ok {op : Op σ α} {a : α} {s' : σ} (h : op.exec t s = (.ok a, s')) :
    op.Answers t s := by
  intro cause hcause
  rw [h] at hcause
  cases hcause

/-- A result that is there already is an answer. -/
theorem answers_pure (a : α) : (pure a : Op σ α).Answers t s := answers_of_ok rfl

/-- To decline is to answer. -/
theorem Declines.answers {op : Op σ α} (h : op.Declines t s) : op.Answers t s := by
  obtain ⟨cause, hstatus, heq⟩ := h
  intro cause' hcause
  rw [heq] at hcause
  cases hcause
  exact hstatus

/-- A refusal is an answer if the caller is to blame. -/
theorem answers_refuse {cause : Error} (h : cause.status < 500) : (refuse cause : Op σ α).Answers t s :=
  (declines_of_exec h rfl).answers

theorem answers_guard {cause : Error} (h : cause.status < 500) (condition : Bool) :
    (guard condition cause : Op σ Unit).Answers t s := by
  cases condition
  · exact answers_refuse h
  · exact answers_pure ()

/-- A condition that holds is not refused at all. -/
theorem answers_guard_of_true {condition : Bool} (h : condition = true) (cause : Error) :
    (guard condition cause : Op σ Unit).Answers t s :=
  answers_of_ok (exec_guard_of_true h cause t s)

/-- To refuse what is absent is an answer if the caller is to blame. -/
theorem answers_orRefuse {cause : Error} (h : cause.status < 500) (a? : Option α) :
    (orRefuse cause a? : Op σ α).Answers t s := by
  cases a? with
  | none => exact answers_refuse h
  | some a => exact answers_pure a

/-- A verdict is an answer if it blames nobody but the caller. -/
theorem answers_ofExcept {r : Except Error α} (h : ∀ cause, r = .error cause → cause.status < 500) :
    (ofExcept r : Op σ α).Answers t s := by
  cases r with
  | ok a => exact answers_pure a
  | error cause => exact answers_refuse (h cause rfl)

/-- An operation answers if its first step does, and then the rest after what the first step gave. -/
theorem Answers.bind {op : Op σ α} {f : α → Op σ β} (h : op.Answers t s)
    (hf : ∀ a s', op.exec t s = (.ok a, s') → (f a).Answers t s') : (op >>= f).Answers t s := by
  intro cause hcause
  rcases heq : op.exec t s with ⟨refusal | a, s'⟩
  · rw [exec_bind_error heq] at hcause
    cases hcause
    exact h cause (by rw [heq])
  · rw [exec_bind_ok heq] at hcause
    exact hf a s' heq cause hcause

/-- The rest is all that matters after a step that was taken. -/
theorem Answers.after {op : Op σ α} {f : α → Op σ β} {a : α} {s' : σ} (hop : op.exec t s = (.ok a, s'))
    (h : (f a).Answers t s') : (op >>= f).Answers t s := by
  intro cause hcause
  rw [exec_bind_ok hop] at hcause
  exact h cause hcause

end Op

namespace Database

open Op

variable {ρ α : Type} {now : Instant} {db : Database}

/-- What is undone as a whole is refused for the same cause. -/
theorem fst_atomically (op : Op Database α) (now : Instant) (db : Database) :
    ((atomically op).exec now db).1 = (op.exec now db).1 := by
  rcases heq : op.exec now db with ⟨cause | a, db'⟩
  · rw [exec_atomically_of_error heq]
  · rw [atomically_of_ok heq]

/-- What is undone as a whole gives no ids back. -/
theorem sequences_atomically (op : Op Database α) (now : Instant) (db : Database) :
    ((atomically op).exec now db).2.sequences = (op.exec now db).2.sequences := by
  rcases heq : op.exec now db with ⟨cause | a, db'⟩
  · rw [exec_atomically_of_error heq]
  · rw [atomically_of_ok heq]

/-- A transaction answers if its steps do. -/
theorem answers_atomically {op : Op Database α} (h : op.Answers now db) :
    (atomically op).Answers now db := by
  intro cause hcause
  rw [fst_atomically] at hcause
  exact h cause hcause

/-- To look at the tables is an answer. -/
theorem answers_looking (f : Tables → α) : (look f).Answers now db := answers_of_ok (exec_look f now db)

theorem answers_time : Database.now.Answers now db := answers_of_ok (exec_now now db)

/-- A change of the tables answers. -/
theorem answers_changing (f : Tables → Tables) : (change f).Answers now db :=
  answers_of_ok (exec_change f now db)

/-! ## Rows -/

section

variable [Schema ρ]

/-- An id that is taken is the caller's fault. -/
theorem answers_guardKey (row : ρ) : (guardKey row).Answers now db :=
  (answers_looking _).bind fun _ _ _ => answers_guard (Error.status_lt (by simp)) _

/-- A row that clashes with another is the caller's fault. -/
theorem answers_guardUnique (row : ρ) : (guardUnique row).Answers now db := by
  refine (answers_looking _).bind fun index? db' _ => ?_
  rcases index? with _ | index
  · exact answers_pure ()
  · exact answers_refuse (Error.status_lt (by simp))

/-- A row that refers to none is the caller's fault. -/
theorem answers_guardReferences (row : ρ) : (guardReferences row).Answers now db := by
  refine (answers_looking _).bind fun reference? db' _ => ?_
  rcases reference? with _ | reference
  · exact answers_pure ()
  · exact answers_refuse (Error.status_lt (by simp))

/-- A row that passes the checks of its table is refused for a fault of the caller only. -/
theorem answers_guardRow {row : ρ} (hholds : Schema.holds row = true) : (guardRow row).Answers now db :=
  (answers_guard_of_true hholds checkBroken).bind fun _ _ _ => answers_guardUnique row

/-- A new row is answered if it has a stored form and passes the checks. -/
theorem answers_insert {row : ρ} (hstorable : Schema.isStorable row = true)
    (hholds : ∀ id, Schema.holds (Table.setId id row) = true) : (insert row).Answers now db := by
  refine (answers_guard_of_true hstorable unstorable).bind fun _ _ _ => ?_
  refine Answers.after (exec_takeId now _) ?_
  refine (answers_guard_of_true (hholds _) checkBroken).bind fun _ _ _ => ?_
  refine (answers_guardKey _).bind fun _ _ _ => (answers_guardUnique _).bind fun _ _ _ => ?_
  refine (answers_guardReferences _).bind fun _ _ _ => ?_
  exact Answers.after (exec_append _ now _) (answers_pure _)

end

section

variable [Editable ρ]

/-- To ask for a row that is not there is a fault of the caller. -/
theorem status_notFound (ρ : Type) [Editable ρ] (id : Int) : (notFound ρ id).status < 500 :=
  Error.status_lt nofun

/-- To find a row is answered. -/
theorem answers_find (id : Int) : (find ρ id).Answers now db :=
  (answers_looking _).bind fun _ _ _ => answers_orRefuse (status_notFound ρ id) _

theorem answers_findAny (id : Int) : (findAny ρ id).Answers now db :=
  (answers_looking _).bind fun _ _ _ => answers_orRefuse (status_notFound ρ id) _

/-- A change is answered if the columns that it sets have a stored form and the row that comes of it
passes the checks. -/
theorem answers_update {given : ρ} (hstorable : Schema.isStorable (Editable.overwrite given default) = true)
    (hholds : ∀ old, Schema.holds (changed given old now) = true) : (update given).Answers now db := by
  have hguard : (guardStorable (Editable.overwrite given default)).exec now db = (.ok (), db) :=
    Op.exec_guard_of_true hstorable unstorable now db
  refine Answers.after hguard ?_
  refine (answers_find (Table.id given)).bind fun old _ _ => Answers.after (exec_now now _) ?_
  refine (answers_guardRow (hholds old)).bind fun _ _ _ => ?_
  exact Answers.after (exec_replace _ now _) (answers_pure _)

/-- A change after which a row would break a check fails, if there is a row to change. -/
theorem fails_update {given : ρ}
    (hlive : ∃ old ∈ (Table.rows db.tables : List ρ), Table.id old = Table.id given ∧
      HasEntry.isLive old = true)
    (hbroken : ∀ old, Schema.holds (changed given old now) = false) :
    ∃ message, ((update given).exec now db).1 = .error (.internal message) := by
  unfold update
  rcases hstorable : Schema.isStorable (Editable.overwrite given default)
  · have hguard : (guardStorable (Editable.overwrite given default)).exec now db =
        (.error unstorable, db) := Op.exec_guard_of_false hstorable unstorable now db
    rw [Op.exec_bind_error hguard]
    exact ⟨_, rfl⟩
  have hguard : (guardStorable (Editable.overwrite given default)).exec now db = (.ok (), db) :=
    Op.exec_guard_of_true hstorable unstorable now db
  rcases find_cases ρ (Table.id given) now db with ⟨old, -, -, -, hfind⟩ | ⟨hnone, -⟩
  · have hchecks : (guardChecks (changed given old now)).exec now db = (.error checkBroken, db) :=
      Op.exec_guard_of_false (hbroken old) checkBroken now db
    have hrow : (guardRow (changed given old now)).exec now db = (.error checkBroken, db) :=
      Op.exec_bind_error hchecks
    refine ⟨"check violated", ?_⟩
    rw [Op.exec_bind_ok hguard, Op.exec_bind_ok hfind, Op.exec_bind_ok (exec_now now db)]
    exact congrArg Prod.fst (Op.exec_bind_error hrow)
  · obtain ⟨old, hmem, hid, hlive⟩ := hlive
    rw [hnone old hmem hid] at hlive
    cases hlive

/-- A deletion is answered, whether or not there is a row. -/
theorem answers_delete (id : Int) : (delete ρ id).Answers now db := by
  refine (answers_find id).bind fun row _ _ => answers_time.bind fun time _ _ => ?_
  exact answers_of_ok (exec_replace _ now _)

end

/-- A list is answered if the texts of its filter have a stored form and its column is there. -/
theorem answers_list {φ : Type} [Table ρ] [HasEntry ρ] [Columns ρ] [Filter φ ρ] {filter : φ}
    {order : ListOrder} (htexts : (Filter.texts ρ filter).all isStorableText = true)
    (hcolumn : (Columns.column? (ρ := ρ)
      (String.ofList (order.column.toList.map Char.toLower))).isSome = true) (page : Page) :
    (list filter order page : Op Database (List ρ)).Answers now db := by
  obtain ⟨key, hkey⟩ := Option.isSome_iff_exists.mp hcolumn
  refine (answers_guard_of_true htexts unstorable).bind fun _ _ _ => ?_
  rw [hkey]
  exact Answers.after (exec_orRefuse_some noSuchColumn key now _) (answers_looking _)

/-! ## Rows that depend on others -/

/-- To work a rating out anew is answered. -/
theorem answers_refreshRating (keeperId : Int) : (refreshRating keeperId).Answers now db := by
  refine (answers_looking _).bind fun rating _ _ => answers_time.bind fun time _ _ => ?_
  exact answers_of_ok (exec_updateWhere _ _ now _)

/-- A review that can be stored, and whose grade is one, is answered. -/
theorem answers_createReview {given : Review} (hstorable : Schema.isStorable (draft given) = true)
    (hholds : ∀ id, Schema.holds (Table.setId id (draft given)) = true) :
    (createReview given).Answers now db := by
  refine answers_atomically ((answers_find _).bind fun _ _ _ => ?_)
  have hinsert (db' : Database) : (insert (draft given)).Answers now db' :=
    answers_insert hstorable hholds
  refine Answers.bind (hinsert _) fun review _ _ => ?_
  exact (answers_refreshRating _).bind fun _ _ _ => answers_pure _

/-- A change of a review is answered if the grade is one and the comment can be stored. -/
theorem answers_updateReview {given : Review}
    (hstorable : Schema.isStorable (Editable.overwrite given default) = true)
    (hholds : ∀ old, Schema.holds (changed given old now) = true) :
    (updateReview given).Answers now db := by
  refine answers_atomically ((answers_update hstorable hholds).bind fun review _ _ => ?_)
  exact (answers_refreshRating _).bind fun _ _ _ => answers_pure _

/-- The deletion of a review is answered. -/
theorem answers_deleteReview (id : Int) : (deleteReview id).Answers now db := by
  refine answers_atomically ((answers_find id).bind fun review _ _ => ?_)
  exact (answers_delete id).bind fun _ _ _ => answers_refreshRating _

/-- A report that can be stored is answered. -/
theorem answers_fileReport {report : Report}
    (hstorable : Schema.isStorable { report with createdAt := report.createdAt.stored } = true)
    (threshold : Int) : (fileReport report threshold).Answers now db := by
  refine answers_atomically ((answers_looking _).bind fun post? _ _ => ?_)
  refine (answers_guard (status_notFound Post _) _).bind fun _ _ _ => ?_
  refine (answers_insert hstorable fun _ => rfl).bind fun report _ _ => ?_
  refine (answers_looking _).bind fun count _ _ => answers_time.bind fun time _ _ => ?_
  exact Answers.after (exec_updateWhere _ _ now _) (answers_pure _)

/-- An approval is answered. -/
theorem answers_approvePost (id : Int) : (approvePost id).Answers now db := by
  refine answers_atomically ((answers_find id).bind fun post _ _ => ?_)
  refine (answers_guard (Error.status_lt (by simp)) _).bind fun _ _ _ => ?_
  refine Answers.after (exec_eraseWhere _ now _) (answers_time.bind fun time _ _ => ?_)
  exact Answers.after (exec_replace _ now _) (answers_pure _)

/-- A block is answered. -/
theorem answers_blockPost (id : Int) : (blockPost id).Answers now db := by
  refine (answers_find id).bind fun post _ _ => answers_time.bind fun time _ _ => ?_
  exact Answers.after (exec_replace _ now _) (answers_pure _)

/-- A new chat as it is handed to the database. -/
def draftChat (given : Chat) : Chat :=
  { given with entry := { createdAt := given.entry.createdAt.stored,
                          updatedAt := given.entry.updatedAt.stored } }

/-- A chat that can be stored is answered. -/
theorem answers_createChat {given : Chat} (hstorable : Schema.isStorable (draftChat given) = true)
    (ids : List Int) : (createChat given ids).Answers now db := by
  refine answers_atomically ((answers_looking _).bind fun count _ _ => ?_)
  refine (answers_guard (Error.status_lt (by simp)) _).bind fun _ _ _ => ?_
  have hinsert (db' : Database) : (insert (draftChat given)).Answers now db' :=
    answers_insert hstorable fun _ => rfl
  refine Answers.bind (hinsert _) fun chat _ _ => answers_time.bind fun joinedAt _ _ => ?_
  exact (answers_changing _).bind fun _ _ _ => answers_pure _

/-- To ask for a chat that is not there is a fault of the caller. -/
theorem status_noSuchChat (id : Int) : (noSuchChat id).status < 500 := Error.status_lt nofun

/-- To find a live chat is answered. -/
theorem answers_findChat (id : Int) : (findChat id).Answers now db := by
  refine (answers_looking _).bind fun chat? _ _ => ?_
  exact (answers_orRefuse (status_noSuchChat id) chat?).bind fun _ _ _ => answers_looking _

/-- To find any chat is answered. -/
theorem answers_findAnyChat (id : Int) : (findAnyChat id).Answers now db := by
  refine (answers_looking _).bind fun chat? _ _ => ?_
  exact (answers_orRefuse (status_noSuchChat id) chat?).bind fun _ _ _ => answers_looking _

/-- To leave a chat is answered. -/
theorem answers_removeMember (chatId userId : Int) : (removeMember chatId userId).Answers now db := by
  refine answers_atomically ((answers_looking _).bind fun chat? _ _ => ?_)
  refine (answers_orRefuse (status_noSuchChat chatId) chat?).bind fun chat _ _ => ?_
  refine (answers_looking _).bind fun isThere _ _ => ?_
  refine (answers_guard (status_noSuchChat chatId) isThere).bind fun _ _ _ => ?_
  refine (answers_changing _).bind fun _ _ _ => (answers_looking _).bind fun isEmpty _ _ => ?_
  exact answers_time.bind fun time _ _ => answers_of_ok (exec_replace _ now _)

/-- To mark a keeper is answered. -/
theorem answers_addFavourite (userId keeperId : Int) :
    (addFavourite userId keeperId).Answers now db := by
  refine (answers_find keeperId).bind fun _ _ _ => (answers_looking _).bind fun mark? _ _ => ?_
  rcases mark? with _ | mark
  · refine (answers_looking _).bind fun reference? _ _ => ?_
    rcases reference? with _ | reference
    · exact answers_time.bind fun _ _ _ => (answers_changing _).bind fun _ _ _ => answers_pure _
    · exact answers_refuse (Error.status_lt (by simp))
  · exact answers_pure mark

/-- To take a mark away is answered. -/
theorem answers_removeFavourite (userId keeperId : Int) :
    (removeFavourite userId keeperId).Answers now db := by
  refine (answers_looking _).bind fun mark? _ _ => ?_
  exact (answers_guard (Error.status_lt (by simp)) _).bind fun _ _ _ => answers_changing _

/-! ## Sessions -/

/-- A session that can be stored is answered. -/
theorem answers_upsertSession {given : Session} (hstorable : Schema.isStorable given = true) :
    (upsertSession given).Answers now db := by
  refine (answers_guard_of_true hstorable unstorable).bind fun _ _ _ => ?_
  refine Answers.after (exec_takeId now _) (answers_time.bind fun time _ _ => ?_)
  refine (answers_looking _).bind fun old? _ _ => ?_
  rcases old? with _ | old
  · refine (answers_guardKey _).bind fun _ _ _ => (answers_guardRow rfl).bind fun _ _ _ => ?_
    refine (answers_guardReferences _).bind fun _ _ _ => ?_
    exact Answers.after (exec_append _ now _) (answers_pure _)
  · refine (answers_guardRow rfl).bind fun _ _ _ => ?_
    exact Answers.after (exec_replace _ now _) (answers_pure _)

/-- A digest has to be a text that can be stored to be looked for. -/
theorem answers_findSession {hash : String} (h : isStorableText hash = true) :
    (findSession hash).Answers now db :=
  (answers_guard_of_true h unstorable).bind fun _ _ _ => answers_time.bind fun _ _ _ => answers_looking _

theorem answers_takeSession {hash : String} (h : isStorableText hash = true) :
    (takeSession hash).Answers now db := by
  refine (answers_guard_of_true h unstorable).bind fun _ _ _ => answers_time.bind fun time _ _ => ?_
  refine (answers_looking _).bind fun session? _ _ => ?_
  exact Answers.after (exec_eraseWhere _ now _) (answers_pure _)

theorem answers_deleteSession (userId : Int) {fingerprint : String}
    (h : isStorableText fingerprint = true) : (deleteSession userId fingerprint).Answers now db := by
  refine (answers_guard_of_true h unstorable).bind fun _ _ _ => ?_
  refine (answers_looking _).bind fun session? _ _ => ?_
  exact Answers.after (exec_eraseWhere _ now _) (answers_pure _)

end Database

/-! ## Calls -/

namespace Store

open Database

/-- Nothing that the caller is not to blame for stands against a call on rows: what is new or changed
has a stored form and passes the checks, and so does what a list is asked for. -/
def RecordCall.Fits {ρ φ : Type} [Editable ρ] [Columns ρ] [Filter φ ρ] (now : Instant) :
    RecordCall ρ φ → Prop
  | create given => Schema.isStorable (draft given) = true ∧
      ∀ id, Schema.holds (Table.setId id (draft given)) = true
  | update given => Schema.isStorable (Editable.overwrite given default) = true ∧
      ∀ old, Schema.holds (changed given old now) = true
  | list filter order _ => (Filter.texts ρ filter).all isStorableText = true ∧
      (Columns.column? (ρ := ρ) (String.ofList (order.column.toList.map Char.toLower))).isSome = true
  | find _ | findAny _ | delete _ => True

/-- Nothing that the caller is not to blame for stands against a call. -/
def Call.Fits (now : Instant) : Call → Prop
  | user call => call.Fits now
  | keeper call => call.Fits now
  | seeker call => call.Fits now
  | vet call => call.Fits now
  | post call => call.Fits now
  | review call => call.Fits now
  | message call => call.Fits now
  | userByName name => isStorableText name = true
  | fileReport report _ =>
    Schema.isStorable { report with createdAt := report.createdAt.stored } = true
  | createChat chat _ => Schema.isStorable (draftChat chat) = true
  | upsertSession session => Schema.isStorable session = true
  | findSession hash | takeSession hash => isStorableText hash = true
  | deleteSession _ fingerprint => isStorableText fingerprint = true
  | _ => True

end Store

namespace Database

open Op

variable {now : Instant} {db : Database}

/-- A call on records that fits is answered. -/
theorem answers_records {ρ φ : Type} [Editable ρ] [Columns ρ] [Filter φ ρ]
    (call : Store.RecordCall ρ φ) (h : call.Fits now) :
    letI := records ρ φ
    (call.perform : Op Database call.Result).Answers now db := by
  cases call with
  | create given => exact answers_insert (ρ := ρ) h.1 h.2
  | find id => exact answers_find (ρ := ρ) id
  | findAny id => exact answers_findAny (ρ := ρ) id
  | list filter order page => exact answers_list h.1 h.2 page
  | update given => exact answers_update (ρ := ρ) h.1 h.2
  | delete id => exact answers_delete (ρ := ρ) id

/-- **A call that fits gives a result, or is refused for a fault of the caller.** -/
theorem answers_perform (call : Store.Call) (h : call.Fits now) :
    (call.perform : Op Database call.Result).Answers now db := by
  cases call with
  | user call => exact answers_records call h
  | keeper call => exact answers_records call h
  | seeker call => exact answers_records call h
  | vet call => exact answers_records call h
  | post call => exact answers_records call h
  | message call => exact answers_records call h
  | review call =>
      cases call with
      | create given => exact answers_createReview h.1 h.2
      | find id => exact answers_find (ρ := Review) id
      | findAny id => exact answers_findAny (ρ := Review) id
      | list filter order page => exact answers_list h.1 h.2 page
      | update given => exact answers_updateReview h.1 h.2
      | delete id => exact answers_deleteReview id
  | userByName name =>
      exact (answers_guard_of_true h unstorable).bind fun _ _ _ => answers_looking _
  | keeperOf userId | seekerOf userId | vetOf userId => exact answers_looking _
  | fileReport report threshold => exact answers_fileReport h threshold
  | reportsOn postId | countReports postId | moderationQueue page => exact answers_looking _
  | approvePost id => exact answers_approvePost id
  | blockPost id => exact answers_blockPost id
  | createChat chat ids => exact answers_createChat h ids
  | findChat id => exact answers_findChat id
  | findAnyChat id => exact answers_findAnyChat id
  | chatsOf userId page | isMember chatId userId => exact answers_looking _
  | removeMember chatId userId => exact answers_removeMember chatId userId
  | upsertSession session => exact answers_upsertSession h
  | findSession hash => exact answers_findSession h
  | takeSession hash => exact answers_takeSession h
  | deleteSession userId fingerprint => exact answers_deleteSession userId h
  | addFavourite userId keeperId => exact answers_addFavourite userId keeperId
  | removeFavourite userId keeperId => exact answers_removeFavourite userId keeperId
  | favouritesOf userId page => exact answers_looking _
  | reachable => exact answers_pure true

end Database

end Fostering
