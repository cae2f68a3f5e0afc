import Fostering.Proofs.Database.Integrity
import Fostering.Proofs.Database.Rollback
import Fostering.Proofs.Posts.Hidden
import Fostering.Proofs.Posts.ReportCount
import Fostering.Proofs.Requests.Fitting

/-!
# Who can report a post

A report is taken down if its post is live and published, its reporter is a user, and there is no other
report of theirs against it. What is missing first, in another order, is what a refused reporter is told.
The receipt says what the next one to look at the post will see. Approval clears the reports, so all of
their makers may report the post again.

* `Files`, `files_of_ok`: what is stored with a report.
* `exists_fileReport`: which reports are taken down.
* `isOpen_approvePost`: posts that have been approved.
* `report_filing`: all of it, after whatever has happened.
-/

namespace Fostering.Database

/-- There is a live and published post with the id. -/
def IsOpen (db : Database) (postId : Int) : Prop :=
  ∃ p ∈ db.tables.posts, p.entry.id = postId ∧ p.entry.isLive = true ∧ p.status = PostStatus.published.name

/-- A user has made a report against the post with the id. -/
def HasReported (db : Database) (userId postId : Int) : Prop :=
  ∃ r ∈ db.tables.reports, r.postId = postId ∧ r.reporterId = userId

/-- A report has been added, and the receipt for it says what has become of its post. -/
structure Files (given : Report) (threshold : Int) (db : Database) (receipt : ReportReceipt) (db' : Database) :
    Prop where
  same : receipt.report = given.opened receipt.report.id
  unused : ∀ r ∈ db.tables.reports, r.id ≠ receipt.report.id
  added : db'.tables.reports = db.tables.reports ++ [receipt.report]
  /-- No other post has changed. -/
  others : ∀ p : Post, p.entry.id ≠ given.postId → (p ∈ db'.tables.posts ↔ p ∈ db.tables.posts)
  kept : OnlyChanges [.posts, .reports] db db'
  /-- The number and the status are those of the post that is found from now on. -/
  found : ∃ p : Post, p.reportsCount = receipt.reportsCount ∧ p.status = receipt.postStatus ∧
    ∀ now, (Store.Records.find given.postId : Op Database Post).exec now db' = (.ok p, db')
  column : receipt.reportsCount = reportsColumn (db'.board.count given.postId)
  /-- A column of 32 bits holds the number as it is below two thousand million. -/
  counts : db'.board.count given.postId < 2 ^ 31 → receipt.reportsCount = db'.board.count given.postId
  status : receipt.postStatus = PostStatus.published.name ∨ receipt.postStatus = PostStatus.blocked.name
  blocks : receipt.postStatus = PostStatus.blocked.name ↔
    0 < threshold ∧ threshold ≤ db'.board.count given.postId

section

variable {db db' : Database} {given : Report} {threshold : Int} {now : Instant} {receipt : ReportReceipt}

/-! ## What is stored with a report -/

/-- A report that is taken down is stored, and counts for its post. -/
theorem files_of_ok (hids : db.board.ids.Nodup)
    (hok : (fileReport given threshold).exec now db = (.ok receipt, db')) :
    Files given threshold db receipt db' := by
  rcases fileReport_cases now db given threshold with
    ⟨cause, db'', hrefused, -⟩ | ⟨old, hmem, hid, hlive, -, id, db'', hnew, heq, hboard⟩
  · rw [hok] at hrefused
    cases hrefused
  rw [hok] at heq
  cases heq
  let n : Int := (db.board.addReport (given.opened id)).count given.postId
  let post : Post := old.counted n threshold now
  have hcount : db'.board.count given.postId = n := by
    rw [hboard, Board.count_congr Board.reports_recount]
  have hpost : post ∈ db'.board.posts := by
    rw [hboard]
    exact List.mem_map.mpr ⟨old, hmem, if_pos hid⟩
  have hids' : db'.board.ids.Nodup := by
    rw [hboard, Board.ids_recount, Board.ids_addReport]
    exact hids
  have hkept : OnlyChanges [.posts, .reports] db db' := by
    have hkeeps := perform_onlyChanges (.fileReport given threshold) now db
    change OnlyChanges [.posts, .reports] db ((fileReport given threshold).exec now db).2 at hkeeps
    rwa [hok] at hkeeps
  have hfound (later : Instant) : (Store.Records.find given.postId : Op Database Post).exec later db' =
      (.ok post, db') := hid ▸ find_of_mem hids' hpost hlive later
  exact {
    same := rfl
    unused := hnew.unused
    added := congrArg Board.reports hboard
    others := fun p hne => by
      change p ∈ db'.board.posts ↔ p ∈ db.board.posts
      rw [hboard]
      refine ⟨fun hp => ?_, fun hp => Board.mem_recount_of_ne hp hne⟩
      obtain ⟨q, hq, hqid, ⟨hsame, -⟩ | ⟨-, rfl⟩⟩ := Board.mem_recount hp
      · exact absurd (hqid.trans hsame) hne
      · exact hq
    kept := hkept
    found := ⟨post, rfl, rfl, hfound⟩
    column := by
      dsimp only
      rw [hcount]
    counts := fun hlt => by
      dsimp only
      rw [hcount] at hlt ⊢
      exact reportsColumn_eq Board.count_nonneg hlt
    status := by
      unfold Post.statusAfterReport
      split_ifs
      · exact .inr rfl
      · exact .inl rfl
    blocks := by
      rw [hcount]
      exact @Post.status_counted_eq_blocked old _ _ now }

/-! ## Which reports are taken down -/

/-- A post is found open if its reports may be taken down. -/
theorem IsOpen.find? (hopen : db.IsOpen given.postId) (hids : db.board.ids.Nodup) : ∃ p : Post,
    (Table.rows db.tables).find? (fun p : Post => p.entry.id = given.postId && p.entry.isLive) = some p ∧
      p.status = PostStatus.published.name := by
  obtain ⟨p, hp, hid, hlive, hpublished⟩ := hopen
  exact ⟨p, hid ▸ find?_of_live hids hp hlive, hpublished⟩

/-- A post is open to reports unless it is gone or not published. -/
theorem not_isOpen_iff {postId : Int} : ¬db.IsOpen postId ↔
    ∀ p ∈ db.tables.posts, p.entry.id = postId → p.entry.isLive = true →
      p.status ≠ PostStatus.published.name :=
  ⟨fun h p hp hid hlive hpublished => h ⟨p, hp, hid, hlive, hpublished⟩,
    fun h ⟨p, hp, hid, hlive, hpublished⟩ => h p hp hid hlive hpublished⟩

variable (hsound : Sound db.tables) (hcounted : Counted db)
include hsound hcounted

/-- The first report of a user against a post that is open is taken down. -/
theorem exists_fileReport (hopen : db.IsOpen given.postId) (huser : given.reporterId ∈ ids User db.tables)
    (hfirst : ¬db.HasReported given.reporterId given.postId)
    (hstorable : Schema.isStorable (given.opened given.id) = true) (threshold : Int) (now : Instant) :
    ∃ receipt db', (fileReport given threshold).exec now db = (.ok receipt, db') := by
  obtain ⟨p, hfind, hpublished⟩ := hopen.find? (hsound .posts).keys
  have hpost : Schema.hasId db.tables.posts given.postId = true := hasId_of_live hopen
  let new : Report := numbered db (given.opened given.id)
  have hclash : Schema.clash? db.tables new = none := by
    refine index_of_none fun r hr htaken => ?_
    rw [Bool.and_eq_true, decide_eq_true_eq, decide_eq_true_eq] at htaken
    exact hfirst ⟨r, (Schema.mem_others.mp hr).1, htaken⟩
  have hnew : IsInsertable db.tables new :=
    { holds := rfl
      clash := hclash
      unused := hcounted.ne_id_numbered (given.opened given.id)
      orphan := (if_pos hpost).trans (missingUser?_of_mem huser _ _) }
  have hinsert := insert_of_isInsertable _ now hstorable rfl hnew
  exact ⟨_, _, fileReport_of_insert now db hfind hpublished hinsert threshold⟩

/-- A report that would be the second one of a user against its post is refused. -/
theorem isRefusedFor_fileReport_of_repeated (hopen : db.IsOpen given.postId)
    (hrepeated : db.HasReported given.reporterId given.postId)
    (hstorable : Schema.isStorable (given.opened 0) = true) (threshold : Int) (now : Instant) :
    IsRefusedFor (fileReport given threshold) (.conflict "You have already reported this post") now db := by
  obtain ⟨other, hother, htaken⟩ := hrepeated
  have hmisfit : Misfit now db .reports (.fileReport given threshold) _ :=
    .secondReport given other threshold hstorable hopen hother htaken
  exact (isAtomic_perform _).isRefusedFor (hmisfit.wastes hsound hcounted).refused

/-- A report of somebody who is no user is refused. -/
theorem isRefusedFor_fileReport_of_nobody (hopen : db.IsOpen given.postId)
    (hmissing : given.reporterId ∉ ids User db.tables)
    (hstorable : Schema.isStorable (given.opened 0) = true) (threshold : Int) (now : Instant) :
    IsRefusedFor (fileReport given threshold) (.validation (Reference.message ⟨"reports", "reporter_id"⟩)) now
      db := by
  have hmisfit : Misfit now db .reports (.fileReport given threshold) _ :=
    .reportByNobody given threshold hstorable hopen hmissing
  exact (isAtomic_perform _).isRefusedFor (hmisfit.wastes hsound hcounted).refused

omit hcounted in
/-- Nobody who is no user has reported a post. -/
theorem mem_users_of_hasReported {userId postId : Int} (h : db.HasReported userId postId) :
    userId ∈ ids User db.tables := by
  obtain ⟨r, hr, -, rfl⟩ := h
  exact (hsound.isClosed.reports r hr).2

end

/-! ## Posts that have been approved -/

/-- An approved post is open, and nobody has reported it. -/
theorem isOpen_approvePost {db db' : Database} {id : Int} {now : Instant} {post : Post}
    (hok : (approvePost id).exec now db = (.ok post, db')) :
    db'.IsOpen id ∧ (∀ userId, ¬db'.HasReported userId id) ∧ db'.tables.users = db.tables.users := by
  -- approving succeeds on one path only: the post is found, and there is something to approve
  rcases find_cases Post id now db with ⟨old, hmem, hid, hlive, hfind⟩ | ⟨-, hfind⟩
  case inr =>
    have hrefused : IsRefused (approvePost id) now db :=
      (IsRefused.bind ⟨_, db, hfind, rfl⟩ _).atomically
    obtain ⟨cause, db'', herror, -⟩ := hrefused
    rw [hok] at herror
    cases herror
  by_cases hdue : old.status = PostStatus.blocked.name ∨ old.reportsCount ≠ 0
  case neg =>
    obtain ⟨cause, db'', herror, -⟩ := isRefused_approvePost now db hfind hdue
    rw [hok] at herror
    cases herror
  have happroved := approvePost_of_due now db hfind hdue
  rw [hok] at happroved
  cases happroved
  let b : Board := (db.board.clear id).putPost (old.approved now)
  have hopen : old.approved now ∈ b.posts := by
    refine Board.mem_putPost_self ?_
    rw [Board.ids_clear]
    exact Board.mem_ids (b := db.board) (p := old) hmem
  refine ⟨⟨old.approved now, hopen, hid, hlive, rfl⟩, ?_, rfl⟩
  rintro userId ⟨r, hr, hpost, -⟩
  have hcleared : r ∈ (db.board.clear id).reports := hr
  have hother := (List.mem_filter.mp hcleared).2
  rw [decide_eq_true hpost] at hother
  cases hother

/-! ## Reports of the service -/

/-- The report that a request asks for can be stored. -/
theorem isStorable_filed {actor postId : Int} {request : CreateReport} {now : Instant}
    (hplain : isStorableText request.reason = true) (hnow : now.isStorable = true) (id : Int) :
    Schema.isStorable ((PostReports.filed actor postId request now).opened id) = true := by
  refine isStorable_of (List.forall_mem_singleton.mpr hplain) (List.forall_mem_singleton.mpr ?_)
  exact (Instant.isStorable_stored now).trans hnow

section

variable {db : Database} {actor postId : Int} {request : CreateReport} {now : Instant}
  (hsound : Sound db.tables) (hcounted : Counted db) (hplain : isStorableText request.reason = true)
  (hnow : now.isStorable = true)
include hsound hcounted hplain hnow

/-- A second report by a user is refused. -/
theorem isRefusedFor_file_of_repeated (hopen : db.IsOpen postId) (hrepeated : db.HasReported actor postId)
    (threshold : Int) : IsRefusedFor (PostReports.file actor postId request threshold)
      (.conflict "You have already reported this post") now db := by
  unfold IsRefusedFor
  rw [PostReports.exec_file]
  exact isRefusedFor_fileReport_of_repeated hsound hcounted hopen hrepeated (isStorable_filed hplain hnow 0)
    threshold now

/-- A report by somebody who is no user is refused. -/
theorem isRefusedFor_file_of_nobody (hopen : db.IsOpen postId) (hmissing : actor ∉ ids User db.tables)
    (threshold : Int) : IsRefusedFor (PostReports.file actor postId request threshold)
      (.validation (Reference.message ⟨"reports", "reporter_id"⟩)) now db := by
  unfold IsRefusedFor
  rw [PostReports.exec_file]
  exact isRefusedFor_fileReport_of_nobody hsound hcounted hopen hmissing (isStorable_filed hplain hnow 0)
    threshold now

/-- A first report by a user on a published post is stored. -/
theorem exists_file (hopen : db.IsOpen postId) (huser : actor ∈ ids User db.tables)
    (hfirst : ¬db.HasReported actor postId) (threshold : Int) :
    ∃ receipt db', (PostReports.file actor postId request threshold : Op Database ReportReceipt).exec now db =
      (.ok receipt, db') := by
  rw [PostReports.exec_file]
  exact exists_fileReport hsound hcounted hopen huser hfirst (isStorable_filed hplain hnow _) threshold now

/-- Whatever is missing, the report is refused. -/
theorem exists_file_iff (threshold : Int) :
    (∃ receipt db', (PostReports.file actor postId request threshold : Op Database ReportReceipt).exec now db =
      (.ok receipt, db')) ↔ db.IsOpen postId ∧ actor ∈ ids User db.tables ∧ ¬db.HasReported actor postId := by
  refine ⟨?_, fun ⟨hopen, huser, hfirst⟩ =>
    exists_file hsound hcounted hplain hnow hopen huser hfirst threshold⟩
  rintro ⟨receipt, db', hok⟩
  have hopen : db.IsOpen postId := by
    by_contra h
    rw [Posts.exec_file_of_unpublished (not_isOpen_iff.mp h)] at hok
    cases hok
  refine ⟨hopen, ?_, fun hrepeated => ?_⟩
  · by_contra hmissing
    obtain ⟨db'', herror, -⟩ := isRefusedFor_file_of_nobody hsound hcounted hplain hnow hopen hmissing threshold
    rw [hok] at herror
    cases herror
  · obtain ⟨db'', herror, -⟩ :=
      isRefusedFor_file_of_repeated hsound hcounted hplain hnow hopen hrepeated threshold
    rw [hok] at herror
    cases herror

end

/-- **A report is taken down exactly if its post is live and published, its reporter is a user, and they have
not reported the post before.** Otherwise it is refused: for the post first, then for the other report,
then for the reporter; and no table changes. A report that is taken down is one more row, and the receipt
says how the post is found from then on. Whoever had reported a post can do so again once it is approved. -/
theorem report_filing (events : List Event) (actor postId : Int) {request : CreateReport}
    (hplain : isStorableText request.reason = true) (threshold : Int) {now : Instant}
    (hnow : now.isStorable = true) :
    let db := after events
    let file (actor : Int) : Op Database ReportReceipt := PostReports.file actor postId request threshold
    ((∃ receipt db', (file actor).exec now db = (.ok receipt, db')) ↔
      db.IsOpen postId ∧ actor ∈ ids User db.tables ∧ ¬db.HasReported actor postId) ∧
    (¬db.IsOpen postId → (file actor).exec now db = (.error (.notFound "Post" postId), db)) ∧
    (db.IsOpen postId → db.HasReported actor postId →
      IsRefusedFor (file actor) (.conflict "You have already reported this post") now db) ∧
    (db.IsOpen postId → ¬db.HasReported actor postId → actor ∉ ids User db.tables →
      IsRefusedFor (file actor) (.validation (Reference.message ⟨"reports", "reporter_id"⟩)) now db) ∧
    (∀ receipt db', (file actor).exec now db = (.ok receipt, db') →
      Files (PostReports.filed actor postId request now) threshold db receipt db') ∧
    ∀ later post db', (Store.Moderation.approve postId : Op Database Post).exec later db = (.ok post, db') →
      ∀ userId, db.HasReported userId postId →
        ∃ receipt db'', (file userId).exec now db' = (.ok receipt, db'') := by
  intro db file
  have hsound : Sound db.tables := isSound_after events
  have hcounted : Counted db := ids_le_lastId events
  refine ⟨exists_file_iff hsound hcounted hplain hnow threshold,
    fun hhidden => Posts.exec_file_of_unpublished (not_isOpen_iff.mp hhidden) actor request threshold now,
    fun hopen hrepeated => isRefusedFor_file_of_repeated hsound hcounted hplain hnow hopen hrepeated threshold,
    fun hopen _ hmissing => isRefusedFor_file_of_nobody hsound hcounted hplain hnow hopen hmissing threshold,
    fun receipt db' hok => ?_, fun later post db' happrove userId hreported => ?_⟩
  · rw [PostReports.exec_file] at hok
    exact files_of_ok (nodup_ids_after events) hok
  · obtain ⟨hopen, hcleared, husers⟩ := isOpen_approvePost happrove
    have hafter : db' = after (events ++ [.call (.approvePost postId) later]) := by
      rw [after_append_singleton]
      exact (congrArg Prod.snd happrove).symm
    have hsound' : Sound db'.tables := hafter ▸ isSound_after _
    have hcounted' : Counted db' := hafter ▸ ids_le_lastId _
    have huser : userId ∈ ids User db'.tables := by
      change userId ∈ db'.tables.users.map Table.id
      rw [husers]
      exact mem_users_of_hasReported hsound hreported
    exact exists_file hsound' hcounted' hplain hnow hopen huser (hcleared userId) threshold

/-- Boris can report the kitten, once; somebody who is no user cannot. -/
theorem report_filing_kitten :
    let file (actor : Int) : Op Database ReportReceipt := PostReports.file actor 1 { reason := "Spam" } 5
    (∃ receipt db', (file 2).exec ⟨2, 0⟩ (after kitten) = (.ok receipt, db') ∧
      Files (PostReports.filed 2 1 { reason := "Spam" } ⟨2, 0⟩) 5 (after kitten) receipt db') ∧
    IsRefusedFor (file 3) (.validation (Reference.message ⟨"reports", "reporter_id"⟩)) ⟨2, 0⟩
      (after kitten) := by
  have hopen : (after kitten).IsOpen 1 := by
    unfold IsOpen
    decide +kernel
  have hfirst (actor : Int) : ¬(after kitten).HasReported actor 1 := by
    rintro ⟨r, hr, -⟩
    have hnone : (after kitten).tables.reports = [] := by decide +kernel
    rw [hnone] at hr
    cases hr
  have hboris : 2 ∈ ids User (after kitten).tables := by decide +kernel
  have hnobody : 3 ∉ ids User (after kitten).tables := by decide +kernel
  have hfiling (actor : Int) :=
    @report_filing kitten actor 1 { reason := "Spam" } (by decide) 5 ⟨2, 0⟩ (by decide)
  obtain ⟨hok, -, -, -, hfiles, -⟩ := hfiling 2
  obtain ⟨-, -, -, hrefused, -⟩ := hfiling 3
  obtain ⟨receipt, db', hexec⟩ := hok.mpr ⟨hopen, hboris, hfirst 2⟩
  exact ⟨⟨receipt, db', hexec, hfiles receipt db' hexec⟩, hrefused hopen (hfirst 3) hnobody⟩

end Fostering.Database
