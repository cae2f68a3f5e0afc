import Fostering.Proofs.Database.Flaws
import Fostering.Proofs.Memory.Posts

/-!
# Reports in both stores

A report against a post is filed in both stores, or refused for the same cause, and it blocks the post in
both or in none.
-/

namespace Fostering

open Database (IsInsertable)

variable {users : List Int} {names : Names} {db : Database} {mem : Memory} {now now' : Instant}
  {actor i i' threshold : Int}

/-! ## Reports in memory -/

namespace Memory

/-- A post in memory after a report. -/
def counted (count threshold : Int) (p : Post) : Post :=
  { p with reportsCount := reportsColumn count, status := (Post.statusAfterReport count threshold).name }

variable {report : Report}

/-- A post in memory that is not published cannot be reported. -/
theorem exec_fileReport_of_unpublished
    (h : (mem.posts.any fun p => isLiveRow report.postId p && p.status = PostStatus.published.name) = false) :
    (fileReport report threshold).exec now mem = (.error (.notFound "Post" report.postId), mem) := by
  have hlook := Op.exec_look (fun m : Memory => m.posts.any fun p =>
    isLiveRow report.postId p && p.status = PostStatus.published.name) now mem
  rw [h] at hlook
  exact (Op.exec_bind_ok hlook).trans (Op.exec_bind_error (Op.exec_guard_of_false rfl _ now mem))

/-- A post in memory cannot be reported twice by a user. -/
theorem exec_fileReport_of_repeated
    (h : (mem.posts.any fun p => isLiveRow report.postId p && p.status = PostStatus.published.name) = true)
    (hrepeated : ((reportsFor mem report.postId).any fun r => r.reporterId = report.reporterId) = true) :
    (fileReport report threshold).exec now mem =
      (.error (.conflict "You have already reported this post"), mem) := by
  have hlook := Op.exec_look (fun m : Memory => m.posts.any fun p =>
    isLiveRow report.postId p && p.status = PostStatus.published.name) now mem
  rw [h] at hlook
  have hreports := Op.exec_look (fun m => (reportsFor m report.postId).any fun r =>
    r.reporterId = report.reporterId) now mem
  rw [hrepeated] at hreports
  refine (Op.exec_bind_ok hlook).trans ((Op.exec_bind_ok (Op.exec_guard_of_true rfl _ now mem)).trans ?_)
  exact (Op.exec_bind_ok hreports).trans (Op.exec_bind_error (Op.exec_guard_of_false rfl _ now mem))

/-- The first report of a user on a published post in memory is stored and counted. -/
theorem exec_fileReport_of_first
    (h : (mem.posts.any fun p => isLiveRow report.postId p && p.status = PostStatus.published.name) = true)
    (hfirst : ((reportsFor mem report.postId).any fun r => r.reporterId = report.reporterId) = false)
    {new : Report} (hnew : new = { report with id := mem.lastId + 1 }) {count : Int}
    (hcount : count = ((mem.reports ++ [new]).filter fun r => r.postId = report.postId).length) :
    (fileReport report threshold).exec now mem =
      (.ok ⟨new, reportsColumn count, (Post.statusAfterReport count threshold).name⟩,
        { mem with
          lastId := mem.lastId + 1
          reports := mem.reports ++ [new]
          posts := modifyFirst (fun p => p.entry.id = report.postId) (counted count threshold) mem.posts }) := by
  have hlook := Op.exec_look (fun m : Memory => m.posts.any fun p =>
    isLiveRow report.postId p && p.status = PostStatus.published.name) now mem
  rw [h] at hlook
  have hreports := Op.exec_look (fun m => (reportsFor m report.postId).any fun r =>
    r.reporterId = report.reporterId) now mem
  rw [hfirst] at hreports
  subst hnew hcount
  refine (Op.exec_bind_ok hlook).trans ((Op.exec_bind_ok (Op.exec_guard_of_true rfl _ now mem)).trans ?_)
  exact (Op.exec_bind_ok hreports).trans (Op.exec_bind_ok (Op.exec_guard_of_true rfl _ now mem))

end Memory

/-! ## Reports in the database -/

namespace Database

variable {given : Report}

/-- A report that the database does not insert is refused for that cause. -/
theorem exec_fileReport_of_refused {post : Post} {cause : Error} {db₁ : Database}
    (hpost : (Table.rows db.tables).find? (fun p : Post => p.entry.id = given.postId && p.entry.isLive) =
      some post)
    (hpublished : post.status = PostStatus.published.name)
    (hinsert : (insert { given with createdAt := given.createdAt.stored }).exec now db = (.error cause, db₁)) :
    (fileReport given threshold).exec now db = (.error cause, { db₁ with tables := db.tables }) := by
  have hlook := exec_find? (fun p : Post => p.entry.id = given.postId && p.entry.isLive) now db
  rw [hpost] at hlook
  have hstatus : decide ((some post).map Post.status = some PostStatus.published.name) = true := by
    simpa using hpublished
  have hguard := Op.exec_guard_of_true hstatus (notFound Post given.postId) now db
  refine exec_atomically_of_error ((Op.exec_bind_ok hlook).trans ((Op.exec_bind_ok hguard).trans ?_))
  exact Op.exec_bind_error hinsert

end Database

/-! ## Reports in both stores -/

namespace Simulates

/-- A post is there to be reported in both stores, or in none. -/
theorem published_or_not (h : Simulates users names db mem) (hi : Refers names.posts i i') :
    (∃ p p' : Post, Found names db mem i i' p p' ∧ p.status = PostStatus.published.name ∧
        (mem.posts.any fun q => Memory.isLiveRow i' q && q.status = PostStatus.published.name) = true) ∨
      ((Table.rows db.tables).find? fun q : Post => q.entry.id = i && q.entry.isLive).map Post.status ≠
          some PostStatus.published.name ∧
        (mem.posts.any fun q => Memory.isLiveRow i' q && q.status = PostStatus.published.name) = false := by
  rcases h.found_or_none (ρ := Post) hi with ⟨p, p', hfound⟩ | ⟨hnone, hnone'⟩
  · have hany := h.posts.any_eq hfound fun q => q.status = PostStatus.published.name
    rw [← hfound.matched.2.same.status_eq] at hany
    have hfirst : (Table.rows db.tables).find? (fun q : Post => q.entry.id = i && q.entry.isLive) = some p :=
      hfound.first
    by_cases hpublished : p.status = PostStatus.published.name
    · exact .inl ⟨p, p', hfound, hpublished, hany.trans (decide_eq_true hpublished)⟩
    · refine .inr ⟨?_, hany.trans (decide_eq_false hpublished)⟩
      rw [hfirst, Option.map_some, ne_eq, Option.some_inj]
      exact hpublished
  · have hfirst : (Table.rows db.tables).find? (fun q : Post => q.entry.id = i && q.entry.isLive) = none :=
      hnone
    refine .inr ⟨?_, List.any_eq_false.mpr fun q hq hboth => ?_⟩
    · rw [hfirst]
      exact nofun
    · exact List.find?_eq_none.mp hnone' q hq (Bool.and_eq_true_iff.mp hboth).1

/-- Reports against the same post that somebody made are in both stores, or in none. -/
theorem reported_eq (h : Simulates users names db mem) (hi : Refers names.posts i i') (actor : Int) :
    (db.tables.reports.any fun r => r.postId = i && r.reporterId = actor) =
      ((Memory.reportsFor mem i').any fun r => r.reporterId = actor) := by
  unfold Memory.reportsFor
  rw [List.any_filter]
  refine h.reports.matched.any fun _ _ hr => ?_
  rw [decide_eq_decide.mpr (h.posts.oneToOne.eq_iff hi hr.2.post), hr.2.reporterId]

/-- A new report clashes with one that somebody made before. -/
theorem clash_report (h : Simulates users names db mem) (hi : Refers names.posts i i') {new : Report}
    (hid : new.id = db.sequences.reports + 1) (hpost : new.postId = i) :
    Schema.clash? db.tables new =
      if (Memory.reportsFor mem i').any fun r => r.reporterId = new.reporterId then some .reportPostReporter
      else none := by
  have hothers : Schema.others db.tables new = db.tables.reports :=
    List.filter_eq_self.mpr fun r hr => decide_eq_true (h.reports.unused hid r hr)
  rw [← h.reported_eq hi, ← hothers, ← hpost]
  rfl

/-- The reports against the same post are the same. -/
theorem reportsOn (h : Simulates users names db mem) (hi : Refers names.posts i i') :
    List.Forall₂ (Report.Alike names) (db.tables.reports.filter fun r => r.postId = i)
      (Memory.reportsFor mem i') :=
  h.reports.matched.filter fun _ _ hr => decide_eq_decide.mpr (h.posts.oneToOne.eq_iff hi hr.2.post)

/-- A report that somebody makes is the same in both stores. -/
theorem addReport (h : Simulates users names db mem) {r r' : Report}
    (hid : r.id = db.sequences.reports + 1) (hid' : r'.id = mem.lastId + 1)
    (hsame : Report.Same names.posts r r') :
    Simulates users (names.addReport r.id r'.id)
      { db with
        tables := Database.addRow r db.tables
        sequences := { db.sequences with reports := db.sequences.reports + 1 } }
      { mem with lastId := mem.lastId + 1, reports := mem.reports ++ [r'] } where
  users := h.users
  posts := h.posts.skip
  reports := h.reports.append hid hid' hsame
  chats := h.chats.skip
  members := h.members
  messages := h.messages.skip

/-- The same number of reports leaves the same post. -/
theorem recount (h : Simulates users names db mem) {p p' : Post} (hfound : Found names db mem i i' p p')
    (count threshold : Int) :
    Simulates users names
      { db with
        tables := Database.mapRows (fun q : Post => q.entry.id = i) (fun q => q.counted count threshold now)
          db.tables }
      { mem with
        posts := Memory.modifyFirst (fun q => q.entry.id = i') (Memory.counted count threshold) mem.posts } := by
  obtain ⟨hsame, hsound⟩ := hfound.matched.2
  let change (q : Post) : Post :=
    { q with reportsCount := reportsColumn count, status := (Post.statusAfterReport count threshold).name }
  have hcounted : Post.KeptAs (p.counted count threshold now) (Memory.counted count threshold p') :=
    ⟨⟨hsame.isDeleted, congrArg change hsame.rest⟩, RowRules.sound.post_counted hsound count threshold⟩
  have hposts := h.posts.change hfound (f := fun q => q.counted count threshold now)
    (decide_eq_true hfound.key_and'.1) (fun q _ hq => of_decide_eq_true hq) rfl rfl hcounted
    fun _ _ hq _ => hq.2
  unfold Database.mapRows
  simp only [decide_eq_true_eq]
  exact { h with posts := hposts }

/-! Reports that are the same are filed against a post that was found and is published. -/

section

variable (given given' : Report) {p p' : Post} (h : Simulates users names db mem)
  (hfound : Found names db mem given.postId given'.postId p p')
  (hpublished : p.status = PostStatus.published.name)
  (hany : (mem.posts.any fun q => Memory.isLiveRow given'.postId q && q.status = PostStatus.published.name) =
    true)
  (hreporter : given.reporterId = given'.reporterId)
  (hstorable : Schema.isStorable { given with createdAt := given.createdAt.stored } = true)

include h hfound hpublished hany hreporter hstorable

/-- Whoever has made a report before is refused. -/
theorem file_repeated {Q : ReportReceipt → ReportReceipt → Database → Memory → Prop}
    (hrepeated : ((Memory.reportsFor mem given'.postId).any fun r => r.reporterId = given'.reporterId) = true) :
    Op.Couples (Refused users names) now now' (Database.fileReport given threshold)
      (Memory.fileReport given' threshold) db mem Q := by
  let new : Report := given.opened (db.sequences.reports + 1)
  have hid : new.id = db.sequences.reports + 1 := rfl
  have hunused := h.reports.unused hid
  have hclash : Schema.clash? db.tables new = some .reportPostReporter := by
    rw [← hreporter] at hrepeated
    exact (h.clash_report (.made hfound.made) hid rfl).trans (if_pos hrepeated)
  have hinsert := Database.exec_insert_of_clash now hstorable rfl rfl hunused hclash
  -- the database has used an id up
  have hafter : Simulates users names
      { db with sequences := { db.sequences with reports := db.sequences.reports + 1 } } mem :=
    { h with reports := h.reports.mono (Int.le_add_one (Int.le_refl _)) (Int.le_refl _) }
  exact Op.couples_of_error (Database.exec_fileReport_of_refused hfound.first hpublished hinsert)
    (Memory.exec_fileReport_of_repeated hany hrepeated) ⟨.same nofun, hafter⟩

/-- The first report that somebody makes is filed, and counts for the post. -/
theorem file_first (huser : given.reporterId ∈ users) (hreason : given.reason = given'.reason)
    (hfirst : ((Memory.reportsFor mem given'.postId).any fun r => r.reporterId = given'.reporterId) = false) :
    Op.Couples (Refused users names) now now' (Database.fileReport given threshold)
      (Memory.fileReport given' threshold) db mem fun r r' db' mem' =>
        r.Alike (names.addReport r.report.id r'.report.id) r' ∧
          Simulates users (names.addReport r.report.id r'.report.id) db' mem' := by
  have hi : Refers names.posts given.postId given'.postId := .made hfound.made
  let new : Report := given.opened (db.sequences.reports + 1)
  let new' : Report := { given' with id := mem.lastId + 1 }
  have hid : new.id = db.sequences.reports + 1 := rfl
  have hid' : new'.id = mem.lastId + 1 := rfl
  have hclash : Schema.clash? db.tables new = none := by
    rw [← hreporter] at hfirst
    exact (h.clash_report hi hid rfl).trans (if_neg (ne_true_of_eq_false hfirst))
  have hpost : Schema.hasId db.tables.posts given.postId = true :=
    Schema.hasId_iff.mpr (List.mem_map.mpr ⟨p, hfound.mem, hfound.key_and.1⟩)
  have hinsertable : IsInsertable db.tables new :=
    { holds := rfl
      clash := hclash
      unused := h.reports.unused hid
      orphan := (if_pos hpost).trans (h.users.missingUser?_eq_none huser _ _) }
  have hinsert := Database.insert_of_isInsertable _ now hstorable rfl hinsertable
  have hsame : Report.Same names.posts new new' := ⟨hfound.made, hreporter, hreason⟩
  have hadd := h.addReport hid hid' hsame
  -- both stores count the same reports
  let count : Int := ((db.tables.reports ++ [new]).filter fun r => r.postId = given.postId).length
  have hcount : count = ((mem.reports ++ [new']).filter fun r => r.postId = given'.postId).length :=
    congrArg Nat.cast (hadd.reportsOn hi).length_eq
  have hfile := Database.fileReport_of_insert now db hfound.first hpublished hinsert threshold
  have hfile' : (Memory.fileReport given' threshold).exec now' mem = (.ok ⟨new', _, _⟩, _) :=
    Memory.exec_fileReport_of_first hany hfirst rfl hcount
  have hmem : (new.id, new'.id) ∈ (names.addReport new.id new'.id).reports :=
    List.mem_append_right _ (List.mem_singleton_self _)
  exact Op.couples_of_exec hfile hfile' ⟨⟨⟨hmem, hsame⟩, rfl, rfl⟩, hadd.recount hfound count threshold⟩

end

end Simulates

namespace PostReports

/-- A report is filed in both stores, or in none, and blocks the post in both or in none. -/
theorem couples_file (h : Simulates users names db mem) (hactor : actor ∈ users)
    (hi : Refers names.posts i i') {request : CreateReport} (hplain : Request.OfPlain request)
    (hnow : now.isStorable = true) :
    Op.Couples (Refused users names) now now' (file actor i request threshold : Op Database ReportReceipt)
      (file actor i' request threshold : Op Memory ReportReceipt) db mem fun r r' db' mem' =>
        r.Alike (names.addReport r.report.id r'.report.id) r' ∧
          Simulates users (names.addReport r.report.id r'.report.id) db' mem' := by
  refine .after ?_ (Op.exec_now now db) (Op.exec_now now' mem)
  let given : Report := { request.toReport i actor with createdAt := now }
  let given' : Report := { request.toReport i' actor with createdAt := now' }
  change Op.Couples _ now now' (Database.fileReport given threshold) (Memory.fileReport given' threshold) db mem _
  have htexts : HasStorableTexts { given with createdAt := now.stored } :=
    CreateReport.hasStorableTexts hplain i actor
  have hinstant : now.stored.isStorable = true := by
    rw [Instant.isStorable_stored]
    exact hnow
  have hstorable := isStorable_of htexts (List.forall_mem_singleton.mpr hinstant)
  rcases h.published_or_not hi with ⟨p, p', hfound, hpublished, hany⟩ | ⟨hstatus, hany⟩
  · cases hrepeated : (Memory.reportsFor mem i').any fun r => r.reporterId = actor with
    | true => exact h.file_repeated given given' hfound hpublished hany rfl hstorable hrepeated
    | false => exact h.file_first given given' hfound hpublished hany rfl hstorable hactor rfl hrepeated
  · exact Op.couples_of_error (Database.exec_fileReport_of_unpublished hstatus threshold now)
      (Memory.exec_fileReport_of_unpublished hany) ⟨.post hi, h⟩

/-- Both stores list the same reports on a post. -/
theorem couples_listFor (h : Simulates users names db mem) (hi : Refers names.posts i i') :
    Op.Couples (Refused users names) now now' (listFor i : Op Database (List Report))
      (listFor i' : Op Memory (List Report)) db mem fun rs rs' db' mem' =>
        ListsAlike (Report.Alike names) rs rs' ∧ Simulates users names db' mem' := by
  refine (h.find (ρ := Post) hi).bind_reads fun _ _ _ => ?_
  exact Op.couples_of_exec rfl rfl ⟨⟨_, perm_sortRows .desc _ Report.id _, h.reportsOn hi⟩, h⟩

end PostReports

end Fostering
