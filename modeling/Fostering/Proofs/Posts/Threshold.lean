import Fostering.Proofs.Posts.Integrity
import Fostering.Proofs.Requests.Failures

/-!
# Posts with too many reports

While the threshold is above zero, a post that is not blocked has fewer reports than the threshold, in
every database that comes of the empty one by requests alone. This is no rule of the store: whoever
calls the store may write any status. It is what the service lets through, endpoint by endpoint
(`isBelow_serve`).

The reports against a post never become fewer but by the approval of a moderator, which takes all of
them away (`count_serveAll`). So a post that once had enough reports stays blocked until then.
-/

namespace Fostering

/-- A moderator asks for the approval of a post. -/
def Arrival.Approves (a : Arrival) (config : Config) (id : Int) : Prop :=
  ∃ caller : Caller, caller.isModerator = true ∧ a.Asks config .approvePost caller id

namespace Board

variable {b b' : Board} {p : Post} {t : Int} {x : Exchange} {endpoint : Endpoint}
  {call : Store.Call}

/-- Every post that is not blocked has fewer reports than this. -/
def IsBelow (t : Int) (b : Board) : Prop :=
  ∀ p ∈ b.posts, p.status ≠ PostStatus.blocked.name → b.count p.entry.id < t

/-- Posts stay below the threshold if what takes the place of one is blocked or below it. -/
theorem IsBelow.putPost (h : b.IsBelow t)
    (hp : p.status ≠ PostStatus.blocked.name → b.count p.entry.id < t) :
    (b.putPost p).IsBelow t := by
  intro q hq hfree
  rw [count_congr (b := b) reports_putPost]
  rcases mem_putPost hq with ⟨rfl, -⟩ | ⟨hq, -⟩
  · exact hp hfree
  · exact h q hq hfree

/-- **What the service permits leaves no post with too many reports that is not blocked.** -/
theorem IsBelow.of_permits (hpermits : x.Permits b endpoint call) (hstep : Step x.now b call b')
    (hsound : b.IsSound) (ht : 0 < x.config.reportThreshold)
    (h : b.IsBelow x.config.reportThreshold) : b'.IsBelow x.config.reportThreshold := by
  cases hpermits with
  | create caller request status =>
      cases hstep with
      | stay => exact h
      | create given id unused =>
          intro q hq hfree
          rw [count_congr (b := b) reports_addPost]
          rcases mem_addPost.mp hq with hq | rfl
          · exact h q hq hfree
          · have hid : id ∉ b.ids := not_mem_ids unused
            rw [Post.id_opened, hsound.count_eq_zero hid]
            exact ht
  | update caller request old asks path body mem live own free =>
      cases hstep with
      | stay => exact h
      | update given old' mem' same =>
          -- the post that is found has few reports, for it is not blocked
          refine h.putPost fun _ => ?_
          have hid : old'.entry.id = old.entry.id := same
          rw [Post.id_rewritten, hid]
          exact h old mem free
  | delete caller id old =>
      cases hstep with
      | stay => exact h
      | delete id old' mem => exact h.putPost fun hfree => h old' mem hfree
  | file caller request id =>
      cases hstep with
      | stay => exact h
      | file given threshold newId post =>
          intro q hq hfree
          obtain ⟨p, hp, -, ⟨hpid, rfl⟩ | ⟨hpid, rfl⟩⟩ := mem_recount hq
          · rw [ne_eq, Post.status_counted_eq_blocked] at hfree
            rw [Post.id_counted, hpid, count_congr reports_recount]
            omega
          · rw [count_file_of_ne hpid]
            exact h q hp hfree
  | approve caller id =>
      cases hstep with
      | stay => exact h
      | approve id old mem same =>
          have hclear : (b.clear id).IsBelow x.config.reportThreshold := by
            intro q hq hfree
            by_cases hid : q.entry.id = id
            · rw [hid, count_clear]
              exact ht
            · rw [count_clear_of_ne hid]
              exact h q hq hfree
          refine hclear.putPost fun _ => ?_
          rw [Post.id_approved, same, count_clear]
          exact ht
  | block caller id =>
      cases hstep with
      | stay => exact h
      | block id old => exact h.putPost fun hfree => absurd rfl hfree

end Board

namespace Database

variable {config : Config} {db : Database}

/-- A request leaves no post with too many reports that is not blocked. -/
theorem isBelow_serve (ht : 0 < config.reportThreshold) (a : Arrival) (hsound : db.board.IsSound)
    (h : db.board.IsBelow config.reportThreshold) :
    (db.serve config a).board.IsBelow config.reportThreshold := by
  rcases board_serve config db a with heq | ⟨_, id?, call, -, hpermits, hstep⟩
  · rw [heq]
    exact h
  · exact h.of_permits hpermits hstep hsound ht

/-- No run of requests leaves a post that has reached the threshold and is not blocked. -/
theorem isBelow_serveAll (ht : 0 < config.reportThreshold) (run : List Arrival) :
    (serveAll config {} run).board.IsBelow config.reportThreshold := by
  refine (serveAll_induction (P := fun db =>
    db.board.IsSound ∧ db.board.IsBelow config.reportThreshold) ?_ ?_).2
  · rintro a - db ⟨hsound, h⟩
    exact ⟨isSound_serve hsound, isBelow_serve ht a hsound h⟩
  · exact ⟨isSound_empty, fun p hp => absurd hp List.not_mem_nil⟩

/-- A request takes no reports away, or it takes all those against a post away, and then it is a
moderator's who approves the post. -/
theorem count_serve (config : Config) (db : Database) (a : Arrival) (i : Int) :
    db.board.count i ≤ (db.serve config a).board.count i ∨
      a.Approves config i ∧ (db.serve config a).board.count i = 0 := by
  rcases board_serve config db a with heq | ⟨endpoint, id?, call, hfind, hpermits, hstep⟩
  · rw [heq]
    exact .inl (Int.le_refl _)
  · rcases hstep.count_le (i := i) with h | ⟨rfl, h⟩
    · exact .inl h
    · cases hpermits with
      | approve caller id asks moderator path =>
          exact .inr ⟨⟨caller, moderator, id?, hfind, asks, path⟩, h⟩

/-- **Over a run, the reports against a post only become more, until a moderator approves the post.** -/
theorem count_serveAll (config : Config) (db : Database) (run : List Arrival) (i : Int) :
    db.board.count i ≤ (serveAll config db run).board.count i ∨
      ∃ before a later, run = before ++ a :: later ∧ a.Approves config i ∧
        (serveAll config db (before ++ [a])).board.count i = 0 := by
  induction run generalizing db with
  | nil => exact .inl (Int.le_refl _)
  | cons a run ih =>
      rcases count_serve config db a i with hle | ⟨happroves, hzero⟩
      · rcases ih (db.serve config a) with hle' | ⟨before, a', later, rfl, happroves, hzero⟩
        · exact .inl (Int.le_trans hle hle')
        · exact .inr ⟨a :: before, a', later, rfl, happroves, hzero⟩
      · exact .inr ⟨[], a, run, rfl, happroves, hzero⟩

/-- **Under a threshold above zero, however requests follow one another, a post that is not blocked
has fewer reports than the threshold. So a post that once had as many is blocked until a moderator's
approval has taken its reports away.** -/
theorem reports_below_threshold (config : Config) (ht : 0 < config.reportThreshold)
    (run : List Arrival) :
    (∀ p ∈ (serveAll config {} run).board.posts, p.status ≠ PostStatus.blocked.name →
      (serveAll config {} run).board.count p.entry.id < config.reportThreshold) ∧
    ∀ later : List Arrival, ∀ p ∈ (serveAll config {} (run ++ later)).board.posts,
      config.reportThreshold ≤ (serveAll config {} run).board.count p.entry.id →
      p.status = PostStatus.blocked.name ∨
        ∃ between a rest, later = between ++ a :: rest ∧ a.Approves config p.entry.id ∧
          (serveAll config {} (run ++ between ++ [a])).board.count p.entry.id = 0 := by
  refine ⟨isBelow_serveAll ht run, ?_⟩
  intro later p hp hmany
  by_cases hblocked : p.status = PostStatus.blocked.name
  · exact .inl hblocked
  have hbelow := isBelow_serveAll ht (run ++ later) p hp hblocked
  rw [serveAll_append] at hbelow
  rcases count_serveAll config (serveAll config {} run) later p.entry.id with
    hle | ⟨between, a, rest, heq, happroves, hzero⟩
  · omega
  · refine .inr ⟨between, a, rest, heq, happroves, ?_⟩
    rw [List.append_assoc, serveAll_append]
    exact hzero

/-! ## A post that is reported -/

/-- Anna writes about a kitten. -/
def annaTells : Arrival :=
  annaPosts 61 "/api/v1/posts" "\x7b\"title\":\"Kitten\",\"body\":\"Two months old\"\x7d"

/-- She reports what she wrote. -/
def annaReports : Arrival := annaPosts 62 "/api/v1/posts/1/reports" "\x7b\"reason\":\"Found\"\x7d"

/-- Her post. -/
def annasPost : Post :=
  { entry := { id := 1, createdAt := ⟨61, 0⟩, updatedAt := ⟨61, 0⟩ }, authorId := 1, title := "Kitten",
    body := "Two months old", status := "published" }

/-- What she reports. -/
def annasReport : Report := { id := 1, postId := 1, reporterId := 1, reason := "Found", createdAt := ⟨62, 0⟩ }

/-- A database in which there are Anna, her post, and reports against it. -/
def withPost (passwordHash : String) (post : Post) (reports : List Report) : Database where
  tables := { (withAnna passwordHash [] 0).tables with posts := [post], reports }
  sequences := { users := 1, posts := 1, reports := reports.length }

/-- Anna's post is stored and published. -/
theorem serve_annaTells (passwordHash : String) :
    (withAnna passwordHash [] 0).serve (.blockingAt 1) annaTells =
      withPost passwordHash annasPost [] := by
  let x : Exchange := annaTells.exchange (.blockingAt 1) none
  have hcaller : x.caller = .ok ⟨1, false⟩ := caller_annaPosts (by decide) rfl
  have hreceive : receive CreatePost (Utf8.encode
      "\x7b\"title\":\"Kitten\",\"body\":\"Two months old\"\x7d") =
        .ok { title := "Kitten", body := "Two months old" } := by
    decide +kernel
  have hbody : x.body CreatePost = .ok { title := "Kitten", body := "Two months old" } :=
    Exchange.body_of_receive hreceive
  have hplan : (x.plan .createPost : Except Reply (Action Database)) =
      .ok (.shows 201 Post.view (Posts.create 1 { title := "Kitten", body := "Two months old" })) := by
    change (x.caller >>= fun caller => x.body CreatePost >>= _) = _
    rw [hcaller, hbody]
    rfl
  have hfind : Endpoint.find annaTells.incoming = .endpoint .createPost none :=
    show Endpoint.findIn "POST" (Path.segments "/api/v1/posts") Endpoint.routes = _ by decide
  rw [serve_of_shows hfind hplan]
  rfl

/-- A report of hers blocks it. -/
theorem serve_annaReports (passwordHash : String) :
    (withPost passwordHash annasPost []).serve (.blockingAt 1) annaReports =
      withPost passwordHash (annasPost.counted 1 1 ⟨62, 0⟩) [annasReport] := by
  let x : Exchange := annaReports.exchange (.blockingAt 1) (some ("id", "1"))
  have hcaller : x.caller = .ok ⟨1, false⟩ := caller_annaPosts (by decide) rfl
  have hid : x.id = .ok 1 := readId_one
  have hreceive : receive CreateReport (Utf8.encode "\x7b\"reason\":\"Found\"\x7d") =
      .ok ⟨"Found"⟩ := by decide +kernel
  have hbody : x.body CreateReport = .ok ⟨"Found"⟩ := Exchange.body_of_receive hreceive
  have hplan : (x.plan .createReport : Except Reply (Action Database)) =
      .ok (.shows 201 ReportReceipt.view (PostReports.file 1 1 ⟨"Found"⟩ 1)) := by
    change (x.caller >>= fun caller => x.id >>= fun id => x.body CreateReport >>= _) = _
    rw [hcaller, hid, hbody]
    rfl
  have hfind : Endpoint.find annaReports.incoming = .endpoint .createReport (some ("id", "1")) :=
    show Endpoint.findIn "POST" (Path.segments "/api/v1/posts/1/reports") Endpoint.routes = _ by decide
  have hnow : annaReports.now = ⟨62, 0⟩ := rfl
  have hinsert : (insert { annasReport with id := 0 }).exec ⟨62, 0⟩
      (withPost passwordHash annasPost []) =
        (.ok annasReport, withPost passwordHash annasPost [annasReport]) := rfl
  have hfile : (fileReport { annasReport with id := 0 } 1).exec ⟨62, 0⟩
      (withPost passwordHash annasPost []) = _ :=
    fileReport_of_insert ⟨62, 0⟩ _ rfl rfl hinsert 1
  rw [serve_of_shows hfind hplan, PostReports.exec_file, hnow]
  exact congrArg Prod.snd hfile

/-- She registers, writes the post and reports it. -/
def annaReported : List Arrival := [annaRegisters annasToken, annaTells, annaReports]

/-- What the three requests leave. -/
theorem serveAll_annaReported : ∃ passwordHash, serveAll (.blockingAt 1) {} annaReported =
    withPost passwordHash (annasPost.counted 1 1 ⟨62, 0⟩) [annasReport] := by
  obtain ⟨hash, hregisters⟩ := serve_annaRegisters (.blockingAt 1) annasToken
  refine ⟨hash, ?_⟩
  rw [annaReported, serveAll_cons, hregisters, serveAll_cons, serve_annaTells, serveAll_cons,
    serve_annaReports, serveAll_nil]

/-- Under a threshold of one, a single report blocks her post, and it stays blocked until a moderator approves
it. -/
theorem reports_below_one :
    0 < (Config.blockingAt 1).reportThreshold ∧
      (serveAll (.blockingAt 1) {} annaReported).board.count 1 = 1 ∧
      (∃ p ∈ (serveAll (.blockingAt 1) {} annaReported).board.posts, p.entry.id = 1) ∧
      ∀ later : List Arrival, ∀ p ∈ (serveAll (.blockingAt 1) {} (annaReported ++ later)).board.posts,
        p.entry.id = 1 → p.status = PostStatus.blocked.name ∨
          ∃ between a rest, later = between ++ a :: rest ∧ a.Approves (.blockingAt 1) 1 ∧
            (serveAll (.blockingAt 1) {} (annaReported ++ between ++ [a])).board.count 1 = 0 := by
  have ht : 0 < (Config.blockingAt 1).reportThreshold := by decide
  obtain ⟨hash, hrun⟩ := serveAll_annaReported
  have hcount : (serveAll (.blockingAt 1) {} annaReported).board.count 1 = 1 := by
    rw [hrun]
    rfl
  have hmem : annasPost.counted 1 1 ⟨62, 0⟩ ∈ (serveAll (.blockingAt 1) {} annaReported).board.posts := by
    rw [hrun]
    exact List.mem_singleton_self _
  obtain ⟨-, hblocked⟩ := reports_below_threshold (.blockingAt 1) ht annaReported
  refine ⟨ht, hcount, ⟨_, hmem, rfl⟩, fun later p hp hid => ?_⟩
  have hmany : (Config.blockingAt 1).reportThreshold ≤
      (serveAll (.blockingAt 1) {} annaReported).board.count p.entry.id := by
    rw [hid, hcount]
    exact Int.le_refl 1
  have hleft := hblocked later p hp hmany
  rwa [hid] at hleft

end Database

end Fostering
