import Fostering.Database.Records
import Fostering.Moderation

/-!
# Reports and decisions on them

A post carries the number of reports against it. Whoever adds or clears reports counts them anew in
the same transaction, so the number is never a guess.
-/

namespace Fostering.Database

/-- The number of reports against a post. -/
def countReports (postId : Int) : Op Database Int :=
  look fun t => (t.reports.filter fun r => r.postId = postId).length

/-- Reports a post and counts the reports; enough of them block it. -/
def fileReport (report : Report) (threshold : Int) : Op Database ReportReceipt := atomically do
  let post? ← find? fun p : Post => p.entry.id = report.postId && p.entry.isLive
  Op.guard ((post?.map Post.status) = some PostStatus.published.name) (notFound Post report.postId)
  let report ← insert { report with createdAt := report.createdAt.stored }
  let count ← countReports report.postId
  let status : PostStatus :=
    if reachesBlockThreshold count threshold then .blocked else .published
  let time ← now
  updateWhere (fun p : Post => p.entry.id = report.postId) fun p =>
    { p with entry := p.entry.touched time, status := status.name,
             reportsCount := reportsColumn count }
  return { report, reportsCount := reportsColumn count, postStatus := status.name }

/-- The reports against a post, the last one first. -/
def listReports (postId : Int) : Op Database (List Report) :=
  look fun t =>
    sortRows .desc (fun r => .moment r.createdAt) Report.id (t.reports.filter fun r => r.postId = postId)

/-- A page of the live posts with reports, those with the most reports first. -/
def moderationQueue (page : Page) : Op Database (List Post) :=
  look fun t =>
    page.slice <| sortRows .desc (fun p : Post => .int p.reportsCount) HasEntry.id <|
      t.posts.filter fun p => p.entry.isLive && 0 < p.reportsCount

/-- Clears the reports against a post and publishes it; there has to be something to clear. -/
def approvePost (postId : Int) : Op Database Post := atomically do
  let post ← find Post postId
  Op.guard (post.status = PostStatus.blocked.name || post.reportsCount ≠ 0)
    (.validation ("Post " ++ toString postId ++ " is " ++ post.status
      ++ " with no reports; nothing to approve"))
  eraseWhere fun r : Report => r.postId = postId
  let post := { post with entry := post.entry.touched (← now),
                          status := PostStatus.published.name, reportsCount := 0 }
  replace post
  return post

/-- Blocks a live post. -/
def blockPost (postId : Int) : Op Database Post := do
  let post ← find Post postId
  let post := { post with entry := post.entry.touched (← now), status := PostStatus.blocked.name }
  replace post
  return post

end Fostering.Database
