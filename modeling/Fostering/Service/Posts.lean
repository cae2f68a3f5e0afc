import Fostering.PostStatus
import Fostering.Service.Ownership
import Fostering.Store.Interface

/-!
# Posts

Everybody sees published posts and their own; a moderator sees all. A post that a viewer may not see
is as good as missing. An author moves a post between the statuses that authors may set, but not out
of moderation's hands.
-/

namespace Fostering

/-- Who looks at posts. -/
structure Viewer where
  userId : Int
  isModerator : Bool
  deriving DecidableEq

namespace Viewer

/-- Whether a viewer may see a post. -/
def sees (viewer : Viewer) (post : Post) : Bool :=
  viewer.isModerator || post.authorId = viewer.userId || post.status = PostStatus.published.name

/-- The user to whose view a list is kept; a moderator's is not. -/
def restriction (viewer : Viewer) : Option Int :=
  if viewer.isModerator then none else some viewer.userId

end Viewer

namespace Posts

/-- The cause of a status that authors may not set. -/
def reservedStatus (status : PostStatus) : Error :=
  .forbidden ("Status '" ++ status.name ++ "' is reserved for moderators")

/-- Reads a status that an author asks for. -/
def authorStatus (text : String) : Except Error PostStatus := do
  let status ← PostStatus.read text
  if status.isAuthorSettable then return status else throw (reservedStatus status)

/-- The status of a new post. -/
def firstStatus (text : String) : Except Error PostStatus :=
  if text = "" then .ok .standard else authorStatus text

/-- The cause of a change to a blocked post. -/
def blocked : Error := .forbidden "Post is blocked by moderation"

variable {σ : Type} [Store.Records σ Post PostFilter]

/-- Writes a post. -/
def create (actor : Int) (request : CreatePost) : Op σ Post := do
  let post := request.toPost actor
  let status ← Op.ofExcept (firstStatus post.status)
  Store.Records.create (← stamped { post with status := status.name })

/-- A post that the viewer may see. -/
def get (viewer : Viewer) (id : Int) : Op σ Post := do
  let post : Post ← Store.Records.find id
  Op.guard (viewer.sees post) (.notFound "Post" id)
  return post

/-- A page of the posts that the viewer may see. -/
def list (viewer : Viewer) (filter : PostFilter) (sort : Option String) (page : Page)
    (defaults : DefaultOrder) : Op σ (List Post) := do
  let _ ← Op.ofExcept (filter.status.mapM PostStatus.read)
  let order ← Op.ofExcept (ListOrder.forRequest sort Post.sortFields defaults)
  Store.Records.list { filter with visibleTo := viewer.restriction } order page

/-- Changes a post of the actor that is not blocked. -/
def update (actor id : Int) (request : UpdatePost) : Op σ Post := do
  let post : Post ← Store.Records.find id
  ensureOwner actor post.authorId "Post"
  Op.guard (post.status ≠ PostStatus.blocked.name) blocked
  let _ ← Op.ofExcept (request.status.value?.mapM authorStatus)
  Store.Records.update (← touched (request.apply post))

/-- Deletes a post of the actor. -/
def delete (actor id : Int) : Op σ Unit := do
  let post : Post ← Store.Records.find id
  ensureOwner actor post.authorId "Post"
  Store.Records.delete Post id

end Posts

namespace PostReports

variable {σ : Type} [Store.Reports σ]

/-- Reports a post; enough reports block it. -/
def file (actor postId : Int) (request : CreateReport) (threshold : Int) : Op σ ReportReceipt := do
  let time ← Op.now
  Store.Reports.file { request.toReport postId actor with createdAt := time } threshold

/-- The reports against a live post. -/
def listFor [Store.Records σ Post PostFilter] (postId : Int) : Op σ (List Report) := do
  let _ : Post ← Store.Records.find postId
  Store.Reports.listFor postId

end PostReports

end Fostering
