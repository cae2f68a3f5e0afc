import Fostering.Http.Body
import Fostering.Http.Caller
import Fostering.Http.Endpoint
import Fostering.Service.Accounts
import Fostering.Service.Chats
import Fostering.Service.Profiles
import Fostering.Service.Reviews
import Fostering.Service.Sessions

/-!
# What the endpoints do

An endpoint first reads its request, without the store: who is asking, the id in the path, the query,
the body, in this order. Whatever is wrong with one of them is the reply, and nothing happens. Only
then it acts on the store. `Exchange.plan` is the first half; the second half is the action that it
gives.
-/

namespace Fostering

/-- What an endpoint does once its request has been read. -/
abbrev Action (σ : Type) := Op σ (Except Breakdown Reply)

namespace Action

variable {σ α : Type}

/-- Shows the result of an operation. -/
def shows (status : Nat) (view : α → Json) (op : Op σ α) : Op σ (Except Breakdown Reply) := do
  return .ok (.success status (view (← op)))

/-- Shows the results of an operation. -/
def showsAll (view : α → Json) (op : Op σ (List α)) : Action σ :=
  shows 200 (fun rows => .list (rows.map view)) op

/-- Shows nothing but that an operation was carried out. -/
def silent (op : Op σ Unit) : Op σ (Except Breakdown Reply) := do
  op
  return .ok (.ofStatus 204)

/-- Shows the tokens that were given. -/
def showsTokens (op : Op σ (Except Breakdown AuthTokens)) :
    Op σ (Except Breakdown Reply) := do
  return (← op).map fun tokens => .success 200 tokens.view

end Action

/-- A request on its way through the service. -/
structure Exchange where
  config : Config
  now : Instant
  /-- Fresh bytes. -/
  random : Bytes
  incoming : Incoming
  /-- The name and the text of the id in the path. -/
  id? : Option (String × String) := none

namespace Exchange

variable (x : Exchange)

/-- Puts a failure in the place of a reply. -/
def orFail {α : Type} : Except Failure α → Except Reply α
  | .ok a => .ok a
  | .error f => .error (.failure f)

/-- Who is asking. -/
def caller : Except Reply Caller :=
  orFail ((Caller.authenticate x.config.token.secret x.now x.incoming).mapError
    fun fault => .refused fault.toError)

/-- The moderator who is asking. -/
def moderator : Except Reply Caller :=
  orFail ((Caller.authenticateModerator x.config.token.secret x.now x.incoming).mapError
    fun fault => .refused fault.toError)

/-- The id in the path. -/
def id : Except Reply Int :=
  match x.id? with
  | some (name, text) => Path.readId name text
  | none => .error (.failure (.broken "the path has no id"))

/-- The request in the body. -/
def body (ρ : Type) [Request ρ] : Except Reply ρ := orFail (receive ρ x.incoming.body)

/-- What a reader finds in the query. -/
def query {α : Type} (read : Bytes → Except String α) : Except Reply α :=
  (read x.incoming.query).mapError Reply.malformed

/-- The order of lists for which none is asked. -/
def defaults : DefaultOrder := x.config.defaultSort

/-- The page that is asked for. -/
def page : Except Reply Page := do return (← x.query Query.pageParams).page

/-- What clients see of the state of the service. -/
def healthView (reachable : Bool) : Json :=
  .object [("service", .text "pethaven-api"), ("version", .text "0.1.0"),
    ("database", .text (if reachable then "up" else "down"))]

variable {σ : Type}

/-- Whether the store answers. -/
def health [Store σ] : Op σ (Except Breakdown Reply) := do
  let reachable : Bool ← Store.reachable
  return .ok (.success (if reachable then 200 else 503) (healthView reachable))

/-! ## Profiles -/

section Profiles

variable (ρ : Type) {φ : Type} [Profile ρ] [Store.Profiles σ ρ φ] (view : ρ → Json)

/-- Lists profiles. -/
def listProfiles (filter : Bytes → Except String φ) : Except Reply (Action σ) := do
  let _ ← x.caller
  let params ← x.query Query.listParams
  let filter ← x.query filter
  return .showsAll view (Profiles.list filter params.sort params.page x.defaults)

/-- Makes a profile of the caller. -/
def createProfile (κ : Type) [Request κ] (make : κ → Int → ρ) : Except Reply (Action σ) := do
  let caller ← x.caller
  let request ← x.body κ
  return .shows 201 view (Profiles.create (make request caller.userId))

/-- Shows a profile. -/
def getProfile : Except Reply (Action σ) := do
  let _ ← x.caller
  let id ← x.id
  return .shows 200 view (Profiles.get id)

/-- Changes a profile of the caller. -/
def updateProfile (κ : Type) [Request κ] (apply : κ → ρ → ρ) : Except Reply (Action σ) := do
  let caller ← x.caller
  let id ← x.id
  let request ← x.body κ
  return .shows 200 view (Profiles.update caller.userId id (apply request))

/-- Deletes a profile of the caller. -/
def deleteProfile : Except Reply (Action σ) := do
  let caller ← x.caller
  let id ← x.id
  return .silent (Profiles.delete ρ caller.userId id)

end Profiles

/-! ## All endpoints -/

/-- Reads a request and says what to do about it, or replies at once. -/
def plan [Store σ] : Endpoint → Except Reply (Action σ)
  | .health => return health
  | .register => do
    let request ← x.body RegisterUser
    return .shows 201 User.view (Accounts.register (x.random.take Password.saltLength) request)
  | .login => do
    let request ← x.body LoginRequest
    return .showsTokens (Logins.login x.config.token x.random request)
  | .refresh => do
    let request ← x.body RefreshRequest
    return .showsTokens (Logins.refresh x.config.token x.random request)
  | .logout => do
    let caller ← x.caller
    let request ← x.body LogoutRequest
    return .silent (Logins.logout caller.userId request.fingerprint)
  | .listUsers => do
    let _ ← x.caller
    let params ← x.query Query.listParams
    let filter ← x.query Query.userFilter
    return .showsAll User.view (Accounts.list filter params.sort params.page x.defaults)
  | .getUser => do
    let _ ← x.caller
    let id ← x.id
    return .shows 200 User.view (Accounts.get id)
  | .updateUser => do
    let caller ← x.caller
    let id ← x.id
    let request ← x.body UpdateUser
    return .shows 200 User.view (Accounts.update caller.userId id request)
  | .deleteUser => do
    let caller ← x.caller
    let id ← x.id
    return .silent (Accounts.delete caller.userId id)
  | .listRoles => do
    let _ ← x.caller
    let id ← x.id
    return .showsAll UserRole.view (Profiles.rolesOf id)
  | .listKeepers => x.listProfiles Keeper Keeper.view Query.keeperFilter
  | .createKeeper => x.createProfile Keeper Keeper.view CreateKeeper CreateKeeper.toKeeper
  | .getKeeper => x.getProfile Keeper Keeper.view
  | .updateKeeper => x.updateProfile Keeper Keeper.view UpdateKeeper UpdateKeeper.apply
  | .deleteKeeper => x.deleteProfile Keeper
  | .listReviews => do
    let _ ← x.caller
    let id ← x.id
    let params ← x.query Query.listParams
    return .showsAll Review.view (Reviews.listFor id params.sort params.page x.defaults)
  | .createReview => do
    let caller ← x.caller
    let id ← x.id
    let request ← x.body CreateReview
    return .shows 201 Review.view (Reviews.create caller.userId id request)
  | .getReview => do
    let _ ← x.caller
    let id ← x.id
    return .shows 200 Review.view (Reviews.get id)
  | .updateReview => do
    let caller ← x.caller
    let id ← x.id
    let request ← x.body UpdateReview
    return .shows 200 Review.view (Reviews.update caller.userId id request)
  | .deleteReview => do
    let caller ← x.caller
    let id ← x.id
    return .silent (Reviews.delete caller.userId id)
  | .listSeekers => x.listProfiles Seeker Seeker.view Query.seekerFilter
  | .createSeeker => x.createProfile Seeker Seeker.view CreateSeeker CreateSeeker.toSeeker
  | .getSeeker => x.getProfile Seeker Seeker.view
  | .updateSeeker => x.updateProfile Seeker Seeker.view UpdateSeeker UpdateSeeker.apply
  | .deleteSeeker => x.deleteProfile Seeker
  | .listVets => x.listProfiles Vet Vet.view Query.vetFilter
  | .createVet => x.createProfile Vet Vet.view CreateVet CreateVet.toVet
  | .getVet => x.getProfile Vet Vet.view
  | .updateVet => x.updateProfile Vet Vet.view UpdateVet UpdateVet.apply
  | .deleteVet => x.deleteProfile Vet
  | .listPosts => do
    let caller ← x.caller
    let params ← x.query Query.listParams
    let filter ← x.query Query.postFilter
    return .showsAll Post.view (Posts.list caller.viewer filter params.sort params.page x.defaults)
  | .createPost => do
    let caller ← x.caller
    let request ← x.body CreatePost
    return .shows 201 Post.view (Posts.create caller.userId request)
  | .getPost => do
    let caller ← x.caller
    let id ← x.id
    return .shows 200 Post.view (Posts.get caller.viewer id)
  | .updatePost => do
    let caller ← x.caller
    let id ← x.id
    let request ← x.body UpdatePost
    return .shows 200 Post.view (Posts.update caller.userId id request)
  | .deletePost => do
    let caller ← x.caller
    let id ← x.id
    return .silent (Posts.delete caller.userId id)
  | .listReports => do
    let _ ← x.moderator
    let id ← x.id
    return .showsAll Report.view (PostReports.listFor id)
  | .createReport => do
    let caller ← x.caller
    let id ← x.id
    let request ← x.body CreateReport
    return .shows 201 ReportReceipt.view
      (PostReports.file caller.userId id request x.config.reportThreshold)
  | .moderationQueue => do
    let _ ← x.moderator
    let page ← x.page
    return .showsAll Post.view (Store.Moderation.queue page)
  | .approvePost => do
    let _ ← x.moderator
    let id ← x.id
    return .shows 200 Post.view (Store.Moderation.approve id)
  | .blockPost => do
    let _ ← x.moderator
    let id ← x.id
    return .shows 200 Post.view (Store.Moderation.block id)
  | .listFavourites => do
    let caller ← x.caller
    let page ← x.page
    return .showsAll Keeper.view (Store.Favourites.listFor caller.userId page)
  | .addFavourite => do
    let caller ← x.caller
    let id ← x.id
    return .shows 200 Favourite.view (Store.Favourites.add caller.userId id)
  | .removeFavourite => do
    let caller ← x.caller
    let id ← x.id
    return .silent (Store.Favourites.remove caller.userId id)
  | .listChats => do
    let caller ← x.caller
    let page ← x.page
    return .showsAll ChatWithMembers.view (Chats.list caller.userId page)
  | .createChat => do
    let caller ← x.caller
    let request ← x.body CreateChat
    return .shows 201 ChatWithMembers.view (Chats.create caller.userId request)
  | .getChat => do
    let caller ← x.caller
    let id ← x.id
    return .shows 200 ChatWithMembers.view (Chats.get caller.userId id)
  | .leaveChat => do
    let caller ← x.caller
    let id ← x.id
    return .silent (Chats.leave caller.userId id)
  | .listMessages => do
    let caller ← x.caller
    let id ← x.id
    let params ← x.query Query.listParams
    return .showsAll Message.view
      (Messages.list caller.userId id params.sort params.page x.defaults)
  | .sendMessage => do
    let caller ← x.caller
    let id ← x.id
    let request ← x.body SendMessage
    return .shows 201 Message.view (Messages.send caller.userId id request)
  | .updateMessage => do
    let caller ← x.caller
    let id ← x.id
    let request ← x.body UpdateMessage
    return .shows 200 Message.view (Messages.update caller.userId id request)
  | .deleteMessage => do
    let caller ← x.caller
    let id ← x.id
    return .silent (Messages.delete caller.userId id)

end Exchange

end Fostering
