import Fostering.Memory.Rows
import Fostering.Moderation
import Fostering.PostStatus

/-!
# The store in memory as a store

The store in memory keeps everything but favourites, and knows no moderators.
-/

namespace Fostering.Memory

/-- Rows that are kept one by one; a list shows those that have a property. -/
abbrev records (ρ φ : Type) [Kept ρ] (keeps : φ → ρ → Bool) : Store.Records Memory ρ φ where
  create := create
  find id := findWith (isLiveRow id) id
  findAny id := findWith (fun r => HasEntry.id r = id) id
  list filter _ page := list (keeps filter) page
  update := update
  delete := delete ρ

instance : Store.Records Memory User UserFilter :=
  records User UserFilter fun f u => f.city.isNone || u.city = f.city

instance : Store.Records Memory Keeper KeeperFilter :=
  records Keeper KeeperFilter fun f k =>
    (f.city.isNone || k.city = f.city) && f.hasCage.all (k.hasCage = ·)
      && f.minRating.all fun r => r ≠ .nan && k.rating ≠ .nan && r.le k.rating

instance : Store.Records Memory Seeker SeekerFilter := records Seeker SeekerFilter fun _ _ => true

instance : Store.Records Memory Vet VetFilter := records Vet VetFilter fun _ _ => true

instance : Store.Records Memory Post PostFilter :=
  records Post PostFilter fun f p =>
    f.authorId.all (p.authorId = ·) && f.status.all (p.status = ·)
      && (f.city.isNone || p.city = f.city) && (f.animalType.isNone || p.animalType = f.animalType)
      && f.visibleTo.all fun viewer => p.authorId = viewer || p.status = PostStatus.published.name

instance : Store.Records Memory Review ReviewFilter :=
  records Review ReviewFilter fun f r => r.keeperId = f.keeperId

instance : Store.Records Memory Message MessageFilter :=
  records Message MessageFilter fun f m => m.chatId = f.chatId

instance : Store.Users Memory where
  findByUsername name :=
    Op.look fun m => m.users.find? fun u => u.username = name && u.entry.isLive

instance : Store.Profiles Memory Keeper KeeperFilter where
  findByUser userId :=
    Op.look fun m => m.keepers.find? fun k => k.userId = userId && k.entry.isLive

instance : Store.Profiles Memory Seeker SeekerFilter where
  findByUser userId :=
    Op.look fun m => m.seekers.find? fun s => s.userId = userId && s.entry.isLive

instance : Store.Profiles Memory Vet VetFilter where
  findByUser userId := Op.look fun m => m.vets.find? fun v => v.userId = userId && v.entry.isLive

/-! ## Reports -/

/-- The reports against a post. -/
def reportsFor (m : Memory) (postId : Int) : List Report :=
  m.reports.filter fun r => r.postId = postId

/-- Reports a published post; enough reports block it. -/
def fileReport (report : Report) (threshold : Int) : Op Memory ReportReceipt := do
  let isPublished ← Op.look fun m => m.posts.any fun p =>
    isLiveRow report.postId p && p.status = PostStatus.published.name
  Op.guard isPublished (.notFound "Post" report.postId)
  let isRepeated ← Op.look fun m =>
    (reportsFor m report.postId).any fun r => r.reporterId = report.reporterId
  Op.guard (!isRepeated) (.conflict "You have already reported this post")
  let report := { report with id := ← takeId }
  Op.change fun m => { m with reports := m.reports ++ [report] }
  let count : Int ← Op.look fun m => (reportsFor m report.postId).length
  let status : PostStatus := if reachesBlockThreshold count threshold then .blocked else .published
  let judge (p : Post) : Post :=
    { p with reportsCount := reportsColumn count, status := status.name }
  Op.change fun m =>
    { m with posts := modifyFirst (fun p => p.entry.id = report.postId) judge m.posts }
  return { report, reportsCount := reportsColumn count, postStatus := status.name }

instance : Store.Reports Memory where
  file := fileReport
  listFor postId := Op.look fun m => reportsFor m postId
  countFor postId := Op.look fun m => (reportsFor m postId).length

/-- Gives a post a status, as a moderator would. -/
def setPostStatus (id : Int) (status : String) : Op Memory Unit :=
  Op.change fun m =>
    let rename (p : Post) : Post := { p with status := status }
    { m with posts := modifyFirst (fun p => p.entry.id = id) rename m.posts }

/-! ## Chats -/

/-- The cause of a chat that is not there. -/
def noSuchChat (id : Int) : Error := .notFound "Chat" id

/-- Whether a chat is the live one with an id. -/
def isLiveChat (id : Int) (c : ChatWithMembers) : Bool := isLiveRow id c.chat

/-- Opens a chat for these members, all of them live users. -/
def createChat (chat : Chat) (ids : List Int) : Op Memory ChatWithMembers := do
  let areLive ← Op.look fun m => ids.all fun id => m.users.any (isLiveRow id)
  Op.guard areLive (.validation "One or more chat members do not exist")
  let id ← takeId
  let created : ChatWithMembers := ⟨{ chat with entry.id := id }, ids⟩
  Op.change fun m => { m with chats := m.chats ++ [created] }
  return created

/-- Takes a member out of a live chat, and marks the chat as deleted if nobody is left. -/
def removeMember (chatId userId : Int) : Op Memory Unit := do
  let p (c : ChatWithMembers) : Bool := isLiveChat chatId c && c.hasMember userId
  Op.guard (← Op.look fun m => m.chats.any p) (noSuchChat chatId)
  let time ← Op.now
  let leave (c : ChatWithMembers) : ChatWithMembers :=
    let memberIds := c.memberIds.filter (· ≠ userId)
    if memberIds.isEmpty then
      ⟨{ c.chat with entry.isDeleted := true, entry.deletedAt := some time }, memberIds⟩
    else { c with memberIds }
  Op.change fun m => { m with chats := modifyFirst p leave m.chats }

instance : Store.Chats Memory where
  create := createChat
  find id := do
    Op.orRefuse (noSuchChat id) (← Op.look fun m => m.chats.find? (isLiveChat id))
  findAny id := do
    Op.orRefuse (noSuchChat id) (← Op.look fun m => m.chats.find? fun c => c.chat.entry.id = id)
  listFor userId page :=
    Op.look fun m => page.slice (m.chats.filter fun c => c.chat.entry.isLive && c.hasMember userId)
  isMember chatId userId :=
    Op.look fun m => m.chats.any fun c => c.chat.entry.id = chatId && c.hasMember userId
  removeMember := removeMember

/-! ## Sessions -/

/-- Whether a session is the one of a user on a device. -/
def isSessionOf (userId : Int) (fingerprint : String) (s : Session) : Bool :=
  s.userId = userId && s.fingerprint = fingerprint

/-- Whether a session has a digest and has not run out. -/
def isCurrent (hash : String) (now : Instant) (s : Session) : Bool :=
  s.tokenHash = hash && now.before s.expiresAt

/-- Stores the session of a user on a device, in the place of an earlier one. -/
def upsertSession (given : Session) : Op Memory Session := do
  let given := { given with createdAt := ← Op.now }
  let p := isSessionOf given.userId given.fingerprint
  match ← Op.look fun m => m.sessions.find? p with
  | some old =>
    let session := { given with id := old.id }
    Op.change fun m => { m with sessions := modifyFirst p (fun _ => session) m.sessions }
    return session
  | none =>
    let session := { given with id := ← takeId }
    Op.change fun m => { m with sessions := m.sessions ++ [session] }
    return session

instance : Store.Sessions Memory where
  upsert := upsertSession
  findByHash hash := do
    let time ← Op.now
    Op.look fun m => m.sessions.find? (isCurrent hash time)
  takeByHash hash := do
    let time ← Op.now
    let session? ← Op.look fun m => m.sessions.find? (isCurrent hash time)
    Op.change fun m => { m with sessions := m.sessions.eraseP (isCurrent hash time) }
    return session?
  deleteFor userId fingerprint := do
    let isThere ← Op.look fun m => m.sessions.any (isSessionOf userId fingerprint)
    Op.change fun m =>
      { m with sessions := m.sessions.filter fun s => !isSessionOf userId fingerprint s }
    return isThere

end Fostering.Memory
