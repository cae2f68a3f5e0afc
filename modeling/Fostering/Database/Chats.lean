import Fostering.Database.Records

/-!
# Chats

Who takes part in a chat is kept in a table of its own. Members are listed in the order in which they
came, those who came together by their ids. A chat that the last member leaves is deleted.
-/

namespace Fostering.Database

/-- The cause of a chat that is not there. -/
def noSuchChat (id : Int) : Error := .notFound "Chat" id

/-- The ids of the members of a chat, in the order in which they came. -/
def memberIds (t : Tables) (chatId : Int) : List Int :=
  (sortRows .asc (fun m => .moment m.joinedAt) Membership.userId
    (t.members.filter fun m => m.chatId = chatId)).map Membership.userId

/-- The number of live users with one of these ids. -/
def countLiveUsers (t : Tables) (ids : List Int) : Nat :=
  (t.users.filter fun u => u.entry.isLive && ids.contains u.entry.id).length

/-- Opens a chat for these members, all of them live users. -/
def createChat (given : Chat) (ids : List Int) : Op Database ChatWithMembers := atomically do
  let count ← look fun t => countLiveUsers t ids
  Op.guard (count = ids.length) (.validation "One or more chat members do not exist")
  let chat ← insert { given with
    entry := { createdAt := given.entry.createdAt.stored, updatedAt := given.entry.updatedAt.stored } }
  let joinedAt ← now
  change fun t =>
    { t with members := t.members ++ ids.map fun userId => ⟨chat.entry.id, userId, joinedAt⟩ }
  return ⟨chat, ids⟩

/-- A chat with its members. -/
def withMembers (chat : Chat) : Op Database ChatWithMembers :=
  look fun t => ⟨chat, memberIds t chat.entry.id⟩

/-- The live chat with an id. -/
def findChat (id : Int) : Op Database ChatWithMembers := do
  let chat ← Op.orRefuse (noSuchChat id)
    (← find? fun c : Chat => c.entry.id = id && c.entry.isLive)
  withMembers chat

/-- The chat with an id, live or deleted. -/
def findAnyChat (id : Int) : Op Database ChatWithMembers := do
  let chat ← Op.orRefuse (noSuchChat id) (← find? fun c : Chat => c.entry.id = id)
  withMembers chat

/-- Whether a user takes part in a chat. -/
def isMember (t : Tables) (chatId userId : Int) : Bool :=
  t.members.any fun m => m.chatId = chatId && m.userId = userId

/-- A page of the live chats of a user, those changed last first. -/
def listChats (userId : Int) (page : Page) : Op Database (List ChatWithMembers) :=
  look fun t =>
    let chats := t.chats.filter fun c => c.entry.isLive && isMember t c.entry.id userId
    (page.slice (sortRows .desc (fun c => .moment c.entry.updatedAt) HasEntry.id chats)).map
      fun c => ⟨c, memberIds t c.entry.id⟩

/-- Takes a member out of a live chat, and deletes the chat if nobody is left. -/
def removeMember (chatId userId : Int) : Op Database Unit := atomically do
  let chat ← Op.orRefuse (noSuchChat chatId)
    (← find? fun c : Chat => c.entry.id = chatId && c.entry.isLive)
  Op.guard (← look fun t => isMember t chatId userId) (noSuchChat chatId)
  change fun t =>
    { t with members := t.members.filter fun m => !(m.chatId = chatId && m.userId = userId) }
  let isEmpty ← look fun t => !t.members.any fun m => m.chatId = chatId
  let time ← now
  replace { chat with
    entry := if isEmpty then chat.entry.deleted time else chat.entry.touched time }

end Fostering.Database
