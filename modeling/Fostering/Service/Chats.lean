import Fostering.Service.Ownership
import Fostering.Store.Interface

/-!
# Chats and messages

Only members read a chat, write in it or leave it. A sender may delete a message even after leaving,
but not change it.
-/

namespace Fostering

namespace Chats

/-- The cause of an operation by somebody who does not take part. -/
def notMember : Error := .forbidden "You are not a member of this chat"

variable {σ : Type} [Store.Chats σ]

/-- A live chat in which the actor takes part. -/
def findAsMember (actor chatId : Int) : Op σ ChatWithMembers := do
  let chat ← Store.Chats.find chatId
  Op.guard (chat.hasMember actor) notMember
  return chat

/-- Opens a chat; the actor is always a member. -/
def create (actor : Int) (request : CreateChat) : Op σ ChatWithMembers := do
  Store.Chats.create (← stamped (request.toChat actor)) (request.membersWith actor)

/-- A page of the chats of the actor. -/
def list (actor : Int) (page : Page) : Op σ (List ChatWithMembers) :=
  Store.Chats.listFor actor page

/-- A chat of the actor. -/
def get (actor id : Int) : Op σ ChatWithMembers := findAsMember actor id

/-- Leaves a chat. -/
def leave (actor id : Int) : Op σ Unit := do
  let _ ← findAsMember actor id
  Store.Chats.removeMember id actor

end Chats

namespace Messages

variable {σ : Type} [Store.Records σ Message MessageFilter]

/-- Sends a message to a chat of the actor. -/
def send [Store.Chats σ] (actor chatId : Int) (request : SendMessage) : Op σ Message := do
  let _ ← Chats.findAsMember actor chatId
  Store.Records.create (← stamped (request.toMessage chatId actor))

/-- A page of the messages in a chat of the actor. -/
def list [Store.Chats σ] (actor chatId : Int) (sort : Option String) (page : Page)
    (defaults : DefaultOrder) : Op σ (List Message) := do
  let order ← Op.ofExcept (ListOrder.forRequest sort Message.sortFields defaults)
  let _ ← Chats.findAsMember actor chatId
  Store.Records.list (⟨chatId⟩ : MessageFilter) order page

/-- Changes a message of the actor in a chat of the actor. -/
def update [Store.Chats σ] (actor id : Int) (request : UpdateMessage) : Op σ Message := do
  let message : Message ← Store.Records.find id
  ensureOwner actor message.senderId "Message"
  let _ ← Chats.findAsMember actor message.chatId
  Store.Records.update (← touched (request.apply message))

/-- Deletes a message of the actor. -/
def delete (actor id : Int) : Op σ Unit := do
  let message : Message ← Store.Records.find id
  ensureOwner actor message.senderId "Message"
  Store.Records.delete Message id

end Messages

end Fostering
