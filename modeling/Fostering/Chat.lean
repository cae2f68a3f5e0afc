import Fostering.Entry
import Fostering.Json.Record
import Fostering.Validation

/-!
# Chats and messages

A chat has members, and its members write messages in it. Whoever opens a chat is its first member;
`CreateChat.membersWith` lists every member once, the creator first.
-/

namespace Fostering

open Json (Row Shape)
open Violation (ofLength ofOption)

/-- A chat. Who takes part is not a column of it. -/
structure Chat where
  entry : Entry := {}
  title : Option String := none
  createdBy : Int := 0
  deriving DecidableEq, Inhabited

namespace Chat

instance : HasEntry Chat := ⟨Chat.entry, fun e c => { c with entry := e }, fun _ _ => rfl⟩

end Chat

/-- A chat with the ids of those who take part now. -/
structure ChatWithMembers where
  chat : Chat
  memberIds : List Int
  deriving DecidableEq, Inhabited

namespace ChatWithMembers

/-- Whether a user takes part. -/
def hasMember (c : ChatWithMembers) (userId : Int) : Bool := c.memberIds.contains userId

/-- What clients see of a chat. -/
def view (c : ChatWithMembers) : Json :=
  .object [("id", .int c.chat.entry.id), ("title", .ofText? c.chat.title),
    ("created_by", .int c.chat.createdBy), ("member_ids", .list (c.memberIds.map .int)),
    ("created_at", .ofInstant c.chat.entry.createdAt),
    ("updated_at", .ofInstant c.chat.entry.updatedAt)]

end ChatWithMembers

/-- A request to open a chat with others. -/
structure CreateChat where
  title : Option String := none
  memberIds : List Int := []
  deriving DecidableEq, Inhabited

/-- The elements of a list that are not among `seen`, each at its first place only. -/
def unseen (seen : List Int) : List Int → List Int
  | [] => []
  | id :: ids => if seen.contains id then unseen seen ids else id :: unseen (id :: seen) ids

namespace CreateChat

/-- The fields of the request. -/
abbrev shape : Shape :=
  ⟨"CreateChat", [⟨"title", .text, .optional⟩, ⟨"member_ids", .wholes .w64, .required⟩]⟩

/-- The request in a row. -/
def ofRow : Row shape.fields → CreateChat
  | (title, memberIds, ()) => { title, memberIds }

/-- The rules that the request breaks. -/
def violations (r : CreateChat) : List Violation :=
  ofOption (ofLength "title" none (some 200)) r.title
    ++ (if Rule.within (some 1) (some 50) r.memberIds.length then []
      else [⟨"member_ids", .length (some 1) (some 50)⟩])

/-- The chat that is asked for. -/
def toChat (r : CreateChat) (creatorId : Int) : Chat := { title := r.title, createdBy := creatorId }

/-- The members of the chat: the creator first, then the others in the order of the request, each
once. -/
def membersWith (r : CreateChat) (creatorId : Int) : List Int :=
  creatorId :: unseen [creatorId] r.memberIds

end CreateChat

/-! ## Messages -/

/-- A message in a chat. -/
structure Message where
  entry : Entry := {}
  chatId : Int := 0
  senderId : Int := 0
  content : String := ""
  deriving DecidableEq, Inhabited

namespace Message

instance : HasEntry Message := ⟨Message.entry, fun e m => { m with entry := e }, fun _ _ => rfl⟩

instance : Columns Message :=
  ⟨Columns.ofEntry fun
    | "chat_id" => some fun m => .int m.chatId
    | "sender_id" => some fun m => .int m.senderId
    | "content" => some fun m => .text m.content
    | _ => none⟩

/-- The columns that clients may sort messages by. -/
def sortFields : List String := ["created_at"]

/-- What clients see of a message. -/
def view (m : Message) : Json :=
  .object [("id", .int m.entry.id), ("chat_id", .int m.chatId), ("sender_id", .int m.senderId),
    ("content", .text m.content), ("created_at", .ofInstant m.entry.createdAt),
    ("updated_at", .ofInstant m.entry.updatedAt)]

end Message

/-- A request to send a message. -/
structure SendMessage where
  content : String := ""
  deriving DecidableEq, Inhabited

namespace SendMessage

/-- The fields of the request. -/
abbrev shape : Shape := ⟨"SendMessage", [⟨"content", .text, .required⟩]⟩

/-- The request in a row. -/
def ofRow : Row shape.fields → SendMessage
  | (content, ()) => { content }

/-- The rules that the request breaks. -/
def violations (r : SendMessage) : List Violation :=
  ofLength "content" (some 1) (some 4000) r.content

/-- The message that is asked for. -/
def toMessage (r : SendMessage) (chatId senderId : Int) : Message :=
  { chatId, senderId, content := r.content }

end SendMessage

/-- A request to change a message. -/
structure UpdateMessage where
  content : Change String := .keep
  deriving DecidableEq, Inhabited

namespace UpdateMessage

/-- The fields of the request. -/
abbrev shape : Shape := ⟨"UpdateMessage", [⟨"content", .text, .changeable⟩]⟩

/-- The request in a row. -/
def ofRow : Row shape.fields → UpdateMessage
  | (content, ()) => { content }

/-- The rules that the request breaks. -/
def violations (r : UpdateMessage) : List Violation :=
  ofOption (ofLength "content" (some 1) (some 4000)) r.content.value?

/-- The message after the change. -/
def apply (r : UpdateMessage) (m : Message) : Message :=
  { m with content := r.content.apply m.content }

@[simp] theorem apply_default (m : Message) : apply {} m = m := rfl

end UpdateMessage

end Fostering
