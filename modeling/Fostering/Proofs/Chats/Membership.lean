import Fostering.Proofs.Database.Deletion
import Fostering.Proofs.Database.Integrity
import Fostering.Proofs.Requests.Passing

/-!
# Who may do what with messages

Whoever sends a message, lists the messages of a chat or changes one takes part in the chat at that
moment, and the chat is live. Deleting is looser: it asks who sent the message, and not whether the
sender still takes part.

* `mem_memberIds`: who takes part in a chat, row by row.
* `findAsMember_succeeds_iff`: who finds a chat of theirs.
* `trespasses_iff`: what succeeds for somebody who does not take part in the chat.
-/

namespace Fostering

/-- An operation gives a result. -/
def Op.Succeeds {σ α : Type} (op : Op σ α) (now : Instant) (s : σ) : Prop :=
  ∃ a, (op.exec now s).1 = .ok a

namespace Op

variable {σ α β : Type} {op : Op σ α} {now : Instant} {s : σ}

/-- What declines does not succeed. -/
theorem Declines.not_succeeds (h : op.Declines now s) : ¬op.Succeeds now s := by
  rintro ⟨a, ha⟩
  obtain ⟨cause, -, heq⟩ := h
  rw [heq] at ha
  cases ha

/-- Of two operations that succeed together, the first one does. -/
theorem succeeds_of_bind {f : α → Op σ β} (h : (op >>= f).Succeeds now s) : op.Succeeds now s := by
  obtain ⟨b, hb⟩ := h
  rcases hop : op.exec now s with ⟨cause | a, s'⟩
  · rw [exec_bind_error hop] at hb
    cases hb
  · exact ⟨a, by rw [hop]⟩

/-- After a first operation that left the store alone, it is the second one that decides. -/
theorem succeeds_bind_iff {f : α → Op σ β} {a : α} (hop : op.exec now s = (.ok a, s)) :
    (op >>= f).Succeeds now s ↔ (f a).Succeeds now s := by
  unfold Succeeds
  rw [exec_bind_ok hop]

end Op

namespace Database

variable {t : Tables} {chatId userId : Int}

/-- Who takes part in a chat has a row that says so. -/
theorem mem_memberIds :
    userId ∈ memberIds t chatId ↔ ∃ m ∈ t.members, m.chatId = chatId ∧ m.userId = userId := by
  unfold memberIds
  simp only [List.mem_map, mem_sortRows, List.mem_filter, decide_eq_true_eq, and_assoc]

/-- Members are those in the list of members. -/
theorem isMember_iff : isMember t chatId userId = true ↔ userId ∈ memberIds t chatId := by
  rw [mem_memberIds]
  simp only [isMember, List.any_eq_true, Bool.and_eq_true, decide_eq_true_eq]

end Database

open Database

variable {now : Instant} {db : Database} {actor : Int}

namespace Chats

/-- **A user finds a chat exactly if they take part in it.** -/
theorem findAsMember_succeeds_iff {chatId : Int} :
    (findAsMember actor chatId : Op Database ChatWithMembers).Succeeds now db ↔
      db.TakesPart actor chatId := by
  constructor
  · intro h
    rcases findAsMember_cases now db actor chatId with hdeclines | ⟨hpart, -⟩
    · exact absurd h hdeclines.not_succeeds
    · exact hpart
  · intro hpart
    obtain ⟨chat, -, -, hfind⟩ := exec_findAsMember_of_part hpart now
    exact ⟨_, by rw [hfind]⟩

end Chats

namespace Messages

/-- Only who takes part in a chat sends messages there. -/
theorem takesPart_of_send {chatId : Int} {request : SendMessage}
    (h : (send actor chatId request : Op Database Message).Succeeds now db) :
    db.TakesPart actor chatId :=
  Chats.findAsMember_succeeds_iff.mp (Op.succeeds_of_bind h)

/-- Only who takes part in a chat lists its messages. -/
theorem takesPart_of_list {chatId : Int} {sort : Option String} {page : Page} {defaults : DefaultOrder}
    (h : (list actor chatId sort page defaults : Op Database (List Message)).Succeeds now db) :
    db.TakesPart actor chatId := by
  rcases horder : ListOrder.forRequest sort Message.sortFields defaults with cause | order
  · obtain ⟨rows, hrows⟩ := h
    unfold list at hrows
    rw [horder] at hrows
    cases hrows
  · have hread : (Op.ofExcept (ListOrder.forRequest sort Message.sortFields defaults) :
        Op Database ListOrder).exec now db = (.ok order, db) := by
      rw [Op.exec_ofExcept, horder]
    have hrest := (Op.succeeds_bind_iff hread).mp h
    exact Chats.findAsMember_succeeds_iff.mp (Op.succeeds_of_bind hrest)

/-- Only who takes part in a chat changes messages there. -/
theorem takesPart_of_update {id : Int} {request : UpdateMessage}
    (h : (update actor id request : Op Database Message).Succeeds now db) :
    ∃ m ∈ db.tables.messages, m.entry.id = id ∧ m.entry.isLive = true ∧
      db.TakesPart actor m.chatId := by
  rcases update_cases now db actor id request with hdeclines | ⟨m, hmem, hid, hlive, -, hpart, -⟩
  · exact absurd h hdeclines.not_succeeds
  · exact ⟨m, hmem, hid, hlive, hpart⟩

/-- **A user deletes a message exactly if it is a live one that they sent.** -/
theorem delete_succeeds_iff (hkeys : (ids Message db.tables).Nodup) {id : Int} :
    (delete actor id : Op Database Unit).Succeeds now db ↔
      ∃ m ∈ db.tables.messages, m.entry.id = id ∧ m.entry.isLive = true ∧ m.senderId = actor := by
  constructor
  · intro h
    rcases delete_cases now db actor id with hdeclines | ⟨m, hmem, hid, hlive, hown, -⟩
    · exact absurd h hdeclines.not_succeeds
    · exact ⟨m, hmem, hid, hlive, hown⟩
  · rintro ⟨m, hmem, rfl, hlive, rfl⟩
    have hfind : (Database.find Message m.entry.id).exec now db = (.ok m, db) :=
      find_of_nodup hkeys hmem hlive now
    have hdelete : (Database.delete Message m.entry.id).Succeeds now db :=
      ⟨(), by rw [Database.delete, Op.exec_bind_ok hfind]; rfl⟩
    unfold Op.Succeeds
    rw [exec_delete_of_own hfind]
    exact hdelete

/-- Something that a user does with messages. -/
inductive Operation where
  | send (chatId : Int) (request : SendMessage)
  | list (chatId : Int) (sort : Option String) (page : Page) (defaults : DefaultOrder)
  | update (id : Int) (request : UpdateMessage)
  | delete (id : Int)

namespace Operation

/-- It succeeds when a user does it. -/
def Succeeds (actor : Int) (now : Instant) (db : Database) : Operation → Prop
  | send chatId request => (Messages.send actor chatId request : Op Database Message).Succeeds now db
  | list chatId sort page defaults =>
    (Messages.list actor chatId sort page defaults : Op Database (List Message)).Succeeds now db
  | update id request => (Messages.update actor id request : Op Database Message).Succeeds now db
  | delete id => (Messages.delete actor id : Op Database Unit).Succeeds now db

/-- It is about a chat: the one that it names, or the one of the live message that it names. -/
def IsAbout (db : Database) (chatId : Int) : Operation → Prop
  | send named _ => named = chatId
  | list named _ _ _ => named = chatId
  | update id _ | delete id =>
    ∃ m ∈ db.tables.messages, m.entry.id = id ∧ m.entry.isLive = true ∧ m.chatId = chatId

/-- A live message is in one chat. -/
theorem chatId_unique (hkeys : (ids Message db.tables).Nodup) {m : Message}
    (hm : m ∈ db.tables.messages) {chatId : Int}
    (h : ∃ n ∈ db.tables.messages, n.entry.id = m.entry.id ∧ n.entry.isLive = true ∧ n.chatId = chatId) :
    chatId = m.chatId := by
  obtain ⟨n, hn, hid, -, rfl⟩ := h
  have heq : n = m := eq_of_key hkeys hn hm hid
  rw [heq]

/-- What succeeds is about one chat. -/
theorem existsUnique_isAbout (hkeys : (ids Message db.tables).Nodup) {op : Operation}
    (h : op.Succeeds actor now db) : ∃! chatId, op.IsAbout db chatId := by
  cases op with
  | send named request => exact ⟨named, rfl, fun _ hnamed => hnamed.symm⟩
  | list named sort page defaults => exact ⟨named, rfl, fun _ hnamed => hnamed.symm⟩
  | update id request =>
      obtain ⟨m, hmem, rfl, hlive, -⟩ := takesPart_of_update h
      exact ⟨m.chatId, ⟨m, hmem, rfl, hlive, rfl⟩, fun _ => chatId_unique hkeys hmem⟩
  | delete id =>
      obtain ⟨m, hmem, rfl, hlive, -⟩ := (delete_succeeds_iff hkeys).mp h
      exact ⟨m.chatId, ⟨m, hmem, rfl, hlive, rfl⟩, fun _ => chatId_unique hkeys hmem⟩

/-- What succeeds and is no deletion is done by somebody who takes part. -/
theorem takesPart_of_succeeds (hkeys : (ids Message db.tables).Nodup) {op : Operation}
    (hop : ∀ id, op ≠ .delete id) (h : op.Succeeds actor now db) {chatId : Int}
    (habout : op.IsAbout db chatId) : db.TakesPart actor chatId := by
  cases op with
  | send named request => exact habout ▸ takesPart_of_send h
  | list named sort page defaults => exact habout ▸ takesPart_of_list h
  | update id request =>
      obtain ⟨m, hmem, rfl, -, hpart⟩ := takesPart_of_update h
      rw [chatId_unique hkeys hmem habout]
      exact hpart
  | delete id => exact absurd rfl (hop id)

end Operation

/-- **What is done with messages is done by somebody who takes part in the chat, or a sender deletes a
message of a chat in which they take part no longer.** What succeeds is about one chat; and it succeeds
for somebody who does not take part in a live chat with that id in the second case only, and there
always. -/
theorem trespasses_iff (events : List Event) (actor : Int) (now : Instant) (op : Operation) :
    (op.Succeeds actor now (after events) → ∃! chatId, op.IsAbout (after events) chatId) ∧
      ∀ chatId : Int,
        (op.Succeeds actor now (after events) ∧ op.IsAbout (after events) chatId ∧
            ¬(after events).TakesPart actor chatId) ↔
          ∃ m ∈ (after events).tables.messages, op = .delete m.entry.id ∧ m.entry.isLive = true ∧
            m.senderId = actor ∧ m.chatId = chatId ∧ ¬(after events).TakesPart actor chatId := by
  have hkeys : (ids Message (after events).tables).Nodup := (isSound_after events .messages).keys
  refine ⟨Operation.existsUnique_isAbout hkeys, fun chatId => ⟨?_, ?_⟩⟩
  · rintro ⟨hsucceeds, habout, hpart⟩
    by_cases hop : ∀ id, op ≠ .delete id
    · exact absurd (Operation.takesPart_of_succeeds hkeys hop hsucceeds habout) hpart
    · obtain ⟨id, hid⟩ := not_forall.mp hop
      obtain rfl : op = .delete id := not_not.mp hid
      obtain ⟨m, hmem, rfl, hlive, hown⟩ := (delete_succeeds_iff hkeys).mp hsucceeds
      exact ⟨m, hmem, rfl, hlive, hown, (Operation.chatId_unique hkeys hmem habout).symm, hpart⟩
  · rintro ⟨m, hmem, rfl, hlive, hown, hchat, hpart⟩
    exact ⟨(delete_succeeds_iff hkeys).mpr ⟨m, hmem, rfl, hlive, hown⟩,
      ⟨m, hmem, rfl, hlive, hchat⟩, hpart⟩

/-- Two users open a chat; the first one writes in it and leaves it. -/
def annaLeaves : List Event := kitten ++
  [.call (.createChat { createdBy := 1 } [1, 2]) ⟨2, 0⟩,
    .call (.message (.create { chatId := 1, senderId := 1, content := "Hello" })) ⟨3, 0⟩,
    .call (.removeMember 1 1) ⟨4, 0⟩]

/-- She takes part in the chat no longer, and still deletes what she wrote. -/
theorem deletes_after_leaving :
    (Operation.delete 1).Succeeds 1 ⟨5, 0⟩ (after annaLeaves) ∧
      (Operation.delete 1).IsAbout (after annaLeaves) 1 ∧ ¬(after annaLeaves).TakesPart 1 1 := by
  have hmessage : ∃ m ∈ (after annaLeaves).tables.messages, m.entry.id = 1 ∧ m.entry.isLive = true ∧
      m.senderId = 1 ∧ m.chatId = 1 := by decide +kernel
  have hkeys : (ids Message (after annaLeaves).tables).Nodup := (isSound_after annaLeaves .messages).keys
  have hmember : isMember (after annaLeaves).tables 1 1 = false := by decide +kernel
  obtain ⟨m, hmem, hid, hlive, hown, hchat⟩ := hmessage
  refine ⟨(delete_succeeds_iff hkeys).mpr ⟨m, hmem, hid, hlive, hown⟩, ⟨m, hmem, hid, hlive, hchat⟩, ?_⟩
  rintro ⟨chat, -, -, -, hpart⟩
  rw [isMember_iff.mpr hpart] at hmember
  cases hmember

end Messages

end Fostering
