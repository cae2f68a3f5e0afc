import Fostering.Proofs.Posts.Requests

/-!
# What the service does before it writes

Every operation of the service that writes rows comes to one call of the database. Before that it may
decline: it looks at a few rows, tells who asks from who owns, and leaves the database as it was. One
lemma for each operation says what has been checked once the call is made, and which call it is.

* `Accounts`, `Profiles`, `Reviews`, `Chats`, `Messages`: `create_cases`, `update_cases` and so on.
-/

namespace Fostering

variable (now : Instant) (db : Database)

/-! ## Accounts -/

namespace Accounts

/-- Whoever registers is created with the digest of the password. -/
theorem exec_register (salt : Bytes) (request : RegisterUser) :
    (register salt request : Op Database User).exec now db =
      (Database.create (HasEntry.modifyEntry (·.stamped now)
        (request.toUser (Password.hash salt request.password)))).exec now db :=
  Op.exec_bind_ok (exec_stamped _ now db)

/-- An account is changed by its owner only. -/
theorem update_cases (actor id : Int) (request : UpdateUser) :
    (update actor id request : Op Database User).Declines now db ∨
      actor = id ∧ ∃ old ∈ db.tables.users, old.entry.id = id ∧ old.entry.isLive = true ∧
        (update actor id request : Op Database User).exec now db =
          (Database.update (HasEntry.modifyEntry (·.touched now) (request.apply old))).exec now db := by
  unfold update
  rcases ensureOwner_cases actor id "Account" now db with howner | ⟨hown, howner⟩
  case inl => exact .inl (howner.bind _)
  rcases find_cases User id now db with hfind | ⟨old, hmem, hid, hlive, hfind⟩
  · exact .inl (.after howner (hfind.bind _))
  · have hfind' : (Store.Records.find id : Op Database User).exec now db = (.ok old, db) := hfind
    refine .inr ⟨hown, old, hmem, hid, hlive, ?_⟩
    rw [Op.exec_bind_ok howner, Op.exec_bind_ok hfind']
    exact Op.exec_bind_ok (exec_touched (request.apply old) now db)

/-- An account is deleted by its owner only. -/
theorem delete_cases (actor id : Int) :
    (delete actor id : Op Database Unit).Declines now db ∨
      actor = id ∧ (delete actor id : Op Database Unit).exec now db =
        (Database.delete User id).exec now db := by
  unfold delete
  rcases ensureOwner_cases actor id "Account" now db with howner | ⟨hown, howner⟩
  · exact .inl (howner.bind _)
  · exact .inr ⟨hown, Op.exec_bind_ok howner⟩

end Accounts

/-! ## Profiles -/

namespace Profiles

section

variable {ρ φ : Type} [Profile ρ] [Table ρ] [Store.Profiles Database ρ φ]

/-- A kind of profile that a database keeps in a table. -/
structure Stored (ρ : Type) {φ : Type} [Profile ρ] [Table ρ] [Store.Profiles Database ρ φ] : Prop where
  find (id : Int) (now : Instant) (db : Database) :
    (Store.Records.find id : Op Database ρ).Declines now db ∨
      ∃ row ∈ (Table.rows db.tables : List ρ), Table.id row = id ∧ HasEntry.isLive row = true ∧
        (Store.Records.find id : Op Database ρ).exec now db = (.ok row, db)
  ofUser (userId : Int) : (Store.Profiles.findByUser userId : Op Database (Option ρ)) =
    Database.find? fun p : ρ => Profile.userId p = userId && HasEntry.isLive p

/-- Keepers are found by their users, and created as any record is. -/
theorem stored_keepers : Stored Keeper := ⟨find_cases Keeper, fun _ => rfl⟩

theorem stored_seekers : Stored Seeker := ⟨find_cases Seeker, fun _ => rfl⟩

theorem stored_vets : Stored Vet := ⟨find_cases Vet, fun _ => rfl⟩

/-- Looking for the live profile of a user. -/
theorem Stored.exec_findByUser (hstored : Stored ρ) (userId : Int) :
    (Store.Profiles.findByUser userId : Op Database (Option ρ)).exec now db =
      (.ok ((Table.rows db.tables).find? fun p : ρ => Profile.userId p = userId && HasEntry.isLive p),
        db) := by
  rw [hstored.ofUser]
  exact Database.exec_find? _ now db

/-- A profile is made for a user who has no live one. -/
theorem create_cases (hstored : Stored ρ) (profile : ρ) :
    (create profile : Op Database ρ).Declines now db ∨
      (∀ p ∈ (Table.rows db.tables : List ρ), Profile.userId p = Profile.userId profile →
        HasEntry.isLive p = false) ∧
      (create profile : Op Database ρ).exec now db =
        (Store.Records.create (HasEntry.modifyEntry (·.stamped now) profile) : Op Database ρ).exec now
          db := by
  let isOwn (p : ρ) : Bool := Profile.userId p = Profile.userId profile && HasEntry.isLive p
  have hlook := hstored.exec_findByUser now db (Profile.userId profile)
  unfold create
  rcases hold : (Table.rows db.tables).find? isOwn with _ | old
  · rw [hold] at hlook
    have hguard := Op.exec_guard_of_true (Option.isNone_none (α := ρ))
      (.conflict ("User already has a " ++ Profile.kind ρ ++ " profile")) now db
    refine .inr ⟨fun p hp hown => ?_, ?_⟩
    · have hnot := List.find?_eq_none.mp hold p hp
      simpa [isOwn, hown] using hnot
    · rw [Op.exec_bind_ok hlook, Op.exec_bind_ok hguard, Op.exec_bind_ok (exec_stamped profile now db)]
  · rw [hold] at hlook
    have hcause : (Error.conflict ("User already has a " ++ Profile.kind ρ ++ " profile")).status <
        500 := by
      change 409 < 500
      decide
    exact .inl (.after hlook ((Op.declines_guard hcause rfl).bind _))

/-- A profile that is found is a live one of the actor. -/
theorem findOwn_cases (hstored : Stored ρ) (actor id : Int) :
    (findOwn actor id : Op Database ρ).Declines now db ∨
      ∃ old ∈ (Table.rows db.tables : List ρ), Table.id old = id ∧ HasEntry.isLive old = true ∧
        Profile.userId old = actor ∧ (findOwn actor id : Op Database ρ).exec now db = (.ok old, db) :=
  owned_cases (hstored.find id now db) actor Profile.userId (title ρ) pure

/-- A profile is changed by its user only, and keeps its id. -/
theorem update_cases (hstored : Stored ρ) (actor id : Int) (change : ρ → ρ) :
    (update actor id change : Op Database ρ).Declines now db ∨
      ∃ old ∈ (Table.rows db.tables : List ρ), Table.id old = id ∧ HasEntry.isLive old = true ∧
        Profile.userId old = actor ∧
        (update actor id change : Op Database ρ).exec now db =
          (Store.Records.update (HasEntry.modifyEntry (·.touched now) (change old)) :
            Op Database ρ).exec now db := by
  unfold update
  rcases findOwn_cases now db hstored actor id with h | ⟨old, hmem, hid, hlive, hown, h⟩
  · exact .inl (h.bind _)
  · refine .inr ⟨old, hmem, hid, hlive, hown, ?_⟩
    rw [Op.exec_bind_ok h, Op.exec_bind_ok (exec_touched (change old) now db)]

/-- A profile is deleted by its user only. -/
theorem delete_cases (hstored : Stored ρ) (actor id : Int) :
    (delete ρ actor id : Op Database Unit).Declines now db ∨
      ∃ old ∈ (Table.rows db.tables : List ρ), Table.id old = id ∧ HasEntry.isLive old = true ∧
        Profile.userId old = actor ∧
        (delete ρ actor id : Op Database Unit).exec now db =
          (Store.Records.delete ρ id : Op Database Unit).exec now db := by
  unfold delete
  rcases findOwn_cases now db hstored actor id with h | ⟨old, hmem, hid, hlive, hown, h⟩
  · exact .inl (h.bind _)
  · exact .inr ⟨old, hmem, hid, hlive, hown, Op.exec_bind_ok h⟩

end

end Profiles

/-! ## Reviews -/

namespace Reviews

/-- A grade that is refused is the caller's fault. -/
theorem status_of_checkGrade {grade : Int} {cause : Error} (h : checkGrade grade = .error cause) :
    cause.status < 500 := by
  unfold checkGrade at h
  split_ifs at h
  cases h
  change 400 < 500
  decide

/-- A user grades a live keeper other than themselves. -/
theorem create_cases (actor keeperId : Int) (request : CreateReview) :
    (create actor keeperId request : Op Database Review).Declines now db ∨
      (1 ≤ request.grade ∧ request.grade ≤ 5) ∧
      ∃ keeper ∈ db.tables.keepers, keeper.entry.id = keeperId ∧ keeper.entry.isLive = true ∧
        keeper.userId ≠ actor ∧
        (create actor keeperId request : Op Database Review).exec now db =
          (Database.createReview (HasEntry.modifyEntry (·.stamped now)
            (request.toReview keeperId actor))).exec now db := by
  unfold create
  rcases Op.ofExcept_cases (checkGrade request.grade) (fun _ => status_of_checkGrade) now db with
    h | ⟨⟨⟩, hgrade, hexec⟩
  case inl => exact .inl (h.bind _)
  rcases find_cases Keeper keeperId now db with hfind | ⟨keeper, hmem, hid, hlive, hfind⟩
  case inl => exact .inl (.after hexec (hfind.bind _))
  have hfind' : (Store.Records.find keeperId : Op Database Keeper).exec now db = (.ok keeper, db) :=
    hfind
  by_cases hother : keeper.userId ≠ actor
  · have hguard := Op.exec_guard_of_true (decide_eq_true hother) selfReview now db
    refine .inr ⟨checkGrade_eq_ok_iff.mp hgrade, keeper, hmem, hid, hlive, hother, ?_⟩
    rw [Op.exec_bind_ok hexec, Op.exec_bind_ok hfind', Op.exec_bind_ok hguard]
    exact Op.exec_bind_ok (exec_stamped _ now db)
  · have hself : (Op.guard (keeper.userId ≠ actor) selfReview : Op Database Unit).Declines now db :=
      Op.declines_guard (by decide) (decide_eq_false hother)
    exact .inl (.after hexec (.after hfind' (hself.bind _)))

theorem status_of_mapM {grade? : Option Int} {cause : Error}
    (h : grade?.mapM checkGrade = .error cause) : cause.status < 500 := by
  obtain ⟨grade, -, hgrade⟩ := Option.exists_of_mapM_eq_error h
  exact status_of_checkGrade hgrade

/-- A grade that is not refused is from one to five, if there is one. -/
theorem graded_of_mapM {grade? : Option Int} {checked : Option Unit}
    (h : grade?.mapM checkGrade = .ok checked) : ∀ grade ∈ grade?, 1 ≤ grade ∧ grade ≤ 5 := by
  rintro grade hmem
  rw [Option.mem_def.mp hmem] at h
  rcases hgrade : checkGrade grade with cause | ⟨⟩
  · rw [Option.mapM_some, hgrade] at h
    cases h
  · exact checkGrade_eq_ok_iff.mp hgrade

/-- A user changes a live review of their own. -/
theorem update_cases (actor id : Int) (request : UpdateReview) :
    (update actor id request : Op Database Review).Declines now db ∨
      (∀ grade ∈ request.grade.value?, 1 ≤ grade ∧ grade ≤ 5) ∧
      ∃ old ∈ db.tables.reviews, old.entry.id = id ∧ old.entry.isLive = true ∧
        old.authorId = actor ∧
        (update actor id request : Op Database Review).exec now db =
          (Database.updateReview (HasEntry.modifyEntry (·.touched now) (request.apply old))).exec now
            db := by
  unfold update
  rcases Op.ofExcept_cases (request.grade.value?.mapM checkGrade) (fun _ => status_of_mapM) now db with
    h | ⟨checked, hgrade, hexec⟩
  case inl => exact .inl (h.bind _)
  rcases owned_cases (find_cases Review id now db) actor Review.authorId "Review"
      fun old => touched (request.apply old) >>= Database.updateReview with
    h | ⟨old, hmem, hid, hlive, hown, h⟩
  · exact .inl (.after hexec h)
  · refine .inr ⟨graded_of_mapM hgrade, old, hmem, hid, hlive, hown, ?_⟩
    rw [Op.exec_bind_ok hexec]
    exact h.trans (Op.exec_bind_ok (exec_touched (request.apply old) now db))

/-- A user deletes a live review of their own. -/
theorem delete_cases (actor id : Int) :
    (delete actor id : Op Database Unit).Declines now db ∨
      ∃ old ∈ db.tables.reviews, old.entry.id = id ∧ old.entry.isLive = true ∧
        old.authorId = actor ∧
        (delete actor id : Op Database Unit).exec now db = (Database.deleteReview id).exec now db :=
  owned_cases (find_cases Review id now db) actor Review.authorId "Review" fun _ => Database.deleteReview id

end Reviews

/-! ## Chats and messages -/

/-- A user takes part in a live chat. -/
def Database.TakesPart (db : Database) (userId chatId : Int) : Prop :=
  ∃ chat ∈ db.tables.chats, chat.entry.id = chatId ∧ chat.entry.isLive = true ∧
    userId ∈ memberIds db.tables chatId

namespace Chats

/-- A chat is created with the caller and those who are named. -/
theorem exec_create (actor : Int) (request : CreateChat) :
    (create actor request : Op Database ChatWithMembers).exec now db =
      (Database.createChat (HasEntry.modifyEntry (·.stamped now) (request.toChat actor))
        (request.membersWith actor)).exec now db :=
  Op.exec_bind_ok (exec_stamped _ now db)

/-- Nobody finds a chat that is not there, or a live one is found. -/
theorem findChat_cases (chatId : Int) :
    (∀ chat ∈ db.tables.chats, chat.entry.id = chatId → chat.entry.isLive = false) ∧
        (Database.findChat chatId).exec now db = (.error (Database.noSuchChat chatId), db) ∨
      ∃ chat ∈ db.tables.chats, chat.entry.id = chatId ∧ chat.entry.isLive = true ∧
        (Database.findChat chatId).exec now db =
          (.ok ⟨chat, Database.memberIds db.tables chatId⟩, db) := by
  have hlook := Database.exec_find? (fun c : Chat => c.entry.id = chatId && c.entry.isLive) now db
  unfold Database.findChat
  rcases hchat : (Table.rows db.tables).find? fun c : Chat => c.entry.id = chatId && c.entry.isLive
    with _ | chat
  · rw [hchat] at hlook
    have hdead : ∀ chat ∈ (Table.rows db.tables : List Chat), chat.entry.id = chatId →
        chat.entry.isLive = false := by simpa using hchat
    refine .inl ⟨hdead, ?_⟩
    rw [Op.exec_bind_ok hlook]
    rfl
  · rw [hchat] at hlook
    have hp := List.find?_some hchat
    simp only [Bool.and_eq_true, decide_eq_true_eq] at hp
    refine .inr ⟨chat, List.mem_of_find?_eq_some hchat, hp.1, hp.2, ?_⟩
    rw [Op.exec_bind_ok hlook, ← hp.1]
    rfl

/-- Looking for a chat of the actor declines, or the actor takes part in it. -/
theorem findAsMember_cases (actor chatId : Int) :
    (findAsMember actor chatId : Op Database ChatWithMembers).Declines now db ∨
      db.TakesPart actor chatId ∧ ∃ chat : ChatWithMembers,
        (findAsMember actor chatId : Op Database ChatWithMembers).exec now db = (.ok chat, db) := by
  unfold findAsMember
  rcases findChat_cases now db chatId with ⟨-, h⟩ | ⟨chat, hmem, hid, hlive, h⟩
  case inl =>
    have hcause : (Database.noSuchChat chatId).status < 500 := by
      change 404 < 500
      decide
    have hnone : (Database.findChat chatId).Declines now db := Op.declines_of_exec hcause h
    exact .inl (Op.Declines.bind hnone _)
  have hfind : (Store.Chats.find chatId : Op Database ChatWithMembers).exec now db =
      (.ok ⟨chat, Database.memberIds db.tables chatId⟩, db) := h
  rcases hmember : (Database.memberIds db.tables chatId).contains actor
  · have hguard : (Op.guard ((Database.memberIds db.tables chatId).contains actor) notMember :
        Op Database Unit).Declines now db := Op.declines_guard (by decide) hmember
    exact .inl (.after hfind (hguard.bind _))
  · have hguard := Op.exec_guard_of_true hmember notMember now db
    refine .inr ⟨⟨chat, hmem, hid, hlive, by simpa using hmember⟩,
      ⟨chat, Database.memberIds db.tables chatId⟩, ?_⟩
    rw [Op.exec_bind_ok hfind]
    exact Op.exec_bind_ok hguard

/-- Only who takes part in a chat leaves it. -/
theorem leave_cases (actor id : Int) :
    (leave actor id : Op Database Unit).Declines now db ∨
      db.TakesPart actor id ∧
        (leave actor id : Op Database Unit).exec now db =
          (Database.removeMember id actor).exec now db := by
  unfold leave
  rcases findAsMember_cases now db actor id with h | ⟨hpart, chat, h⟩
  · exact .inl (h.bind _)
  · exact .inr ⟨hpart, Op.exec_bind_ok h⟩

end Chats

namespace Messages

/-- Only who takes part in a chat writes in it. -/
theorem send_cases (actor chatId : Int) (request : SendMessage) :
    (send actor chatId request : Op Database Message).Declines now db ∨
      db.TakesPart actor chatId ∧
        (send actor chatId request : Op Database Message).exec now db =
          (Database.create (HasEntry.modifyEntry (·.stamped now)
            (request.toMessage chatId actor))).exec now db := by
  unfold send
  rcases Chats.findAsMember_cases now db actor chatId with h | ⟨hpart, chat, h⟩
  · exact .inl (h.bind _)
  · refine .inr ⟨hpart, ?_⟩
    rw [Op.exec_bind_ok h]
    exact Op.exec_bind_ok (exec_stamped _ now db)

/-- Only the sender changes a message, and only while they take part in the chat. -/
theorem update_cases (actor id : Int) (request : UpdateMessage) :
    (update actor id request : Op Database Message).Declines now db ∨
      ∃ old ∈ db.tables.messages, old.entry.id = id ∧ old.entry.isLive = true ∧
        old.senderId = actor ∧ db.TakesPart actor old.chatId ∧
        (update actor id request : Op Database Message).exec now db =
          (Database.update (HasEntry.modifyEntry (·.touched now) (request.apply old))).exec now db := by
  unfold update
  let rest (old : Message) : Op Database Message := do
    let _ ← Chats.findAsMember actor old.chatId
    Database.update (← touched (request.apply old))
  rcases owned_cases (find_cases Message id now db) actor Message.senderId "Message" rest with
    h | ⟨old, hmem, hid, hlive, hown, h⟩
  case inl => exact .inl h
  rcases Chats.findAsMember_cases now db actor old.chatId with hnone | ⟨hpart, chat, hfound⟩
  · exact .inl (.congr h (hnone.bind _))
  · refine .inr ⟨old, hmem, hid, hlive, hown, hpart, h.trans ?_⟩
    rw [Op.exec_bind_ok hfound]
    exact Op.exec_bind_ok (exec_touched (request.apply old) now db)

/-- Only the sender deletes a message. -/
theorem delete_cases (actor id : Int) :
    (delete actor id : Op Database Unit).Declines now db ∨
      ∃ old ∈ db.tables.messages, old.entry.id = id ∧ old.entry.isLive = true ∧
        old.senderId = actor ∧
        (delete actor id : Op Database Unit).exec now db =
          (Database.delete Message id).exec now db :=
  owned_cases (find_cases Message id now db) actor Message.senderId "Message" fun _ =>
    Database.delete Message id

end Messages

end Fostering
