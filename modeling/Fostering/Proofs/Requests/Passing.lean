import Fostering.Proofs.Database.Counters
import Fostering.Proofs.Requests.Writes

/-!
# Requests that pass every check

`Exchange.Writes` lists the calls that requests make, each with what has been checked before. Nothing is
missing from these checks: a request that passes them makes its call, and the reply tells what came of
it. So the list is exact.

* `Exchange.ComesTo`: what is planned for a request comes to an operation of the database.
* `Exchange.Writes.comesTo`: for each call of the list it does.
* `Database.serve_of_writes`: the reply to such a request, and the database after it.
-/

namespace Fostering

variable {now : Instant} {db : Database}

/-! ## The service -/

/-- Who owns something may do with it what they like. -/
theorem exec_ensureOwner (actor : Int) (what : String) :
    (ensureOwner actor actor what : Op Database Unit).exec now db = (.ok (), db) :=
  Op.exec_guard_of_true (decide_eq_true rfl) _ now db

namespace Accounts

/-- Users change their own accounts. -/
theorem exec_update_of_own {id : Int} {old : User} (hfind : (Database.find User id).exec now db = (.ok old, db))
    (request : UpdateUser) :
    (update id id request : Op Database User).exec now db =
      (Database.update (HasEntry.modifyEntry (·.touched now) (request.apply old))).exec now db := by
  have hfound : (Store.Records.find id : Op Database User).exec now db = (.ok old, db) := hfind
  unfold update
  rw [Op.exec_bind_ok (exec_ensureOwner id "Account"), Op.exec_bind_ok hfound]
  exact Op.exec_bind_ok (exec_touched (request.apply old) now db)

/-- Users delete their own accounts. -/
theorem exec_delete_of_own (id : Int) :
    (delete id id : Op Database Unit).exec now db = (Database.delete User id).exec now db :=
  Op.exec_bind_ok (exec_ensureOwner id "Account")

end Accounts

namespace Posts

/-- A post with a status that authors may set is created with it. -/
theorem exec_create_of_first {actor : Int} {request : CreatePost} {status : PostStatus}
    (hfirst : firstStatus (request.status.getD "") = .ok status) :
    (create actor request : Op Database Post).exec now db =
      (Database.create (written actor request status now)).exec now db := by
  have hexec : (Op.ofExcept (firstStatus (request.status.getD "")) : Op Database PostStatus).exec now db =
      (.ok status, db) := by
    rw [Op.exec_ofExcept, hfirst]
  rw [create_eq, Op.exec_bind_ok hexec]
  exact Op.exec_bind_ok (exec_stamped _ now db)

/-- The name of a status that authors may set is read as that status. -/
theorem authorStatus_name {status : PostStatus} (h : status.isAuthorSettable = true) :
    authorStatus status.name = .ok status := by
  unfold authorStatus PostStatus.read
  rw [PostStatus.ofName?_name]
  exact if_pos h

/-- A change that asks for a status that authors may set, or for none, is let pass. -/
theorem mapM_of_asksSettable {request : UpdatePost} (h : AsksSettable request) :
    ∃ status?, request.status.value?.mapM authorStatus = .ok status? := by
  rcases hvalue : request.status.value? with _ | text
  · exact ⟨none, rfl⟩
  · obtain ⟨status, hstatus, rfl⟩ := h text hvalue
    rw [Option.mapM_some, authorStatus_name hstatus]
    exact ⟨some status, rfl⟩

section

variable {id : Int} {old : Post} (hfind : (Database.find Post id).exec now db = (.ok old, db))
include hfind

/-- Authors change their own posts, unless they are blocked. -/
theorem exec_update_of_own {request : UpdatePost} (hfree : old.status ≠ PostStatus.blocked.name)
    (hasks : AsksSettable request) :
    (update old.authorId id request : Op Database Post).exec now db =
      (Database.update (revised old request now)).exec now db := by
  obtain ⟨status?, hstatus⟩ := mapM_of_asksSettable hasks
  have hfound : (Store.Records.find id : Op Database Post).exec now db = (.ok old, db) := hfind
  have hguard := Op.exec_guard_of_true (decide_eq_true hfree) blocked now db
  have hread : (Op.ofExcept (request.status.value?.mapM authorStatus) : Op Database _).exec now db =
      (.ok status?, db) := by
    rw [Op.exec_ofExcept, hstatus]
  unfold update
  rw [Op.exec_bind_ok hfound, Op.exec_bind_ok (exec_ensureOwner _ "Post"), Op.exec_bind_ok hguard,
    Op.exec_bind_ok hread]
  exact Op.exec_bind_ok (exec_touched (request.apply old) now db)

/-- Authors delete their own posts, blocked or not. -/
theorem exec_delete_of_own : (delete old.authorId id : Op Database Unit).exec now db =
    (Database.delete Post id).exec now db := by
  have hfound : (Store.Records.find id : Op Database Post).exec now db = (.ok old, db) := hfind
  unfold delete
  rw [Op.exec_bind_ok hfound]
  exact Op.exec_bind_ok (exec_ensureOwner _ "Post")

end

end Posts

namespace Reviews

/-- Grades from one to five are let pass. -/
theorem exec_checkGrade {grade : Int} (h : 1 ≤ grade ∧ grade ≤ 5) :
    (Op.ofExcept (checkGrade grade) : Op Database Unit).exec now db = (.ok (), db) := by
  rw [Op.exec_ofExcept, checkGrade_eq_ok_iff.mpr h]

/-- A review of a live keeper who is somebody else is left to the database. -/
theorem exec_create_of_live {actor keeperId : Int} {keeper : Keeper} {request : CreateReview}
    (hgrade : 1 ≤ request.grade ∧ request.grade ≤ 5)
    (hfind : (Database.find Keeper keeperId).exec now db = (.ok keeper, db)) (hother : keeper.userId ≠ actor) :
    (create actor keeperId request : Op Database Review).exec now db =
      (Database.createReview (HasEntry.modifyEntry (·.stamped now)
        (request.toReview keeperId actor))).exec now db := by
  have hfound : (Store.Records.find keeperId : Op Database Keeper).exec now db = (.ok keeper, db) := hfind
  have hguard := Op.exec_guard_of_true (decide_eq_true hother) selfReview now db
  unfold create
  rw [Op.exec_bind_ok (exec_checkGrade hgrade), Op.exec_bind_ok hfound, Op.exec_bind_ok hguard]
  exact Op.exec_bind_ok (exec_stamped _ now db)

/-- Nobody reviews a keeper who is not there. -/
theorem exec_create_of_dead {keeperId : Int} {request : CreateReview}
    (hgrade : 1 ≤ request.grade ∧ request.grade ≤ 5)
    (hdead : ∀ k ∈ db.tables.keepers, k.entry.id = keeperId → k.entry.isLive = false) (actor : Int)
    (now : Instant) :
    (create actor keeperId request : Op Database Review).exec now db =
      (.error (Database.notFound Keeper keeperId), db) := by
  have hnone : (Store.Records.find keeperId : Op Database Keeper).exec now db =
      (.error (Database.notFound Keeper keeperId), db) := Database.exec_find_of_dead hdead now
  unfold create
  rw [Op.exec_bind_ok (exec_checkGrade hgrade)]
  exact Op.exec_bind_error hnone

section

variable {id : Int} {old : Review} (hfind : (Database.find Review id).exec now db = (.ok old, db))
include hfind

/-- Authors change their own reviews. -/
theorem exec_update_of_own {request : UpdateReview} (hgrade : ∀ g ∈ request.grade.value?, 1 ≤ g ∧ g ≤ 5) :
    (update old.authorId id request : Op Database Review).exec now db =
      (Database.updateReview (HasEntry.modifyEntry (·.touched now) (request.apply old))).exec now db := by
  obtain ⟨checked, hchecked⟩ : ∃ checked, request.grade.value?.mapM checkGrade = .ok checked := by
    rcases hvalue : request.grade.value? with _ | grade
    · exact ⟨none, rfl⟩
    · rw [Option.mapM_some, checkGrade_eq_ok_iff.mpr (hgrade grade hvalue)]
      exact ⟨some (), rfl⟩
  have hread : (Op.ofExcept (request.grade.value?.mapM checkGrade) : Op Database _).exec now db =
      (.ok checked, db) := by
    rw [Op.exec_ofExcept, hchecked]
  have hfound : (Store.Records.find id : Op Database Review).exec now db = (.ok old, db) := hfind
  unfold update
  rw [Op.exec_bind_ok hread, Op.exec_bind_ok hfound, Op.exec_bind_ok (exec_ensureOwner _ "Review")]
  exact Op.exec_bind_ok (exec_touched (request.apply old) now db)

/-- Authors delete their own reviews. -/
theorem exec_delete_of_own : (delete old.authorId id : Op Database Unit).exec now db =
    (Database.deleteReview id).exec now db := by
  have hfound : (Store.Records.find id : Op Database Review).exec now db = (.ok old, db) := hfind
  unfold delete
  rw [Op.exec_bind_ok hfound]
  exact Op.exec_bind_ok (exec_ensureOwner _ "Review")

end

end Reviews

namespace Chats

/-- Who takes part in a chat finds it, with its members. -/
theorem exec_findAsMember_of_part {actor chatId : Int} (hpart : db.TakesPart actor chatId)
    (now : Instant) :
    ∃ chat ∈ db.tables.chats, chat.entry.id = chatId ∧
      (findAsMember actor chatId : Op Database ChatWithMembers).exec now db =
        (.ok ⟨chat, Database.memberIds db.tables chatId⟩, db) := by
  obtain ⟨chat, hmem, hid, hlive, hmember⟩ := hpart
  rcases findChat_cases now db chatId with ⟨hdead, -⟩ | ⟨found, hfoundmem, hfoundid, -, hfound⟩
  · rw [hdead chat hmem hid] at hlive
    cases hlive
  · have hfind : (Store.Chats.find chatId : Op Database ChatWithMembers).exec now db =
        (.ok ⟨found, Database.memberIds db.tables chatId⟩, db) := hfound
    have hcontains : (Database.memberIds db.tables chatId).contains actor = true :=
      List.contains_iff_mem.mpr hmember
    have hguard := Op.exec_guard_of_true hcontains notMember now db
    refine ⟨found, hfoundmem, hfoundid, ?_⟩
    unfold findAsMember
    rw [Op.exec_bind_ok hfind]
    exact Op.exec_bind_ok hguard

/-- Nobody finds a chat of theirs that is not there. -/
theorem exec_findAsMember_of_dead {chatId : Int}
    (hdead : ∀ chat ∈ db.tables.chats, chat.entry.id = chatId → chat.entry.isLive = false) (actor : Int)
    (now : Instant) :
    (findAsMember actor chatId : Op Database ChatWithMembers).exec now db =
      (.error (Database.noSuchChat chatId), db) := by
  rcases findChat_cases now db chatId with ⟨-, h⟩ | ⟨chat, hmem, hid, hlive, -⟩
  · have hfind : (Store.Chats.find chatId : Op Database ChatWithMembers).exec now db =
        (.error (Database.noSuchChat chatId), db) := h
    exact Op.exec_bind_error hfind
  · rw [hdead chat hmem hid] at hlive
    cases hlive

/-- Whoever takes part in a chat may leave it. -/
theorem exec_leave_of_part {actor id : Int} (hpart : db.TakesPart actor id) :
    (leave actor id : Op Database Unit).exec now db = (Database.removeMember id actor).exec now db := by
  obtain ⟨chat, -, -, hfind⟩ := exec_findAsMember_of_part hpart now
  exact Op.exec_bind_ok hfind

end Chats

namespace Messages

/-- Whoever takes part in a chat may write there. -/
theorem exec_send_of_part {actor chatId : Int} (hpart : db.TakesPart actor chatId) (request : SendMessage) :
    (send actor chatId request : Op Database Message).exec now db =
      (Database.create (HasEntry.modifyEntry (·.stamped now)
        (request.toMessage chatId actor))).exec now db := by
  obtain ⟨chat, -, -, hfind⟩ := Chats.exec_findAsMember_of_part hpart now
  unfold send
  rw [Op.exec_bind_ok hfind]
  exact Op.exec_bind_ok (exec_stamped _ now db)

section

variable {id : Int} {old : Message} (hfind : (Database.find Message id).exec now db = (.ok old, db))
include hfind

/-- Senders change their own messages as long as they take part in the chat. -/
theorem exec_update_of_own (hpart : db.TakesPart old.senderId old.chatId) (request : UpdateMessage) :
    (update old.senderId id request : Op Database Message).exec now db =
      (Database.update (HasEntry.modifyEntry (·.touched now) (request.apply old))).exec now db := by
  obtain ⟨chat, -, -, hchat⟩ := Chats.exec_findAsMember_of_part hpart now
  have hfound : (Store.Records.find id : Op Database Message).exec now db = (.ok old, db) := hfind
  unfold update
  rw [Op.exec_bind_ok hfound, Op.exec_bind_ok (exec_ensureOwner _ "Message"), Op.exec_bind_ok hchat]
  exact Op.exec_bind_ok (exec_touched (request.apply old) now db)

/-- Senders delete their own messages, whether or not they take part in the chat. -/
theorem exec_delete_of_own : (delete old.senderId id : Op Database Unit).exec now db =
    (Database.delete Message id).exec now db := by
  have hfound : (Store.Records.find id : Op Database Message).exec now db = (.ok old, db) := hfind
  unfold delete
  rw [Op.exec_bind_ok hfound]
  exact Op.exec_bind_ok (exec_ensureOwner _ "Message")

end

end Messages

namespace Profiles

variable {ρ φ : Type} [Profile ρ] [Table ρ] [Store.Profiles Database ρ φ]

/-- A user who has no live profile of the kind may make one. -/
theorem exec_create_of_first (hstored : Stored ρ) {profile : ρ}
    (hfirst : ∀ p ∈ (Table.rows db.tables : List ρ), Profile.userId p = Profile.userId profile →
      HasEntry.isLive p = false) :
    (create profile : Op Database ρ).exec now db =
      (Store.Records.create (HasEntry.modifyEntry (·.stamped now) profile) : Op Database ρ).exec now db := by
  have hlook := hstored.exec_findByUser now db (Profile.userId profile)
  have hnone : ((Table.rows db.tables).find? fun p : ρ =>
      Profile.userId p = Profile.userId profile && HasEntry.isLive p) = none := by
    simpa using hfirst
  rw [hnone] at hlook
  have hguard := Op.exec_guard_of_true (Option.isNone_none (α := ρ))
    (.conflict ("User already has a " ++ Profile.kind ρ ++ " profile")) now db
  unfold create
  rw [Op.exec_bind_ok hlook, Op.exec_bind_ok hguard, Op.exec_bind_ok (exec_stamped profile now db)]

/-- Nobody gets a second profile of a kind. -/
theorem exec_create_of_second (hstored : Stored ρ) (profile : ρ) {other : ρ}
    (hmem : other ∈ (Table.rows db.tables : List ρ)) (hlive : HasEntry.isLive other = true)
    (htaken : Profile.userId other = Profile.userId profile) (now : Instant) :
    (create profile : Op Database ρ).exec now db =
      (.error (.conflict ("User already has a " ++ Profile.kind ρ ++ " profile")), db) := by
  have hlook := hstored.exec_findByUser now db (Profile.userId profile)
  rcases hfound : (Table.rows db.tables).find? fun p : ρ =>
      Profile.userId p = Profile.userId profile && HasEntry.isLive p with _ | found
  · have hnot := List.find?_eq_none.mp hfound other hmem
    rw [htaken, hlive, decide_eq_true rfl] at hnot
    exact absurd rfl hnot
  · rw [hfound] at hlook
    unfold create
    rw [Op.exec_bind_ok hlook]
    rfl

section

omit [Table ρ]

variable {id : Int} {old : ρ} (hfind : (Store.Records.find id : Op Database ρ).exec now db = (.ok old, db))
include hfind

/-- Users find their own profiles. -/
theorem exec_findOwn_of_own :
    (findOwn (Profile.userId old) id : Op Database ρ).exec now db = (.ok old, db) := by
  unfold findOwn
  rw [Op.exec_bind_ok hfind, Op.exec_bind_ok (exec_ensureOwner _ (title ρ))]
  rfl

/-- A profile of the actor that is found is changed. -/
theorem exec_update_of_own (change : ρ → ρ) :
    (update (Profile.userId old) id change : Op Database ρ).exec now db =
      (Store.Records.update (HasEntry.modifyEntry (·.touched now) (change old)) :
        Op Database ρ).exec now db := by
  unfold update
  rw [Op.exec_bind_ok (exec_findOwn_of_own hfind), Op.exec_bind_ok (exec_touched (change old) now db)]

/-- Users delete their own profiles. -/
theorem exec_delete_of_own :
    (delete ρ (Profile.userId old) id : Op Database Unit).exec now db =
      (Store.Records.delete ρ id : Op Database Unit).exec now db :=
  Op.exec_bind_ok (exec_findOwn_of_own hfind)

end

end Profiles

/-! ## Plans -/

/-- What is planned comes to an operation: it is carried out, and success is told. -/
def Exchange.ComesTo {α : Type} (x : Exchange) (db : Database) (op : Op Database α)
    (plan : Except Reply (Action Database)) : Prop :=
  ∃ (action : Action Database) (reply : α → Reply), plan = .ok action ∧
    (∀ a, (reply a).status ∈ [200, 201, 204]) ∧
    action.exec x.now db = (Action.replying reply op).exec x.now db

namespace Exchange

open Database

variable {x : Exchange} {α β : Type}

/-- What has been read is handed on to the rest of the plan. -/
theorem ComesTo.reading {op : Op Database α} {m : Except Reply β} {b : β} (hm : m = .ok b)
    {f : β → Except Reply (Action Database)} (h : x.ComesTo db op (f b)) : x.ComesTo db op (m >>= f) := by
  rw [hm]
  exact h

/-- What is planned comes to an operation that is refused. -/
theorem ComesTo.refused {op : Op Database α} {plan : Except Reply (Action Database)} {cause : Error}
    (h : x.ComesTo db op plan) (hop : (op.exec x.now db).1 = .error cause) :
    ∃ action, plan = .ok action ∧ (action.exec x.now db).1 = .error cause := by
  obtain ⟨action, reply, hplan, -, hexec⟩ := h
  refine ⟨action, hplan, ?_⟩
  rw [hexec, Action.exec_replying, hop]
  rfl

/-- To show what an operation does comes to the operation. -/
theorem comesTo_shows {op op' : Op Database α} (h : op'.exec x.now db = op.exec x.now db) {status : Nat}
    (hstatus : status ∈ [200, 201, 204]) (view : α → Json) :
    x.ComesTo db op (.ok (.shows status view op')) := by
  refine ⟨_, fun a => .success status (view a), rfl, fun _ => hstatus, ?_⟩
  rw [Action.shows_eq, Action.exec_replying, Action.exec_replying, h]

/-- Silence about an operation comes to the operation. -/
theorem comesTo_silent {op op' : Op Database Unit} (h : op'.exec x.now db = op.exec x.now db) :
    x.ComesTo db op (.ok (.silent op')) := by
  have hstatus : 204 ∈ [200, 201, 204] := by decide
  refine ⟨_, fun _ => .ofStatus 204, rfl, fun _ => hstatus, ?_⟩
  rw [Action.silent_eq, Action.exec_replying, Action.exec_replying, h]

section

variable {ρ φ κ : Type} [Profile ρ] [Table ρ] [Store.Profiles Database ρ φ] [Request κ]
  {view : ρ → Json} {endpoint : Endpoint}

/-- A request to make a profile comes to the call that creates it. -/
theorem MakesProfile.comesTo (hstored : Profiles.Stored ρ) {make : κ → Int → ρ} {row : ρ}
    (h : x.MakesProfile (Table.rows db.tables) make row) :
    x.ComesTo db (Store.Records.create row : Op Database ρ) (x.createProfile ρ view κ make) := by
  obtain ⟨caller, request, asks, body, first⟩ := h
  refine .reading asks (.reading body (comesTo_shows ?_ (by decide) view))
  exact Profiles.exec_create_of_first hstored first

/-- A request to change a profile comes to the call that updates it. -/
theorem ChangesProfile.comesTo (hfind : ∀ row ∈ (Table.rows db.tables : List ρ), HasEntry.isLive row = true →
      (Store.Records.find (Table.id row) : Op Database ρ).exec x.now db = (.ok row, db))
    {apply : κ → ρ → ρ} {row : ρ} (h : x.ChangesProfile (Table.rows db.tables) apply row) :
    x.ComesTo db (Store.Records.update row : Op Database ρ) (x.updateProfile ρ view κ apply) := by
  obtain ⟨caller, request, old, asks, path, body, mem, live, own⟩ := h
  refine .reading asks (.reading path (.reading body (comesTo_shows ?_ (by decide) view)))
  rw [← own]
  exact Profiles.exec_update_of_own (hfind old mem live) (apply request)

/-- A request to delete a profile comes to the call that deletes it. -/
theorem RemovesProfile.comesTo (hfind : ∀ row ∈ (Table.rows db.tables : List ρ), HasEntry.isLive row = true →
      (Store.Records.find (Table.id row) : Op Database ρ).exec x.now db = (.ok row, db)) {id : Int}
    (h : x.RemovesProfile (Table.rows db.tables : List ρ) id) :
    x.ComesTo db (Store.Records.delete ρ id : Op Database Unit) (x.deleteProfile ρ) := by
  obtain ⟨caller, old, asks, path, mem, live, own⟩ := h
  refine .reading asks (.reading path (comesTo_silent ?_))
  rw [← own]
  exact Profiles.exec_delete_of_own (hfind old mem live)

end

/-- A caller who is a moderator is let pass as one. -/
theorem moderator_of_caller {caller : Caller} (h : x.caller = .ok caller)
    (hmoderator : caller.isModerator = true) : x.moderator = .ok caller := by
  unfold moderator Caller.authenticateModerator
  rw [caller_eq_ok.mp h]
  exact congrArg (fun outcome => orFail (Except.mapError _ outcome)) (if_pos hmoderator)

/-- **A request that passes every check makes its call.** -/
theorem Writes.comesTo {endpoint : Endpoint} {call : Store.Call} (h : x.Writes db endpoint call)
    (hkeys : ∀ name : TableName, (name.ids db.tables).Nodup) :
    x.ComesTo db (call.perform : Op Database call.Result) (x.plan endpoint) := by
  -- each constructor carries what its service checks, so that the checks are passed one after the
  -- other; ids being distinct, the row looked up is the one it speaks of
  cases h with
  | register request body =>
      exact .reading body (comesTo_shows (Accounts.exec_register _ _ _ _) (by decide) _)
  | updateUser caller request old asks path body mem live own =>
      refine .reading asks (.reading path (.reading body (comesTo_shows ?_ (by decide) _)))
      rw [← own]
      exact Accounts.exec_update_of_own (find_of_nodup (hkeys .users) mem live x.now) request
  | deleteUser caller asks path =>
      exact .reading asks (.reading path (comesTo_silent (Accounts.exec_delete_of_own _)))
  | createKeeper row h => exact h.comesTo Profiles.stored_keepers
  | updateKeeper row h =>
      exact h.comesTo fun old hmem hlive => find_of_nodup (hkeys .keepers) hmem hlive x.now
  | deleteKeeper id h =>
      exact h.comesTo fun old hmem hlive => find_of_nodup (hkeys .keepers) hmem hlive x.now
  | createSeeker row h => exact h.comesTo Profiles.stored_seekers
  | updateSeeker row h =>
      exact h.comesTo fun old hmem hlive => find_of_nodup (hkeys .seekers) hmem hlive x.now
  | deleteSeeker id h =>
      exact h.comesTo fun old hmem hlive => find_of_nodup (hkeys .seekers) hmem hlive x.now
  | createVet row h => exact h.comesTo Profiles.stored_vets
  | updateVet row h =>
      exact h.comesTo fun old hmem hlive => find_of_nodup (hkeys .vets) hmem hlive x.now
  | deleteVet id h =>
      exact h.comesTo fun old hmem hlive => find_of_nodup (hkeys .vets) hmem hlive x.now
  | onBoard endpoint call h =>
      cases h with
      | create caller request status asks body first =>
          exact .reading asks (.reading body (comesTo_shows (Posts.exec_create_of_first first) (by decide) _))
      | update caller request old asks path body mem live own free settable =>
          refine .reading asks (.reading path (.reading body (comesTo_shows ?_ (by decide) _)))
          rw [← own]
          exact Posts.exec_update_of_own (find_of_nodup (hkeys .posts) mem live x.now) free settable
      | delete caller id old asks path mem same live own =>
          refine .reading asks (.reading path (comesTo_silent ?_))
          rw [← own, ← same]
          exact Posts.exec_delete_of_own (find_of_nodup (hkeys .posts) mem live x.now)
      | file caller request id asks path body =>
          exact .reading asks (.reading path (.reading body
            (comesTo_shows (PostReports.exec_file _ _ _ _ _ _) (by decide) _)))
      | approve caller id asks moderator path | block caller id asks moderator path =>
          exact .reading (moderator_of_caller asks moderator)
            (.reading path (comesTo_shows rfl (by decide) _))
  | createReview caller request keeper asks path body grade mem live other =>
      have hfind := find_of_nodup (hkeys .keepers) mem live x.now
      exact .reading asks (.reading path (.reading body
        (comesTo_shows (Reviews.exec_create_of_live grade hfind other) (by decide) _)))
  | updateReview caller request old asks path body grade mem live own =>
      refine .reading asks (.reading path (.reading body (comesTo_shows ?_ (by decide) _)))
      rw [← own]
      exact Reviews.exec_update_of_own (find_of_nodup (hkeys .reviews) mem live x.now) grade
  | deleteReview caller old asks path mem live own =>
      refine .reading asks (.reading path (comesTo_silent ?_))
      rw [← own]
      exact Reviews.exec_delete_of_own (find_of_nodup (hkeys .reviews) mem live x.now)
  | addFavourite caller id asks path =>
      exact .reading asks (.reading path (comesTo_shows rfl (by decide) _))
  | removeFavourite caller id asks path =>
      exact .reading asks (.reading path (comesTo_silent rfl))
  | createChat caller request asks body =>
      exact .reading asks (.reading body (comesTo_shows (Chats.exec_create _ _ _ _) (by decide) _))
  | leaveChat caller id asks path part =>
      exact .reading asks (.reading path (comesTo_silent (Chats.exec_leave_of_part part)))
  | sendMessage caller request id asks path body part =>
      exact .reading asks (.reading path (.reading body
        (comesTo_shows (Messages.exec_send_of_part part request) (by decide) _)))
  | updateMessage caller request old asks path body mem live own part =>
      refine .reading asks (.reading path (.reading body (comesTo_shows ?_ (by decide) _)))
      rw [← own] at part ⊢
      exact Messages.exec_update_of_own (find_of_nodup (hkeys .messages) mem live x.now) part request
  | deleteMessage caller old asks path mem live own =>
      refine .reading asks (.reading path (comesTo_silent ?_))
      rw [← own]
      exact Messages.exec_delete_of_own (find_of_nodup (hkeys .messages) mem live x.now)

end Exchange

/-! ## Requests -/

/-- **The reply to a request that passes every check tells what came of its call.** -/
theorem Database.serve_of_writes {config : Config} {a : Arrival} {endpoint : Endpoint}
    {id? : Option (String × String)} {call : Store.Call}
    (hfind : Endpoint.find a.incoming = .endpoint endpoint id?)
    (h : (a.exchange config id?).Writes db endpoint call)
    (hkeys : ∀ name : TableName, (name.ids db.tables).Nodup) :
    (db.reply config a).Tells (call.perform.exec a.now db).1 ∧
      db.serve config a = (call.perform.exec a.now db).2 := by
  obtain ⟨action, reply, hplan, hreply, hexec⟩ := h.comesTo hkeys
  exact serve_of_replying config db a hfind hplan hreply hexec

end Fostering
