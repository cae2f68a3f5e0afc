import Fostering.Proofs.Database.Effects
import Fostering.Proofs.Requests.Readings
import Fostering.Proofs.Requests.Service

/-!
# What requests write

A request that writes rows makes one call of the store, and `Exchange.Writes` is the whole list of these
calls: one for each endpoint, with all that has been checked before. The endpoints of sessions are left
out here; they change no row but sessions.

* `Exchange.plan_acts`: what an endpoint plans declines, or it makes a call of the list.
* `Database.tables_of_reading`: what comes of a request for an endpoint that only looks.
* `Database.serve_of_writing`: what comes of a request for an endpoint that writes rows.
* `Database.serve_writes`: a request changes at most sessions, or it makes a call of the list.
* `Database.serve_effect`: so it changes at most sessions, or it has the effect of such a call.
-/

namespace Fostering

namespace Exchange

section

variable {ρ κ : Type} [Profile ρ] [Table ρ] [Request κ]

/-- A profile that a request makes: the first live one of the caller. -/
inductive MakesProfile (x : Exchange) (rows : List ρ) (make : κ → Int → ρ) : ρ → Prop where
  | intro (caller : Caller) (request : κ) (asks : x.caller = .ok caller)
      (body : x.body κ = .ok request)
      (first : ∀ p ∈ rows, Profile.userId p = Profile.userId (make request caller.userId) →
        HasEntry.isLive p = false) :
      MakesProfile x rows make (HasEntry.modifyEntry (·.stamped x.now) (make request caller.userId))

/-- A profile with the changes of a request: a live one of the caller. -/
inductive ChangesProfile (x : Exchange) (rows : List ρ) (apply : κ → ρ → ρ) : ρ → Prop where
  | intro (caller : Caller) (request : κ) (old : ρ) (asks : x.caller = .ok caller)
      (path : x.id = .ok (Table.id old)) (body : x.body κ = .ok request) (mem : old ∈ rows)
      (live : HasEntry.isLive old = true) (own : Profile.userId old = caller.userId) :
      ChangesProfile x rows apply (HasEntry.modifyEntry (·.touched x.now) (apply request old))

/-- The id of a profile that a request deletes: a live one of the caller. -/
inductive RemovesProfile (x : Exchange) (rows : List ρ) : Int → Prop where
  | intro (caller : Caller) (old : ρ) (asks : x.caller = .ok caller)
      (path : x.id = .ok (Table.id old)) (mem : old ∈ rows) (live : HasEntry.isLive old = true)
      (own : Profile.userId old = caller.userId) :
      RemovesProfile x rows (Table.id old)

end

/-- The calls that the service makes for requests that write rows, each with all that it checks
before. The first argument is the endpoint that the request is for. -/
inductive Writes (x : Exchange) (db : Database) : Endpoint → Store.Call → Prop where
  /-- Anybody registers. -/
  | register (request : RegisterUser) (body : x.body RegisterUser = .ok request) :
      Writes x db .register (.user (.create (HasEntry.modifyEntry (·.stamped x.now)
        (request.toUser (Password.hash (x.random.take Password.saltLength) request.password)))))
  /-- Users change their own accounts. -/
  | updateUser (caller : Caller) (request : UpdateUser) (old : User) (asks : x.caller = .ok caller)
      (path : x.id = .ok old.entry.id) (body : x.body UpdateUser = .ok request)
      (mem : old ∈ db.tables.users) (live : old.entry.isLive = true)
      (own : old.entry.id = caller.userId) :
      Writes x db .updateUser
        (.user (.update (HasEntry.modifyEntry (·.touched x.now) (request.apply old))))
  /-- Users delete their own accounts. -/
  | deleteUser (caller : Caller) (asks : x.caller = .ok caller) (path : x.id = .ok caller.userId) :
      Writes x db .deleteUser (.user (.delete caller.userId))
  | createKeeper (row : Keeper) (h : x.MakesProfile db.tables.keepers CreateKeeper.toKeeper row) :
      Writes x db .createKeeper (.keeper (.create row))
  | updateKeeper (row : Keeper) (h : x.ChangesProfile db.tables.keepers UpdateKeeper.apply row) :
      Writes x db .updateKeeper (.keeper (.update row))
  | deleteKeeper (id : Int) (h : x.RemovesProfile db.tables.keepers id) :
      Writes x db .deleteKeeper (.keeper (.delete id))
  | createSeeker (row : Seeker) (h : x.MakesProfile db.tables.seekers CreateSeeker.toSeeker row) :
      Writes x db .createSeeker (.seeker (.create row))
  | updateSeeker (row : Seeker) (h : x.ChangesProfile db.tables.seekers UpdateSeeker.apply row) :
      Writes x db .updateSeeker (.seeker (.update row))
  | deleteSeeker (id : Int) (h : x.RemovesProfile db.tables.seekers id) :
      Writes x db .deleteSeeker (.seeker (.delete id))
  | createVet (row : Vet) (h : x.MakesProfile db.tables.vets CreateVet.toVet row) :
      Writes x db .createVet (.vet (.create row))
  | updateVet (row : Vet) (h : x.ChangesProfile db.tables.vets UpdateVet.apply row) :
      Writes x db .updateVet (.vet (.update row))
  | deleteVet (id : Int) (h : x.RemovesProfile db.tables.vets id) :
      Writes x db .deleteVet (.vet (.delete id))
  /-- Posts are written, reported and moderated. -/
  | onBoard (endpoint : Endpoint) (call : Store.Call) (h : x.Permits db.board endpoint call) :
      Writes x db endpoint call
  /-- Users review live keepers other than themselves. -/
  | createReview (caller : Caller) (request : CreateReview) (keeper : Keeper)
      (asks : x.caller = .ok caller) (path : x.id = .ok keeper.entry.id)
      (body : x.body CreateReview = .ok request) (grade : 1 ≤ request.grade ∧ request.grade ≤ 5)
      (mem : keeper ∈ db.tables.keepers) (live : keeper.entry.isLive = true)
      (other : keeper.userId ≠ caller.userId) :
      Writes x db .createReview (.review (.create (HasEntry.modifyEntry (·.stamped x.now)
        (request.toReview keeper.entry.id caller.userId))))
  /-- Users change their own live reviews. -/
  | updateReview (caller : Caller) (request : UpdateReview) (old : Review)
      (asks : x.caller = .ok caller) (path : x.id = .ok old.entry.id)
      (body : x.body UpdateReview = .ok request)
      (grade : ∀ g ∈ request.grade.value?, 1 ≤ g ∧ g ≤ 5) (mem : old ∈ db.tables.reviews)
      (live : old.entry.isLive = true) (own : old.authorId = caller.userId) :
      Writes x db .updateReview
        (.review (.update (HasEntry.modifyEntry (·.touched x.now) (request.apply old))))
  /-- Users delete their own live reviews. -/
  | deleteReview (caller : Caller) (old : Review) (asks : x.caller = .ok caller)
      (path : x.id = .ok old.entry.id) (mem : old ∈ db.tables.reviews)
      (live : old.entry.isLive = true) (own : old.authorId = caller.userId) :
      Writes x db .deleteReview (.review (.delete old.entry.id))
  | addFavourite (caller : Caller) (id : Int) (asks : x.caller = .ok caller) (path : x.id = .ok id) :
      Writes x db .addFavourite (.addFavourite caller.userId id)
  | removeFavourite (caller : Caller) (id : Int) (asks : x.caller = .ok caller)
      (path : x.id = .ok id) :
      Writes x db .removeFavourite (.removeFavourite caller.userId id)
  /-- Anybody opens chats. -/
  | createChat (caller : Caller) (request : CreateChat) (asks : x.caller = .ok caller)
      (body : x.body CreateChat = .ok request) :
      Writes x db .createChat (.createChat (HasEntry.modifyEntry (·.stamped x.now)
        (request.toChat caller.userId)) (request.membersWith caller.userId))
  /-- Users leave chats in which they take part. -/
  | leaveChat (caller : Caller) (id : Int) (asks : x.caller = .ok caller) (path : x.id = .ok id)
      (part : db.TakesPart caller.userId id) :
      Writes x db .leaveChat (.removeMember id caller.userId)
  /-- Users write in chats in which they take part. -/
  | sendMessage (caller : Caller) (request : SendMessage) (id : Int) (asks : x.caller = .ok caller)
      (path : x.id = .ok id) (body : x.body SendMessage = .ok request)
      (part : db.TakesPart caller.userId id) :
      Writes x db .sendMessage (.message (.create (HasEntry.modifyEntry (·.stamped x.now)
        (request.toMessage id caller.userId))))
  /-- Users change their own messages in chats in which they still take part. -/
  | updateMessage (caller : Caller) (request : UpdateMessage) (old : Message)
      (asks : x.caller = .ok caller) (path : x.id = .ok old.entry.id)
      (body : x.body UpdateMessage = .ok request) (mem : old ∈ db.tables.messages)
      (live : old.entry.isLive = true) (own : old.senderId = caller.userId)
      (part : db.TakesPart caller.userId old.chatId) :
      Writes x db .updateMessage
        (.message (.update (HasEntry.modifyEntry (·.touched x.now) (request.apply old))))
  /-- Users delete their own messages. -/
  | deleteMessage (caller : Caller) (old : Message) (asks : x.caller = .ok caller)
      (path : x.id = .ok old.entry.id) (mem : old ∈ db.tables.messages)
      (live : old.entry.isLive = true) (own : old.senderId = caller.userId) :
      Writes x db .deleteMessage (.message (.delete old.entry.id))

end Exchange

/-! ## Actions -/

namespace Action

variable {σ α : Type}

/-- Replies to what an operation gives. -/
def replying (reply : α → Reply) (op : Op σ α) : Op σ (Except Breakdown Reply) := do
  return .ok (reply (← op))

/-- To show what an operation gives is to reply to it. -/
theorem shows_eq (status : Nat) (view : α → Json) (op : Op σ α) :
    shows status view op = replying (fun a => .success status (view a)) op := rfl

theorem silent_eq (op : Op σ Unit) : silent op = replying (fun _ => .ofStatus 204) op := rfl

/-- What comes of an operation with its reply. -/
theorem exec_replying (reply : α → Reply) (op : Op σ α) (now : Instant) (s : σ) :
    (replying reply op).exec now s =
      ((op.exec now s).1.map fun a => .ok (reply a), (op.exec now s).2) := by
  unfold replying
  rw [Op.exec_bind]
  rcases op.exec now s with ⟨_ | _, _⟩ <;> rfl

/-- An operation that declines does so whatever would be replied. -/
theorem declines_replying {op : Op σ α} {now : Instant} {s : σ} (h : op.Declines now s)
    (reply : α → Reply) : (replying reply op).Declines now s :=
  h.bind _

end Action

namespace Exchange

open Fostering.Action Plans

/-- An action makes a call of the list and replies that it has succeeded. -/
def MakesCall (x : Exchange) (db : Database) (endpoint : Endpoint) (action : Action Database) : Prop :=
  ∃ (call : Store.Call) (reply : call.Result → Reply), x.Writes db endpoint call ∧
    (∀ r, (reply r).status ∈ [200, 201, 204]) ∧
    action.exec x.now db = (replying reply call.perform).exec x.now db

/-- An action that declines, or makes a call of the list. -/
def Acts (x : Exchange) (endpoint : Endpoint) (action : Action Database) : Prop :=
  ∀ db : Database, Op.Declines action x.now db ∨ x.MakesCall db endpoint action

section

variable {x : Exchange} {db : Database} {endpoint : Endpoint} {call : Store.Call}

/-- A request that shows what its call gives makes the call. -/
theorem makesCall_shows (hwrites : x.Writes db endpoint call) {status : Nat}
    {view : call.Result → Json} {op : Op Database call.Result} (hstatus : status ∈ [200, 201, 204])
    (h : op.exec x.now db = (call.perform : Op Database call.Result).exec x.now db) :
    x.MakesCall db endpoint (shows status view op) := by
  refine ⟨call, fun r => .success status (view r), hwrites, fun _ => hstatus, ?_⟩
  rw [shows_eq, exec_replying, exec_replying, h]

theorem makesCall_silent (hwrites : x.Writes db endpoint call) {op : Op Database call.Result}
    (h : op.exec x.now db = (call.perform : Op Database call.Result).exec x.now db) :
    x.MakesCall db endpoint (replying (fun _ => .ofStatus 204) op) := by
  refine ⟨call, fun _ => .ofStatus 204, hwrites, fun _ => ?_, ?_⟩
  · change 204 ∈ [200, 201, 204]
    decide
  · rw [exec_replying, exec_replying, h]

/-- What an action does is all that matters. -/
theorem makesCall_congr {action action' : Action Database} (h : action.exec x.now db = action'.exec x.now db)
    (hcall : x.MakesCall db endpoint action') : x.MakesCall db endpoint action := by
  obtain ⟨call, reply, hwrites, hreply, heq⟩ := hcall
  exact ⟨call, reply, hwrites, hreply, h.trans heq⟩

end

variable (x : Exchange)

section

variable {ρ φ κ : Type} [Profile ρ] [Table ρ] [Store.Profiles Database ρ φ] [Request κ]
  {view : ρ → Json} {endpoint : Endpoint}

/-- A request to make a profile makes the call or declines. -/
theorem createProfile_acts (hstored : Profiles.Stored ρ) {make : κ → Int → ρ}
    (hcall : ∀ (db : Database) (row : ρ), x.MakesProfile (Table.rows db.tables) make row →
      x.MakesCall db endpoint (shows 201 view (Store.Records.create row : Op Database ρ))) :
    Plans (x.Acts endpoint) (x.createProfile ρ view κ make) := by
  refine reading fun caller hcaller => reading fun request hbody => .ok fun db => ?_
  rcases Profiles.create_cases x.now db hstored (make request caller.userId) with h | ⟨hfirst, h⟩
  · exact .inl (declines_replying h _)
  · refine .inr (makesCall_congr ?_ (hcall db _ (.intro caller request hcaller hbody hfirst)))
    rw [shows_eq, shows_eq, exec_replying, exec_replying, h]

/-- A request to change a profile makes the call or declines. -/
theorem updateProfile_acts (hstored : Profiles.Stored ρ) {apply : κ → ρ → ρ}
    (hcall : ∀ (db : Database) (row : ρ), x.ChangesProfile (Table.rows db.tables) apply row →
      x.MakesCall db endpoint (shows 200 view (Store.Records.update row : Op Database ρ))) :
    Plans (x.Acts endpoint) (x.updateProfile ρ view κ apply) := by
  refine reading fun caller hcaller => reading fun id hid => reading fun request hbody => ?_
  refine .ok fun db => ?_
  rcases Profiles.update_cases x.now db hstored caller.userId id (apply request) with
    h | ⟨old, hmem, rfl, hlive, hown, h⟩
  · exact .inl (declines_replying h _)
  · refine .inr (makesCall_congr ?_
      (hcall db _ (.intro caller request old hcaller hid hbody hmem hlive hown)))
    rw [shows_eq, shows_eq, exec_replying, exec_replying, h]

/-- A request to delete a profile makes the call or declines. -/
theorem deleteProfile_acts (hstored : Profiles.Stored ρ)
    (hcall : ∀ (db : Database) (id : Int), x.RemovesProfile (Table.rows db.tables : List ρ) id →
      x.MakesCall db endpoint (silent (Store.Records.delete ρ id : Op Database Unit))) :
    Plans (x.Acts endpoint) (x.deleteProfile ρ) := by
  refine reading fun caller hcaller => reading fun id hid => .ok fun db => ?_
  rcases Profiles.delete_cases x.now db hstored caller.userId id with h | ⟨old, hmem, rfl, hlive, hown, h⟩
  · exact .inl (declines_replying h _)
  · refine .inr (makesCall_congr ?_ (hcall db _ (.intro caller old hcaller hid hmem hlive hown)))
    rw [silent_eq, silent_eq, exec_replying, exec_replying, h]

end

/-- **What an endpoint plans declines, or it makes a call of the list.** -/
theorem plan_acts (endpoint : Endpoint) (hwrites : endpoint.writes ≠ [])
    (hsessions : endpoint.writes ≠ [.sessions]) : Plans (x.Acts endpoint) (x.plan endpoint) := by
  -- one case for each endpoint that writes: the service either declines, or it has checked all that
  -- the call's constructor asks for
  cases endpoint with
  | register =>
      refine reading fun request hbody => .ok fun db => ?_
      have hcall : x.Writes db .register _ := Writes.register request hbody
      exact .inr (makesCall_shows hcall (by decide) (Accounts.exec_register _ _ _ _))
  | updateUser =>
      refine reading fun caller hcaller => reading fun id hid => reading fun request hbody => ?_
      refine .ok fun db => ?_
      rcases Accounts.update_cases x.now db caller.userId id request with
        h | ⟨rfl, old, hmem, hold, hlive, h⟩
      · exact .inl (declines_replying h _)
      · have hcall := Writes.updateUser caller request old hcaller (hold ▸ hid) hbody hmem hlive hold
        exact .inr (makesCall_shows hcall (by decide) h)
  | deleteUser =>
      refine reading fun caller hcaller => reading fun id hid => .ok fun db => ?_
      rcases Accounts.delete_cases x.now db caller.userId id with h | ⟨rfl, h⟩
      · exact .inl (declines_replying h _)
      · have hcall : x.Writes db .deleteUser _ := Writes.deleteUser caller hcaller hid
        exact .inr (makesCall_silent hcall h)
  | createKeeper =>
      exact x.createProfile_acts Profiles.stored_keepers fun db row h =>
        makesCall_shows (Writes.createKeeper row h) (by decide) rfl
  | updateKeeper =>
      exact x.updateProfile_acts Profiles.stored_keepers fun db row h =>
        makesCall_shows (Writes.updateKeeper row h) (by decide) rfl
  | deleteKeeper =>
      exact x.deleteProfile_acts Profiles.stored_keepers fun db id h =>
        makesCall_silent (Writes.deleteKeeper id h) rfl
  | createSeeker =>
      exact x.createProfile_acts Profiles.stored_seekers fun db row h =>
        makesCall_shows (Writes.createSeeker row h) (by decide) rfl
  | updateSeeker =>
      exact x.updateProfile_acts Profiles.stored_seekers fun db row h =>
        makesCall_shows (Writes.updateSeeker row h) (by decide) rfl
  | deleteSeeker =>
      exact x.deleteProfile_acts Profiles.stored_seekers fun db id h =>
        makesCall_silent (Writes.deleteSeeker id h) rfl
  | createVet =>
      exact x.createProfile_acts Profiles.stored_vets fun db row h =>
        makesCall_shows (Writes.createVet row h) (by decide) rfl
  | updateVet =>
      exact x.updateProfile_acts Profiles.stored_vets fun db row h =>
        makesCall_shows (Writes.updateVet row h) (by decide) rfl
  | deleteVet =>
      exact x.deleteProfile_acts Profiles.stored_vets fun db id h =>
        makesCall_silent (Writes.deleteVet id h) rfl
  | createPost =>
      refine reading fun caller hcaller => reading fun request hbody => .ok fun db => ?_
      rcases Posts.create_cases x.now db caller.userId request with h | ⟨status, hstatus, h⟩
      · exact .inl (declines_replying h _)
      · have hcall : x.Writes db .createPost _ :=
          Writes.onBoard _ _ (.create caller request status hcaller hbody hstatus)
        exact .inr (makesCall_shows hcall (by decide) h)
  | updatePost =>
      refine reading fun caller hcaller => reading fun id hid => reading fun request hbody => ?_
      refine .ok fun db => ?_
      rcases Posts.update_cases x.now db caller.userId id request with
        h | ⟨old, hmem, rfl, hlive, hown, hfree, hasks, h⟩
      · exact .inl (declines_replying h _)
      · have hcall : x.Writes db .updatePost _ := Writes.onBoard _ _
          (.update caller request old hcaller hid hbody hmem hlive hown hfree hasks)
        exact .inr (makesCall_shows hcall (by decide) h)
  | deletePost =>
      refine reading fun caller hcaller => reading fun id hid => .ok fun db => ?_
      rcases Posts.delete_cases x.now db caller.userId id with h | ⟨old, hmem, hold, hlive, hown, h⟩
      · exact .inl (declines_replying h _)
      · have hcall : x.Writes db .deletePost _ := Writes.onBoard _ _
          (.delete caller id old hcaller hid hmem hold hlive hown)
        exact .inr (makesCall_silent hcall h)
  | createReport =>
      refine reading fun caller hcaller => reading fun id hid => reading fun request hbody => ?_
      refine .ok fun db => ?_
      have hcall : x.Writes db .createReport _ :=
        Writes.onBoard _ _ (.file caller request id hcaller hid hbody)
      exact .inr (makesCall_shows hcall (by decide) (PostReports.exec_file _ _ _ _ _ _))
  | approvePost =>
      refine reading fun caller hmoderator => reading fun id hid => .ok fun db => ?_
      obtain ⟨hcaller, hrole⟩ := caller_of_moderator hmoderator
      have hcall : x.Writes db .approvePost _ :=
        Writes.onBoard _ _ (.approve caller id hcaller hrole hid)
      exact .inr (makesCall_shows hcall (by decide) rfl)
  | blockPost =>
      refine reading fun caller hmoderator => reading fun id hid => .ok fun db => ?_
      obtain ⟨hcaller, hrole⟩ := caller_of_moderator hmoderator
      have hcall : x.Writes db .blockPost _ :=
        Writes.onBoard _ _ (.block caller id hcaller hrole hid)
      exact .inr (makesCall_shows hcall (by decide) rfl)
  | createReview =>
      refine reading fun caller hcaller => reading fun id hid => reading fun request hbody => ?_
      refine .ok fun db => ?_
      rcases Reviews.create_cases x.now db caller.userId id request with
        h | ⟨hgrade, keeper, hmem, rfl, hlive, hother, h⟩
      · exact .inl (declines_replying h _)
      · have hcall := Writes.createReview caller request keeper hcaller hid hbody hgrade hmem hlive hother
        exact .inr (makesCall_shows hcall (by decide) h)
  | updateReview =>
      refine reading fun caller hcaller => reading fun id hid => reading fun request hbody => ?_
      refine .ok fun db => ?_
      rcases Reviews.update_cases x.now db caller.userId id request with
        h | ⟨hgrade, old, hmem, rfl, hlive, hown, h⟩
      · exact .inl (declines_replying h _)
      · have hcall := Writes.updateReview caller request old hcaller hid hbody hgrade hmem hlive hown
        exact .inr (makesCall_shows hcall (by decide) h)
  | deleteReview =>
      refine reading fun caller hcaller => reading fun id hid => .ok fun db => ?_
      rcases Reviews.delete_cases x.now db caller.userId id with h | ⟨old, hmem, rfl, hlive, hown, h⟩
      · exact .inl (declines_replying h _)
      · have hcall := Writes.deleteReview caller old hcaller hid hmem hlive hown
        exact .inr (makesCall_silent hcall h)
  | addFavourite =>
      refine reading fun caller hcaller => reading fun id hid => .ok fun db => ?_
      have hcall : x.Writes db .addFavourite _ := Writes.addFavourite caller id hcaller hid
      exact .inr (makesCall_shows hcall (by decide) rfl)
  | removeFavourite =>
      refine reading fun caller hcaller => reading fun id hid => .ok fun db => ?_
      have hcall : x.Writes db .removeFavourite _ := Writes.removeFavourite caller id hcaller hid
      exact .inr (makesCall_silent hcall rfl)
  | createChat =>
      refine reading fun caller hcaller => reading fun request hbody => .ok fun db => ?_
      have hcall : x.Writes db .createChat _ := Writes.createChat caller request hcaller hbody
      exact .inr (makesCall_shows hcall (by decide) (Chats.exec_create _ _ _ _))
  | leaveChat =>
      refine reading fun caller hcaller => reading fun id hid => .ok fun db => ?_
      rcases Chats.leave_cases x.now db caller.userId id with h | ⟨hpart, h⟩
      · exact .inl (declines_replying h _)
      · have hcall := Writes.leaveChat caller id hcaller hid hpart
        exact .inr (makesCall_silent hcall h)
  | sendMessage =>
      refine reading fun caller hcaller => reading fun id hid => reading fun request hbody => ?_
      refine .ok fun db => ?_
      rcases Messages.send_cases x.now db caller.userId id request with h | ⟨hpart, h⟩
      · exact .inl (declines_replying h _)
      · have hcall := Writes.sendMessage caller request id hcaller hid hbody hpart
        exact .inr (makesCall_shows hcall (by decide) h)
  | updateMessage =>
      refine reading fun caller hcaller => reading fun id hid => reading fun request hbody => ?_
      refine .ok fun db => ?_
      rcases Messages.update_cases x.now db caller.userId id request with
        h | ⟨old, hmem, rfl, hlive, hown, hpart, h⟩
      · exact .inl (declines_replying h _)
      · have hcall := Writes.updateMessage caller request old hcaller hid hbody hmem hlive hown hpart
        exact .inr (makesCall_shows hcall (by decide) h)
  | deleteMessage =>
      refine reading fun caller hcaller => reading fun id hid => .ok fun db => ?_
      rcases Messages.delete_cases x.now db caller.userId id with h | ⟨old, hmem, rfl, hlive, hown, h⟩
      · exact .inl (declines_replying h _)
      · have hcall := Writes.deleteMessage caller old hcaller hid hmem hlive hown
        exact .inr (makesCall_silent hcall h)
  | login | refresh | logout => exact absurd rfl hsessions
  | _ => exact absurd rfl hwrites

end Exchange

/-! ## Requests -/

/-- A reply that tells what came of an operation. -/
def Reply.Tells {α : Type} (reply : Reply) : Except Error α → Prop
  | .ok _ => reply.status ∈ [200, 201, 204]
  | .error cause => reply.status = cause.status

namespace Database

variable (config : Config) (db : Database) (a : Arrival)

/-- What comes of a request for which an operation was planned with its reply. -/
theorem serve_of_replying {α : Type} {op : Op Database α} {endpoint : Endpoint}
    {id? : Option (String × String)} {action : Action Database} {success : α → Reply}
    (hfind : Endpoint.find a.incoming = .endpoint endpoint id?)
    (hplan : (a.exchange config id?).plan endpoint = .ok action)
    (hsuccess : ∀ r, (success r).status ∈ [200, 201, 204])
    (hexec : action.exec a.now db = (Action.replying success op).exec a.now db) :
    (db.reply config a).Tells (op.exec a.now db).1 ∧ db.serve config a = (op.exec a.now db).2 := by
  obtain ⟨hstatus, hstore⟩ := App.serve_of_ok (s := db) hfind hplan
  rw [hexec, Action.exec_replying] at hstatus hstore
  refine ⟨?_, hstore⟩
  rcases hresult : (op.exec a.now db).1 with cause | result
  · rw [hresult] at hstatus
    exact hstatus
  · rw [hresult] at hstatus
    have heq : (db.reply config a).status = (success result).status := hstatus
    unfold Reply.Tells
    rw [heq]
    exact hsuccess result

/-- **A request to write rows is turned down and does nothing, or it makes a call of the list.** -/
theorem serve_of_writing {endpoint : Endpoint} {id? : Option (String × String)}
    (hfind : Endpoint.find a.incoming = .endpoint endpoint id?) (hwrites : endpoint.writes ≠ [])
    (hsessions : endpoint.writes ≠ [.sessions]) :
    (db.reply config a).IsFault ∧ db.serve config a = db ∨
      ∃ call, (a.exchange config id?).Writes db endpoint call ∧
        (db.reply config a).Tells (call.perform.exec a.now db).1 ∧
        db.serve config a = (call.perform.exec a.now db).2 := by
  let x : Exchange := a.exchange config id?
  rcases hplan : (x.plan endpoint : Except Reply (Action Database)) with fault | action
  · obtain ⟨hstatus, hstore⟩ := App.serve_of_error (s := db) hfind hplan
    have hfault := x.faults_plan endpoint (Endpoint.isSome_of_find hfind) fault hplan
    refine .inl ⟨?_, hstore⟩
    unfold Reply.IsFault reply
    rw [hstatus]
    exact hfault
  · rcases x.plan_acts endpoint hwrites hsessions action hplan db with
      ⟨cause, hcause, hexec⟩ | ⟨call, reply, hcall, hreply, hexec⟩
    · obtain ⟨hstatus, hstore⟩ := App.serve_of_ok (s := db) hfind hplan
      have hexec' : action.exec a.now db = (.error cause, db) := hexec
      rw [hexec'] at hstatus hstore
      refine .inl ⟨?_, hstore⟩
      unfold Reply.IsFault Database.reply
      rw [hstatus]
      exact ⟨cause.le_status, hcause⟩
    · exact .inr ⟨call, hcall, serve_of_replying config db a hfind hplan hreply hexec⟩

/-- A request that only looks leaves every table as it was. -/
theorem tables_of_reading {endpoint : Endpoint} {id? : Option (String × String)}
    (hfind : Endpoint.find a.incoming = .endpoint endpoint id?) (hreads : endpoint.writes = []) :
    (db.serve config a).tables = db.tables := by
  let x : Exchange := a.exchange config id?
  rcases hplan : (x.plan endpoint : Except Reply (Action Database)) with fault | action
  · have hstore : db.serve config a = db := (App.serve_of_error hfind hplan).2
    rw [hstore]
  · have hstore : db.serve config a = (action.exec a.now db).2 := (App.serve_of_ok hfind hplan).2
    have hwrites := x.plan_writesOnly endpoint action hplan
    rw [hreads] at hwrites
    rw [hstore]
    exact tables_of_onlyChanges_nil (onlyChanges_of_writesOnly hwrites a.now db)

/-- **A request changes at most sessions, or it makes a call of the list.** -/
theorem serve_writes :
    OnlyChanges [.sessions] db (db.serve config a) ∨
      ∃ endpoint id? call, Endpoint.find a.incoming = .endpoint endpoint id? ∧
        (a.exchange config id?).Writes db endpoint call ∧
        (db.reply config a).Tells (call.perform.exec a.now db).1 ∧
        db.serve config a = (call.perform.exec a.now db).2 := by
  rcases App.serve_cases config a.random a.incoming a.now db with
    h | ⟨endpoint, id?, action, hfind, hplan, h⟩
  · exact .inl (onlyChanges_of_tables_eq (congrArg Database.tables h))
  · by_cases hsub : endpoint.writes ⊆ [.sessions]
    · have hwrites := ((a.exchange config id?).plan_writesOnly endpoint action hplan).mono hsub
      have hframe := onlyChanges_of_writesOnly hwrites a.now db
      rw [← h] at hframe
      exact .inl hframe
    · have hne : endpoint.writes ≠ [] := fun heq => hsub (by simp [heq])
      have hne' : endpoint.writes ≠ [.sessions] := fun heq => hsub (by simp [heq])
      rcases serve_of_writing config db a hfind hne hne' with ⟨-, hsame⟩ | ⟨call, hcall⟩
      · exact .inl (onlyChanges_of_tables_eq (congrArg Database.tables hsame))
      · exact .inr ⟨endpoint, id?, call, hfind, hcall⟩

/-- **A request changes at most sessions, or it has the effect of a call of the list.** -/
theorem serve_effect :
    OnlyChanges [.sessions] db (db.serve config a) ∨
      ∃ endpoint id? call, Endpoint.find a.incoming = .endpoint endpoint id? ∧
        (a.exchange config id?).Writes db endpoint call ∧
        Effect a.now db.tables call (db.serve config a).tables := by
  rcases serve_writes config db a with hframe | ⟨endpoint, id?, call, hfind, hcall, -, hserve⟩
  · exact .inl hframe
  · exact .inr ⟨endpoint, id?, call, hfind, hcall, hserve ▸ effect_perform a.now db call⟩

end Database

end Fostering
