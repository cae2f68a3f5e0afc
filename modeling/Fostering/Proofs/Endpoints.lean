import Mathlib.Data.List.Basic
import Fostering.Http.App
import Fostering.Proofs.Calls

/-!
# What the endpoints ask of a store

The service is written against any store, so it can do nothing to one but call it. Each operation of
the service is made of certain calls, and so is the action of each endpoint: `Endpoint.makes` is the
whole list of them, and `Endpoint.writes` of the tables that they change.

* `Exchange.plan_madeOf`: an endpoint's action makes the endpoint's own calls only.
* `Exchange.plan_writesOnly`: so it changes the endpoint's own tables only.
* `App.serve_cases`: a request either leaves the store alone or carries out the action that its
  endpoint plans.
-/

namespace Fostering

open Op (MadeOf WritesOnly)

/-! ## The calls of the endpoints -/

namespace Endpoint

/-- Whether an endpoint may make a call. -/
def makes (endpoint : Endpoint) (call : Store.Call) : Bool :=
  match endpoint with
  | health => (call matches .reachable)
  | register => (call matches .user (.create _))
  | login => (call matches .userByName _ | .upsertSession _)
  | refresh => (call matches .takeSession _ | .user (.find _) | .upsertSession _)
  | logout => (call matches .deleteSession _ _)
  | listUsers => (call matches .user (.list _ _ _))
  | getUser => (call matches .user (.find _))
  | updateUser => (call matches .user (.find _) | .user (.update _))
  | deleteUser => (call matches .user (.delete _))
  | listRoles => (call matches .user (.find _) | .keeperOf _ | .seekerOf _ | .vetOf _)
  | listKeepers => (call matches .keeper (.list _ _ _))
  | createKeeper => (call matches .keeperOf _ | .keeper (.create _))
  | getKeeper => (call matches .keeper (.find _))
  | updateKeeper => (call matches .keeper (.find _) | .keeper (.update _))
  | deleteKeeper => (call matches .keeper (.find _) | .keeper (.delete _))
  | listReviews => (call matches .keeper (.find _) | .review (.list _ _ _))
  | createReview => (call matches .keeper (.find _) | .review (.create _))
  | getReview => (call matches .review (.find _))
  | updateReview => (call matches .review (.find _) | .review (.update _))
  | deleteReview => (call matches .review (.find _) | .review (.delete _))
  | listSeekers => (call matches .seeker (.list _ _ _))
  | createSeeker => (call matches .seekerOf _ | .seeker (.create _))
  | getSeeker => (call matches .seeker (.find _))
  | updateSeeker => (call matches .seeker (.find _) | .seeker (.update _))
  | deleteSeeker => (call matches .seeker (.find _) | .seeker (.delete _))
  | listVets => (call matches .vet (.list _ _ _))
  | createVet => (call matches .vetOf _ | .vet (.create _))
  | getVet => (call matches .vet (.find _))
  | updateVet => (call matches .vet (.find _) | .vet (.update _))
  | deleteVet => (call matches .vet (.find _) | .vet (.delete _))
  | listPosts => (call matches .post (.list _ _ _))
  | createPost => (call matches .post (.create _))
  | getPost => (call matches .post (.find _))
  | updatePost => (call matches .post (.find _) | .post (.update _))
  | deletePost => (call matches .post (.find _) | .post (.delete _))
  | listReports => (call matches .post (.find _) | .reportsOn _)
  | createReport => (call matches .fileReport _ _)
  | moderationQueue => (call matches .moderationQueue _)
  | approvePost => (call matches .approvePost _)
  | blockPost => (call matches .blockPost _)
  | listFavourites => (call matches .favouritesOf _ _)
  | addFavourite => (call matches .addFavourite _ _)
  | removeFavourite => (call matches .removeFavourite _ _)
  | listChats => (call matches .chatsOf _ _)
  | createChat => (call matches .createChat _ _)
  | getChat => (call matches .findChat _)
  | leaveChat => (call matches .findChat _ | .removeMember _ _)
  | listMessages => (call matches .findChat _ | .message (.list _ _ _))
  | sendMessage => (call matches .findChat _ | .message (.create _))
  | updateMessage => (call matches .message (.find _) | .findChat _ | .message (.update _))
  | deleteMessage => (call matches .message (.find _) | .message (.delete _))

/-- The tables that an endpoint may change. -/
def writes : Endpoint → List TableName
  | register | updateUser | deleteUser => [.users]
  | login | refresh | logout => [.sessions]
  | createKeeper | updateKeeper | deleteKeeper => [.keepers]
  | createReview | updateReview | deleteReview => [.reviews, .keepers]
  | createSeeker | updateSeeker | deleteSeeker => [.seekers]
  | createVet | updateVet | deleteVet => [.vets]
  | createPost | updatePost | deletePost | blockPost => [.posts]
  | createReport | approvePost => [.posts, .reports]
  | addFavourite | removeFavourite => [.favourites]
  | createChat | leaveChat => [.chats, .members]
  | sendMessage | updateMessage | deleteMessage => [.messages]
  | _ => []

/-- The calls of an endpoint change the endpoint's tables only. -/
theorem writes_of_makes {endpoint : Endpoint} {call : Store.Call} (h : endpoint.makes call) :
    call.writes ⊆ endpoint.writes := by
  cases endpoint <;> simp only [makes] at h <;> split at h <;>
    first | exact List.nil_subset _ | exact List.Subset.refl _ | cases h

end Endpoint

variable {σ : Type} [Store σ] {α : Type} {P : Store.Call → Prop}

theorem Op.WritesOnly.mono {tables tables' : List TableName} {op : Op σ α} (h : op.WritesOnly tables)
    (hsub : tables ⊆ tables') : op.WritesOnly tables' :=
  MadeOf.mono h fun _ hcall => List.Subset.trans hcall hsub

/-- To date a new row takes no call. -/
theorem madeOf_stamped {ρ : Type} [HasEntry ρ] (row : ρ) : (stamped row : Op σ ρ).MadeOf P :=
  .bind .now fun _ => .pure _

/-- To date a changed row takes no call. -/
theorem madeOf_touched {ρ : Type} [HasEntry ρ] (row : ρ) : (touched row : Op σ ρ).MadeOf P :=
  .bind .now fun _ => .pure _

/-! ## The service -/

namespace Accounts

/-- Registering makes a user and no other call. -/
theorem madeOf_register (hcreate : ∀ row, P (.user (.create row))) (salt : Bytes)
    (request : RegisterUser) : (register salt request : Op σ User).MadeOf P :=
  .bind (madeOf_stamped _) fun row => .call (.user (.create row)) (hcreate row)

/-- To show an account it has to be found. -/
theorem madeOf_get (hfind : ∀ id, P (.user (.find id))) (id : Int) : (get id : Op σ User).MadeOf P :=
  .call (.user (.find id)) (hfind id)

/-- Accounts are listed by a single call. -/
theorem madeOf_list (hlist : ∀ filter order page, P (.user (.list filter order page)))
    (filter : UserFilter) (sort : Option String) (page : Page) (defaults : DefaultOrder) :
    (list filter sort page defaults : Op σ (List User)).MadeOf P :=
  .bind (.ofExcept _) fun order => .call (.user (.list filter order page)) (hlist _ _ _)

/-- To change an account it is found and updated. -/
theorem madeOf_update (hfind : ∀ id, P (.user (.find id))) (hupdate : ∀ row, P (.user (.update row)))
    (actor id : Int) (request : UpdateUser) : (update actor id request : Op σ User).MadeOf P := by
  refine .bind (.guard _ _) fun _ => .bind (.call (.user (.find id)) (hfind id)) fun user => ?_
  exact .bind (madeOf_touched _) fun row => .call (.user (.update row)) (hupdate row)

/-- To delete an account takes a single call. -/
theorem madeOf_delete (hdelete : ∀ id, P (.user (.delete id))) (actor id : Int) :
    (delete actor id : Op σ Unit).MadeOf P :=
  .bind (.guard _ _) fun _ => .call (.user (.delete id)) (hdelete id)

end Accounts

namespace Profiles

section

variable {ρ φ : Type} [Profile ρ] [Store.Profiles σ ρ φ]

/-- A profile is made after a look at the profiles of the user. -/
theorem madeOf_create
    (hofUser : ∀ userId, (Store.Profiles.findByUser userId : Op σ (Option ρ)).MadeOf P)
    (hcreate : ∀ row, (Store.Records.create row : Op σ ρ).MadeOf P) (profile : ρ) :
    (create profile : Op σ ρ).MadeOf P := by
  refine .bind (hofUser _) fun _ => .bind (.guard _ _) fun _ => ?_
  exact .bind (madeOf_stamped _) hcreate

/-- Profiles are listed by a single call. -/
theorem madeOf_list
    (hlist : ∀ filter order page, (Store.Records.list filter order page : Op σ (List ρ)).MadeOf P)
    (filter : φ) (sort : Option String) (page : Page) (defaults : DefaultOrder) :
    (list filter sort page defaults : Op σ (List ρ)).MadeOf P :=
  .bind (.ofExcept _) fun order => hlist filter order page

/-- To find a profile of one's own it has to be found. -/
theorem madeOf_findOwn (hfind : ∀ id, (Store.Records.find id : Op σ ρ).MadeOf P) (actor id : Int) :
    (findOwn actor id : Op σ ρ).MadeOf P :=
  .bind (hfind id) fun _ => .bind (.guard _ _) fun _ => .pure _

/-- To change a profile it is found and updated. -/
theorem madeOf_update (hfind : ∀ id, (Store.Records.find id : Op σ ρ).MadeOf P)
    (hupdate : ∀ row, (Store.Records.update row : Op σ ρ).MadeOf P) (actor id : Int)
    (change : ρ → ρ) : (update actor id change : Op σ ρ).MadeOf P :=
  .bind (madeOf_findOwn hfind actor id) fun _ => .bind (madeOf_touched _) hupdate

/-- To delete a profile it is found and deleted. -/
theorem madeOf_delete (hfind : ∀ id, (Store.Records.find id : Op σ ρ).MadeOf P)
    (hdelete : ∀ id, (Store.Records.delete ρ id : Op σ Unit).MadeOf P) (actor id : Int) :
    (delete ρ actor id : Op σ Unit).MadeOf P :=
  .bind (madeOf_findOwn hfind actor id) fun _ => hdelete id

end

/-- To list roles the user is found, and then a profile of each kind is looked for. -/
theorem madeOf_rolesOf (hfind : ∀ id, P (.user (.find id))) (hkeeper : ∀ id, P (.keeperOf id))
    (hseeker : ∀ id, P (.seekerOf id)) (hvet : ∀ id, P (.vetOf id)) (userId : Int) :
    (rolesOf userId : Op σ (List UserRole)).MadeOf P := by
  refine .bind (.call (.user (.find userId)) (hfind userId)) fun _ => ?_
  refine .bind (.call (.keeperOf userId) (hkeeper userId)) fun _ => ?_
  refine .bind (.call (.seekerOf userId) (hseeker userId)) fun _ => ?_
  exact .bind (.call (.vetOf userId) (hvet userId)) fun _ => .pure _

end Profiles

namespace Posts

variable (hfind : ∀ id, P (.post (.find id)))

/-- A post is made by a single call. -/
theorem madeOf_create (hcreate : ∀ row, P (.post (.create row))) (actor : Int) (request : CreatePost) :
    (create actor request : Op σ Post).MadeOf P := by
  refine .bind (.ofExcept _) fun _ => ?_
  exact .bind (madeOf_stamped _) fun row => .call (.post (.create row)) (hcreate row)

/-- Posts are listed by a single call. -/
theorem madeOf_list (hlist : ∀ filter order page, P (.post (.list filter order page))) (viewer : Viewer)
    (filter : PostFilter) (sort : Option String) (page : Page) (defaults : DefaultOrder) :
    (list viewer filter sort page defaults : Op σ (List Post)).MadeOf P :=
  .bind (.ofExcept _) fun _ => .bind (.ofExcept _) fun order =>
    .call (.post (.list _ order page)) (hlist _ _ _)

include hfind

/-- To show a post it has to be found. -/
theorem madeOf_get (viewer : Viewer) (id : Int) : (get viewer id : Op σ Post).MadeOf P :=
  .bind (.call (.post (.find id)) (hfind id)) fun _ => .bind (.guard _ _) fun _ => .pure _

/-- To change a post it is found and updated. -/
theorem madeOf_update (hupdate : ∀ row, P (.post (.update row))) (actor id : Int)
    (request : UpdatePost) : (update actor id request : Op σ Post).MadeOf P := by
  refine .bind (.call (.post (.find id)) (hfind id)) fun _ => .bind (.guard _ _) fun _ => ?_
  refine .bind (.guard _ _) fun _ => .bind (.ofExcept _) fun _ => ?_
  exact .bind (madeOf_touched _) fun row => .call (.post (.update row)) (hupdate row)

/-- To delete a post it is found and deleted. -/
theorem madeOf_delete (hdelete : ∀ id, P (.post (.delete id))) (actor id : Int) :
    (delete actor id : Op σ Unit).MadeOf P :=
  .bind (.call (.post (.find id)) (hfind id)) fun _ =>
    .bind (.guard _ _) fun _ => .call (.post (.delete id)) (hdelete id)

end Posts

namespace PostReports

/-- A report is filed by a single call. -/
theorem madeOf_file (hfile : ∀ report threshold, P (.fileReport report threshold))
    (actor postId : Int) (request : CreateReport) (threshold : Int) :
    (file actor postId request threshold : Op σ ReportReceipt).MadeOf P :=
  .bind .now fun _ => .call (.fileReport _ threshold) (hfile _ _)

/-- To list the reports on a post it is found first. -/
theorem madeOf_listFor (hfind : ∀ id, P (.post (.find id))) (hreports : ∀ id, P (.reportsOn id))
    (postId : Int) : (listFor postId : Op σ (List Report)).MadeOf P :=
  .bind (.call (.post (.find postId)) (hfind _)) fun _ => .call (.reportsOn postId) (hreports _)

end PostReports

namespace Reviews

/-- A review is made after its keeper was found. -/
theorem madeOf_create (hkeeper : ∀ id, P (.keeper (.find id)))
    (hcreate : ∀ row, P (.review (.create row))) (actor keeperId : Int) (request : CreateReview) :
    (create actor keeperId request : Op σ Review).MadeOf P := by
  refine .bind (.ofExcept _) fun _ => .bind (.call (.keeper (.find keeperId)) (hkeeper _)) fun _ => ?_
  refine .bind (.guard _ _) fun _ => ?_
  exact .bind (madeOf_stamped _) fun row => .call (.review (.create row)) (hcreate row)

/-- To show a review it has to be found. -/
theorem madeOf_get (hfind : ∀ id, P (.review (.find id))) (id : Int) : (get id : Op σ Review).MadeOf P :=
  .call (.review (.find id)) (hfind id)

/-- To list the reviews of a keeper the keeper is found first. -/
theorem madeOf_listFor (hkeeper : ∀ id, P (.keeper (.find id)))
    (hlist : ∀ filter order page, P (.review (.list filter order page))) (keeperId : Int)
    (sort : Option String) (page : Page) (defaults : DefaultOrder) :
    (listFor keeperId sort page defaults : Op σ (List Review)).MadeOf P := by
  refine .bind (.ofExcept _) fun order => ?_
  exact .bind (.call (.keeper (.find keeperId)) (hkeeper _)) fun _ =>
    .call (.review (.list _ order page)) (hlist _ _ _)

/-- To change a review it is found and updated. -/
theorem madeOf_update (hfind : ∀ id, P (.review (.find id)))
    (hupdate : ∀ row, P (.review (.update row))) (actor id : Int) (request : UpdateReview) :
    (update actor id request : Op σ Review).MadeOf P := by
  refine .bind (.ofExcept _) fun _ => .bind (.call (.review (.find id)) (hfind _)) fun _ => ?_
  refine .bind (.guard _ _) fun _ => ?_
  exact .bind (madeOf_touched _) fun row => .call (.review (.update row)) (hupdate row)

/-- To delete a review it is found and deleted. -/
theorem madeOf_delete (hfind : ∀ id, P (.review (.find id))) (hdelete : ∀ id, P (.review (.delete id)))
    (actor id : Int) : (delete actor id : Op σ Unit).MadeOf P :=
  .bind (.call (.review (.find id)) (hfind _)) fun _ =>
    .bind (.guard _ _) fun _ => .call (.review (.delete id)) (hdelete _)

end Reviews

namespace Chats

/-- To find a chat as a member the chat has to be found. -/
theorem madeOf_findAsMember (hchat : ∀ id, P (.findChat id)) (actor chatId : Int) :
    (findAsMember actor chatId : Op σ ChatWithMembers).MadeOf P :=
  .bind (.call (.findChat chatId) (hchat _)) fun _ => .bind (.guard _ _) fun _ => .pure _

/-- A chat is made by a single call. -/
theorem madeOf_create (hcreate : ∀ chat ids, P (.createChat chat ids)) (actor : Int)
    (request : CreateChat) : (create actor request : Op σ ChatWithMembers).MadeOf P :=
  .bind (madeOf_stamped _) fun row => .call (.createChat row _) (hcreate _ _)

/-- Chats are listed by a single call. -/
theorem madeOf_list (hlist : ∀ userId page, P (.chatsOf userId page)) (actor : Int) (page : Page) :
    (list actor page : Op σ (List ChatWithMembers)).MadeOf P :=
  .call (.chatsOf actor page) (hlist _ _)

/-- To leave a chat it is found, and a member removed. -/
theorem madeOf_leave (hchat : ∀ id, P (.findChat id))
    (hremove : ∀ chatId userId, P (.removeMember chatId userId)) (actor id : Int) :
    (leave actor id : Op σ Unit).MadeOf P :=
  .bind (madeOf_findAsMember hchat actor id) fun _ => .call (.removeMember id actor) (hremove _ _)

end Chats

namespace Messages

/-- A message is sent after its chat was found. -/
theorem madeOf_send (hchat : ∀ id, P (.findChat id)) (hcreate : ∀ row, P (.message (.create row)))
    (actor chatId : Int) (request : SendMessage) :
    (send actor chatId request : Op σ Message).MadeOf P := by
  refine .bind (Chats.madeOf_findAsMember hchat actor chatId) fun _ => ?_
  exact .bind (madeOf_stamped _) fun row => .call (.message (.create row)) (hcreate row)

/-- To list the messages of a chat it is found first. -/
theorem madeOf_list (hchat : ∀ id, P (.findChat id))
    (hlist : ∀ filter order page, P (.message (.list filter order page))) (actor chatId : Int)
    (sort : Option String) (page : Page) (defaults : DefaultOrder) :
    (list actor chatId sort page defaults : Op σ (List Message)).MadeOf P := by
  refine .bind (.ofExcept _) fun order => ?_
  exact .bind (Chats.madeOf_findAsMember hchat actor chatId) fun _ =>
    .call (.message (.list _ order page)) (hlist _ _ _)

/-- To change a message the message is found, then its chat, and then the message is updated. -/
theorem madeOf_update (hfind : ∀ id, P (.message (.find id))) (hchat : ∀ id, P (.findChat id))
    (hupdate : ∀ row, P (.message (.update row))) (actor id : Int) (request : UpdateMessage) :
    (update actor id request : Op σ Message).MadeOf P := by
  refine .bind (.call (.message (.find id)) (hfind id)) fun message => .bind (.guard _ _) fun _ => ?_
  refine .bind (Chats.madeOf_findAsMember hchat actor message.chatId) fun _ => ?_
  exact .bind (madeOf_touched _) fun row => .call (.message (.update row)) (hupdate row)

/-- To delete a message it is found and deleted; nobody looks for its chat. -/
theorem madeOf_delete (hfind : ∀ id, P (.message (.find id)))
    (hdelete : ∀ id, P (.message (.delete id))) (actor id : Int) :
    (delete actor id : Op σ Unit).MadeOf P :=
  .bind (.call (.message (.find id)) (hfind id)) fun _ =>
    .bind (.guard _ _) fun _ => .call (.message (.delete id)) (hdelete id)

end Messages

namespace Logins

/-- Tokens are issued with a session that is put in place of the last one for the device. -/
theorem madeOf_issue (hupsert : ∀ session, P (.upsertSession session)) (config : TokenConfig)
    (random : Bytes) (user : User) (fingerprint : String) :
    (issue config random user fingerprint : Op σ (Except Breakdown AuthTokens)).MadeOf P := by
  refine .bind .now fun now => ?_
  rcases prepare config now random user fingerprint with fault | ⟨tokens, session⟩
  · exact .pure _
  · exact .bind (.call (.upsertSession session) (hupsert session)) fun _ => .pure _

/-- To log in the user is looked for by name, and a session is put in place. -/
theorem madeOf_login (hname : ∀ name, P (.userByName name))
    (hupsert : ∀ session, P (.upsertSession session)) (config : TokenConfig) (random : Bytes)
    (request : LoginRequest) :
    (login config random request : Op σ (Except Breakdown AuthTokens)).MadeOf P := by
  refine .bind (.call (.userByName request.username) (hname _)) fun user? => ?_
  refine .bind (.orRefuse _ _) fun user => ?_
  split
  · exact .pure _
  · exact .bind (.ofExcept _) fun _ => madeOf_issue hupsert config random user request.fingerprint

/-- What `findOwner` makes of the answer of the store. -/
def rereadOwner : Except Error User → Except Error User
  | .error (.notFound _ _) => .error userGone
  | outcome => outcome

/-- To find the owner of a session takes the call that finds users, with another cause if there is none. -/
theorem findOwner_eq (id : Int) :
    (findOwner id : Op σ User) =
      fun t s => (rereadOwner ((Store.Records.find id : Op σ User).exec t s).1,
        ((Store.Records.find id : Op σ User).exec t s).2) := by
  funext t s
  unfold findOwner rereadOwner
  rcases (Store.Records.find id : Op σ User).exec t s with ⟨⟨_ | _ | _ | _ | _ | _⟩ | _, _⟩ <;> rfl

/-- To find the owner of a session a user has to be found. -/
theorem madeOf_findOwner (hfind : ∀ id, P (.user (.find id))) (id : Int) :
    (findOwner id : Op σ User).MadeOf P := by
  rw [findOwner_eq]
  exact .reread rereadOwner (.call (.user (.find id)) (hfind id))

/-- To exchange a token its session is taken, the owner found, and a new session put in place. -/
theorem madeOf_refresh (htake : ∀ hash, P (.takeSession hash)) (hfind : ∀ id, P (.user (.find id)))
    (hupsert : ∀ session, P (.upsertSession session)) (config : TokenConfig) (random : Bytes)
    (request : RefreshRequest) :
    (refresh config random request : Op σ (Except Breakdown AuthTokens)).MadeOf P := by
  refine .bind (.call (.takeSession _) (htake _)) fun _ => .bind (.orRefuse _ _) fun session => ?_
  refine .bind (.guard _ _) fun _ => .bind (madeOf_findOwner hfind session.userId) fun user => ?_
  exact madeOf_issue hupsert config random user request.fingerprint

/-- To log out takes a single call. -/
theorem madeOf_logout (hdelete : ∀ userId fingerprint, P (.deleteSession userId fingerprint))
    (userId : Int) (fingerprint : String) : (logout userId fingerprint : Op σ Unit).MadeOf P :=
  .bind (.call (.deleteSession userId fingerprint) (hdelete _ _)) fun _ => .pure _

end Logins

/-! ## The endpoints -/

namespace Action

/-- To show what an operation gives takes no other call. -/
theorem madeOf_shows {op : Op σ α} (status : Nat) (view : α → Json) (h : op.MadeOf P) :
    (shows status view op).MadeOf P :=
  .bind h fun _ => .pure _

/-- To show all that an operation gives takes no other call. -/
theorem madeOf_showsAll {op : Op σ (List α)} (view : α → Json) (h : op.MadeOf P) :
    (showsAll view op).MadeOf P :=
  madeOf_shows 200 _ h

/-- To keep silent about an operation takes no other call. -/
theorem madeOf_silent {op : Op σ Unit} (h : op.MadeOf P) : (silent op).MadeOf P :=
  .bind h fun _ => .pure _

/-- To show tokens takes no other call. -/
theorem madeOf_showsTokens {op : Op σ (Except Breakdown AuthTokens)} (h : op.MadeOf P) :
    (showsTokens op).MadeOf P :=
  .bind h fun _ => .pure _

end Action

/-- Every result that is planned has a property. -/
def Plans {β : Type} (Q : β → Prop) (plan : Except Reply β) : Prop := ∀ b, plan = .ok b → Q b

namespace Plans

variable {β γ : Type} {Q : γ → Prop}

/-- What is planned at once keeps a property of plans if it has it. -/
theorem ok {c : γ} (h : Q c) : Plans Q (.ok c) := by
  rintro _ ⟨⟩
  exact h

/-- Reading one more part of a request, of which the rest may make use. -/
theorem reading {m : Except Reply β} {f : β → Except Reply γ}
    (h : ∀ b, m = .ok b → Plans Q (f b)) : Plans Q (m >>= f) := by
  intro c hc
  rcases hm : m with _ | b
  · rw [hm] at hc
    cases hc
  · rw [hm] at hc
    exact h b hm c hc

/-- Reading one more part of a request. -/
theorem read {m : Except Reply β} {f : β → Except Reply γ} (h : ∀ b, Plans Q (f b)) :
    Plans Q (m >>= f) :=
  reading fun b _ => h b

end Plans

namespace Exchange

open Fostering.Action Plans

variable (x : Exchange)

section

variable {ρ φ : Type} [Profile ρ] [Store.Profiles σ ρ φ] (view : ρ → Json)

/-- A listing of profiles makes the calls of a list. -/
theorem listProfiles_madeOf
    (hlist : ∀ filter order page, (Store.Records.list filter order page : Op σ (List ρ)).MadeOf P)
    (filter : Bytes → Except String φ) :
    Plans (MadeOf P) (x.listProfiles ρ view filter : Except Reply (Action σ)) :=
  read fun _ => read fun _ => read fun _ =>
    .ok (madeOf_showsAll view (Profiles.madeOf_list hlist _ _ _ _))

/-- A request to make a profile looks for another one of the user first. -/
theorem createProfile_madeOf
    (hofUser : ∀ userId, (Store.Profiles.findByUser userId : Op σ (Option ρ)).MadeOf P)
    (hcreate : ∀ row, (Store.Records.create row : Op σ ρ).MadeOf P) (κ : Type) [Request κ]
    (make : κ → Int → ρ) :
    Plans (MadeOf P) (x.createProfile ρ view κ make : Except Reply (Action σ)) :=
  read fun _ => read fun _ => .ok (madeOf_shows 201 view (Profiles.madeOf_create hofUser hcreate _))

variable (hfind : ∀ id, (Store.Records.find id : Op σ ρ).MadeOf P)

include hfind

omit [Profile ρ] in
/-- To show a profile it has to be found. -/
theorem getProfile_madeOf : Plans (MadeOf P) (x.getProfile ρ view : Except Reply (Action σ)) :=
  read fun _ => read fun id => .ok (madeOf_shows 200 view (hfind id))

/-- A request to change a profile finds it and updates it. -/
theorem updateProfile_madeOf (hupdate : ∀ row, (Store.Records.update row : Op σ ρ).MadeOf P)
    (κ : Type) [Request κ] (apply : κ → ρ → ρ) :
    Plans (MadeOf P) (x.updateProfile ρ view κ apply : Except Reply (Action σ)) :=
  read fun _ => read fun _ => read fun _ =>
    .ok (madeOf_shows 200 view (Profiles.madeOf_update hfind hupdate _ _ _))

/-- A request to delete a profile finds it and deletes it. -/
theorem deleteProfile_madeOf (hdelete : ∀ id, (Store.Records.delete ρ id : Op σ Unit).MadeOf P) :
    Plans (MadeOf P) (x.deleteProfile ρ : Except Reply (Action σ)) :=
  read fun _ => read fun _ => .ok (madeOf_silent (Profiles.madeOf_delete hfind hdelete _ _))

end

/-- **An endpoint's action makes the endpoint's own calls only.** -/
theorem plan_madeOf (endpoint : Endpoint) :
    Plans (MadeOf (endpoint.makes ·)) (x.plan endpoint : Except Reply (Action σ)) := by
  cases endpoint with
  | health => exact .ok (.bind (.call .reachable rfl) fun _ => .pure _)
  | register =>
      exact read fun _ => .ok (madeOf_shows _ _ (Accounts.madeOf_register (fun _ => rfl) _ _))
  | login =>
      exact read fun _ =>
        .ok (madeOf_showsTokens (Logins.madeOf_login (fun _ => rfl) (fun _ => rfl) _ _ _))
  | refresh =>
      exact read fun _ => .ok (madeOf_showsTokens
        (Logins.madeOf_refresh (fun _ => rfl) (fun _ => rfl) (fun _ => rfl) _ _ _))
  | logout =>
      exact read fun _ => read fun _ =>
        .ok (madeOf_silent (Logins.madeOf_logout (fun _ _ => rfl) _ _))
  | listUsers =>
      exact read fun _ => read fun _ => read fun _ =>
        .ok (madeOf_showsAll _ (Accounts.madeOf_list (fun _ _ _ => rfl) _ _ _ _))
  | getUser =>
      exact read fun _ => read fun _ =>
        .ok (madeOf_shows _ _ (Accounts.madeOf_get (fun _ => rfl) _))
  | updateUser =>
      exact read fun _ => read fun _ => read fun _ =>
        .ok (madeOf_shows _ _ (Accounts.madeOf_update (fun _ => rfl) (fun _ => rfl) _ _ _))
  | deleteUser =>
      exact read fun _ => read fun _ =>
        .ok (madeOf_silent (Accounts.madeOf_delete (fun _ => rfl) _ _))
  | listRoles =>
      exact read fun _ => read fun _ => .ok (madeOf_showsAll _ (Profiles.madeOf_rolesOf
        (fun _ => rfl) (fun _ => rfl) (fun _ => rfl) (fun _ => rfl) _))
  | listKeepers =>
      exact x.listProfiles_madeOf _ (fun filter order page =>
        .call (.keeper (.list filter order page)) rfl) _
  | createKeeper =>
      exact x.createProfile_madeOf _ (fun userId => .call (.keeperOf userId) rfl)
        (fun row => .call (.keeper (.create row)) rfl) _ _
  | getKeeper => exact x.getProfile_madeOf _ fun id => .call (.keeper (.find id)) rfl
  | updateKeeper =>
      exact x.updateProfile_madeOf _ (fun id => .call (.keeper (.find id)) rfl)
        (fun row => .call (.keeper (.update row)) rfl) _ _
  | deleteKeeper =>
      exact x.deleteProfile_madeOf (fun id => .call (.keeper (.find id)) rfl)
        fun id => .call (.keeper (.delete id)) rfl
  | listReviews =>
      exact read fun _ => read fun _ => read fun _ => .ok (madeOf_showsAll _
        (Reviews.madeOf_listFor (fun _ => rfl) (fun _ _ _ => rfl) _ _ _ _))
  | createReview =>
      exact read fun _ => read fun _ => read fun _ =>
        .ok (madeOf_shows _ _ (Reviews.madeOf_create (fun _ => rfl) (fun _ => rfl) _ _ _))
  | getReview =>
      exact read fun _ => read fun _ =>
        .ok (madeOf_shows _ _ (Reviews.madeOf_get (fun _ => rfl) _))
  | updateReview =>
      exact read fun _ => read fun _ => read fun _ =>
        .ok (madeOf_shows _ _ (Reviews.madeOf_update (fun _ => rfl) (fun _ => rfl) _ _ _))
  | deleteReview =>
      exact read fun _ => read fun _ =>
        .ok (madeOf_silent (Reviews.madeOf_delete (fun _ => rfl) (fun _ => rfl) _ _))
  | listSeekers =>
      exact x.listProfiles_madeOf _ (fun filter order page =>
        .call (.seeker (.list filter order page)) rfl) _
  | createSeeker =>
      exact x.createProfile_madeOf _ (fun userId => .call (.seekerOf userId) rfl)
        (fun row => .call (.seeker (.create row)) rfl) _ _
  | getSeeker => exact x.getProfile_madeOf _ fun id => .call (.seeker (.find id)) rfl
  | updateSeeker =>
      exact x.updateProfile_madeOf _ (fun id => .call (.seeker (.find id)) rfl)
        (fun row => .call (.seeker (.update row)) rfl) _ _
  | deleteSeeker =>
      exact x.deleteProfile_madeOf (fun id => .call (.seeker (.find id)) rfl)
        fun id => .call (.seeker (.delete id)) rfl
  | listVets =>
      exact x.listProfiles_madeOf _ (fun filter order page =>
        .call (.vet (.list filter order page)) rfl) _
  | createVet =>
      exact x.createProfile_madeOf _ (fun userId => .call (.vetOf userId) rfl)
        (fun row => .call (.vet (.create row)) rfl) _ _
  | getVet => exact x.getProfile_madeOf _ fun id => .call (.vet (.find id)) rfl
  | updateVet =>
      exact x.updateProfile_madeOf _ (fun id => .call (.vet (.find id)) rfl)
        (fun row => .call (.vet (.update row)) rfl) _ _
  | deleteVet =>
      exact x.deleteProfile_madeOf (fun id => .call (.vet (.find id)) rfl)
        fun id => .call (.vet (.delete id)) rfl
  | listPosts =>
      exact read fun _ => read fun _ => read fun _ =>
        .ok (madeOf_showsAll _ (Posts.madeOf_list (fun _ _ _ => rfl) _ _ _ _ _))
  | createPost =>
      exact read fun _ => read fun _ =>
        .ok (madeOf_shows _ _ (Posts.madeOf_create (fun _ => rfl) _ _))
  | getPost =>
      exact read fun _ => read fun _ =>
        .ok (madeOf_shows _ _ (Posts.madeOf_get (fun _ => rfl) _ _))
  | updatePost =>
      exact read fun _ => read fun _ => read fun _ =>
        .ok (madeOf_shows _ _ (Posts.madeOf_update (fun _ => rfl) (fun _ => rfl) _ _ _))
  | deletePost =>
      exact read fun _ => read fun _ =>
        .ok (madeOf_silent (Posts.madeOf_delete (fun _ => rfl) (fun _ => rfl) _ _))
  | listReports =>
      exact read fun _ => read fun _ => .ok (madeOf_showsAll _
        (PostReports.madeOf_listFor (fun _ => rfl) (fun _ => rfl) _))
  | createReport =>
      exact read fun _ => read fun _ => read fun _ =>
        .ok (madeOf_shows _ _ (PostReports.madeOf_file (fun _ _ => rfl) _ _ _ _))
  | moderationQueue =>
      exact read fun _ => read fun page =>
        .ok (madeOf_showsAll _ (.call (.moderationQueue page) rfl))
  | approvePost =>
      exact read fun _ => read fun id => .ok (madeOf_shows _ _ (.call (.approvePost id) rfl))
  | blockPost =>
      exact read fun _ => read fun id => .ok (madeOf_shows _ _ (.call (.blockPost id) rfl))
  | listFavourites =>
      exact read fun caller => read fun page =>
        .ok (madeOf_showsAll _ (.call (.favouritesOf caller.userId page) rfl))
  | addFavourite =>
      exact read fun caller => read fun id =>
        .ok (madeOf_shows _ _ (.call (.addFavourite caller.userId id) rfl))
  | removeFavourite =>
      exact read fun caller => read fun id =>
        .ok (madeOf_silent (.call (.removeFavourite caller.userId id) rfl))
  | listChats =>
      exact read fun _ => read fun _ =>
        .ok (madeOf_showsAll _ (Chats.madeOf_list (fun _ _ => rfl) _ _))
  | createChat =>
      exact read fun _ => read fun _ =>
        .ok (madeOf_shows _ _ (Chats.madeOf_create (fun _ _ => rfl) _ _))
  | getChat =>
      exact read fun _ => read fun _ =>
        .ok (madeOf_shows _ _ (Chats.madeOf_findAsMember (fun _ => rfl) _ _))
  | leaveChat =>
      exact read fun _ => read fun _ =>
        .ok (madeOf_silent (Chats.madeOf_leave (fun _ => rfl) (fun _ _ => rfl) _ _))
  | listMessages =>
      exact read fun _ => read fun _ => read fun _ => .ok (madeOf_showsAll _
        (Messages.madeOf_list (fun _ => rfl) (fun _ _ _ => rfl) _ _ _ _ _))
  | sendMessage =>
      exact read fun _ => read fun _ => read fun _ =>
        .ok (madeOf_shows _ _ (Messages.madeOf_send (fun _ => rfl) (fun _ => rfl) _ _ _))
  | updateMessage =>
      exact read fun _ => read fun _ => read fun _ => .ok (madeOf_shows _ _ (Messages.madeOf_update
        (fun _ => rfl) (fun _ => rfl) (fun _ => rfl) _ _ _))
  | deleteMessage =>
      exact read fun _ => read fun _ =>
        .ok (madeOf_silent (Messages.madeOf_delete (fun _ => rfl) (fun _ => rfl) _ _))

/-- **An endpoint's action changes the endpoint's own tables only.** -/
theorem plan_writesOnly (endpoint : Endpoint) :
    Plans (WritesOnly endpoint.writes) (x.plan endpoint : Except Reply (Action σ)) :=
  fun action h => (x.plan_madeOf endpoint action h).mono fun _ => Endpoint.writes_of_makes

end Exchange

/-! ## Requests -/

namespace Action

/-- Showing what came of an operation does nothing to the store. -/
theorem snd_shows {σ α : Type} (status : Nat) (view : α → Json) (op : Op σ α) (now : Instant) (s : σ) :
    ((shows status view op).exec now s).2 = (op.exec now s).2 := by
  unfold shows
  rw [Op.exec_bind]
  rcases op.exec now s with ⟨_ | _, _⟩ <;> rfl

/-- Silence about an operation leaves the store as the operation does. -/
theorem snd_silent {σ : Type} (op : Op σ Unit) (now : Instant) (s : σ) :
    ((silent op).exec now s).2 = (op.exec now s).2 := by
  unfold silent
  rw [Op.exec_bind]
  rcases op.exec now s with ⟨_ | _, _⟩ <;> rfl

end Action

namespace App

omit [Store σ] in
/-- An action leaves the store alike whether it answers or fails. -/
theorem snd_run (action : Action σ) (now : Instant) (s : σ) :
    (run action now s).2 = (action.exec now s).2 := by
  unfold run
  rcases action.exec now s with ⟨_ | _, _⟩ <;> rfl

/-- The outer layers do nothing to the store. -/
theorem snd_serve (config : Config) (random : Bytes) (incoming : Incoming) (now : Instant) (s : σ) :
    (serve config random incoming now s).2 = s ∨
      (serve config random incoming now s).2 = (dispatch config random incoming now s).2 := by
  unfold serve
  split
  · exact .inl rfl
  · exact .inr rfl

/-- **A request leaves the store alone, or carries out what its endpoint plans.** -/
theorem serve_cases (config : Config) (random : Bytes) (incoming : Incoming) (now : Instant) (s : σ) :
    (serve config random incoming now s).2 = s ∨
      ∃ endpoint id?, ∃ action : Action σ,
        Endpoint.find incoming = .endpoint endpoint id? ∧
        Exchange.plan ⟨config, now, random, incoming, id?⟩ endpoint = .ok action ∧
        (serve config random incoming now s).2 = (action.exec now s).2 := by
  rcases snd_serve config random incoming now s with h | h
  · exact .inl h
  · rw [h]
    unfold dispatch
    split
    · rename_i endpoint id? hfind
      unfold react
      split
      · exact .inl rfl
      · rename_i action hplan
        exact .inr ⟨endpoint, id?, action, hfind, hplan, snd_run action now s⟩
    · exact .inl rfl

end App

end Fostering
