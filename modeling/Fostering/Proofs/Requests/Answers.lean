import Fostering.Proofs.Listing.Requested
import Fostering.Proofs.Requests.Fitting
import Fostering.Proofs.Sessions.Logins

/-!
# Requests that write no rows

The endpoints that show rows, and those that deal with tokens, are none that change rows by a call of
the list. What they plan *settles* (`Action.Settles`): it succeeds, or is turned down for a fault of the
client. For lists this is so because every column that a list may be sorted by is there, and for logins
because the digests of passwords are those that the service has written.

* `Exchange.plan_settles_reading`: the endpoints that show rows.
* `Exchange.plan_settles_session`: the endpoints of sessions, as long as lifetimes have ends.
-/

namespace Fostering

open Op

/-- What comes of an action succeeds, or is turned down for a fault of the client. -/
def Action.Settles (now : Instant) (db : Database) (action : Action Database) : Prop :=
  Action.statusOf (action.exec now db).1 < 500

variable {now : Instant} {db : Database} {α : Type}

namespace Action

/-- An operation that answers can be replied to. -/
theorem settles_replying {op : Op Database α} (h : op.Answers now db) {reply : α → Reply}
    (hreply : ∀ a, (reply a).status < 500) : Settles now db (replying reply op) := by
  unfold Settles
  rw [exec_replying]
  rcases hop : (op.exec now db).1 with cause | a
  · exact h cause hop
  · exact hreply a

/-- To show what is answered settles the request. -/
theorem settles_shows {op : Op Database α} (h : op.Answers now db) (view : α → Json) :
    Settles now db (shows 200 view op) :=
  settles_replying h fun _ => show 200 < 500 by decide

/-- To show all that is answered does so, too. -/
theorem settles_showsAll {op : Op Database (List α)} (h : op.Answers now db) (view : α → Json) :
    Settles now db (showsAll view op) :=
  settles_shows h _

theorem settles_silent {op : Op Database Unit} (h : op.Answers now db) :
    Settles now db (silent op) :=
  settles_replying h fun _ => show 204 < 500 by decide

end Action

/-! ## Lists -/

namespace ListOrder

variable {sort : Option String} {allowed : List String} {defaults : DefaultOrder}

/-- An order is refused for a fault in the text that asks for it. -/
theorem cause_of_forRequest {cause : Error} (h : forRequest sort allowed defaults = .error cause) :
    ∃ message, cause = .validation message := by
  obtain ⟨fault, -, rfl⟩ := forRequest_eq_error_iff.mp h
  exact ⟨fault.message, rfl⟩

/-- An order is read, or the client is told what is wrong with it. -/
theorem answers_forRequest :
    (Op.ofExcept (forRequest sort allowed defaults) : Op Database ListOrder).Answers now db := by
  refine answers_ofExcept fun cause hcause => ?_
  obtain ⟨message, rfl⟩ := cause_of_forRequest hcause
  exact Error.status_lt nofun

/-- The order of a request, where it has one, is the one that is found. -/
theorem resolve_of_forRequest {order : ListOrder} (h : forRequest sort allowed defaults = .ok order) :
    resolve sort allowed defaults = .ok order := forRequest_eq_ok_iff.mp h

/-- The order that comes of a request is one of a column that the list may be sorted by. -/
theorem column_mem_of_exec {order : ListOrder} {db' : Database}
    (h : (Op.ofExcept (forRequest sort allowed defaults) : Op Database ListOrder).exec now db =
      (.ok order, db')) : order.column ∈ fallbackColumn :: allowed := by
  rw [exec_ofExcept, Prod.mk.injEq] at h
  exact column_mem_of_resolve (resolve_of_forRequest h.1)

end ListOrder

/-- Every column that a list may be sorted by is there. -/
def HasColumns (ρ : Type) [Columns ρ] (allowed : List String) : Prop :=
  ∀ column ∈ fallbackColumn :: allowed,
    (Columns.column? (ρ := ρ) (String.ofList (column.toList.map Char.toLower))).isSome = true

/-- Users can be sorted by the columns that clients may name. -/
theorem User.hasColumns : HasColumns User sortFields := by
  unfold HasColumns
  decide

theorem Keeper.hasColumns : HasColumns Keeper sortFields := by
  unfold HasColumns
  decide

theorem Seeker.hasColumns : HasColumns Seeker sortFields := by
  unfold HasColumns
  decide

theorem Vet.hasColumns : HasColumns Vet sortFields := by
  unfold HasColumns
  decide

theorem Post.hasColumns : HasColumns Post sortFields := by
  unfold HasColumns
  decide

theorem Review.hasColumns : HasColumns Review sortFields := by
  unfold HasColumns
  decide

theorem Message.hasColumns : HasColumns Message sortFields := by
  unfold HasColumns
  decide

/-- A list in an order that was asked for is answered. -/
theorem answers_listed {ρ φ : Type} [Table ρ] [HasEntry ρ] [Columns ρ] [Filter φ ρ]
    {allowed : List String} (hcolumns : HasColumns ρ allowed) {filter : φ}
    (htexts : ∀ text ∈ Filter.texts ρ filter, isStorableText text = true) {order : ListOrder}
    (horder : order.column ∈ fallbackColumn :: allowed) (page : Page) :
    (Database.list filter order page : Op Database (List ρ)).Answers now db :=
  Database.answers_list (List.all_eq_true.mpr htexts) (hcolumns _ horder) page

/-! ## The service -/

namespace Profiles

variable {ρ φ : Type} [Profile ρ] [Store.Profiles Database ρ φ]

/-- A list of profiles is answered if the database answers for every column by which it may be sorted. -/
theorem answers_list {filter : φ} {page : Page}
    (hlist : ∀ order : ListOrder, order.column ∈ fallbackColumn :: Profile.sortFields ρ → ∀ db,
      (Store.Records.list filter order page : Op Database (List ρ)).Answers now db)
    (sort : Option String) (defaults : DefaultOrder) :
    (list filter sort page defaults : Op Database (List ρ)).Answers now db := by
  unfold list
  refine ListOrder.answers_forRequest.bind fun order _ horder => ?_
  exact hlist order (ListOrder.column_mem_of_exec horder) _

/-- The list of roles is answered. -/
theorem answers_rolesOf (userId : Int) :
    (rolesOf userId : Op Database (List UserRole)).Answers now db := by
  unfold rolesOf
  refine Answers.bind (Database.answers_find (ρ := User) userId) fun _ _ _ => ?_
  refine Answers.bind (Database.answers_looking _) fun keeper? _ _ => ?_
  refine Answers.bind (Database.answers_looking _) fun seeker? _ _ => ?_
  exact Answers.bind (Database.answers_looking _) fun vet? _ _ => answers_pure _

end Profiles

namespace Accounts

/-- A list of users is answered if the texts of the filter can be compared with stored ones. -/
theorem answers_list {filter : UserFilter}
    (htexts : ∀ text ∈ Filter.texts User filter, isStorableText text = true) (sort : Option String)
    (page : Page) (defaults : DefaultOrder) :
    (list filter sort page defaults : Op Database (List User)).Answers now db := by
  unfold list
  refine ListOrder.answers_forRequest.bind fun order _ horder => ?_
  exact answers_listed User.hasColumns htexts (ListOrder.column_mem_of_exec horder) page

end Accounts

namespace Reviews

/-- The list of the reviews of a keeper is answered. -/
theorem answers_listFor (keeperId : Int) (sort : Option String) (page : Page)
    (defaults : DefaultOrder) :
    (listFor keeperId sort page defaults : Op Database (List Review)).Answers now db := by
  have hnone : ∀ text ∈ Filter.texts Review (⟨keeperId⟩ : ReviewFilter), isStorableText text = true :=
    fun _ h => absurd h List.not_mem_nil
  unfold listFor
  refine ListOrder.answers_forRequest.bind fun order _ horder => ?_
  refine Answers.bind (Database.answers_find (ρ := Keeper) keeperId) fun _ _ _ => ?_
  exact answers_listed Review.hasColumns hnone (ListOrder.column_mem_of_exec horder) page

end Reviews

namespace Posts

/-- To look for a post is answered. -/
theorem answers_get (viewer : Viewer) (id : Int) :
    (get viewer id : Op Database Post).Answers now db := by
  unfold get
  refine Answers.bind (Database.answers_find (ρ := Post) id) fun post _ _ => ?_
  exact (answers_guard (Error.status_lt (by simp)) _).bind fun _ _ _ => answers_pure _

/-- A filter is refused for a status that there is not. -/
theorem cause_of_filter {text? : Option String} {cause : Error}
    (h : text?.mapM PostStatus.read = .error cause) : ∃ message, cause = .validation message := by
  obtain ⟨text, -, hread⟩ := Option.exists_of_mapM_eq_error h
  unfold PostStatus.read at hread
  split at hread
  · cases hread
  · cases hread
    exact ⟨_, rfl⟩

/-- A client who filters by an unknown status is told so. -/
theorem status_of_filter {text? : Option String} {cause : Error}
    (h : text?.mapM PostStatus.read = .error cause) : cause.status < 500 := by
  obtain ⟨message, rfl⟩ := cause_of_filter h
  exact Error.status_lt nofun

/-- A list of posts is answered if the texts of the filter can be compared with stored ones. -/
theorem answers_list (viewer : Viewer) {filter : PostFilter}
    (htexts : ∀ text ∈ Filter.texts Post { filter with visibleTo := viewer.restriction },
      isStorableText text = true)
    (sort : Option String) (page : Page) (defaults : DefaultOrder) :
    (list viewer filter sort page defaults : Op Database (List Post)).Answers now db := by
  unfold list
  refine (answers_ofExcept fun _ => status_of_filter).bind fun _ _ _ => ?_
  refine ListOrder.answers_forRequest.bind fun order _ horder => ?_
  exact answers_listed Post.hasColumns htexts (ListOrder.column_mem_of_exec horder) page

end Posts

/-- The list of the reports on a post is answered. -/
theorem PostReports.answers_listFor (postId : Int) :
    (listFor postId : Op Database (List Report)).Answers now db := by
  unfold listFor
  exact Answers.bind (Database.answers_find (ρ := Post) postId) fun _ _ _ => Database.answers_looking _

/-- To look for a chat as a member is answered. -/
theorem Chats.answers_findAsMember (actor chatId : Int) :
    (findAsMember actor chatId : Op Database ChatWithMembers).Answers now db := by
  unfold findAsMember
  refine Answers.bind (Database.answers_findChat chatId) fun chat _ _ => ?_
  exact (answers_guard (Error.status_lt (by simp [notMember])) _).bind fun _ _ _ => answers_pure _

/-- The list of the messages of a chat is answered. -/
theorem Messages.answers_list (actor chatId : Int) (sort : Option String) (page : Page)
    (defaults : DefaultOrder) :
    (list actor chatId sort page defaults : Op Database (List Message)).Answers now db := by
  have hnone : ∀ text ∈ Filter.texts Message (⟨chatId⟩ : MessageFilter), isStorableText text = true :=
    fun _ h => absurd h List.not_mem_nil
  unfold list
  refine ListOrder.answers_forRequest.bind fun order _ horder => ?_
  refine (Chats.answers_findAsMember actor chatId).bind fun _ _ _ => ?_
  exact answers_listed Message.hasColumns hnone (ListOrder.column_mem_of_exec horder) page

/-! ## Tokens -/

namespace Logins

/-- Tokens are given, or refused for a fault of the client. -/
inductive Answer.IsSettled : Answer → Prop where
  | given (tokens : AuthTokens) : IsSettled (.ok (.ok tokens))
  | refused {cause : Error} (h : cause.status < 500) : IsSettled (.error cause)

variable {config : TokenConfig}

/-- Tokens whose lifetimes have ends are given, or the database refuses to store their session. -/
theorem isSettled_issue (hlasts : Lasts config now) (random : Bytes) (user : User)
    {fingerprint : String} (hdevice : isStorableText fingerprint = true) (db : Database) :
    Answer.IsSettled ((issue config random user fingerprint : Op Database _).exec now db).1 := by
  obtain ⟨accessToken, expiresAt, -, hexpiry, hprepare⟩ := hlasts.prepare random user fingerprint
  let given : Session := { userId := user.entry.id,
                           tokenHash := refreshDigest (Uuid.text (random.drop 16)), fingerprint, expiresAt }
  have hdigest : isStorableText given.tokenHash = true := isStorableText_refreshDigest _
  have htexts : HasStorableTexts given :=
    List.forall_mem_cons.mpr ⟨hdigest, List.forall_mem_singleton.mpr hdevice⟩
  have hstorable : Schema.isStorable given = true :=
    isStorable_of htexts (List.forall_mem_singleton.mpr hexpiry)
  have hnow : (Op.now : Op Database Instant).exec now db = (.ok now, db) := rfl
  unfold issue
  rw [exec_bind_ok hnow, hprepare]
  rcases hupsert : (Database.upsertSession given).exec now db with ⟨cause | session, db'⟩
  · have hcause : cause.status < 500 :=
      Database.answers_upsertSession hstorable cause (by rw [hupsert])
    have hrefused : (Store.Sessions.upsert given : Op Database Session).exec now db =
        (.error cause, db') := hupsert
    change Answer.IsSettled ((Store.Sessions.upsert given >>= _ : Op Database _).exec now db).1
    rw [exec_bind_error hrefused]
    exact .refused hcause
  · have hstored : (Store.Sessions.upsert given : Op Database Session).exec now db =
        (.ok session, db') := hupsert
    change Answer.IsSettled ((Store.Sessions.upsert given >>= _ : Op Database _).exec now db).1
    rw [exec_bind_ok hstored]
    exact .given _

/-- A user with a password as the service writes it logs in, or is turned away. -/
theorem isSettled_login (hdb : db.Conforms .sound) (hlasts : Lasts config now) (random : Bytes)
    {request : LoginRequest} (hname : isStorableText request.username = true)
    (hdevice : isStorableText request.fingerprint = true) :
    Answer.IsSettled ((login config random request : Op Database _).exec now db).1 := by
  let isIt (u : User) : Bool := u.username = request.username && u.entry.isLive
  have hfind : (Store.Users.findByUsername request.username : Op Database (Option User)).exec now db =
      (.ok (db.tables.users.find? isIt), db) :=
    (exec_bind_ok (exec_guard_of_true hname Database.unstorable now db)).trans
      (Database.exec_find? isIt now db)
  unfold login
  rw [exec_bind_ok hfind]
  rcases hfound : db.tables.users.find? isIt with _ | user
  · exact .refused (by decide)
  · have huser := hdb .users user (List.mem_of_find?_eq_some hfound)
    obtain ⟨verdict, hverdict⟩ := huser.2.exists_verdict request.password
    rw [exec_bind_ok (exec_orRefuse_some badCredentials user now db), hverdict]
    cases verdict with
    | false => exact .refused (by decide)
    | true => exact isSettled_issue hlasts random user hdevice db

/-- A refresh token is exchanged, or turned down. -/
theorem isSettled_refresh (hlasts : Lasts config now) (random : Bytes) {request : RefreshRequest}
    (hdevice : isStorableText request.fingerprint = true) :
    Answer.IsSettled ((refresh config random request : Op Database _).exec now db).1 := by
  rcases refresh_cases config random request now db with
    ⟨-, heq⟩ | ⟨r, -, -, ⟨-, heq⟩ | ⟨-, -, heq⟩ | ⟨-, user, -, -, -, heq⟩⟩
  · rw [heq]
    exact .refused (by decide)
  · rw [heq]
    exact .refused (by decide)
  · rw [heq]
    exact .refused (by decide)
  · rw [heq]
    exact isSettled_issue hlasts random user hdevice _

/-- To log out is answered if the name of the device can be compared with stored ones. -/
theorem answers_logout (userId : Int) {fingerprint : String}
    (hdevice : isStorableText fingerprint = true) :
    (logout userId fingerprint : Op Database Unit).Answers now db :=
  (Database.answers_deleteSession userId hdevice).bind fun _ _ _ => answers_pure _

end Logins

/-- To show tokens settles the request, unless something broke off on the way. -/
theorem Action.settles_showsTokens {op : Op Database (Except Breakdown AuthTokens)}
    (h : Logins.Answer.IsSettled (op.exec now db).1) : Settles now db (showsTokens op) := by
  unfold Settles showsTokens
  rw [exec_bind]
  rcases heq : op.exec now db with ⟨cause | broken | tokens, db'⟩
  · rw [heq] at h
    cases h with
    | refused hcause => exact hcause
  · rw [heq] at h
    cases h
  · exact show 200 < 500 by decide

/-! ## Endpoints -/

/-- A plain request to log in gives a name and a device that can be looked for. -/
theorem LoginRequest.storable {r : LoginRequest} (h : Request.OfPlain r) :
    isStorableText r.username = true ∧ isStorableText r.fingerprint = true := by
  obtain ⟨⟨username, password, fingerprint, ⟨⟩⟩, hrow, rfl⟩ := h
  exact ⟨hrow.1, hrow.2.2.1⟩

/-- A plain request for an exchange gives a device that can be looked for. -/
theorem RefreshRequest.storable {r : RefreshRequest} (h : Request.OfPlain r) :
    isStorableText r.fingerprint = true := by
  obtain ⟨⟨refreshToken, fingerprint, ⟨⟩⟩, hrow, rfl⟩ := h
  exact hrow.2.1

theorem LogoutRequest.storable {r : LogoutRequest} (h : Request.OfPlain r) :
    isStorableText r.fingerprint = true := by
  obtain ⟨⟨fingerprint, ⟨⟩⟩, hrow, rfl⟩ := h
  exact hrow.1

namespace Exchange

open Fostering.Action Plans Database

variable (x : Exchange)

/-- What was read from the query is what the reader found there. -/
theorem eq_of_query {β : Type} {reader : Bytes → Except String β} {found : β}
    (h : x.query reader = .ok found) : reader x.incoming.query = .ok found := by
  unfold query at h
  rcases hread : reader x.incoming.query with message | found'
  · rw [hread] at h
    cases h
  · rw [hread] at h
    cases h
    rfl

section

variable {ρ φ : Type} [Profile ρ] [Store.Profiles Database ρ φ] (view : ρ → Json)

/-- A listing of profiles settles the request if the list is answered. -/
theorem listProfiles_settles {filter : Bytes → Except String φ}
    (hlist : ∀ f, filter x.incoming.query = .ok f → ∀ order : ListOrder,
      order.column ∈ fallbackColumn :: Profile.sortFields ρ → ∀ page db,
        (Store.Records.list f order page : Op Database (List ρ)).Answers x.now db) (db : Database) :
    Plans (Settles x.now db) (x.listProfiles ρ view filter) := by
  refine read fun _ => read fun params => reading fun f hf => .ok ?_
  have hfilter := hlist f (x.eq_of_query hf)
  exact settles_showsAll
    (Profiles.answers_list (fun order horder => hfilter order horder params.page) _ _) view

omit [Profile ρ] in
/-- To show a profile settles the request if finding it is answered. -/
theorem getProfile_settles
    (hfind : ∀ id db, (Store.Records.find id : Op Database ρ).Answers x.now db) (db : Database) :
    Plans (Settles x.now db) (x.getProfile ρ view) :=
  read fun _ => read fun id => .ok (settles_shows (hfind id db) view)

end

/-- **What shows rows succeeds, or is turned down for a fault of the client.** -/
theorem plan_settles_reading (hquery : Query.IsPlain x.incoming.query) {endpoint : Endpoint}
    (hwrites : endpoint.writes = []) (db : Database) :
    Plans (Settles x.now db) (x.plan endpoint) := by
  -- only texts of a filter could be refused by a reading; ids and pages never are
  cases endpoint with
  | health => exact .ok (show 200 < 500 by decide)
  | listUsers =>
      refine read fun _ => read fun params => reading fun filter hfilter => .ok ?_
      have htexts := Query.storable_userFilter hquery (x.eq_of_query hfilter)
      exact settles_showsAll (Accounts.answers_list htexts _ _ _) _
  | getUser => exact read fun _ => read fun id => .ok (settles_shows (answers_find (ρ := User) id) _)
  | listRoles =>
      exact read fun _ => read fun id => .ok (settles_showsAll (Profiles.answers_rolesOf id) _)
  | listKeepers =>
      refine x.listProfiles_settles _ (fun filter hfilter order horder page db => ?_) db
      exact answers_listed Keeper.hasColumns (Query.storable_keeperFilter hquery hfilter) horder page
  | getKeeper => exact x.getProfile_settles _ (fun id db => answers_find (ρ := Keeper) id) db
  | listSeekers =>
      refine x.listProfiles_settles _ (fun filter hfilter order horder page db => ?_) db
      exact answers_listed Seeker.hasColumns (Query.storable_seekerFilter hquery hfilter) horder page
  | getSeeker => exact x.getProfile_settles _ (fun id db => answers_find (ρ := Seeker) id) db
  | listVets =>
      refine x.listProfiles_settles _ (fun filter hfilter order horder page db => ?_) db
      exact answers_listed Vet.hasColumns (Query.storable_vetFilter hquery hfilter) horder page
  | getVet => exact x.getProfile_settles _ (fun id db => answers_find (ρ := Vet) id) db
  | listReviews =>
      exact read fun _ => read fun id => read fun params =>
        .ok (settles_showsAll (Reviews.answers_listFor id _ _ _) _)
  | getReview =>
      exact read fun _ => read fun id => .ok (settles_shows (answers_find (ρ := Review) id) _)
  | listPosts =>
      refine read fun caller => read fun params => reading fun filter hfilter => .ok ?_
      have htexts := Query.storable_postFilter hquery (x.eq_of_query hfilter) caller.viewer.restriction
      exact settles_showsAll (Posts.answers_list caller.viewer htexts _ _ _) _
  | getPost =>
      exact read fun caller => read fun id => .ok (settles_shows (Posts.answers_get _ id) _)
  | listReports =>
      exact read fun _ => read fun id => .ok (settles_showsAll (PostReports.answers_listFor id) _)
  | moderationQueue =>
      refine read fun _ => read fun page => .ok ?_
      have hqueue : (Store.Moderation.queue page : Op Database (List Post)).Answers x.now db :=
        answers_looking _
      exact settles_showsAll hqueue _
  | listFavourites =>
      refine read fun caller => read fun page => .ok ?_
      have hlist : (Store.Favourites.listFor caller.userId page : Op Database (List Keeper)).Answers
        x.now db := answers_looking _
      exact settles_showsAll hlist _
  | listChats =>
      refine read fun caller => read fun page => .ok ?_
      have hlist : (Store.Chats.listFor caller.userId page : Op Database (List ChatWithMembers)).Answers
        x.now db := answers_looking _
      exact settles_showsAll hlist _
  | getChat =>
      exact read fun caller => read fun id =>
        .ok (settles_shows (Chats.answers_findAsMember caller.userId id) _)
  | listMessages =>
      exact read fun caller => read fun id => read fun params =>
        .ok (settles_showsAll (Messages.answers_list caller.userId id _ _ _) _)
  | _ => cases hwrites

/-- **What deals with tokens succeeds, or is turned down for a fault of the client.** -/
theorem plan_settles_session {endpoint : Endpoint} (hplain : endpoint.IsPlain x.incoming.body)
    {db : Database} (hdb : db.Conforms .sound) (hlasts : Logins.Lasts x.config.token x.now)
    (hwrites : endpoint.writes = [.sessions]) : Plans (Settles x.now db) (x.plan endpoint) := by
  cases endpoint with
  | login =>
      refine reading fun request hbody => .ok ?_
      obtain ⟨hname, hdevice⟩ := LoginRequest.storable (ofPlain_of_body hbody hplain)
      exact settles_showsTokens (Logins.isSettled_login hdb hlasts x.random hname hdevice)
  | refresh =>
      refine reading fun request hbody => .ok ?_
      have hdevice := RefreshRequest.storable (ofPlain_of_body hbody hplain)
      exact settles_showsTokens (Logins.isSettled_refresh hlasts x.random hdevice)
  | logout =>
      refine read fun caller => reading fun request hbody => .ok ?_
      have hdevice := LogoutRequest.storable (ofPlain_of_body hbody hplain)
      exact settles_silent (Logins.answers_logout caller.userId hdevice)
  | _ => cases hwrites

end Exchange

end Fostering
