import Fostering.Proofs.Requests.Failures
import Fostering.Proofs.Secrecy.Veil

/-!
# Requests do not tell what the digests are

Most endpoints never get the row of a user as it is stored; the others show a user, or write one back,
without the digest. So two databases that only digests tell apart give the same reply to every request but
a login, and afterwards only the digests of the users that were there before tell them apart.

* `Exchange.plan_overlooks`: what an endpoint does, on two databases that are alike.
* `Database.digests_stay_hidden`: one request, on two databases.
-/

namespace Fostering

open Database (Alike Similar)
open Op (Agree Mirrors Overlooks)

/-! ## The endpoints -/

/-- A pattern of words is matched by these words only. -/
theorem Path.eq_of_match_words {words path : List String} {id? : Option (String × String)}
    (h : match? (words.map .word) path = some id?) : path = words := by
  induction words generalizing path with
  | nil =>
      cases path with
      | nil => rfl
      | cons s path => cases h
  | cons w words ih =>
      cases path with
      | nil => cases h
      | cons s path =>
          rw [List.map_cons, match?] at h
          split_ifs at h with hw
          rw [hw, ih h]

namespace Endpoint

/-- Whether an endpoint gets the rows of users as they are stored. -/
def getsUsers : Endpoint → Bool
  | login | refresh | listUsers | getUser | updateUser | listRoles => true
  | _ => false

/-- An endpoint that gets no users makes no call that gives users. -/
theorem givesUsers_of_makes {endpoint : Endpoint} {call : Store.Call} (h : endpoint.makes call)
    (hgets : endpoint.getsUsers = false) : call.givesUsers = false := by
  cases endpoint <;> simp only [makes] at h <;> split at h <;>
    first | rfl | (cases h; done) | cases hgets

/-- A request for the login endpoint is a `POST` to the path of the login. -/
theorem login_of_find {incoming : Incoming} {id? : Option (String × String)}
    (h : find incoming = .endpoint .login id?) :
    incoming.method = "POST" ∧ Path.segments incoming.path = ["api", "v1", "auth", "login"] := by
  have hroutes : ∀ route ∈ routes, ∀ action ∈ route.actions, action.2 = .login →
      action.1 = .post ∧ route.pattern = under [.word "auth", .word "login"] := by decide
  obtain ⟨route, hroute, hmatch, hfind⟩ := mem_of_findIn h
  obtain ⟨m, haction, hname⟩ := Route.mem_of_find hfind
  obtain ⟨rfl, hpattern⟩ := hroutes route hroute _ haction rfl
  constructor
  · split_ifs at hname with hhead
    · exact absurd hname (by decide)
    · exact hname.symm
  · rw [hpattern] at hmatch
    have hwords : Path.match? (["api", "v1", "auth", "login"].map .word) (Path.segments incoming.path) =
        some id? := hmatch
    exact Path.eq_of_match_words hwords

end Endpoint

/-! ## Users, shown and written back -/

variable {hidden : Int → Bool}

/-- Two users that only their digests tell apart look the same to clients. -/
theorem Database.Similar.view_eq {u u' : User} (h : Similar hidden u u') : u.view = u'.view := by
  rw [← u.view_veil hidden, ← u'.view_veil hidden]
  exact congrArg User.view h

/-- A change that is asked for does not depend on the digest. -/
theorem UpdateUser.veil_apply (request : UpdateUser) (u : User) :
    (request.apply u).veil hidden = request.apply (u.veil hidden) := by
  unfold User.veil UpdateUser.apply
  dsimp only
  split <;> rfl

/-- Users who are alike but for the digest are so after the same change. -/
theorem Database.Similar.apply {u u' : User} (h : Similar hidden u u') (request : UpdateUser) :
    Similar hidden (request.apply u) (request.apply u') := by
  change User.veil hidden _ = User.veil hidden _
  rw [UpdateUser.veil_apply, UpdateUser.veil_apply]
  exact congrArg request.apply h

theorem mirrors_touched {u u' : User} (h : Similar hidden u u') :
    Mirrors (Alike hidden) (Similar hidden) (touched u : Op Database User) (touched u') := by
  refine Mirrors.now.step fun time => .pure ?_
  have htouched := VeiledRecord.modifyEntry_veil (ρ := User) hidden (·.touched time)
  exact (htouched u rfl).symm.trans ((congrArg _ h).trans (htouched u' rfl))

namespace Accounts

/-- To show an account shows alike users. -/
theorem mirrors_get (id : Int) :
    Mirrors (Alike hidden) (Similar hidden) (get id : Op Database User) (get id) :=
  Database.mirrors_find id

/-- Users are listed by no other columns than those that show. -/
theorem key_veil {text : Option String} {defaults : DefaultOrder} {order : ListOrder}
    (horder : ListOrder.forRequest text User.sortFields defaults = .ok order) (key : User → SortKey)
    (hkey : Columns.column? (String.ofList (order.column.toList.map Char.toLower)) = some key) (u : User) :
    key (u.veil hidden) = key u := by
  have hmem := ListOrder.column_mem_of_resolve (ListOrder.resolve_of_forRequest horder)
  have hcolumns : ∀ column ∈ fallbackColumn :: User.sortFields,
      String.ofList (column.toList.map Char.toLower) = column := by decide +kernel
  rw [hcolumns _ hmem] at hkey
  have hcreated : (Columns.column? "created_at" : Option (User → SortKey)) =
      some fun u => .moment u.entry.createdAt := rfl
  have hupdated : (Columns.column? "updated_at" : Option (User → SortKey)) =
      some fun u => .moment u.entry.updatedAt := rfl
  have hname : (Columns.column? "username" : Option (User → SortKey)) =
      some fun u => .text u.username := rfl
  simp only [fallbackColumn, User.sortFields, List.mem_cons, List.not_mem_nil, or_false] at hmem
  obtain h | h | h | h := hmem <;> rw [h] at hkey
  · obtain rfl := Option.some.inj (hcreated.symm.trans hkey)
    simp only [User.entry_veil]
  · obtain rfl := Option.some.inj (hcreated.symm.trans hkey)
    simp only [User.entry_veil]
  · obtain rfl := Option.some.inj (hupdated.symm.trans hkey)
    simp only [User.entry_veil]
  · obtain rfl := Option.some.inj (hname.symm.trans hkey)
    simp only [User.username_veil]

/-- To list accounts shows the same of each. -/
theorem mirrors_list (filter : UserFilter) (sort : Option String) (page : Page)
    (defaults : DefaultOrder) :
    Mirrors (Alike hidden) (fun us us' => us.map User.view = us'.map User.view)
      (list filter sort page defaults : Op Database (List User)) (list filter sort page defaults) := by
  unfold list
  rcases horder : ListOrder.forRequest sort User.sortFields defaults with cause | order
  · exact .refuse cause
  have hsame : Mirrors (Alike hidden) (fun o o' => o = order ∧ o' = order)
      (Op.ofExcept (.ok order)) (Op.ofExcept (.ok order)) := .pure ⟨rfl, rfl⟩
  refine hsame.bind ?_
  rintro _ _ ⟨rfl, rfl⟩
  have hkeeps : ∀ u : User, Filter.keeps filter (u.veil hidden) = Filter.keeps filter u := fun u => by
    simp only [Filter.keeps, User.city_veil]
  refine (Database.mirrors_list filter _ page hkeeps (key_veil horder)).mono fun us us' h => ?_
  have hview : User.view = User.view ∘ User.veil hidden := funext fun u => (u.view_veil hidden).symm
  rw [hview, ← List.map_map, ← List.map_map]
  exact congrArg (List.map User.view) h

/-- To change an account leaves alike users. -/
theorem mirrors_update (actor id : Int) (request : UpdateUser) :
    Mirrors (Alike hidden) (Similar hidden) (update actor id request : Op Database User)
      (update actor id request) := by
  refine (Mirrors.guard rfl _).step fun _ => (Database.mirrors_find id).bind fun u u' h => ?_
  exact (mirrors_touched (h.apply request)).bind fun _ _ => Database.mirrors_update

end Accounts

/-- Roles are told without a look at digests. -/
theorem Profiles.overlooks_rolesOf (userId : Int) :
    Overlooks (Alike hidden) (rolesOf userId : Op Database (List UserRole)) := by
  refine (Database.mirrors_find userId).bind fun (_ : User) _ _ => ?_
  refine (Database.overlooks_perform (.keeperOf userId) rfl).step fun _ => ?_
  refine (Database.overlooks_perform (.seekerOf userId) rfl).step fun _ => ?_
  exact (Database.overlooks_perform (.vetOf userId) rfl).step fun _ => .pure rfl

namespace Logins

/-- The owners of a session are alike. -/
theorem mirrors_findOwner (id : Int) :
    Mirrors (Alike hidden) (Similar hidden) (findOwner id : Op Database User) (findOwner id) := by
  rw [findOwner_eq]
  refine (Database.mirrors_find (ρ := User) id).reread fun r r' h => ?_
  cases h with
  | refused cause => cases cause <;> exact .refused _
  | ok h => exact .ok h

/-- Tokens are made from the id and the role of a user; the digest has no part in them. -/
theorem mirrors_issue (config : TokenConfig) (random : Bytes) {u u' : User} (h : Similar hidden u u')
    (fingerprint : String) :
    Mirrors (Alike hidden) (fun t t' => t.map AuthTokens.view = t'.map AuthTokens.view)
      (issue config random u fingerprint : Op Database (Except Breakdown AuthTokens))
      (issue config random u' fingerprint) := by
  have hid : u.entry.id = u'.entry.id := h.id_eq
  have hrole : u.isModerator = u'.isModerator := by
    rw [← u.isModerator_veil hidden, ← u'.isModerator_veil hidden]
    exact congrArg User.isModerator h
  refine Mirrors.now.step fun now => ?_
  unfold prepare
  rw [hid, hrole]
  rcases Token.issue config now random u'.entry.id u'.isModerator with fault | access
  · exact .pure rfl
  rcases Lifetime.afterDays now config.refreshDays with fault | expiresAt
  · exact .pure rfl
  refine (Database.overlooks_perform (.upsertSession _) rfl).step fun _ => .pure ?_
  exact congrArg Except.ok (by simp only [AuthTokens.view, h.view_eq])

/-- An exchange gives the same tokens, which show nothing of a digest. -/
theorem mirrors_refresh (config : TokenConfig) (random : Bytes) (request : RefreshRequest) :
    Mirrors (Alike hidden) (fun t t' => t.map AuthTokens.view = t'.map AuthTokens.view)
      (refresh config random request : Op Database (Except Breakdown AuthTokens))
      (refresh config random request) := by
  refine (Database.overlooks_perform (.takeSession _) rfl).step fun session? => ?_
  rcases session? with _ | session
  · exact .refuse _
  refine Mirrors.step (.pure rfl) fun _ => (Mirrors.guard rfl _).step fun _ => ?_
  exact (mirrors_findOwner _).bind fun u u' h => mirrors_issue config random h request.fingerprint

end Logins

/-! ## Actions and requests -/

namespace Action

/-- What is shown tells no more than the view does. -/
theorem overlooks_shows {α : Type} {V : α → α → Prop} {op : Op Database α} (status : Nat) {view : α → Json}
    (h : Mirrors (Alike hidden) V op op) (hview : ∀ a a', V a a' → view a = view a') :
    Overlooks (Alike hidden) (shows status view op) :=
  h.bind fun a a' haa' => .pure (by rw [hview a a' haa'])

/-- Tokens that look the same are shown as the same. -/
theorem overlooks_showsTokens {op : Op Database (Except Breakdown AuthTokens)}
    (h : Mirrors (Alike hidden) (fun t t' => t.map AuthTokens.view = t'.map AuthTokens.view) op op) :
    Overlooks (Alike hidden) (showsTokens op) := by
  refine h.bind fun t t' htt' => .pure ?_
  cases t <;> cases t' <;> simp_all [Except.map]

end Action

/-- **Whatever an endpoint other than the login does, it does not tell databases apart that are alike.** -/
theorem Exchange.plan_overlooks (x : Exchange) {endpoint : Endpoint} (h : endpoint ≠ .login) :
    Plans (Overlooks (Alike hidden)) (x.plan endpoint : Except Reply (Action Database)) := by
  cases hgets : endpoint.getsUsers with
  | false =>
      intro action haction
      exact (x.plan_madeOf endpoint action haction).overlooks fun call hcall =>
        Database.overlooks_perform call (Endpoint.givesUsers_of_makes hcall hgets)
  | true =>
      cases endpoint with
      | login => exact absurd rfl h
      | refresh =>
          exact .read fun _ => .ok (Action.overlooks_showsTokens (Logins.mirrors_refresh _ _ _))
      | listUsers =>
          refine .read fun _ => .read fun _ => .read fun _ => .ok ?_
          exact Action.overlooks_shows 200 (Accounts.mirrors_list _ _ _ _) fun us us' hview =>
            congrArg Json.list hview
      | getUser =>
          refine .read fun _ => .read fun _ => .ok ?_
          exact Action.overlooks_shows 200 (Accounts.mirrors_get _) fun _ _ => Similar.view_eq
      | updateUser =>
          refine .read fun _ => .read fun _ => .read fun _ => .ok ?_
          exact Action.overlooks_shows 200 (Accounts.mirrors_update _ _ _) fun _ _ => Similar.view_eq
      | listRoles =>
          refine .read fun _ => .read fun _ => .ok ?_
          exact Action.overlooks_shows 200 (Profiles.overlooks_rolesOf _) fun _ _ h => by rw [h]
      | _ => cases hgets

namespace App

variable {config : Config} {random : Bytes} {incoming : Incoming} {now : Instant} {db db' : Database}

/-- A reply that is dispatched does not tell the digests, and databases stay alike. -/
theorem dispatch_alike (h : Alike hidden db db')
    (hlogin : ∀ id?, Endpoint.find incoming ≠ .endpoint .login id?) :
    (dispatch config random incoming now db).1 = (dispatch config random incoming now db').1 ∧
      Alike hidden (dispatch config random incoming now db).2
        (dispatch config random incoming now db').2 := by
  unfold dispatch
  split
  · rename_i endpoint id? hfind
    unfold react
    have hendpoint : endpoint ≠ .login := by
      rintro rfl
      exact hlogin id? hfind
    split
    · exact ⟨rfl, h⟩
    · rename_i action hplan
      obtain ⟨hout, hafter⟩ := Exchange.plan_overlooks _ hendpoint action hplan now db db' h
      unfold run
      generalize action.exec now db = o at hout hafter ⊢
      generalize action.exec now db' = o' at hout hafter ⊢
      obtain ⟨r, db₁⟩ := o
      obtain ⟨r', db₁'⟩ := o'
      cases hout with
      | refused cause => exact ⟨rfl, hafter⟩
      | ok heq => exact ⟨heq, hafter⟩
  · exact ⟨rfl, h⟩

end App

namespace Database

variable {config : Config} {a : Arrival} {db db' : Database}

/-- A request other than a login has the same reply on databases that are alike, and leaves databases that
are alike. -/
theorem serve_alike (h : Alike hidden db db')
    (hlogin : ∀ id?, Endpoint.find a.incoming ≠ .endpoint .login id?) :
    db.reply config a = db'.reply config a ∧ Alike hidden (db.serve config a) (db'.serve config a) := by
  unfold Database.reply Database.serve App.serve
  split
  · exact ⟨rfl, h⟩
  · have hsame : (App.dispatch config a.random a.incoming a.now db).1 =
          (App.dispatch config a.random a.incoming a.now db').1 ∧
        Alike hidden (App.dispatch config a.random a.incoming a.now db).2
          (App.dispatch config a.random a.incoming a.now db').2 := App.dispatch_alike h hlogin
    dsimp only
    rw [hsame.1]
    exact ⟨rfl, hsame.2⟩

/-- The users that there are. -/
def hasUser (db : Database) (id : Int) : Bool := Schema.hasId db.tables.users id

/-- The database without any digest. -/
def withoutDigests (db : Database) : Database := db.veil fun _ => true

/-- Databases that are the same without digests are alike when the digests of their users are hidden. -/
theorem alike_of_withoutDigests (h : db.withoutDigests = db'.withoutDigests) :
    Alike db.hasUser db db' := by
  have hall : ∀ d : Database, (∀ u ∈ d.tables.users, db.hasUser u.entry.id = true) →
      d.veil db.hasUser = d.withoutDigests := by
    intro d hd
    have husers : d.tables.users.map (User.veil db.hasUser) =
        d.tables.users.map (User.veil fun _ => true) :=
      List.map_congr_left fun u hu => by rw [User.veil, User.veil, if_pos (hd u hu), if_pos rfl]
    simp only [withoutDigests, veil, Tables.veil, husers]
  have hhas : ∀ u ∈ db.tables.users, db.hasUser u.entry.id = true := fun u hu =>
    List.any_eq_true.mpr ⟨u, hu, decide_eq_true rfl⟩
  have hhas' : ∀ u ∈ db'.tables.users, db.hasUser u.entry.id = true := by
    intro u' hu'
    have husers : db.tables.users.map (User.veil fun _ => true) =
        db'.tables.users.map (User.veil fun _ => true) := congrArg (·.tables.users) h
    obtain ⟨u, hu, hveil⟩ := List.mem_map.mp (husers ▸ List.mem_map_of_mem hu')
    have hentry : u.entry = u'.entry := by
      rw [← u.entry_veil fun _ => true, hveil, u'.entry_veil]
    exact hentry ▸ hhas u hu
  exact (hall db hhas).trans (h.trans (hall db' hhas').symm)

/-- **Digests of passwords have no part in anything but a login**: of two databases that only digests
tell apart, each gives the same reply to a request that is no login, and afterwards only digests of users
that were there before tell them apart. -/
theorem digests_stay_hidden (config : Config) (a : Arrival) (db db' : Database)
    (h : db.withoutDigests = db'.withoutDigests)
    (hlogin : ¬(a.incoming.method = "POST" ∧
      Path.segments a.incoming.path = ["api", "v1", "auth", "login"])) :
    db.reply config a = db'.reply config a ∧
      (db.serve config a).veil db.hasUser = (db'.serve config a).veil db.hasUser :=
  serve_alike (alike_of_withoutDigests h) fun _ hfind => hlogin (Endpoint.login_of_find hfind)

/-- Anna touches her account. -/
def annaTouches (token : String) : Arrival := .bearing token "PATCH" "/api/v1/users/1" "\x7b\x7d"

/-- Whatever her password is, Anna is shown the same account, and keeps her password. -/
theorem digests_stay_hidden_anna :
    let db := withAnna "one digest" [] 0
    let db' := withAnna "another digest" [] 0
    let a := annaTouches annasToken
    db.withoutDigests = db'.withoutDigests ∧ a.incoming.method ≠ "POST" ∧
      db.reply (.blockingAt 3) a = db'.reply (.blockingAt 3) a ∧
      (db.serve (.blockingAt 3) a).veil db.hasUser = (db'.serve (.blockingAt 3) a).veil db.hasUser := by
  intro db db' a
  have hdigests : db.withoutDigests = db'.withoutDigests := rfl
  have hmethod : a.incoming.method ≠ "POST" := by decide
  exact ⟨hdigests, hmethod,
    digests_stay_hidden (.blockingAt 3) a db db' hdigests fun h => hmethod h.1⟩

end Database

end Fostering
