import Fostering.Proofs.Database.Keys
import Fostering.Proofs.Requests.Answers
import Fostering.Proofs.Requests.Passing
import Fostering.Proofs.Tokens

/-!
# Internal errors

A plain request is told of an internal error for one reason only: it asks to set the price in a profile
of the caller below zero (`Exchange.Underprices`). No rule of a request looks at a price that is to be
changed, so it is left to a check of the database to refuse it, and that counts as an error of the
service.

This is about requests whose texts have room in the indexes of the database (`Endpoint.FitsIndexes`). All
other requests ask to change the city of a keeper to a long text, and the index on cities may or may not have
room for it.

* `Database.status_of_underprices`: such a request is told so.
* `Database.status_of_not_underprices`: every other plain request succeeds, or has a fault.
* `Database.fails_iff_underprices`: both, after every run of requests.
-/

namespace Fostering

/-! ## Prices below zero -/

namespace Exchange

variable {x : Exchange} {db : Database} {endpoint : Endpoint}

section

variable {ρ φ κ : Type} [Profile ρ] [Table ρ] [Store.Profiles Database ρ φ] [Request κ]

/-- A request to change a profile fails if the change of the row does. -/
theorem ChangesProfile.fails {apply : κ → ρ → ρ} {row : ρ}
    (h : x.ChangesProfile (Table.rows db.tables) apply row)
    (hfind : ∀ row ∈ (Table.rows db.tables : List ρ), HasEntry.isLive row = true →
      (Store.Records.find (Table.id row) : Op Database ρ).exec x.now db = (.ok row, db))
    (hfails : ∃ message, ((Store.Records.update row : Op Database ρ).exec x.now db).1 =
      .error (.internal message)) {view : ρ → Json} :
    ∃ action : Action Database, x.updateProfile ρ view κ apply = .ok action ∧
      Action.statusOf (action.exec x.now db).1 = 500 := by
  obtain ⟨message, hfails⟩ := hfails
  obtain ⟨action, hplan, hrefused⟩ := (h.comesTo hfind).refused hfails
  refine ⟨action, hplan, ?_⟩
  rw [hrefused]
  rfl

end

/-- **A request that asks for a price below zero fails.** -/
theorem Underprices.fails (h : x.Underprices db endpoint)
    (hkeepers : (Database.ids Keeper db.tables).Nodup) (hvets : (Database.ids Vet db.tables).Nodup) :
    ∃ action : Action Database, x.plan endpoint = .ok action ∧
      Action.statusOf (action.exec x.now db).1 = 500 := by
  cases h with
  | keeper caller request old hcaller hid hbody hmem hlive hown hprice =>
      have hchanges : x.ChangesProfile db.tables.keepers UpdateKeeper.apply _ :=
        .intro caller request old hcaller hid hbody hmem hlive hown
      have hbroken (stored : Keeper) : Schema.holds (Database.changed
          (HasEntry.modifyEntry (·.touched x.now) (request.apply old)) stored x.now) = false := by
        rw [Bool.eq_false_iff]
        intro hholds
        exact Change.not_notNegative_apply hprice old.price (Keeper.holds_iff.mp hholds).1
      exact hchanges.fails (fun row hrow hlive => Database.find_of_nodup hkeepers hrow hlive x.now)
        (Database.fails_update ⟨old, hmem, rfl, hlive⟩ hbroken)
  | vet caller request old hcaller hid hbody hmem hlive hown hprice =>
      have hchanges : x.ChangesProfile db.tables.vets UpdateVet.apply _ :=
        .intro caller request old hcaller hid hbody hmem hlive hown
      have hbroken (stored : Vet) : Schema.holds (Database.changed
          (HasEntry.modifyEntry (·.touched x.now) (request.apply old)) stored x.now) = false := by
        rw [Bool.eq_false_iff]
        intro hholds
        exact Change.not_notNegative_apply hprice old.price (Vet.holds_iff.mp hholds).2
      exact hchanges.fails (fun row hrow hlive => Database.find_of_nodup hvets hrow hlive x.now)
        (Database.fails_update ⟨old, hmem, rfl, hlive⟩ hbroken)

end Exchange

/-! ## Lifetimes -/

/-- The first hundred thousand years after 1970 are numbered with at most six digits. -/
theorem Date.year_ofDays {n : Int} (h : 0 ≤ n) (h' : n < 40000000) :
    0 ≤ (ofDays n).year ∧ (ofDays n).year < 200000 := by
  unfold ofDays
  dsimp only
  split_ifs <;> omega

/-- Lifetimes that are not negative and do not exceed ten thousand years have ends, as long as the clock
shows a year of at most five digits. -/
theorem Logins.lasts_of_dated {config : TokenConfig} {now : Instant} (hnow : 0 ≤ now.seconds)
    (hnow' : now.seconds < 3000000000000)
    (hmins : 0 ≤ config.accessMins ∧ config.accessMins ≤ 5256000000)
    (hdays : 0 ≤ config.refreshDays ∧ config.refreshDays ≤ 3650000) : Lasts config now := by
  have hclock {n : Int} (h : 0 ≤ n) (h' : n < 4000000000000) : Lifetime.fitsClock n = true := by
    unfold Lifetime.fitsClock
    simp only [Bool.and_eq_true, decide_eq_true_eq]
    omega
  let later : Instant := now.addSeconds (config.refreshDays * 86400)
  have hlater : later.seconds = now.seconds + config.refreshDays * 86400 := rfl
  have hend : Lifetime.afterDays now config.refreshDays = .ok later := by
    have hyear : 0 ≤ (Date.ofDays (later.seconds / 86400)).year ∧
        (Date.ofDays (later.seconds / 86400)).year < 200000 :=
      Date.year_ofDays (by omega) (by omega)
    have hrange : ¬((Date.ofDays (later.seconds / 86400)).year < Lifetime.yearRange.1 ∨
        Lifetime.yearRange.2 < (Date.ofDays (later.seconds / 86400)).year) := by
      unfold Lifetime.yearRange
      omega
    have hmax : ¬(config.refreshDays < -Lifetime.maxDays ∨ Lifetime.maxDays < config.refreshDays) := by
      unfold Lifetime.maxDays
      omega
    unfold Lifetime.afterDays
    rw [if_neg hmax]
    exact if_neg hrange
  constructor
  · refine ⟨config.accessMins * 60, ?_, now.seconds + config.accessMins * 60, ?_⟩
    · exact if_pos (hclock (by omega) (by omega))
    · exact if_pos (hclock (by omega) (by omega))
  · exact ⟨later, hend, Instant.isStorable_of_dated (by omega)⟩

/-! ## All other requests -/

/-- A request without the null character and without a text that an index may have no room for, at a time at
which the lifetimes of tokens have ends. -/
structure Arrival.IsPlausible (config : Config) (a : Arrival) : Prop where
  plain : a.incoming.IsPlain
  /-- Only a change of a keeper's city can fail this (`Endpoint.fitsIndexes_of_ne`). The database here takes any
  city; of one with more than 2684 bytes it depends on how well it is compressed. -/
  room : ∀ endpoint id?, Endpoint.find a.incoming = .endpoint endpoint id? →
    endpoint.FitsIndexes a.incoming.body
  dated : 0 ≤ a.now.seconds
  lasts : Logins.Lasts config.token a.now

namespace Database

variable {config : Config} {db : Database} {a : Arrival} {endpoint : Endpoint}
  {id? : Option (String × String)}

/-- A reply to what settles puts no blame on the service. -/
theorem status_of_settles (hfind : Endpoint.find a.incoming = .endpoint endpoint id?)
    (h : Plans (Action.Settles a.now db) ((a.exchange config id?).plan endpoint)) :
    (db.reply config a).status < 500 := by
  rcases hplan : ((a.exchange config id?).plan endpoint : Except Reply (Action Database)) with
    fault | action
  · have hfault : fault.IsFault :=
      (a.exchange config id?).faults_plan endpoint (Endpoint.isSome_of_find hfind) fault hplan
    have hstatus : (db.reply config a).status = fault.status :=
      (App.serve_of_error hfind hplan).1
    rw [hstatus]
    exact hfault.2
  · have hstatus : (db.reply config a).status = Action.statusOf (action.exec a.now db).1 :=
      (App.serve_of_ok hfind hplan).1
    rw [hstatus]
    exact h action hplan

/-- A reply that tells of a call that answers puts no blame on the service. -/
theorem status_of_tells {α : Type} {reply : Reply} {op : Op Database α} {now : Instant}
    (h : reply.Tells (op.exec now db).1) (hop : op.Answers now db) : reply.status < 500 := by
  rcases hresult : (op.exec now db).1 with cause | a
  · rw [hresult] at h
    have hstatus : reply.status = cause.status := h
    rw [hstatus]
    exact hop cause hresult
  · rw [hresult] at h
    have hsuccess : ∀ status ∈ [200, 201, 204], status < 500 := by decide
    exact hsuccess reply.status h

/-- A client who asks for a price below zero is told of an internal error. -/
theorem status_of_underprices (hfind : Endpoint.find a.incoming = .endpoint endpoint id?)
    (h : (a.exchange config id?).Underprices db endpoint) (hkeepers : (ids Keeper db.tables).Nodup)
    (hvets : (ids Vet db.tables).Nodup) : (db.reply config a).status = 500 := by
  obtain ⟨action, hplan, hstatus⟩ := h.fails hkeepers hvets
  have hreply : (db.reply config a).status = Action.statusOf (action.exec a.now db).1 :=
    (App.serve_of_ok hfind hplan).1
  rw [hreply]
  exact hstatus

/-- **A plain request with room for its texts that asks for no price below zero succeeds, or has a fault.** -/
theorem status_of_not_underprices (hdb : db.Conforms .sound) (ha : a.IsPlausible config)
    (h : ∀ endpoint id?, Endpoint.find a.incoming = .endpoint endpoint id? →
      ¬(a.exchange config id?).Underprices db endpoint) :
    (db.reply config a).status < 500 := by
  by_cases hany : ∃ endpoint id?, Endpoint.find a.incoming = .endpoint endpoint id?
  case neg =>
    have hnone : (db.reply config a).status ∈ [200, 404, 405] :=
      (App.serve_of_no_endpoint fun endpoint id? hfind => hany ⟨endpoint, id?, hfind⟩).1
    have hknown : ∀ status ∈ [200, 404, 405], status < 500 := by decide
    exact hknown _ hnone
  obtain ⟨endpoint, id?, hfind⟩ := hany
  let x : Exchange := a.exchange config id?
  have hplain : endpoint.IsPlain x.incoming.body := ha.plain.body endpoint id? hfind
  by_cases hreads : endpoint.writes = []
  · exact status_of_settles hfind (x.plan_settles_reading ha.plain.query hreads db)
  by_cases hsessions : endpoint.writes = [.sessions]
  · exact status_of_settles hfind (x.plan_settles_session hplain hdb ha.lasts hsessions)
  rcases serve_of_writing config db a hfind hreads hsessions with
    ⟨hfault, -⟩ | ⟨call, hcall, htells, -⟩
  · exact hfault.2
  · have hfits : call.Fits a.now :=
      hcall.fits hplain hdb (Instant.isStorable_of_dated ha.dated) (h endpoint id? hfind)
    exact status_of_tells htells (answers_perform call hfits)

/-- **After every run of requests, a plain request is told of an internal error if and only if it asks
to set the price in a live profile of the caller, a keeper's or a vet's, below zero**, as long as its texts
have room in the indexes. (The requests of the run may have had texts without room: a city has no part in
whether a later request is answered.) -/
theorem fails_iff_underprices {run : List Arrival}
    (hrun : ∀ b ∈ run, Password.saltLength ≤ b.random.length) (ha : a.IsPlausible config) :
    ((serveAll config {} run).reply config a).status = 500 ↔
      ∃ endpoint id?, Endpoint.find a.incoming = .endpoint endpoint id? ∧
        (a.exchange config id?).Underprices (serveAll config {} run) endpoint := by
  constructor
  · intro hfails
    by_contra hnone
    have hstatus : ((serveAll config {} run).reply config a).status < 500 :=
      status_of_not_underprices (sound_after hrun) ha fun endpoint id? hfind hunder =>
        hnone ⟨endpoint, id?, hfind, hunder⟩
    omega
  · rintro ⟨endpoint, id?, hfind, hunder⟩
    have hkeepers := nodup_keepers_serveAll config run
    have hvets := nodup_vets_serveAll config run
    exact status_of_underprices hfind hunder hkeepers hvets

/-- What comes of a request that shows what an operation gives. -/
theorem serve_of_shows {α : Type} {op : Op Database α} {status : Nat} {view : α → Json}
    (hfind : Endpoint.find a.incoming = .endpoint endpoint id?)
    (hplan : (a.exchange config id?).plan endpoint = .ok (.shows status view op)) :
    db.serve config a = (op.exec a.now db).2 := by
  unfold serve
  rw [(App.serve_of_ok hfind hplan).2, Action.shows_eq, Action.exec_replying]

end Database

/-! ## A keeper who pays -/

/-- The token of Anna, the first user, who is no moderator. -/
def annasToken : String := Token.sign "secret" ⟨1, false, 960, 60, ""⟩

section

variable (token : String)

/-- A request of somebody with a token. -/
def Arrival.bearing (method path body : String) : Arrival where
  incoming :=
    { method, path, headers := [("authorization", "Bearer " ++ token)], body := Utf8.encode body }
  now := ⟨60, 0⟩
  random := List.replicate 16 1

/-- Anna registers. -/
def annaRegisters : Arrival := .bearing token "POST" "/api/v1/auth/register"
  "\x7b\"username\":\"anna\",\"email\":\"anna@example.org\",\"password\":\"correct horse\"\x7d"

/-- She offers to keep animals. -/
def annaOffers : Arrival := .bearing token "POST" "/api/v1/keepers" "\x7b\x7d"

/-- She wants to pay for keeping them. -/
def annaPays : Arrival := .bearing token "PATCH" "/api/v1/keepers/1" "\x7b\"price\":-1\x7d"

end

/-- A later request of Anna's. -/
def annaPosts (seconds : Int) (path body : String) : Arrival :=
  { Arrival.bearing annasToken "POST" path body with now := ⟨seconds, 0⟩ }

namespace Database

variable {config : Config} {a : Arrival} {token : String}

/-- The columns that all rows of Anna's share. -/
def annasEntry : Entry := { id := 1, createdAt := ⟨60, 0⟩, updatedAt := ⟨60, 0⟩ }

/-- A database in which there is Anna. -/
def withAnna (passwordHash : String) (keepers : List Keeper) (lastKeeper : Int) : Database where
  tables :=
    { users := [{ entry := annasEntry, username := "anna", email := "anna@example.org", passwordHash }],
      keepers }
  sequences := { users := 1, keepers := lastKeeper }

/-- What Anna asks for when she registers. -/
def annasRequest : RegisterUser :=
  { username := "anna", email := "anna@example.org", password := "correct horse" }

/-- Somebody who has given no more than a name and an address, as they are stored, but for their id. -/
def newcomer (username email passwordHash : String) : User :=
  { entry := { createdAt := ⟨60, 0⟩, updatedAt := ⟨60, 0⟩ }, username, email, passwordHash }

section

variable {username email : String}

/-- A newcomer is stored as they have registered, at the second of their request. -/
theorem draft_newcomer (username email password hash : String) :
    draft (HasEntry.modifyEntry (·.stamped ⟨60, 0⟩)
      (RegisterUser.toUser { username, email, password } hash)) = newcomer username email hash := by
  have hstamp : (Instant.fillIfUnset .unset ⟨60, 0⟩).stored = ⟨60, 0⟩ := by decide
  change { newcomer username email hash with
    entry.createdAt := (Instant.fillIfUnset .unset ⟨60, 0⟩).stored,
    entry.updatedAt := (Instant.fillIfUnset .unset ⟨60, 0⟩).stored } = _
  rw [hstamp]
  rfl

/-- There is a form for a newcomer if there is one for the name, the address and the digest. -/
theorem isStorable_newcomer {hash : String} (hname : isStorableText username = true)
    (hemail : isStorableText email = true) (hhash : isStorableText hash = true) (password : String) :
    Schema.isStorable (draft (HasEntry.modifyEntry (·.stamped ⟨60, 0⟩)
      (RegisterUser.toUser { username, email, password } hash))) = true := by
  rw [draft_newcomer]
  have htexts : HasStorableTexts (newcomer username email hash) := by
    have hempty : isStorableText "" = true := by decide
    have hnone : StorableIfAny none := fun _ hvalue => nomatch hvalue
    exact User.hasStorableTexts_iff.mpr ⟨hname, hemail, hhash, hempty, hempty, hnone, hnone, hnone⟩
  have hinstants : ∀ t ∈ Schema.instants (newcomer username email hash), t.isStorable = true :=
    show ∀ t ∈ [⟨60, 0⟩, ⟨60, 0⟩], Instant.isStorable t = true by decide
  exact isStorable_of htexts hinstants

/-- A newcomer who registers gets an id, and their row is inserted. -/
theorem exec_register_newcomer (hname : isStorableText username = true)
    (hemail : isStorableText email = true) (salt : Bytes) (password : String) (db : Database) :
    (Accounts.register salt { username, email, password } : Op Database User).exec ⟨60, 0⟩ db =
      (takeId User >>= fun id =>
        insertWithId (Table.setId id (newcomer username email (Password.hash salt password)))).exec
          ⟨60, 0⟩ db := by
  have hstorable := Op.exec_guard_of_true (isStorable_newcomer hname hemail
    (Password.isStorableText_hash salt password) password) unstorable ⟨60, 0⟩ db
  rw [Accounts.exec_register, create_eq, insert_eq]
  refine (Op.exec_bind_ok hstorable).trans ?_
  rw [draft_newcomer]

end

/-- Once she has registered, Anna is in the database. -/
theorem register_anna (salt : Bytes) :
    ((Accounts.register salt annasRequest : Op Database User).exec ⟨60, 0⟩ {}).2 =
      withAnna (Password.hash salt annasRequest.password) [] 0 := by
  unfold annasRequest
  rw [exec_register_newcomer (by decide) (by decide)]
  rfl

/-- Anna's first request is to register. -/
theorem find_annaRegisters (token : String) :
    Endpoint.find (annaRegisters token).incoming = .endpoint .register none :=
  show Endpoint.findIn "POST" (Path.segments "/api/v1/auth/register") Endpoint.routes = _ by decide

/-- Her body is read as her name, her address and her password. -/
theorem body_annaRegisters (config : Config) (token : String) :
    ((annaRegisters token).exchange config none).body RegisterUser = .ok annasRequest := by
  have hreceive : receive RegisterUser (Utf8.encode
      "\x7b\"username\":\"anna\",\"email\":\"anna@example.org\",\"password\":\"correct horse\"\x7d") =
        .ok annasRequest := by
    decide +kernel
  exact Exchange.body_of_receive hreceive

/-- What comes of a registration. -/
theorem serve_of_registers {request : RegisterUser} (hfind : Endpoint.find a.incoming = .endpoint .register none)
    (hbody : (a.exchange config none).body RegisterUser = .ok request) (db : Database) :
    db.serve config a =
      ((Accounts.register (a.random.take Password.saltLength) request : Op Database User).exec a.now db).2 := by
  have hplan : ((a.exchange config none).plan .register : Except Reply (Action Database)) =
      .ok (.shows 201 User.view (Accounts.register (a.random.take Password.saltLength) request)) := by
    change ((a.exchange config none).body RegisterUser >>= _) = _
    rw [hbody]
    rfl
  exact serve_of_shows hfind hplan

/-- Anna is in the database after her registration. -/
theorem serve_annaRegisters (config : Config) (token : String) :
    ∃ hash, ({} : Database).serve config (annaRegisters token) = withAnna hash [] 0 := by
  rw [serve_of_registers (find_annaRegisters token) (body_annaRegisters config token)]
  exact ⟨_, register_anna _⟩

/-- She is a keeper once she has offered. -/
theorem serve_annaOffers (hcaller : ((annaOffers token).exchange config none).caller = .ok ⟨1, false⟩)
    (hash : String) :
    (withAnna hash [] 0).serve config (annaOffers token) =
      withAnna hash [{ entry := annasEntry, userId := 1 }] 1 := by
  let x : Exchange := (annaOffers token).exchange config none
  have hreceive : receive CreateKeeper (Utf8.encode "\x7b\x7d") = .ok {} := by decide +kernel
  have hbody : x.body CreateKeeper = .ok {} := Exchange.body_of_receive hreceive
  have hplan : (x.plan .createKeeper : Except Reply (Action Database)) =
      .ok (.shows 201 Keeper.view (Profiles.create ({ userId := 1 } : Keeper))) := by
    change (x.caller >>= fun caller => x.body CreateKeeper >>= _) = _
    rw [hcaller, hbody]
    rfl
  have hfind : Endpoint.find (annaOffers token).incoming = .endpoint .createKeeper none :=
    show Endpoint.findIn "POST" (Path.segments "/api/v1/keepers") Endpoint.routes = _ by decide
  rw [serve_of_shows hfind hplan]
  rfl

/-- The service believes that somebody is who they say, as long as their token is good. -/
theorem caller_of_judge {claims : Claims} {method path body : String} {now : Instant}
    {id? : Option (String × String)} (hsecret : config.token.secret = "secret")
    (hgood : Token.judge now (Utf8.encode claims.toJson.render) = .ok claims) :
    (({ Arrival.bearing (Token.sign "secret" claims) method path body with now }).exchange config id?).caller =
      .ok ⟨claims.sub, claims.moderator⟩ := by
  have hheader : (Arrival.bearing (Token.sign "secret" claims) method path body).incoming.header?
      "authorization" = some ("Bearer " ++ Token.sign "secret" claims) := by
    have hname : "authorization".toLower = "authorization" := by
      have hlower : ("authorization".map Char.toLower).toList = "authorization".toList := by
        rw [String.toList_map]
        decide
      exact String.toList_inj.mp hlower
    simp [Incoming.header?, Arrival.bearing, hname]
  rw [Exchange.caller_eq_ok]
  change Caller.authenticate config.token.secret now _ = _
  rw [hsecret]
  exact Caller.authenticate_of_signed hheader hgood

/-- Anna's token is good for the first seconds. -/
theorem judge_annas : ∀ seconds ∈ [60, 61, 62, 63],
    Token.judge ⟨seconds, 0⟩ (Utf8.encode (Claims.toJson ⟨1, false, 960, 60, ""⟩).render) =
      .ok ⟨1, false, 960, 60, ""⟩ := by
  decide +kernel

/-- The service knows Anna by her token. -/
theorem caller_annas {method path body : String} {id? : Option (String × String)}
    (hsecret : config.token.secret = "secret") :
    ((Arrival.bearing annasToken method path body).exchange config id?).caller = .ok ⟨1, false⟩ :=
  caller_of_judge hsecret (judge_annas 60 List.mem_cons_self)

/-- It still does a few seconds later. -/
theorem caller_annaPosts {seconds : Int} (hseconds : seconds ∈ [61, 62, 63]) {path body : String}
    {id? : Option (String × String)} (hsecret : config.token.secret = "secret") :
    ((annaPosts seconds path body).exchange config id?).caller = .ok ⟨1, false⟩ :=
  caller_of_judge hsecret (judge_annas seconds (List.mem_cons_of_mem _ hseconds))

/-- Anna asks for a change of her profile. -/
theorem find_annaPays (token : String) :
    Endpoint.find (annaPays token).incoming = .endpoint .updateKeeper (some ("id", "1")) :=
  show Endpoint.findIn "PATCH" (Path.segments "/api/v1/keepers/1") Endpoint.routes = _ by decide

/-- What Anna asks for is a price. -/
theorem receive_annaPays (token : String) :
    receive UpdateKeeper (annaPays token).incoming.body = .ok { price := .set (some (-1)) } := by
  change receive UpdateKeeper (Utf8.encode "\x7b\"price\":-1\x7d") = _
  decide +kernel

/-- There are no texts in what Anna asks for. -/
theorem isPlain_annaPays (token : String) : (annaPays token).incoming.IsPlain := by
  have hquery : ∀ pair ∈ Query.pairs [], isStorableText pair.2 = true := by decide
  refine ⟨hquery, fun endpoint id? hfind => ?_⟩
  rw [find_annaPays] at hfind
  cases hfind
  rintro ⟨description, price, hasCage, boardingCapacity, animalTypes, city, ⟨⟩⟩ hrow
  have hread := read_of_receive (receive_annaPays token)
  have hblank : ¬(annaPays token).incoming.body.all Text.isAsciiBlank = true :=
    show ¬(Utf8.encode "\x7b\"price\":-1\x7d").all Text.isAsciiBlank = true by decide
  unfold Request.read at hread
  rw [if_neg hblank, hrow] at hread
  obtain ⟨rfl, rfl, rfl, rfl, rfl, rfl⟩ := UpdateKeeper.mk.inj (Except.ok.inj hread)
  have hkept : ∀ value? ∈ (none : Option (Option String)), ∀ value ∈ value?,
      isStorableText value = true := fun _ h => nomatch h
  exact ⟨hkept, fun _ _ _ _ => trivial, fun _ _ => trivial, fun _ _ => trivial, hkept, hkept, trivial⟩

/-- She names no city. -/
theorem fitsIndexes_annaPays {token : String} {endpoint : Endpoint} {id? : Option (String × String)}
    (hfind : Endpoint.find (annaPays token).incoming = .endpoint endpoint id?) :
    endpoint.FitsIndexes (annaPays token).incoming.body := by
  rw [find_annaPays] at hfind
  cases hfind
  intro request hrequest text htext
  have hsame : request = { price := .set (some (-1)) } :=
    Except.ok.inj (hrequest.symm.trans (receive_annaPays token))
  rw [hsame] at htext
  cases htext

/-- The id in her path is one. -/
theorem readId_one : Path.readId "id" "1" = .ok 1 :=
  (Path.readId_eq_ok_iff (by decide)).mpr (by decide)

/-- She asks for a price below zero. -/
theorem underprices_annaPays (hsecret : config.token.secret = "secret") (hash : String) :
    ((annaPays annasToken).exchange config (some ("id", "1"))).Underprices
      (withAnna hash [{ entry := annasEntry, userId := 1 }] 1) .updateKeeper := by
  let x : Exchange := (annaPays annasToken).exchange config (some ("id", "1"))
  have hbody : x.body UpdateKeeper = .ok { price := .set (some (-1)) } :=
    Exchange.body_of_receive (receive_annaPays annasToken)
  have hid : x.id = .ok 1 := readId_one
  have hprice : (Change.set (some (-1))).Underprices := ⟨-1, rfl, by decide⟩
  exact .keeper ⟨1, false⟩ _ { entry := annasEntry, userId := 1 } (caller_annas hsecret) hid hbody
    List.mem_cons_self rfl rfl hprice

/-- Anna is told that the service has failed. -/
theorem fails_annaPays :
    ((serveAll (.blockingAt 3) {} [annaRegisters annasToken, annaOffers annasToken]).reply
      (.blockingAt 3) (annaPays annasToken)).status = 500 := by
  have hrandom : ∀ b ∈ [annaRegisters annasToken, annaOffers annasToken],
      Password.saltLength ≤ b.random.length := by
    have hsixteen : Password.saltLength ≤ (List.replicate 16 (1 : UInt8)).length := by decide
    exact List.forall_mem_cons.mpr ⟨hsixteen, List.forall_mem_singleton.mpr hsixteen⟩
  have hdated : (0 : Int) ≤ 60 := by decide
  have hplausible : (annaPays annasToken).IsPlausible (.blockingAt 3) :=
    { plain := isPlain_annaPays annasToken
      room := fun _ _ => fitsIndexes_annaPays
      dated := hdated
      lasts := Logins.lasts_of_dated hdated (show (60 : Int) < 3000000000000 by decide) (by decide)
        (by decide) }
  obtain ⟨hash, hregisters⟩ := serve_annaRegisters (.blockingAt 3) annasToken
  have hoffers : (withAnna hash [] 0).serve (.blockingAt 3) (annaOffers annasToken) =
      withAnna hash [{ entry := annasEntry, userId := 1 }] 1 :=
    serve_annaOffers (caller_annas rfl) hash
  refine (fails_iff_underprices hrandom hplausible).mpr
    ⟨.updateKeeper, some ("id", "1"), find_annaPays annasToken, ?_⟩
  rw [serveAll_cons, hregisters, serveAll_cons, hoffers, serveAll_nil]
  exact underprices_annaPays rfl hash

end Database

end Fostering
