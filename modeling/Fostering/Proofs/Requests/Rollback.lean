import Fostering.Proofs.Database.Rollback
import Fostering.Proofs.Requests.Failures
import Fostering.Proofs.Sessions.Logins

/-!
# Requests that fail

A request that is not answered with success leaves every table as it was, with one exception: whoever
presents a refresh token loses its session even if nothing is given for it. A request that writes rows
makes one call of the store, and calls are atomic; a login gives tokens with its last step; only an
exchange takes a session away before it knows what comes of it.

* `Logins.tables_login`, `Logins.tables_refresh`: what a visit leaves that gives no tokens.
* `Database.tables_of_failure`: what a request leaves that fails.
* `Database.failure_leaves_no_trace`: the same for requests and for calls of the store.
-/

namespace Fostering

/-- A status that tells of success. -/
def IsSuccess (status : Nat) : Prop := 200 ≤ status ∧ status < 300

namespace Action

variable {now : Instant} {db : Database}

/-- An action that shows what comes of an atomic operation leaves every table as it was if it fails. -/
theorem tables_replying {α : Type} {op : Op Database α} (h : Database.IsAtomic op) {reply : α → Reply}
    (hreply : ∀ a, IsSuccess (reply a).status)
    (hfails : ¬IsSuccess (statusOf ((replying reply op).exec now db).1)) :
    ((replying reply op).exec now db).2.tables = db.tables := by
  rw [exec_replying] at hfails ⊢
  rcases hop : op.exec now db with ⟨cause | a, db'⟩
  · exact h now db cause db' hop
  · rw [hop] at hfails
    exact absurd (hreply a) hfails

/-- What comes of an operation whose tokens are shown. -/
theorem exec_showsTokens (op : Op Database (Except Breakdown AuthTokens)) (now : Instant)
    (db : Database) :
    (showsTokens op).exec now db =
      ((op.exec now db).1.map fun given => given.map fun tokens => .success 200 tokens.view,
        (op.exec now db).2) := by
  unfold showsTokens
  rw [Op.exec_bind]
  rcases op.exec now db with ⟨_ | _, _⟩ <;> rfl

/-- Where no success is shown, no tokens were given. -/
theorem tokens?_of_failure {op : Op Database (Except Breakdown AuthTokens)}
    (h : ¬IsSuccess (statusOf ((showsTokens op).exec now db).1)) :
    Logins.Answer.tokens? (op.exec now db).1 = none := by
  rw [exec_showsTokens] at h
  rcases hop : (op.exec now db).1 with cause | broken | tokens
  · rfl
  · rfl
  · rw [hop] at h
    exact absurd (show 200 ≤ 200 ∧ 200 < 300 by decide) h

end Action

/-! ## Visits for tokens -/

namespace Logins

open Database (dropRows isAtomic_upsertSession)

variable {config : TokenConfig} {random : Bytes} {now : Instant} {db : Database}

/-- Where no tokens are issued no session is stored. -/
theorem tables_issue {user : User} {fingerprint : String}
    (h : Answer.tokens? ((issue config random user fingerprint).exec now db).1 = none) :
    ((issue config random user fingerprint).exec now db).2.tables = db.tables := by
  rcases issue_cases config random user fingerprint now db with
    ⟨answer, db', heq, -, rfl | ⟨given, cause, hupsert⟩⟩ | ⟨tokens, _, _, _, -, heq, -⟩
  · rw [heq]
  · rw [heq]
    exact isAtomic_upsertSession given now db cause db' hupsert
  · rw [heq] at h
    cases h

/-- A login that gives no tokens leaves every table as it was. -/
theorem tables_login {request : LoginRequest}
    (h : Answer.tokens? ((login config random request).exec now db).1 = none) :
    ((login config random request).exec now db).2.tables = db.tables := by
  rcases login_cases config random request now db with ⟨answer, heq, -⟩ | ⟨user, -, -, -, -, heq⟩
  · rw [heq]
  · rw [heq] at h ⊢
    exact tables_issue h

/-- An exchange that gives no tokens has taken the session away, and done nothing else. -/
theorem tables_refresh {request : RefreshRequest}
    (h : Answer.tokens? ((refresh config random request).exec now db).1 = none) :
    ((refresh config random request).exec now db).2.tables = (taken db request now).tables := by
  rcases refresh_cases config random request now db with
    ⟨-, heq⟩ | ⟨r, -, -, ⟨-, heq⟩ | ⟨-, -, heq⟩ | ⟨-, user, -, -, -, heq⟩⟩
  · rw [heq]
  · rw [heq]
  · rw [heq]
  · rw [heq] at h ⊢
    exact tables_issue h

/-- To log out is atomic: it is one call. -/
theorem isAtomic_logout (userId : Int) (fingerprint : String) :
    Database.IsAtomic (logout userId fingerprint) :=
  (Database.isAtomic_deleteSession userId fingerprint).before fun _ _ _ => ⟨_, _, rfl⟩

/-! ## The session that is lost -/

section

variable {request : RefreshRequest} {session : Session} {t : Tables}

/-- A session that a request presents has the digest of the token in it. -/
theorem tokenHash_of_presents (h : Presents request now session = true) :
    session.tokenHash = refreshDigest request.refreshToken :=
  of_decide_eq_true (Bool.and_eq_true_iff.mp h).1

/-- Where no two sessions have the same digest, one session at most is taken away. -/
theorem dropRows_presents (hunique : (t.sessions.map Session.tokenHash).Nodup)
    (hmem : session ∈ t.sessions) (hpresents : Presents request now session = true) :
    dropRows (Presents request now) t = { t with sessions := t.sessions.erase session } := by
  have hsame (r : Session) (hr : r ∈ t.sessions) : Presents request now r = true ↔ r = session := by
    constructor
    · intro h
      have hdigest : r.tokenHash = session.tokenHash :=
        (tokenHash_of_presents h).trans (tokenHash_of_presents hpresents).symm
      exact List.inj_on_of_nodup_map hunique hr hmem hdigest
    · rintro rfl
      exact hpresents
  have hnodup : t.sessions.Nodup := .of_map _ hunique
  have hrows : (t.sessions.filter fun r => !Presents request now r) = t.sessions.erase session := by
    rw [hnodup.erase_eq_filter]
    refine List.filter_congr fun r hr => ?_
    rw [Bool.eq_iff_iff, Bool.not_eq_true', bne_iff_ne, Ne, ← hsame r hr, Bool.not_eq_true]
  change { t with sessions := t.sessions.filter fun r => !Presents request now r } = _
  rw [hrows]

/-- Where there is no session with the token, none is taken away. -/
theorem dropRows_presents_of_none (h : ∀ r ∈ t.sessions, Presents request now r = false) :
    dropRows (Presents request now) t = t := by
  have hrows : (t.sessions.filter fun r => !Presents request now r) = t.sessions := by
    refine List.filter_eq_self.mpr fun r hr => ?_
    rw [h r hr]
    rfl
  change { t with sessions := t.sessions.filter fun r => !Presents request now r } = _
  rw [hrows]

end

end Logins

/-! ## Requests -/

namespace Exchange

open Fostering.Action Plans
open Database (dropRows)

/-- A request for an exchange costs the sessions that its refresh token is presented for, and nothing
else. Where no two sessions have the same digest, that is one session. -/
inductive LosesSession (x : Exchange) (t : Tables) : Endpoint → Tables → Prop where
  | intro (request : RefreshRequest) (body : x.body RefreshRequest = .ok request)
      (single : (t.sessions.map Session.tokenHash).Nodup → ∃ session ∈ t.sessions,
        Logins.Presents request x.now session = true ∧
        dropRows (Logins.Presents request x.now) t =
          { t with sessions := t.sessions.erase session }) :
      LosesSession x t .refresh (dropRows (Logins.Presents request x.now) t)

/-- What an endpoint of sessions plans leaves no trace if it fails, or it costs a session. -/
theorem plan_session_fails (x : Exchange) (db : Database) (endpoint : Endpoint)
    (hsessions : endpoint.writes = [.sessions]) :
    Plans (fun action => ¬IsSuccess (statusOf (action.exec x.now db).1) →
      (action.exec x.now db).2.tables = db.tables ∨
        x.LosesSession db.tables endpoint (action.exec x.now db).2.tables) (x.plan endpoint) := by
  cases endpoint with
  | login =>
      refine read fun request => .ok fun hfails => .inl ?_
      rw [exec_showsTokens]
      exact Logins.tables_login (tokens?_of_failure hfails)
  | refresh =>
      refine reading fun request hbody => .ok fun hfails => ?_
      have htables := Logins.tables_refresh (tokens?_of_failure hfails)
      rw [exec_showsTokens, htables]
      by_cases hany : ∃ session ∈ db.tables.sessions, Logins.Presents request x.now session = true
      · obtain ⟨session, hmem, hpresents⟩ := hany
        refine .inr (.intro request hbody fun hunique => ?_)
        exact ⟨session, hmem, hpresents, Logins.dropRows_presents hunique hmem hpresents⟩
      · refine .inl (Logins.dropRows_presents_of_none fun r hr => ?_)
        exact eq_false_of_ne_true fun h => hany ⟨r, hr, h⟩
  | logout =>
      refine read fun caller => read fun request => .ok fun hfails => .inl ?_
      have hsuccess : IsSuccess 204 := show 200 ≤ 204 ∧ 204 < 300 by decide
      exact tables_replying (Logins.isAtomic_logout _ _) (fun _ => hsuccess) hfails
  | _ => cases hsessions

end Exchange

namespace Database

variable {config : Config} {db : Database} {a : Arrival}

/-- A call that a failed request made was refused, and has left every table as it was. -/
theorem tables_of_tells {call : Store.Call} {reply : Reply}
    (htells : reply.Tells (call.perform.exec a.now db).1) (hfails : ¬IsSuccess reply.status) :
    (call.perform.exec a.now db).2.tables = db.tables := by
  rcases hcall : (call.perform : Op Database call.Result).exec a.now db with ⟨cause | result, db'⟩
  · exact isAtomic_perform call a.now db cause db' hcall
  · rw [hcall] at htells
    have hall : ∀ status ∈ [200, 201, 204], 200 ≤ status ∧ status < 300 := by decide
    exact absurd (hall reply.status htells) hfails

/-- **A request that fails leaves every table as it was, or it has cost the session of the refresh
token that it presented.** -/
theorem tables_of_failure (hfails : ¬IsSuccess (db.reply config a).status) :
    (db.serve config a).tables = db.tables ∨
      ∃ endpoint id?, Endpoint.find a.incoming = .endpoint endpoint id? ∧
        (a.exchange config id?).LosesSession db.tables endpoint (db.serve config a).tables := by
  by_cases hany : ∃ endpoint id?, Endpoint.find a.incoming = .endpoint endpoint id?
  case neg =>
    have hstore : db.serve config a = db :=
      (App.serve_of_no_endpoint fun endpoint id? hfind => hany ⟨endpoint, id?, hfind⟩).2
    exact .inl (congrArg tables hstore)
  obtain ⟨endpoint, id?, hfind⟩ := hany
  let x : Exchange := a.exchange config id?
  by_cases hreads : endpoint.writes = []
  · exact .inl (tables_of_reading config db a hfind hreads)
  by_cases hsessions : endpoint.writes = [.sessions]
  case neg =>
    rcases serve_of_writing config db a hfind hreads hsessions with ⟨-, hstore⟩ | ⟨call, -, htells, hstore⟩
    · exact .inl (congrArg tables hstore)
    · rw [hstore]
      exact .inl (tables_of_tells htells hfails)
  rcases hplan : (x.plan endpoint : Except Reply (Action Database)) with fault | action
  · have hstore : db.serve config a = db := (App.serve_of_error hfind hplan).2
    exact .inl (congrArg tables hstore)
  obtain ⟨hstatus, hstore⟩ := App.serve_of_ok (s := db) hfind hplan
  have hserve : db.serve config a = (action.exec a.now db).2 := hstore
  have hreply : ¬IsSuccess (Action.statusOf (action.exec a.now db).1) := hstatus ▸ hfails
  rw [hserve]
  refine (x.plan_session_fails db endpoint hsessions action hplan hreply).imp_right fun hlost => ?_
  exact ⟨endpoint, id?, hfind, hlost⟩

/-- **Nothing that fails leaves a trace: no request, but for the session that an exchange has cost, and
no call of the store.** -/
theorem failure_leaves_no_trace :
    (∀ (config : Config) (db : Database) (a : Arrival), ¬IsSuccess (db.reply config a).status →
      (db.serve config a).tables = db.tables ∨
        ∃ endpoint id?, Endpoint.find a.incoming = .endpoint endpoint id? ∧
          (a.exchange config id?).LosesSession db.tables endpoint (db.serve config a).tables) ∧
    ∀ (call : Store.Call) (now : Instant) (db : Database) (cause : Error) (db' : Database),
      call.perform.exec now db = (.error cause, db') → db'.tables = db.tables :=
  ⟨fun _ _ _ hfails => tables_of_failure hfails, isAtomic_perform⟩

/-- The session of Anna's telephone. -/
def telephone : Session where
  id := 1
  userId := 1
  tokenHash := refreshDigest "kitten"
  fingerprint := "telephone"
  expiresAt := ⟨90, 0⟩

/-- A database with this session. -/
def withTelephone : Database := { tables := { sessions := [telephone] } }

/-- Somebody has found her refresh token and presents it on a laptop. -/
def laptopRefreshes : Arrival := .bearing "" "POST" "/api/v1/auth/refresh"
  "\x7b\"refresh_token\":\"kitten\",\"fingerprint\":\"laptop\"\x7d"

/-- They get nothing for it. -/
theorem laptop_is_refused : (withTelephone.reply (.blockingAt 3) laptopRefreshes).status = 401 := by
  let config : Config := .blockingAt 3
  let x : Exchange := laptopRefreshes.exchange config none
  have hreceive : receive RefreshRequest (Utf8.encode
      "\x7b\"refresh_token\":\"kitten\",\"fingerprint\":\"laptop\"\x7d") =
        .ok ⟨"kitten", "laptop"⟩ := by decide +kernel
  have hbody : x.body RefreshRequest = .ok ⟨"kitten", "laptop"⟩ := Exchange.body_of_receive hreceive
  have hplan : (x.plan .refresh : Except Reply (Action Database)) =
      .ok (.showsTokens (Logins.refresh config.token x.random ⟨"kitten", "laptop"⟩)) := by
    change (x.body RefreshRequest >>= _) = _
    rw [hbody]
    rfl
  have hfind : Endpoint.find laptopRefreshes.incoming = .endpoint .refresh none :=
    show Endpoint.findIn "POST" (Path.segments "/api/v1/auth/refresh") Endpoint.routes = _ by decide
  have hrefused : ((Logins.refresh config.token x.random ⟨"kitten", "laptop"⟩).exec ⟨60, 0⟩ withTelephone).1 =
      .error Logins.otherDevice := by
    have hpresents : Logins.Presents ⟨"kitten", "laptop"⟩ ⟨60, 0⟩ telephone = true :=
      Bool.and_eq_true_iff.mpr ⟨decide_eq_true rfl, by decide⟩
    have hother : telephone.fingerprint ≠ "laptop" := by decide
    rcases Logins.refresh_cases config.token x.random ⟨"kitten", "laptop"⟩ ⟨60, 0⟩ withTelephone with
      ⟨hnone, -⟩ | ⟨r, hr, -, ⟨-, heq⟩ | ⟨hsame, -⟩ | ⟨hsame, -⟩⟩
    · rw [hnone telephone List.mem_cons_self] at hpresents
      cases hpresents
    · rw [heq]
    · exact absurd (List.mem_singleton.mp hr ▸ hsame) hother
    · exact absurd (List.mem_singleton.mp hr ▸ hsame) hother
  have hstatus := (App.serve_of_ok (s := withTelephone) hfind hplan).1
  rw [Action.exec_showsTokens] at hstatus
  refine hstatus.trans ?_
  change Action.statusOf (Except.map _ ((Logins.refresh config.token x.random
    ⟨"kitten", "laptop"⟩).exec ⟨60, 0⟩ withTelephone).1) = 401
  rw [hrefused]
  rfl

/-- Anna's telephone has lost its session, and a chat that is not there has lost nobody. -/
theorem laptop_leaves_no_trace :
    ¬IsSuccess (withTelephone.reply (.blockingAt 3) laptopRefreshes).status ∧
      ((withTelephone.serve (.blockingAt 3) laptopRefreshes).tables = withTelephone.tables ∨
        ∃ endpoint id?, Endpoint.find laptopRefreshes.incoming = .endpoint endpoint id? ∧
          (laptopRefreshes.exchange (.blockingAt 3) id?).LosesSession withTelephone.tables endpoint
            (withTelephone.serve (.blockingAt 3) laptopRefreshes).tables) ∧
      ∃ cause db', (Store.Call.removeMember 1 1).perform.exec ⟨0, 0⟩ withTelephone =
        (.error cause, db') ∧ db'.tables = withTelephone.tables := by
  have hfails : ¬IsSuccess (withTelephone.reply (.blockingAt 3) laptopRefreshes).status := by
    rw [laptop_is_refused]
    exact fun h => absurd h.2 (by decide)
  refine ⟨hfails, failure_leaves_no_trace.1 _ _ _ hfails, noSuchChat 1, withTelephone, rfl, ?_⟩
  exact failure_leaves_no_trace.2 (.removeMember 1 1) ⟨0, 0⟩ withTelephone _ _ rfl

end Database

end Fostering
