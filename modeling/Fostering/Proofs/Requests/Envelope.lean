import Fostering.Proofs.Requests.Failures
import Fostering.Proofs.Requests.Readings

/-!
# The envelope of replies

A reply of the interface is in the *envelope* (`Reply.InEnvelope`) if it is empty with status 204, or shows
what was asked for, or tells a code that goes with its status and a message, which for every internal
failure is the same. A request for an endpoint gets a reply in the envelope, with two exceptions: a
parameter in the path or in the query that cannot be read (`Exchange.Misreads`) is told in plain text, and
so is an operation that was broken off (`Exchange.BreaksOff`).

* `Database.reply_cases`: every reply is that to the first fault of a request, or comes of its action.
* `Database.in_envelope_iff`: the two exceptions are the only ones.
* `Exchange.BreaksOff.cases`: an operation is broken off only if a lifetime has no end, or if a stored
  digest has too many lanes.
-/

namespace Fostering

/-! ## The envelope -/

/-- The codes of failures, each with its status. -/
def Reply.codes : List (Nat × String) :=
  [(404, "NOT_FOUND"), (400, "VALIDATION_ERROR"), (400, "BAD_REQUEST"), (409, "CONFLICT"),
    (401, "UNAUTHORIZED"), (403, "FORBIDDEN"), (500, "INTERNAL_ERROR")]

/-- A status and a content that are in the envelope. -/
inductive Reply.Envelops : Nat → Content → Prop where
  | done : Envelops 204 .empty
  | success (status : Nat) (data : Json) (hstatus : status = 200 ∨ status = 201) :
      Envelops status (.json (.object [("status", .text "success"), ("data", data)]))
  | failure (status : Nat) (code message : String) (hcode : (status, code) ∈ codes)
      (hidden : status = 500 → message = "An internal error occurred") :
      Envelops status (.json (.object [("status", .text "error"),
        ("data", .object [("code", .text code), ("message", .text message)])]))

/-- A reply in the envelope. -/
def Reply.InEnvelope (reply : Reply) : Prop := Envelops reply.status reply.content

namespace Reply

/-- Every failure is told in the envelope. -/
theorem inEnvelope_failure (f : Failure) : (failure f).InEnvelope := by
  refine .failure f.status f.code f.publicMessage ?_ fun h => ?_
  · rcases f with cause | message | message
    · cases cause <;> simp [Failure.status, Failure.code, Error.status, Error.code, codes]
    · simp [Failure.status, Failure.code, codes]
    · simp [Failure.status, Failure.code, codes]
  · rcases f with cause | message | message
    · cases cause with
      | internal message => rfl
      | _ => cases h
    · cases h
    · rfl

/-- Plain text is in no envelope. -/
theorem not_inEnvelope_of_plain {reply : Reply} {text : String} (h : reply.content = .plain text) :
    ¬reply.InEnvelope := by
  intro henvelope
  unfold InEnvelope at henvelope
  rw [h] at henvelope
  generalize reply.status = status at henvelope
  cases henvelope

end Reply

/-! ## Faults of requests -/

namespace Exchange

variable (x : Exchange)

/-- The first part of a request that cannot be read. -/
def firstFaulty? (endpoint : Endpoint) : Option Reading :=
  endpoint.readings.find? fun part => (x.fault? part).isSome

/-- The first part of the request that cannot be read is a parameter in the path or in the query. -/
def Misreads (endpoint : Endpoint) : Prop :=
  ∃ parameter ∈ x.firstFaulty? endpoint, parameter.isParameter = true

variable {x}

/-- The first fault is the one of the first part that has one. -/
theorem firstFaulty?_of_findSome {endpoint : Endpoint} {reply : Reply}
    (h : endpoint.readings.findSome? x.fault? = some reply) :
    ∃ part, x.firstFaulty? endpoint = some part ∧ part ∈ endpoint.readings ∧
      x.fault? part = some reply := by
  obtain ⟨before, part, after, hreadings, hfault, hbefore⟩ := List.findSome?_eq_some_iff.mp h
  refine ⟨part, List.find?_eq_some_iff_append.mpr ⟨by rw [hfault]; rfl, before, after, hreadings, ?_⟩,
    by simp [hreadings], hfault⟩
  intro earlier hmem
  rw [hbefore earlier hmem]
  rfl

/-- A parameter that is read right after the caller, and cannot be, is the first fault. -/
theorem misreads_of_caller {endpoint : Endpoint} {parameter : Reading} {others : List Reading}
    {caller : Caller} (hreadings : endpoint.readings = .caller :: parameter :: others)
    (hcaller : x.caller = .ok caller) (hfault : (x.fault? parameter).isSome = true)
    (hparameter : parameter.isParameter = true) : x.Misreads endpoint := by
  have hnone : x.fault? .caller = none := by
    unfold Exchange.fault?
    rw [hcaller]
    rfl
  refine ⟨parameter, ?_, hparameter⟩
  rw [firstFaulty?, hreadings, List.find?_cons_of_neg (by simp [hnone])]
  exact List.find?_cons_of_pos hfault

/-- A parameter that cannot be read is told in plain text. -/
theorem fault?_parameter {part : Reading} {reply : Reply} (hfault : x.fault? part = some reply)
    (hparameter : part.isParameter = true) (hid : x.id?.isSome = true ∨ part.isPathId = false) :
    ∃ message, reply = .malformed message := by
  cases part with
  | caller | moderator | body check => cases hparameter
  | query fields =>
      obtain ⟨message, -, rfl⟩ := Option.map_eq_some_iff.mp hfault
      exact ⟨message, rfl⟩
  | id =>
      have hpath : x.id?.isSome = true := hid.resolve_right (by decide)
      exact x.malformed_of_id hpath (eq_error_of_faultOf? hfault)

/-- Every other fault is told in the envelope. -/
theorem fault?_other {part : Reading} {reply : Reply} (hfault : x.fault? part = some reply)
    (hother : part.isParameter = false) : ∃ f, reply = .failure f := by
  have horFail {α : Type} {m : Except Failure α} (h : faultOf? (orFail m) = some reply) :
      ∃ f, reply = .failure f := by
    rcases m with f | a
    · cases h
      exact ⟨f, rfl⟩
    · cases h
  cases part with
  | caller => exact horFail hfault
  | moderator => exact horFail hfault
  | body check =>
      obtain ⟨f, -, rfl⟩ := Option.map_eq_some_iff.mp hfault
      exact ⟨f, rfl⟩
  | id | query fields => cases hother

/-- **A request misreads a parameter, has another fault, or is acted on.** -/
theorem plan_cases {σ : Type} [Store σ] {endpoint : Endpoint}
    (hid : endpoint.hasId = true → x.id?.isSome = true) :
    (x.Misreads endpoint ∧ ∃ message,
        (x.plan endpoint : Except Reply (Action σ)) = .error (.malformed message)) ∨
      (¬x.Misreads endpoint ∧ ((∃ f, (x.plan endpoint : Except Reply (Action σ)) = .error (.failure f)) ∨
        ∃ action : Action σ, x.plan endpoint = .ok action ∧ x.Responds endpoint action)) := by
  have hreads := x.plan_reads (σ := σ) endpoint
  -- by the first part of the request that cannot be read, if there is one
  rcases hplan : (x.plan endpoint : Except Reply (Action σ)) with reply | action
  · have hfirst : endpoint.readings.findSome? x.fault? = some reply := by
      rw [← hreads.fault, hplan]
      rfl
    obtain ⟨part, hpart, hmem, hfault⟩ := firstFaulty?_of_findSome hfirst
    by_cases hparameter : part.isParameter = true
    · have hpathId : x.id?.isSome = true ∨ part.isPathId = false := by
        cases hkind : part.isPathId with
        | false => exact .inr rfl
        | true => exact .inl (hid (endpoint.hasId_of_reads hmem hkind))
      obtain ⟨message, rfl⟩ := fault?_parameter hfault hparameter hpathId
      exact .inl ⟨⟨part, hpart, hparameter⟩, message, rfl⟩
    · obtain ⟨f, rfl⟩ := fault?_other hfault (eq_false_of_ne_true hparameter)
      refine .inr ⟨?_, .inl ⟨f, rfl⟩⟩
      rintro ⟨parameter, hfirst', hparameter'⟩
      rw [hpart] at hfirst'
      cases hfirst'
      exact hparameter hparameter'
  · refine .inr ⟨?_, .inr ⟨action, rfl, hreads.planned action hplan⟩⟩
    rintro ⟨parameter, hfirst, -⟩
    have hnone : endpoint.readings.findSome? x.fault? = none := by
      rw [← hreads.fault, hplan]
      rfl
    have hsome := List.find?_some hfirst
    rw [List.findSome?_eq_none_iff.mp hnone parameter (List.mem_of_find?_eq_some hfirst)] at hsome
    cases hsome

end Exchange

/-! ## Operations that are broken off -/

/-- The reply to what came of an action. -/
def Action.replyOf : Except Error (Except Breakdown Reply) → Reply
  | .ok (.ok reply) => reply
  | .ok (.error _) => App.brokenOff
  | .error cause => .failure (.refused cause)

namespace Logins

variable {config : TokenConfig} {random : Bytes} {now : Instant} {db db' : Database}
  {breakdown : Breakdown}

/-- Tokens are given, or refused, as long as their lifetimes have ends. -/
theorem not_lasts_of_issue {user : User} {fingerprint : String}
    (h : (issue config random user fingerprint).exec now db = (.ok (.error breakdown), db')) :
    ¬Lasts config now := by
  intro hlasts
  obtain ⟨accessToken, expiresAt, -, -, hprepare⟩ := hlasts.prepare random user fingerprint
  have hnow : (Op.now : Op Database Instant).exec now db = (.ok now, db) := rfl
  unfold issue at h
  rw [Op.exec_bind_ok hnow, hprepare] at h
  obtain ⟨session, db₁, -, hrest⟩ := Op.exec_bind_eq_ok h
  cases hrest

/-- A login is broken off for a lifetime without an end, or for the stored digest. -/
theorem login_breaksOff {request : LoginRequest}
    (h : (login config random request : Op Database _).exec now db = (.ok (.error breakdown), db')) :
    ¬Lasts config now ∨ ∃ user ∈ db.tables.users, user.username = request.username ∧
      user.entry.isLive = true ∧ Password.verify request.password user.passwordHash = .error .lanesOverflow := by
  obtain ⟨user?, db₁, hname, hrest⟩ := Op.exec_bind_eq_ok h
  obtain ⟨_, db₂, hguard, hlook⟩ := Op.exec_bind_eq_ok hname
  rw [Database.guardText, Op.exec_guard] at hguard
  by_cases hstorable : isStorableText request.username = true
  case neg =>
    rw [if_neg hstorable] at hguard
    cases hguard
  rw [if_pos hstorable] at hguard
  cases hguard
  rw [Database.exec_find?] at hlook
  rcases hfound : (Table.rows db.tables).find?
      fun u : User => u.username = request.username && u.entry.isLive with _ | user
  · rw [hfound] at hlook
    cases hlook
    cases hrest
  rw [hfound] at hlook
  cases hlook
  have hit := List.find?_some hfound
  simp only [Bool.and_eq_true, decide_eq_true_eq] at hit
  rw [Op.exec_bind_ok (Op.exec_orRefuse_some badCredentials user now db)] at hrest
  split at hrest
  · rename_i hverify
    exact .inr ⟨user, List.mem_of_find?_eq_some hfound, hit.1, hit.2, hverify⟩
  · obtain ⟨_, db₃, -, hissue⟩ := Op.exec_bind_eq_ok hrest
    exact .inl (not_lasts_of_issue hissue)

/-- An exchange breaks off only where the lifetime of a token has no end. -/
theorem refresh_breaksOff {request : RefreshRequest}
    (h : (refresh config random request : Op Database _).exec now db = (.ok (.error breakdown), db')) :
    ¬Lasts config now := by
  obtain ⟨session?, db₁, -, hsession⟩ := Op.exec_bind_eq_ok h
  obtain ⟨session, db₂, -, hdevice⟩ := Op.exec_bind_eq_ok hsession
  obtain ⟨_, db₃, -, howner⟩ := Op.exec_bind_eq_ok hdevice
  obtain ⟨user, db₄, -, hissue⟩ := Op.exec_bind_eq_ok howner
  exact not_lasts_of_issue hissue

end Logins

namespace Exchange

/-- What is asked for is broken off. -/
def BreaksOff (x : Exchange) (db : Database) (endpoint : Endpoint) : Prop :=
  ∃ (action : Action Database) (breakdown : Breakdown), x.plan endpoint = .ok action ∧
    (action.exec x.now db).1 = .ok (.error breakdown)

variable {x : Exchange} {db : Database} {endpoint : Endpoint} {action : Action Database}

/-- An action that gives tokens is broken off if the operation is. -/
theorem exec_of_showsTokens {op : Op Database (Except Breakdown AuthTokens)} {now : Instant}
    {breakdown : Breakdown} (h : ((Action.showsTokens op).exec now db).1 = .ok (.error breakdown)) :
    ∃ db', op.exec now db = (.ok (.error breakdown), db') := by
  obtain ⟨tokens, db₁, hop, hrest⟩ := Op.exec_bind_eq_ok (Prod.ext h rfl)
  rcases tokens with b | tokens
  · cases hrest
    exact ⟨_, hop⟩
  · cases hrest

/-- An endpoint responds in the envelope, or is broken off. -/
theorem Responds.cases (h : x.Responds endpoint action) (hapi : endpoint ≠ .health) (now : Instant) :
    (Action.replyOf (action.exec now db).1).InEnvelope ∨
      ∃ breakdown, (action.exec now db).1 = .ok (.error breakdown) := by
  have htokens (op : Op Database (Except Breakdown AuthTokens)) :
      (Action.replyOf ((Action.showsTokens op).exec now db).1).InEnvelope ∨
        ∃ breakdown, ((Action.showsTokens op).exec now db).1 = .ok (.error breakdown) := by
    rw [Action.showsTokens, Op.exec_bind]
    rcases op.exec now db with ⟨cause | breakdown | tokens, db'⟩
    · exact .inl (Reply.inEnvelope_failure _)
    · exact .inr ⟨breakdown, rfl⟩
    · exact .inl (.success 200 _ (.inl rfl))
  cases h with
  | shows status hstatus view op =>
      rw [Action.shows, Op.exec_bind]
      rcases op.exec now db with ⟨cause | a, db'⟩
      · exact .inl (Reply.inEnvelope_failure _)
      · exact .inl (.success status _ hstatus)
  | silent op =>
      rw [Action.silent, Op.exec_bind]
      rcases op.exec now db with ⟨cause | a, db'⟩
      · exact .inl (Reply.inEnvelope_failure _)
      · exact .inl .done
  | login request hbody => exact htokens _
  | refresh request hbody => exact htokens _
  | health => exact absurd rfl hapi

/-- **Only logins and exchanges of refresh tokens are broken off**: because a lifetime has no end, or a
login because the stored digest has more lanes than can be counted. -/
theorem BreaksOff.cases (h : x.BreaksOff db endpoint) :
    (endpoint = .login ∨ endpoint = .refresh) ∧ ¬Logins.Lasts x.config.token x.now ∨
      endpoint = .login ∧ ∃ request user, x.body LoginRequest = .ok request ∧ user ∈ db.tables.users ∧
        user.username = request.username ∧ user.entry.isLive = true ∧
        Password.verify request.password user.passwordHash = .error .lanesOverflow := by
  obtain ⟨action, breakdown, hplan, hexec⟩ := h
  cases (x.plan_reads endpoint).planned action hplan with
  | shows status hstatus view op =>
      obtain ⟨a, db₁, -, hrest⟩ := Op.exec_bind_eq_ok (Prod.ext hexec rfl)
      cases hrest
  | silent op =>
      obtain ⟨_, db₁, -, hrest⟩ := Op.exec_bind_eq_ok (Prod.ext hexec rfl)
      cases hrest
  | login request hbody =>
      obtain ⟨db', hlogin⟩ := exec_of_showsTokens hexec
      rcases Logins.login_breaksOff hlogin with hlasts | ⟨user, hmem, hname, hlive, hlanes⟩
      · exact .inl ⟨.inl rfl, hlasts⟩
      · exact .inr ⟨rfl, request, user, hbody, hmem, hname, hlive, hlanes⟩
  | refresh request hbody =>
      obtain ⟨db', hrefresh⟩ := exec_of_showsTokens hexec
      exact .inl ⟨.inr rfl, Logins.refresh_breaksOff hrefresh⟩
  | health => cases hexec

end Exchange

/-! ## Replies -/

namespace Database

variable {config : Config} {db : Database} {a : Arrival} {endpoint : Endpoint}
  {id? : Option (String × String)}

/-- What a reply shows of another, which is nothing but the status for `HEAD`. -/
def ShowsAs (a : Arrival) (reply full : Reply) : Prop :=
  reply.status = full.status ∧
    reply.content = if a.incoming.method = "HEAD" then .empty else full.content

/-- The reply to a request with a fault. -/
theorem reply_of_error (hfind : Endpoint.find a.incoming = .endpoint endpoint id?) {fault : Reply}
    (hplan : ((a.exchange config id?).plan endpoint : Except Reply (Action Database)) = .error fault) :
    ShowsAs a (db.reply config a) fault := by
  have hreact : App.react ⟨config, a.now, a.random, a.incoming, id?⟩ endpoint db = (.ok fault, db) := by
    unfold App.react
    rw [show Exchange.plan ⟨config, a.now, a.random, a.incoming, id?⟩ endpoint = .error fault from hplan]
  refine ⟨(App.serve_of_error hfind hplan).1, (App.content_of_find hfind).trans ?_⟩
  rw [hreact]

/-- The reply to a request that is acted on. -/
theorem reply_of_ok (hfind : Endpoint.find a.incoming = .endpoint endpoint id?) {action : Action Database}
    (hplan : (a.exchange config id?).plan endpoint = .ok action) :
    ShowsAs a (db.reply config a) (Action.replyOf (action.exec a.now db).1) := by
  have hreact : App.react ⟨config, a.now, a.random, a.incoming, id?⟩ endpoint db =
      App.run action a.now db := by
    unfold App.react
    rw [show Exchange.plan ⟨config, a.now, a.random, a.incoming, id?⟩ endpoint = .ok action from hplan]
  refine ⟨(App.serve_of_find hfind).1.trans ?_, (App.content_of_find hfind).trans ?_⟩
  all_goals
    rw [hreact]
    unfold App.run
    rcases action.exec a.now db with ⟨cause | breakdown | reply, db'⟩ <;> rfl

/-- **A reply of the interface is in the envelope**, unless a parameter of the request cannot be read,
which is told in plain text, or what is asked for is broken off. A reply to `HEAD` has the same status and
no content. -/
theorem reply_cases (config : Config) (db : Database) (a : Arrival)
    (hfind : Endpoint.find a.incoming = .endpoint endpoint id?) (hapi : endpoint ≠ .health) :
    let x := a.exchange config id?
    ∃ full : Reply, ShowsAs a (db.reply config a) full ∧
      ((x.Misreads endpoint ∧ full.status = 400 ∧ ∃ message, full.content = .plain message) ∨
        (x.BreaksOff db endpoint ∧ full.status = 500 ∧ full.content = .plain "Service panicked") ∨
        (¬x.Misreads endpoint ∧ ¬x.BreaksOff db endpoint ∧ full.InEnvelope)) := by
  intro x
  have hnot {reply : Reply} (h : (x.plan endpoint : Except Reply (Action Database)) = .error reply) :
      ¬x.BreaksOff db endpoint := by
    rintro ⟨action, breakdown, hplan, -⟩
    rw [h] at hplan
    cases hplan
  rcases x.plan_cases (σ := Database) (Endpoint.isSome_of_find hfind) with
    ⟨hmisreads, message, hplan⟩ | ⟨hreads, ⟨f, hplan⟩ | ⟨action, hplan, hresponds⟩⟩
  · exact ⟨_, reply_of_error hfind hplan, .inl ⟨hmisreads, rfl, message, rfl⟩⟩
  · exact ⟨_, reply_of_error hfind hplan,
      .inr (.inr ⟨hreads, hnot hplan, Reply.inEnvelope_failure f⟩)⟩
  · refine ⟨_, reply_of_ok hfind hplan, ?_⟩
    by_cases hbreaks : x.BreaksOff db endpoint
    · obtain ⟨action', breakdown, hplan', hexec⟩ := id hbreaks
      rw [hplan] at hplan'
      cases hplan'
      have hexec' : (action.exec a.now db).1 = .ok (.error breakdown) := hexec
      rw [hexec']
      exact .inr (.inl ⟨hbreaks, rfl, rfl⟩)
    · have hreplies : (Action.replyOf (action.exec a.now db).1).InEnvelope ∨
          ∃ breakdown, (action.exec a.now db).1 = .ok (.error breakdown) := hresponds.cases hapi a.now
      rcases hreplies with henvelope | ⟨breakdown, hexec⟩
      · exact .inr (.inr ⟨hreads, hbreaks, henvelope⟩)
      · exact absurd ⟨action, breakdown, hplan, hexec⟩ hbreaks

/-- **The two exceptions are the only ones**: a reply is in the envelope unless a parameter of the request
cannot be read, which is told in plain text with status 400, or what is asked for is broken off, which only
a lifetime without an end or a digest with too many lanes can do to a login or to the exchange of a refresh
token. -/
theorem in_envelope_iff (config : Config) (db : Database) (a : Arrival)
    (hfind : Endpoint.find a.incoming = .endpoint endpoint id?) (hapi : endpoint ≠ .health) :
    let x := a.exchange config id?
    ∃ full : Reply, ShowsAs a (db.reply config a) full ∧
      (full.InEnvelope ↔ ¬x.Misreads endpoint ∧ ¬x.BreaksOff db endpoint) ∧
      (x.Misreads endpoint → full.status = 400 ∧ ∃ message, full.content = .plain message) ∧
      (x.BreaksOff db endpoint → full.status = 500 ∧ full.content = .plain "Service panicked" ∧
        ((endpoint = .login ∨ endpoint = .refresh) ∧ ¬Logins.Lasts config.token a.now ∨
          endpoint = .login ∧ ∃ request user, x.body LoginRequest = .ok request ∧
            user ∈ db.tables.users ∧ user.username = request.username ∧ user.entry.isLive = true ∧
            Password.verify request.password user.passwordHash = .error .lanesOverflow)) := by
  intro x
  have hexclusive : x.Misreads endpoint → ¬x.BreaksOff db endpoint := by
    rintro hmisreads ⟨action, breakdown, hplan, -⟩
    rcases x.plan_cases (σ := Database) (Endpoint.isSome_of_find hfind) with
      ⟨-, message, hplan'⟩ | ⟨hreads, -⟩
    · rw [hplan] at hplan'
      cases hplan'
    · exact hreads hmisreads
  obtain ⟨full, hshows, hcases⟩ := reply_cases config db a hfind hapi
  refine ⟨full, hshows, ?_⟩
  rcases hcases with ⟨hmisreads, hstatus, message, hcontent⟩ | ⟨hbreaks, hstatus, hcontent⟩ |
    ⟨hreads, hcarried, henvelope⟩
  · refine ⟨⟨fun h => absurd h (Reply.not_inEnvelope_of_plain hcontent), fun h => absurd hmisreads h.1⟩,
      fun _ => ⟨hstatus, message, hcontent⟩, fun h => absurd h (hexclusive hmisreads)⟩
  · refine ⟨⟨fun h => absurd h (Reply.not_inEnvelope_of_plain hcontent), fun h => absurd hbreaks h.2⟩,
      fun h => absurd hbreaks (hexclusive h), fun h => ⟨hstatus, hcontent, h.cases⟩⟩
  · exact ⟨⟨fun _ => ⟨hreads, hcarried⟩, fun _ => henvelope⟩, fun h => absurd h hreads,
      fun h => absurd h hcarried⟩

/-- Anna asks for a post by a word in the place of its id. -/
def annaAsks (token : String) : Arrival := .bearing token "GET" "/api/v1/posts/x" ""

/-- What Anna asks for is a post. -/
theorem find_annaAsks (token : String) :
    Endpoint.find (annaAsks token).incoming = .endpoint .getPost (some ("id", "x")) :=
  show Endpoint.findIn "GET" (Path.segments "/api/v1/posts/x") Endpoint.routes = _ by decide

/-- The id in her path is no number. -/
theorem misreads_annaAsks {config : Config} {token : String} {caller : Caller}
    (hcaller : ((annaAsks token).exchange config (some ("id", "x"))).caller = .ok caller) :
    ((annaAsks token).exchange config (some ("id", "x"))).Misreads .getPost := by
  have hid (x : Exchange) (h : x.id? = some ("id", "x")) : (x.fault? .id).isSome = true := by
    have hfault : Bounds.i64.read "x" = .error .invalidDigit := by decide
    rcases hread : Path.readId "id" "x" with fault | id
    · unfold Exchange.fault? Exchange.id
      rw [h]
      simp only [hread]
      rfl
    · rw [Path.readId_eq_ok_iff (by decide), hfault] at hread
      cases hread
  exact Exchange.misreads_of_caller rfl hcaller (hid _ rfl) rfl

/-- Anna is told in plain text that her request is malformed. -/
theorem in_plain_text_annaAsks :
    let reply := ({} : Database).reply (.blockingAt 3) (annaAsks annasToken)
    reply.status = 400 ∧ (∃ message, reply.content = .plain message) ∧ ¬reply.InEnvelope := by
  -- What makes the reply is said of every token, so that hers is not read more than once.
  have hreply (token : String) (caller : Caller)
      (hcaller : ((annaAsks token).exchange (.blockingAt 3) (some ("id", "x"))).caller = .ok caller) :
      let reply := ({} : Database).reply (.blockingAt 3) (annaAsks token)
      reply.status = 400 ∧ (∃ message, reply.content = .plain message) ∧ ¬reply.InEnvelope := by
    intro reply
    have hapi : Endpoint.getPost ≠ .health := by decide
    obtain ⟨full, ⟨hstatus, hcontent⟩, -, hmisreads, -⟩ :=
      in_envelope_iff (.blockingAt 3) {} (annaAsks token) (find_annaAsks token) hapi
    have hmethod : (annaAsks token).incoming.method ≠ "HEAD" := show "GET" ≠ "HEAD" by decide
    rw [if_neg hmethod] at hcontent
    obtain ⟨hbad, message, hplain⟩ := hmisreads (misreads_annaAsks hcaller)
    have htext : reply.content = .plain message := hcontent.trans hplain
    exact ⟨hstatus.trans hbad, ⟨message, htext⟩, Reply.not_inEnvelope_of_plain htext⟩
  exact hreply annasToken ⟨1, false⟩ (caller_annas rfl)

end Database

end Fostering
