import Fostering.Proofs.Codec.Utf8
import Fostering.Proofs.Endpoints
import Fostering.Proofs.Runs

/-!
# What clients are told

The outer layers of the service add headers to a reply and leave its status alone. So the status that
a client gets is that of what came of the endpoint: of the fault in the request (`serve_of_error`), or
of the action (`serve_of_ok`). A part of a request that cannot be read is the client's fault (`Faults`).
-/

namespace Fostering

/-- No cause has the status of a success. -/
theorem Error.le_status (cause : Error) : 400 ≤ cause.status := by
  cases cause with
  | notFound => exact show 400 ≤ 404 by decide
  | validation => exact show 400 ≤ 400 by decide
  | conflict => exact show 400 ≤ 409 by decide
  | unauthorized => exact show 400 ≤ 401 by decide
  | forbidden => exact show 400 ≤ 403 by decide
  | internal => exact show 400 ≤ 500 by decide

/-! ## Routes -/

/-- Bytes without a percent sign stand for themselves. -/
theorem Query.unescape_of_notMem {bytes : Bytes} (h : 0x25 ∉ bytes) : unescape bytes = bytes := by
  induction bytes with
  | nil => rw [unescape]
  | cons b bytes ih =>
      rw [List.mem_cons, not_or] at h
      rw [unescape.eq_def]
      exact (if_neg (Ne.symm h.1)).trans (congrArg (List.cons b) (ih h.2))

namespace Path

/-- A segment without a percent sign is read as what it writes. -/
theorem readId_eq_ok_iff {name text : String} (h : 0x25 ∉ Utf8.encode text) {id : Int} :
    readId name text = .ok id ↔ Bounds.i64.read text = .ok id := by
  unfold readId
  rw [Query.unescape_of_notMem h, Utf8.decode?_encode]
  rcases hread : Bounds.i64.read text with fault | n
  · simp only [hread, reduceCtorEq]
  · simp only [hread, Except.ok.injEq]

/-- A segment that stands for an id. -/
def Segment.isId : Segment → Bool
  | .word _ => false
  | .id _ => true

/-- A path that matches a pattern with an id has one. -/
theorem isSome_of_match {pattern : List Segment} {path : List String}
    {id? : Option (String × String)} (h : match? pattern path = some id?)
    (hid : pattern.any Segment.isId = true) : id?.isSome = true := by
  induction pattern generalizing path with
  | nil => cases hid
  | cons segment pattern ih =>
      cases path with
      | nil => cases segment <;> cases h
      | cons s path =>
          cases segment with
          | word w =>
              rw [match?] at h
              split_ifs at h
              exact ih h hid
          | id name =>
              rw [match?] at h
              split_ifs at h
              obtain ⟨rest, -, rfl⟩ := Option.map_eq_some_iff.mp h
              rfl

end Path

namespace Endpoint

/-- An endpoint with an id in its path. -/
def hasId (endpoint : Endpoint) : Bool :=
  routes.any fun route =>
    route.pattern.any Path.Segment.isId && route.actions.any fun action => action.2 = endpoint

/-- What is found for a method is one of the actions of the route. -/
theorem Route.mem_of_find {route : Route} {method : String} {endpoint : Endpoint}
    (h : route.find? method = some endpoint) :
    ∃ m : Method, (m, endpoint) ∈ route.actions ∧
      m.name = if method = "HEAD" then "GET" else method := by
  obtain ⟨⟨m, e⟩, hfound, rfl⟩ := Option.map_eq_some_iff.mp h
  have hname := List.find?_some hfound
  exact ⟨m, List.mem_of_find?_eq_some hfound, of_decide_eq_true hname⟩

/-- What is found is an action of a route that the path matches. -/
theorem mem_of_findIn {method : String} {path : List String} {rs : List Route} {endpoint : Endpoint}
    {id? : Option (String × String)} (h : findIn method path rs = .endpoint endpoint id?) :
    ∃ route ∈ rs, Path.match? route.pattern path = some id? ∧ route.find? method = some endpoint := by
  induction rs with
  | nil => cases h
  | cons route rs ih =>
      rw [findIn] at h
      rcases hmatch : Path.match? route.pattern path with _ | id
      · rw [hmatch] at h
        obtain ⟨route', hmem, hrest⟩ := ih h
        exact ⟨route', List.mem_cons_of_mem route hmem, hrest⟩
      · rw [hmatch] at h
        rcases hfind : route.find? method with _ | e
        · rw [hfind] at h
          cases h
        · rw [hfind] at h
          cases h
          exact ⟨route, List.mem_cons_self, hmatch, hfind⟩

/-- Every path of an endpoint with an id has one. -/
theorem isSome_of_find {incoming : Incoming} {endpoint : Endpoint} {id? : Option (String × String)}
    (h : find incoming = .endpoint endpoint id?) (hid : endpoint.hasId = true) :
    id?.isSome = true := by
  have hroutes : ∀ route ∈ routes, ∀ action ∈ route.actions, action.2.hasId = true →
      route.pattern.any Path.Segment.isId = true := by decide
  obtain ⟨route, hroute, hmatch, hfind⟩ := mem_of_findIn h
  obtain ⟨m, haction, -⟩ := Route.mem_of_find hfind
  exact Path.isSome_of_match hmatch (hroutes route hroute _ haction hid)

/-- No endpoint is there for what browsers ask beforehand. -/
theorem isPreflight_of_find {incoming : Incoming} {endpoint : Endpoint}
    {id? : Option (String × String)} (h : find incoming = .endpoint endpoint id?) :
    Cors.isPreflight incoming = false := by
  obtain ⟨route, -, -, hfind⟩ := mem_of_findIn h
  obtain ⟨m, -, hname⟩ := Route.mem_of_find hfind
  refine decide_eq_false fun hoptions => ?_
  rw [hoptions, if_neg (by decide)] at hname
  cases m <;> exact absurd hname (by decide)

/-- What is asked for by `GET` or `HEAD` changes nothing. -/
theorem writes_of_get {incoming : Incoming} {endpoint : Endpoint}
    {id? : Option (String × String)} (hfind : Endpoint.find incoming = .endpoint endpoint id?)
    (hget : incoming.method ∈ ["GET", "HEAD"]) : endpoint.writes = [] := by
  have hroutes : ∀ route ∈ routes, ∀ action ∈ route.actions, action.1 = .get → action.2.writes = [] := by
    decide
  obtain ⟨route, hroute, -, hmethod⟩ := mem_of_findIn hfind
  obtain ⟨m, haction, hname⟩ := Route.mem_of_find hmethod
  have hm : m.name = "GET" := by
    rw [hname]
    rcases List.mem_cons.mp hget with h | h
    · rw [h]
      rfl
    · rw [List.mem_singleton.mp h]
      rfl
  refine hroutes route hroute _ haction ?_
  cases m with
  | get => rfl
  | post | put | patch | delete => exact absurd hm (by decide)

end Endpoint

/-! ## Faults in requests -/

/-- A reply that puts the blame on the client. -/
def Reply.IsFault (reply : Reply) : Prop := 400 ≤ reply.status ∧ reply.status < 500

/-- A reading that fails only through the client. -/
def Faults {α : Type} (m : Except Reply α) : Prop := ∀ reply, m = .error reply → reply.IsFault

/-- A caller who is not let in is told a fault of theirs. -/
theorem isFault_toError (fault : Caller.Fault) :
    (Reply.failure (.refused fault.toError)).IsFault := by
  cases fault with
  | missing | format | token => exact show 400 ≤ 401 ∧ 401 < 500 by decide
  | role => exact show 400 ≤ 403 ∧ 403 < 500 by decide

/-- A body that is not taken has a fault. -/
theorem isFault_of_receive {κ : Type} [Request κ] {body : Bytes} {f : Failure}
    (h : receive κ body = .error f) : (Reply.failure f).IsFault := by
  have hbad (message : String) : (Reply.failure (.badRequest message)).IsFault :=
    show 400 ≤ 400 ∧ 400 < 500 by decide
  have hrule (message : String) : (Reply.failure (.refused (.validation message))).IsFault :=
    show 400 ≤ 400 ∧ 400 < 500 by decide
  unfold receive at h
  by_cases hlong : maxBody < body.length
  · rw [if_pos hlong] at h
    cases h
    exact hbad _
  · rw [if_neg hlong] at h
    rcases hread : Request.read κ body with fault | request
    · rw [hread] at h
      cases h
      exact hbad _
    · rw [hread] at h
      dsimp only [validate] at h
      by_cases hempty : (Request.violations request).isEmpty = true
      · rw [if_pos hempty] at h
        cases h
      · rw [if_neg hempty] at h
        cases h
        exact hrule _

namespace Exchange

variable (x : Exchange)

/-- Whoever is not let in is told so. -/
theorem faults_orFail (m : Except Caller.Fault Caller) :
    Faults (orFail (m.mapError fun fault => .refused fault.toError)) := by
  intro reply h
  rcases m with fault | caller
  · cases h
    exact isFault_toError fault
  · cases h

/-- Who asks is the business of the caller. -/
theorem faults_caller : Faults x.caller := faults_orFail _

theorem faults_moderator : Faults x.moderator := faults_orFail _

/-- A request that cannot be read is a fault of the caller. -/
theorem isFault_malformed (message : String) : (Reply.malformed message).IsFault :=
  show 400 ≤ 400 ∧ 400 < 500 by decide

/-- Where the path has an id, it can only be malformed. -/
theorem malformed_of_id (hid : x.id?.isSome = true) {reply : Reply} (h : x.id = .error reply) :
    ∃ message, reply = .malformed message := by
  obtain ⟨⟨name, text⟩, hsome⟩ := Option.isSome_iff_exists.mp hid
  unfold id at h
  rw [hsome] at h
  dsimp only [Path.readId] at h
  split at h
  · cases h
    exact ⟨_, rfl⟩
  · split at h
    · cases h
    · cases h
      exact ⟨_, rfl⟩

end Exchange

/-! ## Statuses -/

/-- The status for what came of an action. -/
def Action.statusOf : Except Error (Except Breakdown Reply) → Nat
  | .ok (.ok reply) => reply.status
  | .ok (.error _) => 500
  | .error cause => cause.status

namespace App

variable {σ : Type} [Store σ] {config : Config} {random : Bytes} {incoming : Incoming}
  {now : Instant} {s : σ}

omit [Store σ] in
/-- How a reply is sent changes nothing of its status. -/
theorem status_sent (incoming : Incoming) (reply : Reply) : (sent incoming reply).status = reply.status := by
  unfold sent
  split_ifs <;> rfl

omit [Store σ] in
/-- A reply is sent without its content if only its head was asked for. -/
theorem content_sent (incoming : Incoming) (reply : Reply) :
    (sent incoming reply).content = if incoming.method = "HEAD" then .empty else reply.content := by
  unfold sent
  split_ifs <;> rfl

/-- A request for which there is no endpoint does nothing, and nothing goes wrong. -/
theorem serve_of_no_endpoint (h : ∀ endpoint id?, Endpoint.find incoming ≠ .endpoint endpoint id?) :
    (serve config random incoming now s).1.status ∈ [200, 404, 405] ∧
      (serve config random incoming now s).2 = s := by
  unfold serve
  split_ifs
  · refine ⟨?_, rfl⟩
    rw [status_sent]
    unfold preflight
    split
    · exact List.mem_cons_self
    · exact List.mem_cons_self
  · unfold dispatch
    rcases hfind : Endpoint.find incoming with _ | allow | ⟨endpoint, id?⟩
    · refine ⟨?_, rfl⟩
      rw [status_sent]
      exact show 404 ∈ [200, 404, 405] by decide
    · refine ⟨?_, rfl⟩
      rw [status_sent]
      exact show 405 ∈ [200, 404, 405] by decide
    · exact absurd hfind (h endpoint id?)

section

variable {endpoint : Endpoint} {id? : Option (String × String)}

/-- A request for an endpoint is answered by it. -/
theorem dispatch_of_find (hfind : Endpoint.find incoming = .endpoint endpoint id?) :
    dispatch config random incoming now s = react ⟨config, now, random, incoming, id?⟩ endpoint s := by
  unfold dispatch
  rw [hfind]

/-- The outer layers leave the status alone. -/
theorem serve_of_find (hfind : Endpoint.find incoming = .endpoint endpoint id?) :
    (serve config random incoming now s).1.status =
        (match (react ⟨config, now, random, incoming, id?⟩ endpoint s).1 with
          | .ok reply => reply
          | .error _ => brokenOff).status ∧
      (serve config random incoming now s).2 =
        (react ⟨config, now, random, incoming, id?⟩ endpoint s).2 := by
  unfold serve
  rw [Endpoint.isPreflight_of_find hfind, dispatch_of_find hfind]
  exact ⟨status_sent _ _, rfl⟩

/-- The outer layers leave the content alone, but for `HEAD`. -/
theorem content_of_find (hfind : Endpoint.find incoming = .endpoint endpoint id?) :
    (serve config random incoming now s).1.content =
      if incoming.method = "HEAD" then .empty
      else (match (react ⟨config, now, random, incoming, id?⟩ endpoint s).1 with
        | .ok reply => reply
        | .error _ => brokenOff).content := by
  unfold serve
  rw [Endpoint.isPreflight_of_find hfind, dispatch_of_find hfind]
  exact content_sent _ _

/-- A request with a fault is answered with the fault, and does nothing. -/
theorem serve_of_error (hfind : Endpoint.find incoming = .endpoint endpoint id?) {reply : Reply}
    (hplan : (Exchange.plan ⟨config, now, random, incoming, id?⟩ endpoint :
      Except Reply (Action σ)) = .error reply) :
    (serve config random incoming now s).1.status = reply.status ∧
      (serve config random incoming now s).2 = s := by
  have hreact : react ⟨config, now, random, incoming, id?⟩ endpoint s = (.ok reply, s) := by
    unfold react
    rw [hplan]
  rw [(serve_of_find hfind).1, (serve_of_find hfind).2, hreact]
  exact ⟨rfl, rfl⟩

/-- A request without a fault is answered with what came of the action. -/
theorem serve_of_ok (hfind : Endpoint.find incoming = .endpoint endpoint id?) {action : Action σ}
    (hplan : Exchange.plan ⟨config, now, random, incoming, id?⟩ endpoint = .ok action) :
    (serve config random incoming now s).1.status = Action.statusOf (action.exec now s).1 ∧
      (serve config random incoming now s).2 = (action.exec now s).2 := by
  have hreact : react ⟨config, now, random, incoming, id?⟩ endpoint s = run action now s := by
    unfold react
    rw [hplan]
  rw [(serve_of_find hfind).1, (serve_of_find hfind).2, hreact, snd_run]
  unfold run
  rcases action.exec now s with ⟨cause | broken | reply, s'⟩
  · exact ⟨rfl, rfl⟩
  · exact ⟨rfl, rfl⟩
  · exact ⟨rfl, rfl⟩

end

end App

/-- What a client is told. -/
def Database.reply (config : Config) (db : Database) (a : Arrival) : Reply :=
  (App.serve config a.random a.incoming a.now db).1

/-! ## What clients are told -/

/-- A reply to a request as it leaves the service. -/
def Arrival.sends (a : Arrival) (config : Config) (reply : Reply) : Reply :=
  App.sent a.incoming (Cors.annotate config.corsOrigins a.incoming
    (reply.withHeader App.requestIdHeader (App.requestId a.random a.incoming)))

/-- What a client is told whose request is refused. -/
def Arrival.told (a : Arrival) (config : Config) (cause : Error) : Reply :=
  a.sends config (.failure (.refused cause))

/-- An arrival is sent a reply with its status. -/
@[simp] theorem Arrival.status_sends (a : Arrival) (config : Config) (reply : Reply) :
    (a.sends config reply).status = reply.status := App.status_sent _ _

/-- An arrival is told a cause with its status. -/
@[simp] theorem Arrival.status_told (a : Arrival) (config : Config) (cause : Error) :
    (a.told config cause).status = cause.status := a.status_sends config _

namespace Database

variable {config : Config} {db db' : Database} {a : Arrival} {endpoint : Endpoint}
  {id? : Option (String × String)} {action : Action Database}

/-- What comes of a request for which an action was planned. -/
theorem reply_of_run (hfind : Endpoint.find a.incoming = .endpoint endpoint id?)
    (hplan : (Exchange.mk config a.now a.random a.incoming id?).plan endpoint = .ok action) {reply : Reply}
    (hrun : App.run action a.now db = (.ok reply, db')) :
    db.reply config a = a.sends config reply ∧ db.serve config a = db' := by
  have hreact : App.react ⟨config, a.now, a.random, a.incoming, id?⟩ endpoint db = (.ok reply, db') := by
    unfold App.react
    rw [hplan]
    exact hrun
  unfold Database.reply serve App.serve
  rw [Endpoint.isPreflight_of_find hfind, App.dispatch_of_find hfind, hreact]
  exact ⟨rfl, rfl⟩

/-- A request whose action is refused tells the client why. -/
theorem reply_of_refused (hfind : Endpoint.find a.incoming = .endpoint endpoint id?)
    (hplan : (Exchange.mk config a.now a.random a.incoming id?).plan endpoint = .ok action) {cause : Error}
    (hexec : action.exec a.now db = (.error cause, db')) :
    db.reply config a = a.told config cause ∧ db.serve config a = db' := by
  refine reply_of_run hfind hplan ?_
  unfold App.run
  rw [hexec]

/-- A request whose action goes through gets its reply. -/
theorem reply_of_exec (hfind : Endpoint.find a.incoming = .endpoint endpoint id?)
    (hplan : (Exchange.mk config a.now a.random a.incoming id?).plan endpoint = .ok action) {reply : Reply}
    (hexec : action.exec a.now db = (.ok (.ok reply), db')) :
    db.reply config a = a.sends config reply ∧ db.serve config a = db' := by
  refine reply_of_run hfind hplan ?_
  unfold App.run
  rw [hexec]

end Database

end Fostering
