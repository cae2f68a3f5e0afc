import Fostering.Proofs.Database.Integrity
import Fostering.Proofs.Requests.Failures

/-!
# Requests with one fault

A request that passes every check may still clash with a row that is there, or refer to one that is not.
The service finds some of these faults itself and leaves the others to the database; the client is told
the same either way. `Exchange.Falters` is the list of these requests, each with the cause for which it is
refused.

* `Database.reply_of_falters`: the client is told the cause.
* `Database.schema_integrity`: whatever happens to the empty database, it keeps its integrity, ids are
  given away in order, and calls and requests with one fault are refused for it.
-/

namespace Fostering

/-- A reply that tells the cause for which an operation was refused. -/
structure Reply.Refuses (reply : Reply) (cause : Error) : Prop where
  status : reply.status = cause.status
  content : reply.content = .json (Failure.refused cause).body

/-- A request whose operation is refused is told the cause. -/
theorem App.refuses_serve {σ : Type} [Store σ] {config : Config} {random : Bytes} {incoming : Incoming}
    {now : Instant} {s : σ} {endpoint : Endpoint} {id? : Option (String × String)} {action : Action σ}
    {cause : Error} (hfind : Endpoint.find incoming = .endpoint endpoint id?)
    (hmethod : incoming.method ≠ "HEAD")
    (hplan : Exchange.plan ⟨config, now, random, incoming, id?⟩ endpoint = .ok action)
    (hrefused : (action.exec now s).1 = .error cause) :
    (serve config random incoming now s).1.Refuses cause := by
  have hrun : (run action now s).1 = .ok (.failure (.refused cause)) := by
    unfold run
    rcases hexec : action.exec now s with ⟨result, s'⟩
    rw [hexec] at hrefused
    cases hrefused
    rfl
  have hdispatch : dispatch config random incoming now s = run action now s := by
    unfold dispatch react
    rw [hfind]
    dsimp only
    rw [hplan]
  have hsent (reply : Reply) : sent incoming reply = reply.withLength := if_neg hmethod
  unfold serve
  rw [Endpoint.isPreflight_of_find hfind, hdispatch, if_neg Bool.false_ne_true]
  dsimp only
  rw [hrun, hsent]
  exact ⟨rfl, rfl⟩

namespace Exchange

open Database

/-- Requests with one fault, and the cause for which each of them is refused. -/
inductive Falters (x : Exchange) (db : Database) : Endpoint → Error → Prop where
  /-- The call has a fault. -/
  | flawed (endpoint : Endpoint) (call : Store.Call) (cause : Error) (writes : x.Writes db endpoint call)
      (flaw : Flaw x.now db call cause) : Falters x db endpoint cause
  | secondKeeper (caller : Caller) (request : CreateKeeper) (other : Keeper) (asks : x.caller = .ok caller)
      (body : x.body CreateKeeper = .ok request) (mem : other ∈ db.tables.keepers)
      (live : other.entry.isLive = true) (taken : other.userId = caller.userId) :
      Falters x db .createKeeper (.conflict "User already has a keeper profile")
  | secondSeeker (caller : Caller) (request : CreateSeeker) (other : Seeker) (asks : x.caller = .ok caller)
      (body : x.body CreateSeeker = .ok request) (mem : other ∈ db.tables.seekers)
      (live : other.entry.isLive = true) (taken : other.userId = caller.userId) :
      Falters x db .createSeeker (.conflict "User already has a seeker profile")
  | secondVet (caller : Caller) (request : CreateVet) (other : Vet) (asks : x.caller = .ok caller)
      (body : x.body CreateVet = .ok request) (mem : other ∈ db.tables.vets)
      (live : other.entry.isLive = true) (taken : other.userId = caller.userId) :
      Falters x db .createVet (.conflict "User already has a vet profile")
  | reviewOfNobody (caller : Caller) (request : CreateReview) (id : Int) (asks : x.caller = .ok caller)
      (path : x.id = .ok id) (body : x.body CreateReview = .ok request)
      (graded : 1 ≤ request.grade ∧ request.grade ≤ 5)
      (missing : ∀ k ∈ db.tables.keepers, k.entry.id = id → k.entry.isLive = false) :
      Falters x db .createReview (notFound Keeper id)
  | messageToNobody (caller : Caller) (request : SendMessage) (id : Int) (asks : x.caller = .ok caller)
      (path : x.id = .ok id) (body : x.body SendMessage = .ok request)
      (missing : ∀ c ∈ db.tables.chats, c.entry.id = id → c.entry.isLive = false) :
      Falters x db .sendMessage (noSuchChat id)

variable {x : Exchange} {db : Database} {endpoint : Endpoint} {cause : Error}

/-- **A request with one fault is refused for it.** -/
theorem Falters.refused (h : x.Falters db endpoint cause) (hsound : Sound db.tables)
    (hcounted : Counted db) :
    ∃ action : Action Database, x.plan endpoint = .ok action ∧ (action.exec x.now db).1 = .error cause := by
  cases h with
  | flawed endpoint call cause writes flaw =>
      exact (writes.comesTo hsound.nodup_ids).refused (flaw.refused hsound hcounted)
  | secondKeeper caller request other asks body mem live taken =>
      have hcomes : x.ComesTo db (Profiles.create (request.toKeeper caller.userId)) (x.plan .createKeeper) :=
        .reading asks (.reading body (comesTo_shows rfl (by decide) _))
      have hsecond := Profiles.exec_create_of_second Profiles.stored_keepers (request.toKeeper caller.userId)
        mem live taken x.now
      exact hcomes.refused (congrArg Prod.fst hsecond)
  | secondSeeker caller request other asks body mem live taken =>
      have hcomes : x.ComesTo db (Profiles.create (request.toSeeker caller.userId)) (x.plan .createSeeker) :=
        .reading asks (.reading body (comesTo_shows rfl (by decide) _))
      have hsecond := Profiles.exec_create_of_second Profiles.stored_seekers (request.toSeeker caller.userId)
        mem live taken x.now
      exact hcomes.refused (congrArg Prod.fst hsecond)
  | secondVet caller request other asks body mem live taken =>
      have hcomes : x.ComesTo db (Profiles.create (request.toVet caller.userId)) (x.plan .createVet) :=
        .reading asks (.reading body (comesTo_shows rfl (by decide) _))
      have hsecond := Profiles.exec_create_of_second Profiles.stored_vets (request.toVet caller.userId)
        mem live taken x.now
      exact hcomes.refused (congrArg Prod.fst hsecond)
  | reviewOfNobody caller request id asks path body graded missing =>
      have hcomes : x.ComesTo db (Reviews.create caller.userId id request) (x.plan .createReview) :=
        .reading asks (.reading path (.reading body (comesTo_shows rfl (by decide) _)))
      have hnobody := Reviews.exec_create_of_dead graded missing caller.userId x.now
      exact hcomes.refused (congrArg Prod.fst hnobody)
  | messageToNobody caller request id asks path body missing =>
      have hcomes : x.ComesTo db (Messages.send caller.userId id request) (x.plan .sendMessage) :=
        .reading asks (.reading path (.reading body (comesTo_shows rfl (by decide) _)))
      have hnone := Chats.exec_findAsMember_of_dead missing caller.userId x.now
      exact hcomes.refused (congrArg Prod.fst (Op.exec_bind_error hnone))

/-- A request that makes a call is for an endpoint that writes rows. -/
theorem Writes.writes_ne_nil {call : Store.Call} (h : x.Writes db endpoint call) : endpoint.writes ≠ [] := by
  cases h with
  | onBoard endpoint call h => cases h <;> exact List.cons_ne_nil _ _
  | _ => exact List.cons_ne_nil _ _

/-- Only requests that write rows falter. -/
theorem Falters.writes_ne_nil (h : x.Falters db endpoint cause) : endpoint.writes ≠ [] := by
  cases h with
  | flawed endpoint call cause writes flaw => exact writes.writes_ne_nil
  | _ => exact List.cons_ne_nil _ _

end Exchange

namespace Database

/-- **The client is told the one fault of a request.** -/
theorem reply_of_falters {config : Config} {db : Database} {a : Arrival} {endpoint : Endpoint}
    {id? : Option (String × String)} {cause : Error}
    (hfind : Endpoint.find a.incoming = .endpoint endpoint id?)
    (h : (a.exchange config id?).Falters db endpoint cause) (hsound : Sound db.tables)
    (hcounted : Counted db) : (db.reply config a).Refuses cause := by
  have hmethod : a.incoming.method ≠ "HEAD" := by
    intro hhead
    refine h.writes_ne_nil (Endpoint.writes_of_get hfind ?_)
    rw [hhead]
    exact List.mem_cons_of_mem _ List.mem_cons_self
  obtain ⟨action, hplan, hrefused⟩ := h.refused hsound hcounted
  exact App.refuses_serve hfind hmethod hplan hrefused

/-- **Whatever happens to the empty database, it keeps its integrity, and ids are given away in order,
each once, whether or not the row for which one was meant is refused. A call or a request with one fault
is refused for it.** -/
theorem schema_integrity (events : List Event) :
    HasIntegrity (after events) ∧
      (∀ events', Advances (after events) (after (events ++ events'))) ∧
      (∀ name call now, Draws (after events) name call →
        UsesUp (call.perform : Op Database call.Result) now (after events) name) ∧
      (∀ name call now cause, Misfit now (after events) name call cause →
        Wastes (call.perform : Op Database call.Result) now (after events) name cause) ∧
      (∀ call now cause, Flaw now (after events) call cause →
        ((call.perform : Op Database call.Result).exec now (after events)).1 = .error cause) ∧
      ∀ config a endpoint id? cause, Endpoint.find a.incoming = .endpoint endpoint id? →
        (a.exchange config id?).Falters (after events) endpoint cause →
        ((after events).reply config a).Refuses cause := by
  have hsound := isSound_after events
  have hcounted : Counted (after events) := ids_le_lastId events
  refine ⟨hasIntegrity_after events, advances_append events, ?_, ?_, ?_, ?_⟩
  · exact fun name call now h => h.usesUp hsound now
  · exact fun name call now cause h => h.wastes hsound hcounted
  · exact fun call now cause h => h.refused hsound hcounted
  · exact fun config a endpoint id? cause hfind h => reply_of_falters hfind h hsound hcounted

/-- A second Anna wants the name and the mail address of the first one, and is told of the name. -/
theorem second_anna_is_refused :
    HasIntegrity (after kitten) ∧
      ((after kitten).reply (.blockingAt 3) (annaRegisters "")).Refuses
        (.conflict "Username is already taken") := by
  let x : Exchange := (annaRegisters "").exchange (.blockingAt 3) none
  let hash : String := Password.hash (x.random.take Password.saltLength) annasRequest.password
  have hstorable : Schema.isStorable (draft (HasEntry.modifyEntry (·.stamped ⟨60, 0⟩)
      (annasRequest.toUser hash))) = true :=
    isStorable_newcomer (by decide) (by decide) (Password.isStorableText_hash _ _) _
  have hmem : ({ entry := { id := 1 }, username := "anna", email := "anna@example.org" } : User) ∈
      (after kitten).tables.users := by decide +kernel
  have hmisfit : Misfit ⟨60, 0⟩ (after kitten) .users _ (.conflict "Username is already taken") :=
    .username _ _ hstorable hmem rfl
  have hfalters : x.Falters (after kitten) .register (.conflict "Username is already taken") :=
    .flawed _ _ _ (.register annasRequest (body_annaRegisters _ "")) (.misfit _ _ _ hmisfit)
  obtain ⟨hintegrity, -, -, -, -, hrequests⟩ := schema_integrity kitten
  exact ⟨hintegrity, hrequests _ _ _ none _ (find_annaRegisters "") hfalters⟩

end Database

end Fostering
