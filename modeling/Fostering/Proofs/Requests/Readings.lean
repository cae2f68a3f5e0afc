import Fostering.Proofs.Requests.Replies

/-!
# What the endpoints read of a request

Before it does anything an endpoint reads certain parts of its request, one after another
(`Endpoint.readings`). The first part that has a fault is the reply, and nothing happens; if there is no
fault, the endpoint acts on the store and responds with what came of it (`Exchange.Responds`).

* `Exchange.plan_reads`: what an endpoint plans, or the fault that it finds.
* `Exchange.faults_plan`: the fault is the client's. The one part that a request may lack for another reason
  is the id in its path, and the table of the routes has one wherever an endpoint asks for it.
-/

namespace Fostering

/-- The fault of what came to nothing. -/
def faultOf? {ε α : Type} : Except ε α → Option ε
  | .ok _ => none
  | .error fault => some fault

/-- The fault of a reading is the reason why it came to nothing. -/
theorem eq_error_of_faultOf? {ε α : Type} {m : Except ε α} {fault : ε} (h : faultOf? m = some fault) :
    m = .error fault := by
  cases m with
  | error _ => exact congrArg Except.error (Option.some.inj h)
  | ok _ => cases h

/-- The first fault of two steps is that of the first one, if it has any. -/
theorem faultOf?_bind {ε α β : Type} (m : Except ε α) (f : α → Except ε β) {rest : Option ε}
    (h : ∀ a, m = .ok a → faultOf? (f a) = rest) : faultOf? (m >>= f) = (faultOf? m).or rest := by
  cases m with
  | error fault => rfl
  | ok a => exact h a rfl

/-- A part of a request. -/
inductive Reading where
  /-- Who is asking. -/
  | caller
  /-- The moderator who is asking. -/
  | moderator
  /-- The id in the path. -/
  | id
  /-- Some fields of the query. -/
  | query (fields : List (String × Query.Kind))
  /-- The body. -/
  | body (fault? : Bytes → Option Failure)

namespace Reading

/-- A request of a certain shape in the body. -/
def bodyOf (κ : Type) [Request κ] : Reading := .body fun bytes => faultOf? (receive κ bytes)

/-- Whether a part is a parameter in the path or in the query. -/
def isParameter : Reading → Bool
  | id | query _ => true
  | caller | moderator | body _ => false

/-- Whether a part is the id in the path. -/
def isPathId : Reading → Bool
  | id => true
  | _ => false

/-- The page and the order of a list. -/
def listParams : Reading := .query [("limit", .whole), ("offset", .whole), ("sort", .text)]

/-- The page of a list that has one order. -/
def page : Reading := .query [("limit", .whole), ("offset", .whole)]

/-- What a list of profiles of a user's city and more is narrowed by. -/
def filter (fields : List (String × Query.Kind)) : Reading := .query (("city", .text) :: fields)

end Reading

open Reading (bodyOf listParams page filter)

/-- What an endpoint reads, in this order. -/
def Endpoint.readings : Endpoint → List Reading
  | health => []
  | register => [bodyOf RegisterUser]
  | login => [bodyOf LoginRequest]
  | refresh => [bodyOf RefreshRequest]
  | logout => [.caller, bodyOf LogoutRequest]
  | listUsers => [.caller, listParams, filter []]
  | listKeepers => [.caller, listParams, filter [("has_cage", .flag), ("min_rating", .real)]]
  | listSeekers => [.caller, listParams, filter [("animal_type", .text)]]
  | listVets => [.caller, listParams, filter [("specialization", .text)]]
  | listPosts =>
    [.caller, listParams, .query [("author_id", .whole), ("status", .text), ("city", .text),
      ("animal_type", .text)]]
  | listReviews | listMessages => [.caller, .id, listParams]
  | getUser | deleteUser | listRoles | getKeeper | deleteKeeper | getReview | deleteReview | getSeeker
  | deleteSeeker | getVet | deleteVet | getPost | deletePost | addFavourite | removeFavourite | getChat
  | leaveChat | deleteMessage => [.caller, .id]
  | updateUser => [.caller, .id, bodyOf UpdateUser]
  | createKeeper => [.caller, bodyOf CreateKeeper]
  | updateKeeper => [.caller, .id, bodyOf UpdateKeeper]
  | createReview => [.caller, .id, bodyOf CreateReview]
  | updateReview => [.caller, .id, bodyOf UpdateReview]
  | createSeeker => [.caller, bodyOf CreateSeeker]
  | updateSeeker => [.caller, .id, bodyOf UpdateSeeker]
  | createVet => [.caller, bodyOf CreateVet]
  | updateVet => [.caller, .id, bodyOf UpdateVet]
  | createPost => [.caller, bodyOf CreatePost]
  | updatePost => [.caller, .id, bodyOf UpdatePost]
  | createReport => [.caller, .id, bodyOf CreateReport]
  | createChat => [.caller, bodyOf CreateChat]
  | sendMessage => [.caller, .id, bodyOf SendMessage]
  | updateMessage => [.caller, .id, bodyOf UpdateMessage]
  | moderationQueue => [.moderator, page]
  | listReports | approvePost | blockPost => [.moderator, .id]
  | listFavourites | listChats => [.caller, page]

/-- A body is read as a request of some shape. -/
theorem Endpoint.bodyOf_of_reads (endpoint : Endpoint) {check : Bytes → Option Failure}
    (hmem : .body check ∈ endpoint.readings) : ∃ (κ : Type) (_ : Request κ), .body check = bodyOf κ := by
  cases endpoint <;> simp [readings, listParams, page, filter] at hmem <;> exact ⟨_, _, hmem⟩

/-- An endpoint that reads an id has one in its path. -/
theorem Endpoint.hasId_of_reads (endpoint : Endpoint) {part : Reading} (hmem : part ∈ endpoint.readings)
    (hpart : part.isPathId = true) : endpoint.hasId = true := by
  have hany : endpoint.readings.any Reading.isPathId = true := List.any_eq_true.mpr ⟨part, hmem, hpart⟩
  cases endpoint <;> first | rfl | cases hany

namespace Exchange

variable (x : Exchange)

/-- The reply to a fault in a part of a request, if there is one. -/
def fault? : Reading → Option Reply
  | .caller => faultOf? x.caller
  | .moderator => faultOf? x.moderator
  | .id => faultOf? x.id
  | .query fields => (faultOf? (Query.read fields x.incoming.query)).map .malformed
  | .body check => (check x.incoming.body).map .failure

variable {σ : Type} [Store σ]

/-- What endpoints do: they show what came of an operation, or only that it was carried out. Two of them
give tokens, and one tells the state of the service. -/
inductive Responds (x : Exchange) : Endpoint → Action σ → Prop where
  | shows {α : Type} {endpoint : Endpoint} (status : Nat) (hstatus : status = 200 ∨ status = 201)
      (view : α → Json) (op : Op σ α) : Responds x endpoint (.shows status view op)
  | silent {endpoint : Endpoint} (op : Op σ Unit) : Responds x endpoint (.silent op)
  | login (request : LoginRequest) (body : x.body LoginRequest = .ok request) :
      Responds x .login (.showsTokens (Logins.login x.config.token x.random request))
  | refresh (request : RefreshRequest) (body : x.body RefreshRequest = .ok request) :
      Responds x .refresh (.showsTokens (Logins.refresh x.config.token x.random request))
  | health : Responds x .health health

/-- A plan that comes of certain readings: it has the first fault of them, and otherwise a property. -/
structure Reads {β : Type} (readings : List Reading) (Q : β → Prop) (plan : Except Reply β) :
    Prop where
  fault : faultOf? plan = readings.findSome? x.fault?
  planned : Plans Q plan

namespace Reads

variable {x} {β γ : Type} {Q : γ → Prop}

/-- A request of which nothing has to be read is answered at once. -/
theorem ok {c : γ} (h : Q c) : x.Reads [] Q (.ok c) := ⟨rfl, .ok h⟩

/-- Reading one more part of a request. -/
theorem reading {r : Reading} {readings : List Reading} {m : Except Reply β} {f : β → Except Reply γ}
    (hm : faultOf? m = x.fault? r) (hf : ∀ b, m = .ok b → x.Reads readings Q (f b)) :
    x.Reads (r :: readings) Q (m >>= f) where
  fault := by
    rw [faultOf?_bind m f fun b hb => (hf b hb).fault, hm, List.findSome?_cons]
    cases x.fault? r <;> rfl
  planned := .reading fun b hb => (hf b hb).planned

/-- Next it is read who asks. -/
theorem caller {readings : List Reading} {f : Caller → Except Reply γ}
    (hf : ∀ caller, x.Reads readings Q (f caller)) : x.Reads (.caller :: readings) Q (x.caller >>= f) :=
  reading rfl fun caller _ => hf caller

/-- Next it is read who asks, who has to be a moderator. -/
theorem moderator {readings : List Reading} {f : Caller → Except Reply γ}
    (hf : ∀ caller, x.Reads readings Q (f caller)) :
    x.Reads (.moderator :: readings) Q (x.moderator >>= f) :=
  reading rfl fun caller _ => hf caller

/-- Next the id in the path is read. -/
theorem id {readings : List Reading} {f : Int → Except Reply γ}
    (hf : ∀ id, x.Reads readings Q (f id)) : x.Reads (.id :: readings) Q (x.id >>= f) :=
  reading rfl fun id _ => hf id

/-- What is made of the fields of a query has no fault of its own. -/
theorem fault_query {α : Type} (fields : List (String × Query.Kind))
    (make : List (String × String) → α) :
    faultOf? (x.query fun query => do return make (← Query.read fields query)) =
      x.fault? (.query fields) := by
  unfold Exchange.query Exchange.fault?
  dsimp only
  rcases Query.read fields x.incoming.query with fault | found <;> rfl

/-- Next the query is read, of which something is made. -/
theorem query {α : Type} {fields : List (String × Query.Kind)} {make : List (String × String) → α}
    {readings : List Reading} {f : α → Except Reply γ} (hf : ∀ a, x.Reads readings Q (f a)) :
    x.Reads (.query fields :: readings) Q
      (x.query (fun query => do return make (← Query.read fields query)) >>= f) :=
  reading (fault_query fields make) fun a _ => hf a

/-- Next the page in the query is read. -/
theorem page {readings : List Reading} {f : Page → Except Reply γ}
    (hf : ∀ page, x.Reads readings Q (f page)) : x.Reads (Reading.page :: readings) Q (x.page >>= f) := by
  refine reading ?_ fun page _ => hf page
  have hpage : faultOf? x.page = (faultOf? (x.query Query.pageParams)).or none :=
    faultOf?_bind _ _ fun _ _ => rfl
  rw [hpage, Option.or_none]
  exact fault_query _ _

/-- Next the body is read. -/
theorem body {κ : Type} [Request κ] {readings : List Reading} {f : κ → Except Reply γ}
    (hf : ∀ request, x.body κ = .ok request → x.Reads readings Q (f request)) :
    x.Reads (bodyOf κ :: readings) Q (x.body κ >>= f) := by
  refine reading ?_ hf
  unfold Exchange.body Exchange.fault? bodyOf
  dsimp only
  rcases receive κ x.incoming.body with fault | request <;> rfl

end Reads

section

variable {ρ φ : Type} [Profile ρ] [Store.Profiles σ ρ φ] {endpoint : Endpoint} (view : ρ → Json)

/-- What is read of a request to list profiles. -/
theorem listProfiles_reads (fields : List (String × Query.Kind)) (make : List (String × String) → φ) :
    x.Reads [.caller, listParams, .query fields] (x.Responds endpoint)
      (x.listProfiles ρ view fun query => do return make (← Query.read fields query) :
        Except Reply (Action σ)) :=
  .caller fun _ => .query fun _ => .query fun _ => .ok (.shows 200 (.inl rfl) _ _)

/-- What is read of a request to make a profile. -/
theorem createProfile_reads (κ : Type) [Request κ] (make : κ → Int → ρ) :
    x.Reads [.caller, bodyOf κ] (x.Responds endpoint)
      (x.createProfile ρ view κ make : Except Reply (Action σ)) :=
  .caller fun _ => .body fun _ _ => .ok (.shows 201 (.inr rfl) _ _)

omit [Profile ρ] in
/-- What is read of a request to show a profile. -/
theorem getProfile_reads :
    x.Reads [.caller, .id] (x.Responds endpoint) (x.getProfile ρ view : Except Reply (Action σ)) :=
  .caller fun _ => .id fun _ => .ok (.shows 200 (.inl rfl) _ _)

/-- What is read of a request to change a profile. -/
theorem updateProfile_reads (κ : Type) [Request κ] (apply : κ → ρ → ρ) :
    x.Reads [.caller, .id, bodyOf κ] (x.Responds endpoint)
      (x.updateProfile ρ view κ apply : Except Reply (Action σ)) :=
  .caller fun _ => .id fun _ => .body fun _ _ => .ok (.shows 200 (.inl rfl) _ _)

/-- What is read of a request to delete a profile. -/
theorem deleteProfile_reads :
    x.Reads [.caller, .id] (x.Responds endpoint) (x.deleteProfile ρ : Except Reply (Action σ)) :=
  .caller fun _ => .id fun _ => .ok (.silent _)

end

/-- **What an endpoint plans is the reply to the first fault of its readings, or one of its responses.** -/
theorem plan_reads (endpoint : Endpoint) :
    x.Reads endpoint.readings (x.Responds endpoint) (x.plan endpoint : Except Reply (Action σ)) := by
  cases endpoint with
  | health => exact .ok .health
  | register => exact .body fun _ _ => .ok (.shows 201 (.inr rfl) _ _)
  | login => exact .body fun request hbody => .ok (.login request hbody)
  | refresh => exact .body fun request hbody => .ok (.refresh request hbody)
  | logout => exact .caller fun _ => .body fun _ _ => .ok (.silent _)
  | listUsers => exact .caller fun _ => .query fun _ => .query fun _ => .ok (.shows 200 (.inl rfl) _ _)
  | getUser => exact .caller fun _ => .id fun _ => .ok (.shows 200 (.inl rfl) _ _)
  | updateUser => exact .caller fun _ => .id fun _ => .body fun _ _ => .ok (.shows 200 (.inl rfl) _ _)
  | deleteUser => exact .caller fun _ => .id fun _ => .ok (.silent _)
  | listRoles => exact .caller fun _ => .id fun _ => .ok (.shows 200 (.inl rfl) _ _)
  | listKeepers => exact x.listProfiles_reads _ _ _
  | createKeeper => exact x.createProfile_reads _ _ _
  | getKeeper => exact x.getProfile_reads _
  | updateKeeper => exact x.updateProfile_reads _ _ _
  | deleteKeeper => exact x.deleteProfile_reads
  | listReviews => exact .caller fun _ => .id fun _ => .query fun _ => .ok (.shows 200 (.inl rfl) _ _)
  | createReview => exact .caller fun _ => .id fun _ => .body fun _ _ => .ok (.shows 201 (.inr rfl) _ _)
  | getReview => exact .caller fun _ => .id fun _ => .ok (.shows 200 (.inl rfl) _ _)
  | updateReview => exact .caller fun _ => .id fun _ => .body fun _ _ => .ok (.shows 200 (.inl rfl) _ _)
  | deleteReview => exact .caller fun _ => .id fun _ => .ok (.silent _)
  | listSeekers => exact x.listProfiles_reads _ _ _
  | createSeeker => exact x.createProfile_reads _ _ _
  | getSeeker => exact x.getProfile_reads _
  | updateSeeker => exact x.updateProfile_reads _ _ _
  | deleteSeeker => exact x.deleteProfile_reads
  | listVets => exact x.listProfiles_reads _ _ _
  | createVet => exact x.createProfile_reads _ _ _
  | getVet => exact x.getProfile_reads _
  | updateVet => exact x.updateProfile_reads _ _ _
  | deleteVet => exact x.deleteProfile_reads
  | listPosts => exact .caller fun _ => .query fun _ => .query fun _ => .ok (.shows 200 (.inl rfl) _ _)
  | createPost => exact .caller fun _ => .body fun _ _ => .ok (.shows 201 (.inr rfl) _ _)
  | getPost => exact .caller fun _ => .id fun _ => .ok (.shows 200 (.inl rfl) _ _)
  | updatePost => exact .caller fun _ => .id fun _ => .body fun _ _ => .ok (.shows 200 (.inl rfl) _ _)
  | deletePost => exact .caller fun _ => .id fun _ => .ok (.silent _)
  | listReports => exact .moderator fun _ => .id fun _ => .ok (.shows 200 (.inl rfl) _ _)
  | createReport => exact .caller fun _ => .id fun _ => .body fun _ _ => .ok (.shows 201 (.inr rfl) _ _)
  | moderationQueue => exact .moderator fun _ => .page fun _ => .ok (.shows 200 (.inl rfl) _ _)
  | approvePost => exact .moderator fun _ => .id fun _ => .ok (.shows 200 (.inl rfl) _ _)
  | blockPost => exact .moderator fun _ => .id fun _ => .ok (.shows 200 (.inl rfl) _ _)
  | listFavourites => exact .caller fun _ => .page fun _ => .ok (.shows 200 (.inl rfl) _ _)
  | addFavourite => exact .caller fun _ => .id fun _ => .ok (.shows 200 (.inl rfl) _ _)
  | removeFavourite => exact .caller fun _ => .id fun _ => .ok (.silent _)
  | listChats => exact .caller fun _ => .page fun _ => .ok (.shows 200 (.inl rfl) _ _)
  | createChat => exact .caller fun _ => .body fun _ _ => .ok (.shows 201 (.inr rfl) _ _)
  | getChat => exact .caller fun _ => .id fun _ => .ok (.shows 200 (.inl rfl) _ _)
  | leaveChat => exact .caller fun _ => .id fun _ => .ok (.silent _)
  | listMessages => exact .caller fun _ => .id fun _ => .query fun _ => .ok (.shows 200 (.inl rfl) _ _)
  | sendMessage => exact .caller fun _ => .id fun _ => .body fun _ _ => .ok (.shows 201 (.inr rfl) _ _)
  | updateMessage => exact .caller fun _ => .id fun _ => .body fun _ _ => .ok (.shows 200 (.inl rfl) _ _)
  | deleteMessage => exact .caller fun _ => .id fun _ => .ok (.silent _)

/-! ## Faults of readings -/

variable {x}

/-- A part that cannot be read is the client's fault. -/
theorem isFault_of_fault? {endpoint : Endpoint} {part : Reading} (hmem : part ∈ endpoint.readings)
    (hid : endpoint.hasId = true → x.id?.isSome = true) {reply : Reply} (h : x.fault? part = some reply) :
    reply.IsFault := by
  cases part with
  | caller => exact x.faults_caller reply (eq_error_of_faultOf? h)
  | moderator => exact x.faults_moderator reply (eq_error_of_faultOf? h)
  | id =>
      have hpath : x.id?.isSome = true := hid (endpoint.hasId_of_reads hmem rfl)
      obtain ⟨message, rfl⟩ := x.malformed_of_id hpath (eq_error_of_faultOf? h)
      exact isFault_malformed message
  | query fields =>
      obtain ⟨message, -, rfl⟩ := Option.map_eq_some_iff.mp h
      exact isFault_malformed message
  | body check =>
      obtain ⟨κ, _, hshape⟩ := endpoint.bodyOf_of_reads hmem
      obtain ⟨f, hf, rfl⟩ := Option.map_eq_some_iff.mp h
      cases hshape
      exact isFault_of_receive (eq_error_of_faultOf? hf)

variable (x) in
/-- **A request that cannot be read is the client's fault.** -/
theorem faults_plan {σ : Type} [Store σ] (endpoint : Endpoint)
    (hid : endpoint.hasId = true → x.id?.isSome = true) :
    Faults (x.plan endpoint : Except Reply (Action σ)) := by
  intro reply hplan
  have hfirst : endpoint.readings.findSome? x.fault? = some reply := by
    rw [← (x.plan_reads (σ := σ) endpoint).fault, hplan]
    rfl
  obtain ⟨part, hmem, hfault⟩ := List.exists_of_findSome?_eq_some hfirst
  exact isFault_of_fault? hmem hid hfault

end Exchange

end Fostering
