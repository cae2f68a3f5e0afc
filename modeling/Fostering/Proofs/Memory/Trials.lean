import Fostering.Proofs.Memory.Messages
import Fostering.Proofs.Memory.Posts
import Fostering.Proofs.Memory.Reports

/-!
# Trials of the service

Whoever tries the rules of the service out with the store in memory wants to know what the database would
have answered. In a trial (`Joint`) both stores start with the same live users, and then the same calls about
posts, reports, chats and messages are made on both. Each store gives its rows ids of its own, so a call names
what it is about by a pair of ids: those that an earlier call gave, or an id that neither store has given.

* `Call.couples`: what one call does to stores that are in step.
* `simulates_of_joint`: the stores are in step after any number of calls.
* `answersAlike_of_joint`: whatever is asked next, both stores answer the same.
-/

namespace Fostering.Trial

/-! ## Calls and answers -/

/-- What is asked of the service. Posts, chats and messages go by names of type `ι`. -/
inductive Call (ι : Type) where
  | createPost (actor : Int) (request : CreatePost)
  | getPost (viewer : Viewer) (post : ι)
  | listPosts (viewer : Viewer) (filter : PostFilter) (sort : Option String) (defaults : DefaultOrder)
  | updatePost (actor : Int) (post : ι) (request : UpdatePost)
  | deletePost (actor : Int) (post : ι)
  | fileReport (actor : Int) (post : ι) (request : CreateReport) (threshold : Int)
  | listReports (post : ι)
  | createChat (actor : Int) (request : CreateChat)
  | getChat (actor : Int) (chat : ι)
  | listChats (actor : Int)
  | leaveChat (actor : Int) (chat : ι)
  | sendMessage (actor : Int) (chat : ι) (request : SendMessage)
  | listMessages (actor : Int) (chat : ι) (sort : Option String) (defaults : DefaultOrder)
  | updateMessage (actor : Int) (message : ι) (request : UpdateMessage)
  | deleteMessage (actor : Int) (message : ι)

/-- What the service answers. -/
inductive Answer where
  | done
  | post (post : Post)
  | posts (posts : List Post)
  | receipt (receipt : ReportReceipt)
  | reports (reports : List Report)
  | chat (chat : ChatWithMembers)
  | chats (chats : List ChatWithMembers)
  | message (message : Message)
  | messages (messages : List Message)

namespace Answer

/-- What a page shows of an answer. Only lists that are asked for by the page are cut. -/
def onPage (page : Page) : Answer → Answer
  | posts ps => posts (page.slice ps)
  | chats cs => chats (page.slice cs)
  | messages ms => messages (page.slice ms)
  | answer => answer

/-- The id of the one record in an answer, if there is one. -/
def id : Answer → Int
  | post p => p.entry.id
  | receipt r => r.report.id
  | chat c => c.chat.entry.id
  | message m => m.entry.id
  | _ => 0

/-- The same records, whatever the order of lists. -/
inductive Alike (names : Names) : Answer → Answer → Prop where
  | done : Alike names done done
  | post {p p' : Post} (same : p.Alike names p') : Alike names (post p) (post p')
  | posts {ps ps' : List Post} (same : ListsAlike (Post.Alike names) ps ps') :
      Alike names (posts ps) (posts ps')
  | receipt {r r' : ReportReceipt} (same : r.Alike names r') : Alike names (receipt r) (receipt r')
  | reports {rs rs' : List Report} (same : ListsAlike (Report.Alike names) rs rs') :
      Alike names (reports rs) (reports rs')
  | chat {c c' : ChatWithMembers} (same : c.Alike names c') : Alike names (chat c) (chat c')
  | chats {cs cs' : List ChatWithMembers} (same : ListsAlike (ChatWithMembers.Alike names) cs cs') :
      Alike names (chats cs) (chats cs')
  | message {m m' : Message} (same : m.Alike names m') : Alike names (message m) (message m')
  | messages {ms ms' : List Message} (same : ListsAlike (Message.Alike names) ms ms') :
      Alike names (messages ms) (messages ms')

/-- To show a page of an answer leaves the id that it tells. -/
@[simp] theorem id_onPage (page : Page) (answer : Answer) : (answer.onPage page).id = answer.id := by
  cases answer <;> rfl

end Answer

/-- Both stores answer the same, or refuse for the same cause. -/
inductive OutcomesAlike (names : Names) : Except Error Answer → Except Error Answer → Prop where
  | ok {a a' : Answer} (answer : a.Alike names a') : OutcomesAlike names (.ok a) (.ok a')
  | error {e e' : Error} (cause : e.Alike names e') : OutcomesAlike names (.error e) (.error e')

namespace Call

/-- What the service does, with the ids that a store knows the names by. Lists are shown on a page. -/
def perform {σ ι : Type} [Store.Records σ Post PostFilter] [Store.Reports σ] [Store.Chats σ]
    [Store.Records σ Message MessageFilter] (id : ι → Int) (page : Page) : Call ι → Op σ Answer
  | createPost actor request => do return .post (← Posts.create actor request)
  | getPost viewer post => do return .post (← Posts.get viewer (id post))
  | listPosts viewer filter sort defaults => do return .posts (← Posts.list viewer filter sort page defaults)
  | updatePost actor post request => do return .post (← Posts.update actor (id post) request)
  | deletePost actor post => do
    Posts.delete actor (id post)
    return .done
  | fileReport actor post request threshold => do
    return .receipt (← PostReports.file actor (id post) request threshold)
  | listReports post => do return .reports (← PostReports.listFor (id post))
  | createChat actor request => do return .chat (← Chats.create actor request)
  | getChat actor chat => do return .chat (← Chats.get actor (id chat))
  | listChats actor => do return .chats (← Chats.list actor page)
  | leaveChat actor chat => do
    Chats.leave actor (id chat)
    return .done
  | sendMessage actor chat request => do return .message (← Messages.send actor (id chat) request)
  | listMessages actor chat sort defaults => do
    return .messages (← Messages.list actor (id chat) sort page defaults)
  | updateMessage actor message request => do return .message (← Messages.update actor (id message) request)
  | deleteMessage actor message => do
    Messages.delete actor (id message)
    return .done

/-- Who makes a call. -/
def actor? {ι : Type} : Call ι → Option Int
  | getPost viewer _ | listPosts viewer .. => some viewer.userId
  | createPost actor _ | updatePost actor .. | deletePost actor _ | fileReport actor .. | createChat actor _
  | getChat actor _ | listChats actor | leaveChat actor _ | sendMessage actor .. | listMessages actor ..
  | updateMessage actor .. | deleteMessage actor _ => some actor
  | listReports _ => none

/-- No text of a call that is to be stored or looked for has the null character. -/
def IsPlain {ι : Type} : Call ι → Prop
  | createPost _ request => Request.OfPlain request
  | listPosts _ filter _ _ => ∀ text ∈ Filter.texts Post filter, '\x00' ∉ text.toList
  | updatePost _ _ request => Request.OfPlain request
  | fileReport _ _ request _ => Request.OfPlain request
  | createChat _ request => Request.OfPlain request
  | sendMessage _ _ request => Request.OfPlain request
  | updateMessage _ _ request => Request.OfPlain request
  | _ => True

/-- The names in a call are those of earlier calls, or ids that neither store has given. -/
def RefersTo (names : Names) : Call (Int × Int) → Prop
  | getPost _ post | updatePost _ post _ | deletePost _ post | fileReport _ post _ _ | listReports post =>
    Refers names.posts post.1 post.2
  | getChat _ chat | leaveChat _ chat | sendMessage _ chat _ | listMessages _ chat _ _ =>
    Refers names.chats chat.1 chat.2
  | updateMessage _ message _ | deleteMessage _ message => Refers names.messages message.1 message.2
  | createPost .. | listPosts .. | createChat .. | listChats _ => True

/-- A call that may be made in a trial. -/
structure IsAdmissible (users : List Int) (names : Names) (call : Call (Int × Int)) : Prop where
  actor : ∀ id ∈ call.actor?, id ∈ users
  plain : call.IsPlain
  refers : call.RefersTo names

/-- The names after a call that was answered: what it created goes by new ones. -/
def grow {ι : Type} (names : Names) (a a' : Answer) : Call ι → Names
  | createPost .. => names.addPost a.id a'.id
  | fileReport .. => names.addReport a.id a'.id
  | createChat .. => names.addChat a.id a'.id
  | sendMessage .. => names.addMessage a.id a'.id
  | _ => names

/-- The names after a call; one that was refused created nothing. -/
def namesAfter {ι : Type} (call : Call ι) (names : Names) : Except Error Answer → Except Error Answer → Names
  | .ok a, .ok a' => call.grow names a a'
  | _, _ => names

/-- What ids are made together does not depend on the page that is shown. -/
theorem namesAfter_onPage {ι : Type} (call : Call ι) (names : Names) (page : Page)
    (out out' : Except Error Answer) :
    call.namesAfter names (out.map (·.onPage page)) (out'.map (·.onPage page)) =
      call.namesAfter names out out' := by
  rcases out with e | a <;> rcases out' with e' | a' <;> try rfl
  cases call <;> simp [namesAfter, grow, Except.map]

/-- A call on the database. -/
abbrev onDatabase (call : Call (Int × Int)) (page : Page) (now : Instant) (db : Database) :
    Except Error Answer × Database :=
  (call.perform Prod.fst page).exec now db

/-- The same call on the store in memory. -/
abbrev inMemory (call : Call (Int × Int)) (page : Page) (now : Instant) (mem : Memory) :
    Except Error Answer × Memory :=
  (call.perform Prod.snd page).exec now mem

end Call

/-! ## One call -/

variable {users : List Int} {names : Names} {db : Database} {mem : Memory} {call : Call (Int × Int)}
  {now now' : Instant}

/-- **What one call does to stores that are in step**: both answer the same or refuse for the same cause, and
they are in step after it. -/
theorem Call.couples (h : Simulates users names db mem) (hcall : call.IsAdmissible users names)
    (hnow : now.isStorable = true) (now' : Instant) :
    Op.CouplesPages (Refused users names) now now' Answer.onPage Answer.onPage
      (fun page => (call.perform Prod.fst page : Op Database Answer))
      (fun page => (call.perform Prod.snd page : Op Memory Answer)) db mem fun a a' db' mem' =>
        a.Alike (call.grow names a a') a' ∧ Simulates users (call.grow names a a') db' mem' := by
  obtain ⟨hactor, hplain, hrefers⟩ := hcall
  cases call with
  | createPost actor request =>
    exact (Posts.couples_create h (hactor _ rfl) hplain hnow).pages.map (fun _ _ => rfl) (fun _ _ => rfl)
      fun _ _ _ _ hsame => ⟨.post hsame.1, hsame.2⟩
  | getPost viewer post =>
    exact (Posts.couples_get h hrefers viewer).pages.map (fun _ _ => rfl) (fun _ _ => rfl)
      fun _ _ _ _ hsame => ⟨.post hsame.1, hsame.2⟩
  | listPosts viewer filter sort defaults =>
    exact (Posts.couples_list h viewer hplain sort defaults).map (fun _ _ => rfl) (fun _ _ => rfl)
      fun _ _ _ _ hsame => ⟨.posts hsame.1, hsame.2⟩
  | updatePost actor post request =>
    exact (Posts.couples_update h hrefers hplain).pages.map (fun _ _ => rfl) (fun _ _ => rfl)
      fun _ _ _ _ hsame => ⟨.post hsame.1, hsame.2⟩
  | deletePost actor post =>
    exact (Posts.couples_delete h hrefers).pages.map (fun _ _ => rfl) (fun _ _ => rfl)
      fun _ _ _ _ hafter => ⟨.done, hafter⟩
  | fileReport actor post request threshold =>
    exact (PostReports.couples_file h (hactor _ rfl) hrefers hplain hnow).pages.map (fun _ _ => rfl)
      (fun _ _ => rfl) fun _ _ _ _ hsame => ⟨.receipt hsame.1, hsame.2⟩
  | listReports post =>
    exact (PostReports.couples_listFor h hrefers).pages.map (fun _ _ => rfl) (fun _ _ => rfl)
      fun _ _ _ _ hsame => ⟨.reports hsame.1, hsame.2⟩
  | createChat actor request =>
    exact (Chats.couples_create h (hactor _ rfl) hplain hnow).pages.map (fun _ _ => rfl) (fun _ _ => rfl)
      fun _ _ _ _ hsame => ⟨.chat hsame.1, hsame.2⟩
  | getChat actor chat =>
    exact (Chats.couples_get h hrefers).pages.map (fun _ _ => rfl) (fun _ _ => rfl)
      fun _ _ _ _ hsame => ⟨.chat hsame.1, hsame.2⟩
  | listChats actor =>
    exact (Chats.couples_list h actor).map (fun _ _ => rfl) (fun _ _ => rfl)
      fun _ _ _ _ hsame => ⟨.chats hsame.1, hsame.2⟩
  | leaveChat actor chat =>
    exact (Chats.couples_leave h hrefers).pages.map (fun _ _ => rfl) (fun _ _ => rfl)
      fun _ _ _ _ hafter => ⟨.done, hafter⟩
  | sendMessage actor chat request =>
    exact (Messages.couples_send h (hactor _ rfl) hrefers hplain hnow).pages.map (fun _ _ => rfl)
      (fun _ _ => rfl) fun _ _ _ _ hsame => ⟨.message hsame.1, hsame.2⟩
  | listMessages actor chat sort defaults =>
    exact (Messages.couples_list h hrefers actor sort defaults).map (fun _ _ => rfl) (fun _ _ => rfl)
      fun _ _ _ _ hsame => ⟨.messages hsame.1, hsame.2⟩
  | updateMessage actor message request =>
    exact (Messages.couples_update h hrefers hplain).pages.map (fun _ _ => rfl) (fun _ _ => rfl)
      fun _ _ _ _ hsame => ⟨.message hsame.1, hsame.2⟩
  | deleteMessage actor message =>
    exact (Messages.couples_delete h hrefers).pages.map (fun _ _ => rfl) (fun _ _ => rfl)
      fun _ _ _ _ hafter => ⟨.done, hafter⟩

/-- The stores are in step after a call, whatever page it showed. -/
theorem Call.simulates_after (h : Simulates users names db mem) (hcall : call.IsAdmissible users names)
    (page : Page) (hnow : now.isStorable = true) :
    Simulates users
      (call.namesAfter names (call.onDatabase page now db).1 (call.inMemory page now' mem).1)
      (call.onDatabase page now db).2 (call.inMemory page now' mem).2 := by
  obtain ⟨out, out', hout, hout', hcoupled⟩ := call.couples h hcall hnow now'
  unfold onDatabase inMemory
  rw [hout, hout', namesAfter_onPage]
  cases hcoupled with
  | ok result => exact result.2
  | error cause => exact cause.2

/-! ## Any number of calls -/

/-- The stores as a trial finds them: both have the same live users, and nothing else that a call is about. -/
structure IsStart (users : List Int) (db : Database) (mem : Memory) : Prop where
  users : SharesUsers users db.tables.users mem.users
  posts : db.tables.posts = [] ∧ mem.posts = []
  reports : db.tables.reports = [] ∧ mem.reports = []
  chats : db.tables.chats = [] ∧ mem.chats = []
  members : db.tables.members = []
  messages : db.tables.messages = [] ∧ mem.messages = []

/-- A database with the users of `Memory.ofUsers`. -/
def ofUsers (users : List Int) : Database := { tables := { users := (Memory.ofUsers users).users } }

/-- A trial may start with any users, each with an id of its own. -/
theorem isStart_ofUsers (hnodup : users.Nodup) : IsStart users (ofUsers users) (Memory.ofUsers users) where
  users :=
    { keys := by simpa [ofUsers, Memory.ofUsers, Function.comp_def] using hnodup
      stored := by simp [ofUsers, Memory.ofUsers, Entry.isLive]
      kept := by simp [Memory.ofUsers, Entry.isLive] }
  posts := ⟨rfl, rfl⟩
  reports := ⟨rfl, rfl⟩
  chats := ⟨rfl, rfl⟩
  members := rfl
  messages := ⟨rfl, rfl⟩

/-- Stores with the same users and nothing else simulate one another. -/
theorem IsStart.simulates (h : IsStart users db mem) : Simulates users {} db mem where
  users := h.users
  posts := by
    rw [h.posts.1, h.posts.2]
    exact .nil
  reports := by
    rw [h.reports.1, h.reports.2]
    exact .nil
  chats := by
    rw [h.chats.1, h.chats.2]
    exact .nil
  members := by
    rw [h.members]
    nofun
  messages := by
    rw [h.messages.1, h.messages.2]
    exact .nil

/-- What has become of both stores, and the names of what was created in them. -/
inductive Joint (users : List Int) : Names → Database → Memory → Prop where
  | start {db : Database} {mem : Memory} (isStart : IsStart users db mem) : Joint users {} db mem
  | call {names : Names} {db : Database} {mem : Memory} (before : Joint users names db mem)
      {call : Call (Int × Int)} (admissible : call.IsAdmissible users names) (page : Page)
      (now now' : Instant) (clock : now.isStorable = true) :
      Joint users (call.namesAfter names (call.onDatabase page now db).1 (call.inMemory page now' mem).1)
        (call.onDatabase page now db).2 (call.inMemory page now' mem).2

/-- The stores are in step after any number of calls. -/
theorem simulates_of_joint (h : Joint users names db mem) : Simulates users names db mem := by
  induction h with
  | start isStart => exact isStart.simulates
  | call _ admissible page now now' clock ih => exact Call.simulates_after ih admissible page clock

/-- Both stores answer a call the same, or refuse it for the same cause: over all pages, up to the ids that the
stores gave, dates, the order of members and the order of lists. The pairs of these ids are one to one. -/
def AnswersAlike (call : Call (Int × Int)) (names : Names) (now now' : Instant) (db : Database) (mem : Memory) :
    Prop :=
  ∃ out out', (∀ page, (call.onDatabase page now db).1 = out.map (·.onPage page)) ∧
    (∀ page, (call.inMemory page now' mem).1 = out'.map (·.onPage page)) ∧
      OutcomesAlike (call.namesAfter names out out') out out' ∧ (call.namesAfter names out out').OneToOne

/-- **The store in memory answers for the database**: after any number of calls on both stores, whatever is
asked next. -/
theorem answersAlike_of_joint (h : Joint users names db mem) (hcall : call.IsAdmissible users names)
    (hnow : now.isStorable = true) : AnswersAlike call names now now' db mem := by
  obtain ⟨out, out', hout, hout', hcoupled⟩ := call.couples (simulates_of_joint h) hcall hnow now'
  refine ⟨out.1, out'.1, fun page => ?_, fun page => ?_, ?_⟩
  · rw [Call.onDatabase, hout]
  · rw [Call.inMemory, hout']
  · cases hcoupled with
    | ok result => exact ⟨.ok result.1, result.2.oneToOne⟩
    | error cause => exact ⟨.error cause.1, cause.2.oneToOne⟩

/-! One user writes a post, and another one looks at it. The database gives the post the id 1; the store in
memory, which has given the ids 1 and 2 to the users, gives it 3. -/

/-- What the first user asks. -/
def posting : Call (Int × Int) := .createPost 1 { title := "Tom", body := "A tabby" }

/-- What the second user asks. -/
def seeking : Call (Int × Int) := .getPost ⟨2, false⟩ (1, 3)

/-- Anybody who is there may ask for a post. -/
theorem isAdmissible_posting : posting.IsAdmissible [1, 2] {} where
  actor := by simp [posting, Call.actor?]
  plain := ⟨("Tom", "A tabby", none, none, none, ()), ⟨rfl, rfl, nofun, nofun, nofun, trivial⟩, rfl⟩
  refers := trivial

/-- A post may be looked for under the ids that the stores gave it. -/
theorem isAdmissible_seeking : seeking.IsAdmissible [1, 2] { posts := [(1, 3)] } where
  actor := by simp [seeking, Call.actor?]
  plain := trivial
  refers := .made (List.mem_singleton_self _)

/-- Both stores show the post under the ids that they gave it. -/
theorem answersAlike_seeking :
    Joint [1, 2] { posts := [(1, 3)] } (posting.onDatabase default ⟨0, 0⟩ (ofUsers [1, 2])).2
        (posting.inMemory default ⟨0, 0⟩ (Memory.ofUsers [1, 2])).2 ∧
      seeking.IsAdmissible [1, 2] { posts := [(1, 3)] } ∧ (⟨60, 0⟩ : Instant).isStorable = true ∧
        AnswersAlike seeking { posts := [(1, 3)] } ⟨60, 0⟩ ⟨61, 0⟩
          (posting.onDatabase default ⟨0, 0⟩ (ofUsers [1, 2])).2
          (posting.inMemory default ⟨0, 0⟩ (Memory.ofUsers [1, 2])).2 := by
  have hnames : posting.namesAfter {} (posting.onDatabase default ⟨0, 0⟩ (ofUsers [1, 2])).1
      (posting.inMemory default ⟨0, 0⟩ (Memory.ofUsers [1, 2])).1 = { posts := [(1, 3)] } := rfl
  have hjoint := Joint.call (.start (isStart_ofUsers (by decide))) isAdmissible_posting default
    ⟨0, 0⟩ ⟨0, 0⟩ rfl
  rw [hnames] at hjoint
  exact ⟨hjoint, isAdmissible_seeking, rfl, answersAlike_of_joint hjoint isAdmissible_seeking rfl⟩

end Fostering.Trial
