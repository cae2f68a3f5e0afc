import Fostering.Proofs.Operations
import Fostering.Store.Interface

/-!
# The calls that a store answers

Everything that can be asked of a store, as data (`Store.Call`), so that one can speak of any sequence
of calls. `Call.writes` names the tables that a call may change, and `Op.MadeOf` says which calls an
operation is made of: between its calls an operation only looks at what it got.

* `MadeOf.keepsTo`: what all calls of an operation keep to, the operation keeps to.
-/

namespace Fostering

/-- The tables of a store. -/
inductive TableName where
  | users | keepers | seekers | vets | posts | reports | reviews | chats | members | messages
  | favourites | sessions
  deriving DecidableEq

namespace Store

/-- A call on rows that are kept one by one. -/
inductive RecordCall (ρ φ : Type) where
  | create (row : ρ)
  | find (id : Int)
  | findAny (id : Int)
  | list (filter : φ) (order : ListOrder) (page : Page)
  | update (row : ρ)
  | delete (id : Int)

namespace RecordCall

variable {ρ φ : Type}

/-- What a call gives. -/
def Result : RecordCall ρ φ → Type
  | create _ | find _ | findAny _ | update _ => ρ
  | list .. => List ρ
  | delete _ => Unit

/-- Makes the call. -/
def perform {σ : Type} [Records σ ρ φ] : (call : RecordCall ρ φ) → Op σ call.Result
  | create row => (Records.create row : Op σ ρ)
  | find id => (Records.find id : Op σ ρ)
  | findAny id => (Records.findAny id : Op σ ρ)
  | list filter order page => (Records.list filter order page : Op σ (List ρ))
  | update row => (Records.update row : Op σ ρ)
  | delete id => Records.delete ρ id

/-- The tables that a call may change, of those that are given for changing a row. -/
def writes (tables : List TableName) : RecordCall ρ φ → List TableName
  | create _ | update _ | delete _ => tables
  | find _ | findAny _ | list .. => []

/-- A call on records writes no other tables than those of its kind of record. -/
theorem writes_subset (call : RecordCall ρ φ) (tables : List TableName) :
    call.writes tables ⊆ tables := by
  cases call <;> intro name h <;> first | exact h | cases h

/-- What holds of the one table of the rows holds of every table that a call writes. -/
theorem forall_mem_writes (call : RecordCall ρ φ) {table : TableName} {P : TableName → Prop} (h : P table) :
    ∀ name ∈ call.writes [table], P name := by
  intro name hname
  obtain rfl := List.mem_singleton.mp (call.writes_subset _ hname)
  exact h

end RecordCall

/-- A call of a store. -/
inductive Call where
  | user (call : RecordCall User UserFilter)
  | userByName (name : String)
  | keeper (call : RecordCall Keeper KeeperFilter)
  | keeperOf (userId : Int)
  | seeker (call : RecordCall Seeker SeekerFilter)
  | seekerOf (userId : Int)
  | vet (call : RecordCall Vet VetFilter)
  | vetOf (userId : Int)
  | post (call : RecordCall Post PostFilter)
  | fileReport (report : Report) (threshold : Int)
  | reportsOn (postId : Int)
  | countReports (postId : Int)
  | moderationQueue (page : Page)
  | approvePost (id : Int)
  | blockPost (id : Int)
  | review (call : RecordCall Review ReviewFilter)
  | createChat (chat : Chat) (memberIds : List Int)
  | findChat (id : Int)
  | findAnyChat (id : Int)
  | chatsOf (userId : Int) (page : Page)
  | isMember (chatId userId : Int)
  | removeMember (chatId userId : Int)
  | message (call : RecordCall Message MessageFilter)
  | upsertSession (session : Session)
  | findSession (hash : String)
  | takeSession (hash : String)
  | deleteSession (userId : Int) (fingerprint : String)
  | addFavourite (userId keeperId : Int)
  | removeFavourite (userId keeperId : Int)
  | favouritesOf (userId : Int) (page : Page)
  | reachable

namespace Call

/-- What a call gives. -/
def Result : Call → Type
  | user call | keeper call | seeker call | vet call | post call | review call | message call =>
    call.Result
  | userByName _ => Option User
  | keeperOf _ => Option Keeper
  | seekerOf _ => Option Seeker
  | vetOf _ => Option Vet
  | fileReport .. => ReportReceipt
  | reportsOn _ => List Report
  | countReports _ => Int
  | moderationQueue _ => List Post
  | approvePost _ | blockPost _ => Post
  | createChat .. | findChat _ | findAnyChat _ => ChatWithMembers
  | chatsOf .. => List ChatWithMembers
  | isMember .. | deleteSession .. | reachable => Bool
  | removeMember .. | removeFavourite .. => Unit
  | upsertSession _ => Session
  | findSession _ | takeSession _ => Option Session
  | addFavourite .. => Favourite
  | favouritesOf .. => List Keeper

/-- Makes the call. -/
def perform {σ : Type} [Store σ] : (call : Call) → Op σ call.Result
  | user call | keeper call | seeker call | vet call | post call | review call | message call =>
    call.perform
  | userByName name => Users.findByUsername name
  | keeperOf userId | seekerOf userId | vetOf userId => Profiles.findByUser userId
  | fileReport report threshold => Reports.file report threshold
  | reportsOn postId => Reports.listFor postId
  | countReports postId => Reports.countFor postId
  | moderationQueue page => Moderation.queue page
  | approvePost id => Moderation.approve id
  | blockPost id => Moderation.block id
  | createChat chat memberIds => Chats.create chat memberIds
  | findChat id => Chats.find id
  | findAnyChat id => Chats.findAny id
  | chatsOf userId page => Chats.listFor userId page
  | isMember chatId userId => Chats.isMember chatId userId
  | removeMember chatId userId => Chats.removeMember chatId userId
  | upsertSession session => Sessions.upsert session
  | findSession hash => Sessions.findByHash hash
  | takeSession hash => Sessions.takeByHash hash
  | deleteSession userId fingerprint => Sessions.deleteFor userId fingerprint
  | addFavourite userId keeperId => Favourites.add userId keeperId
  | removeFavourite userId keeperId => Favourites.remove userId keeperId
  | favouritesOf userId page => Favourites.listFor userId page
  | reachable => Store.reachable

/-- The tables that a call may change. A report counts on its post, and a review on its keeper. -/
def writes : Call → List TableName
  | user call => call.writes [.users]
  | keeper call => call.writes [.keepers]
  | seeker call => call.writes [.seekers]
  | vet call => call.writes [.vets]
  | post call => call.writes [.posts]
  | fileReport .. | approvePost _ => [.posts, .reports]
  | blockPost _ => [.posts]
  | review call => call.writes [.reviews, .keepers]
  | createChat .. | removeMember .. => [.chats, .members]
  | message call => call.writes [.messages]
  | upsertSession _ | takeSession _ | deleteSession .. => [.sessions]
  | addFavourite .. | removeFavourite .. => [.favourites]
  | _ => []

end Call

end Store

/-! ## Operations made of calls -/

namespace Op

variable {σ : Type} [Store σ]

/-- Operations that reach the store only through calls with a property. -/
inductive MadeOf (P : Store.Call → Prop) : {α : Type} → Op σ α → Prop where
  | pure {α : Type} (a : α) : MadeOf P (Pure.pure a : Op σ α)
  | refuse {α : Type} (cause : Error) : MadeOf P (refuse cause : Op σ α)
  | now : MadeOf P (now : Op σ Instant)
  | call (call : Store.Call) (h : P call) : MadeOf P (call.perform : Op σ call.Result)
  | bind {α β : Type} {op : Op σ α} {f : α → Op σ β} (h : MadeOf P op)
      (hf : ∀ a, MadeOf P (f a)) : MadeOf P (op >>= f)
  /-- What came of an operation may be read in another way. -/
  | reread {α β : Type} {op : Op σ α} (g : Except Error α → Except Error β) (h : MadeOf P op) :
      MadeOf P (fun t s => (g (op.exec t s).1, (op.exec t s).2) : Op σ β)

namespace MadeOf

variable {P Q : Store.Call → Prop} {α : Type}

theorem mono {op : Op σ α} (h : op.MadeOf P) (hPQ : ∀ call, P call → Q call) : op.MadeOf Q := by
  induction h with
  | pure a => exact .pure a
  | refuse cause => exact .refuse cause
  | now => exact .now
  | call call h => exact .call call (hPQ call h)
  | bind _ _ ih ihf => exact .bind ih ihf
  | reread g _ ih => exact .reread g ih

/-- A condition is checked without any call. -/
theorem guard (condition : Bool) (cause : Error) : (Op.guard condition cause : Op σ Unit).MadeOf P := by
  cases condition
  · exact .refuse cause
  · exact .pure ()

/-- To refuse what is absent takes no call. -/
theorem orRefuse (cause : Error) (a? : Option α) : (Op.orRefuse cause a? : Op σ α).MadeOf P := by
  cases a? with
  | none => exact .refuse cause
  | some a => exact .pure a

/-- A verdict that is there already takes no call. -/
theorem ofExcept (r : Except Error α) : (Op.ofExcept r : Op σ α).MadeOf P := by
  cases r with
  | ok a => exact .pure a
  | error cause => exact .refuse cause

/-- What all calls of an operation keep to, the operation keeps to. -/
theorem keepsTo {R : σ → σ → Prop} [IsPreorder σ R] {op : Op σ α} (h : op.MadeOf P)
    (hP : ∀ call, P call → (call.perform : Op σ call.Result).KeepsTo R) : op.KeepsTo R := by
  induction h with
  | pure a => exact keepsTo_pure a
  | refuse cause => exact keepsTo_refuse cause
  | now => exact keepsTo_now
  | call call h => exact hP call h
  | bind _ _ ih ihf => exact keepsTo_bind ih ihf
  | reread g _ ih => exact fun t s => ih t s

end MadeOf

/-- The operation reaches the store only through calls that change no other tables than these. -/
abbrev WritesOnly {α : Type} (tables : List TableName) (op : Op σ α) : Prop :=
  op.MadeOf fun call => call.writes ⊆ tables

end Op

end Fostering
