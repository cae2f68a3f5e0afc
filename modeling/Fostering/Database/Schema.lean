import Fostering.Database.Tables
import Fostering.PostStatus

/-!
# Rules of the tables

What a database refuses to store: texts and instants that it has no form for, values that break a
check, rows that clash with another on a unique index, and references to rows that are not there. A
row that is deleted still counts as there, and it still takes up the name and the mail address of
its user; but it takes up nothing else.

One refusal is not among these rules: an index has no entry for a text that is too long for a third of
a page after compression. Of the texts that have an index only the city of a keeper can be as long as
that. Which cities are refused depends on how well they are compressed, so that here none is.
-/

namespace Fostering

/-- A unique index. -/
inductive UniqueIndex where
  /-- The index on the ids of a table. -/
  | primaryKey (table : String)
  | username
  | email
  | keeperUser
  | seekerUser
  | vetUser
  | reportPostReporter
  | reviewKeeperAuthor
  | sessionTokenHash
  deriving DecidableEq

/-- What a clash on an index is called. -/
def UniqueIndex.message : UniqueIndex → String
  | primaryKey table => "Duplicate value violates unique constraint: " ++ table ++ "_pkey"
  | username => "Username is already taken"
  | email => "Email is already registered"
  | keeperUser => "User already has a keeper profile"
  | seekerUser => "User already has a seeker profile"
  | vetUser => "User already has a vet profile"
  | reportPostReporter => "You have already reported this post"
  | reviewKeeperAuthor => "You have already reviewed this keeper"
  | sessionTokenHash =>
    "Duplicate value violates unique constraint: uq_refresh_sessions_token_hash"

/-- A column that refers to the rows of another table. -/
structure Reference where
  table : String
  column : String
  deriving DecidableEq

/-- What a missing row is called. -/
def Reference.message (r : Reference) : String :=
  "Referenced entity does not exist (" ++ r.table ++ "_" ++ r.column ++ "_fkey)"

/-- Whether a text can be stored: the null character cannot. -/
def isStorableText (s : String) : Bool := !s.toList.contains '\x00'

/-- The texts that are there. -/
def presentTexts (texts : List (Option String)) : List String := texts.filterMap id

/-- The rules of a table. -/
class Schema (ρ : Type) extends Table ρ where
  /-- What the table is called. -/
  tableName : String
  /-- The texts in a row. -/
  texts : ρ → List String
  /-- The instants in a row. -/
  instants : ρ → List Instant
  /-- Whether a row passes the checks. -/
  holds : ρ → Bool := fun _ => true
  /-- The first index on which a row clashes with another. -/
  clash? : Tables → ρ → Option UniqueIndex := fun _ _ => none
  /-- The first reference of a row to nothing. -/
  orphan? : Tables → ρ → Option Reference := fun _ _ => none

namespace Schema

/-- Whether there is a form for every text and every instant in a row. -/
def isStorable {ρ : Type} [Schema ρ] (row : ρ) : Bool :=
  (texts row).all isStorableText && (instants row).all Instant.isStorable

/-- The rows of a table other than this one. -/
def others {ρ : Type} [Table ρ] (t : Tables) (row : ρ) : List ρ :=
  (Table.rows t).filter fun r => Table.id r ≠ Table.id row

/-- The instants in the shared columns that are stored with a new row. -/
def entryInstants (e : Entry) : List Instant := [e.createdAt, e.updatedAt]

/-- Whether there is a row with this id. -/
def hasId {ρ : Type} [Table ρ] (rows : List ρ) (id : Int) : Bool := rows.any fun r => Table.id r = id

/-- A reference to a user, if there is no such user. -/
def missingUser? (t : Tables) (table column : String) (id : Int) : Option Reference :=
  if hasId t.users id then none else some ⟨table, column⟩

/-- Whether a price, if there is one, is not below zero. -/
def isPrice (price : Option Int) : Bool := price.all (0 ≤ ·)

instance : Schema User where
  tableName := "users"
  texts u := [u.username, u.email, u.passwordHash, u.firstName, u.lastName]
    ++ presentTexts [u.city, u.phone, u.about]
  instants u := entryInstants u.entry
  clash? t u :=
    if (others t u).any fun v => v.username = u.username then some .username
    else if (others t u).any fun v => v.email = u.email then some .email
    else none

instance : Schema Keeper where
  tableName := "keepers"
  texts k := presentTexts [k.description, k.animalTypes, k.city]
  instants k := entryInstants k.entry
  holds k := isPrice k.price && 0 ≤ k.boardingCapacity
  clash? t k :=
    if (others t k).any fun l => l.entry.isLive && l.userId = k.userId then some .keeperUser else none
  orphan? t k := missingUser? t "keepers" "user_id" k.userId

instance : Schema Seeker where
  tableName := "seekers"
  texts s := presentTexts [s.description, s.animalType, s.city]
  instants s := entryInstants s.entry
  clash? t s :=
    if (others t s).any fun r => r.entry.isLive && r.userId = s.userId then some .seekerUser else none
  orphan? t s := missingUser? t "seekers" "user_id" s.userId

instance : Schema Vet where
  tableName := "vets"
  texts v := v.clinicName :: presentTexts [v.specialization, v.city]
  instants v := entryInstants v.entry
  holds v := 0 ≤ v.experienceYears && isPrice v.price
  clash? t v :=
    if (others t v).any fun w => w.entry.isLive && w.userId = v.userId then some .vetUser else none
  orphan? t v := missingUser? t "vets" "user_id" v.userId

instance : Schema Post where
  tableName := "posts"
  texts p := [p.title, p.body, p.status] ++ presentTexts [p.animalType, p.city]
  instants p := entryInstants p.entry
  holds p := (PostStatus.ofName? p.status).isSome
  orphan? t p := missingUser? t "posts" "author_id" p.authorId

instance : Schema Report where
  tableName := "reports"
  texts r := [r.reason]
  instants r := [r.createdAt]
  clash? t r :=
    if (others t r).any fun s => s.postId = r.postId && s.reporterId = r.reporterId then
      some .reportPostReporter
    else none
  orphan? t r :=
    if hasId t.posts r.postId then missingUser? t "reports" "reporter_id" r.reporterId
    else some ⟨"reports", "post_id"⟩

instance : Schema Review where
  tableName := "keeper_reviews"
  texts r := presentTexts [r.comment]
  instants r := entryInstants r.entry
  holds r := 1 ≤ r.grade && r.grade ≤ 5
  clash? t r :=
    if (others t r).any fun s =>
        s.entry.isLive && s.keeperId = r.keeperId && s.authorId = r.authorId then
      some .reviewKeeperAuthor
    else none
  orphan? t r :=
    if hasId t.keepers r.keeperId then missingUser? t "keeper_reviews" "author_id" r.authorId
    else some ⟨"keeper_reviews", "keeper_id"⟩

instance : Schema Chat where
  tableName := "chats"
  texts c := presentTexts [c.title]
  instants c := entryInstants c.entry
  orphan? t c := missingUser? t "chats" "created_by" c.createdBy

instance : Schema Message where
  tableName := "messages"
  texts m := [m.content]
  instants m := entryInstants m.entry
  orphan? t m :=
    if hasId t.chats m.chatId then missingUser? t "messages" "sender_id" m.senderId
    else some ⟨"messages", "chat_id"⟩

instance : Schema Session where
  tableName := "refresh_sessions"
  texts s := [s.tokenHash, s.fingerprint]
  instants s := [s.expiresAt]
  clash? t s :=
    if (others t s).any fun r => r.tokenHash = s.tokenHash then some .sessionTokenHash else none
  orphan? t s := missingUser? t "refresh_sessions" "user_id" s.userId

end Schema

end Fostering
