import Fostering.Chat
import Fostering.Favourite
import Fostering.Keeper
import Fostering.Listing.Page
import Fostering.Listing.Sort
import Fostering.Post
import Fostering.Review
import Fostering.Seeker
import Fostering.Session
import Fostering.Store.Op
import Fostering.User
import Fostering.Vet

/-!
# What a store can do

The rules of the service are written against these classes, so they hold for every store. All of
them agree that a row that is missing or deleted is not found, unless an operation asks for deleted
rows too.
-/

namespace Fostering

/-- Which reviews a list shows: those of a keeper. -/
structure ReviewFilter where
  keeperId : Int
  deriving DecidableEq

/-- Which messages a list shows: those of a chat. -/
structure MessageFilter where
  chatId : Int
  deriving DecidableEq

namespace Store

/-- Rows that are made, found, listed, changed and deleted one by one. -/
class Records (σ ρ : Type) (φ : outParam Type) where
  /-- Makes a row; its id is new. -/
  create : ρ → Op σ ρ
  /-- The live row with an id. -/
  find : Int → Op σ ρ
  /-- The row with an id, live or deleted. -/
  findAny : Int → Op σ ρ
  /-- A page of the live rows that a filter keeps. -/
  list : φ → ListOrder → Page → Op σ (List ρ)
  /-- Changes the live row that has the same id. -/
  update : ρ → Op σ ρ
  /-- Deletes a live row; it stays stored. -/
  delete : Int → Op σ Unit

/-- Accounts. -/
class Users (σ : Type) extends Records σ User UserFilter where
  /-- The live user with this exact name. -/
  findByUsername : String → Op σ (Option User)

/-- Profiles, of which a user has at most one of each kind. -/
class Profiles (σ ρ : Type) (φ : outParam Type) extends Records σ ρ φ where
  /-- The live profile of a user. -/
  findByUser : Int → Op σ (Option ρ)

/-- Reports against posts. -/
class Reports (σ : Type) where
  /-- Reports a published post, and blocks it if the reports reach the threshold. -/
  file : Report → Int → Op σ ReportReceipt
  /-- The reports against a post. -/
  listFor : Int → Op σ (List Report)
  /-- The number of reports against a post. -/
  countFor : Int → Op σ Int

/-- Decisions on reported posts. -/
class Moderation (σ : Type) where
  /-- A page of the live posts with reports. -/
  queue : Page → Op σ (List Post)
  /-- Clears the reports against a post and publishes it. -/
  approve : Int → Op σ Post
  /-- Blocks a post. -/
  block : Int → Op σ Post

/-- Chats and who takes part in them. -/
class Chats (σ : Type) where
  /-- Opens a chat for these members, all of them live users. -/
  create : Chat → List Int → Op σ ChatWithMembers
  /-- The live chat with an id. -/
  find : Int → Op σ ChatWithMembers
  /-- The chat with an id, live or deleted. -/
  findAny : Int → Op σ ChatWithMembers
  /-- A page of the live chats of a user. -/
  listFor : Int → Page → Op σ (List ChatWithMembers)
  /-- Whether a user takes part in a chat. -/
  isMember : Int → Int → Op σ Bool
  /-- Takes a user out of a chat; the chat is deleted when nobody is left. -/
  removeMember : Int → Int → Op σ Unit

/-- Sessions of devices. -/
class Sessions (σ : Type) where
  /-- Stores the session of a user on a device, in the place of an earlier one. -/
  upsert : Session → Op σ Session
  /-- The session with a digest that has not run out. -/
  findByHash : String → Op σ (Option Session)
  /-- The session with a digest that has not run out, which is erased. -/
  takeByHash : String → Op σ (Option Session)
  /-- Erases the session of a user on a device; tells whether there was one. -/
  deleteFor : Int → String → Op σ Bool

/-- Favourite keepers. -/
class Favourites (σ : Type) where
  /-- Marks a live keeper; a mark that is there stays as it is. -/
  add : Int → Int → Op σ Favourite
  /-- Takes a mark back. -/
  remove : Int → Int → Op σ Unit
  /-- A page of the live keepers that a user marked, the last marked first. -/
  listFor : Int → Page → Op σ (List Keeper)

end Store

/-- Everything that the service needs of a store. -/
class Store (σ : Type) where
  [users : Store.Users σ]
  [keepers : Store.Profiles σ Keeper KeeperFilter]
  [seekers : Store.Profiles σ Seeker SeekerFilter]
  [vets : Store.Profiles σ Vet VetFilter]
  [posts : Store.Records σ Post PostFilter]
  [reports : Store.Reports σ]
  [moderation : Store.Moderation σ]
  [reviews : Store.Records σ Review ReviewFilter]
  [chats : Store.Chats σ]
  [messages : Store.Records σ Message MessageFilter]
  [sessions : Store.Sessions σ]
  [favourites : Store.Favourites σ]
  /-- Whether the store answers. -/
  reachable : Op σ Bool

attribute [reducible, instance] Store.users Store.keepers Store.seekers Store.vets Store.posts Store.reports
  Store.moderation Store.reviews Store.chats Store.messages Store.sessions Store.favourites

end Fostering
