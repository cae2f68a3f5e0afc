import Fostering.Database.Chats
import Fostering.Database.Favourites
import Fostering.Database.Moderation
import Fostering.Database.Reviews
import Fostering.Database.Sessions

/-!
# The database as a store

The database does everything that the service asks of a store.
-/

namespace Fostering.Database

/-- Rows that are kept one by one and touch no other table. -/
abbrev records (ρ φ : Type) [Editable ρ] [Columns ρ] [Filter φ ρ] : Store.Records Database ρ φ where
  create := create
  find := find ρ
  findAny := findAny ρ
  list := list
  update := update
  delete := delete ρ

instance : Store.Records Database User UserFilter := records User UserFilter

instance : Store.Records Database Keeper KeeperFilter := records Keeper KeeperFilter

instance : Store.Records Database Seeker SeekerFilter := records Seeker SeekerFilter

instance : Store.Records Database Vet VetFilter := records Vet VetFilter

instance : Store.Records Database Post PostFilter := records Post PostFilter

instance : Store.Records Database Message MessageFilter := records Message MessageFilter

instance : Store.Records Database Review ReviewFilter where
  create := createReview
  find := find Review
  findAny := findAny Review
  list := list
  update := updateReview
  delete := deleteReview

instance : Store.Users Database where
  findByUsername name := do
    guardText name
    find? fun u : User => u.username = name && u.entry.isLive

instance : Store.Profiles Database Keeper KeeperFilter where
  findByUser userId := find? fun k : Keeper => k.userId = userId && k.entry.isLive

instance : Store.Profiles Database Seeker SeekerFilter where
  findByUser userId := find? fun s : Seeker => s.userId = userId && s.entry.isLive

instance : Store.Profiles Database Vet VetFilter where
  findByUser userId := find? fun v : Vet => v.userId = userId && v.entry.isLive

instance : Store.Reports Database := ⟨fileReport, listReports, countReports⟩

instance : Store.Moderation Database := ⟨moderationQueue, approvePost, blockPost⟩

instance : Store.Chats Database where
  create := createChat
  find := findChat
  findAny := findAnyChat
  listFor := listChats
  isMember chatId userId := look fun t => isMember t chatId userId
  removeMember := removeMember

instance : Store.Sessions Database := ⟨upsertSession, findSession, takeSession, deleteSession⟩

instance : Store.Favourites Database := ⟨addFavourite, removeFavourite, listFavourites⟩

instance : Store Database where
  reachable := pure true

/-- Makes a user a moderator, which no request does. -/
def setModerator (id : Int) : Op Database Unit :=
  updateWhere (fun u : User => u.entry.id = id) fun u => { u with isModerator := true }

end Fostering.Database
