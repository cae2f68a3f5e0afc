import Fostering.Database.Records

/-!
# Favourite keepers

A mark is made once: marking a keeper again changes nothing. Marks on deleted keepers stay, but no
list shows them.
-/

namespace Fostering.Database

/-- Whether a mark is the one of a user on a keeper. -/
def isMark (userId keeperId : Int) (f : Favourite) : Bool :=
  f.userId = userId && f.keeperId = keeperId

/-- Marks a live keeper; a mark that is there stays as it is. -/
def addFavourite (userId keeperId : Int) : Op Database Favourite := do
  let _ ← find Keeper keeperId
  match ← look fun t => t.favourites.find? (isMark userId keeperId) with
  | some mark => return mark
  | none =>
    match ← look fun t => Schema.missingUser? t "favourite_keepers" "user_id" userId with
    | some reference => Op.refuse (.validation reference.message)
    | none =>
      let mark : Favourite := ⟨userId, keeperId, ← now⟩
      change fun t => { t with favourites := t.favourites ++ [mark] }
      return mark

/-- Takes a mark back. -/
def removeFavourite (userId keeperId : Int) : Op Database Unit := do
  let mark? ← look fun t => t.favourites.find? (isMark userId keeperId)
  Op.guard mark?.isSome (.notFound "Favourite" keeperId)
  change fun t => { t with favourites := t.favourites.filter fun f => !isMark userId keeperId f }

/-- The live keepers that a user marked, each with the instant of the mark. -/
def markedKeepers (t : Tables) (userId : Int) : List (Instant × Keeper) :=
  (t.favourites.filter fun f => f.userId = userId).flatMap fun f =>
    (t.keepers.filter fun k => k.entry.id = f.keeperId && k.entry.isLive).map fun k => (f.createdAt, k)

/-- A page of the live keepers that a user marked, the last marked first. -/
def listFavourites (userId : Int) (page : Page) : Op Database (List Keeper) :=
  look fun t =>
    (page.slice (sortRows .desc (fun p => .moment p.1) (fun p => p.2.entry.id)
      (markedKeepers t userId))).map Prod.snd

end Fostering.Database
