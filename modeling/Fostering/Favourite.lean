import Fostering.Time.Rfc3339
import Fostering.Json.Value

/-!
# Favourite keepers

A user may mark keepers as favourites. A mark is a row of its own; it is erased when it is taken back.
-/

namespace Fostering

/-- The mark of a user on a keeper. -/
structure Favourite where
  userId : Int := 0
  keeperId : Int := 0
  createdAt : Instant := .unset
  deriving DecidableEq, Inhabited

/-- What clients see of a mark. -/
def Favourite.view (f : Favourite) : Json :=
  .object [("user_id", .int f.userId), ("keeper_id", .int f.keeperId),
    ("created_at", .text f.createdAt.toText)]

end Fostering
