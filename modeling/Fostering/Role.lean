import Fostering.Json.Value

/-!
# Roles

A user has a role for each kind of live profile: keeper, seeker, vet.
-/

namespace Fostering

/-- A kind of profile. -/
inductive Role where
  | keeper
  | seeker
  | vet
  deriving DecidableEq

/-- The name of a role. -/
def Role.name : Role → String
  | keeper => "keeper"
  | seeker => "seeker"
  | vet => "vet"

/-- A role that a user has, and the id of the profile that gives it. -/
structure UserRole where
  role : Role
  profileId : Int
  deriving DecidableEq

/-- What clients see of a role. -/
def UserRole.view (r : UserRole) : Json :=
  .object [("role", .text r.role.name), ("profile_id", .int r.profileId)]

end Fostering
