import Fostering.Role
import Fostering.Service.Ownership
import Fostering.Store.Interface

/-!
# Profiles

Keepers, seekers and vets are profiles of users, and the rules for them are the same: a user has at
most one live profile of each kind and alone may change or delete it. `Profiles.rolesOf` lists the
kinds of which a user has a profile.
-/

namespace Fostering

/-- A kind of profile. -/
class Profile (ρ : Type) extends HasEntry ρ where
  /-- The user who has the profile. -/
  userId : ρ → Int
  /-- The kind of profile in messages. -/
  kind : String
  /-- The columns that clients may sort profiles by. -/
  sortFields : List String

instance : Profile Keeper := { userId := Keeper.userId, kind := "keeper", sortFields := Keeper.sortFields }

instance : Profile Seeker := { userId := Seeker.userId, kind := "seeker", sortFields := Seeker.sortFields }

instance : Profile Vet := { userId := Vet.userId, kind := "vet", sortFields := Vet.sortFields }

namespace Profiles

variable {σ ρ φ : Type} [Profile ρ] [Store.Profiles σ ρ φ]

/-- A kind of profile at the start of a sentence. -/
def title (ρ : Type) [Profile ρ] : String := (Profile.kind ρ).capitalize ++ " profile"

/-- Makes the first live profile of its user. -/
def create (profile : ρ) : Op σ ρ := do
  let old? : Option ρ ← Store.Profiles.findByUser (Profile.userId profile)
  Op.guard old?.isNone (.conflict ("User already has a " ++ Profile.kind ρ ++ " profile"))
  Store.Records.create (← stamped profile)

/-- A profile. -/
def get (id : Int) : Op σ ρ := Store.Records.find id

/-- A page of the profiles of a kind. -/
def list (filter : φ) (sort : Option String) (page : Page) (defaults : DefaultOrder) :
    Op σ (List ρ) := do
  let order ← Op.ofExcept (ListOrder.forRequest sort (Profile.sortFields ρ) defaults)
  Store.Records.list filter order page

/-- A profile that the actor has. -/
def findOwn (actor id : Int) : Op σ ρ := do
  let profile : ρ ← Store.Records.find id
  ensureOwner actor (Profile.userId profile) (title ρ)
  return profile

/-- Changes a profile of the actor. -/
def update (actor id : Int) (change : ρ → ρ) : Op σ ρ := do
  let profile : ρ ← findOwn actor id
  Store.Records.update (← touched (change profile))

/-- Deletes a profile of the actor. -/
def delete (ρ : Type) {φ : Type} [Profile ρ] [Store.Profiles σ ρ φ] (actor id : Int) :
    Op σ Unit := do
  let _ : ρ ← findOwn actor id
  Store.Records.delete ρ id

/-- The role that a profile gives, if there is one. -/
def roleOf {ρ : Type} [HasEntry ρ] (role : Role) (profile? : Option ρ) : List UserRole :=
  (profile?.map fun profile => ⟨role, HasEntry.id profile⟩).toList

/-- The roles of a user: keeper, seeker, vet, in this order. -/
def rolesOf {σ : Type} [Store.Users σ] [Store.Profiles σ Keeper KeeperFilter]
    [Store.Profiles σ Seeker SeekerFilter] [Store.Profiles σ Vet VetFilter] (userId : Int) :
    Op σ (List UserRole) := do
  let _ : User ← Store.Records.find userId
  let keeper? : Option Keeper ← Store.Profiles.findByUser userId
  let seeker? : Option Seeker ← Store.Profiles.findByUser userId
  let vet? : Option Vet ← Store.Profiles.findByUser userId
  return roleOf .keeper keeper? ++ roleOf .seeker seeker? ++ roleOf .vet vet?

end Profiles

end Fostering
