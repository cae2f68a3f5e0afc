import Fostering.Store.Interface

/-!
# A store that does not answer

Every operation of it is refused with an internal cause.
-/

namespace Fostering

/-- A store that does not answer. -/
structure Unavailable where
  deriving DecidableEq, Inhabited

namespace Unavailable

/-- The only thing that happens. -/
def fail {α : Type} : Op Unavailable α := Op.refuse (.internal "store is closed")

/-- Rows of which nothing can be had. -/
abbrev records (ρ φ : Type) : Store.Records Unavailable ρ φ :=
  ⟨fun _ => fail, fun _ => fail, fun _ => fail, fun _ _ _ => fail, fun _ => fail, fun _ => fail⟩

instance : Store.Users Unavailable := { records User UserFilter with findByUsername := fun _ => fail }

/-- Profiles of which nothing can be had. -/
abbrev profiles (ρ φ : Type) : Store.Profiles Unavailable ρ φ :=
  { records ρ φ with findByUser := fun _ => fail }

instance : Store.Profiles Unavailable Keeper KeeperFilter := profiles Keeper KeeperFilter

instance : Store.Profiles Unavailable Seeker SeekerFilter := profiles Seeker SeekerFilter

instance : Store.Profiles Unavailable Vet VetFilter := profiles Vet VetFilter

instance : Store.Records Unavailable Post PostFilter := records Post PostFilter

instance : Store.Records Unavailable Review ReviewFilter := records Review ReviewFilter

instance : Store.Records Unavailable Message MessageFilter := records Message MessageFilter

instance : Store.Reports Unavailable := ⟨fun _ _ => fail, fun _ => fail, fun _ => fail⟩

instance : Store.Moderation Unavailable := ⟨fun _ => fail, fun _ => fail, fun _ => fail⟩

instance : Store.Chats Unavailable :=
  ⟨fun _ _ => fail, fun _ => fail, fun _ => fail, fun _ _ => fail, fun _ _ => fail, fun _ _ => fail⟩

instance : Store.Sessions Unavailable :=
  ⟨fun _ => fail, fun _ => fail, fun _ => fail, fun _ _ => fail⟩

instance : Store.Favourites Unavailable := ⟨fun _ _ => fail, fun _ _ => fail, fun _ _ => fail⟩

instance : Store Unavailable where
  reachable := pure false

end Unavailable

end Fostering
