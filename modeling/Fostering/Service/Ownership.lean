import Fostering.Entry
import Fostering.Store.Op

/-!
# Owners

Whoever changes or deletes a row has to own it.
-/

namespace Fostering

/-- Refuses unless the actor owns the row; `what` names it in the message. -/
def ensureOwner {σ : Type} (actor owner : Int) (what : String) : Op σ Unit :=
  Op.guard (actor = owner) (.forbidden (what ++ " belongs to another user"))

/-- A new row with the dates that were not set filled in. -/
def stamped {σ ρ : Type} [HasEntry ρ] (row : ρ) : Op σ ρ := do
  let time ← Op.now
  return HasEntry.modifyEntry (·.stamped time) row

/-- A row that is changed now. -/
def touched {σ ρ : Type} [HasEntry ρ] (row : ρ) : Op σ ρ := do
  let time ← Op.now
  return HasEntry.modifyEntry (·.touched time) row

end Fostering
