import Fostering.Password
import Fostering.Time.Lifetime

/-!
# Breaking off

Two things make the service break off an operation without any answer of its own: a configured
lifetime that has no end, and a stored password digest with more lanes than can be counted.
-/

namespace Fostering

/-- Why the service breaks off. -/
inductive Breakdown where
  /-- A lifetime has no end. -/
  | lifetime (fault : Lifetime.Fault)
  /-- A stored digest has too many lanes. -/
  | lanes
  deriving DecidableEq

/-- The last words of the service. -/
def Breakdown.message : Breakdown → String
  | lifetime fault => fault.message
  | lanes => Password.Fault.lanesOverflow.message

end Fostering
