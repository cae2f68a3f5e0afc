import Fostering.Power
import Fostering.Time.Calendar
import Fostering.Time.Instant

/-!
# Lifetimes

A lifetime is configured as a number of minutes or days, and may be so long or so negative that its
end has no number or no date. The service has no answer then: it aborts with one of the messages
below.
-/

namespace Fostering.Lifetime

/-- Why the end of a lifetime cannot be told. -/
inductive Fault where
  /-- The lifetime has no number of seconds. -/
  | product
  /-- The end has no number of seconds. -/
  | sum
  /-- There are too many days. -/
  | days
  /-- The end has no date. -/
  | date
  deriving DecidableEq

/-- The last words of the service. -/
def Fault.message : Fault → String
  | product => "attempt to multiply with overflow"
  | sum => "attempt to add with overflow"
  | days => "TimeDelta::days out of bounds"
  | date => "`DateTime + TimeDelta` overflowed"

/-- Whether a number of seconds fits the clock. -/
def fitsClock (n : Int) : Bool := -(2 ^ 63) ≤ n && n < 2 ^ 63

/-- The seconds in a number of minutes. -/
def ofMinutes (minutes : Int) : Except Fault Int :=
  if fitsClock (minutes * 60) then .ok (minutes * 60) else .error .product

/-- The second at which something ends that lasts a number of seconds. -/
def endSecond (now : Instant) (seconds : Int) : Except Fault Int :=
  if fitsClock (now.seconds + seconds) then .ok (now.seconds + seconds) else .error .sum

/-- Most days of a lifetime. -/
def maxDays : Int := 106751991167

/-- The first year and the last year that dates may have. -/
def yearRange : Int × Int := (-262143, 262142)

/-- The instant a number of days later. -/
def afterDays (now : Instant) (days : Int) : Except Fault Instant :=
  if days < -maxDays ∨ maxDays < days then .error .days
  else
    let later := now.addSeconds (days * 86400)
    let year := (Date.ofDays (later.seconds / 86400)).year
    if year < yearRange.1 ∨ yearRange.2 < year then .error .date else .ok later

end Fostering.Lifetime
