/-!
# Points in time

An instant is a whole second of universal time and the nanoseconds after it. A leap second has no
number of its own: it is written as the second before it with a thousand million nanoseconds or
more, so instants are ordered by second first and by nanoseconds next.

Stores keep microseconds, counted from the first day of the year 2000; `Instant.stored` is what an
instant becomes there.
-/

namespace Fostering

/-- A point in time. -/
structure Instant where
  /-- Seconds since 1970-01-01T00:00:00Z. -/
  seconds : Int
  /-- Nanoseconds after that second; a thousand million and more in a leap second. -/
  nanos : Nat
  deriving DecidableEq, Inhabited

namespace Instant

/-- The start of 1970, which stands for an instant that was never set. -/
def unset : Instant := ⟨0, 0⟩

/-- Nanoseconds since the start of 1970. -/
def toNanos (t : Instant) : Int := t.seconds * 1000000000 + t.nanos

/-- The instant this many nanoseconds after the start of 1970. -/
def ofNanos (n : Int) : Instant := ⟨n / 1000000000, (n % 1000000000).toNat⟩

/-- Whether `a` comes before `b`. -/
def before (a b : Instant) : Bool :=
  a.seconds < b.seconds || (a.seconds == b.seconds && a.nanos < b.nanos)

/-- `now` for an instant that was never set, and the instant itself otherwise. -/
def fillIfUnset (t now : Instant) : Instant := if t = unset then now else t

/-- Seconds from the start of 1970 to the start of 2000, from which stores count. -/
def storeEpoch : Int := 946684800

/-- What a store keeps of an instant: whole microseconds, the rest cut off toward the year 2000. -/
def stored (t : Instant) : Instant :=
  let micros := Int.tdiv (t.toNanos - storeEpoch * 1000000000) 1000
  ofNanos (micros * 1000 + storeEpoch * 1000000000)

/-- The first microsecond, counted from 2000, that a store can keep: Julian day zero. -/
def storeMin : Int := -211813488000000000

/-- Whether a store can keep this instant. -/
def isStorable (t : Instant) : Bool :=
  storeMin ≤ Int.tdiv (t.toNanos - storeEpoch * 1000000000) 1000

/-- The instant this many seconds later. -/
def addSeconds (t : Instant) (n : Int) : Instant := { t with seconds := t.seconds + n }

@[simp] theorem fillIfUnset_unset (now : Instant) : unset.fillIfUnset now = now := by
  simp [fillIfUnset]

/-- No instant comes before itself. -/
theorem before_irrefl (a : Instant) : a.before a = false := by
  simp [before]

/-- What comes before something comes before all that follows. -/
theorem before_trans {a b c : Instant} (hab : a.before b = true) (hbc : b.before c = true) :
    a.before c = true := by
  simp only [before, Bool.or_eq_true, Bool.and_eq_true, decide_eq_true_eq, beq_iff_eq] at *
  omega

/-- Not to come after is transitive. -/
theorem not_before_trans {a b c : Instant} (hab : b.before a = false) (hbc : c.before b = false) :
    c.before a = false := by
  simp only [before, Bool.or_eq_false_iff, Bool.and_eq_false_iff, decide_eq_false_iff_not,
    beq_eq_false_iff_ne] at *
  omega

/-- Of two instants one at most comes before the other. -/
theorem before_asymm {a b : Instant} (h : a.before b = true) : b.before a = false := by
  rcases hba : b.before a with _ | _
  · rfl
  · have haa := before_trans h hba
    rw [before_irrefl] at haa
    cases haa

end Instant

end Fostering
