import Fostering.Power

/-!
# When reports block a post

Enough reports block a post without a moderator. The number is configured; zero or less switches
the rule off. A post keeps the number of its reports in a signed word of 32 bits
(`reportsColumn`), which is exact below two thousand million (`reportsColumn_eq`).
-/

namespace Fostering

/-- Whether this many reports block a post. -/
def reachesBlockThreshold (reports threshold : Int) : Bool :=
  0 < threshold && threshold ≤ reports

/-- Reports block from the threshold on, if there is one. -/
theorem reachesBlockThreshold_iff {reports threshold : Int} :
    reachesBlockThreshold reports threshold = true ↔ 0 < threshold ∧ threshold ≤ reports := by
  simp [reachesBlockThreshold]

/-- A number of reports as a post keeps it: a signed word of 32 bits, which wraps around. -/
def reportsColumn (reports : Int) : Int := reports.bmod (2 ^ 32)

/-- Up to two thousand million reports the column is exact. -/
theorem reportsColumn_eq {reports : Int} (h : 0 ≤ reports) (hlt : reports < 2 ^ 31) :
    reportsColumn reports = reports := by
  unfold reportsColumn
  exact Int.bmod_eq_of_le (by omega) (by omega)

@[simp] theorem reportsColumn_zero : reportsColumn 0 = 0 := rfl

end Fostering
