import Fostering.Error

/-!
# Grades of a review

A grade is a whole number from one to five.
-/

namespace Fostering

/-- The worst grade. -/
def minGrade : Int := 1

/-- The best grade. -/
def maxGrade : Int := 5

/-- Refuses a number that is no grade. -/
def checkGrade (grade : Int) : Except Error Unit :=
  if minGrade ≤ grade ∧ grade ≤ maxGrade then .ok ()
  else .error (.validation ("Grade must be between " ++ toString minGrade ++ " and "
    ++ toString maxGrade ++ ", got " ++ toString grade))

/-- A grade is taken exactly if it is one of the five. -/
theorem checkGrade_eq_ok_iff {grade : Int} :
    checkGrade grade = .ok () ↔ minGrade ≤ grade ∧ grade ≤ maxGrade := by
  unfold checkGrade
  split <;> simp_all

end Fostering
