import Fostering.Database.Records

/-!
# Reviews

A keeper carries the average of the grades in the live reviews. Every change of a review works it out
anew in the same transaction, for a deleted keeper too.
-/

namespace Fostering.Database

/-- The rating that follows from the live reviews of a keeper. -/
def ratingOf (t : Tables) (keeperId : Int) : Binary64 :=
  averageGrade ((t.reviews.filter fun r => r.keeperId = keeperId && r.entry.isLive).map Review.grade)

/-- Works the rating of a keeper out anew. -/
def refreshRating (keeperId : Int) : Op Database Unit := do
  let rating ← look fun t => ratingOf t keeperId
  let time ← now
  updateWhere (fun k : Keeper => k.entry.id = keeperId) fun k =>
    { k with entry := k.entry.touched time, rating }

/-- Makes a review of a live keeper. -/
def createReview (given : Review) : Op Database Review := atomically do
  let _ ← find Keeper given.keeperId
  let review ← create given
  refreshRating review.keeperId
  return review

/-- Changes a review. -/
def updateReview (given : Review) : Op Database Review := atomically do
  let review ← update given
  refreshRating review.keeperId
  return review

/-- Deletes a review. -/
def deleteReview (id : Int) : Op Database Unit := atomically do
  let review ← find Review id
  delete Review id
  refreshRating review.keeperId

end Fostering.Database
