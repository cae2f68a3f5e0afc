import Fostering.Grade
import Fostering.Service.Ownership
import Fostering.Store.Interface

/-!
# Reviews

A user may grade every keeper but themselves. The grade is checked first, then the keeper is looked
for, then the two are told apart.
-/

namespace Fostering.Reviews

/-- The cause of a review of oneself. -/
def selfReview : Error := .forbidden "Keepers cannot review themselves"

variable {σ : Type} [Store.Records σ Review ReviewFilter]

/-- Reviews a keeper. -/
def create [Store.Records σ Keeper KeeperFilter] (actor keeperId : Int) (request : CreateReview) :
    Op σ Review := do
  Op.ofExcept (checkGrade request.grade)
  let keeper : Keeper ← Store.Records.find keeperId
  Op.guard (keeper.userId ≠ actor) selfReview
  Store.Records.create (← stamped (request.toReview keeperId actor))

/-- A review. -/
def get (id : Int) : Op σ Review := Store.Records.find id

/-- A page of the reviews of a live keeper. -/
def listFor [Store.Records σ Keeper KeeperFilter] (keeperId : Int) (sort : Option String)
    (page : Page) (defaults : DefaultOrder) : Op σ (List Review) := do
  let order ← Op.ofExcept (ListOrder.forRequest sort Review.sortFields defaults)
  let _ : Keeper ← Store.Records.find keeperId
  Store.Records.list (⟨keeperId⟩ : ReviewFilter) order page

/-- Changes a review of the actor. -/
def update (actor id : Int) (request : UpdateReview) : Op σ Review := do
  let _ ← Op.ofExcept (request.grade.value?.mapM checkGrade)
  let review : Review ← Store.Records.find id
  ensureOwner actor review.authorId "Review"
  Store.Records.update (← touched (request.apply review))

/-- Deletes a review of the actor. -/
def delete (actor id : Int) : Op σ Unit := do
  let review : Review ← Store.Records.find id
  ensureOwner actor review.authorId "Review"
  Store.Records.delete Review id

end Fostering.Reviews
