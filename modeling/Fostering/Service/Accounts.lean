import Fostering.Password
import Fostering.Service.Ownership
import Fostering.Store.Interface

/-!
# Accounts

Anyone may register; everything else an account owner does to their own account only. Of a password
nothing but a digest is stored.
-/

namespace Fostering.Accounts

variable {σ : Type} [Store.Users σ]

/-- Registers a user; the salt is fresh. -/
def register (salt : Bytes) (request : RegisterUser) : Op σ User := do
  Store.Records.create (← stamped (request.toUser (Password.hash salt request.password)))

/-- A user. -/
def get (id : Int) : Op σ User := Store.Records.find id

/-- A page of the users. -/
def list (filter : UserFilter) (sort : Option String) (page : Page) (defaults : DefaultOrder) :
    Op σ (List User) := do
  let order ← Op.ofExcept (ListOrder.forRequest sort User.sortFields defaults)
  Store.Records.list filter order page

/-- Changes the actor's own account. -/
def update (actor id : Int) (request : UpdateUser) : Op σ User := do
  ensureOwner actor id "Account"
  let user : User ← Store.Records.find id
  Store.Records.update (← touched (request.apply user))

/-- Deletes the actor's own account. -/
def delete (actor id : Int) : Op σ Unit := do
  ensureOwner actor id "Account"
  Store.Records.delete User id

end Fostering.Accounts
