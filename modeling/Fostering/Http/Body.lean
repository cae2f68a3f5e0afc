import Fostering.Http.Failure
import Fostering.Request

/-!
# Bodies of requests

A body is limited in size, has to be a request of the wanted shape, and the request has to keep its
rules, in this order.
-/

namespace Fostering

/-- Most bytes of a body. -/
def maxBody : Nat := 2097152

/-- Takes a request from a body. -/
def receive (ρ : Type) [Request ρ] (body : Bytes) : Except Failure ρ := do
  if maxBody < body.length then
    throw (.badRequest "Failed to buffer the request body: length limit exceeded")
  match Request.read ρ body with
  | .error fault => throw (.badRequest ("Invalid JSON body: " ++ fault.message))
  | .ok request =>
    match validate (Request.violations request) with
    | .error cause => throw (.refused cause)
    | .ok _ => return request

end Fostering
