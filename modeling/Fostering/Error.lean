/-!
# Why an operation is refused

Every operation of the library either gives its result or one of the six causes below. The two
readings of a cause are kept apart on purpose:

* `Error.message` is the text for logs and for callers inside the service; it says everything;
* `Error.status`, `Error.code` and `Error.publicMessage` are what a client is told; an internal
  cause is told to nobody (`publicMessage_internal`).
-/

namespace Fostering

/-- The cause for which an operation on the records or a rule of the service refuses. -/
inductive Error where
  /-- No such row, or one that the caller may not see. -/
  | notFound (entity : String) (id : Int)
  /-- The caller's input breaks a rule. -/
  | validation (message : String)
  /-- The input clashes with a row that exists. -/
  | conflict (message : String)
  /-- The caller is not who they claim to be. -/
  | unauthorized (message : String)
  /-- The caller may not do this. -/
  | forbidden (message : String)
  /-- A failure that is no fault of the caller. -/
  | internal (message : String)
  deriving DecidableEq, Inhabited

namespace Error

/-- The full text of a cause. -/
def message : Error → String
  | notFound entity id => "Entity not found: " ++ entity ++ " with id " ++ toString id
  | validation m => "Validation failed: " ++ m
  | conflict m => "Conflict: " ++ m
  | unauthorized m => "Unauthorized: " ++ m
  | forbidden m => "Forbidden: " ++ m
  | internal m => "Internal error: " ++ m

/-- The HTTP status that stands for a cause. -/
def status : Error → Nat
  | notFound .. => 404
  | validation _ => 400
  | conflict _ => 409
  | unauthorized _ => 401
  | forbidden _ => 403
  | internal _ => 500

/-- The stable name of a cause in an answer. -/
def code : Error → String
  | notFound .. => "NOT_FOUND"
  | validation _ => "VALIDATION_ERROR"
  | conflict _ => "CONFLICT"
  | unauthorized _ => "UNAUTHORIZED"
  | forbidden _ => "FORBIDDEN"
  | internal _ => "INTERNAL_ERROR"

/-- What a client reads when the fault is ours: the same words for every internal cause. -/
def hiddenMessage : String := "An internal error occurred"

/-- The text that a client reads. -/
def publicMessage : Error → String
  | notFound entity id => entity ++ " with id " ++ toString id ++ " not found"
  | validation m | conflict m | unauthorized m | forbidden m => m
  | internal _ => hiddenMessage

/-- The text of an internal cause never reaches a client. -/
@[simp] theorem publicMessage_internal (m : String) :
    (internal m).publicMessage = hiddenMessage := rfl

end Error

end Fostering
