import Fostering.Error
import Fostering.Json.Value

/-!
# Answers to clients

Every answer with a body is an object of two fields, `status` and `data`. On success `data` is what
was asked for; on failure it has a stable code and a message.
-/

namespace Fostering

/-- Why a client gets no result. -/
inductive Failure where
  /-- An operation refused. -/
  | refused (cause : Error)
  /-- The request is malformed. -/
  | badRequest (message : String)
  /-- The service failed outside any operation. -/
  | broken (message : String)
  deriving DecidableEq

namespace Failure

/-- The full text of a failure. -/
def message : Failure → String
  | refused cause => cause.message
  | badRequest m => "Bad request: " ++ m
  | broken m => "Internal error: " ++ m

/-- The HTTP status of a failure. -/
def status : Failure → Nat
  | refused cause => cause.status
  | badRequest _ => 400
  | broken _ => 500

/-- The stable name of a failure. -/
def code : Failure → String
  | refused cause => cause.code
  | badRequest _ => "BAD_REQUEST"
  | broken _ => "INTERNAL_ERROR"

/-- The text that the client reads. -/
def publicMessage : Failure → String
  | refused cause => cause.publicMessage
  | badRequest m => m
  | broken _ => Error.hiddenMessage

/-- The body of a failed answer. -/
def body (f : Failure) : Json :=
  .object [("status", .text "error"),
    ("data", .object [("code", .text f.code), ("message", .text f.publicMessage)])]

end Failure

/-- The body of a successful answer. -/
def successBody (data : Json) : Json := .object [("status", .text "success"), ("data", data)]

end Fostering
