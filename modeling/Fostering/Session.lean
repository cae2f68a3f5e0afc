import Fostering.Json.Record
import Fostering.Time.Rfc3339
import Fostering.Validation

/-!
# Sessions

A user who logs in gets a short-lived access token and a refresh token. The refresh token belongs to
the device that the client named with a fingerprint, and of the token only a digest is kept.
-/

namespace Fostering

open Json (Row Shape)
open Violation (ofLength)

/-- What is kept of a refresh token. A user has one session at most for each fingerprint. -/
structure Session where
  id : Int := 0
  userId : Int := 0
  tokenHash : String := ""
  fingerprint : String := ""
  expiresAt : Instant := .unset
  createdAt : Instant := .unset
  deriving DecidableEq, Inhabited

/-- A request to log in. -/
structure LoginRequest where
  username : String := ""
  password : String := ""
  fingerprint : String := ""
  deriving DecidableEq, Inhabited

namespace LoginRequest

/-- The fields of the request. -/
abbrev shape : Shape :=
  ⟨"LoginRequest", [⟨"username", .text, .required⟩, ⟨"password", .text, .required⟩,
    ⟨"fingerprint", .text, .required⟩]⟩

/-- The request in a row. -/
def ofRow : Row shape.fields → LoginRequest
  | (username, password, fingerprint, ()) => { username, password, fingerprint }

/-- The rules that the request breaks. -/
def violations (r : LoginRequest) : List Violation :=
  ofLength "username" (some 1) none r.username ++ ofLength "password" (some 1) none r.password
    ++ ofLength "fingerprint" (some 1) (some 255) r.fingerprint

end LoginRequest

/-- A request for new tokens in exchange for a refresh token. -/
structure RefreshRequest where
  refreshToken : String := ""
  fingerprint : String := ""
  deriving DecidableEq, Inhabited

namespace RefreshRequest

/-- The fields of the request. -/
abbrev shape : Shape :=
  ⟨"RefreshRequest", [⟨"refresh_token", .text, .required⟩, ⟨"fingerprint", .text, .required⟩]⟩

/-- The request in a row. -/
def ofRow : Row shape.fields → RefreshRequest
  | (refreshToken, fingerprint, ()) => { refreshToken, fingerprint }

/-- The rules that the request breaks. -/
def violations (r : RefreshRequest) : List Violation :=
  ofLength "refresh_token" (some 1) none r.refreshToken
    ++ ofLength "fingerprint" (some 1) (some 255) r.fingerprint

end RefreshRequest

/-- A request to end the session of a device. -/
structure LogoutRequest where
  fingerprint : String := ""
  deriving DecidableEq, Inhabited

namespace LogoutRequest

/-- The fields of the request. -/
abbrev shape : Shape := ⟨"LogoutRequest", [⟨"fingerprint", .text, .required⟩]⟩

/-- The request in a row. -/
def ofRow : Row shape.fields → LogoutRequest
  | (fingerprint, ()) => { fingerprint }

/-- The rules that the request breaks. -/
def violations (r : LogoutRequest) : List Violation :=
  ofLength "fingerprint" (some 1) (some 255) r.fingerprint

end LogoutRequest

end Fostering
