import Fostering.Digest.Sha256
import Fostering.Service.Breakdown
import Fostering.Store.Interface
import Fostering.Token

/-!
# Logging in

Whoever knows the name and the password of a user gets an access token and a refresh token. The
refresh token is good once, and for the device that it was made for: shown by another device it is
taken away and nothing is given for it. A wrong name and a wrong password are told apart by nobody.
-/

namespace Fostering

/-- What a client gets for logging in. -/
structure AuthTokens where
  accessToken : String
  refreshToken : String
  /-- Seconds for which the access token is good. -/
  expiresIn : Int
  user : User
  deriving DecidableEq

/-- What clients see of their tokens. -/
def AuthTokens.view (t : AuthTokens) : Json :=
  .object [("access_token", .text t.accessToken), ("refresh_token", .text t.refreshToken),
    ("expires_in", .int t.expiresIn), ("user", t.user.view)]

/-- What is kept of a refresh token. -/
def refreshDigest (token : String) : String := Bytes.toHex (Sha256.digest (Utf8.encode token))

namespace Logins

/-- The cause of a wrong name and of a wrong password. -/
def badCredentials : Error := .unauthorized "Invalid username or password"

/-- The cause of a refresh token that is not good. -/
def badRefreshToken : Error := .unauthorized "Invalid or expired refresh token"

/-- The cause of a refresh token that another device shows. -/
def otherDevice : Error := .unauthorized "Session fingerprint mismatch"

/-- The cause of a refresh token whose user is gone. -/
def userGone : Error := .unauthorized "User no longer exists"

/-- The tokens for a user and the session to store, or why a lifetime has no end. Sixteen random
bytes name the access token, the next sixteen are the refresh token. -/
def prepare (config : TokenConfig) (now : Instant) (random : Bytes) (user : User)
    (fingerprint : String) : Except Lifetime.Fault (AuthTokens × Session) := do
  let accessToken ← Token.issue config now random user.entry.id user.isModerator
  let refreshToken := Uuid.text (random.drop 16)
  let expiresAt ← Lifetime.afterDays now config.refreshDays
  return (⟨accessToken, refreshToken, config.accessMins * 60, user⟩,
    { userId := user.entry.id, tokenHash := refreshDigest refreshToken, fingerprint, expiresAt })

variable {σ : Type} [Store.Sessions σ]

/-- Gives a user tokens for a device. -/
def issue (config : TokenConfig) (random : Bytes) (user : User) (fingerprint : String) :
    Op σ (Except Breakdown AuthTokens) := do
  match prepare config (← Op.now) random user fingerprint with
  | .error fault => return .error (.lifetime fault)
  | .ok (tokens, session) =>
    let _ ← Store.Sessions.upsert session
    return .ok tokens

/-- What becomes of a login once the password has been held against the stored digest. -/
def judge : Except Password.Fault Bool → Except Error Unit
  | .error fault => .error (.internal ("Password verification error: " ++ fault.message))
  | .ok false => .error badCredentials
  | .ok true => .ok ()

/-- Logs a user in on a device. -/
def login [Store.Users σ] (config : TokenConfig) (random : Bytes) (request : LoginRequest) :
    Op σ (Except Breakdown AuthTokens) := do
  let user ← Op.orRefuse badCredentials (← Store.Users.findByUsername request.username)
  match Password.verify request.password user.passwordHash with
  | .error .lanesOverflow => return .error .lanes
  | verdict =>
    Op.ofExcept (judge verdict)
    issue config random user request.fingerprint

/-- The live user with an id, or the refusal that is meant for a user who is gone. -/
def findOwner [Store.Users σ] (id : Int) : Op σ User := fun now s =>
  match (Store.Records.find id : Op σ User).exec now s with
  | (.error (.notFound _ _), s') => (.error userGone, s')
  | outcome => outcome

/-- Gives new tokens for a refresh token, which is taken away whatever comes after. -/
def refresh [Store.Users σ] (config : TokenConfig) (random : Bytes) (request : RefreshRequest) :
    Op σ (Except Breakdown AuthTokens) := do
  let session ← Op.orRefuse badRefreshToken
    (← Store.Sessions.takeByHash (refreshDigest request.refreshToken))
  Op.guard (session.fingerprint = request.fingerprint) otherDevice
  let user ← findOwner session.userId
  issue config random user request.fingerprint

/-- Ends the session of a user on a device, if there is one. -/
def logout (userId : Int) (fingerprint : String) : Op σ Unit := do
  let _ ← Store.Sessions.deleteFor userId fingerprint

end Logins

end Fostering
