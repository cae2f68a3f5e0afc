import Fostering.Listing.Sort
import Fostering.Text.Integer
import Fostering.Text.Quoted

/-!
# Configuration

The service is configured by environment variables, all of which but the secret of the tokens have a
standard value. A malformed value stops the service at its start, with a message that names the
variable.
-/

namespace Fostering

/-- How tokens are made. -/
structure TokenConfig where
  /-- The key that access tokens are signed with. -/
  secret : String
  /-- Minutes for which an access token is good. -/
  accessMins : Int := 15
  /-- Days for which a refresh token is good. -/
  refreshDays : Int := 30
  deriving DecidableEq

/-- The configuration of the service. -/
structure Config where
  host : String
  port : Int
  corsOrigins : List String
  timeoutSecs : Int
  token : TokenConfig
  defaultSort : DefaultOrder
  reportThreshold : Int
  deriving DecidableEq

namespace Config

/-- The variables that are set. -/
abbrev Environment := List (String × String)

/-- Reads a number from a variable, or says why the service stops. -/
def readNumber (env : Environment) (name : String) (bounds : Bounds) (type : String)
    (standard : Int) : Except String Int :=
  match env.lookup name with
  | none => .ok standard
  | some value =>
    match bounds.read value with
    | .ok n => .ok n
    | .error fault =>
      .error (name ++ " must be a valid " ++ type ++ ": ParseIntError \x7b kind: " ++ fault.name
        ++ " \x7d")

/-- The origins in a list with commas between them. -/
def readOrigins (value : String) : List String :=
  ((value.splitOn ",").map Text.trim).filter (!·.isEmpty)

/-- Reads the order of lists that are asked for without one. -/
def readDefaultSort (env : Environment) : Except String DefaultOrder :=
  match DefaultOrder.read ((env.lookup "DEFAULT_SORT").getD "created_at:desc") with
  | .ok order => .ok order
  | .error fault =>
    .error ("DEFAULT_SORT must look like 'field:asc' or 'field:desc': Validation("
      ++ Text.quoted fault.message ++ ")")

/-- Reads how tokens are made. -/
def readToken (env : Environment) : Except String TokenConfig := do
  let secret ← match env.lookup "JWT_SECRET" with
    | some secret => .ok secret
    | none => .error "JWT_SECRET must be set in the environment: NotPresent"
  if secret.isEmpty then .error "JWT_SECRET must not be empty"
  let accessMins ← readNumber env "JWT_ACCESS_EXPIRY_MINS" .i64 "i64" 15
  let refreshDays ← readNumber env "JWT_REFRESH_EXPIRY_DAYS" .i64 "i64" 30
  return { secret, accessMins, refreshDays }

/-- Reads the configuration, or says why the service stops. -/
def read (env : Environment) : Except String Config := do
  let host := (env.lookup "HOST").getD "0.0.0.0"
  let port ← readNumber env "PORT" .u16 "u16" 3000
  let corsOrigins := readOrigins ((env.lookup "CORS_ORIGINS").getD "http://localhost:5173")
  let timeoutSecs ← readNumber env "REQUEST_TIMEOUT_SECS" .u64 "u64" 30
  let defaultSort ← readDefaultSort env
  let reportThreshold ← readNumber env "MODERATION_REPORT_THRESHOLD" .i64 "i64" 10
  let token ← readToken env
  return { host, port, corsOrigins, timeoutSecs, token, defaultSort, reportThreshold }

end Config

end Fostering
