import Fostering.Http.Message

/-!
# Requests from other origins

A browser lets a page of another origin read a reply only if the reply says so. The service says so
to a configured list of origins, and answers every `OPTIONS` request itself, whatever its path.
-/

namespace Fostering.Cors

/-- The origin of a request, if it may read replies. -/
def allowedOrigin? (origins : List String) (incoming : Incoming) : Option String :=
  (incoming.header? "origin").filter origins.contains

/-- The headers of requests on which replies depend. -/
def varyingOn : String := "origin, access-control-request-method, access-control-request-headers"

/-- What every reply tells a browser. -/
def headers (origins : List String) (incoming : Incoming) : List (String × String) :=
  (allowedOrigin? origins incoming).toList.map ("access-control-allow-origin", ·)
    ++ [("vary", varyingOn), ("access-control-allow-credentials", "true")]

/-- What a browser is told before it sends a request proper. -/
def preflightHeaders : List (String × String) :=
  [("access-control-allow-methods", "GET,POST,PUT,DELETE,PATCH"),
    ("access-control-allow-headers", "content-type,authorization"),
    ("access-control-max-age", "3600")]

/-- Whether a browser asks what it may send. -/
def isPreflight (incoming : Incoming) : Bool := incoming.method = "OPTIONS"

/-- The reply to a browser that asks. -/
def preflight (origins : List String) (incoming : Incoming) : Reply :=
  { Reply.ofStatus 200 with headers := headers origins incoming ++ preflightHeaders }

/-- A reply that tells a browser who may read it. -/
def annotate (origins : List String) (incoming : Incoming) (reply : Reply) : Reply :=
  { reply with headers := reply.headers ++ headers origins incoming }

end Fostering.Cors
