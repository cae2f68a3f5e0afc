import Fostering.Http.Cors
import Fostering.Http.Handler

/-!
# The service as a whole

`App.answer` looks the endpoint of a request up and lets it answer. `App.serve` puts the outer layers
around that: it deals with browsers of other origins, names every request, and turns an operation
that was broken off into a reply, so that there always is one. Both are functions of the store: what
comes out is what the client gets and the store after it.
-/

namespace Fostering.App

variable {σ : Type}

/-- Carries out what was planned. -/
def run (action : Action σ) (now : Instant) (s : σ) : Except Breakdown Reply × σ :=
  match action.exec now s with
  | (.ok outcome, s') => (outcome, s')
  | (.error cause, s') => (.ok (.failure (.refused cause)), s')

/-- What an endpoint says to a request. -/
def react [Store σ] (x : Exchange) (endpoint : Endpoint) (s : σ) : Except Breakdown Reply × σ :=
  match x.plan endpoint with
  | .error reply => (.ok reply, s)
  | .ok action => run action x.now s

/-- What is said to a request for which there is no endpoint. -/
def declined : Endpoint.Found → Reply
  | .otherMethods allow => (Reply.ofStatus 405).withHeader "allow" allow
  | _ => .ofStatus 404

/-- What is said to a request. -/
def dispatch [Store σ] (config : Config) (random : Bytes) (incoming : Incoming) (now : Instant)
    (s : σ) : Except Breakdown Reply × σ :=
  match Endpoint.find incoming with
  | .endpoint endpoint id? => react { config, now, random, incoming, id? } endpoint s
  | found => (.ok (declined found), s)

/-- A reply as it is sent: it says how long it is, and for `HEAD` that is all that is sent. -/
def sent (incoming : Incoming) (reply : Reply) : Reply :=
  if incoming.method = "HEAD" then reply.withLength.withoutContent else reply.withLength

/-- Answers a request without the outer layers. -/
def answer [Store σ] (config : Config) (random : Bytes) (incoming : Incoming) (now : Instant)
    (s : σ) : Except Breakdown Reply × σ :=
  let (outcome, s') := dispatch config random incoming now s
  (outcome.map (sent incoming), s')

/-! ## The outer layers -/

/-- The header with the name of a request. -/
def requestIdHeader : String := "x-request-id"

/-- The name of a request: the client's own, or a fresh one. -/
def requestId (random : Bytes) (incoming : Incoming) : String :=
  (incoming.header? requestIdHeader).getD (Uuid.text (random.drop 32))

/-- What the client gets for an operation that was broken off. -/
def brokenOff : Reply := .ofContent 500 (.plain "Service panicked")

/-- What is said to a browser that asks what it may send; it learns the methods of the path, too. -/
def preflight (origins : List String) (incoming : Incoming) : Reply :=
  match Endpoint.find incoming with
  | .otherMethods allow => (Cors.preflight origins incoming).withHeader "allow" allow
  | _ => Cors.preflight origins incoming

/-- Answers a request. -/
def serve [Store σ] (config : Config) (random : Bytes) (incoming : Incoming) (now : Instant) (s : σ) :
    Reply × σ :=
  if Cors.isPreflight incoming then (sent incoming (preflight config.corsOrigins incoming), s)
  else
    let (outcome, s') := dispatch config random incoming now s
    let reply := match outcome with
      | .ok reply => reply
      | .error _ => brokenOff
    let named := reply.withHeader requestIdHeader (requestId random incoming)
    (sent incoming (Cors.annotate config.corsOrigins incoming named), s')

end Fostering.App
