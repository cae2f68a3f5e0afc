import Fostering.Http.Failure
import Fostering.Text.Utf8

/-!
# Requests and replies

What a client sends and what it gets back. A reply carries its content as a value, not as bytes:
either nothing, or JSON, or plain text. Every reply says how many bytes its content has.
-/

namespace Fostering

/-- What a client sends. -/
structure Incoming where
  /-- The method, in the client's spelling. -/
  method : String
  /-- The path, its escapes still in place. -/
  path : String
  /-- The part after the question mark. -/
  query : Bytes := []
  /-- Names and values, in the order in which they were sent. -/
  headers : List (String × String) := []
  body : Bytes := []
  deriving DecidableEq, Inhabited

/-- A request for a target: a path and, after a question mark, a query. A hash sign ends the target. -/
def Incoming.ofTarget (method target : String) (headers : List (String × String)) (body : Bytes) :
    Incoming :=
  let cs := target.toList.takeWhile (· ≠ '#')
  { method, path := String.ofList (cs.takeWhile (· ≠ '?')),
    query := Utf8.encode (String.ofList ((cs.dropWhile (· ≠ '?')).drop 1)), headers, body }

/-- The first value under a name; letters count alike in both cases. -/
def Incoming.header? (incoming : Incoming) (name : String) : Option String :=
  (incoming.headers.find? fun header => header.1.toLower = name).map (·.2)

/-- What a reply carries. -/
inductive Content where
  | empty
  | json (value : Json)
  | plain (text : String)

namespace Content

/-- The bytes of a content. -/
def bytes : Content → Bytes
  | empty => []
  | json value => Utf8.encode value.render
  | plain text => Utf8.encode text

/-- The kind of a content, for clients. -/
def type? : Content → Option String
  | empty => none
  | json _ => some "application/json"
  | plain _ => some "text/plain; charset=utf-8"

end Content

/-- What a client gets back. -/
structure Reply where
  status : Nat
  headers : List (String × String) := []
  content : Content := .empty

namespace Reply

/-- A reply with a content of some kind. -/
def ofContent (status : Nat) (content : Content) : Reply :=
  ⟨status, content.type?.toList.map ("content-type", ·), content⟩

/-- A reply without content. -/
def ofStatus (status : Nat) : Reply := ofContent status .empty

/-- A reply to a request that is malformed before anybody looks at its body. -/
def malformed (message : String) : Reply := ofContent 400 (.plain message)

/-- A reply that shows what was asked for. -/
def success (status : Nat) (data : Json) : Reply := ofContent status (.json (successBody data))

/-- A reply that tells why there is no result. -/
def failure (f : Failure) : Reply := ofContent f.status (.json f.body)

/-- A reply with one more header. -/
def withHeader (reply : Reply) (name value : String) : Reply :=
  { reply with headers := reply.headers ++ [(name, value)] }

/-- A reply that says how long its content is. -/
def withLength (reply : Reply) : Reply :=
  reply.withHeader "content-length" (toString reply.content.bytes.length)

/-- A reply of which only the status and the headers are sent. -/
def withoutContent (reply : Reply) : Reply := { reply with content := .empty }

/-- The first value under a name. -/
def header? (reply : Reply) (name : String) : Option String := reply.headers.lookup name

end Reply

end Fostering
