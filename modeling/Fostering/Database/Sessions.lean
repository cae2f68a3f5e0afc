import Fostering.Database.Rows

/-!
# Sessions

A user has one session at most on a device: a new one takes the place of the old one and keeps its
id, though it uses up an id all the same. A session that has run out is as good as gone.
-/

namespace Fostering.Database

/-- Whether a session has a digest and has not run out. -/
def isCurrent (hash : String) (now : Instant) (s : Session) : Bool :=
  s.tokenHash = hash && now.before s.expiresAt

/-- Refuses a text that has no stored form. -/
def guardText (s : String) : Op Database Unit := Op.guard (isStorableText s) unstorable

/-- Stores the session of a user on a device, in the place of an earlier one. -/
def upsertSession (given : Session) : Op Database Session := do
  guardStorable given
  let id ← takeId Session
  let time ← now
  let given := { given with id, expiresAt := given.expiresAt.stored, createdAt := time }
  match ← find? fun s : Session => s.userId = given.userId && s.fingerprint = given.fingerprint with
  | some old =>
    let session := { given with id := old.id }
    guardRow session
    replace session
    return session
  | none =>
    guardKey given
    guardRow given
    guardReferences given
    append given
    return given

/-- The session with a digest that has not run out. -/
def findSession (hash : String) : Op Database (Option Session) := do
  guardText hash
  let time ← now
  find? (isCurrent hash time)

/-- The session with a digest that has not run out, which is erased. -/
def takeSession (hash : String) : Op Database (Option Session) := do
  guardText hash
  let time ← now
  let session? ← find? (isCurrent hash time)
  eraseWhere (isCurrent hash time)
  return session?

/-- Erases the session of a user on a device; tells whether there was one. -/
def deleteSession (userId : Int) (fingerprint : String) : Op Database Bool := do
  guardText fingerprint
  let p (s : Session) : Bool := s.userId = userId && s.fingerprint = fingerprint
  let session? ← find? p
  eraseWhere p
  return session?.isSome

end Fostering.Database
