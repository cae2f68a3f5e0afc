import Fostering.Entry
import Fostering.Json.Record
import Fostering.Validation

/-!
# Users

A user registers with a name, a mail address and a password, and may change everything but the
password later. What others see of a user (`User.view`) has no trace of the password.
-/

namespace Fostering

open Json (Row Shape)
open Violation (ofEmail ofLength ofOption)

/-- An account. -/
structure User where
  entry : Entry := {}
  username : String := ""
  email : String := ""
  passwordHash : String := ""
  firstName : String := ""
  lastName : String := ""
  city : Option String := none
  phone : Option String := none
  about : Option String := none
  isModerator : Bool := false
  deriving DecidableEq, Inhabited

namespace User

instance : HasEntry User := ⟨User.entry, fun e u => { u with entry := e }, fun _ _ => rfl⟩

instance : Columns User :=
  ⟨Columns.ofEntry fun
    | "username" => some fun u => .text u.username
    | "email" => some fun u => .text u.email
    | "password_hash" => some fun u => .text u.passwordHash
    | "first_name" => some fun u => .text u.firstName
    | "last_name" => some fun u => .text u.lastName
    | "city" => some fun u => .ofOption .text u.city
    | "phone" => some fun u => .ofOption .text u.phone
    | "about" => some fun u => .ofOption .text u.about
    | "is_moderator" => some fun u => .flag u.isModerator
    | _ => none⟩

/-- The columns that clients may sort users by. -/
def sortFields : List String := ["created_at", "updated_at", "username"]

/-- What clients see of a user. -/
def view (u : User) : Json :=
  .object [("id", .int u.entry.id), ("username", .text u.username), ("email", .text u.email),
    ("first_name", .text u.firstName), ("last_name", .text u.lastName), ("city", .ofText? u.city),
    ("phone", .ofText? u.phone), ("about", .ofText? u.about), ("is_moderator", .flag u.isModerator),
    ("created_at", .ofInstant u.entry.createdAt)]

end User

/-- Which users a list shows. -/
structure UserFilter where
  city : Option String := none
  deriving DecidableEq, Inhabited

/-- A request for a new account. -/
structure RegisterUser where
  username : String := ""
  email : String := ""
  password : String := ""
  firstName : String := ""
  lastName : String := ""
  city : Option String := none
  phone : Option String := none
  about : Option String := none
  deriving DecidableEq, Inhabited

namespace RegisterUser

/-- The fields of the request. -/
abbrev shape : Shape :=
  ⟨"RegisterUser", [⟨"username", .text, .required⟩, ⟨"email", .text, .required⟩,
    ⟨"password", .text, .required⟩, ⟨"first_name", .text, .defaulted⟩,
    ⟨"last_name", .text, .defaulted⟩, ⟨"city", .text, .optional⟩, ⟨"phone", .text, .optional⟩,
    ⟨"about", .text, .optional⟩]⟩

/-- The request in a row. -/
def ofRow : Row shape.fields → RegisterUser
  | (username, email, password, firstName, lastName, city, phone, about, ()) =>
    { username, email, password, firstName, lastName, city, phone, about }

/-- The rules that the request breaks. -/
def violations (r : RegisterUser) : List Violation :=
  ofLength "username" (some 3) (some 32) r.username ++ ofEmail "email" r.email
    ++ ofLength "password" (some 8) (some 128) r.password
    ++ ofLength "first_name" none (some 64) r.firstName
    ++ ofLength "last_name" none (some 64) r.lastName
    ++ ofOption (ofLength "city" none (some 64)) r.city
    ++ ofOption (ofLength "phone" none (some 32)) r.phone
    ++ ofOption (ofLength "about" none (some 2000)) r.about

/-- The account that is asked for; the password is in it as a digest only. -/
def toUser (r : RegisterUser) (passwordHash : String) : User :=
  { username := r.username, email := r.email, passwordHash, firstName := r.firstName,
    lastName := r.lastName, city := r.city, phone := r.phone, about := r.about }

end RegisterUser

/-- A request to change a profile. -/
structure UpdateUser where
  username : Change String := .keep
  email : Change String := .keep
  firstName : Change String := .keep
  lastName : Change String := .keep
  city : Change (Option String) := .keep
  phone : Change (Option String) := .keep
  about : Change (Option String) := .keep
  deriving DecidableEq, Inhabited

namespace UpdateUser

/-- The fields of the request. -/
abbrev shape : Shape :=
  ⟨"UpdateUser", [⟨"username", .text, .changeable⟩, ⟨"email", .text, .changeable⟩,
    ⟨"first_name", .text, .changeable⟩, ⟨"last_name", .text, .changeable⟩,
    ⟨"city", .text, .clearable⟩, ⟨"phone", .text, .clearable⟩, ⟨"about", .text, .clearable⟩]⟩

/-- The request in a row. -/
def ofRow : Row shape.fields → UpdateUser
  | (username, email, firstName, lastName, city, phone, about, ()) =>
    { username, email, firstName, lastName, city, phone, about }

/-- The rules that the request breaks. -/
def violations (r : UpdateUser) : List Violation :=
  ofOption (ofLength "username" (some 3) (some 32)) r.username.value?
    ++ ofOption (ofEmail "email") r.email.value?
    ++ ofOption (ofLength "first_name" none (some 64)) r.firstName.value?
    ++ ofOption (ofLength "last_name" none (some 64)) r.lastName.value?

/-- The profile after the change. -/
def apply (r : UpdateUser) (u : User) : User :=
  { u with
    username := r.username.apply u.username
    email := r.email.apply u.email
    firstName := r.firstName.apply u.firstName
    lastName := r.lastName.apply u.lastName
    city := r.city.apply u.city
    phone := r.phone.apply u.phone
    about := r.about.apply u.about }

@[simp] theorem apply_default (u : User) : apply {} u = u := rfl

end UpdateUser

end Fostering
