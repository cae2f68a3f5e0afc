import Fostering.Error
import Fostering.Json.Value
import Fostering.Text.Email

/-!
# Rules on requests

A rule bounds the length of a text or the size of a number, or asks for a mail address. A request
lists the rules that it breaks; `validate` turns a list that is not empty into an error.
-/

namespace Fostering

/-- A rule on one field. Lengths count characters. -/
inductive Rule where
  | length (least most : Option Nat)
  | range (least most : Option Int)
  | email
  deriving DecidableEq

namespace Rule

/-- The name of a rule. -/
def code : Rule → String
  | length .. => "length"
  | range .. => "range"
  | email => "email"

/-- The bounds that a rule sets. -/
def bounds : Rule → List (String × Json)
  | length least most =>
    (most.map fun n => ("max", Json.int n)).toList ++ (least.map fun n => ("min", Json.int n)).toList
  | range least most =>
    (most.map fun n => ("max", Json.int n)).toList ++ (least.map fun n => ("min", Json.int n)).toList
  | email => []

/-- Whether a value lies within bounds. -/
def within {α : Type} [LE α] [DecidableLE α] (least most : Option α) (value : α) : Bool :=
  (least.map fun n => decide (n ≤ value)).getD true && (most.map fun n => decide (value ≤ n)).getD true

end Rule

/-- A rule that a field of a request breaks. -/
structure Violation where
  field : String
  rule : Rule
  deriving DecidableEq

namespace Violation

/-- Checks the length of a text. -/
def ofLength (field : String) (least most : Option Nat) (value : String) : List Violation :=
  if Rule.within least most value.length then [] else [⟨field, .length least most⟩]

/-- Checks the size of a number. -/
def ofRange (field : String) (least most : Option Int) (value : Int) : List Violation :=
  if Rule.within least most value then [] else [⟨field, .range least most⟩]

/-- Checks that a text is a mail address. -/
def ofEmail (field : String) (value : String) : List Violation :=
  if Text.isEmail value then [] else [⟨field, .email⟩]

/-- Checks a value that need not be there. -/
def ofOption {α : Type} (check : α → List Violation) : Option α → List Violation
  | none => []
  | some value => check value

/-- A broken rule in words. -/
def message (v : Violation) : String := v.field ++ ": Validation error: " ++ v.rule.code

end Violation

/-- The words for a list of broken rules: a line for each, in alphabetical order. -/
def violationText (violations : List Violation) : String :=
  String.intercalate "\n" ((violations.map Violation.message).mergeSort fun a b => decide (a ≤ b))

/-- Refuses a request that breaks a rule. -/
def validate (violations : List Violation) : Except Error Unit :=
  if violations.isEmpty then .ok () else .error (.validation (violationText violations))

/-- A request is valid exactly if it violates no rule. -/
theorem validate_eq_ok_iff {violations : List Violation} :
    validate violations = .ok () ↔ violations = [] := by
  cases violations <;> simp [validate]

end Fostering
