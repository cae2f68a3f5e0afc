import Fostering.Json.Value

/-!
# What is wrong with a JSON text

A text fails to be a value of the wanted shape either in its syntax or in its meaning. A reader
meets the text from left to right and reports the first fault.
-/

namespace Fostering.Json

/-- What was found where something else was wanted. -/
inductive Found where
  | null
  | flag (value : Bool)
  | int (value : Int)
  | real (value : Binary64)
  | text (value : String)
  | list
  | object
  deriving DecidableEq

/-- Why a text is not a value of the wanted shape. -/
inductive Fault where
  | endInList
  | endInObject
  | endInString
  | endInValue
  | expectedColon
  | expectedListEnd
  | expectedObjectEnd
  | expectedWord
  | expectedValue
  | badEscape
  | badNumber
  | numberOutOfRange
  | badCodePoint
  | controlCharacter
  | keyNotText
  | loneSurrogate
  | trailingComma
  | trailingCharacters
  | endOfHexEscape
  | wrongType (found : Found) (expected : String)
  | outOfRange (value : Int) (expected : String)
  | wrongLength (length : Nat) (expected : String)
  | missingField (name : String)
  | duplicateField (name : String)
  deriving DecidableEq

end Fostering.Json
