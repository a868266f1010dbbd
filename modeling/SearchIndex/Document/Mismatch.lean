import SearchIndex.Decimal.Real
import SearchIndex.Text.Ascii
import SearchIndex.Text.Display

/-!
Contract: why a document does not describe the value that is asked for.

A mismatch says what was found and what was expected, or which field or variant is at fault.
`Mismatch.message` gives the words.
-/

namespace SearchIndex

/-- The part of a document that does not fit. -/
inductive Found where
  | null
  | boolean (value : Bool)
  | integer (value : Int)
  | real (value : Float)
  | string (value : String)
  | sequence
  | map
  | plainVariant
deriving Repr

/-- Reals in messages: no exponent, and whole numbers keep `.0`. -/
def Found.realFormat : Decimal.RealFormat where
  tie := .up
  positional := none
  keepPoint := true
  undefined := "NaN"
  infinite := "inf"

def Found.message : Found → String
  | .null => "null"
  | .boolean true => "boolean `true`"
  | .boolean false => "boolean `false`"
  | .integer n => "integer `" ++ Decimal.integer n ++ "`"
  | .real x => "floating point `" ++ Found.realFormat.render x ++ "`"
  | .string text => "string " ++ Text.display text
  | .sequence => "sequence"
  | .map => "map"
  | .plainVariant => "unit variant"

/-- Why a document does not fit. -/
inductive Mismatch where
  | invalidType (found : Found) (expected : String)
  | invalidValue (found : Found) (expected : String)
  | invalidLength (length : Nat) (expected : String)
  | unknownVariant (name : String) (known : List String)
  | missingField (name : String)
  | duplicateField (name : String)
  | refused (reason : String)
deriving Repr

/-- A name as messages mark it. -/
def Mismatch.ticked (name : String) : String := "`" ++ name ++ "`"

def Mismatch.message : Mismatch → String
  | .invalidType found expected =>
    "invalid type: " ++ found.message ++ ", expected " ++ expected
  | .invalidValue found expected =>
    "invalid value: " ++ found.message ++ ", expected " ++ expected
  | .invalidLength length expected =>
    "invalid length " ++ Decimal.natural length ++ ", expected " ++ expected
  | .unknownVariant name known =>
    "unknown variant " ++ ticked name ++ ", expected " ++
      match known with
      | [first, second] => ticked first ++ " or " ++ ticked second
      | known => "one of " ++ Text.joined ", " (known.map ticked)
  | .missingField name => "missing field " ++ ticked name
  | .duplicateField name => "duplicate field " ++ ticked name
  | .refused reason => reason

end SearchIndex
