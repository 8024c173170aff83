import SchemaScript.Json.Writer
import SchemaScript.Text.Visible

/-! Why a JSON value does not stand for a value of some type, and how that is put in words. -/

namespace SchemaScript

/-- A value as messages describe it: scalars in full, containers by their kind. -/
inductive Shape where
  | null
  | bool (value : Bool)
  | int (value : Int)
  | float (value : Float)
  | string (value : String)
  | array
  | object

def Json.shape : Json → Shape
  | .null => .null
  | .bool value => .bool value
  | .int value => .int value
  | .float value => .float value
  | .string value => .string value
  | .array _ => .array
  | .object _ => .object

namespace Shape

def message : Shape → String
  | null => "null"
  | bool value => "boolean `" ++ (if value then "true" else "false") ++ "`"
  | int value => "integer `" ++ toString value ++ "`"
  | float value => "floating point `" ++ Json.writeFloat value ++ "`"
  | string value => "string " ++ Text.visible value
  | array => "sequence"
  | object => "map"

end Shape

inductive Mismatch where
  | wrongType (found : Shape) (expected : String)
  | wrongValue (found : Shape) (expected : String)
  | unknownChoice (name : String) (known : List String)
  | missingField (key : String)
  | wrongLength (length : Nat) (expected : String)
  /-- A text that breaks the rules of its own format. -/
  | badText (reason : String)

namespace Mismatch

def ticked (name : String) : String := "`" ++ name ++ "`"

/-- The choices that there are, as the end of a sentence. -/
def choices : List String → String
  | [] => "there are no variants"
  | [only] => "expected " ++ ticked only
  | [one, other] => "expected " ++ ticked one ++ " or " ++ ticked other
  | many => "expected one of " ++ Text.separatedBy ", " (many.map ticked)

def message : Mismatch → String
  | wrongType found expected => "invalid type: " ++ found.message ++ ", expected " ++ expected
  | wrongValue found expected => "invalid value: " ++ found.message ++ ", expected " ++ expected
  | unknownChoice name known => "unknown variant " ++ ticked name ++ ", " ++ choices known
  | missingField key => "missing field " ++ ticked key
  | wrongLength length expected =>
    "invalid length " ++ Nat.repr length ++ ", expected " ++ expected
  | badText reason => reason

end Mismatch

end SchemaScript
