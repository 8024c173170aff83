import SchemaScript.Calendar.Reader
import SchemaScript.Codec.Mismatch

/-! Types that are written as JSON values and read back from them. -/

namespace SchemaScript

/-- Where a value stands: on its own, or in what was set aside until the tag beside it was known. -/
inductive Layer where
  | plain
  | tagged
  deriving DecidableEq, Repr

structure Codec (α : Type) where
  write : α → Json
  read : Layer → Json → Except Mismatch α

namespace Codec

variable {α : Type}

def string : Codec String where
  write := .string
  read _
    | .string value => .ok value
    | other => .error (.wrongType other.shape "a string")

def bool : Codec Bool where
  write := .bool
  read _
    | .bool value => .ok value
    | other => .error (.wrongType other.shape "a boolean")

/-- Integers from `least` to `greatest`. -/
def integer (name : String) (least greatest : Int) : Codec Int where
  write := .int
  read _
    | .int value =>
      if least ≤ value && value ≤ greatest then .ok value
      else .error (.wrongValue (.int value) name)
    | other => .error (.wrongType other.shape name)

def int32 : Codec Int32 where
  write value := .int value.toInt
  read layer json :=
    ((integer "i32" (-2147483648) 2147483647).read layer json).map Int32.ofInt

def int64 : Codec Int64 where
  write value := .int value.toInt
  read layer json :=
    ((integer "i64" (-9223372036854775808) 9223372036854775807).read layer json).map Int64.ofInt

def uint32 : Codec UInt32 where
  write value := .int value.toNat
  read layer json :=
    ((integer "u32" 0 4294967295).read layer json).map fun value => UInt32.ofNat value.toNat

/-- A character, written as a text of that character alone. -/
def character : Codec Char where
  write c := .string c.toString
  read _
    | .string value =>
      match value.toList with
      | [c] => .ok c
      | _ => .error (.wrongValue (.string value) "a character")
    | other => .error (.wrongType other.shape "a character")

def timestamp : Codec Timestamp where
  write t := .string t.write
  read _
    | .string text => (Timestamp.read text).mapError (.badText ·.message)
    | other => .error (.wrongType other.shape "a formatted date and time string")

/-- `null` stands for an absent value. -/
def optional (item : Codec α) : Codec (Option α) where
  write
    | none => .null
    | some value => item.write value
  read layer
    | .null => .ok none
    | json => (item.read layer json).map some

def list (item : Codec α) : Codec (List α) where
  write values := .array (values.map item.write)
  read layer
    | .array items => items.mapM (item.read layer)
    | other => .error (.wrongType other.shape "a sequence")

def dictionary (item : Codec α) : Codec (Dictionary α) where
  write values := .object (values.entries.map fun entry => (entry.1, item.write entry.2))
  read layer
    | .object entries =>
      (entries.mapM fun entry => (item.read layer entry.2).map (entry.1, ·)).map Dictionary.ofList
    | other => .error (.wrongType other.shape "a map")

end Codec

end SchemaScript
