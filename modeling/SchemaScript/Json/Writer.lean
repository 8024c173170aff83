import SchemaScript.Decimal.Written
import SchemaScript.Json.Value
import SchemaScript.Text.Join

/-! Writing JSON values, without blanks between tokens. -/

namespace SchemaScript.Json

/-- A fraction has its point in place from five zeros behind the point up to sixteen digits before
it. -/
def floatRange : Decimal.PointRange := ⟨-5, 15⟩

def writeFloat (x : Float) : String := Decimal.writeFloat floatRange x

def hexDigit (n : Nat) : Char := Nat.digitChar n

/-- A character as it stands in a string. Quotes, backslashes and control characters are escaped. -/
def writeChar (c : Char) : List Char :=
  match c with
  | '"' => ['\\', '"']
  | '\\' => ['\\', '\\']
  | '\x08' => ['\\', 'b']
  | '\x0c' => ['\\', 'f']
  | '\n' => ['\\', 'n']
  | '\r' => ['\\', 'r']
  | '\t' => ['\\', 't']
  | c =>
    if c.toNat < 32 then
      ['\\', 'u', '0', '0', hexDigit (c.toNat / 16), hexDigit (c.toNat % 16)]
    else [c]

def writeString (s : String) : String := .ofList ('"' :: (s.toList.flatMap writeChar ++ ['"']))

mutual

def write : Json → String
  | null => "null"
  | bool value => if value then "true" else "false"
  | int value => toString value
  | float value => writeFloat value
  | string value => writeString value
  | array items => "[" ++ Text.separatedBy "," (writeItems items) ++ "]"
  | object entries => "\x7b" ++ Text.separatedBy "," (writeEntries entries) ++ "\x7d"

def writeItems : List Json → List String
  | [] => []
  | item :: rest => write item :: writeItems rest

def writeEntries : List (String × Json) → List String
  | [] => []
  | (key, value) :: rest => (writeString key ++ ":" ++ write value) :: writeEntries rest

end

end SchemaScript.Json
