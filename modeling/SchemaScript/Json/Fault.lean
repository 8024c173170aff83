/-! Why a text is no JSON value, and where that shows. A place is given by its line and by the
number of bytes on that line up to and including the byte that is wrong. -/

namespace SchemaScript.Json

inductive Cause where
  | openArray
  | openObject
  | openString
  | openValue
  | expectedColon
  | expectedCommaOrBracket
  | expectedCommaOrBrace
  | expectedWord
  | expectedValue
  | invalidEscape
  | invalidNumber
  | numberOutOfRange
  | controlCharacter
  | keyNotString
  | loneSurrogate
  | openEscape
  | trailingComma
  | trailingCharacters
  | tooDeep
  deriving DecidableEq, Repr

namespace Cause

/-- The text ends where more of a value was due. -/
def isEarlyEnd : Cause → Bool
  | openArray | openObject | openString | openValue => true
  | _ => false

def message : Cause → String
  | openArray => "EOF while parsing a list"
  | openObject => "EOF while parsing an object"
  | openString => "EOF while parsing a string"
  | openValue => "EOF while parsing a value"
  | expectedColon => "expected `:`"
  | expectedCommaOrBracket => "expected `,` or `]`"
  | expectedCommaOrBrace => "expected `,` or `\x7d`"
  | expectedWord => "expected ident"
  | expectedValue => "expected value"
  | invalidEscape => "invalid escape"
  | invalidNumber => "invalid number"
  | numberOutOfRange => "number out of range"
  | controlCharacter => "control character (\\u0000-\\u001F) found while parsing a string"
  | keyNotString => "key must be a string"
  | loneSurrogate => "lone leading surrogate in hex escape"
  | openEscape => "unexpected end of hex escape"
  | trailingComma => "trailing comma"
  | trailingCharacters => "trailing characters"
  | tooDeep => "recursion limit exceeded"

end Cause

/-- A cause with what had not been read when it showed, and how many bytes of that belong to it. -/
structure Stop where
  cause : Cause
  rest : List Char
  ahead : Nat

structure Fault where
  cause : Cause
  line : Nat
  column : Nat
  deriving DecidableEq, Repr

/-- The bytes of a text in UTF-8. -/
def bytesOf (text : List Char) : List UInt8 := text.flatMap String.utf8EncodeChar

/-- The place of a stop in the text that was read. -/
def Stop.locate (text : List Char) (stop : Stop) : Fault :=
  let bytes := bytesOf text
  let before := bytes.take (bytes.length - (bytesOf stop.rest).length + stop.ahead)
  ⟨stop.cause, 1 + before.count 10, (before.reverse.takeWhile (· ≠ 10)).length⟩

def Fault.message (fault : Fault) : String :=
  fault.cause.message ++ " at line " ++ Nat.repr fault.line ++ " column " ++ Nat.repr fault.column

end SchemaScript.Json
