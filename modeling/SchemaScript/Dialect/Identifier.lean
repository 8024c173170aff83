import SchemaScript.Dialect
import SchemaScript.Text.Join
import SchemaScript.Text.Quoted

/-! Identifiers in SQL. Servers fold unquoted identifiers to upper case, so only names in capitals,
digits, `_` and `$` are safe without quotes. A name that comes with quotes is left as it is. -/

namespace SchemaScript.Dialect

/-- Two bytes at least, with the quote at both ends; a single quote of several bytes is enough. -/
def isQuoted (d : Dialect) (name : String) : Bool :=
  2 ≤ name.utf8ByteSize && name.toList.head? == some d.quote && name.toList.getLast? == some d.quote

def isSafeChar (c : Char) : Bool := c.isUpper || c.isDigit || c == '_' || c == '$'

/-- A capital, then capitals, digits, `_` and `$`. -/
def isRegular (name : String) : Bool :=
  match name.toList with
  | [] => false
  | c :: rest => c.isUpper && rest.all isSafeChar

def isSafeUnquoted (d : Dialect) (name : String) : Bool := isRegular name && !d.isReserved name

/-- An identifier as it stands in a statement. -/
def identifier (d : Dialect) (name : String) : String :=
  if name.isEmpty then ""
  else if d.isQuoted name then name
  else if !d.alwaysQuote && d.isSafeUnquoted name then name
  else Text.quotedBy d.quote name

/-- Identifiers with commas in between. -/
def identifiers (d : Dialect) (names : List String) : String :=
  Text.separatedBy "," (names.map d.identifier)

end SchemaScript.Dialect
