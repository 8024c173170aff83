import SchemaScript.Dialect
import SchemaScript.SqlType
import SchemaScript.Text.Quoted

/-! Values in SQL. A text becomes a literal between single quotes; a default may also be `NULL`, a
context variable or a literal already, and is then written without new quotes. -/

namespace SchemaScript

/-- A text between single quotes, with those inside doubled. -/
def literal (text : String) : String := Text.quotedBy '\'' text

/-- Variables of the session that are values by themselves. -/
def contextVariables : List String := [
  "CURRENT_DATE", "CURRENT_TIME", "CURRENT_TIMESTAMP", "CURRENT_USER", "CURRENT_ROLE",
  "CURRENT_CONNECTION", "CURRENT_TRANSACTION", "LOCALTIME", "LOCALTIMESTAMP", "USER"]

/-- Two single quotes at least, one at either end. -/
def isLiteral (text : String) : Bool :=
  2 ≤ text.utf8ByteSize && text.toList.head? == some '\'' && text.toList.getLast? == some '\''

/-- A value of the given type as it stands in a statement. -/
def valueText (value : String) (code : TypeCode) : String :=
  let trimmed := Text.trim value
  if Text.sameLetters trimmed "NULL" then "NULL"
  else if isLiteral trimmed then trimmed
  else if contextVariables.any (Text.sameLetters · trimmed) then Text.upper trimmed
  else if code.needsQuotes then literal value
  else trimmed

def defaultClause (value : String) (code : TypeCode) : String := " DEFAULT " ++ valueText value code

end SchemaScript
