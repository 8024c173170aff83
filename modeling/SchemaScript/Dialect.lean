import SchemaScript.Text.Blank
import SchemaScript.Text.Numeral
import SchemaScript.Text.Search

/-! The dialect that scripts are written for: the version of the server, the mark that quotes
identifiers, and the words that need it. -/

namespace SchemaScript

/-- Words of the grammar that cannot stand as unquoted identifiers. -/
def reservedWords : List String := [
  "ADD", "ADMIN", "ALL", "ALTER", "AND", "ANY", "AS", "AT", "AVG", "BEGIN", "BETWEEN", "BIGINT",
  "BLOB", "BOOLEAN", "BOTH", "BY", "CASE", "CAST", "CHAR", "CHARACTER", "CHECK", "CLOSE",
  "COLLATE", "COLUMN", "COMMIT", "CONNECT", "CONSTRAINT", "COUNT", "CREATE", "CROSS", "CURRENT",
  "CURRENT_DATE", "CURRENT_ROLE", "CURRENT_TIME", "CURRENT_TIMESTAMP", "CURRENT_USER",
  "CURSOR", "DATE", "DAY", "DEC", "DECIMAL", "DECLARE", "DEFAULT", "DELETE", "DISCONNECT",
  "DISTINCT", "DOUBLE", "DROP", "ELSE", "END", "ESCAPE", "EXECUTE", "EXISTS", "EXTERNAL",
  "EXTRACT", "FALSE", "FETCH", "FILTER", "FLOAT", "FOR", "FOREIGN", "FROM", "FULL", "FUNCTION",
  "GLOBAL", "GRANT", "GROUP", "HAVING", "HOUR", "IN", "INDEX", "INNER", "INSERT", "INT",
  "INTEGER", "INTO", "IS", "JOIN", "KEY", "LEADING", "LEFT", "LIKE", "MAX", "MERGE", "MIN",
  "MINUTE", "MONTH", "NATURAL", "NCHAR", "NO", "NOT", "NULL", "NUMERIC", "OF", "ON", "ONLY",
  "OPEN", "OR", "ORDER", "OUTER", "PARAMETER", "POSITION", "PRECISION", "PRIMARY",
  "PROCEDURE", "REAL", "RECORD_VERSION", "REFERENCES", "RELEASE", "RETURN", "RETURNS",
  "REVOKE", "RIGHT", "ROLLBACK", "ROW", "ROWS", "SAVEPOINT", "SECOND", "SELECT", "SET",
  "SIMILAR", "SMALLINT", "SOME", "START", "SUM", "TABLE", "THEN", "TIME", "TIMESTAMP", "TO",
  "TRAILING", "TRIGGER", "TRIM", "TRUE", "UNION", "UNIQUE", "UNKNOWN", "UPDATE", "USER",
  "USING", "VALUE", "VALUES", "VARCHAR", "VARIABLE", "VARYING", "VIEW", "WHEN", "WHERE",
  "WHILE", "WITH", "YEAR"]

structure Dialect where
  version : UInt32 := 3
  quote : Char := '"'
  /-- Quote identifiers that would be safe without, too. -/
  alwaysQuote : Bool := false
  reserved : List String := reservedWords
  deriving DecidableEq

namespace Dialect

instance : Inhabited Dialect := ⟨{}⟩

/-- The version that a text such as `4.0` or `5.0.1` begins with. -/
def version? (text : String) : Option UInt32 :=
  let major := (Text.trim text).toList.takeWhile (· ≠ '.')
  (Text.numeral? (.ofList major)).map UInt32.ofNat

/-- Servers from version 3 on have `CREATE OR ALTER` for views and sequences. -/
def hasCreateOrAlter (d : Dialect) : Bool := 3 ≤ d.version

/-- Whether the word is reserved, in whatever case its letters are written. -/
def isReserved (d : Dialect) (word : String) : Bool := d.reserved.any (Text.sameLetters · word)

end Dialect

end SchemaScript
