import SchemaScript.Text.Blank
import SchemaScript.Text.Upper

/-! Type codes as the catalog of a server reports them, and the type names that stand for them. -/

namespace SchemaScript

abbrev TypeCode := Int32

namespace TypeCode

/-- The code of a type that has none of its own. -/
def other : TypeCode := 1111

/-- The code that is not set. -/
def unset : TypeCode := 0

def char : TypeCode := 1
def numeric : TypeCode := 2
def decimal : TypeCode := 3
def integer : TypeCode := 4
def smallInt : TypeCode := 5
def float : TypeCode := 6
def real : TypeCode := 7
def double : TypeCode := 8
def varChar : TypeCode := 12
def boolean : TypeCode := 16
def date : TypeCode := 91
def time : TypeCode := 92
def timestamp : TypeCode := 93
def blob : TypeCode := 2004
def clob : TypeCode := 2005
def timeWithZone : TypeCode := 2013
def timestampWithZone : TypeCode := 2014
def longVarChar : TypeCode := -1
def binary : TypeCode := -2
def varBinary : TypeCode := -3
def bigInt : TypeCode := -5
def nVarChar : TypeCode := -9
def nChar : TypeCode := -15

def isCharacter (code : TypeCode) : Bool :=
  [char, varChar, longVarChar, nChar, nVarChar, clob].contains code

def isTemporal (code : TypeCode) : Bool :=
  [date, time, timestamp, timeWithZone, timestampWithZone].contains code

/-- Literals of these types stand between quotes. -/
def needsQuotes (code : TypeCode) : Bool := isCharacter code || isTemporal code

def names : List (String × TypeCode) := [
  ("BOOLEAN", boolean), ("SMALLINT", smallInt), ("INTEGER", integer), ("INT", integer),
  ("BIGINT", bigInt), ("INT128", bigInt), ("FLOAT", float), ("REAL", real),
  ("DOUBLE PRECISION", double), ("DOUBLE", double), ("NUMERIC", numeric), ("DECFLOAT", numeric),
  ("DECIMAL", decimal), ("CHAR", char), ("CHARACTER", char), ("VARCHAR", varChar),
  ("CHARACTER VARYING", varChar), ("NCHAR", nChar), ("DATE", date), ("TIME", time),
  ("TIMESTAMP", timestamp), ("TIME WITH TIME ZONE", timeWithZone),
  ("TIMESTAMP WITH TIME ZONE", timestampWithZone), ("BINARY", binary), ("VARBINARY", varBinary),
  ("BLOB", blob)]

/-- The name of a type without its size, in capitals. -/
def baseName (name : String) : String :=
  Text.trim (.ofList ((Text.upper (Text.trim name)).toList.takeWhile (· ≠ '(')))

/-- The code of a type written in any case, with or without a size behind it. -/
def ofName? (name : String) : Option TypeCode := names.lookup (baseName name)

end TypeCode

end SchemaScript
