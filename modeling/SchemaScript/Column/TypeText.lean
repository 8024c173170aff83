import SchemaScript.Column
import SchemaScript.Dialect.Identifier
import SchemaScript.Text.Optional

/-! The type of a column as it stands in a statement. A name that brings its size is left alone;
each family of types has its own way to add size, scale, subtype and character set. -/

namespace SchemaScript

/-- What a family of types writes behind its name. -/
inductive TypeFamily where
  | character
  | binary
  | exact
  | blob
  | plain
  deriving DecidableEq, Repr

def TypeFamily.ofName (name : String) : TypeFamily :=
  if ["CHAR", "VARCHAR", "NCHAR", "CHARACTER", "CHARACTER VARYING"].contains name then character
  else if ["BINARY", "VARBINARY"].contains name then binary
  else if ["NUMERIC", "DECIMAL"].contains name then exact
  else if name = "BLOB" then blob
  else plain

namespace Column

def charsetClause (c : Column) : String := Text.optional (" CHARACTER SET " ++ ·) c.charset?

def sizeClause (c : Column) : String :=
  Text.whenTrue (0 < c.size) ("(" ++ toString c.size.toInt ++ ")")

def familyClause (c : Column) : TypeFamily → String
  | .character => c.sizeClause ++ c.charsetClause
  | .binary => c.sizeClause
  | .exact =>
    Text.whenTrue (0 < c.size)
      ("(" ++ toString c.size.toInt ++ ", " ++ toString c.scale.toInt ++ ")")
  | .blob =>
    " SUB_TYPE " ++ toString c.subtype.toInt ++
      Text.whenTrue (0 < c.segmentSize) (" SEGMENT SIZE " ++ toString c.segmentSize.toInt) ++
      Text.whenTrue (c.subtype = 1) c.charsetClause
  | .plain => ""

/-- The type by its own name. -/
def namedTypeText (c : Column) : String :=
  match Text.given c.typeName with
  | none => ""
  | some name =>
    let name := Text.upper (Text.trim name)
    if name.toList.contains '(' then name
    else name ++ c.familyClause (TypeFamily.ofName name)

def domainText (d : Dialect) (c : Column) : String := d.identifier (c.domain.getD "")

/-- The type, or the reference that it is taken from. -/
def typeText (d : Dialect) (c : Column) : String :=
  match c.typeOf with
  | some .domain => "TYPE OF " ++ c.domainText d
  | some (.column reference) =>
    "TYPE OF COLUMN " ++ d.identifier reference.table ++ "." ++ d.identifier reference.column
  | none => c.namedTypeText

end Column

end SchemaScript
