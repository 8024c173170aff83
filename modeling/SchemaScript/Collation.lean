import SchemaScript.Dialect.Identifier
import SchemaScript.Dialect.Literal
import SchemaScript.Text.Optional

/-! Collations. -/

namespace SchemaScript

structure Collation where
  name : String := ""
  charset : String := ""
  base : Option String := none
  /-- The base is no collation of the server. -/
  external : Bool := false
  padSpace : Bool := false
  caseSensitive : Bool := false
  accentSensitive : Bool := false
  attributes : Option String := none
  deriving DecidableEq

namespace Collation

instance : Inhabited Collation := ⟨{}⟩

def baseClause (c : Collation) (base : String) : String :=
  "\nFROM " ++ if c.external then "EXTERNAL (" ++ literal base ++ ")" else Text.trim base

def sensitivity (sensitive : Bool) : String := if sensitive then "SENSITIVE" else "INSENSITIVE"

def create (d : Dialect) (c : Collation) : String :=
  "CREATE COLLATION " ++ d.identifier c.name ++ "\nFOR " ++ Text.trim c.charset ++
    Text.optional c.baseClause (Text.given c.base) ++
    (if c.padSpace then "\nPAD SPACE" else "\nNO PAD") ++
    "\nCASE " ++ sensitivity c.caseSensitive ++ "\nACCENT " ++ sensitivity c.accentSensitive ++
    Text.optional ("\n" ++ literal ·) (Text.given c.attributes) ++ ";\n"

end Collation

end SchemaScript
