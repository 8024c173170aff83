import SchemaScript.Dialect.Identifier
import SchemaScript.Dialect.Literal

/-! Tablespaces. -/

namespace SchemaScript

structure Tablespace where
  name : String := ""
  file : String := ""
  deriving DecidableEq

namespace Tablespace

instance : Inhabited Tablespace := ⟨{}⟩

def create (d : Dialect) (t : Tablespace) : String :=
  "CREATE TABLESPACE " ++ d.identifier t.name ++ " FILE " ++ literal t.file ++ ";\n"

end Tablespace

end SchemaScript
