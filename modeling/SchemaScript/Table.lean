import SchemaScript.Column
import SchemaScript.Constraint
import SchemaScript.SqlSecurity

/-! Tables: their columns, constraints and options. -/

namespace SchemaScript

/-- How long a global temporary table keeps its rows. -/
inductive RowLifetime where
  | transaction
  | connection
  deriving DecidableEq, Repr

namespace RowLifetime

def all : List RowLifetime := [transaction, connection]

def name : RowLifetime → String
  | transaction => "delete_rows"
  | connection => "preserve_rows"

def clause : RowLifetime → String
  | transaction => "ON COMMIT DELETE ROWS"
  | connection => "ON COMMIT PRESERVE ROWS"

end RowLifetime

structure Table where
  name : String := ""
  columns : List Column := []
  constraints : List Constraint := []
  /-- The table is there already, and its primary key with it. -/
  isExisting : Bool := false
  temporary : Option RowLifetime := none
  externalFile : Option String := none
  adapter : Option String := none
  security : Option SqlSecurity := none
  tablespace : Option String := none
  comment : Option String := none
  deriving DecidableEq

instance : Inhabited Table := ⟨{}⟩

end SchemaScript
