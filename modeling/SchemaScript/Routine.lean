import SchemaScript.Column
import SchemaScript.SqlSecurity

/-! Procedures and functions. A routine has a body of its own or the entry point of an external one.
-/

namespace SchemaScript

structure Procedure where
  name : String := ""
  inputs : List Column := []
  outputs : List Column := []
  locals : List Column := []
  security : Option SqlSecurity := none
  authId : Option String := none
  entryPoint : Option String := none
  engine : Option String := none
  body : String := ""
  comment : Option String := none
  deriving DecidableEq

structure Function where
  name : String := ""
  arguments : List Column := []
  locals : List Column := []
  returnType : Option Column := none
  deterministic : Bool := false
  security : Option SqlSecurity := none
  entryPoint : Option String := none
  engine : Option String := none
  body : String := ""
  comment : Option String := none
  deriving DecidableEq

instance : Inhabited Procedure := ⟨{}⟩
instance : Inhabited Function := ⟨{}⟩

/-- The rows that go in the given direction, in their order. -/
def Column.going (direction : Direction) (rows : List Column) : List Column :=
  rows.filter (·.direction == direction)

/-- A procedure with its parameters and variables in one list. -/
def Procedure.ofRows (name : String) (rows : List Column) : Procedure :=
  { name, inputs := Column.going .input rows, outputs := Column.going .output rows,
    locals := Column.going .localVariable rows }

/-- A function with its arguments and variables in one list; the last output is what it returns. -/
def Function.ofRows (name : String) (rows : List Column) : Function :=
  { name, arguments := Column.going .input rows, locals := Column.going .localVariable rows,
    returnType := (Column.going .output rows).getLast? }

end SchemaScript
