import SchemaScript.Comment

/-! Views. -/

namespace SchemaScript

structure View where
  name : String := ""
  /-- The names of the columns with commas in between. -/
  columns : Option String := none
  select : String := ""
  isExisting : Bool := false
  comment : Option String := none
  deriving DecidableEq

namespace View

instance : Inhabited View := ⟨{}⟩

/-- Servers that have no `CREATE OR ALTER` are told whether the view is there. -/
def verb (d : Dialect) (v : View) : String :=
  if d.hasCreateOrAlter then "CREATE OR ALTER" else if v.isExisting then "ALTER" else "CREATE"

/-- A query without the blanks around it and without the semicolons at its end. -/
def bareQuery (select : String) : String :=
  Text.trimEnd (Text.dropEndWhile (· == ';') (Text.trim select))

def create (d : Dialect) (v : View) : String :=
  verb d v ++ " VIEW " ++ d.identifier v.name ++
    Text.optional (fun columns => " (" ++ Text.trim columns ++ ")") (Text.given v.columns) ++
    "\nAS\n" ++ bareQuery v.select ++ ";\n" ++ SchemaScript.comment d .view v.name v.comment ";"

end View

end SchemaScript
