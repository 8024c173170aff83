import SchemaScript.Column.Definition

/-! Lists of parameters and blocks of local variables. Rows without a name are placeholders and
leave no trace. -/

namespace SchemaScript.Column

/-- What keeps a row from being written: a cursor needs a query, any other row a sound definition.
-/
def rowFault? (c : Column) : Option StatementError :=
  match c.cursor with
  | some cursor => if Text.isBlank cursor.select then some (.cursorWithoutSelect c.label) else none
  | none => c.conflict?

def cursorText (d : Dialect) (c : Column) (cursor : Cursor) : String :=
  d.identifier c.label ++ " CURSOR FOR " ++ Text.whenTrue cursor.scroll "SCROLL " ++
    "(" ++ Text.trim cursor.select ++ ")"

/-- A row of a parameter list, without what divides it from the next. -/
def parameterRow (d : Dialect) (c : Column) : String :=
  match c.cursor with
  | some cursor => c.cursorText d cursor
  | none => "\t" ++ c.parameterText d

def variableComment (c : Column) : String :=
  Text.optional (fun text => if c.lineComment then " --" ++ text else " /*" ++ text ++ "*/")
    c.description?

/-- A line of a block of variables, with its description as a comment. -/
def variableRow (d : Dialect) (c : Column) : String :=
  "DECLARE " ++
    (match c.cursor with
      | some cursor => c.cursorText d cursor
      | none => c.parameterText d) ++
    ";" ++ c.variableComment ++ "\n"

/-- What `write` makes of the named rows, unless one of them cannot be written. -/
def writeRows (write : List Column → String) (rows : List Column) :
    Except StatementError String :=
  let named := rows.filter (·.hasName)
  match named.findSome? rowFault? with
  | some error => .error error
  | none => .ok (write named)

/-- The named rows, one a line, with commas in between. -/
def parameterList (d : Dialect) : List Column → Except StatementError String :=
  writeRows fun named =>
    if named.isEmpty then "" else Text.separatedBy ",\n" (named.map (parameterRow d)) ++ "\n"

/-- The named rows as declarations, one a line. -/
def variableBlock (d : Dialect) : List Column → Except StatementError String :=
  writeRows fun named => Text.concat (named.map (variableRow d))

end SchemaScript.Column
