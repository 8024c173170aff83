import SchemaScript.Dialect.Identifier
import SchemaScript.Text.Blank

/-! Statements that add, change and read rows, with their lists taken as they come. -/

namespace SchemaScript

structure Insert where
  table : String
  fields : String
  values : String
  deriving DecidableEq

/-- An insert whose values are bound later. -/
structure InsertPlaceholders where
  table : String
  columns : List String
  deriving DecidableEq

structure Update where
  table : String
  settings : String
  deriving DecidableEq

structure Select where
  table : String
  fields : String := "*"
  deriving DecidableEq

def insertText (d : Dialect) (table fields values : String) : String :=
  "INSERT INTO " ++ d.identifier (Text.trim table) ++ " (" ++ fields ++ ") VALUES (" ++ values ++
    ");\n"

def Insert.statement (d : Dialect) (i : Insert) : String :=
  insertText d i.table (Text.trim i.fields) (Text.trim i.values)

/-- One mark for each column. -/
def InsertPlaceholders.statement (d : Dialect) (i : InsertPlaceholders) : String :=
  insertText d i.table (d.identifiers (i.columns.map Text.trim))
    (Text.separatedBy "," (i.columns.map fun _ => "?"))

def Update.statement (d : Dialect) (u : Update) : String :=
  "UPDATE " ++ d.identifier (Text.trim u.table) ++ " SET " ++ Text.trim u.settings ++ ";\n"

def Select.statement (d : Dialect) (s : Select) : String :=
  "SELECT " ++ Text.trim s.fields ++ " FROM " ++ d.identifier (Text.trim s.table) ++ ";\n"

end SchemaScript
