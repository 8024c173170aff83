import SchemaScript.Column.Definition
import SchemaScript.Constraint.Clause
import SchemaScript.Table.Autoincrement

/-! Scripts that create tables: the table with its columns and constraints, then the comments on its
columns, the sequences and triggers that number them, and the comment on the table. -/

namespace SchemaScript.Table

/-! ### Elements -/

/-- The formatted names of the columns of the primary key. -/
def keyColumns (d : Dialect) (t : Table) : List String :=
  (t.columns.filter (·.primaryKey)).map fun c => d.identifier c.label

def keyName (t : Table) : String := "PK_" ++ t.name

/-- The primary key of a new table, unless its constraints bring one. -/
def keyClause? (d : Dialect) (t : Table) (constraints : List Constraint) : Option String :=
  if (keyColumns d t).isEmpty || t.isExisting ||
      constraints.any (·.kind == some ConstraintKind.primaryKey) then none
  else some ("CONSTRAINT " ++ d.identifier t.keyName ++ " PRIMARY KEY (" ++
    Text.separatedBy ", " (keyColumns d t) ++ ")")

/-- The clauses of merged constraints in order. -/
def constraintClauses (d : Dialect) (table : String) (constraints : List Constraint) :
    Except StatementError (List String) :=
  constraints.zipIdx.mapM fun numbered => numbered.1.clause d table numbered.2

/-- The lines between the parentheses: the columns with commas in between, and each further element
behind a comma. -/
def elementText (columns further : List String) : String :=
  Text.separatedBy "," (columns.map ("\n\t" ++ ·)) ++ Text.concat (further.map (",\n\t" ++ ·))

/-! ### Statement -/

def headText (d : Dialect) (t : Table) : String :=
  (if t.temporary.isSome then "CREATE GLOBAL TEMPORARY TABLE " else "CREATE TABLE ") ++
    d.identifier t.name ++
    Text.optional (fun file => "\nEXTERNAL FILE " ++ literal (Text.trim file)) t.externalFile ++
    Text.optional (fun adapter => " ADAPTER " ++ literal (Text.trim adapter)) t.adapter

def optionText (d : Dialect) (t : Table) : String :=
  Text.optional ("\nTABLESPACE " ++ d.identifier ·) t.tablespace ++
    Text.optional ("\n" ++ SqlSecurity.clause ·) t.security ++
    Text.optional ("\n" ++ RowLifetime.clause ·) t.temporary

/-- What follows the statement itself. -/
def followingText (d : Dialect) (t : Table) : String :=
  memberComments d t.name .column ";" t.columns ++
    Text.concat (t.columns.map (Column.autoincrementScript d t.name)) ++
    SchemaScript.comment d .table t.name t.comment ";"

def create (d : Dialect) (t : Table) : Except StatementError String := do
  let columns ← t.columns.mapM (Column.definition d)
  let constraints ← Constraint.merge t.constraints
  let clauses ← constraintClauses d t.name constraints
  let further := (keyClause? d t constraints).toList ++ clauses
  .ok (headText d t ++ " (" ++ elementText columns further ++ "\n)" ++ optionText d t ++ ";\n" ++
    followingText d t)

end SchemaScript.Table
