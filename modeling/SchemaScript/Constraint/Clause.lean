import SchemaScript.Constraint.Merge
import SchemaScript.Text.Optional

/-! The clause of a constraint in the definition of its table. -/

namespace SchemaScript.Constraint

/-- Actions are written unless they are what happens anyway. -/
def actionClause (event : String) (action : Option ReferentialAction) : String :=
  Text.optional (fun action => " ON " ++ event ++ " " ++ action.keyword)
    (action.filter (· ≠ .restrict))

def tablespaceClause (d : Dialect) (c : Constraint) : String :=
  Text.optional (" TABLESPACE " ++ d.identifier ·) (Text.given c.tablespace)

/-- The clause of a constraint of the given kind behind its name. -/
def body (d : Dialect) (c : Constraint) : ConstraintKind → String
  | .check => "CHECK (" ++ Text.trim (c.check.getD "") ++ ")"
  | .foreignKey =>
    "FOREIGN KEY (" ++ c.columnText d ++ ") REFERENCES " ++ d.identifier (c.refTable.getD "") ++
      " (" ++ c.refColumnText d ++ ")" ++ actionClause "UPDATE" c.updateRule ++
      actionClause "DELETE" c.deleteRule ++ c.tablespaceClause d
  | kind => kind.keyword ++ " (" ++ c.columnText d ++ ")" ++ c.tablespaceClause d

/-- The name with the table's name in place of its mark. -/
def finalName (table name : String) : String := Text.replace name tableNameMark table

/-- The clause of the constraint at `index`, which needs a kind and a name. -/
def clause (d : Dialect) (table : String) (index : Nat) (c : Constraint) :
    Except StatementError String :=
  match c.kind, c.name? with
  | some kind, some name =>
    .ok ("CONSTRAINT " ++ d.identifier (finalName table name) ++ " " ++ c.body d kind)
  | _, _ => .error (.constraintWithoutKind index)

end SchemaScript.Constraint
