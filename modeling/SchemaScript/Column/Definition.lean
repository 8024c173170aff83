import SchemaScript.Column.TypeText
import SchemaScript.Dialect.Literal
import SchemaScript.StatementError

/-! Definitions of columns and of parameters. A computed column has its expression and nothing else,
so it can neither use a domain nor number its rows. -/

namespace SchemaScript.Column

/-- What keeps a computed column from being written. -/
def conflict? (c : Column) : Option StatementError :=
  if c.computedBy?.isNone then none
  else match c.userDomain? with
    | some domain => some (.computedWithDomain c.label domain)
    | none => if c.isIdentity then some (.computedIdentity c.label) else none

/-- The user's domain where there is one, and else the type. -/
def domainOrType (d : Dialect) (c : Column) : String :=
  if c.userDomain?.isSome then c.domainText d else c.typeText d

/-- As `domainOrType`, but a reference to a type goes before the domain. -/
def parameterType (d : Dialect) (c : Column) : String :=
  if c.userDomain?.isSome && c.typeOf.isNone then c.domainText d else c.typeText d

def identityClause (c : Column) : String :=
  match c.autoincrement with
  | none => ""
  | some auto =>
    Text.whenTrue auto.identity
      (" GENERATED BY DEFAULT AS IDENTITY" ++
        Text.whenTrue (auto.startValue ≠ 0)
          (" (START WITH " ++ toString auto.startValue.toInt ++ ")"))

def defaultClause (c : Column) : String :=
  Text.optional (SchemaScript.defaultClause · c.typeCode) c.default.text?

def notNullClause (c : Column) : String := Text.whenTrue c.notNull " NOT NULL"

def checkClause (c : Column) : String :=
  Text.optional (fun check => " CHECK (" ++ check ++ ")") c.check?

def collateClause (c : Column) : String := Text.optional (" COLLATE " ++ ·) c.collation?

def computedClause (expression : String) : String := "COMPUTED BY (" ++ expression ++ ")"

def definitionText (d : Dialect) (c : Column) : String :=
  d.identifier c.label ++ " " ++
    match c.computedBy? with
    | some expression => computedClause expression
    | none =>
      c.domainOrType d ++ c.identityClause ++ c.defaultClause ++ c.notNullClause ++ c.checkClause ++
        c.collateClause

/-- The definition of a column of a table. -/
def definition (d : Dialect) (c : Column) : Except StatementError String :=
  match c.conflict? with
  | some error => .error error
  | none => .ok (c.definitionText d)

def parameterText (d : Dialect) (c : Column) : String :=
  match c.computedBy? with
  | some expression => d.identifier c.label ++ " " ++ computedClause expression
  | none =>
    Text.trimEnd (d.identifier c.label ++ " " ++ c.parameterType d ++ c.notNullClause ++
      Text.whenTrue (c.direction ≠ .output) c.defaultClause ++ c.checkClause)

/-- The definition of a parameter or of a local variable. -/
def parameterDefinition (d : Dialect) (c : Column) : Except StatementError String :=
  match c.conflict? with
  | some error => .error error
  | none => .ok (c.parameterText d)

end SchemaScript.Column
