import SchemaScript.Column.ParameterList
import SchemaScript.Comment
import SchemaScript.Routine
import SchemaScript.Wording

/-! Scripts that create procedures and functions, with comments on them and on their parameters. Of
the rows that cannot be written, the first one is reported. -/

namespace SchemaScript

/-- The start of the statement up to the inputs, which have parentheses if one of them has a name.
-/
def routineHead (d : Dialect) (kind : ObjectKind) (name : String) (authId : Option String)
    (inputs : List Column) : Except StatementError String := do
  let head := "CREATE OR ALTER " ++ kind.keyword ++ " " ++ d.identifier name ++
    Text.optional ("\nAUTHID " ++ Text.trim ·) (Text.given authId)
  if inputs.any (·.hasName) then
    let list ← Column.parameterList d inputs
    .ok (head ++ " (\n" ++ list ++ ")")
  else .ok head

/-- The rest of the statement: an external entry point, or the variables and the body. -/
def routineBody (d : Dialect) (security : Option SqlSecurity) (entryPoint engine : Option String)
    (locals : List Column) (body : String) : Except StatementError String := do
  let securityText := Text.optional ("\n" ++ SqlSecurity.clause ·) security
  match Text.given entryPoint with
  | some entryPoint =>
    .ok (securityText ++ "\nEXTERNAL NAME " ++ literal entryPoint ++ " ENGINE " ++
      Text.trim (engine.getD "") ++ blockDelimiter ++ "\n")
  | none =>
    let block ← Column.variableBlock d locals
    .ok (securityText ++ "\nAS\n" ++ block ++ Text.trimEnd body ++ blockDelimiter ++ "\n")

namespace Procedure

def returnsText (outputs : String) : String :=
  if Text.isBlank outputs then "" else "\nRETURNS (\n" ++ outputs ++ ")"

def create (d : Dialect) (p : Procedure) : Except StatementError String := do
  let head ← routineHead d .procedure p.name p.authId p.inputs
  let outputs ← Column.parameterList d p.outputs
  let body ← routineBody d p.security p.entryPoint p.engine p.locals p.body
  .ok (head ++ returnsText outputs ++ body ++
    SchemaScript.comment d .procedure p.name p.comment blockDelimiter ++
    memberComments d p.name .parameter blockDelimiter p.inputs ++
    memberComments d p.name .parameter blockDelimiter p.outputs)

end Procedure

namespace Function

def returnsText (d : Dialect) (f : Function) : String :=
  Text.optional ("\nRETURNS " ++ Column.parameterType d ·) f.returnType ++
    Text.whenTrue f.deterministic " DETERMINISTIC"

def create (d : Dialect) (f : Function) : Except StatementError String := do
  let head ← routineHead d .function f.name none f.arguments
  let body ← routineBody d f.security f.entryPoint f.engine f.locals f.body
  .ok (head ++ returnsText d f ++ body ++
    SchemaScript.comment d .function f.name f.comment blockDelimiter ++
    memberComments d f.name .parameter blockDelimiter f.arguments)

end Function

end SchemaScript
