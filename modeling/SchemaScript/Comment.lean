import SchemaScript.Column
import SchemaScript.Dialect.Identifier
import SchemaScript.Dialect.Literal
import SchemaScript.ObjectKind
import SchemaScript.Text.Optional

/-! Statements that comment on objects and on their members. -/

namespace SchemaScript

/-- The text of a comment as a value. Without one, or with the word `NULL`, the comment goes away.
-/
def commentValue (text : Option String) : String :=
  match Text.given text with
  | none => "NULL"
  | some text => if text = "NULL" then "NULL" else literal text

/-- The statement for an object whose name is written already. -/
def commentStatement (kind : ObjectKind) (target : String) (text : Option String)
    (delimiter : String) : String :=
  "COMMENT ON " ++ kind.keyword ++ " " ++ target ++ " IS " ++ commentValue text ++ delimiter ++ "\n"

/-- The statement for an object that has a comment, and nothing for one that has none. -/
def comment (d : Dialect) (kind : ObjectKind) (name : String) (text : Option String)
    (delimiter : String) : String :=
  Text.optional (fun text => commentStatement kind (d.identifier name) (some text) delimiter)
    (Text.given text)

def memberComment (d : Dialect) (owner : String) (kind : ObjectKind) (delimiter : String)
    (member : Column) : String :=
  if member.hasName then
    Text.optional (fun text => commentStatement kind
      (d.identifier owner ++ "." ++ d.identifier member.label) (some text) delimiter)
      member.description?
  else ""

/-- A statement for each named member that has a description. -/
def memberComments (d : Dialect) (owner : String) (kind : ObjectKind) (delimiter : String)
    (members : List Column) : String :=
  Text.concat (members.map (memberComment d owner kind delimiter))

end SchemaScript
