import SchemaScript.AlterStatement
import SchemaScript.User

/-! Altering users. Each property that differs has a clause; a password or a plugin that is blank
afterwards stays as it was. -/

namespace SchemaScript.User

/-! ### Tags -/

/-- A step that brings tags up to date. -/
inductive TagEdit where
  | drop (key : String)
  | set (key value : String)
  deriving DecidableEq

def TagEdit.text : TagEdit → String
  | drop key => "DROP " ++ key
  | set key value => tagText key value

def TagEdit.apply (tags : Dictionary String) : TagEdit → Dictionary String
  | drop key => tags.erase key
  | set key value => tags.insert key value

/-- The tags that are gone, then every tag that is there. -/
def tagEdits (before after : Dictionary String) : List TagEdit :=
  ((before.keys.filter (!after.keys.contains ·)).map TagEdit.drop) ++
    after.entries.map fun tag => TagEdit.set tag.1 tag.2

def tagClause? (before after : Dictionary String) : Option String :=
  if before = after then none else some (tagList ((tagEdits before after).map TagEdit.text))

/-! ### Clauses -/

/-- A name that differs is written out, or emptied. -/
def nameClause? (keyword : String) (before after : Option String) : Option String :=
  if Text.given before = Text.given after then none
  else some (keyword ++ " " ++ literal ((Text.given after).getD ""))

/-- A value that is there and was not there before. -/
def newValue? (before after : Option String) : Option String :=
  (Text.given after).filter (Text.given before ≠ some ·)

def clauses (before after : User) : List (Option String) := [
  nameClause? "FIRSTNAME" before.firstName after.firstName,
  nameClause? "MIDDLENAME" before.middleName after.middleName,
  nameClause? "LASTNAME" before.lastName after.lastName,
  (newValue? before.password after.password).map ("PASSWORD " ++ literal ·),
  if before.active = after.active then none else some (activityWord after.active),
  if before.admin = after.admin then none
    else some ((if after.admin then "GRANT" else "REVOKE") ++ " ADMIN ROLE"),
  (newValue? before.plugin after.plugin).map ("USING PLUGIN " ++ Text.trim ·),
  tagClause? before.tags after.tags]

def commentTrailer? (d : Dialect) (before after : User) : Option String :=
  if Text.given before.comment = Text.given after.comment then none
  else some (commentStatement .user (d.identifier before.name) after.comment ";")

def alterStatement (d : Dialect) (before after : User) : AlterStatement :=
  let empty : AlterStatement := ⟨"ALTER USER " ++ d.identifier before.name, "\n\t", [], []⟩
  ((clauses before after).foldl AlterStatement.addClause empty).addTrailer
    (commentTrailer? d before after)

/-- Turns the user `before` into `after`; the name stays. -/
def alter (d : Dialect) (before after : User) : String := (alterStatement d before after).text

end SchemaScript.User
