import SchemaScript.AlterStatement
import SchemaScript.Column.Changes
import SchemaScript.Column.Definition
import SchemaScript.Comment

/-! Statements for domains, which are described like columns. A domain is altered by what differs
between two versions of it, or by the flags that an edit has left. -/

namespace SchemaScript.Domain

def create (d : Dialect) (domain : Column) : Except StatementError String :=
  if !domain.hasName then .error .domainWithoutName
  else .ok ("CREATE DOMAIN " ++ d.identifier domain.label ++ " AS " ++ domain.typeText d ++
    domain.defaultClause ++ domain.notNullClause ++ domain.checkClause ++ domain.collateClause ++
    ";\n" ++ comment d .domain domain.label domain.description? ";")

/-! ### Clauses -/

def renameClause (d : Dialect) (after : Column) : String := "TO " ++ d.identifier after.label

def defaultClause (after : Column) : String :=
  match after.default.text? with
  | some value => "SET DEFAULT " ++ valueText value after.typeCode
  | none => "DROP DEFAULT"

def requiredClause (after : Column) : String :=
  (if after.notNull then "SET" else "DROP") ++ " NOT NULL"

/-- The old check goes first, as a domain has one at most. -/
def checkClause (after : Column) : String :=
  match after.check? with
  | some check => "DROP CONSTRAINT\nADD CHECK (" ++ check ++ ")"
  | none => "DROP CONSTRAINT"

def typeClause (d : Dialect) (after : Column) : String := "TYPE " ++ after.typeText d

/-- A clause for each flag that is set, but for the description's. -/
def clauses (d : Dialect) (after : Column) (changes : ChangeFlags) : List (Option String) := [
  if changes.name then some (renameClause d after) else none,
  if changes.default then some (defaultClause after) else none,
  if changes.required then some (requiredClause after) else none,
  if changes.check then some (checkClause after) else none,
  if changes.type then some (typeClause d after) else none]

/-- The comment on the domain, by its new name where it has one. -/
def commentTrailer (d : Dialect) (oldName : String) (after : Column) : String :=
  let name := if after.hasName then after.label else oldName
  commentStatement .domain (d.identifier name) after.description? ";"

/-! ### Statements -/

def alterStatement (d : Dialect) (oldName : String) (after : Column) (changes : ChangeFlags) :
    AlterStatement :=
  let empty : AlterStatement := ⟨"ALTER DOMAIN " ++ d.identifier oldName, "\n", [], []⟩
  ((clauses d after changes).foldl AlterStatement.addClause empty).addTrailer
    (if changes.description then some (commentTrailer d oldName after) else none)

/-- The statement for the domain that was called `oldName`, with these flags set. -/
def alterFlagged (d : Dialect) (oldName : String) (after : Column) (changes : ChangeFlags) :
    Except StatementError String :=
  if changes.name && !after.hasName then .error .domainWithoutNewName
  else .ok (alterStatement d oldName after changes).text

/-- Turns the domain `before` into `after`. -/
def alter (d : Dialect) (before after : Column) : Except StatementError String :=
  if !before.hasName then .error .domainWithoutOldName
  else alterFlagged d before.label after (ChangeFlags.between before after)

/-- Brings the domain that was called `oldName` up to its edited description. -/
def alterTracked (d : Dialect) (oldName : String) (current : Column) :
    Except StatementError String :=
  if Text.isBlank oldName then .error .domainWithoutOldName
  else alterFlagged d oldName current current.changes

end SchemaScript.Domain
