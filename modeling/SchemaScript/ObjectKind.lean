import SchemaScript.Text.Blank
import SchemaScript.Text.Upper

/-! Kinds of database objects and the words that scripts have for them. -/

namespace SchemaScript

inductive ObjectKind where
  | table
  | column
  | view
  | procedure
  | function
  | parameter
  | trigger
  | sequence
  | domain
  | exception
  | index
  | role
  | user
  | collation
  | tablespace
  | job
  | package
  deriving DecidableEq, Repr

namespace ObjectKind

def all : List ObjectKind := [
  table, column, view, procedure, function, parameter, trigger, sequence, domain, exception, index,
  role, user, collation, tablespace, job, package]

/-- The name in request documents. -/
def name : ObjectKind → String
  | table => "table"
  | column => "column"
  | view => "view"
  | procedure => "procedure"
  | function => "function"
  | parameter => "parameter"
  | trigger => "trigger"
  | sequence => "sequence"
  | domain => "domain"
  | exception => "exception"
  | index => "index"
  | role => "role"
  | user => "user"
  | collation => "collation"
  | tablespace => "tablespace"
  | job => "job"
  | package => "package"

/-- The keyword in statements and in generated names. -/
def keyword : ObjectKind → String
  | table => "TABLE"
  | column => "COLUMN"
  | view => "VIEW"
  | procedure => "PROCEDURE"
  | function => "FUNCTION"
  | parameter => "PARAMETER"
  | trigger => "TRIGGER"
  | sequence => "SEQUENCE"
  | domain => "DOMAIN"
  | exception => "EXCEPTION"
  | index => "INDEX"
  | role => "ROLE"
  | user => "USER"
  | collation => "COLLATION"
  | tablespace => "TABLESPACE"
  | job => "JOB"
  | package => "PACKAGE"

/-- The kind whose keyword a text is, in any case and with blanks around it. Sequences were once
called generators. -/
def ofText? (text : String) : Option ObjectKind :=
  let word := Text.upper (Text.trim text)
  if word = "GENERATOR" then some sequence else all.find? (·.keyword == word)

theorem mem_all (kind : ObjectKind) : kind ∈ all := by cases kind <;> decide

end ObjectKind

end SchemaScript
