import SchemaScript.Collation
import SchemaScript.Domain
import SchemaScript.GeneratedName
import SchemaScript.Job
import SchemaScript.Routine.Statement
import SchemaScript.RowStatement
import SchemaScript.Sequence
import SchemaScript.Table.Statement
import SchemaScript.Tablespace
import SchemaScript.Trigger
import SchemaScript.User.Alter
import SchemaScript.View

/-! Requests: what a document can ask for, and the script that answers it. -/

namespace SchemaScript

/-- Two versions of a domain. -/
structure DomainEdit where
  before : Column
  after : Column
  deriving DecidableEq

/-- A domain edited in place, with the name that it had before. -/
structure TrackedDomain where
  name : String
  domain : Column
  deriving DecidableEq

structure UserEdit where
  before : User
  after : User
  deriving DecidableEq

structure CommentRequest where
  object : ObjectKind
  name : String
  text : Option String
  delimiter : String
  deriving DecidableEq

structure NameRequest where
  object : ObjectKind
  siblings : List String
  deriving DecidableEq

inductive Request where
  | createTable (table : Table)
  | createDomain (domain : Column)
  | alterDomain (edit : DomainEdit)
  | alterDomainTracked (tracked : TrackedDomain)
  | createProcedure (procedure : Procedure)
  | createFunction (function : Function)
  | createTrigger (trigger : Trigger)
  | createView (view : View)
  | createSequence (sequence : Sequence)
  | createUser (user : User)
  | alterUser (edit : UserEdit)
  | createCollation (collation : Collation)
  | createTablespace (tablespace : Tablespace)
  | createJob (job : Job)
  | insert (insert : Insert)
  | insertPlaceholders (insert : InsertPlaceholders)
  | update (update : Update)
  | select (select : Select)
  | comment (comment : CommentRequest)
  | generateName (name : NameRequest)
  deriving DecidableEq

/-- The script that does what a request asks for. -/
def Request.script (d : Dialect) : Request → Except StatementError String
  | .createTable table => table.create d
  | .createDomain domain => Domain.create d domain
  | .alterDomain edit => Domain.alter d edit.before edit.after
  | .alterDomainTracked tracked => Domain.alterTracked d tracked.name tracked.domain
  | .createProcedure procedure => procedure.create d
  | .createFunction function => function.create d
  | .createTrigger trigger => .ok (trigger.create d)
  | .createView view => .ok (view.create d)
  | .createSequence sequence => .ok (sequence.create d)
  | .createUser user => .ok (user.create d)
  | .alterUser edit => .ok (User.alter d edit.before edit.after)
  | .createCollation collation => .ok (collation.create d)
  | .createTablespace tablespace => .ok (tablespace.create d)
  | .createJob job => .ok (job.create d)
  | .insert rows => .ok (rows.statement d)
  | .insertPlaceholders rows => .ok (rows.statement d)
  | .update rows => .ok (rows.statement d)
  | .select rows => .ok (rows.statement d)
  | .comment request =>
    .ok (SchemaScript.comment d request.object request.name request.text request.delimiter)
  | .generateName request => .ok (request.object.newName request.siblings ++ "\n")

end SchemaScript
