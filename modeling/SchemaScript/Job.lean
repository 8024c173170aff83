import SchemaScript.Calendar.Timestamp
import SchemaScript.Dialect.Identifier
import SchemaScript.Dialect.Literal
import SchemaScript.Wording

/-! Scheduled jobs. -/

namespace SchemaScript

/-- What a job runs. -/
inductive JobKind where
  | command
  | sql
  deriving DecidableEq, Repr

namespace JobKind

def all : List JobKind := [command, sql]

def name : JobKind → String
  | command => "command"
  | sql => "sql"

end JobKind

structure Job where
  name : String := ""
  schedule : String := ""
  active : Bool := true
  startDate : Option Timestamp := none
  endDate : Option Timestamp := none
  kind : JobKind := .sql
  source : String := ""
  deriving DecidableEq

namespace Job

instance : Inhabited Job := ⟨{}⟩

def dateText : Option Timestamp → String
  | none => "NULL"
  | some date => literal date.writeToMinute

def bodyText (j : Job) : String :=
  match j.kind with
  | .command => "COMMAND " ++ literal (Text.trim j.source)
  | .sql => "AS\n" ++ Text.trimEnd j.source

def create (d : Dialect) (j : Job) : String :=
  "CREATE JOB " ++ d.identifier j.name ++ "\n" ++ literal j.schedule ++ "\n" ++
    activityWord j.active ++ "\nSTART DATE " ++ dateText j.startDate ++ "\nEND DATE " ++
    dateText j.endDate ++ "\n" ++ j.bodyText ++ blockDelimiter ++ "\n"

end Job

end SchemaScript
