import SchemaScript.Comment
import SchemaScript.SqlSecurity
import SchemaScript.Wording

/-! Triggers, of tables or of the whole database. -/

namespace SchemaScript

structure Trigger where
  name : String := ""
  /-- Triggers of the database have no table. -/
  table : Option String := none
  active : Bool := true
  /-- The events in words, such as `BEFORE INSERT OR UPDATE`. -/
  events : String := ""
  position : Int32 := 0
  security : Option SqlSecurity := none
  entryPoint : Option String := none
  engine : Option String := none
  /-- The source from its `AS` on. -/
  source : Option String := none
  comment : Option String := none
  deriving DecidableEq

namespace Trigger

instance : Inhabited Trigger := ⟨{}⟩

def eventText (t : Trigger) : String :=
  if Text.isBlank t.events then "" else " " ++ Text.trim t.events

def bodyText (t : Trigger) : String :=
  match Text.given t.entryPoint with
  | some entryPoint =>
    "EXTERNAL NAME " ++ literal entryPoint ++
      Text.optional ("\nENGINE " ++ Text.trim ·) (Text.given t.engine)
  | none => Text.optional Text.trimEnd (Text.given t.source)

def create (d : Dialect) (t : Trigger) : String :=
  "CREATE OR ALTER TRIGGER " ++ d.identifier t.name ++
    Text.optional (" FOR " ++ d.identifier ·) (Text.given t.table) ++ "\n" ++
    activityWord t.active ++ t.eventText ++ " POSITION " ++ toString t.position.toInt ++ "\n" ++
    Text.optional (SqlSecurity.clause · ++ "\n") t.security ++ t.bodyText ++ blockDelimiter ++
    "\n" ++ SchemaScript.comment d .trigger t.name t.comment blockDelimiter

end Trigger

end SchemaScript
