import SchemaScript.Comment
import SchemaScript.Table
import SchemaScript.Wording

/-! Columns numbered by a sequence and a trigger. Their default names carry the table and the
column, so that each numbered column of a table has a trigger of its own. -/

namespace SchemaScript

namespace Autoincrement

def sequenceFor (auto : Autoincrement) (table column : String) : String :=
  (Text.given auto.sequenceName).getD ("GEN_" ++ table ++ "_" ++ column)

def triggerFor (auto : Autoincrement) (table column : String) : String :=
  (Text.given auto.triggerName).getD (table ++ "_" ++ column ++ "_BI")

/-- Makes the sequence where that is asked for, and starts it where it does not start at zero. -/
def sequenceScript (auto : Autoincrement) (sequence : String) : String :=
  Text.whenTrue auto.createSequence
    ("CREATE SEQUENCE " ++ sequence ++ ";\n" ++
      Text.whenTrue (auto.startValue ≠ 0)
        ("ALTER SEQUENCE " ++ sequence ++ " RESTART WITH " ++ toString auto.startValue.toInt ++
          ";\n"))

/-- Fills the column from the sequence in rows that come without a value. -/
def triggerScript (trigger table column sequence : String) : String :=
  "CREATE OR ALTER TRIGGER " ++ trigger ++ " FOR " ++ table ++ "\n" ++
    "ACTIVE BEFORE INSERT POSITION 0\nAS\nBEGIN\n\tIF (NEW." ++ column ++ " IS NULL) THEN NEW." ++
    column ++ " = NEXT VALUE FOR " ++ sequence ++ ";\nEND" ++ blockDelimiter ++ "\n"

end Autoincrement

/-- The sequence and the trigger of a column that needs them. -/
def Column.autoincrementScript (d : Dialect) (table : String) (c : Column) : String :=
  match c.autoincrement with
  | none => ""
  | some auto =>
    if auto.identity then ""
    else
      let sequence := d.identifier (auto.sequenceFor table c.label)
      auto.sequenceScript sequence ++
        Autoincrement.triggerScript (d.identifier (auto.triggerFor table c.label))
          (d.identifier table) (d.identifier c.label) sequence

end SchemaScript
