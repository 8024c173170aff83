import SchemaScript.Comment

/-! Sequences. Servers that cannot create one with its numbers create it bare and restart it, so
that its next value is the start and one increment more, in a machine word. -/

namespace SchemaScript

structure Sequence where
  name : String := ""
  start : Int64 := 0
  increment : Int64 := 1
  isExisting : Bool := false
  comment : Option String := none
  deriving DecidableEq

namespace Sequence

instance : Inhabited Sequence := ⟨{}⟩

def create (d : Dialect) (s : Sequence) : String :=
  (if d.hasCreateOrAlter then
      "CREATE OR ALTER SEQUENCE " ++ d.identifier s.name ++ " START WITH " ++
        toString s.start.toInt ++ " INCREMENT BY " ++ toString s.increment.toInt ++ ";\n"
    else
      Text.whenTrue (!s.isExisting) ("CREATE SEQUENCE " ++ d.identifier s.name ++ ";\n") ++
        "ALTER SEQUENCE " ++ d.identifier s.name ++ " RESTART WITH " ++
        toString (s.start + s.increment).toInt ++ ";\n") ++
    SchemaScript.comment d .sequence s.name s.comment ";"

example : create { version := 2 } { name := "S", start := 9223372036854775807 } =
    "CREATE SEQUENCE S;\nALTER SEQUENCE S RESTART WITH -9223372036854775808;\n" := by decide +kernel

end Sequence

end SchemaScript
