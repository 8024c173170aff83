import SchemaScript.Constraint
import SchemaScript.GeneratedName
import SchemaScript.StatementError

/-! Naming the constraints of a table and merging the entries that share a name. A made-up name is
numbered past every name in the list, before it and after it; merged entries keep the place and the
properties of the first one and take over the columns of the others. -/

namespace SchemaScript

/-- Stands for the name of the table until that is written. -/
def tableNameMark : String := "<TABLE_NAME>"

def ConstraintKind.stem (kind : ConstraintKind) : String :=
  kind.nameStart ++ "_" ++ tableNameMark ++ "_"

def ConstraintKind.newName (kind : ConstraintKind) (existing : List String) : String :=
  nextName kind.stem existing

namespace Constraint

/-- An entry with the name it goes by. -/
structure Named where
  name : String
  entry : Constraint
  deriving DecidableEq

/-- The entries from `index` on with their names, given the names that are taken so far. -/
def nameFrom (taken : List String) (index : Nat) :
    List Constraint → Except StatementError (List Named)
  | [] => .ok []
  | c :: rest =>
    match c.name?, c.kind with
    | some name, _ => do
      let named ← nameFrom taken (index + 1) rest
      .ok (⟨name, c⟩ :: named)
    | none, none => .error (.constraintWithoutKind index)
    | none, some kind => do
      let name := kind.newName taken
      let named ← nameFrom (name :: taken) (index + 1) rest
      .ok (⟨name, { c with name := some name, generatedName := true }⟩ :: named)

/-- Every entry with its name, given or made up. -/
def nameAll (entries : List Constraint) : Except StatementError (List Named) :=
  nameFrom (entries.filterMap (·.name?)) 0 entries

/-- The first entry, which keeps all it has, with the columns of the second behind its own. -/
def takeColumns (first second : Constraint) : Constraint :=
  { first with
    columns := first.columns ++ second.columns
    refColumns := first.refColumns ++ second.refColumns }

/-- Merges an entry into the one of the same name, or puts it at the end. -/
def mergeOne (new : Named) : List Named → List Named
  | [] => [new]
  | old :: rest =>
    if old.name = new.name then ⟨old.name, old.entry.takeColumns new.entry⟩ :: rest
    else old :: mergeOne new rest

/-- The constraints that the entries stand for, in the order of their first entries. -/
def merge (entries : List Constraint) : Except StatementError (List Constraint) := do
  let named ← nameAll entries
  .ok ((named.foldl (fun merged new => mergeOne new merged) []).map (·.entry))

end Constraint

end SchemaScript
