import SchemaScript.Dialect.Identifier

/-! Constraints of tables. One constraint may come as several entries of the same name, one for each
of its columns. -/

namespace SchemaScript

inductive ConstraintKind where
  | primaryKey
  | foreignKey
  | unique
  | check
  deriving DecidableEq, Repr

namespace ConstraintKind

def all : List ConstraintKind := [primaryKey, foreignKey, unique, check]

def name : ConstraintKind → String
  | primaryKey => "primary_key"
  | foreignKey => "foreign_key"
  | unique => "unique"
  | check => "check"

def keyword : ConstraintKind → String
  | primaryKey => "PRIMARY KEY"
  | foreignKey => "FOREIGN KEY"
  | unique => "UNIQUE"
  | check => "CHECK"

/-- How generated names of this kind begin. -/
def nameStart : ConstraintKind → String
  | primaryKey => "PK"
  | foreignKey => "FK"
  | unique => "UQ"
  | check => "CHECK"

end ConstraintKind

/-- What a change of a referenced row does to the rows that refer to it. -/
inductive ReferentialAction where
  | restrict
  | noAction
  | cascade
  | setNull
  | setDefault
  deriving DecidableEq, Repr

namespace ReferentialAction

def all : List ReferentialAction := [restrict, noAction, cascade, setNull, setDefault]

def name : ReferentialAction → String
  | restrict => "restrict"
  | noAction => "no_action"
  | cascade => "cascade"
  | setNull => "set_null"
  | setDefault => "set_default"

def keyword : ReferentialAction → String
  | restrict => "RESTRICT"
  | noAction => "NO ACTION"
  | cascade => "CASCADE"
  | setNull => "SET NULL"
  | setDefault => "SET DEFAULT"

end ReferentialAction

structure Constraint where
  name : Option String := none
  kind : Option ConstraintKind := none
  columns : List String := []
  check : Option String := none
  refTable : Option String := none
  refColumns : List String := []
  updateRule : Option ReferentialAction := none
  deleteRule : Option ReferentialAction := none
  tablespace : Option String := none
  /-- The name was made up, and not given. -/
  generatedName : Bool := false
  deriving DecidableEq

namespace Constraint

instance : Inhabited Constraint := ⟨{}⟩

def onColumn (name : Option String) (kind : ConstraintKind) (column : String) : Constraint :=
  { name, kind := some kind, columns := [column] }

def reference (name : Option String) (column refTable refColumn : String) : Constraint :=
  { onColumn name .foreignKey column with
    refTable := some refTable, refColumns := [refColumn] }

def condition (name : Option String) (expression : String) : Constraint :=
  { name, kind := some .check, check := some expression }

def name? (c : Constraint) : Option String := Text.given c.name

def columnText (d : Dialect) (c : Constraint) : String := d.identifiers c.columns

def refColumnText (d : Dialect) (c : Constraint) : String := d.identifiers c.refColumns

end Constraint

end SchemaScript
