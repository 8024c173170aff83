import SchemaScript.SqlType
import SchemaScript.Text.Search

/-! Columns, and whatever else is declared like one: domains, parameters of routines, local
variables and return values. Most texts are optional, and a blank text counts as an absent one. -/

namespace SchemaScript

structure DefaultValue where
  value : Option String := none
  /-- The value was given by hand and not inherited. -/
  explicit : Bool := false
  deriving DecidableEq

/-- How a column numbers its rows. -/
structure Autoincrement where
  /-- By an identity clause, and not by a sequence and a trigger. -/
  identity : Bool := false
  startValue : Int64 := 0
  sequenceName : Option String := none
  createSequence : Bool := false
  triggerName : Option String := none
  deriving DecidableEq

structure ColumnReference where
  table : String
  column : String
  deriving DecidableEq

/-- Where a `TYPE OF` reference takes the type from. -/
inductive TypeOf where
  | domain
  | column (reference : ColumnReference)
  deriving DecidableEq

structure Cursor where
  scroll : Bool := false
  select : String := ""
  deriving DecidableEq

inductive Direction where
  | input
  | output
  | localVariable
  deriving DecidableEq, Repr

/-- The properties that an edit has touched. -/
structure ChangeFlags where
  name : Bool := false
  default : Bool := false
  required : Bool := false
  check : Bool := false
  type : Bool := false
  description : Bool := false
  deriving DecidableEq

def ChangeFlags.isEmpty (flags : ChangeFlags) : Bool := flags = {}

structure Column where
  name : Option String := none
  code : TypeCode := TypeCode.unset
  typeName : Option String := none
  size : Int32 := 0
  scale : Int32 := 0
  subtype : Int32 := 0
  segmentSize : Int32 := 0
  notNull : Bool := false
  domain : Option String := none
  default : DefaultValue := {}
  check : Option String := none
  collation : Option String := none
  charset : Option String := none
  description : Option String := none
  /-- The description of a variable runs to the end of the line. -/
  lineComment : Bool := false
  computedBy : Option String := none
  autoincrement : Option Autoincrement := none
  primaryKey : Bool := false
  changes : ChangeFlags := {}
  cursor : Option Cursor := none
  typeOf : Option TypeOf := none
  direction : Direction := .input
  deriving DecidableEq

namespace DefaultValue

instance : Inhabited DefaultValue := ⟨{}⟩

def given (value : String) : DefaultValue := ⟨some value, true⟩

def text? (d : DefaultValue) : Option String := Text.given d.value

end DefaultValue

instance : Inhabited Autoincrement := ⟨{}⟩
instance : Inhabited Cursor := ⟨{}⟩
instance : Inhabited ChangeFlags := ⟨{}⟩

namespace Column

instance : Inhabited Column := ⟨{}⟩

/-- A column of a type that is given by name. -/
def ofType (name typeName : String) : Column :=
  { name := some name, code := (TypeCode.ofName? typeName).getD TypeCode.other,
    typeName := some typeName }

/-- The name, or nothing at all. -/
def label (c : Column) : String := c.name.getD ""

def hasName (c : Column) : Bool := (Text.given c.name).isSome

/-- Servers give domains of their own to columns with a plain type. -/
def systemDomainStart : String := "RDB$"

/-- The domain, unless the server made it. -/
def userDomain? (c : Column) : Option String :=
  (Text.given c.domain).filter (!systemDomainStart.toList.isPrefixOf ·.toList)

def computedBy? (c : Column) : Option String := Text.given c.computedBy

def check? (c : Column) : Option String := Text.given c.check

def description? (c : Column) : Option String := Text.given c.description

/-- The collation, unless it is the word for none. -/
def collation? (c : Column) : Option String :=
  (Text.given c.collation).filter (!Text.sameLetters · "NONE")

def charset? (c : Column) : Option String := Text.given c.charset

def isIdentity (c : Column) : Bool := c.autoincrement.any (·.identity)

/-- The type code, looked up by the type's name where none is set. -/
def typeCode (c : Column) : TypeCode :=
  if c.code = TypeCode.unset ∨ c.code = TypeCode.other then
    (c.typeName.bind TypeCode.ofName?).getD c.code
  else c.code

end Column

end SchemaScript
