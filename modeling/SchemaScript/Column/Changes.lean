import SchemaScript.Column

/-! Which properties two versions of a column differ in. -/

namespace SchemaScript

/-- What makes two types the same for an edit. -/
structure TypeSignature where
  code : TypeCode
  name : Option String
  size : Int32
  scale : Int32
  subtype : Int32
  charset : Option String
  typeOf : Option TypeOf
  deriving DecidableEq

def Column.typeSignature (c : Column) : TypeSignature where
  code := c.typeCode
  name := c.typeName.map (Text.upper <| Text.trim ·)
  size := c.size
  scale := c.scale
  subtype := c.subtype
  charset := c.charset?
  typeOf := c.typeOf

/-- Names are compared as they are; blank defaults, checks and descriptions count as absent. -/
def ChangeFlags.between (before after : Column) : ChangeFlags where
  name := before.name ≠ after.name
  default := before.default.text? ≠ after.default.text?
  required := before.notNull ≠ after.notNull
  check := before.check? ≠ after.check?
  type := before.typeSignature ≠ after.typeSignature
  description := before.description? ≠ after.description?

/-- The column with the changes since `snapshot` for its flags. -/
def Column.trackChanges (current snapshot : Column) : Column :=
  { current with changes := ChangeFlags.between snapshot current }

end SchemaScript
