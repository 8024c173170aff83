import SchemaScript.Codec.Choice
import SchemaScript.Column

/-! Columns in request documents. -/

namespace SchemaScript

def DefaultValue.codec : Codec DefaultValue :=
  (Record.build DefaultValue.mk
    |>.field "value" (·.value) (.optional .string)
    |>.field "explicit" (·.explicit) .bool).codec "struct DefaultValue"

def Autoincrement.codec : Codec Autoincrement :=
  (Record.build Autoincrement.mk
    |>.field "identity" (·.identity) .bool
    |>.field "start_value" (·.startValue) .int64
    |>.field "sequence_name" (·.sequenceName) (.optional .string)
    |>.field "create_sequence" (·.createSequence) .bool
    |>.field "trigger_name" (·.triggerName) (.optional .string)).codec "struct Autoincrement"

def Cursor.codec : Codec Cursor :=
  (Record.build Cursor.mk
    |>.field "scroll" (·.scroll) .bool
    |>.field "select" (·.select) .string).codec "struct CursorSpec"

def ChangeFlags.codec : Codec ChangeFlags :=
  (Record.build ChangeFlags.mk
    |>.field "name" (·.name) .bool
    |>.field "default" (·.default) .bool
    |>.field "required" (·.required) .bool
    |>.field "check" (·.check) .bool
    |>.field "type" (·.type) .bool
    |>.field "description" (·.description) .bool).codec "struct ChangeFlags"

namespace Direction

def all : List Direction := [input, output, localVariable]

def name : Direction → String
  | input => "input"
  | output => "output"
  | localVariable => "variable"

def codec : Codec Direction := .oneOf all name

end Direction

def ColumnReference.record : Record ColumnReference ColumnReference :=
  Record.build ColumnReference.mk
    |>.required "table" (·.table) .string
    |>.required "column" (·.column) .string

namespace TypeOf

def reference? : TypeOf → Option ColumnReference
  | domain => none
  | column reference => some reference

def tagged : Tagged TypeOf where
  title := "TypeOf"
  key := "from"
  variants := [
    .ofValue "domain" domain,
    .ofRecord "column" "struct variant TypeOf::Column" ColumnReference.record column reference?]

end TypeOf

namespace Column

def record : Record Column Column :=
  Record.build Column.mk
    |>.field "name" (·.name) (.optional .string)
    |>.field "sql_type" (·.code) .int32
    |>.field "type_name" (·.typeName) (.optional .string)
    |>.field "size" (·.size) .int32
    |>.field "scale" (·.scale) .int32
    |>.field "subtype" (·.subtype) .int32
    |>.field "segment_size" (·.segmentSize) .int32
    |>.field "not_null" (·.notNull) .bool
    |>.field "domain" (·.domain) (.optional .string)
    |>.field "default_value" (·.default) DefaultValue.codec
    |>.field "check" (·.check) (.optional .string)
    |>.field "collation" (·.collation) (.optional .string)
    |>.field "charset" (·.charset) (.optional .string)
    |>.field "description" (·.description) (.optional .string)
    |>.field "description_as_single_comment" (·.lineComment) .bool
    |>.field "computed_by" (·.computedBy) (.optional .string)
    |>.field "autoincrement" (·.autoincrement) (.optional Autoincrement.codec)
    |>.field "primary_key" (·.primaryKey) .bool
    |>.field "changes" (·.changes) ChangeFlags.codec
    |>.field "cursor" (·.cursor) (.optional Cursor.codec)
    |>.field "type_of" (·.typeOf) (.optional TypeOf.tagged.codec)
    |>.field "direction" (·.direction) Direction.codec

def title : String := "struct ColumnDescriptor"

def codec : Codec Column := record.codec title

end Column

end SchemaScript
