import SchemaScript.Column.Codec
import SchemaScript.Constraint.Codec
import SchemaScript.Table

/-! Tables in request documents. -/

namespace SchemaScript

def SqlSecurity.codec : Codec SqlSecurity := .oneOf SqlSecurity.all SqlSecurity.name

def RowLifetime.codec : Codec RowLifetime := .oneOf RowLifetime.all RowLifetime.name

namespace Table

def record : Record Table Table :=
  Record.build Table.mk
    |>.field "name" (·.name) .string
    |>.field "columns" (·.columns) (.list Column.codec)
    |>.field "constraints" (·.constraints) (.list Constraint.codec)
    |>.field "exists" (·.isExisting) .bool
    |>.field "temporary" (·.temporary) (.optional RowLifetime.codec)
    |>.field "external_file" (·.externalFile) (.optional .string)
    |>.field "adapter" (·.adapter) (.optional .string)
    |>.field "sql_security" (·.security) (.optional SqlSecurity.codec)
    |>.field "tablespace" (·.tablespace) (.optional .string)
    |>.field "comment" (·.comment) (.optional .string)

def title : String := "struct TableDescriptor"

def codec : Codec Table := record.codec title

end Table

end SchemaScript
