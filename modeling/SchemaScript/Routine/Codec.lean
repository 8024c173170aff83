import SchemaScript.Routine
import SchemaScript.Table.Codec

/-! Procedures and functions in request documents. -/

namespace SchemaScript

namespace Procedure

def record : Record Procedure Procedure :=
  Record.build Procedure.mk
    |>.field "name" (·.name) .string
    |>.field "inputs" (·.inputs) (.list Column.codec)
    |>.field "outputs" (·.outputs) (.list Column.codec)
    |>.field "variables" (·.locals) (.list Column.codec)
    |>.field "sql_security" (·.security) (.optional SqlSecurity.codec)
    |>.field "authid" (·.authId) (.optional .string)
    |>.field "entry_point" (·.entryPoint) (.optional .string)
    |>.field "engine" (·.engine) (.optional .string)
    |>.field "body" (·.body) .string
    |>.field "comment" (·.comment) (.optional .string)

def title : String := "struct ProcedureDescriptor"

def codec : Codec Procedure := record.codec title

end Procedure

namespace Function

def record : Record Function Function :=
  Record.build Function.mk
    |>.field "name" (·.name) .string
    |>.field "arguments" (·.arguments) (.list Column.codec)
    |>.field "variables" (·.locals) (.list Column.codec)
    |>.field "return_type" (·.returnType) (.optional Column.codec)
    |>.field "deterministic" (·.deterministic) .bool
    |>.field "sql_security" (·.security) (.optional SqlSecurity.codec)
    |>.field "entry_point" (·.entryPoint) (.optional .string)
    |>.field "engine" (·.engine) (.optional .string)
    |>.field "body" (·.body) .string
    |>.field "comment" (·.comment) (.optional .string)

def title : String := "struct FunctionDescriptor"

def codec : Codec Function := record.codec title

end Function

end SchemaScript
