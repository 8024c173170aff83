import SchemaScript.Codec.Choice
import SchemaScript.Constraint

/-! Constraints in request documents. -/

namespace SchemaScript

def ConstraintKind.codec : Codec ConstraintKind := .oneOf ConstraintKind.all ConstraintKind.name

def ReferentialAction.codec : Codec ReferentialAction :=
  .oneOf ReferentialAction.all ReferentialAction.name

def Constraint.codec : Codec Constraint :=
  (Record.build Constraint.mk
    |>.field "name" (·.name) (.optional .string)
    |>.field "kind" (·.kind) (.optional ConstraintKind.codec)
    |>.field "columns" (·.columns) (.list .string)
    |>.field "check" (·.check) (.optional .string)
    |>.field "ref_table" (·.refTable) (.optional .string)
    |>.field "ref_columns" (·.refColumns) (.list .string)
    |>.field "update_rule" (·.updateRule) (.optional ReferentialAction.codec)
    |>.field "delete_rule" (·.deleteRule) (.optional ReferentialAction.codec)
    |>.field "tablespace" (·.tablespace) (.optional .string)
    |>.field "generated_name" (·.generatedName) .bool).codec "struct ConstraintDescriptor"

end SchemaScript
