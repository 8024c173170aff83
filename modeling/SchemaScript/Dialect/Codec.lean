import SchemaScript.Codec.Record
import SchemaScript.Dialect

/-! Dialects as JSON values. -/

namespace SchemaScript

def Dialect.codec : Codec Dialect :=
  (Record.build Dialect.mk
    |>.field "version" (·.version) .uint32
    |>.field "quote" (·.quote) .character
    |>.field "always_quote" (·.alwaysQuote) .bool
    |>.field "reserved" (·.reserved) (.list .string)).codec "struct Dialect"

end SchemaScript
