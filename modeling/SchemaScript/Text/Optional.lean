/-! Parts of a text that are there only when there is something to write. -/

namespace SchemaScript.Text

/-- What `write` makes of a value, or nothing without one. -/
def optional {α : Type} (write : α → String) : Option α → String
  | none => ""
  | some value => write value

def whenTrue (condition : Bool) (text : String) : String := if condition then text else ""

@[simp] theorem optional_none {α : Type} (write : α → String) : optional write none = "" := rfl

@[simp] theorem optional_some {α : Type} (write : α → String) (value : α) :
    optional write (some value) = write value := rfl

end SchemaScript.Text
