/-! Words that the statements of several kinds of objects share. -/

namespace SchemaScript

/-- Ends routines, triggers and jobs, whose bodies hold semicolons. -/
def blockDelimiter : String := "^"

/-- Whether an object takes effect. -/
def activityWord (active : Bool) : String := if active then "ACTIVE" else "INACTIVE"

end SchemaScript
