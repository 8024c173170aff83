import SchemaScript.Dictionary

/-! JSON values. Objects that are read hold their entries in the order of the keys, each key once;
objects that are written keep the order in which their entries are given. -/

namespace SchemaScript

inductive Json where
  | null
  | bool (value : Bool)
  | int (value : Int)
  /-- A number that is no integer, or an integer beyond 64 bits, in double precision. -/
  | float (value : Float)
  | string (value : String)
  | array (items : List Json)
  | object (entries : List (String × Json))
  deriving Inhabited

namespace Json

/-- The object with these entries; of entries with the same key the last one counts. -/
def ofEntries (entries : List (String × Json)) : Json := object (entriesOf entries)

end Json

end SchemaScript
