import SchemaScript.Codec.Record

/-! Types of several cases: by name alone, or by a tag beside the fields of the case. -/

namespace SchemaScript

namespace Codec

variable {α : Type}

/-- The value with this name. -/
def named? (values : List α) (name : α → String) (text : String) : Option α :=
  values.find? (name · == text)

def readName (values : List α) (name : α → String) (text : String) : Except Mismatch α :=
  match named? values name text with
  | some value => .ok value
  | none => .error (.unknownChoice text (values.map name))

/-- What may stand under a name that needs nothing else. -/
def readUnit (layer : Layer) : Json → Except Mismatch Unit
  | .null => .ok ()
  | .object [] =>
    match layer with
    | .tagged => .ok ()
    | .plain => .error (.wrongType .object "unit")
  | other => .error (.wrongType other.shape "unit")

/-- A choice of names. The name may also be the single key of an object, with nothing under it. -/
def oneOf (values : List α) (name : α → String) : Codec α where
  write value := .string (name value)
  read layer
    | .string text => readName values name text
    | .object [(key, json)] => do
      let value ← readName values name key
      readUnit layer json
      .ok value
    | .object _ => .error (.wrongValue .object "map with a single key")
    | other => .error (.wrongType other.shape "string or map")

end Codec

/-- One case of a tagged choice. -/
structure Variant (α : Type) where
  tag : String
  /-- The fields beside the tag, for the values of this case. -/
  write : α → Option (List (String × Json))
  readObject : List (String × Json) → Except Mismatch α
  readArray : List Json → Except Mismatch α

namespace Variant

variable {α ρ : Type}

/-- The case whose values carry a record. -/
def ofRecord (tag title : String) (record : Record ρ ρ) (wrap : ρ → α) (unwrap? : α → Option ρ) :
    Variant α where
  tag := tag
  write value := (unwrap? value).map record.write
  readObject entries := (record.readObject .tagged entries).map wrap
  readArray items := (record.readArray title .tagged items).map wrap

/-- The case of a single value. -/
def ofValue [DecidableEq α] (tag : String) (value : α) : Variant α where
  tag := tag
  write other := if other = value then some [] else none
  readObject _ := .ok value
  readArray items :=
    if items.isEmpty then .ok value else .error (.wrongLength items.length "0 elements in sequence")

end Variant

/-- A choice whose cases are told apart by the text under `key`. -/
structure Tagged (α : Type) where
  title : String
  key : String
  variants : List (Variant α)

namespace Tagged

variable {α : Type}

def write (tagged : Tagged α) (value : α) : Json :=
  match tagged.variants.findSome? fun variant => (variant.write value).map (variant.tag, ·) with
  | some (tag, fields) => .object ((tagged.key, .string tag) :: fields)
  | none => .null

/-- The case that a tag names. Content that was set aside may give it by its index. -/
def readTag (tagged : Tagged α) (layer : Layer) : Json → Except Mismatch (Variant α)
  | .string tag => Codec.readName tagged.variants (·.tag) tag
  | .int index =>
    if layer = .tagged && 0 ≤ index then
      match tagged.variants[index.toNat]? with
      | some variant => .ok variant
      | none => .error (.wrongValue (.int index)
          ("variant index 0 <= i < " ++ Nat.repr tagged.variants.length))
    else .error (.wrongType (.int index) "variant identifier")
  | other => .error (.wrongType other.shape "variant identifier")

def read (tagged : Tagged α) (layer : Layer) : Json → Except Mismatch α
  | .object entries =>
    match entries.lookup tagged.key with
    | none => .error (.missingField tagged.key)
    | some tag => do
      let variant ← tagged.readTag layer tag
      variant.readObject (entries.filter (·.1 ≠ tagged.key))
  | .array [] => .error (.missingField tagged.key)
  | .array (tag :: items) => do
    let variant ← tagged.readTag layer tag
    variant.readArray items
  | other => .error (.wrongType other.shape ("internally tagged enum " ++ tagged.title))

def codec (tagged : Tagged α) : Codec α where
  write := tagged.write
  read := tagged.read

end Tagged

end SchemaScript
