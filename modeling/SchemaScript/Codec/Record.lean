import SchemaScript.Codec.Basic

/-! Records written as objects. Keys that a record does not know are passed over. Of the fields that
do not fit, the one with the least key is reported; fields that are missing are reported only when
all that are there fit, in the order of the declaration. A record may also be read from the array of
its fields in the order of the declaration. -/

namespace SchemaScript

/-- What becomes of a field that is not there. -/
inductive Absence (α : Type) where
  | required
  /-- The value stands in wherever the field is missing. -/
  | defaulted (value : α)
  /-- The value stands in where a key is missing, but an array has to be long enough. -/
  | omitted (value : α)

/-- Why the entries of an object are not those of a record. -/
inductive EntryFault where
  | unfit (key : String) (mismatch : Mismatch)
  | missing (key : String)

namespace EntryFault

/-- The fault that is reported when two are found, `first` in the field declared first. -/
def merge (first second : EntryFault) : EntryFault :=
  match first, second with
  | .unfit key _, .unfit key' _ => if key' < key then second else first
  | .missing _, .unfit _ _ => second
  | _, .missing _ => first

def mismatch : EntryFault → Mismatch
  | .unfit _ mismatch => mismatch
  | .missing key => .missingField key

end EntryFault

/-- Why the items of an array are not the fields of a record. -/
inductive ItemFault where
  | unfit (mismatch : Mismatch)
  /-- The array ends before the field at this index. -/
  | short (index : Nat)

/-- The fields that lead from a `ρ` to entries and from entries to an `α`. -/
structure Record (ρ α : Type) where
  size : Nat
  write : ρ → List (String × Json)
  readEntries : Layer → List (String × Json) → Except EntryFault α
  readItems : Layer → List Json → Except ItemFault (α × List Json)

namespace Record

variable {ρ α β : Type}

/-- The record without fields. -/
def build (value : α) : Record ρ α where
  size := 0
  write _ := []
  readEntries _ _ := .ok value
  readItems _ items := .ok (value, items)

/-- The value under `key` among the entries. -/
def readEntry (key : String) (codec : Codec α) (absence : Absence α) (layer : Layer)
    (entries : List (String × Json)) : Except EntryFault α :=
  match entries.lookup key with
  | some json => (codec.read layer json).mapError (.unfit key)
  | none =>
    match absence with
    | .required => .error (.missing key)
    | .defaulted value | .omitted value => .ok value

/-- The value in front of the items, where it has the given index. -/
def readItem (index : Nat) (codec : Codec α) (absence : Absence α) (layer : Layer) :
    List Json → Except ItemFault (α × List Json)
  | json :: rest => (codec.read layer json).mapError .unfit |>.map (·, rest)
  | [] =>
    match absence with
    | .defaulted value => .ok (value, [])
    | .required | .omitted _ => .error (.short index)

def apply (f : Except EntryFault (α → β)) (x : Except EntryFault α) : Except EntryFault β :=
  match f, x with
  | .ok f, .ok x => .ok (f x)
  | .ok _, .error fault => .error fault
  | .error fault, .ok _ => .error fault
  | .error first, .error second => .error (first.merge second)

/-- One field more. -/
def extend (record : Record ρ (α → β)) (key : String) (get : ρ → α) (codec : Codec α)
    (absence : Absence α) : Record ρ β where
  size := record.size + 1
  write x := record.write x ++ [(key, codec.write (get x))]
  readEntries layer entries :=
    apply (record.readEntries layer entries) (readEntry key codec absence layer entries)
  readItems layer items := do
    let (f, rest) ← record.readItems layer items
    let (x, rest) ← readItem record.size codec absence layer rest
    .ok (f x, rest)

/-- A field that has a value of its own in the default record. -/
def field [Inhabited ρ] (record : Record ρ (α → β)) (key : String) (get : ρ → α)
    (codec : Codec α) : Record ρ β :=
  record.extend key get codec (.defaulted (get default))

def required (record : Record ρ (α → β)) (key : String) (get : ρ → α) (codec : Codec α) :
    Record ρ β :=
  record.extend key get codec .required

/-- The record of an array, which may hold no further items. -/
def readArray (record : Record ρ α) (title : String) (layer : Layer) (items : List Json) :
    Except Mismatch α :=
  match record.readItems layer items with
  | .error (.unfit mismatch) => .error mismatch
  | .error (.short index) =>
    .error (.wrongLength index (title ++ " with " ++ Nat.repr record.size ++ " elements"))
  | .ok (value, []) => .ok value
  | .ok (_, _ :: _) =>
    .error (.wrongLength items.length (match layer with
      | .plain => "fewer elements in array"
      | .tagged => Nat.repr record.size ++ " elements in sequence"))

def readObject (record : Record ρ α) (layer : Layer) (entries : List (String × Json)) :
    Except Mismatch α :=
  (record.readEntries layer entries).mapError (·.mismatch)

def codec (record : Record ρ ρ) (title : String) : Codec ρ where
  write x := .object (record.write x)
  read layer
    | .object entries => record.readObject layer entries
    | .array items => record.readArray title layer items
    | other => .error (.wrongType other.shape title)

end Record

end SchemaScript
