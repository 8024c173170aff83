import SchemaScript.Json.Number

/-! Reading JSON texts. The grammar is strict: no blanks but space, tab and line ends, no comma
before a closing bracket, nothing after the value. A text may nest 127 containers; the depth that is
left is what the reader recurses on. Strings and containers have no bound of their own: each round
takes a character at least, so that the text that is left is fuel enough. -/

namespace SchemaScript.Json

def isSpace (c : Char) : Bool := c == ' ' || c == '\t' || c == '\n' || c == '\r'

def skipSpace (input : List Char) : List Char := input.dropWhile isSpace

/-- The rest of a word such as `null`. -/
def readWord (value : Json) : List Char → Step Json
  | [], rest => .ok (value, rest)
  | _ :: _, [] => stopAt .openValue []
  | c :: word, d :: rest =>
    if c = d then readWord value word rest else stopAt .expectedWord (d :: rest)

def hexValue? (c : Char) : Option Nat :=
  if c.isDigit then some (c.toNat - 48)
  else if 'a' ≤ c && c ≤ 'f' then some (c.toNat - 87)
  else if 'A' ≤ c && c ≤ 'F' then some (c.toNat - 55)
  else none

/-- The four hexadecimal digits behind `\u`. -/
def readUnit : Step Nat := fun input =>
  match input with
  | a :: b :: c :: d :: rest =>
    match hexValue? a, hexValue? b, hexValue? c, hexValue? d with
    | some a, some b, some c, some d => .ok (((a * 16 + b) * 16 + c) * 16 + d, rest)
    | _, _, _, _ => .error ⟨.invalidEscape, input, 4⟩
  | _ =>
    if 4 ≤ (bytesOf input).length then .error ⟨.invalidEscape, input, 4⟩
    else stopAt .openString []

def expect (c : Char) : Step Unit := fun input =>
  match input with
  | [] => stopAt .openString []
  | d :: rest => if c = d then .ok ((), rest) else stopAt .openEscape input

/-- A character written as one unit of UTF-16 or as a pair of surrogates. -/
def readUnicode : Step Char := fun input => do
  let (high, rest) ← readUnit input
  if 0xDC00 ≤ high && high ≤ 0xDFFF then .error ⟨.loneSurrogate, rest, 0⟩
  else if 0xD800 ≤ high && high ≤ 0xDBFF then
    let ((), rest) ← expect '\\' rest
    let ((), rest) ← expect 'u' rest
    let (low, rest) ← readUnit rest
    if 0xDC00 ≤ low && low ≤ 0xDFFF then
      .ok (Char.ofNat (0x10000 + (high - 0xD800) * 0x400 + (low - 0xDC00)), rest)
    else .error ⟨.loneSurrogate, rest, 0⟩
  else .ok (Char.ofNat high, rest)

/-- What follows a backslash. -/
def readEscape : Step Char := fun input =>
  match input with
  | [] => stopAt .openString []
  | 'u' :: rest => readUnicode rest
  | '"' :: rest => .ok ('"', rest)
  | '\\' :: rest => .ok ('\\', rest)
  | '/' :: rest => .ok ('/', rest)
  | 'b' :: rest => .ok ('\x08', rest)
  | 'f' :: rest => .ok ('\x0c', rest)
  | 'n' :: rest => .ok ('\n', rest)
  | 'r' :: rest => .ok ('\r', rest)
  | 't' :: rest => .ok ('\t', rest)
  | _ => stopAt .invalidEscape input

/-- The characters of a string up to its closing quote. -/
def readCharacters : (fuel : List Char) → Step (List Char)
  | [], _ => stopAt .openString []
  | _ :: fuel, input =>
    match input with
    | [] => stopAt .openString []
    | '"' :: rest => .ok ([], rest)
    | '\\' :: rest => do
      let (c, rest) ← readEscape rest
      let (text, rest) ← readCharacters fuel rest
      .ok (c :: text, rest)
    | c :: rest =>
      if c.toNat < 32 then stopAt .controlCharacter input
      else do
        let (text, rest) ← readCharacters fuel rest
        .ok (c :: text, rest)

/-- A string whose opening quote has been read. -/
def readString : Step String := fun input => do
  let (text, rest) ← readCharacters input input
  .ok (.ofList text, rest)

/-- The items of an array behind its first one. -/
def readItems (item : Step Json) : (fuel : List Char) → Step (List Json)
  | [], _ => stopAt .openArray []
  | _ :: fuel, input =>
    match skipSpace input with
    | [] => stopAt .openArray []
    | ']' :: rest => .ok ([], rest)
    | ',' :: rest =>
      match skipSpace rest with
      | [] => stopAt .openValue []
      | ']' :: rest => stopAt .trailingComma (']' :: rest)
      | next => do
        let (value, rest) ← item next
        let (values, rest) ← readItems item fuel rest
        .ok (value :: values, rest)
    | rest => stopAt .expectedCommaOrBracket rest

/-- An array whose opening bracket has been read. -/
def readArray (item : Step Json) : Step Json := fun input =>
  match skipSpace input with
  | [] => stopAt .openArray []
  | ']' :: rest => .ok (array [], rest)
  | first => do
    let (value, rest) ← item first
    let (values, rest) ← readItems item rest rest
    .ok (array (value :: values), rest)

/-- A key, its colon and its value. -/
def readEntry (item : Step Json) : Step (String × Json) := fun input =>
  match input with
  | '"' :: rest => do
    let (key, rest) ← readString rest
    match skipSpace rest with
    | [] => stopAt .openObject []
    | ':' :: rest => do
      let (value, rest) ← item rest
      .ok ((key, value), rest)
    | rest => stopAt .expectedColon rest
  | rest => stopAt .keyNotString rest

/-- The entries of an object behind its first one. -/
def readEntries (item : Step Json) : (fuel : List Char) → Step (List (String × Json))
  | [], _ => stopAt .openObject []
  | _ :: fuel, input =>
    match skipSpace input with
    | [] => stopAt .openObject []
    | '\x7d' :: rest => .ok ([], rest)
    | ',' :: rest =>
      match skipSpace rest with
      | [] => stopAt .openValue []
      | '\x7d' :: rest => stopAt .trailingComma ('\x7d' :: rest)
      | next => do
        let (entry, rest) ← readEntry item next
        let (entries, rest) ← readEntries item fuel rest
        .ok (entry :: entries, rest)
    | rest => stopAt .expectedCommaOrBrace rest

/-- An object whose opening brace has been read. -/
def readObject (item : Step Json) : Step Json := fun input =>
  match skipSpace input with
  | [] => stopAt .openObject []
  | '\x7d' :: rest => .ok (object [], rest)
  | first => do
    let (entry, rest) ← readEntry item first
    let (entries, rest) ← readEntries item rest rest
    .ok (ofEntries (entry :: entries), rest)

/-- A value whose containers hold what `item` reads; without `item` it may not be a container. -/
def readValueWith (item : Option (Step Json)) : Step Json := fun input =>
  match skipSpace input with
  | [] => stopAt .openValue []
  | 'n' :: rest => readWord null ['u', 'l', 'l'] rest
  | 't' :: rest => readWord (bool true) ['r', 'u', 'e'] rest
  | 'f' :: rest => readWord (bool false) ['a', 'l', 's', 'e'] rest
  | '"' :: rest => do
    let (text, rest) ← readString rest
    .ok (string text, rest)
  | '[' :: rest =>
    match item with
    | some item => readArray item rest
    | none => stopAt .tooDeep ('[' :: rest)
  | '\x7b' :: rest =>
    match item with
    | some item => readObject item rest
    | none => stopAt .tooDeep ('\x7b' :: rest)
  | c :: rest =>
    if c = '-' || c.isDigit then readNumber (c :: rest) else stopAt .expectedValue (c :: rest)

/-- A value that nests at most `depth` containers. -/
def readValue : (depth : Nat) → Step Json
  | 0 => readValueWith none
  | depth + 1 => readValueWith (some (readValue depth))

/-- The containers that a text may nest. -/
def depthLimit : Nat := 127

/-- The value of a text that nests at most `depth` containers. -/
def parseWithin (depth : Nat) (text : String) : Except Fault Json :=
  let input := text.toList
  match readValue depth input with
  | .error stop => .error (stop.locate input)
  | .ok (value, rest) =>
    match skipSpace rest with
    | [] => .ok value
    | rest => .error (Stop.locate input ⟨.trailingCharacters, rest, 1⟩)

def parse (text : String) : Except Fault Json := parseWithin depthLimit text

end SchemaScript.Json
