/-! Occurrences of one text in another, taken from the left and without overlap. -/

namespace SchemaScript.Text

/-- Every occurrence of `pattern` becomes `replacement`; the first `skip` characters belong to an
occurrence that has been replaced already. -/
def replaceFrom (pattern replacement : List Char) : Nat → List Char → List Char
  | _, [] => []
  | skip + 1, _ :: rest => replaceFrom pattern replacement skip rest
  | 0, c :: rest =>
    if pattern.isPrefixOf (c :: rest) then
      replacement ++ replaceFrom pattern replacement (pattern.length - 1) rest
    else c :: replaceFrom pattern replacement 0 rest

/-- `text` with every occurrence of a non-empty `pattern` replaced. -/
def replace (text pattern replacement : String) : String :=
  if pattern.toList.isEmpty then text
  else .ofList (replaceFrom pattern.toList replacement.toList 0 text.toList)

def erase (text pattern : String) : String := replace text pattern ""

def occursIn (pattern text : List Char) : Bool :=
  pattern.isPrefixOf text ||
    match text with
    | [] => false
    | _ :: rest => occursIn pattern rest

def contains (text pattern : String) : Bool := occursIn pattern.toList text.toList

/-- Two texts that differ at most in the case of ASCII letters. -/
def sameLetters (s t : String) : Bool := s.toList.map Char.toLower == t.toList.map Char.toLower

end SchemaScript.Text
