import SchemaScript.Text.HiddenTable

/-! Text shown inside a message: between double quotes, with every character spelled out that would
not be seen as itself. -/

namespace SchemaScript.Text

def isHidden (c : Char) : Bool :=
  c.toNat < 32 || hiddenRanges.any fun (first, last) => first ≤ c.toNat && c.toNat ≤ last

def visibleChar (c : Char) : List Char :=
  match c with
  | '\x00' => ['\\', '0']
  | '\t' => ['\\', 't']
  | '\r' => ['\\', 'r']
  | '\n' => ['\\', 'n']
  | '\\' => ['\\', '\\']
  | '"' => ['\\', '"']
  | c =>
    if isHidden c then '\\' :: 'u' :: '\x7b' :: (Nat.toDigits 16 c.toNat ++ ['\x7d']) else [c]

def visible (s : String) : String := .ofList ('"' :: (s.toList.flatMap visibleChar ++ ['"']))

end SchemaScript.Text
