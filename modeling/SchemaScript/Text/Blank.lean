/-! Blank text. A character is blank when Unicode calls it white space; a text is blank when it has
no other character. Trimming removes blank characters from the ends and from nowhere else. -/

namespace SchemaScript.Text

/-- The twenty-five characters with the Unicode property White_Space. -/
def isBlankChar (c : Char) : Bool :=
  let n := c.toNat
  (9 ≤ n && n ≤ 13) || n == 32 || n == 0x85 || n == 0xA0 || n == 0x1680 ||
    (0x2000 ≤ n && n ≤ 0x200A) || n == 0x2028 || n == 0x2029 || n == 0x202F || n == 0x205F ||
    n == 0x3000

def isBlank (s : String) : Bool := s.toList.all isBlankChar

/-- Without the last characters that satisfy `p`. -/
def dropEndWhile (p : Char → Bool) (s : String) : String :=
  .ofList (s.toList.reverse.dropWhile p).reverse

def trimEnd (s : String) : String := dropEndWhile isBlankChar s

def trimStart (s : String) : String := .ofList (s.toList.dropWhile isBlankChar)

def trim (s : String) : String := trimEnd (trimStart s)

/-- An optional text with blank counted as absent. -/
def given (s : Option String) : Option String := s.filter (!isBlank ·)

@[simp] theorem given_none : given none = none := rfl

theorem given_eq_some {s : Option String} {t : String} :
    given s = some t ↔ s = some t ∧ isBlank t = false := by
  simp [given, Option.filter_eq_some_iff]

@[simp] theorem isBlank_empty : isBlank "" = true := rfl

@[simp] theorem isBlank_append (s t : String) : isBlank (s ++ t) = (isBlank s && isBlank t) := by
  simp [isBlank]

end SchemaScript.Text
