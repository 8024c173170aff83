/-! Quoted text: a mark, the text with every mark in it written twice, and the mark again. Reading
such a text back consumes exactly what was written, whatever follows that is not a mark. -/

namespace SchemaScript.Text

/-- Every `mark` written twice. -/
def doubleMarks (mark : Char) : List Char → List Char
  | [] => []
  | c :: rest => if c = mark then c :: c :: doubleMarks mark rest else c :: doubleMarks mark rest

def quotedBy (mark : Char) (text : String) : String :=
  .ofList (mark :: (doubleMarks mark text.toList ++ [mark]))

/-- The text up to the first mark that stands alone, with its double marks made single, and what
follows that mark. -/
def readMarked (mark : Char) : List Char → Option (List Char × List Char)
  | [] => none
  | c :: rest =>
    if c = mark then
      match rest with
      | d :: rest' =>
        if d = mark then (readMarked mark rest').map fun (text, after) => (mark :: text, after)
        else some ([], rest)
      | [] => some ([], [])
    else (readMarked mark rest).map fun (text, after) => (c :: text, after)

/-- The text that a quoted text stands for, and what follows it. -/
def readQuoted (mark : Char) : List Char → Option (List Char × List Char)
  | [] => none
  | c :: rest => if c = mark then readMarked mark rest else none

theorem readMarked_doubleMarks (mark : Char) (text after : List Char)
    (h : after.head? ≠ some mark) :
    readMarked mark (doubleMarks mark text ++ mark :: after) = some (text, after) := by
  induction text with
  | nil =>
    cases after with
    | nil => simp [doubleMarks, readMarked]
    | cons d rest =>
      have hd : d ≠ mark := by simpa using h
      simp [doubleMarks, readMarked, hd]
  | cons c rest ih =>
    by_cases hc : c = mark
    · subst hc
      simp [doubleMarks, readMarked, ih]
    · simp only [doubleMarks, hc, if_false, List.cons_append]
      rw [readMarked.eq_def]
      simp [hc, ih]

end SchemaScript.Text
