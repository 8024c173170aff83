import SchemaScript.Text.Blank
import Mathlib.Data.List.SplitBy
import Mathlib.Data.List.Infix

/-! Text with comments in it. A comment runs from two dashes to the end of its line, or from `/*` to
the next `*/`, and the rest is code. Written in front of a new line, a comment is read back exactly
when it does not hold its own end. -/

namespace SchemaScript.Text

/-- A character of code, or a comment without its marks. -/
inductive Lexeme where
  | code (c : Char)
  | comment (line : Bool) (text : List Char)
  deriving DecidableEq

/-- How far reading has come: outside of comments, or in one behind the characters `before`, the
last of them first. -/
inductive Reading where
  | outside
  | inside (line : Bool) (before : List Char)

/-- The lexemes of the rest of a text. The end of a line is code; a comment that nothing ends goes
up to the end of the text. -/
def lexemesFrom : Reading → List Char → List Lexeme
  | .outside, '-' :: '-' :: rest => lexemesFrom (.inside true []) rest
  | .outside, '/' :: '*' :: rest => lexemesFrom (.inside false []) rest
  | .outside, c :: rest => .code c :: lexemesFrom .outside rest
  | .inside true before, '\n' :: rest =>
    .comment true before.reverse :: .code '\n' :: lexemesFrom .outside rest
  | .inside false before, '*' :: '/' :: rest =>
    .comment false before.reverse :: lexemesFrom .outside rest
  | .inside line before, c :: rest => lexemesFrom (.inside line (c :: before)) rest
  | .inside line before, [] => [.comment line before.reverse]
  | .outside, [] => []

def lexemes (text : String) : List Lexeme := lexemesFrom .outside text.toList

/-- What is left without the comments. -/
def codeOf (lexemes : List Lexeme) : List Char :=
  lexemes.filterMap fun
    | .code c => some c
    | .comment _ _ => none

def commentsOf (lexemes : List Lexeme) : List (Bool × List Char) :=
  lexemes.filterMap fun
    | .code _ => none
    | .comment line text => some (line, text)

@[simp] theorem commentsOf_code_cons (c : Char) (rest : List Lexeme) :
    commentsOf (.code c :: rest) = commentsOf rest := rfl

@[simp] theorem commentsOf_comment_cons (line : Bool) (text : List Char) (rest : List Lexeme) :
    commentsOf (.comment line text :: rest) = (line, text) :: commentsOf rest := rfl

theorem codeOf_append (first second : List Lexeme) :
    codeOf (first ++ second) = codeOf first ++ codeOf second := List.filterMap_append

theorem commentsOf_append (first second : List Lexeme) :
    commentsOf (first ++ second) = commentsOf first ++ commentsOf second := List.filterMap_append

theorem codeOf_map_code (text : List Char) : codeOf (text.map .code) = text := by
  simp [codeOf, List.filterMap_map]

theorem commentsOf_map_code (text : List Char) : commentsOf (text.map .code) = [] := by
  simp [commentsOf]

/-! ### Code -/

/-- A comment begins with `c`, if `rest` follows. -/
def Opens (c : Char) (rest : List Char) : Prop :=
  c = '-' ∧ rest.head? = some '-' ∨ c = '/' ∧ rest.head? = some '*'

theorem lexemesFrom_outside_cons {c : Char} {rest : List Char} (h : ¬Opens c rest) :
    lexemesFrom .outside (c :: rest) = .code c :: lexemesFrom .outside rest := by
  rw [lexemesFrom]
  · rintro tail rfl rfl
    exact h (.inl ⟨rfl, rfl⟩)
  · rintro tail rfl rfl
    exact h (.inr ⟨rfl, rfl⟩)

/-- A text that is code to its end, whatever follows it. -/
def IsCode (text : List Char) : Prop :=
  ∀ rest, lexemesFrom .outside (text ++ rest) = text.map .code ++ lexemesFrom .outside rest

theorem IsCode.append {first second : List Char} (hfirst : IsCode first) (hsecond : IsCode second) :
    IsCode (first ++ second) := by
  intro rest
  rw [List.append_assoc, hfirst, hsecond, List.map_append, List.append_assoc]

/-- Characters that begin or end a mark of a comment. -/
def isMarkChar (c : Char) : Bool := c == '-' || c == '/' || c == '*'

theorem isCode_of_forall {text : List Char} (h : ∀ c ∈ text, isMarkChar c = false) :
    IsCode text := by
  intro rest
  induction text with
  | nil => rfl
  | cons c text ih =>
    obtain ⟨hc, htext⟩ := List.forall_mem_cons.1 h
    rw [List.cons_append, lexemesFrom_outside_cons, ih htext]
    · rfl
    · rintro (⟨rfl, -⟩ | ⟨rfl, -⟩) <;> exact absurd hc (by decide)

theorem isCode_of_any_eq_false {text : List Char} (h : text.any isMarkChar = false) :
    IsCode text :=
  isCode_of_forall fun c hc => Bool.eq_false_iff.2 (List.any_eq_false.1 h c hc)

/-- A single character is code in front of any but a character of a mark. -/
theorem IsCode.cons {text : List Char} {next : Char} (h : IsCode (next :: text))
    (hnext : isMarkChar next = false) (c : Char) : IsCode (c :: next :: text) := by
  intro rest
  rw [List.cons_append, lexemesFrom_outside_cons, h]
  · rfl
  · rintro (⟨-, hhead⟩ | ⟨-, hhead⟩) <;>
      exact absurd (Option.some.inj hhead ▸ hnext) (by decide)

/-! ### Comments -/

/-- A comment in its marks, without the end of the line. -/
def commentText (line : Bool) (text : List Char) : List Char :=
  if line then '-' :: '-' :: text else '/' :: '*' :: (text ++ ['*', '/'])

/-- The text holds what ends a comment. -/
def HoldsEnd (line : Bool) (text : List Char) : Prop :=
  if line then '\n' ∈ text else ['*', '/'] <:+: text

instance (line : Bool) (text : List Char) : Decidable (HoldsEnd line text) :=
  inferInstanceAs (Decidable (if line then _ else _))

theorem lexemesFrom_line {text : List Char} (h : '\n' ∉ text) (before rest : List Char) :
    lexemesFrom (.inside true before) (text ++ '\n' :: rest) =
      .comment true (before.reverse ++ text) :: .code '\n' :: lexemesFrom .outside rest := by
  induction text generalizing before with
  | nil => simp [lexemesFrom]
  | cons c text ih =>
    rw [List.mem_cons, not_or] at h
    rw [List.cons_append, lexemesFrom, ih h.2]
    · simp
    · exact fun _ hc => h.1 hc.symm
    · nofun

theorem lexemesFrom_block {text : List Char} (h : ¬['*', '/'] <:+: text) (before rest : List Char) :
    lexemesFrom (.inside false before) (text ++ '*' :: '/' :: rest) =
      .comment false (before.reverse ++ text) :: lexemesFrom .outside rest := by
  induction text generalizing before with
  | nil => simp [lexemesFrom]
  | cons c text ih =>
    rw [List.infix_cons_iff, not_or] at h
    rw [List.cons_append, lexemesFrom, ih h.2]
    · simp
    · nofun
    · -- A star at the end of the text does not join the slash of the closing mark.
      rintro tail - rfl htail
      cases text with
      | nil => simp at htail
      | cons next text =>
        obtain ⟨rfl, -⟩ := List.cons.inj htail
        exact h.1 ⟨text, rfl⟩

theorem lexemesFrom_comment {line : Bool} {text : List Char} (h : ¬HoldsEnd line text)
    (rest : List Char) :
    lexemesFrom .outside (commentText line text ++ '\n' :: rest) =
      .comment line text :: .code '\n' :: lexemesFrom .outside rest := by
  cases line with
  | true => exact lexemesFrom_line h [] rest
  | false =>
    have hnext := lexemesFrom_block h [] ('\n' :: rest)
    simpa [commentText, lexemesFrom] using hnext

/-- The first place where two characters follow each other. -/
theorem exists_first_infix {a b : Char} {text : List Char} (h : [a, b] <:+: text) :
    ∃ front back, text = front ++ a :: b :: back ∧ ¬[a, b] <:+: front := by
  induction text with
  | nil => simp at h
  | cons c text ih =>
    by_cases hstart : [a, b] <+: c :: text
    · obtain ⟨back, hback⟩ := hstart
      exact ⟨[], back, hback.symm, by simp⟩
    · obtain ⟨front, back, rfl, hfront⟩ := ih ((List.infix_cons_iff.1 h).resolve_left hstart)
      refine ⟨c :: front, back, rfl, fun hwhole => ?_⟩
      rcases List.infix_cons_iff.1 hwhole with hthere | hthere
      · exact hstart (hthere.trans (List.prefix_append (c :: front) _))
      · exact hfront hthere

/-- A comment that holds its own end is cut there, and reading goes on outside of it. -/
theorem exists_lexemesFrom_of_holdsEnd {line : Bool} {text : List Char} (h : HoldsEnd line text)
    (rest : List Char) :
    ∃ front after, front <+: text ∧ front ≠ text ∧
      lexemesFrom .outside (commentText line text ++ '\n' :: rest) =
        .comment line front :: lexemesFrom .outside after := by
  cases line with
  | true =>
    obtain ⟨front, back, rfl, hfront⟩ := List.eq_append_cons_of_mem (a := '\n') h
    refine ⟨front, '\n' :: (back ++ '\n' :: rest), List.prefix_append _ _, by simp, ?_⟩
    have hline := lexemesFrom_line hfront [] (back ++ '\n' :: rest)
    rw [lexemesFrom_outside_cons (by simp [Opens])]
    simpa [commentText, lexemesFrom] using hline
  | false =>
    obtain ⟨front, back, rfl, hfront⟩ := exists_first_infix (a := '*') (b := '/') h
    refine ⟨front, back ++ '*' :: '/' :: '\n' :: rest, List.prefix_append _ _, by simp, ?_⟩
    have hblock := lexemesFrom_block hfront [] (back ++ '*' :: '/' :: '\n' :: rest)
    simpa [commentText, lexemesFrom] using hblock

/-! ### Tokens -/

def isWordChar (c : Char) : Bool := c.isAlphanum || c == '_' || c == '$'

/-- Words, and each other character by itself; blanks are no tokens. -/
def tokens (code : List Char) : List (List Char) :=
  (code.splitBy fun a b => isWordChar a && isWordChar b).filter fun token => !token.all isBlankChar

theorem tokens_append_cons {c : Char} (hc : isWordChar c = false) (front rest : List Char) :
    tokens (front ++ c :: rest) = tokens front ++ tokens (c :: rest) := by
  rw [tokens, List.splitBy_append_cons, List.filter_append, tokens, tokens]
  simp [hc]

/-- A blank between two texts is no part of their tokens. -/
theorem tokens_blank {c : Char} (hc : isWordChar c = false) (hblank : isBlankChar c = true)
    (rest : List Char) : tokens (c :: rest) = tokens rest := by
  cases rest with
  | nil => simp [tokens, List.splitBy, List.splitBy.loop, hblank]
  | cons next rest =>
    have hsplit : (c :: next :: rest).splitBy (fun a b => isWordChar a && isWordChar b) =
        [c] :: (next :: rest).splitBy fun a b => isWordChar a && isWordChar b := by
      have happend := List.splitBy_append_cons (r := fun a b => isWordChar a && isWordChar b)
        (l := [c]) (a := next) rest (by simp [hc])
      simpa [List.splitBy, List.splitBy.loop] using happend
    rw [tokens, hsplit, List.filter_cons_of_neg (by simp [hblank]), tokens]

end SchemaScript.Text
