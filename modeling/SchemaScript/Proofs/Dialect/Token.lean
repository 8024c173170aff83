import SchemaScript.Proofs.Dialect.Identifier

/-! Names as tokens of a statement. A name that does not look quoted stands as it is when it is
plain, and otherwise between quotes, from which it can be read off; either way it is one token, and
another name is another token. A name that looks quoted is taken at its word: what is between its
quotes is not looked at, so it is one token only if it was one to begin with. -/

namespace SchemaScript.Dialect

/-! ### Plain names -/

/-- A capital, then capitals, digits, `_` and `$`. -/
def IsRegularName (name : String) : Prop :=
  ∃ first rest, name.toList = first :: rest ∧ ('A' ≤ first ∧ first ≤ 'Z') ∧
    ∀ c ∈ rest, ('A' ≤ c ∧ c ≤ 'Z') ∨ ('0' ≤ c ∧ c ≤ '9') ∨ c = '_' ∨ c = '$'

/-- Safe without quotes in a dialect that does not ask for them all the same. -/
structure IsPlain (d : Dialect) (name : String) : Prop where
  unforced : d.alwaysQuote = false
  regular : IsRegularName name
  unreserved : ∀ word ∈ d.reserved, Text.sameLetters word name = false

theorem isUpper_iff {c : Char} : c.isUpper = true ↔ 'A' ≤ c ∧ c ≤ 'Z' := decide_eq_true_iff

theorem isSafeChar_iff {c : Char} :
    isSafeChar c = true ↔ ('A' ≤ c ∧ c ≤ 'Z') ∨ ('0' ≤ c ∧ c ≤ '9') ∨ c = '_' ∨ c = '$' := by
  have hdigit : c.isDigit = true ↔ '0' ≤ c ∧ c ≤ '9' := by
    simp [Char.isDigit, Char.le_def]
  simp only [isSafeChar, Bool.or_eq_true, beq_iff_eq, isUpper_iff, hdigit, or_assoc]

theorem isRegular_iff {name : String} : isRegular name = true ↔ IsRegularName name := by
  unfold isRegular IsRegularName
  cases name.toList with
  | nil => simp
  | cons c rest =>
    simp only [Bool.and_eq_true, isUpper_iff, List.all_eq_true, isSafeChar_iff, List.cons.injEq]
    constructor
    · exact fun h => ⟨c, rest, ⟨rfl, rfl⟩, h⟩
    · rintro ⟨_, _, ⟨rfl, rfl⟩, h⟩
      exact h

variable {d : Dialect} {name : String}

theorem isPlain_iff :
    d.IsPlain name ↔ (!d.alwaysQuote && d.isSafeUnquoted name) = true := by
  simp only [isSafeUnquoted, Bool.and_eq_true, Bool.not_eq_true', isRegular_iff, isReserved,
    List.any_eq_false, Bool.not_eq_true]
  exact ⟨fun h => ⟨h.unforced, h.regular, h.unreserved⟩, fun h => ⟨h.1, h.2.1, h.2.2⟩⟩

/-- A name that begins with a quote begins with no capital. -/
theorem not_isRegularName_of_isQuoted (hquote : d.quote = '"') (h : d.isQuoted name = true) :
    ¬IsRegularName name := by
  rintro ⟨first, rest, hname, hfirst, -⟩
  rw [isQuoted, hname, hquote, Bool.and_eq_true, Bool.and_eq_true, List.head?_cons, beq_iff_eq,
    Option.some.injEq] at h
  obtain ⟨⟨-, rfl⟩, -⟩ := h
  exact absurd hfirst (by decide)

/-! ### Reading a name off -/

/-- A name that does not look quoted is quoted exactly when it is not plain. -/
theorem identifier_of_isQuoted_eq_false (hname : name ≠ "") (h : d.isQuoted name = false) :
    (d.IsPlain name ∧ d.identifier name = name) ∨
      (¬d.IsPlain name ∧ Text.IsQuotation d.quote name (d.identifier name)) := by
  rw [identifier, if_neg (by simpa using hname), h, if_neg (by decide)]
  by_cases hplain : d.IsPlain name
  · exact .inl ⟨hplain, if_pos (isPlain_iff.1 hplain)⟩
  · rw [if_neg (mt isPlain_iff.2 hplain)]
    exact .inr ⟨hplain, Text.isQuotation_iff.2 rfl⟩

/-- A name that has been written looks quoted, or is written as it is. -/
theorem identifier_identifier (d : Dialect) (name : String) :
    d.identifier (d.identifier name) = d.identifier name := by
  cases h : d.isQuoted name with
  | true => rw [identifier_of_isQuoted h, identifier_of_isQuoted h]
  | false =>
    rcases identifier_eq_or h with hsame | hquoted
    · rw [hsame, hsame]
    · rw [hquoted, identifier_of_isQuoted (isQuoted_quotedBy d name)]

/-- Of names that do not look quoted, a plain one is written as it is and any other one between
quotes, where it can be read off; so no two of them are written alike. Whatever has been written
once is written the same again. -/
theorem identifier_reversible (d : Dialect) :
    (∀ name, name ≠ "" → d.isQuoted name = false →
      (d.IsPlain name ∧ d.identifier name = name) ∨
        (¬d.IsPlain name ∧ Text.IsQuotation d.quote name (d.identifier name))) ∧
    (∀ first second, first ≠ "" → second ≠ "" → d.isQuoted first = false →
      d.isQuoted second = false → first ≠ second → d.identifier first ≠ d.identifier second) ∧
    ∀ name, d.identifier (d.identifier name) = d.identifier name :=
  ⟨fun _ => identifier_of_isQuoted_eq_false,
    fun _ _ _ _ hfirst hsecond hne h => hne (identifier_injective hfirst hsecond h),
    identifier_identifier d⟩

/-- With a letter for the quote, a reserved word that has this letter is still read off. -/
theorem identifier_reversible_base :
    let d : Dialect := { quote := 'A', reserved := ["base"] }
    d.isQuoted "BASE" = false ∧ ¬d.IsPlain "BASE" ∧
      Text.IsQuotation 'A' "BASE" (d.identifier "BASE") ∧
      d.identifier "BASE" ≠ d.identifier "BASIS" ∧
      d.identifier (d.identifier "BASE") = "ABAASEA" := by
  intro d
  have hwritten : d.identifier "BASE" = "ABAASEA" := by decide
  have hbase : d.isQuoted "BASE" = false := by decide
  have hbasis : d.isQuoted "BASIS" = false := by decide
  obtain ⟨hread, hapart, hagain⟩ := identifier_reversible d
  refine ⟨hbase, ?_⟩
  rcases hread "BASE" (by decide) hbase with ⟨-, hsame⟩ | ⟨hplain, hquoted⟩
  · rw [hwritten] at hsame
    exact absurd hsame (by decide)
  · exact ⟨hplain, hquoted, hapart _ _ (by decide) (by decide) hbase hbasis (by decide),
      (hagain "BASE").trans hwritten⟩

/-! ### Tokens -/

/-- One identifier of a statement, without quotes or with them. -/
def IsToken (token : String) : Prop :=
  IsRegularName token ∨ ∃ text, Text.IsQuotation '"' text token

theorem isToken_identifier (hquote : d.quote = '"') (hname : name ≠ "")
    (h : d.isQuoted name = false) : IsToken (d.identifier name) := by
  rcases identifier_of_isQuoted_eq_false hname h with ⟨hplain, hsame⟩ | ⟨-, hquoted⟩
  · rw [hsame]
    exact .inl hplain.regular
  · exact .inr ⟨name, hquote ▸ hquoted⟩

/-- A name that looks quoted is left as it is, and every other name becomes one token; so a name is
written as one token unless it looks quoted and a quote between its ends stands alone. -/
theorem identifier_isToken_iff (hquote : d.quote = '"') (hname : name ≠ "") :
    (d.isQuoted name = true → d.identifier name = name) ∧
    (IsToken (d.identifier name) ↔
      (d.isQuoted name = true → ∃ text, Text.IsQuotation '"' text name)) := by
  refine ⟨identifier_of_isQuoted, ?_⟩
  cases h : d.isQuoted name with
  | false => exact iff_of_true (isToken_identifier hquote hname h) nofun
  | true =>
    rw [identifier_of_isQuoted h, IsToken]
    simp [not_isRegularName_of_isQuoted hquote h]

/-- Quotes inside a name are doubled, and quotes that are double already are left as they are. -/
theorem identifier_isToken_sayHi :
    let d : Dialect := { version := 4 }
    IsToken (d.identifier "say\"hi") ∧ d.isQuoted "\"say\"\"hi\"" = true ∧
      d.identifier "\"say\"\"hi\"" = "\"say\"\"hi\"" ∧
      IsToken (d.identifier "\"say\"\"hi\"") := by
  intro d
  obtain ⟨-, hplain⟩ := @identifier_isToken_iff d "say\"hi" rfl (by decide)
  obtain ⟨hsame, hquoted⟩ := @identifier_isToken_iff d "\"say\"\"hi\"" rfl (by decide)
  refine ⟨hplain.2 fun h => absurd h (by decide), by decide, hsame (by decide), ?_⟩
  exact hquoted.2 fun _ => ⟨"say\"hi", Text.isQuotation_iff.2 (by decide)⟩

/-- Two quoted names with other text in between look quoted, and are written as they came. -/
theorem identifier_closesEarly :
    let name := "\"A\"; DROP TABLE \"B\""
    identifier {} name = name ∧ ¬IsToken (identifier {} name) := by
  intro name
  have hsame : identifier {} name = name := by decide
  refine ⟨hsame, ?_⟩
  rw [hsame]
  -- The ends of a quotation fix what is between them, and there a quote stands alone.
  rintro (hregular | ⟨text, body, htoken, hbody⟩)
  · exact not_isRegularName_of_isQuoted (d := {}) rfl (by decide) hregular
  · have hmiddle : body = name.toList.tail.dropLast := by
      rw [htoken, List.tail_cons, List.dropLast_concat]
    have hnone : Text.undouble '"' name.toList.tail.dropLast = none := by decide +kernel
    rw [hmiddle, hnone] at hbody
    contradiction

end SchemaScript.Dialect
