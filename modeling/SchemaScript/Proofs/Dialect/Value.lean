import SchemaScript.Dialect.Literal
import SchemaScript.Proofs.Text.Quotation
import SchemaScript.Proofs.Text.Upper

/-! Values as tokens. A default of a character or temporal type is written as `NULL`, as a variable of
the session or as a literal; a text that has quotes at both ends passes for a literal already and is
written as it came, whatever stands in between. -/

namespace SchemaScript

open Text

/-! ### How a value is written -/

/-- What a value may be written as, and on what ground. -/
inductive WrittenAs (value : String) (code : TypeCode) : String → Prop where
  | null (h : sameLetters (trim value) "NULL" = true) : WrittenAs value code "NULL"
  | asLiteral (h : isLiteral (trim value) = true) : WrittenAs value code (trim value)
  | sessionVariable {word : String} (hword : word ∈ contextVariables)
      (h : sameLetters word (trim value) = true) : WrittenAs value code word
  | quoted (h : code.needsQuotes = true) : WrittenAs value code (literal value)
  | raw (h : code.needsQuotes = false) : WrittenAs value code (trim value)

theorem upper_contextVariable {word text : String} (hword : word ∈ contextVariables)
    (h : sameLetters word text = true) : upper text = word := by
  have hcapitals : (contextVariables.all (·.toList.all isCapital)) = true := by decide
  exact upper_eq_of_sameLetters (List.all_eq_true.1 hcapitals word hword) h

theorem valueText_writtenAs (value : String) (code : TypeCode) :
    WrittenAs value code (valueText value code) := by
  unfold valueText
  simp only
  split
  next h => exact .null h
  split
  next h => exact .asLiteral h
  split
  next h =>
    obtain ⟨word, hword, hsame⟩ := List.any_eq_true.1 h
    rw [upper_contextVariable hword hsame]
    exact .sessionVariable hword hsame
  split
  next h => exact .quoted h
  next h => exact .raw (by simpa using h)

/-! ### Values with quotes at both ends -/

theorem head?_of_isLiteral {text : String} (h : isLiteral text = true) :
    text.toList.head? = some '\'' := by
  rw [isLiteral, Bool.and_eq_true, Bool.and_eq_true, beq_iff_eq] at h
  exact h.1.2

theorem sameLetters_null_of_isLiteral {text : String} (h : isLiteral text = true) :
    sameLetters text "NULL" = false := by
  rw [← Bool.not_eq_true]
  intro hsame
  have hhead := congrArg List.head? (beq_iff_eq.1 hsame)
  rw [List.head?_map, head?_of_isLiteral h] at hhead
  exact absurd hhead (by decide)

theorem valueText_of_isLiteral {value : String} (h : isLiteral (trim value) = true)
    (code : TypeCode) : valueText value code = trim value := by
  unfold valueText
  simp only [sameLetters_null_of_isLiteral h, h, if_true, Bool.false_eq_true, if_false]

/-! ### Tokens -/

/-- One value of a statement: `NULL`, a variable of the session in capitals, or one literal. -/
def IsValueToken (token : String) : Prop :=
  token = "NULL" ∨ token ∈ contextVariables ∨ ∃ text, IsQuotation '\'' text token

/-- A text that begins with a quote is no value but a literal. -/
theorem isValueToken_iff_of_isLiteral {text : String} (h : isLiteral text = true) :
    IsValueToken text ↔ ∃ quoted, IsQuotation '\'' quoted text := by
  have hheads : ∀ word ∈ "NULL" :: contextVariables, word.toList.head? ≠ some '\'' := by decide
  have hword : text ∉ "NULL" :: contextVariables :=
    fun hmem => hheads text hmem (head?_of_isLiteral h)
  rw [List.mem_cons, not_or] at hword
  simp [IsValueToken, hword.1, hword.2]

theorem isValueToken_valueText {value : String} {code : TypeCode} (hcode : code.needsQuotes = true)
    (h : isLiteral (trim value) = false) : IsValueToken (valueText value code) := by
  have hwritten := valueText_writtenAs value code
  generalize valueText value code = token at hwritten ⊢
  cases hwritten with
  | null => exact .inl rfl
  | asLiteral hliteral => exact absurd hliteral (by simp [h])
  | sessionVariable hword => exact .inr (.inl hword)
  | quoted => exact .inr (.inr ⟨value, isQuotation_iff.2 rfl⟩)
  | raw hraw => exact absurd hcode (by simp [hraw])

/-- A value with quotes at both ends is written as it came, but for blanks around it, and every other
value becomes one token; so a value of a character or temporal type is written as one token unless
it has quotes at both ends and one in between that stands alone. -/
theorem valueText_isToken_iff {code : TypeCode} (hcode : code.needsQuotes = true) (value : String) :
    (isLiteral (trim value) = true → valueText value code = trim value) ∧
    (IsValueToken (valueText value code) ↔
      (isLiteral (trim value) = true → ∃ text, IsQuotation '\'' text (trim value))) := by
  refine ⟨fun h => valueText_of_isLiteral h code, ?_⟩
  cases h : isLiteral (trim value) with
  | false => exact iff_of_true (isValueToken_valueText hcode h) nofun
  | true =>
    rw [valueText_of_isLiteral h, isValueToken_iff_of_isLiteral h]
    simp

/-- Quotes in a value are doubled, and those of a literal are left as they are. -/
theorem valueText_isToken_its :
    IsValueToken (valueText "it's" .varChar) ∧
      valueText " 'it''s' " .timestamp = "'it''s'" ∧ IsValueToken (valueText " 'it''s' " .timestamp) := by
  obtain ⟨-, hbare⟩ := @valueText_isToken_iff .varChar (by decide) "it's"
  obtain ⟨hsame, hquoted⟩ := @valueText_isToken_iff .timestamp (by decide) " 'it''s' "
  have htrim : trim " 'it''s' " = "'it''s'" := by decide
  rw [htrim] at hsame hquoted
  refine ⟨hbare.2 fun h => absurd h (by decide), hsame (by decide), ?_⟩
  exact hquoted.2 fun _ => ⟨"it's", isQuotation_iff.2 (by decide)⟩

/-- Two literals with other text in between have quotes at both ends, and are written as they came.
-/
theorem valueText_closesEarly :
    let value := "'A'; DROP TABLE 'B'"
    TypeCode.varChar.needsQuotes = true ∧ valueText value .varChar = value ∧
      ¬IsValueToken (valueText value .varChar) := by
  intro value
  have hliteral : isLiteral value = true := by decide
  have hsame : valueText value .varChar = value := by decide +kernel
  refine ⟨by decide, hsame, ?_⟩
  have hnone : undouble '\'' value.toList.tail.dropLast = none := by decide +kernel
  rw [hsame, isValueToken_iff_of_isLiteral hliteral]
  rintro ⟨text, hquotation⟩
  exact not_isQuotation hnone text hquotation

end SchemaScript
