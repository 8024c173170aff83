import SchemaScript.Domain
import SchemaScript.Proofs.Column.TypeText
import SchemaScript.Proofs.Dialect.Identifier
import SchemaScript.Proofs.Dialect.Value
import SchemaScript.Proofs.Text.Blank

/-! Defaults that come back from a script. What a value is written as is settled: written once more
it stays the same, and no other text does. So a column whose default is the written one is declared
as before, with no quotes around those that are there. -/

namespace SchemaScript

open Text

variable {code : TypeCode} {text value : String}

/-! ### Settled texts -/

theorem sameLetters_self (text : String) : sameLetters text text = true := BEq.refl _

/-- The texts that stand for a value of the type as they are. -/
inductive IsSettled (code : TypeCode) : String → Prop where
  | null : IsSettled code "NULL"
  | quoted {text : String} (h : isLiteral text = true) : IsSettled code text
  | sessionVariable {word : String} (h : word ∈ contextVariables) : IsSettled code word
  /-- Nothing to trim, and no word in other letters. -/
  | raw {text : String} (hcode : code.needsQuotes = false) (htrim : trim text = text)
      (hnull : sameLetters text "NULL" = false)
      (hwords : contextVariables.any (sameLetters · text) = false) : IsSettled code text

theorem isLiteral_literal (value : String) : isLiteral (literal value) = true :=
  Dialect.isQuoted_quotedBy { quote := '\'' } value

theorem trim_of_isLiteral (h : isLiteral text = true) : trim text = text := by
  have hquote : isBlankChar '\'' = false := by decide
  rw [isLiteral, Bool.and_eq_true, Bool.and_eq_true, beq_iff_eq, beq_iff_eq] at h
  obtain ⟨⟨-, hhead⟩, hlast⟩ := h
  apply trim_eq_self
  · intro c hc
    rwa [← Option.some.inj (hhead.symm.trans hc)]
  · intro c hc
    rwa [← Option.some.inj (hlast.symm.trans hc)]

/-- The variables of the session are words of their own: neither `NULL` nor literals. -/
theorem valueText_of_mem_contextVariables {word : String} (hword : word ∈ contextVariables)
    (code : TypeCode) : valueText word code = word := by
  have hwords : ∀ word ∈ contextVariables,
      trim word = word ∧ sameLetters word "NULL" = false ∧ isLiteral word = false := by decide
  obtain ⟨htrim, hnull, hliteral⟩ := hwords word hword
  have hany : contextVariables.any (sameLetters · word) = true :=
    List.any_eq_true.2 ⟨word, hword, sameLetters_self word⟩
  rw [valueText, htrim, hnull, hliteral, hany]
  exact upper_contextVariable hword (sameLetters_self word)

theorem isSettled_valueText (value : String) (code : TypeCode) :
    IsSettled code (valueText value code) := by
  unfold valueText
  simp only
  split
  next => exact .null
  next hnull =>
  split
  next h => exact .quoted h
  split
  next h =>
    obtain ⟨word, hword, hsame⟩ := List.any_eq_true.1 h
    rw [upper_contextVariable hword hsame]
    exact .sessionVariable hword
  next hwords =>
  split
  next => exact .quoted (isLiteral_literal value)
  next hcode =>
    exact .raw (by simpa using hcode) (trim_trim value) (by simpa using hnull) (by simpa using hwords)

theorem valueText_of_isSettled (h : IsSettled code text) : valueText text code = text := by
  cases h with
  | null => rfl
  | quoted h => rw [valueText_of_isLiteral (by rwa [trim_of_isLiteral h]), trim_of_isLiteral h]
  | sessionVariable h => exact valueText_of_mem_contextVariables h code
  | raw hcode htrim hnull hwords =>
    unfold valueText
    simp only [htrim, hnull, hwords, hcode, Bool.false_eq_true, if_false, ite_self]

theorem valueText_eq_self_iff : valueText text code = text ↔ IsSettled code text :=
  ⟨fun h => h ▸ isSettled_valueText text code, valueText_of_isSettled⟩

theorem valueText_valueText (value : String) (code : TypeCode) :
    valueText (valueText value code) code = valueText value code :=
  valueText_of_isSettled (isSettled_valueText value code)

/-! ### Columns -/

/-- The column whose default is the text that its default was written as. -/
def Column.resubmitted (c : Column) : Column :=
  { c with default := { c.default with value := c.default.text?.map (valueText · c.typeCode) } }

theorem isBlank_of_isLiteral (h : isLiteral text = true) : isBlank text = false := by
  cases hblank : isBlank text with
  | false => rfl
  | true =>
    have hempty : text = "" := (trim_of_isLiteral h).symm.trans ((trim_eq_empty_iff text).2 hblank)
    rw [hempty] at h
    exact absurd h (by decide)

theorem isBlank_valueText (h : isBlank value = false) (code : TypeCode) :
    isBlank (valueText value code) = false := by
  have hwritten := valueText_writtenAs value code
  generalize valueText value code = token at hwritten ⊢
  cases hwritten with
  | null => decide
  | asLiteral hliteral => exact isBlank_of_isLiteral hliteral
  | sessionVariable hword =>
    have hwords : ∀ word ∈ contextVariables, isBlank word = false := by decide
    exact hwords _ hword
  | quoted => exact isBlank_of_isLiteral (isLiteral_literal value)
  | raw => rwa [isBlank_trim]

namespace Column

theorem text?_resubmitted (c : Column) :
    c.resubmitted.default.text? = c.default.text?.map (valueText · c.typeCode) := by
  rw [resubmitted, DefaultValue.text?]
  cases htext : c.default.text? with
  | none => rfl
  | some value =>
    have hvalue : isBlank value = false := (given_eq_some.1 htext).2
    exact given_eq_some.2 ⟨rfl, isBlank_valueText hvalue c.typeCode⟩

theorem defaultClause_resubmitted (c : Column) : c.resubmitted.defaultClause = c.defaultClause := by
  have hcode : c.resubmitted.typeCode = c.typeCode := rfl
  rw [defaultClause, defaultClause, text?_resubmitted, hcode]
  cases c.default.text? with
  | none => rfl
  | some value => simp [SchemaScript.defaultClause, valueText_valueText]

section

-- A default has no part in a declaration but for its clause. The type is compared by its signature:
-- to unfold its text, in which names are looked up, would take long.

variable {c : Column} {default : DefaultValue}

theorem typeText_withDefault (d : Dialect) : typeText d { c with default } = c.typeText d :=
  typeText_congr rfl rfl rfl

theorem definition_withDefault (h : defaultClause { c with default } = c.defaultClause)
    (d : Dialect) : definition d { c with default } = c.definition d := by
  have htype : domainOrType d { c with default } = c.domainOrType d := by
    rw [domainOrType, domainOrType, typeText_withDefault]
    rfl
  have htext : definitionText d { c with default } = c.definitionText d := by
    rw [definitionText, definitionText, h, htype]
    rfl
  rw [definition, definition, htext]
  rfl

theorem parameterDefinition_withDefault (h : defaultClause { c with default } = c.defaultClause)
    (d : Dialect) : parameterDefinition d { c with default } = c.parameterDefinition d := by
  have htype : parameterType d { c with default } = c.parameterType d := by
    rw [parameterType, parameterType, typeText_withDefault]
    rfl
  have htext : parameterText d { c with default } = c.parameterText d := by
    rw [parameterText, parameterText, h, htype]
    rfl
  rw [parameterDefinition, parameterDefinition, htext]
  rfl

end

end Column

theorem Domain.create_withDefault {domain : Column} {default : DefaultValue}
    (h : Column.defaultClause { domain with default } = domain.defaultClause) (d : Dialect) :
    Domain.create d { domain with default } = Domain.create d domain := by
  rw [Domain.create, Domain.create, h, Column.typeText_withDefault]
  rfl

theorem Domain.defaultClause_resubmitted (after : Column) :
    Domain.defaultClause after.resubmitted = Domain.defaultClause after := by
  have hcode : after.resubmitted.typeCode = after.typeCode := rfl
  rw [Domain.defaultClause, Domain.defaultClause, Column.text?_resubmitted, hcode]
  cases after.default.text? with
  | none => rfl
  | some value => simp [valueText_valueText]

/-- Writing a written value changes nothing, and of all texts exactly the settled ones are left
alone. So columns, parameters and domains whose default is the written one are declared and altered
as before. -/
theorem valueText_idempotent (d : Dialect) (value : String) (code : TypeCode) :
    valueText (valueText value code) code = valueText value code ∧
      (valueText value code = value ↔ IsSettled code value) ∧
      ∀ c : Column, c.resubmitted.definition d = c.definition d ∧
        c.resubmitted.parameterDefinition d = c.parameterDefinition d ∧
        Domain.create d c.resubmitted = Domain.create d c ∧
        Domain.defaultClause c.resubmitted = Domain.defaultClause c := by
  refine ⟨valueText_valueText value code, valueText_eq_self_iff, ?_⟩
  intro c
  have hclause := c.defaultClause_resubmitted
  exact ⟨Column.definition_withDefault hclause d, Column.parameterDefinition_withDefault hclause d,
    Domain.create_withDefault hclause d, Domain.defaultClause_resubmitted c⟩

/-- One quote alone is no literal yet, and its literal is one. -/
example : valueText "'" .varChar = "''''" ∧ valueText "''''" .varChar = "''''" := by decide +kernel

end SchemaScript
