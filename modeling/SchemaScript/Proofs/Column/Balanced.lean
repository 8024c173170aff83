import SchemaScript.Column.Definition
import SchemaScript.Proofs.Dialect.Balanced

/-! Definitions of columns are balanced, as long as what they write as it comes is so by itself. -/

namespace SchemaScript.Column

open Text

variable {d : Dialect} {c : Column}

/-- What is written as an identifier. -/
def identifiers (c : Column) : List String :=
  c.label :: c.domain.toList ++
    c.autoincrement.toList.flatMap fun auto => auto.sequenceName.toList ++ auto.triggerName.toList

/-- The default, if it is written as it comes. -/
def plainDefault? (c : Column) : Option String :=
  c.default.text?.filter fun value => valueText value c.typeCode = trim value

/-- What is written as it comes. A computed column has nothing but its expression, and of the others
only those have a type that have no domain. -/
def fragments (d : Dialect) (c : Column) : List String :=
  match c.computedBy? with
  | some expression => [expression]
  | none =>
    (if c.userDomain?.isSome then [] else [c.typeText d]) ++ c.plainDefault?.toList ++
      c.check?.toList ++ c.collation?.toList

theorem balanced_domainText (hquote : d.quote = '"')
    (hidentifiers : ∀ name ∈ c.identifiers, d.isQuoted name = false) :
    Balanced (c.domainText d) := by
  apply Dialect.balanced_identifier hquote
  cases hdomain : c.domain with
  | none => rfl
  | some name => exact hidentifiers name (by simp [identifiers, hdomain])

theorem balanced_identityClause (c : Column) : Balanced c.identityClause := by
  unfold identityClause
  split
  next => exact balanced_empty
  next auto _ =>
    have hkeywords : Balanced " GENERATED BY DEFAULT AS IDENTITY" := rfl
    have hstart : Balanced (" (START WITH " ++ toString auto.startValue.toInt ++ ")") :=
      (balanced_toString _).between rfl rfl
    exact balanced_whenTrue (hkeywords.append (balanced_whenTrue hstart))

theorem balanced_defaultClause (h : ∀ value ∈ c.plainDefault?, Balanced value) :
    Balanced c.defaultClause := by
  apply balanced_optional
  intro value hvalue
  have hkeyword : Balanced " DEFAULT " := rfl
  apply hkeyword.append
  apply balanced_valueText
  intro hplain
  exact h value (Option.filter_eq_some_iff.2 ⟨hvalue, by simpa using hplain⟩)

theorem balanced_definitionText (hquote : d.quote = '"')
    (hidentifiers : ∀ name ∈ c.identifiers, d.isQuoted name = false)
    (hfragments : ∀ fragment ∈ c.fragments d, Balanced fragment) :
    Balanced (c.definitionText d) := by
  have hlabel : Balanced (d.identifier c.label) :=
    Dialect.balanced_identifier hquote (hidentifiers _ (by simp [identifiers]))
  have hspace : Balanced " " := rfl
  unfold fragments at hfragments
  unfold definitionText
  refine (hlabel.append hspace).append ?_
  split
  next expression hexpression =>
    rw [hexpression] at hfragments
    exact (hfragments expression (by simp)).between rfl rfl
  next hcomputed =>
    simp only [hcomputed, List.forall_mem_append, Option.mem_toList] at hfragments
    obtain ⟨⟨⟨hown, hplain⟩, hcondition⟩, hname⟩ := hfragments
    have htype : Balanced (c.domainOrType d) := by
      unfold domainOrType
      split
      next => exact balanced_domainText hquote hidentifiers
      next hdomain => exact hown _ (by simp [hdomain])
    have hnotNull : Balanced c.notNullClause := balanced_whenTrue rfl
    have hcheck : Balanced c.checkClause :=
      balanced_optional fun check hc => (hcondition check hc).between rfl rfl
    have hcollate : Balanced c.collateClause := by
      apply balanced_optional
      intro name hc
      have hkeyword : Balanced " COLLATE " := rfl
      exact hkeyword.append (hname name hc)
    exact ((((htype.append (balanced_identityClause c)).append
      (balanced_defaultClause hplain)).append hnotNull).append hcheck).append hcollate

theorem balanced_definition (hquote : d.quote = '"')
    (hidentifiers : ∀ name ∈ c.identifiers, d.isQuoted name = false)
    (hfragments : ∀ fragment ∈ c.fragments d, Balanced fragment) {text : String}
    (htext : c.definition d = .ok text) : Balanced text := by
  unfold definition at htext
  split at htext
  next => contradiction
  next =>
    rw [← Except.ok.inj htext]
    exact balanced_definitionText hquote hidentifiers hfragments

end SchemaScript.Column
