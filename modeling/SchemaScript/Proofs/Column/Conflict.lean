import SchemaScript.Column.Definition
import SchemaScript.Proofs.StatementError

/-! Which columns cannot be defined. A computed column has its expression and nothing else, so it is
overdetermined when it also uses a domain or has an identity. A list of columns fails as its first
overdetermined one, whose domain counts before its identity. -/

namespace SchemaScript.Column

variable {c : Column} {reason : StatementError}

def IsComputed (c : Column) : Prop :=
  ∃ expression, c.computedBy = some expression ∧ Text.isBlank expression = false

/-- The column has this domain, and the server did not make it. -/
def UsesDomain (c : Column) (domain : String) : Prop :=
  c.domain = some domain ∧ Text.isBlank domain = false ∧
    ¬systemDomainStart.toList <+: domain.toList

def HasIdentity (c : Column) : Prop :=
  ∃ auto, c.autoincrement = some auto ∧ auto.identity = true

def IsOverdetermined (c : Column) : Prop :=
  c.IsComputed ∧ ((∃ domain, c.UsesDomain domain) ∨ c.HasIdentity)

/-- What is said of an overdetermined column. -/
inductive Conflict (c : Column) : StatementError → Prop
  | withDomain {domain : String} (computed : c.IsComputed) (uses : c.UsesDomain domain) :
      Conflict c (.computedWithDomain c.label domain)
  | withIdentity (computed : c.IsComputed) (plain : ∀ domain, ¬c.UsesDomain domain)
      (identity : c.HasIdentity) : Conflict c (.computedIdentity c.label)

theorem isOverdetermined_iff : c.IsOverdetermined ↔ ∃ reason, c.Conflict reason := by
  constructor
  · rintro ⟨hcomputed, hmore⟩
    by_cases hdomain : ∃ domain, c.UsesDomain domain
    · obtain ⟨domain, huses⟩ := hdomain
      exact ⟨_, .withDomain hcomputed huses⟩
    · exact ⟨_, .withIdentity hcomputed (not_exists.1 hdomain) (hmore.resolve_left hdomain)⟩
  · rintro ⟨_, hconflict⟩
    cases hconflict with
    | withDomain hcomputed huses => exact ⟨hcomputed, .inl ⟨_, huses⟩⟩
    | withIdentity hcomputed _ hidentity => exact ⟨hcomputed, .inr hidentity⟩

/-! ### What the definition looks at -/

theorem isNone_computedBy?_iff : c.computedBy?.isNone = true ↔ ¬c.IsComputed := by
  simp only [IsComputed, computedBy?, ← Text.given_eq_some, Option.isNone_iff_eq_none,
    Option.eq_none_iff_forall_ne_some, not_exists]

theorem userDomain?_eq_some_iff {domain : String} :
    c.userDomain? = some domain ↔ c.UsesDomain domain := by
  rw [userDomain?, UsesDomain, Option.filter_eq_some_iff, Text.given_eq_some, and_assoc,
    ← List.isPrefixOf_iff_prefix, Bool.not_eq_true', Bool.not_eq_true]

theorem userDomain?_eq_none_iff : c.userDomain? = none ↔ ∀ domain, ¬c.UsesDomain domain := by
  simp only [← userDomain?_eq_some_iff, Option.eq_none_iff_forall_ne_some, ne_eq]

theorem isIdentity_eq_true_iff : c.isIdentity = true ↔ c.HasIdentity := by
  simp [isIdentity, HasIdentity, Option.any_eq_true]

theorem conflict?_eq_some_iff : c.conflict? = some reason ↔ c.Conflict reason := by
  unfold conflict?
  constructor
  · intro h
    split at h
    next => contradiction
    next hcomputed =>
      rw [isNone_computedBy?_iff, not_not] at hcomputed
      split at h
      next domain hdomain =>
        rw [← Option.some.inj h]
        exact .withDomain hcomputed (userDomain?_eq_some_iff.1 hdomain)
      next hplain =>
        split at h
        next hidentity =>
          rw [← Option.some.inj h]
          exact .withIdentity hcomputed (userDomain?_eq_none_iff.1 hplain)
            (isIdentity_eq_true_iff.1 hidentity)
        next => contradiction
  · intro h
    have hcomputed : c.IsComputed := (isOverdetermined_iff.2 ⟨reason, h⟩).1
    rw [if_neg (mt isNone_computedBy?_iff.1 (not_not.2 hcomputed))]
    cases h with
    | withDomain _ huses => rw [userDomain?_eq_some_iff.2 huses]
    | withIdentity _ hplain hidentity =>
      rw [userDomain?_eq_none_iff.2 hplain, isIdentity_eq_true_iff.2 hidentity, if_pos rfl]

theorem definition_eq_error_iff {d : Dialect} :
    c.definition d = .error reason ↔ c.Conflict reason := by
  rw [← conflict?_eq_some_iff, definition]
  cases c.conflict? <;> simp

/-- Columns are defined one after another, up to the first that cannot be. -/
theorem mapM_definition_eq_error_iff {d : Dialect} {columns : List Column} :
    columns.mapM (definition d) = .error reason ↔
      ∃ before c, IsFirst IsOverdetermined columns before c ∧ c.Conflict reason := by
  have hfails : ∀ c, IsOverdetermined c ↔ ∃ reason, definition d c = .error reason := by
    intro c
    simp only [isOverdetermined_iff, definition_eq_error_iff]
  simp only [mapM_eq_error_iff_isFirst hfails, definition_eq_error_iff]

theorem exists_mapM_definition_iff {d : Dialect} {columns : List Column} :
    (∃ texts, columns.mapM (definition d) = .ok texts) ↔ ∀ c ∈ columns, ¬c.IsOverdetermined := by
  have hfails : (∃ reason, columns.mapM (definition d) = .error reason) ↔
      ∃ c ∈ columns, c.IsOverdetermined := by
    rw [← exists_isFirst_iff]
    simp only [mapM_definition_eq_error_iff]
    constructor
    · rintro ⟨reason, before, c, hfirst, -⟩
      exact ⟨before, c, hfirst⟩
    · rintro ⟨before, c, hfirst⟩
      obtain ⟨reason, hconflict⟩ := isOverdetermined_iff.1 hfirst.holds
      exact ⟨reason, before, c, hfirst, hconflict⟩
  have hsound : (∀ c ∈ columns, ¬c.IsOverdetermined) ↔
      ¬∃ reason, columns.mapM (definition d) = .error reason := by
    rw [hfails, not_exists]
    exact forall_congr' fun c => not_and.symm
  rw [hsound]
  cases columns.mapM (definition d) <;> simp

end SchemaScript.Column
