import SchemaScript.Proofs.Constraint.FinalName
import SchemaScript.Proofs.Constraint.Grouping
import SchemaScript.Proofs.Dialect.Balanced

/-! The clauses of constraints are balanced. Merging brings no identifiers that no entry has, made-up
names never look quoted, and only the condition of a check is written as it comes. -/

namespace SchemaScript.Constraint

open Text

variable {d : Dialect}

/-! ### Identifiers -/

/-- What is written as an identifier, but for the name of the constraint. -/
def identifiers (c : Constraint) : List String :=
  c.columns ++ c.refTable.toList ++ c.refColumns ++ c.tablespace.toList

/-- The condition of a check, which is written as it comes. -/
def condition? (c : Constraint) : Option String :=
  if c.kind = some .check then some (c.check.getD "") else none

theorem exists_of_mem_identifiers_combine {entries : List Constraint} {name : String}
    (h : name ∈ (combine entries).identifiers) : ∃ c ∈ entries, name ∈ c.identifiers := by
  cases entries with
  | nil => exact absurd h List.not_mem_nil
  | cons first rest =>
    simp only [combine, identifiers, List.mem_append, List.mem_flatMap] at h ⊢
    rcases h with ((⟨c, hc, hname⟩ | hname) | ⟨c, hc, hname⟩) | hname
    · exact ⟨c, hc, .inl (.inl (.inl hname))⟩
    · exact ⟨first, List.mem_cons_self, .inl (.inl (.inr hname))⟩
    · exact ⟨c, hc, .inl (.inr hname)⟩
    · exact ⟨first, List.mem_cons_self, .inr hname⟩

theorem exists_of_mem_identifiers_merge {entries merged : List Constraint}
    (h : merge entries = .ok merged) {c : Constraint} (hc : c ∈ merged) {name : String}
    (hname : name ∈ c.identifiers) : ∃ entry ∈ entries, name ∈ entry.identifiers := by
  obtain ⟨names, -, rfl⟩ := (merge_eq_ok_iff _ _).1 h
  obtain ⟨own, -, rfl⟩ := List.mem_map.1 hc
  obtain ⟨called, hcalled, hmem⟩ := exists_of_mem_identifiers_combine hname
  obtain ⟨entry, hentry, rfl⟩ := List.mem_map.1 hcalled
  obtain ⟨i, hplace, -⟩ := place_of_mem_entriesCalled hentry
  exact ⟨entry, List.mem_of_getElem? hplace, hmem⟩

/-- A name that is written as it was given, without quotes. -/
def IsPlainName (name : String) : Prop :=
  '"' ∉ name.toList ∧ contains name tableNameMark = false

instance (name : String) : Decidable (IsPlainName name) := inferInstanceAs (Decidable (_ ∧ _))

/-- Where the given names are plain, no name looks quoted once the table's name is in it. -/
theorem isQuoted_finalName {entries merged : List Constraint} (hquote : d.quote = '"')
    (h : merge entries = .ok merged)
    (hgiven : ∀ name ∈ entries.filterMap (·.name?), IsPlainName name) (table : String)
    {name : String} (hname : name ∈ merged.filterMap (·.name?)) :
    d.isQuoted (finalName table name) = false := by
  by_cases hentry : name ∈ entries.filterMap (·.name?)
  · obtain ⟨hmark, hplain⟩ := hgiven name hentry
    rw [finalName, replace_of_contains_eq_false hplain]
    exact Dialect.isQuoted_eq_false_of_notMem (hquote ▸ hmark)
  · obtain ⟨_, _, kind, existing, _, rfl⟩ := newName_of_merge h hname hentry
    rw [finalName_newName]
    exact ConstraintKind.isQuoted_numberedName d kind table _

/-! ### Clauses -/

theorem balanced_actionClause {event : String} (hevent : Balanced event)
    (action : Option ReferentialAction) : Balanced (actionClause event action) := by
  apply balanced_optional
  intro action _
  have hkeyword : Balanced action.keyword := by cases action <;> rfl
  have hon : Balanced " ON " := rfl
  have hspace : Balanced " " := rfl
  exact ((hon.append hevent).append hspace).append hkeyword

variable {c : Constraint}

theorem balanced_tablespaceClause (hquote : d.quote = '"')
    (h : ∀ name ∈ c.identifiers, d.isQuoted name = false) : Balanced (c.tablespaceClause d) := by
  apply balanced_optional
  intro name hname
  have hmem : name ∈ c.identifiers := by
    simp [identifiers, (given_eq_some.1 hname).1]
  have hkeyword : Balanced " TABLESPACE " := rfl
  exact hkeyword.append (Dialect.balanced_identifier hquote (h name hmem))

theorem balanced_body (hquote : d.quote = '"')
    (h : ∀ name ∈ c.identifiers, d.isQuoted name = false) {kind : ConstraintKind}
    (hcheck : kind = .check → Balanced (c.check.getD "")) : Balanced (c.body d kind) := by
  have hcolumns : Balanced (c.columnText d) :=
    Dialect.balanced_identifiers hquote fun name hname => h name (by simp [identifiers, hname])
  have hrefColumns : Balanced (c.refColumnText d) :=
    Dialect.balanced_identifiers hquote fun name hname => h name (by simp [identifiers, hname])
  have htablespace := balanced_tablespaceClause hquote h
  have hopening : Takes 0 1 " (" := rfl
  have hclosing : Takes 1 0 ")" := rfl
  have hkey : ∀ keyword, Balanced keyword →
      Balanced (keyword ++ " (" ++ c.columnText d ++ ")" ++ c.tablespaceClause d) := by
    intro keyword hkeyword
    exact (hcolumns.between (Takes.append hkeyword hopening) hclosing).append htablespace
  cases kind with
  | check => exact (hcheck rfl).trim.between rfl hclosing
  | foreignKey =>
    have hrefTable : d.isQuoted (c.refTable.getD "") = false := by
      cases hc : c.refTable with
      | none => rfl
      | some name => exact h name (by simp [identifiers, hc])
    have hown : Balanced ("FOREIGN KEY (" ++ c.columnText d ++ ") REFERENCES ") :=
      hcolumns.between rfl rfl
    have htarget := hown.append (Dialect.balanced_identifier hquote hrefTable)
    have hupdate : Balanced (actionClause "UPDATE" c.updateRule) :=
      balanced_actionClause (by decide) _
    have hdelete : Balanced (actionClause "DELETE" c.deleteRule) :=
      balanced_actionClause (by decide) _
    have hkeys := hrefColumns.between (Takes.append htarget hopening) hclosing
    exact ((hkeys.append hupdate).append hdelete).append htablespace
  | primaryKey => exact hkey "PRIMARY KEY" rfl
  | unique => exact hkey "UNIQUE" rfl

/-- A constraint of a table in the definition of that table. -/
theorem balanced_clause {entries merged : List Constraint} (hquote : d.quote = '"')
    (h : merge entries = .ok merged)
    (hgiven : ∀ name ∈ entries.filterMap (·.name?), IsPlainName name)
    (hidentifiers : ∀ entry ∈ entries, ∀ name ∈ entry.identifiers, d.isQuoted name = false)
    (hc : c ∈ merged) (hcondition : ∀ condition ∈ c.condition?, Balanced condition)
    {table text : String} {index : Nat} (hclause : c.clause d table index = .ok text) :
    Balanced text := by
  unfold clause at hclause
  split at hclause
  next kind name hkind hname =>
    have hmem : name ∈ merged.filterMap (·.name?) := List.mem_filterMap.2 ⟨c, hc, hname⟩
    have hfinal := isQuoted_finalName hquote h hgiven table hmem
    have hbody : Balanced (c.body d kind) := by
      apply balanced_body hquote
      · intro name hname
        obtain ⟨entry, hentry, hown⟩ := exists_of_mem_identifiers_merge h hc hname
        exact hidentifiers entry hentry name hown
      · rintro rfl
        exact hcondition _ (if_pos hkind)
    have hkeyword : Balanced "CONSTRAINT " := rfl
    have hspace : Balanced " " := rfl
    rw [← Except.ok.inj hclause]
    exact ((hkeyword.append (Dialect.balanced_identifier hquote hfinal)).append hspace).append hbody
  next => contradiction

end SchemaScript.Constraint
