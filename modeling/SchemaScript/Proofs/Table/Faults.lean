import SchemaScript.Proofs.Column.Conflict
import SchemaScript.Proofs.Constraint.Faults
import SchemaScript.Table.Statement

/-! Which tables cannot be created, and what is said of them. The columns come first, then the names
of the constraints, and last their clauses, once entries of one name have been merged; of each, the
first fault is the one that is reported. -/

namespace SchemaScript.Table

variable {d : Dialect} {t : Table} {reason : StatementError}

theorem constraintClauses_eq_error_iff {merged : List Constraint}
    (h : Constraint.merge t.constraints = .ok merged) :
    constraintClauses d t.name merged = .error reason ↔
      ∃ before c, IsFirst (·.kind = none) merged before c ∧
        reason = .constraintWithoutKind before.length := by
  have hnamed : ∀ c ∈ merged, c.name? ≠ none := fun c => Constraint.name?_ne_none_of_merge h
  rw [constraintClauses, Constraint.mapM_clause_eq_error_iff merged hnamed 0]
  simp only [Nat.zero_add]

theorem create_eq_error_iff :
    create d t = .error reason ↔
      (∃ before c, IsFirst Column.IsOverdetermined t.columns before c ∧ c.Conflict reason) ∨
      (∀ c ∈ t.columns, ¬c.IsOverdetermined) ∧
        ((∃ before c, IsFirst Constraint.IsNameless t.constraints before c ∧
            reason = .constraintWithoutKind before.length) ∨
          ∃ merged before c, Constraint.merge t.constraints = .ok merged ∧
            IsFirst (·.kind = none) merged before c ∧
            reason = .constraintWithoutKind before.length) := by
  have hmerged : ∀ merged, (Constraint.merge t.constraints = .ok merged ∧
      constraintClauses d t.name merged = .error reason) ↔
      ∃ before c, Constraint.merge t.constraints = .ok merged ∧
        IsFirst (·.kind = none) merged before c ∧
        reason = .constraintWithoutKind before.length := by
    intro merged
    simp only [exists_and_left]
    exact and_congr_right constraintClauses_eq_error_iff
  rw [create, bind_eq_error_iff, Column.mapM_definition_eq_error_iff,
    ← Column.exists_mapM_definition_iff (d := d)]
  simp only [bind_eq_error_iff, Constraint.merge_eq_error_iff, reduceCtorEq, and_false,
    exists_false, or_false, hmerged, exists_and_right]

/-! ### Each kind of fault -/

theorem create_of_overdetermined (h : ∃ c ∈ t.columns, c.IsOverdetermined) :
    ∃ before c reason, IsFirst Column.IsOverdetermined t.columns before c ∧ c.Conflict reason ∧
      create d t = .error reason := by
  obtain ⟨before, c, hfirst⟩ := exists_isFirst_iff.2 h
  obtain ⟨reason, hconflict⟩ := Column.isOverdetermined_iff.1 hfirst.holds
  exact ⟨before, c, reason, hfirst, hconflict,
    create_eq_error_iff.2 (.inl ⟨before, c, hfirst, hconflict⟩)⟩

theorem create_of_nameless (hcolumns : ∀ c ∈ t.columns, ¬c.IsOverdetermined)
    (h : ∃ c ∈ t.constraints, c.IsNameless) :
    ∃ before c, IsFirst Constraint.IsNameless t.constraints before c ∧
      create d t = .error (.constraintWithoutKind before.length) := by
  obtain ⟨before, c, hfirst⟩ := exists_isFirst_iff.2 h
  exact ⟨before, c, hfirst, create_eq_error_iff.2 (.inr ⟨hcolumns, .inl ⟨before, c, hfirst, rfl⟩⟩)⟩

theorem create_of_leadsWithoutKind (hcolumns : ∀ c ∈ t.columns, ¬c.IsOverdetermined)
    (h : ∃ first, Constraint.LeadsWithoutKind t.constraints first) :
    ∃ merged before c, Constraint.merge t.constraints = .ok merged ∧
      IsFirst (·.kind = none) merged before c ∧
      create d t = .error (.constraintWithoutKind before.length) := by
  obtain ⟨merged, hmerged⟩ := Constraint.exists_merge_of_leadsWithoutKind h.choose_spec
  have hkindless := (Constraint.exists_mem_merged_iff hmerged).2 h
  obtain ⟨before, c, hfirst⟩ := exists_isFirst_iff.2 hkindless
  exact ⟨merged, before, c, hmerged, hfirst,
    create_eq_error_iff.2 (.inr ⟨hcolumns, .inr ⟨merged, before, c, hmerged, hfirst, rfl⟩⟩)⟩

/-- A table cannot be created exactly when one of its columns is overdetermined, one of its
constraints has neither a name nor a kind, or the first entry of a name has no kind, whatever the
others of that name have. The first such column goes before all constraints, and the first
constraint that cannot be named before all that have no clause. -/
theorem create_fails_iff (d : Dialect) (t : Table) :
    ((∃ reason, create d t = .error reason) ↔
      (∃ c ∈ t.columns, c.IsOverdetermined) ∨ (∃ c ∈ t.constraints, c.IsNameless) ∨
        ∃ first, Constraint.LeadsWithoutKind t.constraints first) ∧
    ((∃ c ∈ t.columns, c.IsOverdetermined) →
      ∃ before c reason, IsFirst Column.IsOverdetermined t.columns before c ∧
        c.Conflict reason ∧ create d t = .error reason) ∧
    ((∀ c ∈ t.columns, ¬c.IsOverdetermined) → (∃ c ∈ t.constraints, c.IsNameless) →
      ∃ before c, IsFirst Constraint.IsNameless t.constraints before c ∧
        create d t = .error (.constraintWithoutKind before.length)) ∧
    ((∀ c ∈ t.columns, ¬c.IsOverdetermined) →
      (∃ first, Constraint.LeadsWithoutKind t.constraints first) →
      ∃ merged before c, Constraint.merge t.constraints = .ok merged ∧
        IsFirst (·.kind = none) merged before c ∧
        create d t = .error (.constraintWithoutKind before.length)) := by
  refine ⟨⟨?_, ?_⟩, create_of_overdetermined, create_of_nameless, create_of_leadsWithoutKind⟩
  · rintro ⟨reason, h⟩
    rcases create_eq_error_iff.1 h with ⟨before, c, hfirst, -⟩ |
      ⟨-, ⟨before, c, hfirst, -⟩ | ⟨merged, before, c, hmerged, hfirst, -⟩⟩
    · exact .inl (exists_isFirst_iff.1 ⟨before, c, hfirst⟩)
    · exact .inr (.inl (exists_isFirst_iff.1 ⟨before, c, hfirst⟩))
    · have hkindless := exists_isFirst_iff.1 ⟨before, c, hfirst⟩
      exact .inr (.inr ((Constraint.exists_mem_merged_iff hmerged).1 hkindless))
  · intro h
    by_cases hcolumns : ∃ c ∈ t.columns, c.IsOverdetermined
    · obtain ⟨_, _, reason, -, -, hcreate⟩ := create_of_overdetermined (d := d) hcolumns
      exact ⟨reason, hcreate⟩
    · have hsound : ∀ c ∈ t.columns, ¬c.IsOverdetermined := by simpa using hcolumns
      rcases h.resolve_left hcolumns with hnameless | hleads
      · obtain ⟨_, _, -, hcreate⟩ := create_of_nameless (d := d) hsound hnameless
        exact ⟨_, hcreate⟩
      · obtain ⟨_, _, _, -, -, hcreate⟩ := create_of_leadsWithoutKind (d := d) hsound hleads
        exact ⟨_, hcreate⟩

/-- A total that is computed, has a domain and numbers its rows; then an entry with nothing in it,
and two entries of one name, of which the first has no kind. -/
def faultyTable : Table where
  name := "ORDERS"
  columns := [.ofType "ID" "INTEGER", {
    name := some "TOTAL", computedBy := some "PRICE * AMOUNT", domain := some "D_MONEY",
    autoincrement := some { identity := true } }]
  constraints := [.onColumn none .unique "ID", {},
    { name := some "UQ_CODE", columns := ["CODE"] }, .onColumn (some "UQ_CODE") .unique "SHOP"]

/-- Each fault shows up when those that go before it are mended. -/
theorem create_fails_faultyTable :
    (∃ before c, IsFirst Column.IsOverdetermined faultyTable.columns before c ∧
      c.Conflict (.computedWithDomain "TOTAL" "D_MONEY") ∧
      create {} faultyTable = .error (.computedWithDomain "TOTAL" "D_MONEY")) ∧
    (∃ before c, before.length = 1 ∧
      IsFirst Constraint.IsNameless faultyTable.constraints before c ∧
      create {} { faultyTable with columns := [] } = .error (.constraintWithoutKind 1)) ∧
    ∃ reason, create {} { faultyTable with
      columns := [], constraints := faultyTable.constraints.drop 2 } = .error reason := by
  refine ⟨?_, ?_, ?_⟩
  · have hcreate : create {} faultyTable = .error (.computedWithDomain "TOTAL" "D_MONEY") := by
      decide +kernel
    obtain ⟨-, hcolumns, -, -⟩ := create_fails_iff {} faultyTable
    obtain ⟨before, c, reason, hfirst, hconflict, hreason⟩ := hcolumns
      ⟨_, List.mem_of_getElem? (i := 1) rfl, ⟨_, rfl, by decide⟩, .inr ⟨_, rfl, rfl⟩⟩
    obtain rfl := Except.error.inj (hreason.symm.trans hcreate)
    exact ⟨before, c, hfirst, hconflict, hcreate⟩
  · have hcreate : create {} { faultyTable with columns := [] } =
        .error (.constraintWithoutKind 1) := by decide +kernel
    obtain ⟨-, -, hnames, -⟩ := create_fails_iff {} { faultyTable with columns := [] }
    obtain ⟨before, c, hfirst, hreason⟩ := hnames (by simp)
      ⟨_, List.mem_of_getElem? (i := 1) rfl, rfl, rfl⟩
    have hplace := Except.error.inj (hreason.symm.trans hcreate)
    exact ⟨before, c, StatementError.constraintWithoutKind.inj hplace, hfirst, hcreate⟩
  · obtain ⟨hiff, -⟩ := create_fails_iff {} { faultyTable with
      columns := [], constraints := faultyTable.constraints.drop 2 }
    have hcalled : Constraint.Called (faultyTable.constraints.drop 2) ["UQ_CODE", "UQ_CODE"] := by
      refine ⟨rfl, ?_⟩
      rintro (_ | _ | i) c name hc hname
      · cases hc
        cases hname
        rfl
      · cases hc
        cases hname
        rfl
      · cases hname
    exact hiff.2 (.inr (.inr ⟨_, rfl, _, "UQ_CODE", hcalled, rfl⟩))

end SchemaScript.Table
