import SchemaScript.Proofs.StatementError
import SchemaScript.Table.Statement

/-! The primary key that a table gets of its own. Its clause stands between the columns and the clauses
of the merged constraints and is the only thing that changes when the same table is taken to be there
already; what stands around it, and whether the table can be created at all, is the same. -/

namespace SchemaScript.Table

open Text

/-- The table is new, some of its columns are flagged for the key, and no constraint brings one. -/
structure GetsKey (t : Table) (merged : List Constraint) : Prop where
  isNew : t.isExisting = false
  flagged : ∃ c ∈ t.columns, c.primaryKey = true
  unbrought : ∀ c ∈ merged, c.kind ≠ some .primaryKey

theorem getsKey_iff {t : Table} {merged : List Constraint} :
    GetsKey t merged ↔ t.isExisting = false ∧ (∃ c ∈ t.columns, c.primaryKey = true) ∧
      ∀ c ∈ merged, c.kind ≠ some .primaryKey :=
  ⟨fun h => ⟨h.isNew, h.flagged, h.unbrought⟩, fun h => ⟨h.1, h.2.1, h.2.2⟩⟩

instance (t : Table) (merged : List Constraint) : Decidable (GetsKey t merged) :=
  decidable_of_iff _ getsKey_iff.symm

/-- The key of the flagged columns in their order, or nothing for a table that gets none. -/
def keyText (d : Dialect) (t : Table) (merged : List Constraint) : String :=
  if GetsKey t merged then
    ",\n\tCONSTRAINT " ++ d.identifier ("PK_" ++ t.name) ++ " PRIMARY KEY (" ++
      separatedBy ", " ((t.columns.filter (·.primaryKey)).map fun c => d.identifier c.label) ++ ")"
  else ""

variable {d : Dialect} {t : Table}

/-! ### The key among the elements -/

theorem getsKey_iff_condition (d : Dialect) {merged : List Constraint} :
    GetsKey t merged ↔ ((keyColumns d t).isEmpty || t.isExisting ||
      merged.any (·.kind == some ConstraintKind.primaryKey)) = false := by
  rw [getsKey_iff, Bool.or_eq_false_iff, Bool.or_eq_false_iff, keyColumns, List.isEmpty_map,
    List.isEmpty_eq_false_iff, Ne, List.filter_eq_nil_iff, List.any_eq_false]
  simp only [not_forall, Classical.not_not, exists_prop, beq_iff_eq]
  exact ⟨fun h => ⟨⟨h.2.1, h.1⟩, h.2.2⟩, fun h => ⟨h.1.2, h.1.1, h.2⟩⟩

/-- The key is an element like the clauses behind it. -/
theorem concat_keyClause? (merged : List Constraint) :
    concat ((keyClause? d t merged).toList.map (",\n\t" ++ ·)) = keyText d t merged := by
  unfold keyClause? keyText
  by_cases h : GetsKey t merged
  · have hopening : ",\n\tCONSTRAINT " = ",\n\t" ++ "CONSTRAINT " := by decide
    rw [(getsKey_iff_condition d).1 h, if_pos h, if_neg Bool.false_ne_true, hopening]
    simp only [keyColumns, keyName, Option.toList_some, List.map_singleton, concat_cons, concat_nil,
      String.append_empty, String.append_assoc]
  · have hcondition := mt (getsKey_iff_condition d).2 h
    rw [if_pos (by simpa only [Bool.not_eq_false] using hcondition), if_neg h]
    rfl

theorem elementText_append (columns first second : List String) :
    elementText columns (first ++ second) =
      elementText columns first ++ concat (second.map (",\n\t" ++ ·)) := by
  rw [elementText, elementText, List.map_append, concat_append, String.append_assoc]

/-! ### Scripts -/

theorem create_eq_ok_iff_elements {sql : String} :
    create d t = .ok sql ↔ ∃ columns merged clauses,
      t.columns.mapM (Column.definition d) = .ok columns ∧
      Constraint.merge t.constraints = .ok merged ∧
      constraintClauses d t.name merged = .ok clauses ∧
      sql = headText d t ++ " (" ++ elementText columns ((keyClause? d t merged).toList ++ clauses) ++
        "\n)" ++ optionText d t ++ ";\n" ++ followingText d t := by
  simp only [create, bind_eq_ok_iff, Except.ok.injEq, exists_and_left, eq_comm (b := sql)]

theorem create_eq_ok_iff {sql : String} :
    create d t = .ok sql ↔ ∃ columns merged clauses,
      t.columns.mapM (Column.definition d) = .ok columns ∧
      Constraint.merge t.constraints = .ok merged ∧
      constraintClauses d t.name merged = .ok clauses ∧
      sql = headText d t ++ " (" ++ elementText columns [] ++ keyText d t merged ++
        (concat (clauses.map (",\n\t" ++ ·)) ++ "\n)" ++
          (optionText d t ++ ";\n" ++ followingText d t)) := by
  have helements (columns clauses : List String) (merged : List Constraint) :
      elementText columns ((keyClause? d t merged).toList ++ clauses) =
        elementText columns [] ++ keyText d t merged ++ concat (clauses.map (",\n\t" ++ ·)) := by
    rw [elementText_append, ← concat_keyClause?, ← elementText_append columns [], List.nil_append]
  simp only [create_eq_ok_iff_elements, helements, String.append_assoc]

/-- What a creation may fail for is in the columns and the constraints. -/
theorem create_error_congr {other : Table} (hname : other.name = t.name)
    (hcolumns : other.columns = t.columns) (hconstraints : other.constraints = t.constraints)
    {reason : StatementError} :
    create d other = .error reason ↔ create d t = .error reason := by
  simp only [create, bind_eq_error_iff, hname, hcolumns, hconstraints, reduceCtorEq, and_false,
    exists_false, or_false]

theorem create_withExisting_error (isExisting : Bool) (reason : StatementError) :
    create d { t with isExisting } = .error reason ↔ create d t = .error reason := by
  apply create_error_congr <;> rfl

/-- A table fails for the same reason, or not at all, whether it is new or there already. If it does
not fail, one text before the key of its own and one behind it serve for both, and the latter begins
with the clauses of the merged constraints in order and closes the list of elements. -/
theorem create_ownKey (d : Dialect) (t : Table) :
    (∀ isExisting reason, create d { t with isExisting } = .error reason ↔
      create d t = .error reason) ∧
    ∀ sql, create d t = .ok sql → ∃ before merged clauses after,
      Constraint.merge t.constraints = .ok merged ∧
      List.Forall₂ (fun numbered clause => numbered.1.clause d t.name numbered.2 = .ok clause)
        merged.zipIdx clauses ∧
      ∀ isExisting, create d { t with isExisting } =
        .ok (before ++ keyText d { t with isExisting } merged ++
          (concat (clauses.map (",\n\t" ++ ·)) ++ "\n)" ++ after)) := by
  refine ⟨create_withExisting_error, fun sql h => ?_⟩
  obtain ⟨columns, merged, clauses, hcolumns, hmerged, hclauses, -⟩ := create_eq_ok_iff.1 h
  exact ⟨headText d t ++ " (" ++ elementText columns [], merged, clauses,
    optionText d t ++ ";\n" ++ followingText d t, hmerged, mapM_eq_ok_iff.1 hclauses,
    fun _ => create_eq_ok_iff.2 ⟨columns, merged, clauses, hcolumns, hmerged, hclauses, rfl⟩⟩

/-- A key of the first column and the last, and one in between that is unique without a name. -/
def shelfTable : Table where
  name := "SHELF"
  columns := [{ Column.ofType "SHOP" "INTEGER" with primaryKey := true },
    .ofType "LABEL" "INTEGER", { Column.ofType "Row No" "INTEGER" with primaryKey := true }]
  constraints := [.onColumn none .unique "LABEL"]

theorem create_ownKey_shelf :
    ∃ before after,
      create {} shelfTable = .ok (before ++
        ",\n\tCONSTRAINT PK_SHELF PRIMARY KEY (SHOP, \"Row No\")" ++
          (",\n\tCONSTRAINT UQ_SHELF_1 UNIQUE (LABEL)\n)" ++ after)) ∧
      create {} { shelfTable with isExisting := true } = .ok (before ++ "" ++
          (",\n\tCONSTRAINT UQ_SHELF_1 UNIQUE (LABEL)\n)" ++ after)) := by
  have hcreate : create {} shelfTable = .ok ("CREATE TABLE SHELF (" ++
      "\n\tSHOP INTEGER,\n\tLABEL INTEGER,\n\t\"Row No\" INTEGER," ++
      "\n\tCONSTRAINT PK_SHELF PRIMARY KEY (SHOP, \"Row No\")," ++
      "\n\tCONSTRAINT UQ_SHELF_1 UNIQUE (LABEL)\n);\n") := by decide +kernel
  let unique : Constraint := { Constraint.onColumn (some "UQ_<TABLE_NAME>_1") .unique "LABEL" with
    generatedName := true }
  have hmerge : Constraint.merge shelfTable.constraints = .ok [unique] := by decide +kernel
  have hkey : keyText {} shelfTable [unique] =
      ",\n\tCONSTRAINT PK_SHELF PRIMARY KEY (SHOP, \"Row No\")" := by decide +kernel
  have hnone : keyText {} { shelfTable with isExisting := true } [unique] = "" := by decide +kernel
  obtain ⟨-, hrun⟩ := create_ownKey {} shelfTable
  obtain ⟨before, merged, clauses, after, hmerged, hclauses, hboth⟩ := hrun _ hcreate
  obtain rfl := Except.ok.inj (hmerged.symm.trans hmerge)
  obtain ⟨clause, others, hclause, hothers, rfl⟩ := List.forall₂_cons_left_iff.1 hclauses
  obtain rfl := List.forall₂_nil_left_iff.1 hothers
  obtain rfl : clause = "CONSTRAINT UQ_SHELF_1 UNIQUE (LABEL)" :=
    Except.ok.inj (hclause.symm.trans (by decide +kernel))
  have hnew := hboth false
  have hexisting := hboth true
  rw [hnone] at hexisting
  refine ⟨before, after, ?_, hexisting⟩
  rw [← hkey]
  exact hnew

end SchemaScript.Table
