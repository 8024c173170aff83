import SchemaScript.Proofs.Constraint.FinalName
import SchemaScript.Proofs.Constraint.Grouping
import SchemaScript.Table.Statement
import Mathlib.Data.List.Nodup

/-! The names of the constraints in the definition of a table. They are distinct exactly when no
name that was given is written like another one or like the name of the table's own key. Names that
were made up never clash with one another or with that key. -/

namespace SchemaScript.Table

/-! ### Names as they are written -/

def givenNames (t : Table) : List String := t.constraints.filterMap (·.name?)

/-- The name of a constraint as it stands in the definition of the table. -/
def writtenName (d : Dialect) (t : Table) (name : String) : String :=
  d.identifier (Constraint.finalName t.name name)

/-- What stands behind `CONSTRAINT` in the definition of a table with these merged constraints: the
name of the table's own key, if it gets one, and the name of each constraint. -/
def constraintNames (d : Dialect) (t : Table) (constraints : List Constraint) : List String :=
  ((keyClause? d t constraints).map fun _ => d.identifier t.keyName).toList ++
    (constraints.filterMap (·.name?)).map (writtenName d t)

/-- The element of a definition is a constraint of this name. -/
def IsNamed (name element : String) : Prop := ∃ body, element = "CONSTRAINT " ++ name ++ " " ++ body

theorem clause_eq_ok {d : Dialect} {t : Table} {index : Nat} {c : Constraint} {text : String}
    (h : c.clause d t.name index = .ok text) :
    ∃ name, c.name? = some name ∧ IsNamed (writtenName d t name) text := by
  unfold Constraint.clause at h
  split at h
  next kind name _ hname =>
    refine ⟨name, hname, c.body d kind, ?_⟩
    rw [← Except.ok.inj h, writtenName]
  next => contradiction

theorem forall₂_isNamed {d : Dialect} {t : Table} {constraints : List Constraint}
    {clauses : List String} (index : Nat)
    (h : List.Forall₂ (fun (numbered : Constraint × Nat) text =>
      numbered.1.clause d t.name numbered.2 = .ok text) (constraints.zipIdx index) clauses) :
    List.Forall₂ IsNamed ((constraints.filterMap (·.name?)).map (writtenName d t)) clauses := by
  induction constraints generalizing index clauses with
  | nil =>
    rw [List.zipIdx_nil, List.forall₂_nil_left_iff] at h
    subst h
    exact .nil
  | cons c rest ih =>
    rw [List.zipIdx_cons, List.forall₂_cons_left_iff] at h
    obtain ⟨text, texts, htext, htexts, rfl⟩ := h
    obtain ⟨name, hname, hnamed⟩ := clause_eq_ok htext
    rw [List.filterMap_cons_some hname, List.map_cons]
    exact .cons hnamed (ih (index + 1) htexts)

theorem isNamed_keyClause {d : Dialect} {t : Table} {constraints : List Constraint}
    {clause : String} (h : keyClause? d t constraints = some clause) :
    IsNamed (d.identifier t.keyName) clause := by
  unfold keyClause? at h
  split at h
  · contradiction
  · have hspace : " PRIMARY KEY (" = " " ++ "PRIMARY KEY (" := rfl
    rw [← Option.some.inj h, hspace]
    exact ⟨"PRIMARY KEY (" ++ Text.separatedBy ", " (keyColumns d t) ++ ")", by
      simp only [String.append_assoc]⟩

/-- Every element behind the columns is a constraint, and these are the names. -/
theorem forall₂_isNamed_elements {d : Dialect} {t : Table} {constraints : List Constraint}
    {clauses : List String} (h : constraintClauses d t.name constraints = .ok clauses) :
    List.Forall₂ IsNamed (constraintNames d t constraints)
      ((keyClause? d t constraints).toList ++ clauses) := by
  have hclauses := forall₂_isNamed 0 (mapM_eq_ok_iff.1 h)
  rw [constraintNames]
  cases hkey : keyClause? d t constraints with
  | none => exact hclauses
  | some clause => exact .cons (isNamed_keyClause hkey) hclauses

/-! ### Distinct names -/

/-- No name that was given is written like another name, or like that of the table's own key. -/
structure GivenApart (d : Dialect) (t : Table) (constraints : List Constraint) : Prop where
  fromOthers : ∀ name ∈ t.givenNames, ∀ other ∈ constraints.filterMap (·.name?),
    writtenName d t name = writtenName d t other → name = other
  fromKey : (keyClause? d t constraints).isSome = true →
    ∀ name ∈ t.givenNames, writtenName d t name ≠ d.identifier t.keyName

variable {d : Dialect} {t : Table} {merged : List Constraint}

theorem kind_ne_primaryKey {c : Constraint} (h : (keyClause? d t merged).isSome = true)
    (hc : c ∈ merged) : c.kind ≠ some .primaryKey := by
  intro hkind
  have hany : merged.any (·.kind == some ConstraintKind.primaryKey) = true :=
    List.any_eq_true.2 ⟨c, hc, by rw [hkind]; rfl⟩
  rw [keyClause?, hany, Bool.or_true, if_pos rfl] at h
  contradiction

/-- A made-up name and the name of the table's own key differ, since no constraint of the table is a
primary key when it gets one. -/
theorem writtenName_newName_ne {c : Constraint} {kind : ConstraintKind}
    (h : (keyClause? d t merged).isSome = true) (hc : c ∈ merged) (hkind : c.kind = some kind)
    (existing : List String) :
    writtenName d t (kind.newName existing) ≠ d.identifier t.keyName := by
  have hne : kind ≠ .primaryKey := by
    rintro rfl
    exact kind_ne_primaryKey h hc hkind
  rw [writtenName, Constraint.finalName_newName]
  exact ConstraintKind.identifier_numberedName_ne hne t.name _

/-- Only given names can be written alike, so that is all that has to be ruled out. -/
theorem GivenApart.eq_of_writtenName_eq (h : GivenApart d t merged)
    (hmerge : Constraint.merge t.constraints = .ok merged) {first second : String}
    (hfirst : first ∈ merged.filterMap (·.name?)) (hsecond : second ∈ merged.filterMap (·.name?))
    (hsame : writtenName d t first = writtenName d t second) : first = second := by
  by_cases hf : first ∈ t.givenNames
  · exact h.fromOthers first hf second hsecond hsame
  by_cases hs : second ∈ t.givenNames
  · exact (h.fromOthers second hs first hfirst hsame.symm).symm
  obtain ⟨_, _, kind, taken, _, rfl⟩ := Constraint.newName_of_merge hmerge hfirst hf
  obtain ⟨_, _, kind', taken', _, rfl⟩ := Constraint.newName_of_merge hmerge hsecond hs
  exact Constraint.identifier_newName_injective hsame

theorem GivenApart.writtenName_ne_key (h : GivenApart d t merged)
    (hmerge : Constraint.merge t.constraints = .ok merged)
    (hkey : (keyClause? d t merged).isSome = true) {name : String}
    (hname : name ∈ merged.filterMap (·.name?)) :
    writtenName d t name ≠ d.identifier t.keyName := by
  by_cases hg : name ∈ t.givenNames
  · exact h.fromKey hkey name hg
  · obtain ⟨c, hc, kind, existing, hkind, rfl⟩ := Constraint.newName_of_merge hmerge hname hg
    exact writtenName_newName_ne hkey hc hkind existing

theorem nodup_constraintNames_iff (hmerge : Constraint.merge t.constraints = .ok merged) :
    (constraintNames d t merged).Nodup ↔ GivenApart d t merged := by
  rw [constraintNames, List.nodup_append]
  constructor
  · rintro ⟨-, hnodup, hdisjoint⟩
    refine ⟨fun name hname other hother hsame => ?_, fun hkey name hname hsame => ?_⟩
    · have hmem := Constraint.given_mem_names_of_merge hmerge hname
      exact List.inj_on_of_nodup_map hnodup hmem hother hsame
    · obtain ⟨clause, hclause⟩ := Option.isSome_iff_exists.1 hkey
      have hmem := Constraint.given_mem_names_of_merge hmerge hname
      exact hdisjoint (d.identifier t.keyName) (by simp [hclause]) _ (List.mem_map_of_mem hmem)
        hsame.symm
  · intro h
    refine ⟨?_, ?_, ?_⟩
    · cases keyClause? d t merged <;> simp
    · refine (Constraint.nodup_names_of_merge hmerge).map_on ?_
      intro first hfirst second hsecond hsame
      exact h.eq_of_writtenName_eq hmerge hfirst hsecond hsame
    · intro own hown written hwritten
      obtain ⟨name, hname, rfl⟩ := List.mem_map.1 hwritten
      rw [Option.mem_toList, Option.map_eq_some_iff] at hown
      obtain ⟨clause, hclause, rfl⟩ := hown
      exact (h.writtenName_ne_key hmerge (by rw [hclause, Option.isSome_some]) hname).symm

/-- The names in the definition of a table are distinct exactly when the given ones keep apart, from
one another, from the made-up names and from the name of the table's own key. -/
theorem create_nodup_constraintNames_iff {sql : String} (h : create d t = .ok sql) :
    ∃ columns merged elements, t.columns.mapM (Column.definition d) = .ok columns ∧
      Constraint.merge t.constraints = .ok merged ∧
      sql = headText d t ++ " (" ++ elementText columns elements ++ "\n)" ++ optionText d t ++
        ";\n" ++ followingText d t ∧
      List.Forall₂ IsNamed (constraintNames d t merged) elements ∧
      ((constraintNames d t merged).Nodup ↔ GivenApart d t merged) := by
  simp only [create, bind_eq_ok_iff] at h
  obtain ⟨columns, hcolumns, merged, hmerged, clauses, hclauses, hsql⟩ := h
  exact ⟨columns, merged, _, hcolumns, hmerged, (Except.ok.inj hsql).symm,
    forall₂_isNamed_elements hclauses, nodup_constraintNames_iff hmerged⟩

/-- Two columns that are unique each, one of them under a given name. -/
def ordersTable (codeName : String) : Table where
  name := "ORDERS"
  columns := [.ofType "CODE" "INTEGER", .ofType "NUMBER" "INTEGER"]
  constraints := [.onColumn (some codeName) .unique "CODE", .onColumn none .unique "NUMBER"]

theorem create_nodup_constraintNames_orders :
    ∃ merged, Constraint.merge (ordersTable "UQ_CODE").constraints = .ok merged ∧
      (constraintNames {} (ordersTable "UQ_CODE") merged).Nodup := by
  have hcreate : create {} (ordersTable "UQ_CODE") = .ok ("CREATE TABLE ORDERS (" ++
      "\n\tCODE INTEGER,\n\tNUMBER INTEGER,\n\tCONSTRAINT UQ_CODE UNIQUE (CODE)," ++
      "\n\tCONSTRAINT UQ_ORDERS_1 UNIQUE (NUMBER)\n);\n") := by decide +kernel
  have hmerge : Constraint.merge (ordersTable "UQ_CODE").constraints =
      .ok [.onColumn (some "UQ_CODE") .unique "CODE",
        { Constraint.onColumn (some "UQ_<TABLE_NAME>_1") .unique "NUMBER" with
          generatedName := true }] := by decide +kernel
  obtain ⟨_, merged, _, _, hmerged, _, _, hnodup⟩ := create_nodup_constraintNames_iff hcreate
  refine ⟨merged, hmerged, hnodup.2 ⟨?_, ?_⟩⟩
  all_goals
    rw [hmerge] at hmerged
    obtain rfl := Except.ok.inj hmerged
    decide +kernel

/-- A given name may be what a made-up one becomes once the name of the table stands in it. -/
theorem create_repeats_constraintName :
    create {} (ordersTable "UQ_ORDERS_1") = .ok ("CREATE TABLE ORDERS (" ++
      "\n\tCODE INTEGER,\n\tNUMBER INTEGER,\n\tCONSTRAINT UQ_ORDERS_1 UNIQUE (CODE)," ++
      "\n\tCONSTRAINT UQ_ORDERS_1 UNIQUE (NUMBER)\n);\n") ∧
    ∃ merged, Constraint.merge (ordersTable "UQ_ORDERS_1").constraints = .ok merged ∧
      ¬(constraintNames {} (ordersTable "UQ_ORDERS_1") merged).Nodup :=
  ⟨by decide +kernel, [.onColumn (some "UQ_ORDERS_1") .unique "CODE",
    { Constraint.onColumn (some "UQ_<TABLE_NAME>_1") .unique "NUMBER" with
      generatedName := true }], by decide +kernel, by decide +kernel⟩

end SchemaScript.Table
