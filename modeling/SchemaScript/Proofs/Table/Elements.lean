import SchemaScript.Proofs.Constraint.Grouping
import SchemaScript.Proofs.Table.OwnKey

/-! The list of elements of a table. Between the parentheses stand the definitions of the columns, the
key that the table gets of its own, and the clauses of the merged constraints. Columns are written with
commas between them and everything else behind a comma, so the list is well formed as long as there is
a column to begin with; without one, a constraint is written behind a comma with nothing before it. -/

namespace SchemaScript

open Text

theorem Constraint.merged_eq_nil_iff {entries merged : List Constraint}
    (h : merge entries = .ok merged) : merged = [] ↔ entries = [] := by
  obtain ⟨names, hnames, rfl⟩ := (merge_eq_ok_iff _ _).1 h
  rw [grouped, List.map_eq_nil_iff]
  constructor
  · intro hnone
    have hnil : names = [] := by
      refine List.eq_nil_iff_forall_not_mem.2 fun name hname => ?_
      rw [← List.mem_eraseDups, hnone] at hname
      exact absurd hname List.not_mem_nil
    exact List.eq_nil_of_length_eq_zero (by rw [← hnames.1, hnil, List.length_nil])
  · rintro rfl
    rw [List.eq_nil_of_length_eq_zero hnames.1, List.eraseDups_nil]

namespace Table

/-- The elements in order, each on a line of its own, with commas in between. -/
def elementList (elements : List String) : String :=
  separatedBy "," (elements.map ("\n\t" ++ ·))

/-! ### Columns and further elements -/

/-- Behind a first element, a further one stands as in any list. -/
theorem elementList_cons (element : String) (further : List String) :
    elementList (element :: further) =
      "\n\t" ++ element ++ concat (further.map (",\n\t" ++ ·)) := by
  have hcomma : further.map (",\n\t" ++ ·) = (further.map ("\n\t" ++ ·)).map ("," ++ ·) := by
    have hstart : ",\n\t" = "," ++ "\n\t" := by decide
    simp only [List.map_map, Function.comp_def, hstart, String.append_assoc]
  rw [elementList, List.map_cons, separatedBy_cons, hcomma]

theorem elementText_of_columns {columns : List String} (h : columns ≠ []) (further : List String) :
    elementText columns further = elementList (columns ++ further) := by
  obtain ⟨column, others, rfl⟩ := List.exists_cons_of_ne_nil h
  have hown : elementText (column :: others) further =
      elementList (column :: others) ++ concat (further.map (",\n\t" ++ ·)) := rfl
  rw [hown, elementList_cons, List.cons_append, elementList_cons, List.map_append, concat_append,
    String.append_assoc]

/-- Without columns, the first element has a comma before it. -/
theorem elementText_nil {further : List String} (h : further ≠ []) :
    elementText [] further = "," ++ elementList further := by
  obtain ⟨element, others, rfl⟩ := List.exists_cons_of_ne_nil h
  have hstart : ",\n\t" = "," ++ "\n\t" := by decide
  rw [elementText, List.map_nil, separatedBy, String.empty_append, List.map_cons, concat_cons,
    elementList_cons, hstart, String.append_assoc, String.append_assoc, String.append_assoc]

theorem elementText_eq_elementList_iff (columns further : List String) :
    elementText columns further = elementList (columns ++ further) ↔
      columns ≠ [] ∨ further = [] := by
  cases columns with
  | cons column others =>
    have hcolumns : column :: others ≠ [] := List.cons_ne_nil column others
    exact iff_of_true (elementText_of_columns hcolumns further) (.inl hcolumns)
  | nil =>
    rw [List.nil_append]
    constructor
    · intro hlist
      refine .inr (Classical.byContradiction fun hfurther => ?_)
      rw [elementText_nil hfurther] at hlist
      have hlength := congrArg String.length hlist
      rw [String.length_append] at hlength
      have hcomma : ",".length = 1 := rfl
      omega
    · rintro (hcolumns | rfl)
      · contradiction
      · rfl

/-! ### Elements of a table -/

variable {d : Dialect} {t : Table}

theorem isSome_keyClause?_iff {merged : List Constraint} :
    (keyClause? d t merged).isSome = true ↔ GetsKey t merged := by
  rw [getsKey_iff_condition d, keyClause?]
  split
  next h => simp [h]
  next h => simpa using h

theorem keyClause?_of_columns_eq_nil (h : t.columns = []) (merged : List Constraint) :
    keyClause? d t merged = none := by
  rw [← Option.not_isSome_iff_eq_none, isSome_keyClause?_iff]
  rintro ⟨-, ⟨c, hc, -⟩, -⟩
  rw [h] at hc
  exact absurd hc List.not_mem_nil

/-- The list of elements of a table that can be created has the definitions of its columns, its own
key, and the clauses of its merged constraints, each on a line of its own and with commas in between.
It is well formed in this way exactly when there is a column or when there is nothing to list. In the
remaining case, that of constraints without columns, there is a comma before the first clause. -/
theorem create_elements_iff {sql : String} (h : create d t = .ok sql) :
    ∃ definitions merged clauses list,
      List.Forall₂ (fun c text => Column.definition d c = .ok text) t.columns definitions ∧
      Constraint.merge t.constraints = .ok merged ∧
      List.Forall₂ (fun numbered clause => numbered.1.clause d t.name numbered.2 = .ok clause)
        merged.zipIdx clauses ∧
      sql = headText d t ++ " (" ++ list ++ "\n)" ++
        (optionText d t ++ ";\n" ++ followingText d t) ∧
      ((keyClause? d t merged).isSome = true ↔ GetsKey t merged) ∧
      (list = elementList (definitions ++ (keyClause? d t merged).toList ++ clauses) ↔
        t.columns ≠ [] ∨ t.constraints = []) ∧
      (t.columns = [] → t.constraints ≠ [] → list = "," ++ elementList clauses) := by
  obtain ⟨definitions, merged, clauses, hdefinitions, hmerged, hclauses, hsql⟩ :=
    create_eq_ok_iff_elements.1 h
  rw [constraintClauses, mapM_eq_ok_iff] at hclauses
  rw [mapM_eq_ok_iff] at hdefinitions
  have hcolumns : definitions = [] ↔ t.columns = [] := by
    rw [← List.length_eq_zero_iff, ← hdefinitions.length_eq, List.length_eq_zero_iff]
  have hconstraints : clauses = [] ↔ t.constraints = [] := by
    rw [← Constraint.merged_eq_nil_iff hmerged, ← List.length_eq_zero_iff, ← hclauses.length_eq,
      List.length_zipIdx, List.length_eq_zero_iff]
  refine ⟨definitions, merged, clauses, elementText definitions
    ((keyClause? d t merged).toList ++ clauses), hdefinitions, hmerged, hclauses, ?_,
    isSome_keyClause?_iff, ?_, fun hnone hsome => ?_⟩
  · simpa only [String.append_assoc] using hsql
  · rw [List.append_assoc, elementText_eq_elementList_iff, ne_eq, hcolumns]
    by_cases hnone : t.columns = []
    -- A table without columns gets no key, so a comma too many can only come from a constraint.
    · simp [hnone, keyClause?_of_columns_eq_nil hnone, hconstraints]
    · simp [hnone]
  · rw [hcolumns.2 hnone, keyClause?_of_columns_eq_nil hnone, Option.toList_none, List.nil_append,
      elementText_nil (mt hconstraints.1 hsome)]

/-- Two columns, of which one is flagged for the key, and a constraint without a name. -/
def priceTable : Table where
  name := "PRICE"
  columns := [{ Column.ofType "ITEM" "INTEGER" with primaryKey := true },
    .ofType "AMOUNT" "INTEGER"]
  constraints := [.condition none "AMOUNT > 0"]

theorem create_elements_price :
    ∃ definitions key clauses,
      create {} priceTable = .ok ("CREATE TABLE PRICE" ++ " (" ++
        elementList (definitions ++ key ++ clauses) ++ "\n)" ++ ";\n") ∧
      definitions = ["ITEM INTEGER", "AMOUNT INTEGER"] ∧
      key = ["CONSTRAINT PK_PRICE PRIMARY KEY (ITEM)"] ∧
      clauses = ["CONSTRAINT CHECK_PRICE_1 CHECK (AMOUNT > 0)"] := by
  have hcreate : create {} priceTable = .ok ("CREATE TABLE PRICE (" ++
      "\n\tITEM INTEGER,\n\tAMOUNT INTEGER,\n\tCONSTRAINT PK_PRICE PRIMARY KEY (ITEM)," ++
      "\n\tCONSTRAINT CHECK_PRICE_1 CHECK (AMOUNT > 0)\n);\n") := by decide +kernel
  let check : Constraint := { Constraint.condition (some "CHECK_<TABLE_NAME>_1") "AMOUNT > 0" with
    generatedName := true }
  have hmerge : Constraint.merge priceTable.constraints = .ok [check] := by decide +kernel
  obtain ⟨definitions, merged, clauses, list, hdefinitions, hmerged, hclauses, hsql, -, hlist, -⟩ :=
    create_elements_iff hcreate
  obtain rfl := Except.ok.inj (hmerged.symm.trans hmerge)
  refine ⟨definitions, (keyClause? {} priceTable [check]).toList, clauses, ?_, ?_, by decide +kernel,
    ?_⟩
  · have hhead : headText {} priceTable = "CREATE TABLE PRICE" := by decide +kernel
    have hrest : optionText {} priceTable ++ ";\n" ++ followingText {} priceTable = ";\n" := by
      decide +kernel
    rw [hcreate, hsql, hlist.2 (.inl (by decide)), hhead, hrest]
  · have hboth : priceTable.columns.mapM (Column.definition {}) =
        .ok ["ITEM INTEGER", "AMOUNT INTEGER"] := by decide +kernel
    exact Except.ok.inj ((mapM_eq_ok_iff.2 hdefinitions).symm.trans hboth)
  · have hone : constraintClauses {} "PRICE" [check] =
        .ok ["CONSTRAINT CHECK_PRICE_1 CHECK (AMOUNT > 0)"] := by decide +kernel
    exact Except.ok.inj ((mapM_eq_ok_iff.2 hclauses).symm.trans hone)

/-- A constraint and no column. -/
def columnlessTable : Table where
  name := "PRICE"
  constraints := [.condition (some "CK_AMOUNT") "AMOUNT > 0"]

/-- The only element is written behind a comma. -/
theorem create_elements_leadingComma :
    let clause := "CONSTRAINT CK_AMOUNT CHECK (AMOUNT > 0)"
    constraintClauses {} "PRICE" columnlessTable.constraints = .ok [clause] ∧
      create {} columnlessTable = .ok ("CREATE TABLE PRICE (" ++ ",\n\t" ++ clause ++ "\n);\n") ∧
      create {} columnlessTable ≠
        .ok ("CREATE TABLE PRICE (" ++ elementList [clause] ++ "\n);\n") := by
  intro clause
  have hcreate : create {} columnlessTable =
      .ok ("CREATE TABLE PRICE (" ++ ",\n\t" ++ clause ++ "\n);\n") := by decide +kernel
  refine ⟨by decide +kernel, hcreate, ?_⟩
  rw [hcreate]
  decide +kernel

end Table

end SchemaScript
