import SchemaScript.Proofs.Column.Balanced
import SchemaScript.Proofs.Constraint.Balanced
import SchemaScript.Proofs.StatementError
import SchemaScript.Table.Statement

/-! The script that creates a table is balanced from its first line to its last comment, whatever
its identifiers and literals hold. What counts is only what is written as it comes: identifiers that
look quoted already, and the expressions and types in the descriptions of its columns and
constraints. -/

namespace SchemaScript

open Text

variable {d : Dialect}

/-! ### Comments -/

theorem balanced_commentStatement (kind : ObjectKind) {target : String} (htarget : Balanced target)
    (text : Option String) {delimiter : String} (hdelimiter : Balanced delimiter) :
    Balanced (commentStatement kind target text delimiter) := by
  have hkeyword : Balanced kind.keyword := by cases kind <;> rfl
  have hvalue : Balanced (commentValue text) := by
    unfold commentValue
    split
    next => rfl
    next =>
      split
      next => rfl
      next => exact balanced_literal _
  have hon : Balanced "COMMENT ON " := rfl
  have hspace : Balanced " " := rfl
  have his : Balanced " IS " := rfl
  have hend : Balanced "\n" := rfl
  unfold commentStatement
  exact ((((((hon.append hkeyword).append hspace).append htarget).append his).append
    hvalue).append hdelimiter).append hend

theorem balanced_comment (hquote : d.quote = '"') (kind : ObjectKind) {name : String}
    (hname : d.isQuoted name = false) (text : Option String) {delimiter : String}
    (hdelimiter : Balanced delimiter) : Balanced (comment d kind name text delimiter) :=
  balanced_optional fun _ _ =>
    balanced_commentStatement kind (Dialect.balanced_identifier hquote hname) _ hdelimiter

theorem balanced_memberComments (hquote : d.quote = '"') {owner : String}
    (howner : d.isQuoted owner = false) (kind : ObjectKind) {delimiter : String}
    (hdelimiter : Balanced delimiter) {members : List Column}
    (hmembers : ∀ c ∈ members, d.isQuoted c.label = false) :
    Balanced (memberComments d owner kind delimiter members) := by
  apply balanced_concat
  intro part hpart
  obtain ⟨c, hc, rfl⟩ := List.mem_map.1 hpart
  have hdot : Balanced "." := rfl
  have htarget := ((Dialect.balanced_identifier hquote howner).append hdot).append
    (Dialect.balanced_identifier hquote (hmembers c hc))
  unfold memberComment
  split
  next => exact balanced_optional fun _ _ => balanced_commentStatement kind htarget _ hdelimiter
  next => exact balanced_empty

/-! ### Sequences and triggers -/

namespace Autoincrement

variable {auto : Autoincrement}

theorem isQuoted_sequenceFor (hquote : d.quote = '"')
    (h : ∀ name ∈ auto.sequenceName.toList, d.isQuoted name = false) (table column : String) :
    d.isQuoted (auto.sequenceFor table column) = false := by
  unfold sequenceFor
  cases hname : given auto.sequenceName with
  | none =>
    have hfirst : ("GEN_" ++ table ++ "_" ++ column).toList.head? = some 'G' := by simp
    exact Dialect.isQuoted_eq_false_of_head? hfirst (hquote ▸ by decide)
  | some name => exact h name (by simp [(given_eq_some.1 hname).1])

theorem isQuoted_triggerFor (hquote : d.quote = '"')
    (h : ∀ name ∈ auto.triggerName.toList, d.isQuoted name = false) (table column : String) :
    d.isQuoted (auto.triggerFor table column) = false := by
  unfold triggerFor
  cases hname : given auto.triggerName with
  | none =>
    have hlast : (table ++ "_" ++ column ++ "_BI").toList.getLast? = some 'I' := by
      rw [String.toList_append, List.getLast?_append]
      rfl
    exact Dialect.isQuoted_eq_false_of_getLast? hlast (hquote ▸ by decide)
  | some name => exact h name (by simp [(given_eq_some.1 hname).1])

theorem balanced_sequenceScript {sequence : String} (h : Balanced sequence) :
    Balanced (auto.sequenceScript sequence) := by
  have hcreate : Balanced "CREATE SEQUENCE " := rfl
  have halter : Balanced "ALTER SEQUENCE " := rfl
  have hrestart : Balanced " RESTART WITH " := rfl
  have hend : Balanced ";\n" := rfl
  have hstart := (((halter.append h).append hrestart).append
    (balanced_toString auto.startValue.toInt)).append hend
  exact balanced_whenTrue (((hcreate.append h).append hend).append (balanced_whenTrue hstart))

/-- The condition of the trigger stands between its only parentheses. -/
theorem balanced_triggerScript {trigger table column sequence : String}
    (htrigger : Balanced trigger) (htable : Balanced table) (hcolumn : Balanced column)
    (hsequence : Balanced sequence) :
    Balanced (triggerScript trigger table column sequence) := by
  have hcreate : Balanced "CREATE OR ALTER TRIGGER " := rfl
  have hfor : Balanced " FOR " := rfl
  have hline : Balanced "\n" := rfl
  have hif : Takes 0 1 "ACTIVE BEFORE INSERT POSITION 0\nAS\nBEGIN\n\tIF (NEW." := rfl
  have hthen : Takes 1 0 " IS NULL) THEN NEW." := rfl
  have hnext : Balanced " = NEXT VALUE FOR " := rfl
  have hend : Balanced ";\nEND" := rfl
  have hdelimiter : Balanced blockDelimiter := rfl
  have hhead := (((hcreate.append htrigger).append hfor).append htable).append hline
  have hcondition := hcolumn.between (Takes.append hhead hif) hthen
  unfold triggerScript
  exact (((((hcondition.append hcolumn).append hnext).append hsequence).append hend).append
    hdelimiter).append hline

end Autoincrement

theorem Column.balanced_autoincrementScript (hquote : d.quote = '"') {table : String}
    (htable : d.isQuoted table = false) {c : Column}
    (hidentifiers : ∀ name ∈ c.identifiers, d.isQuoted name = false) :
    Balanced (c.autoincrementScript d table) := by
  unfold autoincrementScript
  split
  next => exact balanced_empty
  next auto hauto =>
    split
    next => exact balanced_empty
    next =>
      have hlabel : d.isQuoted c.label = false := hidentifiers _ (by simp [identifiers])
      have hgiven : ∀ name ∈ auto.sequenceName.toList ++ auto.triggerName.toList,
          d.isQuoted name = false := by
        intro name hname
        apply hidentifiers
        simp only [identifiers, hauto, Option.toList_some, List.flatMap_singleton,
          List.mem_append]
        exact .inr (List.mem_append.1 hname)
      obtain ⟨hsequence, htrigger⟩ := List.forall_mem_append.1 hgiven
      have hname := Dialect.balanced_identifier hquote
        (Autoincrement.isQuoted_sequenceFor hquote hsequence table c.label)
      exact (Autoincrement.balanced_sequenceScript hname).append
        (Autoincrement.balanced_triggerScript
          (Dialect.balanced_identifier hquote
            (Autoincrement.isQuoted_triggerFor hquote htrigger table c.label))
          (Dialect.balanced_identifier hquote htable)
          (Dialect.balanced_identifier hquote hlabel) hname)

/-! ### Tables -/

namespace Table

/-- What is written as an identifier, but for the names of the constraints. -/
def identifiers (t : Table) : List String :=
  t.name :: t.tablespace.toList ++ t.columns.flatMap (·.identifiers) ++
    t.constraints.flatMap (·.identifiers)

/-- No identifier looks quoted, and the names that are given to constraints are plain. -/
structure PlainNames (d : Dialect) (t : Table) : Prop where
  identifiers : ∀ name ∈ t.identifiers, d.isQuoted name = false
  constraints : ∀ name ∈ t.constraints.filterMap (·.name?), Constraint.IsPlainName name

/-- What is written as it comes, in the columns and in the checks. -/
def fragments (d : Dialect) (t : Table) : List String :=
  t.columns.flatMap (·.fragments d) ++
    match Constraint.merge t.constraints with
    | .ok merged => merged.filterMap (·.condition?)
    | .error _ => []

variable {t : Table}

theorem PlainNames.name (h : t.PlainNames d) : d.isQuoted t.name = false :=
  h.identifiers _ (by simp [Table.identifiers])

theorem PlainNames.column (h : t.PlainNames d) {c : Column} (hc : c ∈ t.columns) :
    ∀ name ∈ c.identifiers, d.isQuoted name = false := by
  intro name hname
  apply h.identifiers
  simp only [Table.identifiers, List.mem_append, List.mem_flatMap]
  exact .inl (.inr ⟨c, hc, hname⟩)

theorem PlainNames.label (h : t.PlainNames d) {c : Column} (hc : c ∈ t.columns) :
    d.isQuoted c.label = false :=
  h.column hc _ (by simp [Column.identifiers])

theorem PlainNames.entry (h : t.PlainNames d) :
    ∀ entry ∈ t.constraints, ∀ name ∈ entry.identifiers, d.isQuoted name = false := by
  intro entry hentry name hname
  apply h.identifiers
  simp only [Table.identifiers, List.mem_append, List.mem_flatMap]
  exact .inr ⟨entry, hentry, hname⟩

theorem balanced_keyClause (hquote : d.quote = '"') (h : t.PlainNames d)
    {merged : List Constraint} {text : String} (htext : keyClause? d t merged = some text) :
    Balanced text := by
  unfold keyClause? at htext
  split at htext
  next => contradiction
  next =>
    have hfirst : t.keyName.toList.head? = some 'P' := by simp [keyName]
    have hname := Dialect.balanced_identifier hquote
      (Dialect.isQuoted_eq_false_of_head? hfirst (hquote ▸ by decide))
    have hcomma : Balanced ", " := rfl
    have hcolumns : Balanced (separatedBy ", " (keyColumns d t)) := by
      apply balanced_separatedBy hcomma
      intro part hpart
      obtain ⟨c, hc, rfl⟩ := List.mem_map.1 hpart
      exact Dialect.balanced_identifier hquote (h.label (List.mem_filter.1 hc).1)
    have hkeyword : Balanced "CONSTRAINT " := rfl
    have hkey : Takes 0 1 " PRIMARY KEY (" := rfl
    rw [← Option.some.inj htext]
    exact hcolumns.between (Takes.append (hkeyword.append hname) hkey) rfl

theorem balanced_elementText {columns further : List String}
    (hcolumns : ∀ column ∈ columns, Balanced column)
    (hfurther : ∀ element ∈ further, Balanced element) :
    Balanced (elementText columns further) := by
  have hcomma : Balanced "," := rfl
  have hline : Balanced "\n\t" := rfl
  have hcommaLine : Balanced ",\n\t" := rfl
  have hown : ∀ part ∈ columns.map ("\n\t" ++ ·), Balanced part := by
    simpa using fun column hcolumn => hline.append (hcolumns column hcolumn)
  have hbehind : ∀ part ∈ further.map (",\n\t" ++ ·), Balanced part := by
    simpa using fun element helement => hcommaLine.append (hfurther element helement)
  exact (balanced_separatedBy hcomma hown).append (balanced_concat hbehind)

theorem balanced_headText (hquote : d.quote = '"') (h : t.PlainNames d) :
    Balanced (headText d t) := by
  have hverb : Balanced (if t.temporary.isSome then "CREATE GLOBAL TEMPORARY TABLE "
      else "CREATE TABLE ") := by
    split <;> rfl
  have hfile : Balanced "\nEXTERNAL FILE " := rfl
  have hadapter : Balanced " ADAPTER " := rfl
  unfold headText
  exact ((hverb.append (Dialect.balanced_identifier hquote h.name)).append
    (balanced_optional fun _ _ => hfile.append (balanced_literal _))).append
    (balanced_optional fun _ _ => hadapter.append (balanced_literal _))

theorem balanced_optionText (hquote : d.quote = '"') (h : t.PlainNames d) :
    Balanced (optionText d t) := by
  have htablespace : Balanced "\nTABLESPACE " := rfl
  have hline : Balanced "\n" := rfl
  have hsecurity : ∀ security : SqlSecurity, Balanced security.clause := by
    intro security
    cases security <;> rfl
  have hlifetime : ∀ lifetime : RowLifetime, Balanced lifetime.clause := by
    intro lifetime
    cases lifetime <;> rfl
  have hname : ∀ name, t.tablespace = some name → d.isQuoted name = false := by
    intro name hname
    exact h.identifiers name (by simp [Table.identifiers, hname])
  unfold optionText
  exact ((balanced_optional fun name hc =>
      htablespace.append (Dialect.balanced_identifier hquote (hname name hc))).append
    (balanced_optional fun security _ => hline.append (hsecurity security))).append
    (balanced_optional fun lifetime _ => hline.append (hlifetime lifetime))

theorem balanced_followingText (hquote : d.quote = '"') (h : t.PlainNames d) :
    Balanced (followingText d t) := by
  have hdelimiter : Balanced ";" := rfl
  have hnumbered : Balanced (concat (t.columns.map (Column.autoincrementScript d t.name))) := by
    apply balanced_concat
    intro part hpart
    obtain ⟨c, hc, rfl⟩ := List.mem_map.1 hpart
    exact Column.balanced_autoincrementScript hquote h.name (h.column hc)
  unfold followingText
  exact ((balanced_memberComments hquote h.name .column hdelimiter fun c hc => h.label hc).append
    hnumbered).append (balanced_comment hquote .table h.name _ hdelimiter)

/-- The script that creates a table is balanced, in a dialect that quotes identifiers as usual. -/
theorem create_balanced (hquote : d.quote = '"') (hnames : t.PlainNames d)
    (hfragments : ∀ fragment ∈ t.fragments d, Balanced fragment) {sql : String}
    (h : t.create d = .ok sql) : Balanced sql := by
  unfold create at h
  obtain ⟨columns, hcolumns, h⟩ := bind_eq_ok_iff.1 h
  obtain ⟨merged, hmerged, h⟩ := bind_eq_ok_iff.1 h
  obtain ⟨clauses, hclauses, h⟩ := bind_eq_ok_iff.1 h
  simp only [fragments, hmerged, List.forall_mem_append] at hfragments
  obtain ⟨hown, hconditions⟩ := hfragments
  have hdefinitions : ∀ column ∈ columns, Balanced column := by
    intro column hcolumn
    obtain ⟨c, hc, htext⟩ := exists_of_mem_mapM hcolumns hcolumn
    refine Column.balanced_definition hquote (hnames.column hc) ?_ htext
    intro fragment hfragment
    exact hown fragment (List.mem_flatMap.2 ⟨c, hc, hfragment⟩)
  have hkey : ∀ clause ∈ (keyClause? d t merged).toList, Balanced clause := by
    intro clause hclause
    exact balanced_keyClause hquote hnames (Option.mem_toList.1 hclause)
  have hconstraints : ∀ clause ∈ clauses, Balanced clause := by
    intro clause hclause
    obtain ⟨⟨c, index⟩, hc, htext⟩ := exists_of_mem_mapM hclauses hclause
    have hmem : c ∈ merged := List.fst_mem_of_mem_zipIdx hc
    refine Constraint.balanced_clause hquote hmerged hnames.constraints hnames.entry hmem ?_ htext
    intro condition hcondition
    exact hconditions condition (List.mem_filterMap.2 ⟨c, hmem, hcondition⟩)
  have helements := balanced_elementText hdefinitions (List.forall_mem_append.2 ⟨hkey, hconstraints⟩)
  have hopening : Takes 0 1 " (" := rfl
  have hclosing : Takes 1 0 "\n)" := rfl
  have hend : Balanced ";\n" := rfl
  rw [← Except.ok.inj h]
  exact (((helements.between (Takes.append (balanced_headText hquote hnames) hopening)
    hclosing).append (balanced_optionText hquote hnames)).append hend).append
    (balanced_followingText hquote hnames)

/-- Quotes and parentheses in the names and in the texts of a table. -/
def strangeTable : Table where
  name := "a\"(b"
  columns := [
    { Column.ofType "it's)" "VARCHAR" with
      size := 9, primaryKey := true, default := .given "O'Hara (", description := some "\"open" },
    { name := some "n", computedBy := some "char_length(\"it's)\")" }]
  constraints := [.condition (some "no (") " \"it's)\" <> '(' ", .reference none "n" "c)" "ID"]

def strangeScript : String :=
  "CREATE TABLE \"a\"\"(b\" (\n" ++
    "\t\"it's)\" VARCHAR(9) DEFAULT 'O''Hara (',\n" ++
    "\t\"n\" COMPUTED BY (char_length(\"it's)\")),\n" ++
    "\tCONSTRAINT \"PK_a\"\"(b\" PRIMARY KEY (\"it's)\"),\n" ++
    "\tCONSTRAINT \"no (\" CHECK (\"it's)\" <> '('),\n" ++
    "\tCONSTRAINT \"FK_a\"\"(b_1\" FOREIGN KEY (\"n\") REFERENCES \"c)\" (ID)\n);\n" ++
    "COMMENT ON COLUMN \"a\"\"(b\".\"it's)\" IS '\"open';\n"

theorem create_balanced_strange :
    strangeTable.create {} = .ok strangeScript ∧ Balanced strangeScript := by
  have hcreate : strangeTable.create {} = .ok strangeScript := by decide +kernel
  have hnames : strangeTable.PlainNames {} := ⟨by decide +kernel, by decide +kernel⟩
  have hfragments : ∀ fragment ∈ strangeTable.fragments {}, Balanced fragment := by decide +kernel
  exact ⟨hcreate, create_balanced rfl hnames hfragments hcreate⟩

end Table

end SchemaScript
