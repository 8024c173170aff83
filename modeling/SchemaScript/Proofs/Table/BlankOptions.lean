import SchemaScript.Proofs.Table.OwnKey

/-! Blank options of a table. A blank comment counts as none, and so does the blank tablespace of a
constraint, which no other step of a table's creation reads. A blank external file, adapter or
tablespace of the table itself is written in a clause of its own all the same, so that the script is
longer than the one of a table without it. -/

namespace SchemaScript

namespace Text

/-- An option with at most a blank text taken out of it. -/
inductive DropsBlank : Option String → Option String → Prop where
  | keep (text : Option String) : DropsBlank text text
  | drop {text : String} (h : isBlank text = true) : DropsBlank (some text) none

variable {before after : Option String}

theorem DropsBlank.given_eq (h : DropsBlank before after) : given after = given before := by
  cases h with
  | keep => rfl
  | drop hblank => rw [given_none, given, Option.filter_some, hblank, if_neg (by decide)]

/-- What is written for every text is written for a blank one, too. -/
theorem DropsBlank.length_optional_le (h : DropsBlank before after) (write : String → String) :
    (optional write after).length ≤ (optional write before).length := by
  cases h with
  | keep => exact Nat.le_refl _
  | drop => simp

theorem DropsBlank.eq_of_length_optional_eq (h : DropsBlank before after) {write : String → String}
    (hwrite : ∀ text, write text ≠ "")
    (hlength : (optional write after).length = (optional write before).length) :
    after = before := by
  cases h with
  | keep => rfl
  | @drop text _ =>
    rw [optional_none, optional_some] at hlength
    exact absurd (String.length_eq_zero_iff.1 hlength.symm) (hwrite text)

end Text

open Text

/-! ### Constraints -/

namespace Constraint

/-- The constraint without its tablespace, if that is blank. -/
def withoutBlank (c : Constraint) : Constraint := { c with tablespace := given c.tablespace }

structure DropsBlank (before after : Constraint) : Prop where
  tablespace : Text.DropsBlank before.tablespace after.tablespace
  others : after = { before with tablespace := after.tablespace }

theorem DropsBlank.withoutBlank_eq {before after : Constraint} (h : before.DropsBlank after) :
    after.withoutBlank = before.withoutBlank := by
  rw [h.others, withoutBlank, withoutBlank, h.tablespace.given_eq]

theorem map_withoutBlank_eq {before after : List Constraint}
    (h : List.Forall₂ DropsBlank before after) :
    after.map withoutBlank = before.map withoutBlank := by
  induction h with
  | nil => rfl
  | cons hfirst _ ih => rw [List.map_cons, List.map_cons, hfirst.withoutBlank_eq, ih]

def Named.withoutBlank (named : Named) : Named := ⟨named.name, named.entry.withoutBlank⟩

/-! Every step of a merge sees the tablespace only to pass it on. -/

theorem nameFrom_map_withoutBlank (taken : List String) (index : Nat) (entries : List Constraint) :
    nameFrom taken index (entries.map withoutBlank) =
      (nameFrom taken index entries).map (List.map Named.withoutBlank) := by
  induction entries generalizing taken index with
  | nil => rfl
  | cons c rest ih =>
    have hname : c.withoutBlank.name? = c.name? := rfl
    have hkind : c.withoutBlank.kind = c.kind := rfl
    rw [List.map_cons, nameFrom, nameFrom, hname, hkind]
    cases c.name? with
    | some name =>
      simp only [ih]
      cases nameFrom taken (index + 1) rest <;> rfl
    | none =>
      cases c.kind with
      | none => rfl
      | some kind =>
        simp only [ih]
        cases nameFrom (kind.newName taken :: taken) (index + 1) rest <;> rfl

theorem mergeOne_map_withoutBlank (new : Named) (merged : List Named) :
    mergeOne new.withoutBlank (merged.map Named.withoutBlank) =
      (mergeOne new merged).map Named.withoutBlank := by
  induction merged with
  | nil => rfl
  | cons old rest ih =>
    have hname : old.withoutBlank.name = new.withoutBlank.name ↔ old.name = new.name := Iff.rfl
    rw [List.map_cons, mergeOne, mergeOne]
    by_cases hsame : old.name = new.name
    · rw [if_pos (hname.2 hsame), if_pos hsame]
      rfl
    · rw [if_neg (mt hname.1 hsame), if_neg hsame, ih, List.map_cons]

theorem foldl_mergeOne_map_withoutBlank (named merged : List Named) :
    (named.map Named.withoutBlank).foldl (fun merged new => mergeOne new merged)
        (merged.map Named.withoutBlank) =
      (named.foldl (fun merged new => mergeOne new merged) merged).map Named.withoutBlank := by
  induction named generalizing merged with
  | nil => rfl
  | cons new rest ih =>
    rw [List.map_cons, List.foldl_cons, List.foldl_cons, mergeOne_map_withoutBlank, ih]

theorem merge_map_withoutBlank (entries : List Constraint) :
    merge (entries.map withoutBlank) = (merge entries).map (List.map withoutBlank) := by
  have hgiven : (entries.map withoutBlank).filterMap (·.name?) = entries.filterMap (·.name?) := by
    rw [List.filterMap_map]
    rfl
  rw [merge, merge, nameAll, nameAll, hgiven, nameFrom_map_withoutBlank]
  cases nameFrom (entries.filterMap (·.name?)) 0 entries with
  | error reason => rfl
  | ok named =>
    have hmerged := foldl_mergeOne_map_withoutBlank named []
    rw [List.map_nil] at hmerged
    show Except.ok _ = Except.ok _
    rw [hmerged, List.map_map, List.map_map]
    rfl

theorem tablespaceClause_withoutBlank (d : Dialect) (c : Constraint) :
    c.withoutBlank.tablespaceClause d = c.tablespaceClause d := by
  have hgiven : given (given c.tablespace) = given c.tablespace := by
    cases h : given c.tablespace with
    | none => rfl
    | some text => exact given_eq_some.2 ⟨rfl, (given_eq_some.1 h).2⟩
  rw [tablespaceClause, tablespaceClause, withoutBlank, hgiven]

theorem body_withoutBlank (d : Dialect) (c : Constraint) :
    c.withoutBlank.body d = c.body d := by
  unfold body
  rw [tablespaceClause_withoutBlank]
  rfl

theorem clause_withoutBlank (d : Dialect) (table : String) (index : Nat) (c : Constraint) :
    c.withoutBlank.clause d table index = c.clause d table index := by
  have hname : c.withoutBlank.name? = c.name? := rfl
  have hkind : c.withoutBlank.kind = c.kind := rfl
  rw [clause, clause, hname, hkind, body_withoutBlank]

end Constraint

/-! ### Tables -/

namespace Table

variable {d : Dialect} {t : Table}

theorem constraintClauses_map_withoutBlank (table : String) (merged : List Constraint) :
    constraintClauses d table (merged.map Constraint.withoutBlank) =
      constraintClauses d table merged := by
  simp only [constraintClauses, List.zipIdx_map, List.mapM_map, Function.comp_def,
    Prod.map, Constraint.clause_withoutBlank, id_eq]

theorem keyClause?_map_withoutBlank (merged : List Constraint) :
    keyClause? d t (merged.map Constraint.withoutBlank) = keyClause? d t merged := by
  rw [keyClause?, keyClause?, List.any_map]
  rfl

/-- Of the constraints, only what they are merged to is written, and of that no blank tablespace. -/
theorem create_map_withoutBlank (d : Dialect) (t : Table) :
    create d { t with constraints := t.constraints.map Constraint.withoutBlank } = create d t := by
  unfold create
  simp only [Constraint.merge_map_withoutBlank]
  cases Constraint.merge t.constraints with
  | error reason => rfl
  | ok merged =>
    simp only [Except.map, bind, Except.bind, constraintClauses_map_withoutBlank,
      keyClause?_map_withoutBlank]
    rfl

theorem create_withConstraints {constraints : List Constraint}
    (h : List.Forall₂ Constraint.DropsBlank t.constraints constraints) :
    create d { t with constraints } = create d t := by
  have hown := create_map_withoutBlank d { t with constraints }
  rw [Constraint.map_withoutBlank_eq h] at hown
  exact hown.symm.trans (create_map_withoutBlank d t)

theorem create_withComment {comment : Option String} (h : DropsBlank t.comment comment) :
    create d { t with comment } = create d t := by
  have hcomment : SchemaScript.comment d .table t.name comment ";" =
      SchemaScript.comment d .table t.name t.comment ";" := by
    rw [SchemaScript.comment, SchemaScript.comment, h.given_eq]
  have hfollowing : followingText d { t with comment } = followingText d t := by
    rw [followingText, followingText, hcomment]
  unfold create
  simp only [hfollowing]
  rfl

/-! ### Options that are written in any case -/

def fileClause (file : String) : String := "\nEXTERNAL FILE " ++ literal (trim file)

def adapterClause (adapter : String) : String := " ADAPTER " ++ literal (trim adapter)

def tablespaceClause (d : Dialect) (tablespace : String) : String :=
  "\nTABLESPACE " ++ d.identifier tablespace

theorem headText_eq (d : Dialect) (t : Table) :
    headText d t =
      (if t.temporary.isSome then "CREATE GLOBAL TEMPORARY TABLE " else "CREATE TABLE ") ++
        d.identifier t.name ++ optional fileClause t.externalFile ++
        optional adapterClause t.adapter := rfl

theorem optionText_eq (d : Dialect) (t : Table) :
    optionText d t = optional (tablespaceClause d) t.tablespace ++
      optional ("\n" ++ SqlSecurity.clause ·) t.security ++
      optional ("\n" ++ RowLifetime.clause ·) t.temporary := rfl

/-- How much of a script is written for the three options. -/
def optionLength (d : Dialect) (externalFile adapter tablespace : Option String) : Nat :=
  (optional fileClause externalFile).length + (optional adapterClause adapter).length +
    (optional (tablespaceClause d) tablespace).length

/-- Other options change the script by what is written for them. -/
theorem exists_create_withOptions {sql : String} (h : create d t = .ok sql)
    (externalFile adapter tablespace : Option String) :
    ∃ other, create d { t with externalFile, adapter, tablespace } = .ok other ∧
      other.length + optionLength d t.externalFile t.adapter t.tablespace =
        sql.length + optionLength d externalFile adapter tablespace := by
  obtain ⟨columns, merged, clauses, hcolumns, hmerged, hclauses, rfl⟩ := create_eq_ok_iff.1 h
  refine ⟨_, create_eq_ok_iff.2 ⟨columns, merged, clauses, hcolumns, hmerged, hclauses, rfl⟩, ?_⟩
  have hkey : keyText d { t with externalFile, adapter, tablespace } merged =
      keyText d t merged := by
    rw [← concat_keyClause?, ← concat_keyClause?]
    rfl
  have hfollowing : followingText d { t with externalFile, adapter, tablespace } =
    followingText d t := rfl
  rw [hkey, hfollowing]
  simp only [headText_eq, optionText_eq, optionLength, String.length_append]
  omega

/-- Where the script is no shorter, no option has been left out. -/
theorem create_withOptions_iff {externalFile adapter tablespace : Option String}
    (hfile : DropsBlank t.externalFile externalFile) (hadapter : DropsBlank t.adapter adapter)
    (htablespace : DropsBlank t.tablespace tablespace) {sql : String} (h : create d t = .ok sql) :
    create d { t with externalFile, adapter, tablespace } = .ok sql ↔
      externalFile = t.externalFile ∧ adapter = t.adapter ∧ tablespace = t.tablespace := by
  constructor
  · intro hsame
    obtain ⟨other, hother, hlength⟩ := exists_create_withOptions h externalFile adapter tablespace
    obtain rfl := Except.ok.inj (hsame.symm.trans hother)
    have hfileLe := hfile.length_optional_le fileClause
    have hadapterLe := hadapter.length_optional_le adapterClause
    have htablespaceLe := htablespace.length_optional_le (tablespaceClause d)
    have hfileText : ∀ text, fileClause text ≠ "" := by simp [fileClause]
    have hadapterText : ∀ text, adapterClause text ≠ "" := by simp [adapterClause]
    have htablespaceText : ∀ text, tablespaceClause d text ≠ "" := by simp [tablespaceClause]
    simp only [optionLength] at hlength
    -- None of the three parts can make up for another one that has become shorter.
    exact ⟨hfile.eq_of_length_optional_eq hfileText (by omega),
      hadapter.eq_of_length_optional_eq hadapterText (by omega),
      htablespace.eq_of_length_optional_eq htablespaceText (by omega)⟩
  · rintro ⟨rfl, rfl, rfl⟩
    exact h

/-! ### All options -/

/-- A table in which some options that are blank have been taken out. -/
structure DropsBlanks (before after : Table) : Prop where
  externalFile : DropsBlank before.externalFile after.externalFile
  adapter : DropsBlank before.adapter after.adapter
  tablespace : DropsBlank before.tablespace after.tablespace
  comment : DropsBlank before.comment after.comment
  constraints : List.Forall₂ Constraint.DropsBlank before.constraints after.constraints
  others : after = { before with
    externalFile := after.externalFile, adapter := after.adapter, tablespace := after.tablespace
    comment := after.comment, constraints := after.constraints }

/-- Taking out blank options changes nothing about whether and why a table cannot be created, and
nothing about its script as long as its external file, its adapter and its tablespace stay. Without one
of these three that was there and blank, a table that can be created has another script. -/
theorem create_dropsBlanks_iff {after : Table} (h : t.DropsBlanks after) :
    (∀ reason, create d after = .error reason ↔ create d t = .error reason) ∧
    (create d after = create d t ↔ (∃ reason, create d t = .error reason) ∨
      after.externalFile = t.externalFile ∧ after.adapter = t.adapter ∧
        after.tablespace = t.tablespace) := by
  -- First the comment and the constraints, which may change freely, and then the rest.
  let bare : Table := { t with comment := after.comment, constraints := after.constraints }
  have hbare : create d bare = create d t :=
    (create_withConstraints (t := { t with comment := after.comment }) h.constraints).trans
      (create_withComment h.comment)
  have hafter : after = { bare with
      externalFile := after.externalFile, adapter := after.adapter
      tablespace := after.tablespace } := h.others
  have herror : ∀ reason, create d after = .error reason ↔ create d t = .error reason := by
    intro reason
    rw [← hbare, hafter]
    apply create_error_congr <;> rfl
  refine ⟨herror, ?_⟩
  cases hcreate : create d t with
  | error reason => exact iff_of_true ((herror reason).2 hcreate) (.inl ⟨reason, rfl⟩)
  | ok sql =>
    have hiff := create_withOptions_iff (t := bare) h.externalFile h.adapter h.tablespace
      (hbare.trans hcreate)
    rw [← hafter] at hiff
    simpa using hiff

/-- A blank comment, a constraint with a blank tablespace, and a blank external file. -/
def blankTable : Table where
  name := "STOCK"
  columns := [.ofType "ITEM" "INTEGER"]
  constraints := [
    { Constraint.onColumn (some "UQ_ITEM") .unique "ITEM" with tablespace := some "\t" }]
  externalFile := some " "
  comment := some "\n"

/-- Only the file is missed. -/
theorem create_dropsBlanks_stock :
    let others : Table := { blankTable with
      comment := none, constraints := [.onColumn (some "UQ_ITEM") .unique "ITEM"] }
    create {} others = create {} blankTable ∧
      create {} { others with externalFile := none } ≠ create {} blankTable := by
  intro others
  have hcomment : DropsBlank blankTable.comment none := .drop (by decide)
  have hconstraints : List.Forall₂ Constraint.DropsBlank blankTable.constraints
      others.constraints := .cons ⟨.drop (by decide), rfl⟩ .nil
  have hothers : blankTable.DropsBlanks others :=
    ⟨.keep _, .keep _, .keep _, hcomment, hconstraints, rfl⟩
  have hall : blankTable.DropsBlanks { others with externalFile := none } :=
    ⟨.drop (by decide), .keep _, .keep _, hcomment, hconstraints, rfl⟩
  refine ⟨(create_dropsBlanks_iff hothers).2.2 (.inr ⟨rfl, rfl, rfl⟩), fun hsame => ?_⟩
  have hcreate : create {} blankTable = .ok ("CREATE TABLE STOCK\nEXTERNAL FILE '' (" ++
      "\n\tITEM INTEGER,\n\tCONSTRAINT UQ_ITEM UNIQUE (ITEM)\n);\n") := by decide +kernel
  rcases (create_dropsBlanks_iff hall).2.1 hsame with ⟨reason, herror⟩ | ⟨hfile, -⟩
  · exact nomatch hcreate.symm.trans herror
  · exact absurd hfile (by decide)

/-- A tablespace without a name is written as a clause without a name. -/
theorem create_blankTablespace :
    let table : Table := { name := "STOCK", columns := [.ofType "ITEM" "INTEGER"] }
    create {} { table with tablespace := some "" } =
        .ok "CREATE TABLE STOCK (\n\tITEM INTEGER\n)\nTABLESPACE ;\n" ∧
      create {} { table with tablespace := some "" } ≠
        create {} { table with tablespace := none } := by
  intro table
  have hnone : create {} { table with tablespace := none } =
      .ok "CREATE TABLE STOCK (\n\tITEM INTEGER\n);\n" := by decide +kernel
  have hblank : create {} { table with tablespace := some "" } =
      .ok "CREATE TABLE STOCK (\n\tITEM INTEGER\n)\nTABLESPACE ;\n" := by decide +kernel
  refine ⟨hblank, ?_⟩
  rw [hnone, hblank]
  decide

end Table

end SchemaScript
