import SchemaScript.Constraint
import SchemaScript.Proofs.Dialect.Token
import SchemaScript.Proofs.Text.Blank
import SchemaScript.Proofs.Text.Pieces
import SchemaScript.RowStatement

/-! Lists of names read back. A name that comes without quotes is written in one piece, whatever is in
it: a regular name has no comma or parenthesis, and in any other name they stand inside quotes. So the
columns of a constraint, and those of an insert, can be told apart again by their commas. -/

namespace SchemaScript.Dialect

open Text

/-- The names in a list with commas in between, without the quotes of those that have them. -/
def readNames (list : String) : Option (List String) :=
  (pieces '"' ',' list).mapM (unquoted '"')

/-- There are names, none of them empty, and none comes with quotes. -/
structure BareNames (d : Dialect) (names : List String) : Prop where
  ne_nil : names ≠ []
  bare : ∀ name ∈ names, name ≠ "" ∧ d.isQuoted name = false

/-- Whatever no comma cuts is told apart by the commas in between. -/
theorem pieces_commas {parts : List String} (hne : parts ≠ [])
    (h : ∀ part ∈ parts, Uncut '"' ',' part) : pieces '"' ',' (separatedBy "," parts) = parts := by
  have hcomma : "," = String.singleton ',' := rfl
  rw [hcomma, pieces_separatedBy (by decide) hne h]

section

variable {d : Dialect} {name : String} (hquote : d.quote = '"')
include hquote

/-! ### Single names -/

theorem unquoted_identifier (hname : name ≠ "") (h : d.isQuoted name = false) :
    unquoted '"' (d.identifier name) = some name := by
  rcases identifier_of_isQuoted_eq_false hname h with ⟨hplain, hsame⟩ | ⟨-, hquoted⟩
  · -- A regular name begins with a capital, so nothing is taken off it.
    rw [hsame]
    obtain ⟨first, rest, htext, hfirst, -⟩ := hplain.regular
    refine unquoted_of_head?_ne ?_
    rw [htext, List.head?_cons, Ne, Option.some.injEq]
    rintro rfl
    exact absurd hfirst (by decide)
  · rw [isQuotation_iff.1 hquoted, hquote]
    exact unquoted_quotedBy '"' name

theorem uncut_identifier {separator : Char} (hseparator : isSafeChar separator = false)
    (hname : name ≠ "") (h : d.isQuoted name = false) :
    Uncut '"' separator (d.identifier name) := by
  rcases identifier_of_isQuoted_eq_false hname h with ⟨hplain, hsame⟩ | ⟨-, hquoted⟩
  · have hsafe := isSafeChar_of_isRegular (isRegular_iff.2 hplain.regular)
    rw [hsame]
    refine uncut_of_notMem (fun hmem => ?_) fun hmem => ?_
    · exact absurd (hsafe _ hmem) (by decide)
    · exact absurd (hsafe _ hmem) (by simp [hseparator])
  · rw [isQuotation_iff.1 hquoted, hquote]
    exact uncut_quotedBy '"' separator name

/-! ### Lists -/

theorem mapM_unquoted_identifier {names : List String}
    (h : ∀ name ∈ names, name ≠ "" ∧ d.isQuoted name = false) :
    (names.map d.identifier).mapM (unquoted '"') = some names := by
  induction names with
  | nil => rfl
  | cons name rest ih =>
    obtain ⟨hname, hrest⟩ := List.forall_mem_cons.1 h
    rw [List.map_cons, List.mapM_cons, unquoted_identifier hquote hname.1 hname.2, ih hrest]
    rfl

theorem uncut_of_mem_identifiers {separator : Char} (hseparator : isSafeChar separator = false)
    {names : List String} (h : d.BareNames names) :
    ∀ part ∈ names.map d.identifier, Uncut '"' separator part := by
  intro part hpart
  obtain ⟨name, hmem, rfl⟩ := List.mem_map.1 hpart
  obtain ⟨hname, hbare⟩ := h.bare name hmem
  exact uncut_identifier hquote hseparator hname hbare

theorem readNames_identifiers {names : List String} (h : d.BareNames names) :
    readNames (d.identifiers names) = some names := by
  have hcommas := pieces_commas (by simpa using h.ne_nil)
    (uncut_of_mem_identifiers hquote (by decide) h)
  rw [readNames, identifiers, hcommas, mapM_unquoted_identifier hquote h.bare]

end

/-! ### Rows with values that are bound later -/

theorem uncut_commas {parts : List String} (h : ∀ part ∈ parts, Uncut '"' ')' part) :
    Uncut '"' ')' (separatedBy "," parts) :=
  uncut_compositional.separatedBy (uncut_of_notMem (by decide) (by decide)) h

theorem uncut_of_mem_marks {separator : Char} (h : separator ≠ '?') (columns : List String) :
    ∀ part ∈ columns.map fun _ => "?", Uncut '"' separator part := by
  intro part hpart
  obtain ⟨_, -, rfl⟩ := List.mem_map.1 hpart
  exact uncut_of_notMem (by decide) (by simpa using h)

/-- The fields of the statement, its values and its end are told apart by the parentheses that stand
outside quotes. -/
theorem pieces_insert {fields values : String} (hfields : Uncut '"' ')' fields)
    (hvalues : Uncut '"' ')' values) :
    pieces '"' ')' (fields ++ ") VALUES (" ++ values ++ ");\n") =
      [fields, " VALUES (" ++ values, ";\n"] := by
  have hopening : Uncut '"' ')' " VALUES (" := uncut_of_notMem (by decide) (by decide)
  have hend : Uncut '"' ')' ";\n" := uncut_of_notMem (by decide) (by decide)
  have hparts : fields ++ ") VALUES (" ++ values ++ ");\n" =
      separatedBy (.singleton ')') [fields, " VALUES (" ++ values, ";\n"] := by
    have hmiddle : ") VALUES (" = .singleton ')' ++ " VALUES (" := by decide
    have hlast : ");\n" = .singleton ')' ++ ";\n" := by decide
    rw [hmiddle, hlast]
    simp only [separatedBy, String.append_assoc]
  rw [hparts]
  refine pieces_separatedBy (by decide) (by simp) ?_
  simpa using ⟨hfields, uncut_compositional.append hopening hvalues, hend⟩

theorem bareNames_trim {d : Dialect} {columns : List String} (hne : columns ≠ [])
    (h : ∀ column ∈ columns, isBlank column = false ∧ d.isQuoted (trim column) = false) :
    d.BareNames (columns.map trim) := by
  refine ⟨by simpa using hne, fun name hname => ?_⟩
  obtain ⟨column, hcolumn, rfl⟩ := List.mem_map.1 hname
  obtain ⟨hblank, hbare⟩ := h column hcolumn
  refine ⟨fun hempty => ?_, hbare⟩
  exact Bool.false_ne_true (hblank.symm.trans ((trim_eq_empty_iff column).1 hempty))

/-- The names of a constraint's columns, and of those it refers to, are read back from their list one
by one. In an insert whose values are bound later, the list up to the first parenthesis that closes
outside quotes gives back the trimmed columns, and the values are one mark for each of them. -/
theorem nameLists_readBack {d : Dialect} (hquote : d.quote = '"') :
    (∀ c : Constraint, d.BareNames c.columns → readNames (c.columnText d) = some c.columns) ∧
    (∀ c : Constraint, d.BareNames c.refColumns →
      readNames (c.refColumnText d) = some c.refColumns) ∧
    ∀ i : InsertPlaceholders, i.columns ≠ [] →
      (∀ column ∈ i.columns, isBlank column = false ∧ d.isQuoted (trim column) = false) →
      ∃ rest names marks,
        i.statement d = "INSERT INTO " ++ d.identifier (trim i.table) ++ " (" ++ rest ∧
        pieces '"' ')' rest = [names, " VALUES (" ++ marks, ";\n"] ∧
        readNames names = some (i.columns.map trim) ∧
        pieces '"' ',' marks = List.replicate i.columns.length "?" := by
  refine ⟨fun c => readNames_identifiers hquote, fun c => readNames_identifiers hquote, ?_⟩
  intro i hne hcolumns
  have hnames := bareNames_trim hne hcolumns
  have hfields := uncut_commas (uncut_of_mem_identifiers hquote (by decide) hnames)
  have hvalues := uncut_commas (uncut_of_mem_marks (by decide) i.columns)
  refine ⟨_, d.identifiers (i.columns.map trim), separatedBy "," (i.columns.map fun _ => "?"),
    ?_, pieces_insert hfields hvalues, readNames_identifiers hquote hnames, ?_⟩
  · unfold InsertPlaceholders.statement insertText
    simp only [String.append_assoc]
  · rw [pieces_commas (by simpa using hne) (uncut_of_mem_marks (by decide) i.columns),
      List.map_const']

/-- Names with commas, parentheses, quotes and marks in them, and columns with blanks around them. -/
theorem nameLists_readBack_awkward :
    let c : Constraint := { columns := ["A,B", "say\"hi\",", "ID"], refColumns := [")", "\""] }
    let i : InsertPlaceholders := { table := "PRICES", columns := [" a),(? ", "DATE", "ITEM"] }
    BareNames {} c.columns ∧ readNames (c.columnText {}) = some c.columns ∧
    BareNames {} c.refColumns ∧ readNames (c.refColumnText {}) = some c.refColumns ∧
    ∃ rest names marks, i.statement {} = "INSERT INTO PRICES (" ++ rest ∧
      pieces '"' ')' rest = [names, " VALUES (" ++ marks, ";\n"] ∧
      readNames names = some ["a),(?", "DATE", "ITEM"] ∧ pieces '"' ',' marks = ["?", "?", "?"] := by
  intro c i
  have hcolumns : BareNames {} c.columns := ⟨by decide, by decide⟩
  have hrefColumns : BareNames {} c.refColumns := ⟨by decide, by decide⟩
  obtain ⟨hread, hrefRead, hinsert⟩ := @nameLists_readBack {} rfl
  refine ⟨hcolumns, hread c hcolumns, hrefColumns, hrefRead c hrefColumns, ?_⟩
  obtain ⟨rest, names, marks, hstatement, hpieces, hnames, hmarks⟩ :=
    hinsert i (by decide) (by decide +kernel)
  have htable : "INSERT INTO " ++ identifier {} (trim i.table) ++ " (" = "INSERT INTO PRICES (" := by
    decide +kernel
  rw [htable] at hstatement
  have htrim : i.columns.map trim = ["a),(?", "DATE", "ITEM"] := by decide +kernel
  exact ⟨rest, names, marks, hstatement, hpieces, htrim ▸ hnames, hmarks⟩

end SchemaScript.Dialect
