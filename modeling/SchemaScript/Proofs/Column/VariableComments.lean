import SchemaScript.Proofs.Column.ParameterList
import SchemaScript.Proofs.Column.TypeText
import SchemaScript.Proofs.Dialect.Token
import SchemaScript.Proofs.Text.Lexemes

/-! Descriptions of local variables as comments. They are written as they come, so a block of
variables has the descriptions for comments exactly when none of them holds its own end; then they
leave no trace in the code. -/

namespace SchemaScript.Column

open Text (IsCode Lexeme codeOf commentsOf lexemesFrom tokens)

variable {d : Dialect} {c : Column} {name : String} {rows : List Column}

/-! ### Names -/

theorem isMarkChar_of_isSafeChar {char : Char} (h : Dialect.isSafeChar char = true) :
    Text.isMarkChar char = false := by
  rw [← Bool.not_eq_true, Text.isMarkChar]
  simp only [Bool.or_eq_true, beq_iff_eq]
  rintro ((rfl | rfl) | rfl) <;> exact absurd h (by decide)

theorem isMarkChar_of_isRegular (h : Dialect.isRegular name = true) :
    ∀ char ∈ name.toList, Text.isMarkChar char = false :=
  fun char hchar => isMarkChar_of_isSafeChar (Dialect.isSafeChar_of_isRegular h char hchar)

theorem exists_visible_of_isRegular (h : Dialect.isRegular name = true) :
    ∃ char ∈ name.toList, Text.isBlankChar char = false := by
  obtain ⟨first, rest, hlist, hcapital, -⟩ := Dialect.isRegular_iff.1 h
  have hrange : 65 ≤ first.toNat ∧ first.toNat ≤ 90 := by
    simpa [Char.le_def, UInt32.le_iff_toNat_le] using hcapital
  refine ⟨first, by simp [hlist], ?_⟩
  simp [Text.isBlankChar]
  omega

/-- The quotes may begin or end a mark of a comment, but neither stands next to another character
that does. -/
theorem isCode_quotedBy {mark : Char} {text : String} {tail : List Char} (hne : text.toList ≠ [])
    (htext : ∀ char ∈ text.toList, Text.isMarkChar char = false) (htail : IsCode (' ' :: tail)) :
    IsCode ((Text.quotedBy mark text).toList ++ ' ' :: tail) := by
  have hdoubled : ∀ char ∈ Text.doubleMarks mark text.toList, Text.isMarkChar char = false :=
    fun char hchar => htext char (by_contra fun hnot => Text.notMem_doubleMarks hnot hchar)
  have hclosed : IsCode (Text.doubleMarks mark text.toList ++ mark :: ' ' :: tail) :=
    (Text.isCode_of_forall hdoubled).append (htail.cons (by decide) mark)
  obtain ⟨first, others, hlist⟩ : ∃ first others,
      Text.doubleMarks mark text.toList = first :: others := by
    obtain ⟨char, hchar⟩ := List.exists_mem_of_ne_nil _ hne
    exact List.exists_cons_of_ne_nil (List.ne_nil_of_mem (Text.mem_doubleMarks hchar))
  rw [Text.quotedBy, String.toList_ofList, List.cons_append, List.append_assoc, hlist]
  rw [hlist] at hclosed hdoubled
  exact hclosed.cons (hdoubled first List.mem_cons_self) mark

/-- A regular name is code in front of a blank, with quotes or without. -/
theorem isCode_identifier (h : Dialect.isRegular name = true) {tail : List Char}
    (htail : IsCode (' ' :: tail)) : IsCode ((d.identifier name).toList ++ ' ' :: tail) := by
  have hmarks := isMarkChar_of_isRegular h
  have hplain : IsCode (name.toList ++ ' ' :: tail) := (Text.isCode_of_forall hmarks).append htail
  cases hquoted : d.isQuoted name with
  | true => rwa [Dialect.identifier_of_isQuoted hquoted]
  | false =>
    rcases Dialect.identifier_eq_or hquoted with hname | hname
    · rwa [hname]
    · obtain ⟨char, hchar, -⟩ := exists_visible_of_isRegular h
      rw [hname]
      exact isCode_quotedBy (List.ne_nil_of_mem hchar) hmarks htail

/-! ### Declarations -/

/-- What a variable has behind its type. -/
def clauses (c : Column) : String :=
  Text.trimEnd (c.notNullClause ++ Text.whenTrue (c.direction ≠ .output) c.defaultClause ++
    c.checkClause)

/-- A variable of type `INTEGER` under a name that is safe without quotes. A default or a check that
it may have does not bring comments of its own. -/
structure IsIntegerVariable (d : Dialect) (c : Column) : Prop where
  name : d.isSafeUnquoted c.label = true
  plain : c.cursor = none
  computedBy : c.computedBy? = none
  type : c.parameterType d = "INTEGER"
  clauses : IsCode c.clauses.toList

def undescribed (c : Column) : Column := { c with description := none }

def describedAs (c : Column) (text : String) (lineComment : Bool) : Column :=
  { c with description := some text, lineComment }

/-- The row of a variable without its comment. -/
def declaration (d : Dialect) (c : Column) : String :=
  "DECLARE " ++ (d.identifier c.label ++ " INTEGER" ++ c.clauses) ++ ";"

@[simp] theorem declaration_undescribed (d : Dialect) (c : Column) :
    declaration d c.undescribed = declaration d c := rfl

@[simp] theorem declaration_describedAs (d : Dialect) (c : Column) (text : String)
    (lineComment : Bool) : declaration d (c.describedAs text lineComment) = declaration d c := rfl

theorem isCode_clauses (hdefault : c.default.text? = none) (hcheck : c.check? = none) :
    IsCode c.clauses.toList := by
  have hclause : Text.whenTrue (c.direction ≠ .output) c.defaultClause = "" := by
    rw [defaultClause, hdefault]
    cases c.direction <;> rfl
  rw [clauses, notNullClause, hclause, checkClause, hcheck]
  cases c.notNull <;> exact Text.isCode_of_any_eq_false (by decide)

/-- What is said of a variable is no part of its declaration. -/
theorem IsIntegerVariable.of_described (h : c.IsIntegerVariable d) (description : Option String)
    (lineComment : Bool) : IsIntegerVariable d { c with description, lineComment } := by
  have htext : typeText d { c with description, lineComment } = c.typeText d :=
    typeText_congr rfl rfl rfl
  have htype : parameterType d { c with description, lineComment } = c.parameterType d := by
    rw [parameterType, htext]
    rfl
  exact ⟨h.name, h.plain, h.computedBy, htype.trans h.type, h.clauses⟩

theorem IsIntegerVariable.undescribed (h : c.IsIntegerVariable d) :
    c.undescribed.IsIntegerVariable d := h.of_described none c.lineComment

theorem IsIntegerVariable.describedAs (h : c.IsIntegerVariable d) (text : String)
    (lineComment : Bool) : (c.describedAs text lineComment).IsIntegerVariable d :=
  h.of_described (some text) lineComment

theorem isIntegerVariable_ofType (h : d.isSafeUnquoted name = true) :
    (ofType name "INTEGER").IsIntegerVariable d := by
  have htype : (ofType name "INTEGER").typeText d = (ofType "" "INTEGER").typeText {} :=
    typeText_congr rfl rfl rfl
  exact ⟨h, rfl, rfl, htype.trans (by decide +kernel), isCode_clauses rfl rfl⟩

theorem IsIntegerVariable.isRegular (h : c.IsIntegerVariable d) :
    Dialect.isRegular c.label = true := (Bool.and_eq_true _ _ ▸ h.name).1

theorem isCode_declaration (h : c.IsIntegerVariable d) : IsCode (declaration d c).toList := by
  have htype : IsCode " INTEGER".toList := Text.isCode_of_any_eq_false (by decide)
  have hend : IsCode ";".toList := Text.isCode_of_any_eq_false (by decide)
  have hstart : IsCode "DECLARE ".toList := Text.isCode_of_any_eq_false (by decide)
  have hidentifier := isCode_identifier (d := d) h.isRegular (htype.append (h.clauses.append hend))
  simp only [declaration, String.toList_append, List.append_assoc]
  exact hstart.append hidentifier

theorem parameterText_eq (h : c.IsIntegerVariable d) :
    c.parameterText d = d.identifier c.label ++ " INTEGER" ++ c.clauses := by
  have hlast : (d.identifier c.label ++ " INTEGER").toList.getLast? = some 'R' := by simp
  rw [clauses, ← Text.trimEnd_append hlast (by decide), parameterText, h.computedBy, h.type]
  simp only [String.append_assoc]
  rfl

theorem variableRow_eq (h : c.IsIntegerVariable d) :
    c.variableRow d = declaration d c ++ c.variableComment ++ "\n" := by
  rw [variableRow, h.plain, declaration, ← parameterText_eq h]

theorem not_isBadRow (h : c.IsIntegerVariable d) : ¬c.IsBadRow := by
  rintro ⟨-, ⟨cursor, hcursor, -⟩ | ⟨-, hcomputed, -⟩⟩
  · exact nomatch h.plain.symm.trans hcursor
  · exact isNone_computedBy?_iff.1 (by rw [h.computedBy]; rfl) hcomputed

theorem IsIntegerVariable.hasName (h : c.IsIntegerVariable d) : c.hasName = true := by
  obtain ⟨char, hchar, hvisible⟩ := exists_visible_of_isRegular h.isRegular
  rw [Column.hasName]
  cases hname : c.name with
  | none => simp [label, hname] at hchar
  | some name =>
    rw [label, hname, Option.getD_some] at hchar
    have hblank : Text.isBlank name = false := List.all_eq_false.2 ⟨char, hchar, by simp [hvisible]⟩
    rw [Text.given_eq_some.2 ⟨rfl, hblank⟩, Option.isSome_some]

/-! ### Comments -/

/-- The description as a comment of its kind. -/
def descriptionComment (c : Column) : Option (Bool × List Char) :=
  c.description?.map fun text => (c.lineComment, text.toList)

/-- The description does not hold the end of its comment. -/
def KeepsComment (c : Column) : Prop :=
  ∀ text, c.description? = some text → ¬Text.HoldsEnd c.lineComment text.toList

theorem keepsComment_describedAs {text : String} {lineComment : Bool}
    (h : ¬Text.HoldsEnd lineComment text.toList) :
    (c.describedAs text lineComment).KeepsComment := by
  intro other hother
  obtain ⟨hsame, -⟩ := Text.given_eq_some.1 hother
  rwa [← Option.some.inj hsame]

/-- What is read of a row, if its description keeps to its comment. -/
def rowLexemes (d : Dialect) (c : Column) : List Lexeme :=
  (declaration d c).toList.map .code ++
    (match c.descriptionComment with
      | none => []
      | some (line, text) => [.code ' ', .comment line text]) ++
    [.code '\n']

theorem toList_variableComment {text : String} (h : c.description? = some text) :
    c.variableComment.toList = ' ' :: Text.commentText c.lineComment text.toList := by
  rw [variableComment, h, Text.optional_some]
  cases c.lineComment <;> simp [Text.commentText]

theorem lexemesFrom_row (h : c.IsIntegerVariable d) (hkeeps : c.KeepsComment) (rest : List Char) :
    lexemesFrom .outside ((c.variableRow d).toList ++ rest) =
      rowLexemes d c ++ lexemesFrom .outside rest := by
  have hblank : ∀ rest, lexemesFrom .outside (' ' :: rest) =
      .code ' ' :: lexemesFrom .outside rest :=
    fun rest => Text.lexemesFrom_outside_cons (by simp [Text.Opens])
  have hline : ∀ rest, lexemesFrom .outside ('\n' :: rest) =
      .code '\n' :: lexemesFrom .outside rest :=
    fun rest => Text.lexemesFrom_outside_cons (by simp [Text.Opens])
  rw [variableRow_eq h, String.toList_append, String.toList_append, List.append_assoc,
    List.append_assoc, isCode_declaration h, rowLexemes, descriptionComment]
  cases hdescription : c.description? with
  | none =>
    have hnone : c.variableComment.toList = [] := by rw [variableComment, hdescription]; rfl
    simp [hnone, hline]
  | some text =>
    have hcomment := Text.lexemesFrom_comment (hkeeps text hdescription) rest
    simp [toList_variableComment hdescription, hblank, hcomment]

/-- A description that holds the end of its comment is cut there. -/
theorem exists_lexemesFrom_row (h : c.IsIntegerVariable d) (hkeeps : ¬c.KeepsComment)
    (rest : List Char) :
    ∃ text front after, c.description? = some text ∧ front <+: text.toList ∧ front ≠ text.toList ∧
      lexemesFrom .outside ((c.variableRow d).toList ++ rest) =
        (declaration d c).toList.map .code ++
          .code ' ' :: .comment c.lineComment front :: lexemesFrom .outside after := by
  simp only [KeepsComment, not_forall, not_not] at hkeeps
  obtain ⟨text, hdescription, hholds⟩ := hkeeps
  obtain ⟨front, after, hprefix, hne, hcut⟩ := Text.exists_lexemesFrom_of_holdsEnd hholds rest
  refine ⟨text, front, after, hdescription, hprefix, hne, ?_⟩
  rw [variableRow_eq h, String.toList_append, String.toList_append, List.append_assoc,
    List.append_assoc, isCode_declaration h, toList_variableComment hdescription, List.cons_append,
    Text.lexemesFrom_outside_cons (by simp [Text.Opens]), ← hcut]
  rfl

theorem commentsOf_rowLexemes (d : Dialect) (c : Column) :
    commentsOf (rowLexemes d c) = c.descriptionComment.toList := by
  rw [rowLexemes, Text.commentsOf_append, Text.commentsOf_append, Text.commentsOf_map_code]
  cases c.descriptionComment <;> rfl

/-- A comment leaves a blank behind at the end of its row. -/
theorem codeOf_rowLexemes (d : Dialect) (c : Column) :
    codeOf (rowLexemes d c) =
      (declaration d c).toList ++ (if c.descriptionComment.isSome then [' '] else []) ++
        ['\n'] := by
  rw [rowLexemes, Text.codeOf_append, Text.codeOf_append, Text.codeOf_map_code]
  cases c.descriptionComment <;> rfl

/-! ### Blocks -/

def blockText (d : Dialect) (rows : List Column) : String :=
  Text.concat (rows.map (variableRow d))

theorem variableBlock_eq (h : ∀ c ∈ rows, c.IsIntegerVariable d) :
    variableBlock d rows = .ok (blockText d rows) := by
  have hnamed : rows.filter (·.hasName) = rows := List.filter_eq_self.2 fun c hc => (h c hc).hasName
  rw [variableBlock, writeRows_eq_ok_iff, hnamed]
  exact ⟨fun c hc => not_isBadRow (h c hc), rfl⟩

theorem variableBlock_singleton (h : c.IsIntegerVariable d) :
    variableBlock d [c] = .ok (declaration d c ++ c.variableComment ++ "\n") := by
  rw [variableBlock_eq (List.forall_mem_singleton.2 h), blockText, List.map_singleton,
    variableRow_eq h, Text.concat_cons, Text.concat_nil, String.append_empty]

/-- The descriptions are what is read as comments exactly when each keeps to its own. -/
theorem commentsOf_blockText_iff (h : ∀ c ∈ rows, c.IsIntegerVariable d) :
    commentsOf (Text.lexemes (blockText d rows)) = rows.filterMap descriptionComment ↔
      ∀ c ∈ rows, c.KeepsComment := by
  unfold Text.lexemes blockText
  induction rows with
  | nil => simp [commentsOf, lexemesFrom]
  | cons c rows ih =>
    obtain ⟨hc, hrows⟩ := List.forall_mem_cons.1 h
    rw [List.map_cons, Text.concat_cons, String.toList_append, List.forall_mem_cons]
    by_cases hkeeps : c.KeepsComment
    · have hfilter : (c :: rows).filterMap descriptionComment =
          c.descriptionComment.toList ++ rows.filterMap descriptionComment := by
        rw [List.filterMap_cons]
        cases c.descriptionComment <;> rfl
      rw [lexemesFrom_row hc hkeeps, Text.commentsOf_append, commentsOf_rowLexemes, hfilter,
        List.append_cancel_left_eq, ih hrows, and_iff_right hkeeps]
    · -- The first comment that is cut is not the description it comes from, whatever follows it.
      obtain ⟨text, front, after, hdescription, -, hne, hcut⟩ := exists_lexemesFrom_row hc hkeeps
        (Text.concat (rows.map (variableRow d))).toList
      have hown : c.descriptionComment = some (c.lineComment, text.toList) := by
        rw [descriptionComment, hdescription, Option.map_some]
      rw [hcut, Text.commentsOf_append, Text.commentsOf_map_code, List.nil_append,
        Text.commentsOf_code_cons, Text.commentsOf_comment_cons, List.filterMap_cons_some hown]
      refine iff_of_false (fun hsame => ?_) fun hall => hkeeps hall.1
      exact hne (Prod.ext_iff.1 (List.cons.inj hsame).1).2

theorem tokens_row (d : Dialect) (c : Column) {code bare : List Char}
    (h : tokens code = tokens bare) :
    tokens (codeOf (rowLexemes d c) ++ code) =
      tokens ((declaration d c).toList ++ '\n' :: bare) := by
  have hline : ∀ rest, tokens ('\n' :: rest) = tokens rest := Text.tokens_blank rfl rfl
  rw [codeOf_rowLexemes, List.append_assoc, List.singleton_append,
    Text.tokens_append_cons rfl, Text.tokens_append_cons rfl, hline, hline, h]
  split
  · rw [Text.tokens_append_cons rfl, Text.tokens_blank rfl rfl]
    simp [tokens]
  · rw [List.append_nil]

theorem tokens_codeOf_blockText (h : ∀ c ∈ rows, c.IsIntegerVariable d)
    (hkeeps : ∀ c ∈ rows, c.KeepsComment) :
    tokens (codeOf (Text.lexemes (blockText d rows))) =
      tokens (blockText d (rows.map undescribed)).toList := by
  unfold Text.lexemes blockText
  induction rows with
  | nil => rfl
  | cons c rows ih =>
    obtain ⟨hc, hrows⟩ := List.forall_mem_cons.1 h
    obtain ⟨hfirst, hrest⟩ := List.forall_mem_cons.1 hkeeps
    have hbare : c.undescribed.variableRow d = declaration d c ++ "\n" := by
      have hnone : c.undescribed.variableComment = "" := rfl
      rw [variableRow_eq (hc.undescribed), hnone, String.append_empty]
      rfl
    rw [List.map_cons, Text.concat_cons, String.toList_append, lexemesFrom_row hc hfirst,
      Text.codeOf_append, tokens_row d c (ih hrows hrest), List.map_cons, List.map_cons,
      Text.concat_cons, hbare]
    simp

/-- A block of integer variables can be written. What is read of it as comments is the descriptions,
each whole and in order, exactly when no description holds the end of its own comment, which is a
new line behind two dashes and `*/` behind `/*`. Then the tokens of its code are those of the block
without descriptions. -/
theorem variableBlock_comments_iff (h : ∀ c ∈ rows, c.IsIntegerVariable d) :
    ∃ block bare, variableBlock d rows = .ok block ∧
      variableBlock d (rows.map undescribed) = .ok bare ∧
      (commentsOf (Text.lexemes block) = rows.filterMap descriptionComment ↔
        ∀ c ∈ rows, c.KeepsComment) ∧
      ((∀ c ∈ rows, c.KeepsComment) →
        tokens (codeOf (Text.lexemes block)) = tokens bare.toList) := by
  have hbare : ∀ c ∈ rows.map undescribed, c.IsIntegerVariable d := by
    intro c hc
    obtain ⟨own, hown, rfl⟩ := List.mem_map.1 hc
    exact (h own hown).undescribed
  exact ⟨_, _, variableBlock_eq h, variableBlock_eq hbare, commentsOf_blockText_iff h,
    tokens_codeOf_blockText h⟩

/-- A counter that is described up to the end of its line, and a total between marks. -/
def describedVariables : List Column :=
  [(ofType "CNT" "INTEGER").describedAs "rows seen */ so far" true,
    (ofType "TOTAL" "INTEGER").describedAs "sum\n-- of all" false]

/-- The end of one kind of comment does no harm in the other. -/
theorem variableBlock_comments_described :
    (∀ c ∈ describedVariables, c.IsIntegerVariable {}) ∧
      ∃ block bare, variableBlock {} describedVariables = .ok block ∧
        variableBlock {} (describedVariables.map undescribed) = .ok bare ∧
        commentsOf (Text.lexemes block) = [(true, "rows seen */ so far".toList),
          (false, "sum\n-- of all".toList)] ∧
        tokens (codeOf (Text.lexemes block)) = tokens bare.toList := by
  have hrows : ∀ c ∈ describedVariables, c.IsIntegerVariable {} := by
    rw [describedVariables, List.forall_mem_cons, List.forall_mem_singleton]
    exact ⟨(isIntegerVariable_ofType (by decide +kernel)).describedAs _ _,
      (isIntegerVariable_ofType (by decide +kernel)).describedAs _ _⟩
  have hkeeps : ∀ c ∈ describedVariables, c.KeepsComment := by
    rw [describedVariables, List.forall_mem_cons, List.forall_mem_singleton]
    exact ⟨keepsComment_describedAs (by decide +kernel), keepsComment_describedAs (by decide +kernel)⟩
  obtain ⟨block, bare, hblock, hbare, hcomments, htokens⟩ := variableBlock_comments_iff hrows
  refine ⟨hrows, block, bare, hblock, hbare, ?_, htokens hkeeps⟩
  rw [hcomments.2 hkeeps]
  decide +kernel

/-- The second line of a description becomes code, and so does what is behind a mark in it. -/
theorem variableBlock_leaks :
    let lines := (ofType "CNT" "INTEGER").describedAs "rows seen\nand counted" true
    let marked := (ofType "CNT" "INTEGER").describedAs "files in logs/*/lost" false
    let bare := "DECLARE CNT INTEGER;\n"
    (lines.IsIntegerVariable {} ∧ marked.IsIntegerVariable {}) ∧
      (variableBlock {} [lines.undescribed] = .ok bare ∧
        variableBlock {} [marked.undescribed] = .ok bare) ∧
      (∃ block, variableBlock {} [lines] = .ok block ∧
        tokens (codeOf (Text.lexemes block)) =
          tokens bare.toList ++ ["and".toList, "counted".toList]) ∧
      ∃ block, variableBlock {} [marked] = .ok block ∧
        tokens (codeOf (Text.lexemes block)) =
          tokens bare.toList ++ ["lost".toList, ['*'], ['/']] := by
  intro lines marked bare
  have hcounter : (ofType "CNT" "INTEGER").IsIntegerVariable {} :=
    isIntegerVariable_ofType (by decide +kernel)
  have hdeclaration : declaration {} (ofType "CNT" "INTEGER") = "DECLARE CNT INTEGER;" := by
    decide +kernel
  have hlines : lines.IsIntegerVariable {} := hcounter.describedAs _ _
  have hmarked : marked.IsIntegerVariable {} := hcounter.describedAs _ _
  refine ⟨⟨hlines, hmarked⟩, ⟨?_, ?_⟩, ⟨_, variableBlock_singleton hlines, ?_⟩,
    ⟨_, variableBlock_singleton hmarked, ?_⟩⟩
  · rw [variableBlock_singleton hlines.undescribed, declaration_undescribed,
      declaration_describedAs, hdeclaration]
    rfl
  · rw [variableBlock_singleton hmarked.undescribed, declaration_undescribed,
      declaration_describedAs, hdeclaration]
    rfl
  · rw [declaration_describedAs, hdeclaration]
    decide +kernel
  · rw [declaration_describedAs, hdeclaration]
    decide +kernel

end SchemaScript.Column
