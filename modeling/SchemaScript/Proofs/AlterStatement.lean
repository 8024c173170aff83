import SchemaScript.AlterStatement
import SchemaScript.Comment

/-! What an altering statement is made of: its clauses in the order in which they were added, and
the statement itself as soon as there is one. Nothing that was added can be taken for the text that
says that there is nothing to change. -/

namespace SchemaScript.AlterStatement

/-- Adding clauses one by one puts those that are there behind the ones before. -/
theorem foldl_addClause (s : AlterStatement) (clauses : List (Option String)) :
    clauses.foldl addClause s = { s with clauses := s.clauses ++ clauses.filterMap id } := by
  induction clauses generalizing s with
  | nil => simp
  | cons clause rest ih =>
    rw [List.foldl_cons, ih]
    cases clause <;> simp [addClause]

theorem text_of_isEmpty_eq_false {s : AlterStatement} (h : s.isEmpty = false) :
    s.text = s.body ++ Text.concat s.trailers := by
  rw [text, h, if_neg (by decide)]

theorem text_of_clauses_ne_nil {s : AlterStatement} (h : s.clauses ≠ []) :
    s.text = s.header ++ Text.concat (s.clauses.map (s.separator ++ ·)) ++ ";\n" ++
      Text.concat s.trailers := by
  have hclauses : s.clauses.isEmpty = false := by simpa using h
  have hsome : s.isEmpty = false := by rw [isEmpty, hclauses, Bool.false_and]
  rw [text_of_isEmpty_eq_false hsome, body, hclauses, if_neg (by decide)]

/-- A statement with its last clause in sight. -/
theorem text_of_clauses_concat {s : AlterStatement} {clauses : List String} {last : String}
    (h : s.clauses = clauses ++ [last]) :
    s.text = s.header ++ Text.concat (clauses.map (s.separator ++ ·)) ++ s.separator ++ last ++
      ";\n" ++ Text.concat s.trailers := by
  rw [text_of_clauses_ne_nil (by simp [h]), h, List.map_append, Text.concat_append]
  simp [String.append_assoc]

/-! ### Nothing to change -/

/-- A statement with clauses has a semicolon behind them, which the fixed text has not. -/
theorem text_ne_noChanges {s : AlterStatement} (h : s.clauses ≠ []) : s.text ≠ noChanges := by
  intro htext
  have hend : ';' ∈ s.text.toList := by
    rw [text_of_clauses_ne_nil h]
    simp
  rw [htext] at hend
  exact absurd hend (by decide)

/-- The fixed text stands for a statement to which nothing was added, unless the trailers of a
statement without clauses spell it. -/
theorem text_eq_noChanges_iff_or {s : AlterStatement} :
    s.text = noChanges ↔
      s.isEmpty = true ∨ s.clauses = [] ∧ Text.concat s.trailers = noChanges := by
  cases hempty : s.isEmpty with
  | true => simp [text, hempty]
  | false =>
    by_cases hclauses : s.clauses = []
    · simp [text_of_isEmpty_eq_false hempty, body, hclauses]
    · simp [text_ne_noChanges hclauses, hclauses]

theorem isEmpty_eq_false_of_text_ne {s : AlterStatement} (h : s.text ≠ noChanges) :
    s.isEmpty = false := by
  cases hempty : s.isEmpty with
  | false => rfl
  | true => exact absurd (by rw [text, hempty, if_pos rfl]) h

/-- The text begins with something else than a comment, as statements do. -/
def IsStatement (text : String) : Prop := ∃ c, text.toList.head? = some c ∧ c ≠ '/'

theorem IsStatement.append {text : String} (h : IsStatement text) (rest : String) :
    IsStatement (text ++ rest) := by
  obtain ⟨c, hc, hne⟩ := h
  exact ⟨c, by rw [String.toList_append, List.head?_append, hc, Option.some_or], hne⟩

theorem IsStatement.ne_noChanges {text : String} (h : IsStatement text) : text ≠ noChanges := by
  rintro rfl
  obtain ⟨c, hc, hne⟩ := h
  exact hne (Option.some.inj hc).symm

theorem isStatement_commentStatement (kind : ObjectKind) (target : String) (text : Option String)
    (delimiter : String) : IsStatement (commentStatement kind target text delimiter) := by
  unfold commentStatement
  exact ⟨'C', by simp, by decide⟩

/-- The fixed text stands for a statement to which nothing was added, and for no other. -/
theorem text_eq_noChanges_iff {s : AlterStatement}
    (htrailers : ∀ trailer ∈ s.trailers, IsStatement trailer) :
    s.text = noChanges ↔ s.clauses = [] ∧ s.trailers = [] := by
  have hempty : s.isEmpty = true ↔ s.clauses = [] ∧ s.trailers = [] := by simp [isEmpty]
  rw [text_eq_noChanges_iff_or, hempty, or_iff_left_iff_imp]
  rintro ⟨hclauses, htext⟩
  refine ⟨hclauses, ?_⟩
  cases hs : s.trailers with
  | nil => rfl
  | cons trailer rest =>
    rw [hs, Text.concat_cons] at htext
    have hfirst := htrailers trailer (by simp [hs])
    exact absurd htext (hfirst.append _).ne_noChanges

end SchemaScript.AlterStatement
