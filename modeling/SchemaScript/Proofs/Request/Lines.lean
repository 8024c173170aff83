import SchemaScript.Proofs.AlterStatement
import SchemaScript.Proofs.StatementError
import SchemaScript.Proofs.Text.Lines
import SchemaScript.Request

/-! Scripts are made of whole lines. The text that stands for a script when there is nothing to
change is the only one that does not end its line. -/

namespace SchemaScript

open Text

variable {d : Dialect} {script : String}

theorem endsLine_newline (front : String) : EndsLine (front ++ "\n") := by
  have hend : EndsLine "\n" := rfl
  exact hend.behind front

theorem endsLine_semicolon (front : String) : EndsLine (front ++ ";\n") := by
  have hend : EndsLine ";\n" := rfl
  exact hend.behind front

/-! ### Comments and changes -/

theorem endsLine_commentStatement (kind : ObjectKind) (target : String) (text : Option String)
    (delimiter : String) : EndsLine (commentStatement kind target text delimiter) := by
  unfold commentStatement
  exact endsLine_newline _

theorem isLines_comment (kind : ObjectKind) (name : String) (text : Option String)
    (delimiter : String) : IsLines (comment d kind name text delimiter) :=
  isLines_optional (fun _ => (endsLine_commentStatement kind _ _ _).isLines) _

theorem isLines_memberComments (owner : String) (kind : ObjectKind) (delimiter : String)
    (members : List Column) : IsLines (memberComments d owner kind delimiter members) := by
  apply isLines_concat
  intro part hpart
  obtain ⟨member, -, rfl⟩ := List.mem_map.1 hpart
  unfold memberComment
  split
  · exact isLines_optional (fun _ => (endsLine_commentStatement kind _ _ _).isLines) _
  · exact isLines_empty

theorem AlterStatement.text_isLines {s : AlterStatement}
    (htrailers : ∀ trailer ∈ s.trailers, IsLines trailer) :
    s.text = noChanges ∨ IsLines s.text := by
  by_cases hclauses : s.clauses = []
  · by_cases hempty : s.trailers = []
    · exact .inl (by simp [text, isEmpty, hclauses, hempty])
    · have htext : s.text = concat s.trailers := by
        simp [text, isEmpty, body, hclauses, hempty]
      exact .inr (htext ▸ isLines_concat htrailers)
  · rw [text_of_clauses_ne_nil hclauses]
    exact .inr ((endsLine_semicolon _).append (isLines_concat htrailers)).isLines

theorem Domain.alterFlagged_isLines {oldName : String} {after : Column} {changes : ChangeFlags}
    (h : alterFlagged d oldName after changes = .ok script) :
    script = noChanges ∨ IsLines script := by
  unfold alterFlagged at h
  split at h
  · contradiction
  · rw [← Except.ok.inj h]
    apply AlterStatement.text_isLines
    intro trailer htrailer
    rw [alterStatement, AlterStatement.foldl_addClause] at htrailer
    split at htrailer
    · obtain rfl : trailer = commentTrailer d oldName after := by
        simpa [AlterStatement.addTrailer] using htrailer
      exact (endsLine_commentStatement _ _ _ _).isLines
    · simp [AlterStatement.addTrailer] at htrailer

theorem Domain.alter_isLines {before after : Column} (h : alter d before after = .ok script) :
    script = noChanges ∨ IsLines script := by
  unfold alter at h
  split at h
  · contradiction
  · exact alterFlagged_isLines h

theorem Domain.alterTracked_isLines {oldName : String} {current : Column}
    (h : alterTracked d oldName current = .ok script) : script = noChanges ∨ IsLines script := by
  unfold alterTracked at h
  split at h
  · contradiction
  · exact alterFlagged_isLines h

theorem User.alter_isLines (before after : User) :
    alter d before after = noChanges ∨ IsLines (alter d before after) := by
  apply AlterStatement.text_isLines
  intro trailer htrailer
  rw [alterStatement, AlterStatement.foldl_addClause] at htrailer
  obtain ⟨-, rfl⟩ : Text.given before.comment ≠ Text.given after.comment ∧
      commentStatement .user (d.identifier before.name) after.comment ";" = trailer := by
    simpa [AlterStatement.addTrailer, commentTrailer?] using htrailer
  exact (endsLine_commentStatement _ _ _ _).isLines

/-! ### Tables and routines -/

theorem Column.isLines_autoincrementScript (table : String) (c : Column) :
    IsLines (c.autoincrementScript d table) := by
  unfold autoincrementScript
  split
  · exact isLines_empty
  split
  · exact isLines_empty
  next auto _ hidentity =>
    have hsequence : ∀ sequence, IsLines (auto.sequenceScript sequence) := by
      intro sequence
      unfold Autoincrement.sequenceScript
      apply isLines_whenTrue
      exact ((endsLine_semicolon _).append
        (isLines_whenTrue (endsLine_semicolon _).isLines)).isLines
    have htrigger : ∀ trigger table column sequence,
        IsLines (Autoincrement.triggerScript trigger table column sequence) := by
      intro trigger table column sequence
      unfold Autoincrement.triggerScript
      exact (endsLine_newline _).isLines
    exact (hsequence _).append (htrigger _ _ _ _)

theorem Table.create_endsLine {t : Table} (h : t.create d = .ok script) : EndsLine script := by
  unfold create at h
  obtain ⟨columns, -, h⟩ := bind_eq_ok_iff.1 h
  obtain ⟨constraints, -, h⟩ := bind_eq_ok_iff.1 h
  obtain ⟨clauses, -, h⟩ := bind_eq_ok_iff.1 h
  rw [← Except.ok.inj h]
  have hnumbered : IsLines (concat (t.columns.map (Column.autoincrementScript d t.name))) := by
    apply isLines_concat
    intro part hpart
    obtain ⟨c, -, rfl⟩ := List.mem_map.1 hpart
    exact Column.isLines_autoincrementScript t.name c
  have hfollowing : IsLines (followingText d t) := by
    unfold followingText
    exact ((isLines_memberComments _ _ _ _).append hnumbered).append (isLines_comment _ _ _ _)
  exact (endsLine_semicolon _).append hfollowing

theorem Domain.create_endsLine {domain : Column} (h : create d domain = .ok script) :
    EndsLine script := by
  unfold create at h
  split at h
  · contradiction
  · rw [← Except.ok.inj h]
    exact (endsLine_semicolon _).append (isLines_comment _ _ _ _)

theorem routineBody_endsLine {security : Option SqlSecurity} {entryPoint engine : Option String}
    {locals : List Column} {body : String}
    (h : routineBody d security entryPoint engine locals body = .ok script) : EndsLine script := by
  unfold routineBody at h
  split at h
  · rw [← Except.ok.inj h]
    exact endsLine_newline _
  · obtain ⟨block, -, h⟩ := bind_eq_ok_iff.1 h
    rw [← Except.ok.inj h]
    exact endsLine_newline _

theorem Procedure.create_endsLine {p : Procedure} (h : p.create d = .ok script) :
    EndsLine script := by
  unfold create at h
  obtain ⟨head, -, h⟩ := bind_eq_ok_iff.1 h
  obtain ⟨outputs, -, h⟩ := bind_eq_ok_iff.1 h
  obtain ⟨body, hbody, h⟩ := bind_eq_ok_iff.1 h
  rw [← Except.ok.inj h]
  exact ((((routineBody_endsLine hbody).behind _).append (isLines_comment _ _ _ _)).append
    (isLines_memberComments _ _ _ _)).append (isLines_memberComments _ _ _ _)

theorem Function.create_endsLine {f : Function} (h : f.create d = .ok script) :
    EndsLine script := by
  unfold create at h
  obtain ⟨head, -, h⟩ := bind_eq_ok_iff.1 h
  obtain ⟨body, hbody, h⟩ := bind_eq_ok_iff.1 h
  rw [← Except.ok.inj h]
  exact (((routineBody_endsLine hbody).behind _).append (isLines_comment _ _ _ _)).append
    (isLines_memberComments _ _ _ _)

/-! ### Other objects -/

theorem Trigger.create_endsLine (t : Trigger) : EndsLine (t.create d) := by
  unfold create
  exact (endsLine_newline _).append (isLines_comment _ _ _ _)

theorem View.create_endsLine (v : View) : EndsLine (v.create d) := by
  unfold create
  exact (endsLine_semicolon _).append (isLines_comment _ _ _ _)

theorem Sequence.create_endsLine (s : Sequence) : EndsLine (s.create d) := by
  unfold create
  refine EndsLine.append ?_ (isLines_comment _ _ _ _)
  split
  · exact endsLine_semicolon _
  · exact endsLine_semicolon _

theorem User.create_endsLine (u : User) : EndsLine (u.create d) := by
  unfold create
  exact (endsLine_semicolon _).append (isLines_comment _ _ _ _)

theorem Collation.create_endsLine (c : Collation) : EndsLine (c.create d) := by
  unfold create
  exact endsLine_semicolon _

theorem Tablespace.create_endsLine (t : Tablespace) : EndsLine (t.create d) := by
  unfold create
  exact endsLine_semicolon _

theorem Job.create_endsLine (j : Job) : EndsLine (j.create d) := by
  unfold create
  exact endsLine_newline _

theorem insertText_endsLine (table fields values : String) :
    EndsLine (insertText d table fields values) := by
  have hend : EndsLine ");\n" := rfl
  unfold insertText
  exact hend.behind _

theorem Insert.statement_endsLine (i : Insert) : EndsLine (i.statement d) :=
  insertText_endsLine _ _ _

theorem InsertPlaceholders.statement_endsLine (i : InsertPlaceholders) :
    EndsLine (i.statement d) :=
  insertText_endsLine _ _ _

theorem Update.statement_endsLine (u : Update) : EndsLine (u.statement d) := by
  unfold statement
  exact endsLine_semicolon _

theorem Select.statement_endsLine (s : Select) : EndsLine (s.statement d) := by
  unfold statement
  exact endsLine_semicolon _

/-! ### Requests -/

theorem Request.script_isLines {request : Request} (h : request.script d = .ok script) :
    script = noChanges ∨ IsLines script := by
  cases request with
  | createTable table => exact .inr (Table.create_endsLine h).isLines
  | createDomain domain => exact .inr (Domain.create_endsLine h).isLines
  | alterDomain edit => exact Domain.alter_isLines h
  | alterDomainTracked tracked => exact Domain.alterTracked_isLines h
  | createProcedure procedure => exact .inr (Procedure.create_endsLine h).isLines
  | createFunction function => exact .inr (Function.create_endsLine h).isLines
  | createTrigger trigger => exact .inr (Except.ok.inj h ▸ trigger.create_endsLine).isLines
  | createView view => exact .inr (Except.ok.inj h ▸ view.create_endsLine).isLines
  | createSequence sequence => exact .inr (Except.ok.inj h ▸ sequence.create_endsLine).isLines
  | createUser user => exact .inr (Except.ok.inj h ▸ user.create_endsLine).isLines
  | alterUser edit => exact Except.ok.inj h ▸ User.alter_isLines edit.before edit.after
  | createCollation collation => exact .inr (Except.ok.inj h ▸ collation.create_endsLine).isLines
  | createTablespace tablespace =>
    exact .inr (Except.ok.inj h ▸ tablespace.create_endsLine).isLines
  | createJob job => exact .inr (Except.ok.inj h ▸ job.create_endsLine).isLines
  | insert rows => exact .inr (Except.ok.inj h ▸ rows.statement_endsLine).isLines
  | insertPlaceholders rows => exact .inr (Except.ok.inj h ▸ rows.statement_endsLine).isLines
  | update rows => exact .inr (Except.ok.inj h ▸ rows.statement_endsLine).isLines
  | select rows => exact .inr (Except.ok.inj h ▸ rows.statement_endsLine).isLines
  | comment request => exact .inr (Except.ok.inj h ▸ isLines_comment _ _ _ _)
  | generateName request => exact .inr (Except.ok.inj h ▸ endsLine_newline _).isLines

end SchemaScript
