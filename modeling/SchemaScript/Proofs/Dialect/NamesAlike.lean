import SchemaScript.Request

/-! Dialects that write every name alike. A statement reads its dialect through the names in it and,
for a view or a sequence, through the version's side of the threshold; so two such dialects give the
same script for whatever reads no more than that. One lemma for each part of a script leads from the
names to the whole; each is an equality of functions, to be used under `map` and `mapM` as well. -/

namespace SchemaScript

structure Dialect.NamesAlike (d e : Dialect) : Prop where
  identifier : d.identifier = e.identifier

namespace Dialect.NamesAlike

variable {d e : Dialect} (h : d.NamesAlike e)
include h

theorem identifiers : d.identifiers = e.identifiers := by
  funext names
  unfold Dialect.identifiers
  rw [h.identifier]

/-! ### Comments -/

theorem comment : SchemaScript.comment d = SchemaScript.comment e := by
  funext kind name text delimiter
  unfold SchemaScript.comment
  rw [h.identifier]

theorem memberComments : SchemaScript.memberComments d = SchemaScript.memberComments e := by
  have hmember : memberComment d = memberComment e := by
    funext owner kind delimiter member
    unfold memberComment
    rw [h.identifier]
  funext owner kind delimiter members
  unfold SchemaScript.memberComments
  rw [hmember]

/-! ### Columns -/

theorem domainText : Column.domainText d = Column.domainText e := by
  funext c
  unfold Column.domainText
  rw [h.identifier]

theorem typeText : Column.typeText d = Column.typeText e := by
  funext c
  unfold Column.typeText
  rw [h.domainText, h.identifier]

theorem parameterType : Column.parameterType d = Column.parameterType e := by
  funext c
  unfold Column.parameterType
  rw [h.domainText, h.typeText]

theorem definition : Column.definition d = Column.definition e := by
  have htype : Column.domainOrType d = Column.domainOrType e := by
    funext c
    unfold Column.domainOrType
    rw [h.domainText, h.typeText]
  have htext : Column.definitionText d = Column.definitionText e := by
    funext c
    unfold Column.definitionText
    rw [h.identifier, htype]
  funext c
  unfold Column.definition
  rw [htext]

theorem parameterText : Column.parameterText d = Column.parameterText e := by
  funext c
  unfold Column.parameterText
  rw [h.identifier, h.parameterType]

theorem cursorText : Column.cursorText d = Column.cursorText e := by
  funext c cursor
  unfold Column.cursorText
  rw [h.identifier]

theorem parameterList : Column.parameterList d = Column.parameterList e := by
  have hrow : Column.parameterRow d = Column.parameterRow e := by
    funext c
    unfold Column.parameterRow
    rw [h.cursorText, h.parameterText]
  unfold Column.parameterList
  rw [hrow]

theorem variableBlock : Column.variableBlock d = Column.variableBlock e := by
  have hrow : Column.variableRow d = Column.variableRow e := by
    funext c
    unfold Column.variableRow
    rw [h.cursorText, h.parameterText]
  unfold Column.variableBlock
  rw [hrow]

theorem autoincrementScript : Column.autoincrementScript d = Column.autoincrementScript e := by
  funext table c
  unfold Column.autoincrementScript
  rw [h.identifier]

/-! ### Tables -/

theorem clause : Constraint.clause d = Constraint.clause e := by
  have htablespace : Constraint.tablespaceClause d = Constraint.tablespaceClause e := by
    funext c
    unfold Constraint.tablespaceClause
    rw [h.identifier]
  have hbody : Constraint.body d = Constraint.body e := by
    funext c kind
    unfold Constraint.body Constraint.columnText Constraint.refColumnText
    rw [h.identifiers, h.identifier, htablespace]
  funext table index c
  unfold Constraint.clause
  rw [h.identifier, hbody]

theorem keyClause? : Table.keyClause? d = Table.keyClause? e := by
  have hcolumns : Table.keyColumns d = Table.keyColumns e := by
    funext t
    unfold Table.keyColumns
    rw [h.identifier]
  funext t constraints
  unfold Table.keyClause?
  rw [hcolumns, h.identifier]

theorem createTable : Table.create d = Table.create e := by
  have hclauses : Table.constraintClauses d = Table.constraintClauses e := by
    funext table constraints
    unfold Table.constraintClauses
    rw [h.clause]
  funext t
  unfold Table.create Table.headText Table.optionText Table.followingText
  rw [h.definition, hclauses, h.keyClause?, h.identifier, h.memberComments, h.autoincrementScript,
    h.comment]

/-! ### Domains -/

theorem createDomain : Domain.create d = Domain.create e := by
  funext domain
  unfold Domain.create
  rw [h.identifier, h.typeText, h.comment]

theorem alterFlagged : Domain.alterFlagged d = Domain.alterFlagged e := by
  have hclauses : Domain.clauses d = Domain.clauses e := by
    funext after changes
    unfold Domain.clauses Domain.renameClause Domain.typeClause
    rw [h.identifier, h.typeText]
  have htrailer : Domain.commentTrailer d = Domain.commentTrailer e := by
    funext oldName after
    unfold Domain.commentTrailer
    rw [h.identifier]
  have hstatement : Domain.alterStatement d = Domain.alterStatement e := by
    funext oldName after changes
    unfold Domain.alterStatement
    rw [h.identifier, hclauses, htrailer]
  funext oldName after changes
  unfold Domain.alterFlagged
  rw [hstatement]

theorem alterDomain : Domain.alter d = Domain.alter e := by
  funext before after
  unfold Domain.alter
  rw [h.alterFlagged]

theorem alterDomainTracked : Domain.alterTracked d = Domain.alterTracked e := by
  funext oldName current
  unfold Domain.alterTracked
  rw [h.alterFlagged]

/-! ### Routines and triggers -/

theorem routineHead : SchemaScript.routineHead d = SchemaScript.routineHead e := by
  funext kind name authId inputs
  unfold SchemaScript.routineHead
  rw [h.identifier, h.parameterList]

theorem routineBody : SchemaScript.routineBody d = SchemaScript.routineBody e := by
  funext security entryPoint engine locals body
  unfold SchemaScript.routineBody
  rw [h.variableBlock]

theorem createProcedure : Procedure.create d = Procedure.create e := by
  funext p
  unfold Procedure.create
  rw [h.routineHead, h.parameterList, h.routineBody, h.comment, h.memberComments]

theorem createFunction : Function.create d = Function.create e := by
  funext f
  unfold Function.create Function.returnsText
  rw [h.routineHead, h.parameterType, h.routineBody, h.comment, h.memberComments]

theorem createTrigger : Trigger.create d = Trigger.create e := by
  funext t
  unfold Trigger.create
  rw [h.identifier, h.comment]

/-! ### Users -/

theorem createUser : User.create d = User.create e := by
  funext u
  unfold User.create
  rw [h.identifier, h.comment]

theorem alterUser : User.alter d = User.alter e := by
  funext before after
  unfold User.alter User.alterStatement User.commentTrailer?
  rw [h.identifier]

/-! ### Other objects -/

theorem createCollation : Collation.create d = Collation.create e := by
  funext c
  unfold Collation.create
  rw [h.identifier]

theorem createTablespace : Tablespace.create d = Tablespace.create e := by
  funext t
  unfold Tablespace.create
  rw [h.identifier]

theorem createJob : Job.create d = Job.create e := by
  funext j
  unfold Job.create
  rw [h.identifier]

/-- Of the version, a view reads whether it can be created or altered in one. -/
theorem createView (hversion : d.hasCreateOrAlter = e.hasCreateOrAlter) :
    View.create d = View.create e := by
  funext v
  unfold View.create View.verb
  rw [hversion, h.identifier, h.comment]

/-- Of the version, a sequence reads whether it can be created or altered in one. -/
theorem createSequence (hversion : d.hasCreateOrAlter = e.hasCreateOrAlter) :
    Sequence.create d = Sequence.create e := by
  funext s
  unfold Sequence.create
  rw [hversion, h.identifier, h.comment]

/-! ### Rows -/

theorem insertText : SchemaScript.insertText d = SchemaScript.insertText e := by
  funext table fields values
  unfold SchemaScript.insertText
  rw [h.identifier]

theorem insert : Insert.statement d = Insert.statement e := by
  funext i
  unfold Insert.statement
  rw [h.insertText]

theorem insertPlaceholders : InsertPlaceholders.statement d = InsertPlaceholders.statement e := by
  funext i
  unfold InsertPlaceholders.statement
  rw [h.insertText, h.identifiers]

theorem update : Update.statement d = Update.statement e := by
  funext u
  unfold Update.statement
  rw [h.identifier]

theorem select : Select.statement d = Select.statement e := by
  funext s
  unfold Select.statement
  rw [h.identifier]

end Dialect.NamesAlike

end SchemaScript
