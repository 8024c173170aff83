import SchemaScript.Proofs.Column.TypeText
import SchemaScript.Proofs.Domain.Differences

/-! Which changes of its type a domain is altered for. The statement sets the type last, unless the
change is one that an edit does not see; then the script is the one for an unchanged type. -/

namespace SchemaScript.Domain

open AlterStatement (text_ne_noChanges)

variable {d : Dialect} {after : Column} {changes : ChangeFlags}

/-! ### Clauses of the statement -/

/-- The clauses that go before the one for the type. -/
def earlierClauses (d : Dialect) (after : Column) (changes : ChangeFlags) : List String :=
  ((clauses d after changes).take 4).filterMap id

theorem filterMap_clauses (d : Dialect) (after : Column) (changes : ChangeFlags) :
    (clauses d after changes).filterMap id =
      earlierClauses d after changes ++ if changes.type then [typeClause d after] else [] := by
  have hsplit : clauses d after changes = (clauses d after changes).take 4 ++
      [if changes.type then some (typeClause d after) else none] := rfl
  rw [hsplit, List.filterMap_append, earlierClauses]
  cases changes.type <;> rfl

/-- The clauses before the one for the type begin in other ways. -/
theorem take_of_mem_earlierClauses {text : String} (h : text ∈ earlierClauses d after changes) :
    text.toList.take 2 ≠ ['T', 'Y'] := by
  obtain ⟨clause, hclause, hsome⟩ := List.mem_filterMap.1 h
  obtain rfl : clause = some text := hsome
  simp only [clauses, List.take_succ_cons, List.take_zero, List.mem_cons, List.not_mem_nil,
    or_false, Option.some_eq_ite_none_right, Option.some.injEq] at hclause
  rcases hclause with ⟨-, rfl⟩ | ⟨-, rfl⟩ | ⟨-, rfl⟩ | ⟨-, rfl⟩
  · simp [renameClause]
  · unfold defaultClause
    split <;> simp
  · unfold requiredClause
    split <;> simp
  · unfold checkClause
    split <;> simp

theorem typeClause_mem_iff (oldName : String) :
    typeClause d after ∈ (alterStatement d oldName after changes).clauses ↔
      changes.type = true := by
  rw [alterStatement_eq, filterMap_clauses, List.mem_append]
  have hearlier : typeClause d after ∉ earlierClauses d after changes := by
    intro h
    exact take_of_mem_earlierClauses h (by simp [typeClause])
  cases changes.type <;> simp [hearlier]

/-! ### Seen and unseen changes -/

variable {before : Column}

theorem type_between_eq_true_iff (h : before.typeText d ≠ after.typeText d) :
    (ChangeFlags.between before after).type = true ↔ ¬Column.UnseenChange before after := by
  rw [ChangeFlags.between, decide_eq_true_eq]
  constructor
  · intro hne hunseen
    exact hne hunseen.sameSignature
  · intro hseen hsame
    exact hseen (Column.unseenChange_of_typeText_ne hsame h)

/-- The domain with the segment size and the domain of the version before. -/
def withUnseenOf (before after : Column) : Column :=
  { after with segmentSize := before.segmentSize, domain := before.domain }

/-- What an edit does not see of a type has no part in the script. -/
theorem alter_unseen (h : Column.UnseenChange before after) :
    alter d before after = alter d before (withUnseenOf before after) := by
  have hbetween : ChangeFlags.between before (withUnseenOf before after) =
      ChangeFlags.between before after := rfl
  have htype : (ChangeFlags.between before after).type = false := by
    simpa [ChangeFlags.between] using h.sameSignature
  have hscript : alterFlagged d before.label (withUnseenOf before after) (.between before after) =
      alterFlagged d before.label after (.between before after) :=
    alterFlagged_congr _ rfl rfl rfl rfl rfl rfl (by simp [htype])
  rw [alter, alter, hbetween, hscript]

/-- When a type comes to be written differently, the statement sets it as its last clause, exactly
unless the change is unseen. Then nothing of the change is in the script. -/
theorem alter_typeClause_iff (hbefore : before.hasName = true) (hafter : after.hasName = true)
    (htext : before.typeText d ≠ after.typeText d) :
    ∃ statement, statement =
        alterStatement d before.label after (ChangeFlags.between before after) ∧
      alter d before after = .ok statement.text ∧
      (typeClause d after ∈ statement.clauses ↔ ¬Column.UnseenChange before after) ∧
      (¬Column.UnseenChange before after → statement.text ≠ noChanges ∧ ∃ start,
        statement.text = start ++ "\n" ++ typeClause d after ++ ";\n" ++
          Text.concat statement.trailers) ∧
      (Column.UnseenChange before after →
        alter d before after = alter d before (withUnseenOf before after)) := by
  have hiff := type_between_eq_true_iff htext
  refine ⟨_, rfl, alter_eq_ok hbefore hafter, (typeClause_mem_iff _).trans hiff, ?_, alter_unseen⟩
  intro hseen
  have htype := hiff.2 hseen
  have hclauses : (alterStatement d before.label after (.between before after)).clauses =
      earlierClauses d after (.between before after) ++ [typeClause d after] := by
    rw [alterStatement_eq, filterMap_clauses, if_pos htype]
  exact ⟨text_ne_noChanges (by simp [hclauses]), _, AlterStatement.text_of_clauses_concat hclauses⟩

/-- A longer text is a change that is seen. -/
theorem alter_typeClause_longer :
    let short : Column := { Column.ofType "CODE" "VARCHAR" with size := 10 }
    let long : Column := { short with size := 20 }
    ∃ statement : AlterStatement, alter {} short long = .ok statement.text ∧
      typeClause {} long ∈ statement.clauses ∧
      statement.text = "ALTER DOMAIN CODE\nTYPE VARCHAR(20);\n" := by
  intro short long
  have htext : short.typeText {} ≠ long.typeText {} := by decide +kernel
  have hscript : alter {} short long = .ok "ALTER DOMAIN CODE\nTYPE VARCHAR(20);\n" := by
    decide +kernel
  obtain ⟨statement, -, halter, hclause, -⟩ :=
    alter_typeClause_iff (by decide +kernel) (by decide +kernel) htext
  refine ⟨statement, halter, hclause.2 fun hunseen => ?_, ?_⟩
  · have hsize := congrArg TypeSignature.size hunseen.sameSignature
    exact absurd hsize (by decide)
  · exact Except.ok.inj (halter.symm.trans hscript)

/-- Other segments of a blob, and another domain to take a type from, are not seen. -/
theorem alter_misses_typeChange :
    (Column.typeText {} { Column.ofType "PHOTO" "BLOB" with segmentSize := 80 } ≠
        Column.typeText {} { Column.ofType "PHOTO" "BLOB" with segmentSize := 100 } ∧
      alter {} { Column.ofType "PHOTO" "BLOB" with segmentSize := 80 }
        { Column.ofType "PHOTO" "BLOB" with segmentSize := 100 } = .ok noChanges) ∧
    Column.typeText {} { name := some "CODE", typeOf := some .domain, domain := some "SHORT" } ≠
        Column.typeText {} { name := some "CODE", typeOf := some .domain, domain := some "LONG" } ∧
      alter {} { name := some "CODE", typeOf := some .domain, domain := some "SHORT" }
        { name := some "CODE", typeOf := some .domain, domain := some "LONG" } = .ok noChanges := by
  decide +kernel

end SchemaScript.Domain
