import SchemaScript.Proofs.GeneratedName

/-! When the name that is made up for an object is not free. Numbers are given out past all that
count among the siblings, so this happens only at the end of the numbers: the last one does not
count, but it is given out after the one before it. -/

namespace SchemaScript.ObjectKind

theorem toList_stem (kind : ObjectKind) :
    kind.stem.toList = 'N' :: ("EW_" ++ kind.keyword ++ "_").toList := by
  simp [stem]

theorem isBlank_stem (kind : ObjectKind) : Text.isBlank kind.stem = false := by
  have hstart : Text.isBlank "NEW_" = false := by decide
  rw [stem, Text.isBlank_append, Text.isBlank_append, hstart, Bool.false_and, Bool.false_and]

/-- A made-up name is a sibling's name exactly when one sibling has the number 4294967294 and
another is called by the number after that, which does not count. -/
theorem newName_mem_iff (kind : ObjectKind) (siblings : List String) :
    kind.newName siblings ∈ siblings ↔
      (∃ name ∈ siblings, suffix? kind.stem name = some 4294967294) ∧
        kind.stem ++ "4294967295" ∈ siblings := by
  have hnumeral : Nat.repr lastSuffix = "4294967295" := by decide +kernel
  have hstem := toList_stem kind
  rw [newName, nextName_mem_iff hstem (by decide) (isBlank_stem kind), hnumeral]
  rfl

/-- With the last two numbers taken, the last one is given out again. -/
theorem newName_taken :
    table.newName ["NEW_TABLE_4294967294", "NEW_TABLE_4294967295"] ∈
      ["NEW_TABLE_4294967294", "NEW_TABLE_4294967295"] := by
  decide +kernel

end SchemaScript.ObjectKind
