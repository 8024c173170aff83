import SchemaScript.Proofs.Column.TypeText
import SchemaScript.Proofs.Domain.Differences

/-! Altering a domain by the flags that an edit has left. A domain whose flags say how it differs
from a snapshot is altered as by a comparison with the snapshot, or fails in the same way. What its
flags said before plays no part. -/

namespace SchemaScript.Domain

variable {d : Dialect}

/-! ### Stale flags -/

section

variable (before after : Column) (stale stale' : ChangeFlags)

theorem between_withChanges :
    ChangeFlags.between { before with changes := stale } { after with changes := stale' } =
      ChangeFlags.between before after := rfl

/-- Only the flags that are passed on count, and not those that the domain carries. -/
theorem alterFlagged_withChanges (oldName : String) (changes : ChangeFlags) :
    alterFlagged d oldName { after with changes := stale } changes =
      alterFlagged d oldName after changes :=
  alterFlagged_congr oldName rfl rfl rfl rfl rfl rfl fun _ => Column.typeText_congr rfl rfl rfl

theorem alter_withChanges :
    alter d { before with changes := stale } { after with changes := stale' } =
      alter d before after := by
  simp only [alter, between_withChanges, alterFlagged_withChanges]
  rfl

end

/-! ### The old name -/

/-- A name that is not there is written like an empty one. -/
theorem isBlank_label (c : Column) : Text.isBlank c.label = !c.hasName := by
  unfold Column.label Column.hasName Text.given
  cases c.name with
  | none => rfl
  | some name => cases hblank : Text.isBlank name <;> simp [Option.filter, hblank]

/-- The old name is checked as a text by one way to alter a domain and in its description by the
other, and the flags come from two places. Once the changes since a snapshot are tracked, both ways
have the same result, and no flag that was set before makes a difference to it. -/
theorem alterTracked_trackChanges (d : Dialect) (snapshot current : Column) :
    alterTracked d snapshot.label (current.trackChanges snapshot) =
      alter d snapshot (current.trackChanges snapshot) ∧
    ∀ stale stale', alter d { snapshot with changes := stale } { current with changes := stale' } =
      alter d snapshot current := by
  refine ⟨?_, alter_withChanges snapshot current⟩
  have hbetween : ChangeFlags.between snapshot (current.trackChanges snapshot) =
      (current.trackChanges snapshot).changes :=
    between_withChanges snapshot current snapshot.changes _
  rw [alterTracked, alter, isBlank_label, hbetween]

/-- A domain with stale flags against a snapshot with another name, default and description; then
with a blank name, and against a snapshot with a blank name. -/
theorem alterTracked_trackChanges_money :
    let edited : Column := { price with changes := { check := true, type := true } }
    let unnamed : Column := { edited with name := some " " }
    let sql := "ALTER DOMAIN D_MONEY\nTO D_PRICE\nDROP DEFAULT;\n" ++
      "COMMENT ON DOMAIN D_PRICE IS 'Price';\n"
    (alter {} money (edited.trackChanges money) = .ok sql ∧
      alterTracked {} "D_MONEY" (edited.trackChanges money) = .ok sql ∧
      alter {} money edited = .ok sql ∧ alterTracked {} "D_MONEY" edited ≠ .ok sql) ∧
    (alter {} money (unnamed.trackChanges money) = .error .domainWithoutNewName ∧
      alterTracked {} "D_MONEY" (unnamed.trackChanges money) = .error .domainWithoutNewName) ∧
    alter {} unnamed (edited.trackChanges unnamed) = .error .domainWithoutOldName ∧
      alterTracked {} " " (edited.trackChanges unnamed) = .error .domainWithoutOldName := by
  intro edited unnamed sql
  obtain ⟨hedited, hstale⟩ := alterTracked_trackChanges {} money edited
  obtain ⟨hunnamed, -⟩ := alterTracked_trackChanges {} money unnamed
  obtain ⟨hsnapshot, -⟩ := alterTracked_trackChanges {} unnamed edited
  have hsql : alter {} money (edited.trackChanges money) = .ok sql := by decide +kernel
  have hnewName : alter {} money (unnamed.trackChanges money) = .error .domainWithoutNewName := by
    decide +kernel
  have holdName : alter {} unnamed (edited.trackChanges unnamed) =
      .error .domainWithoutOldName := by decide +kernel
  have hsame : alter {} money edited = .ok sql := by
    rw [← hstale {} (edited.trackChanges money).changes]
    exact hsql
  exact ⟨⟨hsql, hedited.trans hsql, hsame, by decide +kernel⟩,
    ⟨hnewName, hunnamed.trans hnewName⟩, holdName, hsnapshot.trans holdName⟩

end SchemaScript.Domain
