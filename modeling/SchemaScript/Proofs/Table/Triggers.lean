import SchemaScript.Proofs.Dialect.Identifier
import SchemaScript.Proofs.Table.OwnKey
import Mathlib.Data.List.Basic

/-! The triggers that number the columns of a table. Between the comments on the columns and the comment
on the table, each column that is numbered by a trigger has the statements of its sequence, as far as
they are asked for, and then the statement of its trigger. By default triggers are named after the table
and the column. Such names keep columns of different names apart, in whatever way the dialect quotes
them: all of them begin and end alike, so either all of them look quoted or none does. -/

namespace SchemaScript

open Text

/-! ### Statements -/

/-- The parts of a trigger that numbers a column, as they are written. -/
structure NumberingTrigger where
  name : String
  table : String
  column : String
  sequence : String
  deriving DecidableEq

inductive NumberingStatement where
  | createSequence (sequence : String)
  | restartSequence (sequence : String) (start : Int)
  | trigger (trigger : NumberingTrigger)

namespace NumberingStatement

def text : NumberingStatement → String
  | createSequence sequence => "CREATE SEQUENCE " ++ sequence ++ ";\n"
  | restartSequence sequence start =>
    "ALTER SEQUENCE " ++ sequence ++ " RESTART WITH " ++ toString start ++ ";\n"
  | trigger t =>
    "CREATE OR ALTER TRIGGER " ++ t.name ++ " FOR " ++ t.table ++ "\n" ++
      "ACTIVE BEFORE INSERT POSITION 0\nAS\nBEGIN\n\tIF (NEW." ++ t.column ++
      " IS NULL) THEN NEW." ++ t.column ++ " = NEXT VALUE FOR " ++ t.sequence ++ ";\nEND^\n"

@[simp] theorem text_createSequence (sequence : String) :
    (createSequence sequence).text = "CREATE SEQUENCE " ++ sequence ++ ";\n" := rfl

@[simp] theorem text_restartSequence (sequence : String) (start : Int) :
    (restartSequence sequence start).text =
      "ALTER SEQUENCE " ++ sequence ++ " RESTART WITH " ++ toString start ++ ";\n" := rfl

@[simp] theorem text_trigger (t : NumberingTrigger) :
    (trigger t).text = Autoincrement.triggerScript t.name t.table t.column t.sequence := by
  have hend : ";\nEND" ++ (blockDelimiter ++ "\n") = ";\nEND^\n" := by decide
  unfold text Autoincrement.triggerScript
  simp only [String.append_assoc]
  rw [hend]

def trigger? : NumberingStatement → Option NumberingTrigger
  | trigger t => some t
  | _ => none

end NumberingStatement

/-- The statements for a sequence that is asked for. -/
def Autoincrement.sequenceStatements (auto : Autoincrement) (sequence : String) :
    List NumberingStatement :=
  if auto.createSequence then
    if auto.startValue = 0 then [.createSequence sequence]
    else [.createSequence sequence, .restartSequence sequence auto.startValue.toInt]
  else []

namespace Column

/-- How a column is numbered that has no identity clause for it. -/
def numbering? (c : Column) : Option Autoincrement := c.autoincrement.filter (!·.identity)

def numberingTrigger (d : Dialect) (table : String) (c : Column) (auto : Autoincrement) :
    NumberingTrigger where
  name := d.identifier (auto.triggerFor table c.label)
  table := d.identifier table
  column := d.identifier c.label
  sequence := d.identifier (auto.sequenceFor table c.label)

/-- All that a column needs to be numbered; its trigger comes last. -/
def numberingStatements (d : Dialect) (table : String) (c : Column) : List NumberingStatement :=
  match c.numbering? with
  | none => []
  | some auto =>
    auto.sequenceStatements (d.identifier (auto.sequenceFor table c.label)) ++
      [.trigger (c.numberingTrigger d table auto)]

end Column

theorem Autoincrement.concat_sequenceStatements (auto : Autoincrement) (sequence : String) :
    concat ((auto.sequenceStatements sequence).map (·.text)) = auto.sequenceScript sequence := by
  unfold sequenceStatements sequenceScript whenTrue
  split
  next =>
    by_cases hstart : auto.startValue = 0
    · simp [hstart]
    · simp [hstart, String.append_assoc]
  next => rfl

theorem Autoincrement.filterMap_sequenceStatements (auto : Autoincrement) (sequence : String) :
    (auto.sequenceStatements sequence).filterMap (·.trigger?) = [] := by
  unfold sequenceStatements
  split
  · split <;> rfl
  · rfl

namespace Column

theorem concat_numberingStatements (d : Dialect) (table : String) (c : Column) :
    concat ((c.numberingStatements d table).map (·.text)) = c.autoincrementScript d table := by
  unfold numberingStatements numbering? autoincrementScript
  cases c.autoincrement with
  | none => rfl
  | some auto =>
    cases hidentity : auto.identity with
    | true => simp [Option.filter_some, hidentity]
    | false =>
      simp [Option.filter_some, hidentity, concat_append, Autoincrement.concat_sequenceStatements,
        numberingTrigger]

theorem filterMap_numberingStatements (d : Dialect) (table : String) (c : Column) :
    (c.numberingStatements d table).filterMap (·.trigger?) =
      (c.numbering?.map (c.numberingTrigger d table)).toList := by
  unfold numberingStatements
  cases c.numbering? with
  | none => rfl
  | some auto =>
    show (_ ++ [_]).filterMap _ = _
    rw [List.filterMap_append, Autoincrement.filterMap_sequenceStatements]
    rfl

end Column

/-! ### Names of triggers -/

namespace Autoincrement

variable {d : Dialect}

theorem triggerFor_of_given_eq_none {auto : Autoincrement} (h : given auto.triggerName = none)
    (table column : String) : auto.triggerFor table column = table ++ "_" ++ column ++ "_BI" := by
  rw [triggerFor, h, Option.getD_none]

/-- Only the table can make a default name look quoted. -/
theorem isQuoted_defaultTrigger (d : Dialect) (table column : String) :
    d.isQuoted (table ++ "_" ++ column ++ "_BI") =
      ((table ++ "_").toList.head? == some d.quote && some 'I' == some d.quote) := by
  have hsize : 2 ≤ (table ++ "_" ++ column ++ "_BI").utf8ByteSize := by
    have hend : "_BI".utf8ByteSize = 3 := rfl
    rw [String.utf8ByteSize_append, hend]
    omega
  have hhead : (table ++ "_" ++ column ++ "_BI").toList.head? = (table ++ "_").toList.head? := by
    rw [String.append_assoc, String.toList_append (s := table ++ "_"), List.head?_append]
    cases hlist : (table ++ "_").toList with
    | nil => simp at hlist
    | cons c rest => rfl
  have hlast : (table ++ "_" ++ column ++ "_BI").toList.getLast? = some 'I' := by
    rw [String.toList_append, List.getLast?_append]
    rfl
  rw [Dialect.isQuoted, hhead, hlast, decide_eq_true hsize, Bool.true_and]

/-- Columns have the same default name for their triggers only if they have the same name. -/
theorem identifier_defaultTrigger_inj {table first second : String} :
    d.identifier (table ++ "_" ++ first ++ "_BI") = d.identifier (table ++ "_" ++ second ++ "_BI") ↔
      first = second := by
  constructor
  · intro h
    -- Only the table decides whether such a name looks quoted, so both are written in the same way.
    have halike : d.isQuoted (table ++ "_" ++ second ++ "_BI") =
        d.isQuoted (table ++ "_" ++ first ++ "_BI") := by
      rw [isQuoted_defaultTrigger, isQuoted_defaultTrigger]
    have hsame : table ++ "_" ++ first ++ "_BI" = table ++ "_" ++ second ++ "_BI" := by
      cases hquoted : d.isQuoted (table ++ "_" ++ first ++ "_BI") with
      | true =>
        rwa [Dialect.identifier_of_isQuoted hquoted,
          Dialect.identifier_of_isQuoted (halike.trans hquoted)] at h
      | false => exact Dialect.identifier_injective hquoted (halike.trans hquoted) h
    exact (String.append_right_inj _).1 ((String.append_left_inj _).1 hsame)
  · rintro rfl
    rfl

end Autoincrement

/-! ### Tables -/

namespace Table

variable {d : Dialect} {t : Table}

theorem concat_numberingStatements (d : Dialect) (table : String) (columns : List Column) :
    concat ((columns.flatMap (Column.numberingStatements d table)).map (·.text)) =
      concat (columns.map (Column.autoincrementScript d table)) := by
  induction columns with
  | nil => rfl
  | cons c rest ih =>
    rw [List.flatMap_cons, List.map_append, concat_append, Column.concat_numberingStatements, ih,
      List.map_cons, concat_cons]

theorem filterMap_numberingStatements (d : Dialect) (table : String) (columns : List Column) :
    (columns.flatMap (Column.numberingStatements d table)).filterMap (·.trigger?) =
      columns.filterMap fun c => c.numbering?.map (c.numberingTrigger d table) := by
  rw [List.filterMap_eq_flatMap_toList (fun c : Column => c.numbering?.map _)]
  induction columns with
  | nil => rfl
  | cons c rest ih =>
    rw [List.flatMap_cons, List.flatMap_cons, List.filterMap_append,
      Column.filterMap_numberingStatements, ih]

/-- Between the comments on its columns and the comment on the table, a table that can be created has
the statements that number its columns, column by column. Their triggers are one for each column that is
numbered without an identity clause, in the order of these columns. Two columns whose triggers have no
names of their own have triggers of the same written name only if they have the same name. -/
theorem create_triggers (d : Dialect) (t : Table) :
    (∀ sql, create d t = .ok sql → ∃ statement,
      sql = statement ++ ";\n" ++ (memberComments d t.name .column ";" t.columns ++
        concat ((t.columns.flatMap (Column.numberingStatements d t.name)).map (·.text)) ++
        SchemaScript.comment d .table t.name t.comment ";")) ∧
    (t.columns.flatMap (Column.numberingStatements d t.name)).filterMap (·.trigger?) =
      t.columns.filterMap (fun c => c.numbering?.map (c.numberingTrigger d t.name)) ∧
    ∀ (first second : Column) (own other : Autoincrement),
      given own.triggerName = none → given other.triggerName = none →
      ((first.numberingTrigger d t.name own).name = (second.numberingTrigger d t.name other).name ↔
        first.label = second.label) := by
  refine ⟨fun sql h => ?_, filterMap_numberingStatements d t.name t.columns,
    fun first second own other hown hother => ?_⟩
  · obtain ⟨_, _, _, -, -, -, hsql⟩ := create_eq_ok_iff_elements.1 h
    rw [followingText, ← concat_numberingStatements] at hsql
    exact ⟨_, hsql⟩
  · rw [Column.numberingTrigger, Column.numberingTrigger,
      Autoincrement.triggerFor_of_given_eq_none hown,
      Autoincrement.triggerFor_of_given_eq_none hother]
    exact Autoincrement.identifier_defaultTrigger_inj

/-- A column that is numbered by a sequence of its own. -/
def keyColumn : Column := { Column.ofType "A" "INTEGER" with
  description := some "key", autoincrement := some { createSequence := true } }

/-- A numbered column whose name ends as the default names of triggers do. -/
def rankColumn : Column := { Column.ofType "A_BI" "INTEGER" with
  autoincrement := some { triggerName := some " " } }

/-- Two numbered columns around one with an identity clause. -/
def counterTable : Table where
  name := "T"
  columns := [keyColumn, { Column.ofType "B" "INTEGER" with autoincrement := some { identity := true } },
    rankColumn]
  comment := some "counts"

/-- Both triggers are made, and the second one does not take the place of the first. -/
theorem create_triggers_counter :
    let statements := counterTable.columns.flatMap (Column.numberingStatements {} "T")
    let numbering := "CREATE SEQUENCE GEN_T_A;\n" ++
      "CREATE OR ALTER TRIGGER T_A_BI FOR T\nACTIVE BEFORE INSERT POSITION 0\nAS\nBEGIN\n" ++
        "\tIF (NEW.A IS NULL) THEN NEW.A = NEXT VALUE FOR GEN_T_A;\nEND^\n" ++
      "CREATE OR ALTER TRIGGER T_A_BI_BI FOR T\nACTIVE BEFORE INSERT POSITION 0\nAS\nBEGIN\n" ++
        "\tIF (NEW.A_BI IS NULL) THEN NEW.A_BI = NEXT VALUE FOR GEN_T_A_BI;\nEND^\n"
    let sql := "CREATE TABLE T (\n\tA INTEGER,\n\tB INTEGER GENERATED BY DEFAULT AS IDENTITY,\n" ++
      "\tA_BI INTEGER\n);\n" ++
      ("COMMENT ON COLUMN T.A IS 'key';\n" ++ numbering ++ "COMMENT ON TABLE T IS 'counts';\n")
    create {} counterTable = .ok sql ∧
    (∃ statement, sql = statement ++ ";\n" ++ ("COMMENT ON COLUMN T.A IS 'key';\n" ++
      concat (statements.map (·.text)) ++ "COMMENT ON TABLE T IS 'counts';\n")) ∧
    concat (statements.map (·.text)) = numbering ∧
    statements.filterMap (·.trigger?) = [
      ⟨"T_A_BI", "T", "A", "GEN_T_A"⟩, ⟨"T_A_BI_BI", "T", "A_BI", "GEN_T_A_BI"⟩] ∧
    (keyColumn.numberingTrigger {} "T" { createSequence := true }).name ≠
      (rankColumn.numberingTrigger {} "T" { triggerName := some " " }).name := by
  intro statements numbering sql
  obtain ⟨hscript, htriggers, hnames⟩ := create_triggers {} counterTable
  have hsql : create {} counterTable = .ok sql := by decide +kernel
  have hcolumns : memberComments {} "T" .column ";" counterTable.columns =
      "COMMENT ON COLUMN T.A IS 'key';\n" := by decide +kernel
  have htable : SchemaScript.comment {} .table "T" counterTable.comment ";" =
      "COMMENT ON TABLE T IS 'counts';\n" := by decide +kernel
  refine ⟨hsql, ?_, by decide +kernel, ?_, ?_⟩
  · rw [← hcolumns, ← htable]
    exact hscript sql hsql
  · refine htriggers.trans ?_
    decide +kernel
  · intro hsame
    exact absurd ((hnames _ _ _ _ rfl (by decide)).1 hsame) (by decide)

end Table

end SchemaScript
