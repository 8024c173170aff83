import SchemaScript.Proofs.Constraint.NormalForm
import SchemaScript.Table.Statement

/-! Merging before a table is created. The statement of a table merges its constraints, and reads
them in no other way, so nothing changes if they have been merged already. -/

namespace SchemaScript.Table

/-- Of the constraints, a table that is created uses only what they are merged to. -/
theorem create_congr {d : Dialect} {t : Table} {constraints : List Constraint}
    (h : Constraint.merge constraints = Constraint.merge t.constraints) :
    create d { t with constraints } = create d t := by
  unfold create
  simp only [h]
  rfl

theorem create_withMerged {d : Dialect} {t : Table} {merged : List Constraint}
    (h : Constraint.merge t.constraints = .ok merged) :
    create d { t with constraints := merged } = create d t := by
  apply create_congr
  rw [Constraint.merge_merged h, h]

/-- Merging leaves exactly those lists alone in which every constraint has a name of its own; what
it gives is such a list; and a table is created, or fails to be, in the same way before and after
its constraints are merged. -/
theorem merge_normalForm :
    (∀ entries, Constraint.merge entries = .ok entries ↔ Constraint.HaveOwnNames entries) ∧
    (∀ entries merged, Constraint.merge entries = .ok merged →
      Constraint.merge merged = .ok merged) ∧
    ∀ (d : Dialect) (t : Table) (merged : List Constraint),
      Constraint.merge t.constraints = .ok merged →
        create d { t with constraints := merged } = create d t :=
  ⟨fun _ => Constraint.merge_eq_self_iff, fun _ _ => Constraint.merge_merged,
    fun _ _ _ => create_withMerged⟩

/-- A key of two columns around a column that is unique without a name. -/
def stockTable : Table where
  name := "STOCK"
  columns := [.ofType "SHOP" "INTEGER", .ofType "ITEM" "INTEGER", .ofType "SHELF" "INTEGER"]
  constraints := [.onColumn (some "PK_STOCK") .primaryKey "SHOP", .onColumn none .unique "SHELF",
    .onColumn (some "PK_STOCK") .primaryKey "ITEM"]

theorem merge_normalForm_stock :
    let merged : List Constraint := [
      { Constraint.onColumn (some "PK_STOCK") .primaryKey "SHOP" with columns := ["SHOP", "ITEM"] },
      { Constraint.onColumn (some "UQ_<TABLE_NAME>_1") .unique "SHELF" with generatedName := true }]
    Constraint.merge stockTable.constraints = .ok merged ∧
      Constraint.merge merged = .ok merged ∧ Constraint.HaveOwnNames merged ∧
      create {} { stockTable with constraints := merged } = .ok ("CREATE TABLE STOCK (" ++
        "\n\tSHOP INTEGER,\n\tITEM INTEGER,\n\tSHELF INTEGER," ++
        "\n\tCONSTRAINT PK_STOCK PRIMARY KEY (SHOP,ITEM)," ++
        "\n\tCONSTRAINT UQ_STOCK_1 UNIQUE (SHELF)\n);\n") := by
  intro merged
  have hmerge : Constraint.merge stockTable.constraints = .ok merged := by decide +kernel
  obtain ⟨hself, hmerged, hcreate⟩ := merge_normalForm
  have hagain := hmerged _ merged hmerge
  refine ⟨hmerge, hagain, (hself merged).1 hagain, ?_⟩
  rw [hcreate {} stockTable merged hmerge]
  decide +kernel

end SchemaScript.Table
