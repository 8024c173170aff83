import SchemaScript.Column.Codec
import SchemaScript.Proofs.Domain.Differences

/-! Domains that are made of a name and the name of a type, beside those that a sparse document
describes by the same two names. The code of a type is looked up when the first are made, and
whenever it is asked for in the others. Both find the same code for a type that is listed, and then
there is nothing to alter. For any other type one has the code for other types and one has none, and
the type is set to what it was. -/

namespace SchemaScript

/-! ### Codes of types -/

/-- The type has a code of its own, whatever its size and the case of its letters. -/
def TypeCode.IsListed (typeName : String) : Prop :=
  TypeCode.baseName typeName ∈ TypeCode.names.map (·.1)

instance (typeName : String) : Decidable (TypeCode.IsListed typeName) :=
  inferInstanceAs (Decidable (_ ∈ _))

theorem TypeCode.isSome_ofName?_iff {typeName : String} :
    (TypeCode.ofName? typeName).isSome = true ↔ TypeCode.IsListed typeName := by
  rw [ofName?, List.lookup_isSome_iff, IsListed, List.mem_map]
  simp only [beq_iff_eq]
  exact exists_congr fun _ => and_congr_right fun _ => eq_comm

namespace Column

variable (name typeName : String)

/-- A column of which nothing but its name and its type's name is known. -/
def sparse : Column := { name := some name, typeName := some typeName }

/-- A document that holds these two names and nothing else describes the sparse column. -/
theorem read_sparse (layer : Layer) :
    codec.read layer (.object [("name", .string name), ("type_name", .string typeName)]) =
      .ok (sparse name typeName) := rfl

theorem typeCode_ofType :
    (ofType name typeName).typeCode = (TypeCode.ofName? typeName).getD TypeCode.other := by
  cases h : TypeCode.ofName? typeName with
  | none => simp [typeCode, ofType, h]
  | some code => simp [typeCode, ofType, h]

theorem typeCode_sparse :
    (sparse name typeName).typeCode = (TypeCode.ofName? typeName).getD TypeCode.unset := by
  simp [typeCode, sparse]

/-- The code has no part in the text of a type. -/
theorem typeText_withCode (d : Dialect) (column : Column) (code : TypeCode) :
    { column with code }.typeText d = column.typeText d := by
  have hfamily : ∀ family, { column with code }.familyClause family =
      column.familyClause family := by
    intro family
    cases family <;> rfl
  simp only [typeText, domainText, namedTypeText, hfamily]

theorem typeText_ofType (d : Dialect) :
    (ofType name typeName).typeText d = (sparse name typeName).typeText d :=
  typeText_withCode d (sparse name typeName) _

end Column

/-! ### What an edit sees -/

theorem ChangeFlags.between_comm (before after : Column) :
    ChangeFlags.between before after = ChangeFlags.between after before := by
  simp only [ChangeFlags.between, ne_comm]

/-- Between the two there is at most a change of type, and one of the code alone. -/
theorem ChangeFlags.between_sparse (name typeName : String) :
    ChangeFlags.between (Column.ofType name typeName) (Column.sparse name typeName) =
      { type := !decide (TypeCode.IsListed typeName) } := by
  have htype : (Column.ofType name typeName).typeSignature =
      (Column.sparse name typeName).typeSignature ↔ TypeCode.IsListed typeName := by
    simp only [Column.typeSignature, TypeSignature.mk.injEq, Column.typeCode_ofType,
      Column.typeCode_sparse, ← TypeCode.isSome_ofName?_iff]
    cases TypeCode.ofName? typeName with
    | none => simp [TypeCode.other, TypeCode.unset]
    | some code => simp [Column.ofType, Column.sparse, Column.charset?]
  simp only [ChangeFlags.between, ne_eq, htype]
  simp [Column.ofType, Column.sparse, DefaultValue.text?, Column.check?, Column.description?]

namespace Domain

variable {d : Dialect} {before after : Column}

/-- A domain of which at most the type has changed. -/
theorem alter_of_between_eq {type : Bool} (hbefore : before.hasName = true)
    (h : ChangeFlags.between before after = { type }) :
    alter d before after = .ok (if type then
      "ALTER DOMAIN " ++ d.identifier before.label ++ "\nTYPE " ++ after.typeText d ++ ";\n"
      else noChanges) := by
  unfold alter alterFlagged
  rw [h, hbefore]
  refine congrArg Except.ok ?_
  cases type with
  | false => rfl
  | true =>
    have hstatement : alterStatement d before.label after { type := true } =
        ⟨"ALTER DOMAIN " ++ d.identifier before.label, "\n", [typeClause d after], []⟩ := rfl
    rw [hstatement, AlterStatement.text_of_clauses_ne_nil (List.cons_ne_nil _ _)]
    simp [typeClause, ← String.toList_inj]

/-- A domain made of two names and one read from a document of these names agree in all that is
compared exactly when the type is listed. Then there is nothing to change, in either direction;
otherwise the type is set to the text that it has in both. -/
theorem alter_ofType_sparse (d : Dialect) (name typeName : String) :
    Column.codec.read .plain
        (.object [("name", .string name), ("type_name", .string typeName)]) =
      .ok (Column.sparse name typeName) ∧
    ((ChangeFlags.between (.ofType name typeName) (.sparse name typeName)).isEmpty = true ↔
      TypeCode.IsListed typeName) ∧
    (Text.isBlank name = false →
      ∃ script, alter d (.ofType name typeName) (.sparse name typeName) = .ok script ∧
        alter d (.sparse name typeName) (.ofType name typeName) = .ok script ∧
        script = if TypeCode.IsListed typeName then noChanges
          else "ALTER DOMAIN " ++ d.identifier name ++ "\nTYPE " ++
            (Column.sparse name typeName).typeText d ++ ";\n") := by
  have hbetween := ChangeFlags.between_sparse name typeName
  refine ⟨Column.read_sparse name typeName .plain, ?_, fun hname => ?_⟩
  · rw [hbetween]
    by_cases h : TypeCode.IsListed typeName <;> simp [ChangeFlags.isEmpty, h]
  · have hnamed : ∀ column : Column, column.name = some name → column.hasName = true := by
      intro column hcolumn
      simp [Column.hasName, hcolumn, Text.given, Option.filter, hname]
    have hback := (ChangeFlags.between_comm _ _).trans hbetween
    have hlabel : (Column.ofType name typeName).label = name := rfl
    have hlabel' : (Column.sparse name typeName).label = name := rfl
    refine ⟨_, ?_, ?_, rfl⟩
    · rw [alter_of_between_eq (hnamed _ rfl) hbetween, hlabel]
      by_cases h : TypeCode.IsListed typeName <;> simp [h]
    · rw [alter_of_between_eq (hnamed _ rfl) hback, hlabel', Column.typeText_ofType]
      by_cases h : TypeCode.IsListed typeName <;> simp [h]

/-- A type that is listed, in small letters and with a size. -/
theorem alter_ofType_sparse_code :
    alter {} (.ofType "D_CODE" "varchar(20)") (.sparse "D_CODE" "varchar(20)") = .ok noChanges := by
  obtain ⟨-, -, hscript⟩ := alter_ofType_sparse {} "D_CODE" "varchar(20)"
  obtain ⟨script, hthere, -, htext⟩ := hscript (by decide)
  rw [hthere, htext, if_pos (by decide)]

/-- A type that is not listed, and is set to what it was. -/
theorem alter_ofType_sparse_shape :
    (ChangeFlags.between (.ofType "D_SHAPE" "GEOMETRY") (.sparse "D_SHAPE" "GEOMETRY")).isEmpty =
        false ∧
      alter {} (.ofType "D_SHAPE" "GEOMETRY") (.sparse "D_SHAPE" "GEOMETRY") =
        .ok "ALTER DOMAIN D_SHAPE\nTYPE GEOMETRY;\n" := by
  decide +kernel

end Domain

end SchemaScript
