import SchemaScript.Proofs.Codec.Choice
import SchemaScript.Request.Codec

/-! The codecs of requests, and of all that requests carry, are lawful. The laws of the fields stand
in the order of the declaration, and the depth counts the containers around the innermost field. -/

namespace SchemaScript

open Codec (string_lawful bool_lawful int32_lawful int64_lawful timestamp_lawful oneOf_lawful)
open Record (build_lawful)

theorem Codec.optionalString_lawful {depth : Nat} : (Codec.optional .string).Lawful depth :=
  string_lawful.optional fun _ => nofun

open Codec (optionalString_lawful)

/-! ### Columns -/

theorem DefaultValue.codec_lawful : DefaultValue.codec.Lawful 1 :=
  Record.Lawful.codec (build_lawful |>.field optionalString_lawful |>.field bool_lawful)
    (by decide) _

theorem Autoincrement.codec_lawful : Autoincrement.codec.Lawful 1 :=
  Record.Lawful.codec (build_lawful |>.field bool_lawful |>.field int64_lawful
    |>.field optionalString_lawful |>.field bool_lawful |>.field optionalString_lawful)
    (by decide) _

theorem Cursor.codec_lawful : Cursor.codec.Lawful 1 :=
  Record.Lawful.codec (build_lawful |>.field bool_lawful |>.field string_lawful) (by decide) _

theorem ChangeFlags.codec_lawful : ChangeFlags.codec.Lawful 1 :=
  Record.Lawful.codec (build_lawful |>.field bool_lawful |>.field bool_lawful |>.field bool_lawful
    |>.field bool_lawful |>.field bool_lawful |>.field bool_lawful) (by decide) _

theorem Direction.codec_lawful {depth : Nat} : Direction.codec.Lawful depth :=
  oneOf_lawful (by decide) fun x => by cases x <;> decide

theorem ColumnReference.record_lawful :
    ∃ keys, ("from" :: keys).Nodup ∧ ColumnReference.record.Lawful id keys 0 :=
  ⟨_, by decide, build_lawful |>.required string_lawful |>.required string_lawful⟩

theorem TypeOf.codec_lawful : TypeOf.tagged.codec.Lawful 1 := by
  obtain ⟨keys, hkeys, hrecord⟩ := ColumnReference.record_lawful
  refine Tagged.codec_lawful (by decide) (fun variant hv => ?_) fun x => ?_
  · simp only [TypeOf.tagged, List.mem_cons, List.not_mem_nil, or_false] at hv
    rcases hv with rfl | rfl
    · exact Variant.ofValue_lawful _ _ _ _
    · refine Variant.ofRecord_lawful hrecord hkeys _ _ fun x y h => ?_
      cases x <;> cases h
      rfl
  · cases x with
    | domain => exact ⟨_, .head _, rfl⟩
    | column reference => exact ⟨_, .tail _ (.head _), rfl⟩

theorem TypeOf.write_ne_null (x : TypeOf) : TypeOf.tagged.codec.write x ≠ .null := by
  cases x <;> exact nofun

theorem Column.record_lawful :
    ∃ keys, ("kind" :: keys).Nodup ∧ Column.record.Lawful id keys 1 :=
  ⟨_, by decide, build_lawful |>.field optionalString_lawful |>.field int32_lawful
    |>.field optionalString_lawful |>.field int32_lawful |>.field int32_lawful
    |>.field int32_lawful |>.field int32_lawful |>.field bool_lawful
    |>.field optionalString_lawful |>.field DefaultValue.codec_lawful
    |>.field optionalString_lawful |>.field optionalString_lawful
    |>.field optionalString_lawful |>.field optionalString_lawful |>.field bool_lawful
    |>.field optionalString_lawful
    |>.field (Autoincrement.codec_lawful.optional fun _ => nofun) |>.field bool_lawful
    |>.field ChangeFlags.codec_lawful |>.field (Cursor.codec_lawful.optional fun _ => nofun)
    |>.field (TypeOf.codec_lawful.optional TypeOf.write_ne_null)
    |>.field Direction.codec_lawful⟩

theorem Column.codec_lawful : Column.codec.Lawful 2 := by
  obtain ⟨keys, hkeys, hrecord⟩ := Column.record_lawful
  exact hrecord.codec (List.nodup_cons.1 hkeys).2 _

/-! ### Tables and routines -/

theorem ConstraintKind.codec_lawful {depth : Nat} : ConstraintKind.codec.Lawful depth :=
  oneOf_lawful (by decide) fun x => by cases x <;> decide

theorem ReferentialAction.codec_lawful {depth : Nat} : ReferentialAction.codec.Lawful depth :=
  oneOf_lawful (by decide) fun x => by cases x <;> decide

theorem SqlSecurity.codec_lawful {depth : Nat} : SqlSecurity.codec.Lawful depth :=
  oneOf_lawful (by decide) fun x => by cases x <;> decide

theorem RowLifetime.codec_lawful {depth : Nat} : RowLifetime.codec.Lawful depth :=
  oneOf_lawful (by decide) fun x => by cases x <;> decide

theorem SqlSecurity.optional_lawful {depth : Nat} :
    (Codec.optional SqlSecurity.codec).Lawful depth :=
  SqlSecurity.codec_lawful.optional fun _ => nofun

theorem Constraint.codec_lawful : Constraint.codec.Lawful 2 :=
  Record.Lawful.codec (build_lawful |>.field optionalString_lawful
    |>.field (ConstraintKind.codec_lawful.optional fun _ => nofun) |>.field string_lawful.list
    |>.field optionalString_lawful |>.field optionalString_lawful |>.field string_lawful.list
    |>.field (ReferentialAction.codec_lawful.optional fun _ => nofun)
    |>.field (ReferentialAction.codec_lawful.optional fun _ => nofun)
    |>.field optionalString_lawful |>.field bool_lawful) (by decide) _

theorem Table.record_lawful : ∃ keys, ("kind" :: keys).Nodup ∧ Table.record.Lawful id keys 3 :=
  ⟨_, by decide, build_lawful |>.field string_lawful |>.field Column.codec_lawful.list
    |>.field Constraint.codec_lawful.list |>.field bool_lawful
    |>.field (RowLifetime.codec_lawful.optional fun _ => nofun) |>.field optionalString_lawful
    |>.field optionalString_lawful |>.field SqlSecurity.optional_lawful
    |>.field optionalString_lawful |>.field optionalString_lawful⟩

theorem Procedure.record_lawful :
    ∃ keys, ("kind" :: keys).Nodup ∧ Procedure.record.Lawful id keys 3 :=
  ⟨_, by decide, build_lawful |>.field string_lawful |>.field Column.codec_lawful.list
    |>.field Column.codec_lawful.list |>.field Column.codec_lawful.list
    |>.field SqlSecurity.optional_lawful |>.field optionalString_lawful
    |>.field optionalString_lawful |>.field optionalString_lawful |>.field string_lawful
    |>.field optionalString_lawful⟩

theorem Function.record_lawful :
    ∃ keys, ("kind" :: keys).Nodup ∧ Function.record.Lawful id keys 3 :=
  ⟨_, by decide, build_lawful |>.field string_lawful |>.field Column.codec_lawful.list
    |>.field Column.codec_lawful.list
    |>.field ((Column.codec_lawful.optional fun _ => nofun).mono (by decide))
    |>.field bool_lawful |>.field SqlSecurity.optional_lawful |>.field optionalString_lawful
    |>.field optionalString_lawful |>.field string_lawful |>.field optionalString_lawful⟩

/-! ### Other objects -/

theorem Trigger.record_lawful :
    ∃ keys, ("kind" :: keys).Nodup ∧ Trigger.record.Lawful id keys 3 :=
  ⟨_, by decide, build_lawful |>.field string_lawful |>.field optionalString_lawful
    |>.field bool_lawful |>.field string_lawful |>.field int32_lawful
    |>.field SqlSecurity.optional_lawful |>.field optionalString_lawful
    |>.field optionalString_lawful |>.field optionalString_lawful
    |>.field optionalString_lawful⟩

theorem View.record_lawful : ∃ keys, ("kind" :: keys).Nodup ∧ View.record.Lawful id keys 3 :=
  ⟨_, by decide, build_lawful |>.field string_lawful |>.field optionalString_lawful
    |>.field string_lawful |>.field bool_lawful |>.field optionalString_lawful⟩

theorem Sequence.record_lawful :
    ∃ keys, ("kind" :: keys).Nodup ∧ Sequence.record.Lawful id keys 3 :=
  ⟨_, by decide, build_lawful |>.field string_lawful |>.field int64_lawful |>.field int64_lawful
    |>.field bool_lawful |>.field optionalString_lawful⟩

theorem User.record_lawful : ∃ keys, ("kind" :: keys).Nodup ∧ User.record.Lawful id keys 1 :=
  ⟨_, by decide, build_lawful |>.field string_lawful |>.field optionalString_lawful
    |>.field optionalString_lawful |>.field optionalString_lawful
    |>.field optionalString_lawful |>.field bool_lawful |>.field bool_lawful
    |>.field optionalString_lawful |>.field string_lawful.dictionary
    |>.field optionalString_lawful⟩

theorem User.codec_lawful : User.codec.Lawful 2 := by
  obtain ⟨keys, hkeys, hrecord⟩ := User.record_lawful
  exact hrecord.codec (List.nodup_cons.1 hkeys).2 _

theorem Collation.record_lawful :
    ∃ keys, ("kind" :: keys).Nodup ∧ Collation.record.Lawful id keys 3 :=
  ⟨_, by decide, build_lawful |>.field string_lawful |>.field string_lawful
    |>.field optionalString_lawful |>.field bool_lawful |>.field bool_lawful
    |>.field bool_lawful |>.field bool_lawful |>.field optionalString_lawful⟩

theorem Tablespace.record_lawful :
    ∃ keys, ("kind" :: keys).Nodup ∧ Tablespace.record.Lawful id keys 3 :=
  ⟨_, by decide, build_lawful |>.field string_lawful |>.field string_lawful⟩

theorem Job.record_lawful : ∃ keys, ("kind" :: keys).Nodup ∧ Job.record.Lawful id keys 3 :=
  ⟨_, by decide, build_lawful |>.field string_lawful |>.field string_lawful |>.field bool_lawful
    |>.field (timestamp_lawful.optional fun _ => nofun)
    |>.field (timestamp_lawful.optional fun _ => nofun)
    |>.field (oneOf_lawful (by decide) fun x => by cases x <;> decide) |>.field string_lawful⟩

/-! ### Edits and row statements -/

theorem ObjectKind.codec_lawful {depth : Nat} : ObjectKind.codec.Lawful depth :=
  oneOf_lawful (by decide) ObjectKind.mem_all

theorem DomainEdit.record_lawful :
    ∃ keys, ("kind" :: keys).Nodup ∧ DomainEdit.record.Lawful id keys 3 :=
  ⟨_, by decide, build_lawful |>.required (Column.codec_lawful.mono (by decide))
    |>.required (Column.codec_lawful.mono (by decide))⟩

theorem TrackedDomain.record_lawful :
    ∃ keys, ("kind" :: keys).Nodup ∧ TrackedDomain.record.Lawful id keys 3 :=
  ⟨_, by decide, build_lawful |>.required string_lawful
    |>.required (Column.codec_lawful.mono (by decide))⟩

theorem UserEdit.record_lawful :
    ∃ keys, ("kind" :: keys).Nodup ∧ UserEdit.record.Lawful id keys 3 :=
  ⟨_, by decide, build_lawful |>.required (User.codec_lawful.mono (by decide))
    |>.required (User.codec_lawful.mono (by decide))⟩

theorem Insert.record_lawful : ∃ keys, ("kind" :: keys).Nodup ∧ Insert.record.Lawful id keys 3 :=
  ⟨_, by decide, build_lawful |>.required string_lawful |>.required string_lawful
    |>.required string_lawful⟩

theorem InsertPlaceholders.record_lawful :
    ∃ keys, ("kind" :: keys).Nodup ∧ InsertPlaceholders.record.Lawful id keys 3 :=
  ⟨_, by decide, build_lawful |>.required string_lawful |>.required string_lawful.list⟩

theorem Update.record_lawful : ∃ keys, ("kind" :: keys).Nodup ∧ Update.record.Lawful id keys 3 :=
  ⟨_, by decide, build_lawful |>.required string_lawful |>.required string_lawful⟩

theorem Select.record_lawful : ∃ keys, ("kind" :: keys).Nodup ∧ Select.record.Lawful id keys 3 :=
  ⟨_, by decide, build_lawful |>.required string_lawful |>.extend string_lawful⟩

theorem CommentRequest.record_lawful :
    ∃ keys, ("kind" :: keys).Nodup ∧ CommentRequest.record.Lawful id keys 3 :=
  ⟨_, by decide, build_lawful |>.required ObjectKind.codec_lawful |>.required string_lawful
    |>.extend optionalString_lawful |>.extend string_lawful⟩

theorem NameRequest.record_lawful :
    ∃ keys, ("kind" :: keys).Nodup ∧ NameRequest.record.Lawful id keys 3 :=
  ⟨_, by decide, build_lawful |>.required ObjectKind.codec_lawful |>.extend string_lawful.list⟩

/-! ### Requests -/

theorem Variant.Lawful.ofClosed {α ρ : Type} {record : Record ρ ρ} {key tag title : String}
    {n depth : Nat} {wrap : ρ → α} {unwrap? : α → Option ρ}
    (h : ∃ keys, (key :: keys).Nodup ∧ record.Lawful id keys n) (hn : n ≤ depth)
    (hw : ∀ x y, unwrap? x = some y → wrap y = x) :
    (Variant.ofRecord tag title record wrap unwrap?).Lawful key depth := by
  obtain ⟨keys, hkeys, hrecord⟩ := h
  exact Variant.ofRecord_lawful (hrecord.mono hn) hkeys tag title hw

namespace Request

theorem variants_lawful : ∀ variant ∈ tagged.variants, variant.Lawful tagged.key 3 := by
  simp only [tagged, List.forall_mem_cons, List.not_mem_nil, false_implies, implies_true, and_true]
  refine ⟨.ofClosed Table.record_lawful (by decide) ?_,
    .ofClosed Column.record_lawful (by decide) ?_,
    .ofClosed DomainEdit.record_lawful (by decide) ?_,
    .ofClosed TrackedDomain.record_lawful (by decide) ?_,
    .ofClosed Procedure.record_lawful (by decide) ?_,
    .ofClosed Function.record_lawful (by decide) ?_,
    .ofClosed Trigger.record_lawful (by decide) ?_,
    .ofClosed View.record_lawful (by decide) ?_,
    .ofClosed Sequence.record_lawful (by decide) ?_,
    .ofClosed User.record_lawful (by decide) ?_,
    .ofClosed UserEdit.record_lawful (by decide) ?_,
    .ofClosed Collation.record_lawful (by decide) ?_,
    .ofClosed Tablespace.record_lawful (by decide) ?_,
    .ofClosed Job.record_lawful (by decide) ?_,
    .ofClosed Insert.record_lawful (by decide) ?_,
    .ofClosed InsertPlaceholders.record_lawful (by decide) ?_,
    .ofClosed Update.record_lawful (by decide) ?_,
    .ofClosed Select.record_lawful (by decide) ?_,
    .ofClosed CommentRequest.record_lawful (by decide) ?_,
    .ofClosed NameRequest.record_lawful (by decide) ?_⟩
  -- What a case takes out of a request, it wraps into that request.
  all_goals
    intro x y h
    cases x <;> cases h
    rfl

theorem exists_variant (x : Request) : ∃ variant ∈ tagged.variants, (variant.write x).isSome :=
  List.any_eq_true.1 (by cases x <;> rfl)

theorem codec_lawful : codec.Lawful 4 :=
  Tagged.codec_lawful (by decide) variants_lawful exists_variant

end Request

end SchemaScript
